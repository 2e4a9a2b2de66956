import StockAiPlatform.Broker.ExecutorRuns
import StockAiPlatform.Transaction.Run
import StockAiPlatform.Transaction.Scope

/-! # Which orders reach a live transport

Whatever is in a session's log went to a live transport, for the fake one
leaves no exchange. A dry-run call places on the transport it was built with,
and an attempt that failed in any way, or whose row was rolled back, makes room
for the next one.
-/

namespace StockAiPlatform
set_option autoImplicit false

open Transaction Python

def isPlacement : Exchanged → Bool
  | ⟨.placeOrder _ _, _⟩ => true
  | ⟨.queryFillStatus _ _, _⟩ => false

def placements (log : List Exchanged) : List Exchanged := log.filter isPlacement

theorem length_placements_append (log : List Exchanged) (transport : Nat) (request : KisOrderRequest)
    (reply : Except PyError KisOrderResult) :
    (placements (log ++ [⟨.placeOrder transport request, reply⟩])).length =
      (placements log).length + 1 := by
  rw [placements, List.filter_append, List.length_append]
  rfl

namespace ExecuteCall

open RealOrderExecutor

variable {call : ExecuteCall} {s : DbSession} {candidate : OrderCandidate}

theorem log_step (call : ExecuteCall) (s : DbSession) :
    (∃ candidate transport, call.placement s.view = some (candidate, .live transport) ∧
      (call.step s).log = s.log ++ [⟨.placeOrder transport (call.request candidate),
        call.answer (.placeOrder transport (call.request candidate))⟩]) ∨
    ((∀ candidate transport, call.placement s.view ≠ some (candidate, .live transport)) ∧
      (call.step s).log = s.log) := by
  cases hPlacement : call.placement s.view with
  | none =>
    rw [step_refused hPlacement]
    exact .inr ⟨by simp, rfl⟩
  | some pair =>
    obtain ⟨candidate, transport⟩ := pair
    have hLog := (run_placed hPlacement).log
    cases transport with
    | fake => exact .inr ⟨by simp, hLog⟩
    | live transport => exact .inl ⟨candidate, transport, rfl, hLog⟩

theorem length_placements_step (call : ExecuteCall) (s : DbSession) :
    (placements s.log).length ≤ (placements (call.step s).log).length := by
  rcases log_step call s with ⟨_, _, -, hLog⟩ | ⟨-, hLog⟩
  · rw [hLog, length_placements_append]
    exact Nat.le_succ _
  · rw [hLog]

/-- The call cannot reach a live broker: it was built with the fake transport, or a gate refuses. -/
def DryIsolated (call : ExecuteCall) (s : DbSession) : Prop :=
  call.executor.injected.isFake = true ∨
    admitted call.ambient call.settings call.candidateId s.view = none

theorem dryIsolated_iff (hDry : call.settings.realOrderDryRun = true) :
    (placements (call.step s).log).length = (placements s.log).length ↔ DryIsolated call s := by
  have hTransport : call.transport? = some call.executor.injected := by
    rw [transport?, if_pos hDry]
  rcases log_step call s with ⟨candidate, transport, hPlacement, hLog⟩ | ⟨hNone, hLog⟩
  · obtain ⟨hAdmitted, hLive⟩ := placement_eq_some_iff.mp hPlacement
    have hInjected : call.executor.injected = .live transport :=
      Option.some.inj (hTransport.symm.trans hLive)
    constructor
    · intro hLength
      rw [hLog, length_placements_append] at hLength
      omega
    · rintro (hFake | hRefused)
      · rw [hInjected] at hFake
        contradiction
      · rw [hAdmitted] at hRefused
        contradiction
  · refine ⟨fun _ => ?_, fun _ => by rw [hLog]⟩
    cases hAdmitted : admitted call.ambient call.settings call.candidateId s.view with
    | none => exact .inr hAdmitted
    | some candidate =>
      cases hInjected : call.executor.injected with
      | fake => exact .inl (by rw [hInjected]; rfl)
      | live transport =>
        rw [hInjected] at hTransport
        exact absurd (placement_eq_some_iff.mpr ⟨hAdmitted, hTransport⟩) (hNone candidate transport)

/-- Over every run of dry-run calls, no order request reaches a live transport exactly when each
call was built with the fake transport or is refused by a gate. -/
theorem no_placement_iff_dryIsolated (calls : List ExecuteCall) (db : Database)
    (hDry : ∀ call ∈ calls, call.settings.realOrderDryRun = true) :
    placements (Transaction.run step calls (.opened db)).log = [] ↔
      Along step DryIsolated calls (.opened db) := by
  have hRun := measure_run_eq_iff (fun s : DbSession => (placements s.log).length)
    length_placements_step calls (.opened db)
  have hNone : (placements (Session.opened db : DbSession).log).length = 0 := rfl
  rw [hNone, List.length_eq_zero_iff] at hRun
  refine hRun.trans (along_congr (fun _ => True) ?_ (fun _ _ _ _ _ => trivial) trivial)
  exact fun call hMem s _ => dryIsolated_iff (hDry call hMem)

theorem dryRun_places_live :
    (∀ call ∈ [liveCall (openSettings true true) 1 (.ok ⟨true, "1", "SUBMITTED"⟩)],
      call.settings.realOrderDryRun = true) ∧
    placements (Transaction.run step
      [liveCall (openSettings true true) 1 (.ok ⟨true, "1", "SUBMITTED"⟩)]
      (.opened (approvedDatabase [approvedCandidate 1 "005930" 700]))).log ≠ [] := by
  refine ⟨by simp [liveCall, openSettings], ?_⟩
  intro hNone
  have hLength := congrArg List.length hNone
  revert hLength
  decide +kernel

theorem dryRun_fake_isolated :
    placements (Transaction.run step
        [{ liveCall (openSettings true true) 1 (.ok ⟨true, "1", "SUBMITTED"⟩) with
          executor := { transport := none, realTransportFactory := none } }]
        (.opened (approvedDatabase [approvedCandidate 1 "005930" 700]))).log = [] ↔
      Along step DryIsolated
        [{ liveCall (openSettings true true) 1 (.ok ⟨true, "1", "SUBMITTED"⟩) with
          executor := { transport := none, realTransportFactory := none } }]
        (.opened (approvedDatabase [approvedCandidate 1 "005930" 700])) :=
  no_placement_iff_dryIsolated _ _ (by simp [liveCall, openSettings])

end ExecuteCall

/-- The exchange may have left an order at the broker: nothing in it proves a refusal. -/
def mayHaveArrived : Exchanged → Bool
  | ⟨.placeOrder _ _, .error _⟩ => true
  | ⟨.placeOrder _ _, .ok kisResult⟩ => classifyPlaceMessage kisResult.message != .rejected
  | ⟨.queryFillStatus _ _, _⟩ => false

/-- At most one placement may have arrived, and after it there is no other. -/
def AtMostOneLive (log : List Exchanged) : Prop :=
  (log.filter mayHaveArrived).length ≤ 1 ∧
    log.Pairwise fun earlier later => mayHaveArrived earlier = true → isPlacement later = false

/-- A call, and what its caller does with the session if it returns. -/
structure Attempt where
  call : ExecuteCall
  ending : Ending

/-- What a call placed, if a row that keeps gate 2 shut was added for it. -/
def ExecuteCall.kept (call : ExecuteCall) (s : DbSession) : List Exchanged :=
  if ((call.step s).view.realOrders.rows.drop s.view.realOrders.rows.length).any
      fun order => order.status.isNonFailed then
    placements ((call.step s).log.drop s.log.length)
  else []

/-- A session over attempts. The note is what they placed whose rows, in another status than
FAILED, the session sees. -/
abbrev AttemptWatch := Noted Database Request Reply (List Exchanged)

namespace Attempt

open ExecuteCall

def step (attempt : Attempt) (w : AttemptWatch) : AttemptWatch :=
  w.leave (attempt.call.run w.session) (w.note ++ attempt.call.kept w.session) attempt.ending

/-- At most one placement is kept, and its row shuts gate 2 for the candidate. -/
structure KeepsOne (k : Nat) (db : Database) (kept : List Exchanged) : Prop where
  atMostOne : kept.length ≤ 1
  shut : kept ≠ [] → RealOrderRepository.hasNonFailed k db = true

variable {call : ExecuteCall} {s : DbSession} {k : Nat}

theorem placement_of_hasNonFailed
    (h : RealOrderRepository.hasNonFailed call.candidateId s.view = true) :
    call.placement s.view = none := by
  cases hPlacement : call.placement s.view with
  | none => rfl
  | some pair =>
    obtain ⟨hAdmitted, -⟩ := placement_eq_some_iff.mp hPlacement
    have hOpen := RealOrderExecutor.hasNonFailed_of_passesGates
      (RealOrderExecutor.admitted_eq_some_iff.mp hAdmitted).2
    rw [RealOrderExecutor.id_of_admitted hAdmitted, h] at hOpen
    cases hOpen

theorem kept_of_refused (h : call.placement s.view = none) : call.kept s = [] := by
  rw [kept, step_refused h, List.drop_length]
  rfl

theorem length_kept_le (call : ExecuteCall) (s : DbSession) : (call.kept s).length ≤ 1 := by
  have hNew : (placements ((call.step s).log.drop s.log.length)).length ≤ 1 := by
    refine (List.length_filter_le _ _).trans ?_
    rcases log_step call s with ⟨candidate, transport, -, hLog⟩ | ⟨-, hLog⟩
    · rw [hLog, List.drop_left]
      exact le_refl 1
    · rw [hLog, List.drop_length]
      exact Nat.zero_le 1
  rw [kept]
  split
  · exact hNew
  · exact Nat.zero_le 1

theorem keepsOne_run (hCandidate : call.candidateId = k) {kept : List Exchanged}
    (h : KeepsOne k s.view kept) {result : ExecutorResult} (hOk : (call.run s).1 = .ok result) :
    KeepsOne k (call.step s).view (kept ++ call.kept s) := by
  cases hPlacement : call.placement s.view with
  | none =>
    rw [kept_of_refused hPlacement, List.append_nil, step_refused hPlacement]
    exact h
  | some pair =>
    obtain ⟨candidate, transport⟩ := pair
    have hNone : kept = [] := by
      by_contra hKept
      rw [placement_of_hasNonFailed (hCandidate ▸ h.shut hKept)] at hPlacement
      cases hPlacement
    obtain ⟨row, hRow, hRecorded⟩ := recorded_of_returned hPlacement hOk
    rw [hNone, List.nil_append]
    refine ⟨length_kept_le call s, fun hKept => ?_⟩
    rw [ExecuteCall.kept, hRecorded.rows, List.drop_left] at hKept
    have hOpen : row.status.isNonFailed = true := by simpa using (ite_ne_right_iff.mp hKept).1
    have hAdmitted := (placement_eq_some_iff.mp hPlacement).1
    have hId := (RealOrderExecutor.id_of_admitted hAdmitted).trans hCandidate
    rw [RealOrderRepository.hasNonFailed, List.any_eq_true]
    refine ⟨row, hRecorded.rows ▸ List.mem_append_right _ (List.mem_singleton_self row), ?_⟩
    simp [(settled_keeps hRow).2.1, hId, hOpen]

theorem durable_run (call : ExecuteCall) (s : DbSession) : (call.run s).2.durable = s.durable := by
  cases hPlacement : call.placement s.view with
  | none =>
    obtain ⟨result, -, hRun⟩ := run_refused hPlacement
    rw [hRun]
  | some pair => exact (run_placed hPlacement).durable

theorem keepsOne_step {attempt : Attempt} (hCandidate : attempt.call.candidateId = k)
    {w : AttemptWatch} (h : w.Holds (KeepsOne k)) : (attempt.step w).Holds (KeepsOne k) :=
  h.leave (durable_run attempt.call w.session)
    (fun _ hOk => keepsOne_run hCandidate h.seen hOk) attempt.ending

/-- Over every run of attempts on one candidate, at most one of the placements on record has
another status than FAILED, and while it is on record nothing is placed. -/
theorem keepsOne_of_attempts (k : Nat) (attempts : List Attempt) (db : Database)
    (hCandidate : ∀ attempt ∈ attempts, attempt.call.candidateId = k) :
    (Transaction.run step attempts (.opened db [])).note.length ≤ 1 ∧
    ((Transaction.run step attempts (.opened db [])).note ≠ [] →
      ∀ call : ExecuteCall, call.candidateId = k →
        (call.step (Transaction.run step attempts (.opened db [])).session).log =
          (Transaction.run step attempts (.opened db [])).session.log) := by
  have hStart : (Noted.opened db [] : AttemptWatch).Holds (KeepsOne k) :=
    Noted.holds_opened ⟨Nat.zero_le 1, fun h => absurd rfl h⟩
  have hKeeps := Along.invariant (fun w : AttemptWatch => w.Holds (KeepsOne k))
    (fun attempt w hSame h => keepsOne_step hSame h)
    (Along.of_forall (fun attempt hMem _ => hCandidate attempt hMem) _) hStart
  refine ⟨hKeeps.seen.atMostOne, fun hKept call hSame => ?_⟩
  rw [step_refused (placement_of_hasNonFailed (hSame ▸ hKeeps.seen.shut hKept))]

theorem keepsOne_of_attempts_refusedFirst :
    let attempts : List Attempt :=
      [⟨liveCall (openSettings false true) 1 (.ok ⟨false, "", "REJECTED: no cash"⟩), .commits⟩,
        ⟨liveCall (openSettings false true) 1 (.ok ⟨true, "1", "SUBMITTED"⟩), .commits⟩,
        ⟨liveCall (openSettings false true) 1 (.ok ⟨true, "2", "SUBMITTED"⟩), .commits⟩]
    let after := Transaction.run step attempts
      (.opened (approvedDatabase [approvedCandidate 1 "005930" 700]) [])
    after.note ≠ [] ∧ after.note.length ≤ 1 := by
  intro attempts after
  refine ⟨?_, (keepsOne_of_attempts 1 attempts _ (by simp [attempts, liveCall])).1⟩
  rw [← List.length_pos_iff]
  decide +kernel

/-- After a timeout that is committed as FAILED, the next call places the same order again. -/
theorem timeoutThenSubmitted_twice :
    let attempts : List Attempt :=
      [⟨liveCall (openSettings false true) 1 (.ok ⟨false, "", "TIMEOUT: read timed out"⟩), .commits⟩,
        ⟨liveCall (openSettings false true) 1 (.ok ⟨true, "1", "SUBMITTED"⟩), .commits⟩]
    (∀ attempt ∈ attempts, attempt.call.candidateId = 1) ∧
    ¬ AtMostOneLive (Transaction.run step attempts (.opened
      (approvedDatabase [approvedCandidate 1 "005930" 700]) [])).session.log := by
  refine ⟨by simp [liveCall], fun hAtMost => absurd hAtMost.1 ?_⟩
  decide +kernel

end Attempt

end StockAiPlatform
