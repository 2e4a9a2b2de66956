import StockAiPlatform.Broker.PlacementSafety

/-! # What survives a crash of the executor

The anchor row of a real order is flushed before the broker is asked, and a
flush is not a commit. No step of a call commits, so at every point at which
it can be cut off the store is what it was before the call.
-/

namespace StockAiPlatform
set_option autoImplicit false

open Transaction Python

namespace RealOrderExecutor

open Program

theorem commitFree_checkGates (ambient : Ambient) (settings : Settings) (candidateId : Nat) :
    (checkGates ambient settings candidateId).CommitFree := by
  unfold checkGates
  refine (commitFree_query _ _).bind fun found => ?_
  cases found with
  | none => trivial
  | some candidate =>
    refine .ite trivial ((commitFree_query _ _).bind fun active => ?_)
    refine .ite ((commitFree_query _ _).bind fun _ => trivial) ?_
    refine .ite trivial (.ite trivial (.ite trivial (.ite trivial (.ite trivial ?_))))
    refine (commitFree_query _ _).bind fun todayTotal => .ite trivial ?_
    exact (commitFree_query _ _).bind fun riskResult => .ite trivial trivial

theorem commitFree_recordOutcome (ambient : Ambient) (candidate : OrderCandidate)
    (order : RealOrder) (kisResult : KisOrderResult) :
    (recordOutcome ambient candidate order kisResult).CommitFree := by
  have hAppend := ApprovalAuditLogRepository.commitFree_append
  have hUpdate := RealOrderRepository.commitFree_updateStatus
  have hMark : ∀ code message,
      (RealOrderRepository.markFailed ambient.onSqlite ambient.substrings order code
        message).CommitFree := by
    intro code message
    unfold RealOrderRepository.markFailed
    simp only
    split
    · trivial
    · refine (hUpdate _ _).bind fun _ => ?_
      split
      · trivial
      · exact (commitFree_modify _).bind fun _ => trivial
  have hFailed : ∀ classification,
      (recordFailed ambient candidate order classification kisResult).CommitFree :=
    fun classification => (hMark _ _).bind fun _ => (hAppend _).bind fun _ => trivial
  unfold recordOutcome
  split
  · refine (commitFree_ofExcept _).bind fun _ => CommitFree.bind ?_ fun _ =>
      (hAppend _).bind fun _ => trivial
    exact (hUpdate _ _).bind fun _ => (commitFree_modify _).bind fun _ => trivial
  · exact hFailed _

theorem commitFree_execute (executor : RealOrderExecutor) (ambient : Ambient) (settings : Settings)
    (candidateId : Nat) : (execute executor ambient settings candidateId).CommitFree := by
  refine (commitFree_checkGates ambient settings candidateId).bind fun gates => ?_
  cases gates with
  | error refusal => trivial
  | ok candidate =>
    refine .ite ?_ ?_
    · exact (commitFree_placeOrder _ _ _).bind fun _ => (commitFree_ofExcept _).bind fun _ =>
        (RealOrderRepository.commitFree_create _ _).bind fun _ => trivial
    · cases resolveRealTransport executor settings with
      | none => trivial
      | some transport =>
        exact (RealOrderRepository.commitFree_create _ _).bind fun order =>
          (commitFree_placeOrder _ _ _).bind fun kisResult => commitFree_recordOutcome ..

end RealOrderExecutor

namespace ExecuteCall

open RealOrderExecutor

variable {call : ExecuteCall} {s : DbSession}

/-- The points at which the process can stop or an exception can leave the call. -/
def points (call : ExecuteCall) (s : DbSession) : List DbSession :=
  (execute call.executor call.ambient call.settings call.candidateId).trail call.answer s

/-- Between `s` and `t` an order request went to a live broker. -/
def Issued (s t : DbSession) : Prop :=
  ∃ exchange ∈ t.log.drop s.log.length, isPlacement exchange = true

def placesLive (call : ExecuteCall) (s : DbSession) : Prop :=
  ∃ candidate transport, call.placement s.view = some (candidate, .live transport)

def HasAnchor (candidateId : Nat) (db : Database) : Prop :=
  ∃ order ∈ db.realOrders.rows, order.candidateId = candidateId

theorem durable_of_mem_points {t : DbSession} (h : t ∈ call.points s) : t.durable = s.durable :=
  (commitFree_execute call.executor call.ambient call.settings call.candidateId).durable_eq
    call.answer h

theorem step_mem_points : call.step s ∈ call.points s := Program.exec_mem_trail ..

theorem placesLive_of_issued {t : DbSession} (hMem : t ∈ call.points s) (hIssued : Issued s t) :
    call.placesLive s := by
  obtain ⟨exchange, hExchange, -⟩ := hIssued
  rcases log_step call s with ⟨candidate, transport, hPlacement, -⟩ | ⟨-, hLog⟩
  · exact ⟨candidate, transport, hPlacement⟩
  · have hPrefix : t.log <+: (call.step s).log := Program.log_prefix_of_mem_trail _ _ _ _ hMem
    have hLength := hPrefix.length_le
    rw [hLog] at hLength
    rw [List.drop_eq_nil_of_le hLength] at hExchange
    exact absurd hExchange List.not_mem_nil

theorem issued_step (h : call.placesLive s) : Issued s (call.step s) := by
  obtain ⟨candidate, transport, hPlacement⟩ := h
  rcases log_step call s with ⟨candidate', transport', -, hLog⟩ | ⟨hNone, -⟩
  · exact ⟨_, by rw [hLog, List.drop_left]; exact List.mem_singleton_self _, rfl⟩
  · exact absurd hPlacement (hNone candidate transport)

/-- Whatever a call promises of the committed store once its request is out, the store had to
meet already before the call. -/
theorem forall_issued_iff (P : Database → Prop) :
    (∀ t ∈ call.points s, Issued s t → P t.durable) ↔ (call.placesLive s → P s.durable) := by
  constructor
  · intro h hLive
    have hAnchored := h (call.step s) step_mem_points (issued_step hLive)
    rwa [durable_of_mem_points step_mem_points] at hAnchored
  · intro h t hMem hIssued
    rw [durable_of_mem_points hMem]
    exact h (placesLive_of_issued hMem hIssued)

/-- A call keeps a committed row of its candidate, or one that shuts gate 2, behind every request
it issues exactly when it issues none or the store held such a row before. -/
theorem anchored_iff (call : ExecuteCall) (s : DbSession) :
    ((∀ t ∈ call.points s, Issued s t → HasAnchor call.candidateId t.durable) ↔
      (call.placesLive s → HasAnchor call.candidateId s.durable)) ∧
    ((∀ t ∈ call.points s, Issued s t →
        RealOrderRepository.hasNonFailed call.candidateId t.durable = true) ↔
      (call.placesLive s → RealOrderRepository.hasNonFailed call.candidateId s.durable = true)) :=
  ⟨forall_issued_iff (HasAnchor call.candidateId),
    forall_issued_iff fun db => RealOrderRepository.hasNonFailed call.candidateId db = true⟩

/-- A first submission whose process stops right after it leaves no row behind. -/
theorem submitted_unanchored :
    ¬ ∀ t ∈ (liveCall (openSettings false true) 1 (.ok ⟨true, "1", "SUBMITTED"⟩)).points
        (.opened (approvedDatabase [approvedCandidate 1 "005930" 700])),
      Issued (.opened (approvedDatabase [approvedCandidate 1 "005930" 700])) t →
        HasAnchor 1 t.durable := by
  intro h
  obtain ⟨order, hMem, -⟩ := h _ step_mem_points (List.any_eq_true.mp (by decide +kernel))
  rw [durable_of_mem_points step_mem_points] at hMem
  exact absurd hMem List.not_mem_nil

end ExecuteCall

end StockAiPlatform
