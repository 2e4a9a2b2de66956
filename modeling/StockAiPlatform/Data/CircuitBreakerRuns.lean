import StockAiPlatform.Data.ProviderResilience
import StockAiPlatform.Transaction.Run
import Mathlib.Tactic.Linarith

/-! # Runs of a circuit breaker

What happened in a run is recorded beside the breaker, from the calls it let
through. Its state, its count and its opening time can be told from the record
alone, and with them which call goes through next.
-/

namespace StockAiPlatform.Providers
set_option autoImplicit false

open Transaction

variable {ε β : Type}

inductive Operation (ε β : Type) where
  | call (readings : Readings) (outcome : Except ε (ProviderCallResult β))
  | reset

/-- What an operation came to. `left` is the state an invocation left the breaker in. -/
inductive Happening (ε β : Type) where
  | reset
  | fastFailed
  | invoked (outcome : Except ε (ProviderCallResult β)) (left : CircuitBreakerState) (after : ℚ)

/-- Failed invocations since the last success or reset. One that raised is neither. -/
def streak : List (Happening ε β) → Nat
  | [] => 0
  | .reset :: _ => 0
  | .fastFailed :: earlier => streak earlier
  | .invoked (.error _) _ _ :: earlier => streak earlier
  | .invoked (.ok result) _ _ :: earlier => if result.success then 0 else streak earlier + 1

/-- When the last failed invocation that opened the breaker was over. -/
def lastOpening : List (Happening ε β) → Option ℚ
  | [] => none
  | .invoked (.ok result) .opened after :: earlier =>
    if result.success then lastOpening earlier else some after
  | _ :: earlier => lastOpening earlier

/-- A breaker and what happened to it, the newest first. -/
structure BreakerRun (ε β : Type) where
  breaker : CircuitBreaker
  history : List (Happening ε β)

/-- A function with a given outcome, and the count of its invocations. -/
def countedOutcome (outcome : Except ε (ProviderCallResult β)) (invocations : Nat) :
    Except ε (ProviderCallResult β) × Nat := (outcome, invocations + 1)

def CircuitBreaker.callOnce (breaker : CircuitBreaker) (readings : Readings)
    (outcome : Except ε (ProviderCallResult β)) :
    Except ε (ProviderCallResult β) × CircuitBreaker × Nat :=
  breaker.call readings (countedOutcome outcome) 0

def operate : Operation ε β → BreakerRun ε β → BreakerRun ε β
  | .reset, run => ⟨run.breaker.reset, .reset :: run.history⟩
  | .call readings outcome, run =>
    let (_, breaker, invocations) := run.breaker.callOnce readings outcome
    if invocations = 0 then ⟨breaker, .fastFailed :: run.history⟩
    else ⟨breaker, .invoked outcome breaker.state readings.after :: run.history⟩

def readingsOf : Operation ε β → List ℚ
  | .call readings _ => [readings.entry, readings.after]
  | .reset => []

/-- Every reading of the clock in a run, in order. -/
def clockOf (operations : List (Operation ε β)) : List ℚ := operations.flatMap readingsOf

def freshRun (failureThreshold : Int) (resetTimeoutS : ℚ) (name : String) : BreakerRun ε β :=
  ⟨{ failureThreshold, resetTimeoutS, name }, []⟩

/-- The breaker is closed as long as fewer invocations in a row have failed than it tolerates. -/
structure StateLaw (run : BreakerRun ε β) : Prop where
  notClosed_iff : run.breaker.state ≠ .closed ↔
    run.breaker.failureThreshold ≤ streak run.history

/-- What the next call does. -/
structure CallLaw (run : BreakerRun ε β) (readings : Readings)
    (outcome : Except ε (ProviderCallResult β)) : Prop where
  invoked_iff : (run.breaker.callOnce readings outcome).2.2 = 1 ↔ run.breaker.state = .closed ∨
    ∃ opening, lastOpening run.history = some opening ∧
      run.breaker.resetTimeoutS ≤ readings.entry - opening
  fastFailed_iff : (run.breaker.callOnce readings outcome).2.2 = 0 ↔
    ¬ (run.breaker.callOnce readings outcome).2.2 = 1
  closes : ∀ result, outcome = .ok result → result.success = true →
    (run.breaker.callOnce readings outcome).2.2 = 1 →
      (run.breaker.callOnce readings outcome).2.1.state = .closed
  keeps : (run.breaker.callOnce readings outcome).2.2 = 0 →
    (run.breaker.callOnce readings outcome).2.1.failureCount = run.breaker.failureCount ∧
      (run.breaker.callOnce readings outcome).2.1.openedAt = run.breaker.openedAt

section Calls

variable {breaker : CircuitBreaker} {readings : Readings}
  {outcome : Except ε (ProviderCallResult β)} {result : ProviderCallResult β} {now : ℚ}

theorem tryReset_of_timedOut (hState : breaker.state = .opened) (h : breaker.timedOut now = true) :
    breaker.tryReset now = { breaker with state := .halfOpen } := if_pos ⟨hState, h⟩

theorem tryReset_of_not (h : ¬ (breaker.state = .opened ∧ breaker.timedOut now = true)) :
    breaker.tryReset now = breaker := if_neg h

theorem tryReset_failureCount : (breaker.tryReset now).failureCount = breaker.failureCount := by
  rw [CircuitBreaker.tryReset]
  split <;> rfl

theorem tryReset_openedAt : (breaker.tryReset now).openedAt = breaker.openedAt := by
  rw [CircuitBreaker.tryReset]
  split <;> rfl

theorem tryReset_opened_iff : (breaker.tryReset now).state = .opened ↔
    breaker.state = .opened ∧ breaker.timedOut now = false := by
  by_cases h : breaker.state = .opened ∧ breaker.timedOut now = true
  · rw [tryReset_of_timedOut h.1 h.2, h.2]
    simp
  · rw [tryReset_of_not h]
    grind

theorem callOnce_of_opened (h : (breaker.tryReset readings.entry).state = .opened) :
    (breaker.callOnce readings outcome).2 = (breaker.tryReset readings.entry, 0) := by
  rw [CircuitBreaker.callOnce, CircuitBreaker.call]
  exact congrArg Prod.snd (if_pos h)

theorem callOnce_ok (h : (breaker.tryReset readings.entry).state ≠ .opened) :
    (breaker.callOnce readings (.ok result : Except ε _)).2 =
      ((breaker.tryReset readings.entry).settle result readings.after, 1) := by
  rw [CircuitBreaker.callOnce, CircuitBreaker.call]
  exact congrArg Prod.snd (if_neg h)

theorem callOnce_error {error : ε} (h : (breaker.tryReset readings.entry).state ≠ .opened) :
    (breaker.callOnce readings (.error error : Except ε (ProviderCallResult β))).2 =
      (breaker.tryReset readings.entry, 1) := by
  rw [CircuitBreaker.callOnce, CircuitBreaker.call]
  exact congrArg Prod.snd (if_neg h)

/-- A call goes through unless the breaker is still open on entry. -/
theorem callOnce_invocations :
    (breaker.callOnce readings outcome).2.2 =
      if (breaker.tryReset readings.entry).state = .opened then 0 else 1 := by
  by_cases h : (breaker.tryReset readings.entry).state = .opened
  · rw [if_pos h, callOnce_of_opened h]
  · rw [if_neg h]
    cases outcome with
    | error error => rw [callOnce_error h]
    | ok result => rw [callOnce_ok h]

theorem settle_of_success (h : result.success = true) :
    breaker.settle result now = breaker.reset := if_pos h

theorem settle_of_opening (h : result.success = false)
    (hOpens : breaker.state = .halfOpen ∨ breaker.failureThreshold ≤ (breaker.failureCount + 1 : Nat)) :
    breaker.settle result now = { breaker with
      failureCount := breaker.failureCount + 1, state := .opened, openedAt := some now } := by
  rw [CircuitBreaker.settle, h]
  exact if_pos hOpens

theorem settle_of_counting (h : result.success = false) (hProbe : breaker.state ≠ .halfOpen)
    (hBelow : ¬ breaker.failureThreshold ≤ (breaker.failureCount + 1 : Nat)) :
    breaker.settle result now = { breaker with failureCount := breaker.failureCount + 1 } := by
  rw [CircuitBreaker.settle, h]
  exact if_neg (not_or.mpr ⟨hProbe, hBelow⟩)

variable {history : List (Happening ε β)}

theorem operate_of_opened (h : (breaker.tryReset readings.entry).state = .opened) :
    operate (.call readings outcome) ⟨breaker, history⟩ =
      ⟨breaker.tryReset readings.entry, .fastFailed :: history⟩ := by
  simp only [operate, callOnce_of_opened h, if_true]

theorem operate_ok (h : (breaker.tryReset readings.entry).state ≠ .opened) :
    operate (.call readings (.ok result)) (⟨breaker, history⟩ : BreakerRun ε β) =
      ⟨(breaker.tryReset readings.entry).settle result readings.after,
        .invoked (.ok result) ((breaker.tryReset readings.entry).settle result readings.after).state
          readings.after :: history⟩ := by
  simp only [operate, callOnce_ok h, Nat.one_ne_zero, if_false]

theorem operate_error {error : ε} (h : (breaker.tryReset readings.entry).state ≠ .opened) :
    operate (.call readings (.error error)) (⟨breaker, history⟩ : BreakerRun ε β) =
      ⟨breaker.tryReset readings.entry, .invoked (.error error)
        (breaker.tryReset readings.entry).state readings.after :: history⟩ := by
  simp only [operate, callOnce_error h, Nat.one_ne_zero, if_false]

end Calls

section Invariant

/-- The breaker agrees with the record of its run, whatever the clock will yet read. -/
structure Recorded (future : List ℚ) (run : BreakerRun ε β) : Prop where
  threshold_pos : 1 ≤ run.breaker.failureThreshold
  count_eq : run.breaker.failureCount = streak run.history
  notClosed_iff : run.breaker.state ≠ .closed ↔
    run.breaker.failureThreshold ≤ streak run.history
  opening : run.breaker.state ≠ .closed →
    ∃ opening, run.breaker.openedAt = some opening ∧ lastOpening run.history = some opening
  probing : run.breaker.state = .halfOpen → ∀ now ∈ future, run.breaker.timedOut now = true

variable {breaker : CircuitBreaker} {history : List (Happening ε β)} {future : List ℚ}

theorem timedOut_mono {now later : ℚ} (hLater : now ≤ later) (h : breaker.timedOut now = true) :
    breaker.timedOut later = true := by
  rw [CircuitBreaker.timedOut, Option.any_eq_true] at h ⊢
  obtain ⟨opening, hOpening, hElapsed⟩ := h
  refine ⟨opening, hOpening, decide_eq_true ?_⟩
  have hElapsed := of_decide_eq_true hElapsed
  linarith

theorem recorded_reset (h : Recorded future ⟨breaker, history⟩) :
    Recorded future (⟨breaker.reset, .reset :: history⟩ : BreakerRun ε β) where
  threshold_pos := h.threshold_pos
  count_eq := rfl
  notClosed_iff := by
    have hPos : 1 ≤ breaker.failureThreshold := h.threshold_pos
    refine iff_of_false (not_not_intro rfl) ?_
    simp only [CircuitBreaker.reset, streak]
    omega
  opening hState := absurd rfl hState
  probing hState := nomatch hState

theorem recorded_tryReset {now : ℚ} (h : Recorded (now :: future) ⟨breaker, history⟩)
    (hClock : ∀ later ∈ future, now ≤ later) :
    Recorded future ⟨breaker.tryReset now, history⟩ := by
  by_cases hReset : breaker.state = .opened ∧ breaker.timedOut now = true
  · have hOpened : breaker.state ≠ .closed := by
      rw [hReset.1]
      decide
    rw [tryReset_of_timedOut hReset.1 hReset.2]
    refine ⟨h.threshold_pos, h.count_eq, ?_, fun _ => h.opening hOpened, fun _ later hMem => ?_⟩
    · exact iff_of_true nofun (h.notClosed_iff.mp hOpened)
    · exact timedOut_mono (hClock later hMem) hReset.2
  · rw [tryReset_of_not hReset]
    exact ⟨h.threshold_pos, h.count_eq, h.notClosed_iff, h.opening,
      fun hState later hMem => h.probing hState later (List.mem_cons_of_mem _ hMem)⟩

/-- A fast-failed call and one that raised leave the breaker as it is. -/
theorem recorded_of_same {happening : Happening ε β} (h : Recorded future ⟨breaker, history⟩)
    (hStreak : streak (happening :: history) = streak history)
    (hOpening : lastOpening (happening :: history) = lastOpening history) :
    Recorded future ⟨breaker, happening :: history⟩ := by
  refine ⟨h.threshold_pos, ?_, ?_, ?_, h.probing⟩
  · exact h.count_eq.trans hStreak.symm
  · simp only [hStreak]
    exact h.notClosed_iff
  · simp only [hOpening]
    exact h.opening

section Settle

variable {result : ProviderCallResult β} {now : ℚ} {left : CircuitBreakerState}

theorem streak_of_success (h : result.success = true) :
    streak (.invoked (.ok result) left now :: history : List (Happening ε β)) = 0 := if_pos h

theorem streak_of_failure (h : result.success = false) :
    streak (.invoked (.ok result) left now :: history : List (Happening ε β)) =
      streak history + 1 := if_neg (ne_true_of_eq_false h)

theorem recorded_success (h : Recorded future ⟨breaker, history⟩) (hSuccess : result.success = true) :
    Recorded future (⟨breaker.reset, .invoked (.ok result) left now :: history⟩ :
      BreakerRun ε β) where
  threshold_pos := h.threshold_pos
  count_eq := (streak_of_success hSuccess).symm
  notClosed_iff := by
    refine iff_of_false (not_not_intro rfl) ?_
    simp only [streak_of_success hSuccess]
    exact not_le.mpr h.threshold_pos
  opening hOpen := absurd rfl hOpen
  probing hProbe := nomatch hProbe

/-- A failed probe and the failure that reaches the threshold open the breaker. -/
theorem recorded_opening (h : Recorded future ⟨breaker, history⟩) (hFailed : result.success = false)
    (hOpens : breaker.state = .halfOpen ∨
      breaker.failureThreshold ≤ (breaker.failureCount + 1 : Nat)) :
    Recorded future (⟨{ breaker with
      failureCount := breaker.failureCount + 1, state := .opened, openedAt := some now },
      .invoked (.ok result) .opened now :: history⟩ : BreakerRun ε β) := by
  have hCount : breaker.failureCount = streak history := h.count_eq
  have hReached : breaker.failureThreshold ≤ (streak history + 1 : Nat) := by
    rcases hOpens with hProbe | hReached
    · have hBefore : breaker.failureThreshold ≤ streak history :=
        h.notClosed_iff.mp (by rw [hProbe]; decide)
      omega
    · rw [← hCount]
      exact hReached
  refine ⟨h.threshold_pos, ?_, ?_, fun _ => ⟨now, rfl, if_neg (ne_true_of_eq_false hFailed)⟩,
    fun hProbe => nomatch hProbe⟩
  · rw [streak_of_failure hFailed, ← hCount]
  · rw [streak_of_failure hFailed]
    exact iff_of_true nofun hReached

theorem recorded_counting (h : Recorded future ⟨breaker, history⟩)
    (hFailed : result.success = false) (hClosed : breaker.state = .closed)
    (hBelow : ¬ breaker.failureThreshold ≤ (breaker.failureCount + 1 : Nat)) :
    Recorded future (⟨{ breaker with failureCount := breaker.failureCount + 1 },
      .invoked (.ok result) left now :: history⟩ : BreakerRun ε β) := by
  have hCount : breaker.failureCount = streak history := h.count_eq
  refine ⟨h.threshold_pos, ?_, ?_, fun hOpen => absurd hClosed hOpen, fun hProbe => ?_⟩
  · rw [streak_of_failure hFailed, ← hCount]
  · rw [streak_of_failure hFailed, ← hCount]
    exact iff_of_false (not_not_intro hClosed) hBelow
  · cases hClosed.symm.trans hProbe

theorem recorded_settle (h : Recorded future ⟨breaker, history⟩) (hState : breaker.state ≠ .opened) :
    Recorded future (⟨breaker.settle result now,
      .invoked (.ok result) (breaker.settle result now).state now :: history⟩ :
        BreakerRun ε β) := by
  cases hSuccess : result.success with
  | true =>
    rw [settle_of_success hSuccess]
    exact recorded_success h hSuccess
  | false =>
    by_cases hOpens : breaker.state = .halfOpen ∨
        breaker.failureThreshold ≤ (breaker.failureCount + 1 : Nat)
    · rw [settle_of_opening hSuccess hOpens]
      exact recorded_opening h hSuccess hOpens
    · rw [not_or] at hOpens
      have hClosed : breaker.state = .closed := by
        cases hCase : breaker.state with
        | closed => rfl
        | opened => exact absurd hCase hState
        | halfOpen => exact absurd hCase hOpens.1
      rw [settle_of_counting hSuccess hOpens.1 hOpens.2]
      exact recorded_counting h hSuccess hClosed hOpens.2

end Settle

/-- One operation keeps breaker and record in agreement. -/
theorem Recorded.operate {run : BreakerRun ε β} (operation : Operation ε β)
    (hClock : (readingsOf operation ++ future).Pairwise (· ≤ ·))
    (h : Recorded (readingsOf operation ++ future) run) :
    Recorded future (operate operation run) := by
  obtain ⟨breaker, history⟩ := run
  cases operation with
  | reset => exact recorded_reset h
  | call readings outcome =>
    rw [readingsOf, List.cons_append, List.pairwise_cons] at hClock
    have hEntered := recorded_tryReset h hClock.1
    have hLater : Recorded future ⟨breaker.tryReset readings.entry, history⟩ :=
      ⟨hEntered.threshold_pos, hEntered.count_eq, hEntered.notClosed_iff, hEntered.opening,
        fun hState now hMem => hEntered.probing hState now (List.mem_cons_of_mem _ hMem)⟩
    by_cases hOpened : (breaker.tryReset readings.entry).state = .opened
    · rw [operate_of_opened hOpened]
      exact recorded_of_same hLater rfl rfl
    · cases outcome with
      | error error =>
        rw [operate_error hOpened]
        exact recorded_of_same hLater rfl rfl
      | ok result =>
        rw [operate_ok hOpened]
        exact recorded_settle hLater hOpened

theorem recorded_freshRun {failureThreshold : Int} (hThreshold : 1 ≤ failureThreshold)
    (resetTimeoutS : ℚ) (name : String) :
    Recorded future (freshRun failureThreshold resetTimeoutS name : BreakerRun ε β) where
  threshold_pos := hThreshold
  count_eq := rfl
  notClosed_iff := iff_of_false (not_not_intro rfl) (by simp only [freshRun, streak]; omega)
  opening hState := absurd rfl hState
  probing hState := nomatch hState

theorem recorded_run (operations : List (Operation ε β)) {run : BreakerRun ε β}
    (hClock : (clockOf operations ++ future).Pairwise (· ≤ ·))
    (h : Recorded (clockOf operations ++ future) run) :
    Recorded future (Transaction.run Providers.operate operations run) := by
  induction operations generalizing run with
  | nil => exact h
  | cons operation operations ih =>
    rw [clockOf, List.flatMap_cons, List.append_assoc] at hClock h
    exact ih (List.pairwise_append.mp hClock).2.1 (h.operate operation hClock)

theorem timedOut_iff_of_recorded {run : BreakerRun ε β} (h : Recorded future run)
    (hState : run.breaker.state ≠ .closed) (now : ℚ) : run.breaker.timedOut now = true ↔
      ∃ opening, lastOpening run.history = some opening ∧
        run.breaker.resetTimeoutS ≤ now - opening := by
  obtain ⟨opening, hOpened, hLast⟩ := h.opening hState
  rw [CircuitBreaker.timedOut, hOpened, hLast]
  simp

theorem not_opened_iff_of_recorded {run : BreakerRun ε β} {now : ℚ}
    (h : Recorded (now :: future) run) : (run.breaker.tryReset now).state ≠ .opened ↔
      run.breaker.state = .closed ∨ ∃ opening, lastOpening run.history = some opening ∧
        run.breaker.resetTimeoutS ≤ now - opening := by
  rw [Ne, tryReset_opened_iff]
  cases hState : run.breaker.state with
  | closed => simp
  | opened =>
    rw [← timedOut_iff_of_recorded h (by rw [hState]; nofun)]
    simp
  | halfOpen =>
    rw [← timedOut_iff_of_recorded h (by rw [hState]; nofun)]
    simp [h.probing hState now List.mem_cons_self]

theorem callLaw_of_recorded {run : BreakerRun ε β} {readings : Readings}
    (outcome : Except ε (ProviderCallResult β)) (h : Recorded (readings.entry :: future) run) :
    CallLaw run readings outcome where
  invoked_iff := by
    rw [callOnce_invocations, ← not_opened_iff_of_recorded h]
    split <;> simp_all
  fastFailed_iff := by
    rw [callOnce_invocations]
    split <;> simp
  closes result hOutcome hSuccess hInvoked := by
    rw [callOnce_invocations] at hInvoked
    split at hInvoked
    · cases hInvoked
    · rename_i hOpened
      rw [hOutcome, callOnce_ok hOpened, settle_of_success hSuccess]
      rfl
  keeps hFastFailed := by
    rw [callOnce_invocations] at hFastFailed
    split at hFastFailed
    · rename_i hOpened
      rw [callOnce_of_opened hOpened]
      exact ⟨tryReset_failureCount, tryReset_openedAt⟩
    · cases hFastFailed

theorem circuitBreaker_law (failureThreshold : Int) (resetTimeoutS : ℚ) (name : String)
    (operations : List (Operation ε β)) (hThreshold : 1 ≤ failureThreshold)
    (hClock : (clockOf operations).Pairwise (· ≤ ·)) :
    StateLaw (run operate operations (freshRun failureThreshold resetTimeoutS name)) ∧
      ∀ before readings outcome after, operations = before ++ .call readings outcome :: after →
        CallLaw (run operate before (freshRun failureThreshold resetTimeoutS name))
          readings outcome := by
  refine ⟨⟨?_⟩, fun before readings outcome after hSplit => ?_⟩
  · have hRecorded : Recorded []
        (run operate operations (freshRun failureThreshold resetTimeoutS name)) :=
      recorded_run operations (by rwa [List.append_nil])
        (recorded_freshRun hThreshold resetTimeoutS name)
    exact hRecorded.notClosed_iff
  · rw [hSplit, clockOf, List.flatMap_append, List.flatMap_cons] at hClock
    exact callLaw_of_recorded outcome
      (recorded_run before hClock (recorded_freshRun hThreshold resetTimeoutS name))

def failure : ProviderCallResult Unit := .fail .serverError "503"

def answer : ProviderCallResult Unit where
  success := true
  value := some ()

/-- Two failures open a breaker, a call is turned away, a probe succeeds. -/
def openedAndProbed : List (Operation Unit Unit) :=
  [.call ⟨0, 1⟩ (.ok failure), .call ⟨1, 2⟩ (.ok failure), .call ⟨30, 30⟩ (.ok answer),
    .call ⟨62, 63⟩ (.ok answer)]

theorem circuitBreaker_law_openedAndProbed :
    (1 ≤ (2 : Int) ∧ (clockOf openedAndProbed).Pairwise (· ≤ ·)) ∧
      StateLaw (run operate openedAndProbed (freshRun 2 60 "dart")) ∧
      ∀ before readings outcome after,
        openedAndProbed = before ++ .call readings outcome :: after →
          CallLaw (run operate before (freshRun 2 60 "dart")) readings outcome :=
  ⟨by decide +kernel, circuitBreaker_law 2 60 "dart" openedAndProbed (by decide)
    (by decide +kernel)⟩

end Invariant

end StockAiPlatform.Providers
