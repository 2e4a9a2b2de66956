import StockAiPlatform.Data.ProviderHealthMonitor

/-! # What a resilient call does

The loop of attempts goes on while a result can be retried and the wait for the
next attempt is over without an exception. The breaker sees the whole loop as
one call, so a probe is as many invocations as the loop makes.
-/

namespace StockAiPlatform.Providers
set_option autoImplicit false

variable {ε β : Type} [ToString ε]

section Attempts

/-- What `_safe_fn` makes of an invocation. -/
def safeResult (provider : Provider ε β) (invocation : Nat) : ProviderCallResult β :=
  match provider invocation with
  | .ok result => result
  | .error error => .fail .unknown (toString error)

/-- Another attempt would follow this invocation, if one is left. -/
def retried (provider : Provider ε β) (invocation : Nat) : Prop :=
  (safeResult provider invocation).conclusive = false

theorem safeFn_eq (provider : Provider ε β) (invocations : Nat) :
    safeFn provider invocations = (.ok (safeResult provider invocations), invocations + 1) := by
  cases h : provider invocations with
  | ok result => simp only [safeFn, safeResult, h]
  | error error => simp only [safeFn, safeResult, h]

variable {provider : Provider ε β} {options : RetryOptions ε} {remaining n : Nat}
  {last : Option (ProviderCallResult β)}

theorem attempts_of_conclusive (h : ¬ retried provider n) :
    attemptsFrom (safeFn provider) options (remaining + 1) (n + 1) last n =
      (.ok ((safeResult provider n).onAttempt (n + 1)), n + 1) := by
  rw [retried, Bool.not_eq_false, ProviderCallResult.conclusive, Bool.or_eq_true] at h
  simp only [attemptsFrom, safeFn_eq]
  split
  · rfl
  · rename_i hFailed
    exact if_pos (h.resolve_left hFailed)

theorem attempts_of_retried (h : retried provider n) :
    attemptsFrom (safeFn provider) options (remaining + 1) (n + 1) last n =
      let failed := some ((safeResult provider n).onAttempt (n + 1))
      if ((n + 1 : Nat) : Int) < options.maxAttempts then
        match options.wait (n + 1) with
        | .error raised => (.error raised, n + 1)
        | .ok () => attemptsFrom (safeFn provider) options remaining (n + 1 + 1) failed (n + 1)
      else attemptsFrom (safeFn provider) options remaining (n + 1 + 1) failed (n + 1) := by
  rw [retried, ProviderCallResult.conclusive, Bool.or_eq_false_iff] at h
  simp only [attemptsFrom, safeFn_eq]
  exact (if_neg (ne_true_of_eq_false h.1)).trans (if_neg (ne_true_of_eq_false h.2))

/-- The last attempt returns what it got. -/
theorem attempts_last (hLast : options.maxAttempts = (n + 1 : Nat)) :
    attemptsFrom (safeFn provider) options 1 (n + 1) last n =
      (.ok ((safeResult provider n).onAttempt (n + 1)), n + 1) := by
  by_cases h : retried provider n
  · rw [attempts_of_retried h, hLast, if_neg (lt_irrefl _)]
    rfl
  · exact attempts_of_conclusive h

theorem attempts_wait_ok (h : retried provider n)
    (hLeft : ((n + 1 : Nat) : Int) < options.maxAttempts) (hWait : options.wait (n + 1) = .ok ()) :
    attemptsFrom (safeFn provider) options (remaining + 1) (n + 1) last n =
      attemptsFrom (safeFn provider) options remaining (n + 1 + 1)
        (some ((safeResult provider n).onAttempt (n + 1))) (n + 1) := by
  rw [attempts_of_retried h, if_pos hLeft, hWait]

theorem attempts_wait_error {raised : Raised ε} (h : retried provider n)
    (hLeft : ((n + 1 : Nat) : Int) < options.maxAttempts)
    (hWait : options.wait (n + 1) = .error raised) :
    attemptsFrom (safeFn provider) options (remaining + 1) (n + 1) last n =
      (.error raised, n + 1) := by
  rw [attempts_of_retried h, if_pos hLeft, hWait]

/-- The wait after this many attempts is reached: all of them are retried, and one is left. -/
def WaitReached (provider : Provider ε β) (options : RetryOptions ε) (attempt : Nat) : Prop :=
  1 ≤ attempt ∧ (attempt : Int) < options.maxAttempts ∧ ∀ k < attempt, retried provider k

/-- What the loop does from its `n`-th invocation on, when all before it were retried. -/
structure LoopSpec (provider : Provider ε β) (options : RetryOptions ε) (n : Nat)
    (loop : Except (Raised ε) (ProviderCallResult β) × Nat) : Prop where
  returns_iff : (∃ result, loop.1 = .ok result) ↔
    ∀ attempt, n < attempt → WaitReached provider options attempt → options.wait attempt = .ok ()
  invoked : n < loop.2
  atMost : (loop.2 : Int) ≤ options.maxAttempts
  stops : ∀ k, k + 1 < loop.2 → retried provider k
  once_iff : (∃ result, loop.1 = .ok result) →
    (loop.2 = n + 1 ↔ options.maxAttempts = (n + 1 : Nat) ∨ ¬ retried provider n)

/-- The loop returns after the attempt, and no wait after it is reached. -/
theorem loopSpec_of_return {result : ProviderCallResult β} (hBefore : ∀ k < n, retried provider k)
    (hLeft : ((n + 1 : Nat) : Int) ≤ options.maxAttempts)
    (hEnds : options.maxAttempts = (n + 1 : Nat) ∨ ¬ retried provider n) :
    LoopSpec provider options n (.ok result, n + 1) where
  returns_iff := by
    refine ⟨fun _ attempt hAfter hReached => ?_, fun _ => ⟨_, rfl⟩⟩
    obtain hLast | hConclusive := hEnds
    · have hBound := hReached.2.1
      omega
    · exact absurd (hReached.2.2 n hAfter) hConclusive
  invoked := n.lt_succ_self
  atMost := hLeft
  stops k hk := hBefore k (Nat.lt_of_succ_lt_succ hk)
  once_iff _ := iff_of_true rfl hEnds

/-- The wait after the attempt raises. -/
theorem loopSpec_of_wait_error {raised : Raised ε} (hAll : ∀ k < n + 1, retried provider k)
    (hLeft : ((n + 1 : Nat) : Int) < options.maxAttempts)
    (hWait : options.wait (n + 1) = .error raised) :
    LoopSpec provider options n (.error raised, n + 1) where
  returns_iff := by
    constructor
    · rintro ⟨result, hResult⟩
      cases hResult
    · intro hWaits
      have hNext := hWaits (n + 1) n.lt_succ_self ⟨n.succ_pos, hLeft, hAll⟩
      cases hWait.symm.trans hNext
  invoked := n.lt_succ_self
  atMost := le_of_lt hLeft
  stops k hk := hAll k (Nat.lt_of_succ_lt hk)
  once_iff := by
    rintro ⟨result, hResult⟩
    cases hResult

/-- The wait after the attempt succeeds, and the rest of the loop follows. -/
theorem LoopSpec.after_wait {loop : Except (Raised ε) (ProviderCallResult β) × Nat}
    (hRest : LoopSpec provider options (n + 1) loop) (hRetried : retried provider n)
    (hLeft : ((n + 1 : Nat) : Int) < options.maxAttempts) (hWait : options.wait (n + 1) = .ok ()) :
    LoopSpec provider options n loop where
  returns_iff := by
    refine hRest.returns_iff.trans ⟨fun hWaits attempt hAfter hReached => ?_,
      fun hWaits attempt hAfter => hWaits attempt (Nat.lt_of_succ_lt hAfter)⟩
    rcases Nat.eq_or_lt_of_le (Nat.succ_le_of_lt hAfter) with rfl | hLater
    · exact hWait
    · exact hWaits attempt hLater hReached
  invoked := Nat.lt_of_succ_lt hRest.invoked
  atMost := hRest.atMost
  stops := hRest.stops
  once_iff _ := by
    have hMore := hRest.invoked
    exact iff_of_false (by omega) (not_or.mpr ⟨by omega, not_not_intro hRetried⟩)

theorem loopSpec (remaining : Nat) {n : Nat} {last : Option (ProviderCallResult β)}
    (hMax : options.maxAttempts = (n + (remaining + 1) : Nat)) (hBefore : ∀ k < n, retried provider k) :
    LoopSpec provider options n
      (attemptsFrom (safeFn provider) options (remaining + 1) (n + 1) last n) := by
  induction remaining generalizing n last with
  | zero =>
    have hLast : options.maxAttempts = (n + 1 : Nat) := hMax
    rw [attempts_last hLast]
    exact loopSpec_of_return hBefore hLast.ge (.inl hLast)
  | succ remaining ih =>
    have hLeft : ((n + 1 : Nat) : Int) < options.maxAttempts := by omega
    by_cases hRetried : retried provider n
    · have hAll : ∀ k < n + 1, retried provider k := by
        intro k hk
        rcases Nat.lt_succ_iff_lt_or_eq.mp hk with hEarlier | rfl
        · exact hBefore k hEarlier
        · exact hRetried
      cases hWait : options.wait (n + 1) with
      | error raised =>
        rw [attempts_wait_error hRetried hLeft hWait]
        exact loopSpec_of_wait_error hAll hLeft hWait
      | ok done =>
        rw [attempts_wait_ok hRetried hLeft hWait]
        exact (ih (by omega) hAll).after_wait hRetried hLeft hWait
    · rw [attempts_of_conclusive hRetried]
      exact loopSpec_of_return hBefore hLeft.le (.inr hRetried)

/-- No attempt is made, and no result is there to return. -/
theorem retry_of_no_attempts (h : ¬ 1 ≤ options.maxAttempts) :
    retryWithBackoff (safeFn provider) options 0 = (.error .assertionError, 0) := by
  rw [retryWithBackoff, show options.maxAttempts.toNat = 0 by omega]
  rfl

variable (provider) in
theorem retry_spec (h : 1 ≤ options.maxAttempts) :
    LoopSpec provider options 0 (retryWithBackoff (safeFn provider) options 0) := by
  obtain ⟨remaining, hRemaining⟩ : ∃ k, options.maxAttempts.toNat = k + 1 :=
    ⟨options.maxAttempts.toNat - 1, by omega⟩
  rw [retryWithBackoff, hRemaining]
  exact loopSpec remaining (by omega) fun k hk => absurd hk k.not_lt_zero

theorem retry_returns_iff :
    (∃ result, (retryWithBackoff (safeFn provider) options 0).1 = .ok result) ↔
      1 ≤ options.maxAttempts ∧
        ∀ attempt, WaitReached provider options attempt → options.wait attempt = .ok () := by
  by_cases h : 1 ≤ options.maxAttempts
  · rw [(retry_spec provider h).returns_iff]
    constructor
    · intro hWaits
      exact ⟨h, fun attempt hReached => hWaits attempt hReached.1 hReached⟩
    · rintro ⟨-, hWaits⟩ attempt -
      exact hWaits attempt
  · rw [retry_of_no_attempts h]
    refine iff_of_false ?_ fun hMax => h hMax.1
    rintro ⟨result, hResult⟩
    cases hResult

theorem retry_atMost :
    (retryWithBackoff (safeFn provider) options 0).2 ≤ options.maxAttempts.toNat := by
  by_cases h : 1 ≤ options.maxAttempts
  · have hMost := (retry_spec provider h).atMost
    omega
  · rw [retry_of_no_attempts h]
    exact Nat.zero_le _

theorem retry_stops {k : Nat}
    (hk : k + 1 < (retryWithBackoff (safeFn provider) options 0).2) : retried provider k := by
  by_cases h : 1 ≤ options.maxAttempts
  · exact (retry_spec provider h).stops k hk
  · rw [retry_of_no_attempts h] at hk
    exact absurd hk (Nat.not_lt_zero _)

theorem retry_once_iff
    (hReturns : ∃ result, (retryWithBackoff (safeFn provider) options 0).1 = .ok result) :
    (retryWithBackoff (safeFn provider) options 0).2 ≤ 1 ↔
      options.maxAttempts = 1 ∨ ¬ retried provider 0 := by
  have hSpec := retry_spec provider (retry_returns_iff.mp hReturns).1
  have hSome := hSpec.invoked
  have hOnce := hSpec.once_iff hReturns
  rw [Nat.le_antisymm_iff] at hOnce
  exact ⟨fun hMost => hOnce.mp ⟨hMost, hSome⟩, fun hCase => (hOnce.mpr hCase).1⟩

theorem retried_iff_of_ok {k : Nat} {result : ProviderCallResult β}
    (h : provider k = .ok result) : retried provider k ↔
      result.success = false ∧ result.errorKind ≠ some .clientError := by
  rw [retried, safeResult, h, ProviderCallResult.conclusive, Bool.or_eq_false_iff]
  refine and_congr_right fun _ => ?_
  cases result.errorKind with
  | none => simp
  | some kind => simp [nonRetryable]

end Attempts

section Calls

/-- One call more in the counts of a provider. -/
structure Accounted (before after : ProviderStats) (success : Bool) : Prop where
  calls : after.callCount = before.callCount + 1
  successes : after.successCount = before.successCount + if success then 1 else 0
  failures : after.failureCount = before.failureCount + if success then 0 else 1
  keeps : before.callCount = before.successCount + before.failureCount →
    after.callCount = after.successCount + after.failureCount

theorem accounted_recorded (stats : ProviderStats) (breaker : CircuitBreaker)
    (result : ProviderCallResult β) (now : Int) :
    Accounted stats (ProviderHealthMonitor.recorded { stats with circuitBreaker := breaker }
      result now) result.success := by
  cases hSuccess : result.success with
  | true =>
    rw [ProviderHealthMonitor.recorded, if_pos hSuccess]
    refine ⟨rfl, rfl, rfl, fun hSum => ?_⟩
    simp only [hSum]
    omega
  | false =>
    rw [ProviderHealthMonitor.recorded, if_neg (ne_true_of_eq_false hSuccess)]
    refine ⟨rfl, rfl, rfl, fun hSum => ?_⟩
    simp only [hSum]
    omega

theorem providers_recordResult_store (monitor : ProviderHealthMonitor) (name : String)
    (stats : ProviderStats) (result : ProviderCallResult β) (now : Int) :
    ((monitor.store name stats).recordResult name result now).providers name =
      some (ProviderHealthMonitor.recorded stats result now) := by
  simp only [ProviderHealthMonitor.recordResult, ProviderHealthMonitor.store, Function.update_self]

variable {monitor : ProviderHealthMonitor} {providerName : String} {provider : Provider ε β}
  {options : RetryOptions ε} {readings : Readings} {now : Int} {stats : ProviderStats}

omit [ToString ε] in
theorem finish_outcome (loop : Except (Raised ε) (ProviderCallResult β) × Nat) :
    (finish monitor providerName now loop).outcome = loop.1 := by
  obtain ⟨outcome | result, invocations⟩ := loop <;> rfl

omit [ToString ε] in
theorem finish_invocations (loop : Except (Raised ε) (ProviderCallResult β) × Nat) :
    (finish monitor providerName now loop).invocations = loop.2 := by
  obtain ⟨outcome | result, invocations⟩ := loop <;> rfl

theorem call_of_unregistered (h : monitor.providers providerName = none) :
    callWithResilience monitor providerName provider options readings now =
      finish monitor providerName now (retryWithBackoff (safeFn provider) options 0) := by
  rw [callWithResilience, h]

variable (provider options now) in
theorem call_of_opened (h : monitor.providers providerName = some stats)
    (hOpened : (stats.circuitBreaker.tryReset readings.entry).state = .opened) :
    ∃ (breaker : CircuitBreaker) (result : ProviderCallResult β),
      callWithResilience monitor providerName provider options readings now =
        finish (monitor.store providerName { stats with circuitBreaker := breaker }) providerName
          now (.ok result, 0) := by
  rw [callWithResilience, h]
  simp only [CircuitBreaker.call, if_pos hOpened]
  exact ⟨_, _, rfl⟩

variable (provider options now) in
theorem call_of_admitted (h : monitor.providers providerName = some stats)
    (hAdmitted : (stats.circuitBreaker.tryReset readings.entry).state ≠ .opened) :
    ∃ breaker : CircuitBreaker,
      callWithResilience monitor providerName provider options readings now =
        finish (monitor.store providerName { stats with circuitBreaker := breaker }) providerName
          now (retryWithBackoff (safeFn provider) options 0) := by
  rw [callWithResilience, h]
  simp only [CircuitBreaker.call, if_neg hAdmitted]
  obtain ⟨raised | result, invocations⟩ := retryWithBackoff (safeFn provider) options 0
  · exact ⟨_, rfl⟩
  · exact ⟨_, rfl⟩

variable (monitor providerName provider options readings now)

/-- A call returns, stops in time, and is counted once. -/
structure IsolatedAndAccounted (call : CallOutcome ε β) : Prop where
  returns : ∃ result, call.outcome = .ok result
  atMost : call.invocations ≤ options.maxAttempts.toNat
  stops : ∀ k result, k + 1 < call.invocations → provider k = .ok result →
    result.success = false ∧ result.errorKind ≠ some .clientError
  turnedAway : ∀ stats, monitor.providers providerName = some stats →
    (stats.circuitBreaker.tryReset readings.entry).state = .opened → call.invocations = 0
  probes : ∀ stats, monitor.providers providerName = some stats →
    (stats.circuitBreaker.tryReset readings.entry).state = .halfOpen → call.invocations ≤ 1
  accounted : ∀ stats, monitor.providers providerName = some stats → ∃ result after,
    call.outcome = .ok result ∧ call.monitor.providers providerName = some after ∧
      Accounted stats after result.success

/-- The breaker turns the call away, or an attempt is allowed for, no wait that is reached raises,
and a probe is over after its first attempt. -/
def CallsSafely : Prop :=
  (∃ stats, monitor.providers providerName = some stats ∧
    (stats.circuitBreaker.tryReset readings.entry).state = .opened) ∨
  ((1 ≤ options.maxAttempts ∧
      ∀ attempt, WaitReached provider options attempt → options.wait attempt = .ok ()) ∧
    ∀ stats, monitor.providers providerName = some stats →
      (stats.circuitBreaker.tryReset readings.entry).state = .halfOpen →
        options.maxAttempts = 1 ∨ ¬ retried provider 0)

variable {monitor providerName provider options readings now}

omit [ToString ε] in
theorem accounted_of_finish {call : CallOutcome ε β} {breaker : CircuitBreaker}
    {result : ProviderCallResult β} {loop : Except (Raised ε) (ProviderCallResult β) × Nat}
    (hCall : call = finish (monitor.store providerName { stats with circuitBreaker := breaker })
      providerName now loop) (hLoop : loop.1 = .ok result) :
    ∃ after, call.monitor.providers providerName = some after ∧
      Accounted stats after result.success := by
  obtain ⟨outcome, invocations⟩ := loop
  cases hLoop
  rw [hCall]
  exact ⟨_, providers_recordResult_store _ _ _ _ _, accounted_recorded stats breaker result now⟩

theorem isolated_of_opened (h : monitor.providers providerName = some stats)
    (hOpened : (stats.circuitBreaker.tryReset readings.entry).state = .opened) :
    IsolatedAndAccounted monitor providerName provider options readings
      (callWithResilience monitor providerName provider options readings now) := by
  obtain ⟨breaker, result, hCall⟩ := call_of_opened provider options now h hOpened
  obtain ⟨after, hAccounted⟩ := accounted_of_finish hCall rfl
  rw [hCall] at hAccounted ⊢
  refine ⟨⟨result, rfl⟩, Nat.zero_le _, fun k _ hk => absurd hk (Nat.not_lt_zero _),
    fun _ _ _ => rfl, fun _ _ _ => Nat.zero_le _, fun registered hRegistered => ?_⟩
  cases h.symm.trans hRegistered
  exact ⟨result, after, rfl, hAccounted⟩

theorem stops_of_loop {invocations : Nat}
    (h : invocations = (retryWithBackoff (safeFn provider) options 0).2) (k : Nat)
    (result : ProviderCallResult β) (hk : k + 1 < invocations) (hResult : provider k = .ok result) :
    result.success = false ∧ result.errorKind ≠ some .clientError :=
  (retried_iff_of_ok hResult).mp (retry_stops (h ▸ hk))

theorem isolated_iff_of_admitted (h : monitor.providers providerName = some stats)
    (hAdmitted : (stats.circuitBreaker.tryReset readings.entry).state ≠ .opened) :
    IsolatedAndAccounted monitor providerName provider options readings
        (callWithResilience monitor providerName provider options readings now) ↔
      (∃ result, (retryWithBackoff (safeFn provider) options 0).1 = .ok result) ∧
        ((stats.circuitBreaker.tryReset readings.entry).state = .halfOpen →
          (retryWithBackoff (safeFn provider) options 0).2 ≤ 1) := by
  obtain ⟨breaker, hCall⟩ := call_of_admitted provider options now h hAdmitted
  rw [hCall]
  constructor
  · intro hIsolated
    have hReturns := hIsolated.returns
    have hProbes := hIsolated.probes stats h
    rw [finish_outcome] at hReturns
    rw [finish_invocations] at hProbes
    exact ⟨hReturns, hProbes⟩
  · rintro ⟨⟨result, hResult⟩, hProbe⟩
    refine ⟨⟨result, (finish_outcome _).trans hResult⟩, ?_, stops_of_loop (finish_invocations _),
      fun registered hRegistered hOpened => ?_, fun registered hRegistered hHalf => ?_,
      fun registered hRegistered => ?_⟩
    · rw [finish_invocations]
      exact retry_atMost
    · cases h.symm.trans hRegistered
      exact absurd hOpened hAdmitted
    · cases h.symm.trans hRegistered
      rw [finish_invocations]
      exact hProbe hHalf
    · cases h.symm.trans hRegistered
      obtain ⟨after, hAccounted⟩ := accounted_of_finish hCall hResult
      rw [hCall] at hAccounted
      exact ⟨result, after, (finish_outcome _).trans hResult, hAccounted⟩

theorem isolated_iff_of_unregistered (h : monitor.providers providerName = none) :
    IsolatedAndAccounted monitor providerName provider options readings
        (callWithResilience monitor providerName provider options readings now) ↔
      ∃ result, (retryWithBackoff (safeFn provider) options 0).1 = .ok result := by
  have hUnregistered : ∀ stats, monitor.providers providerName ≠ some stats := by
    intro stats hRegistered
    cases h.symm.trans hRegistered
  rw [call_of_unregistered h]
  constructor
  · intro hIsolated
    have hReturns := hIsolated.returns
    rw [finish_outcome] at hReturns
    exact hReturns
  · rintro ⟨result, hResult⟩
    refine ⟨⟨result, (finish_outcome _).trans hResult⟩, ?_, stops_of_loop (finish_invocations _),
      fun stats hStats => absurd hStats (hUnregistered stats),
      fun stats hStats => absurd hStats (hUnregistered stats),
      fun stats hStats => absurd hStats (hUnregistered stats)⟩
    rw [finish_invocations]
    exact retry_atMost

theorem callWithResilience_iff (monitor : ProviderHealthMonitor) (providerName : String)
    (provider : Provider ε β) (options : RetryOptions ε) (readings : Readings) (now : Int) :
    IsolatedAndAccounted monitor providerName provider options readings
        (callWithResilience monitor providerName provider options readings now) ↔
      CallsSafely monitor providerName provider options readings := by
  cases hStats : monitor.providers providerName with
  | none =>
    rw [isolated_iff_of_unregistered hStats, retry_returns_iff, CallsSafely, hStats]
    simp
  | some stats =>
    by_cases hOpened : (stats.circuitBreaker.tryReset readings.entry).state = .opened
    · exact iff_of_true (isolated_of_opened hStats hOpened) (.inl ⟨stats, hStats, hOpened⟩)
    · rw [isolated_iff_of_admitted hStats hOpened, CallsSafely, hStats, ← retry_returns_iff]
      constructor
      · rintro ⟨hReturns, hProbe⟩
        refine .inr ⟨hReturns, fun registered hRegistered hHalf => ?_⟩
        cases hRegistered
        exact (retry_once_iff hReturns).mp (hProbe hHalf)
      · rintro (⟨registered, hRegistered, hTurned⟩ | ⟨hReturns, hProbe⟩)
        · cases hRegistered
          exact absurd hTurned hOpened
        · exact ⟨hReturns, fun hHalf => (retry_once_iff hReturns).mpr (hProbe stats rfl hHalf)⟩

/-- A monitor that knows no provider. -/
def emptyMonitor : ProviderHealthMonitor := ⟨fun _ => none⟩

/-- `max_attempts=0`: the loop is empty, and its assertion fails. -/
theorem callWithResilience_raises : ¬ IsolatedAndAccounted emptyMonitor "dart"
    (fun _ => .ok { success := true, value := some () } : Provider String Unit)
    { maxAttempts := 0 } ⟨0, 0⟩
    (callWithResilience emptyMonitor "dart" (fun _ => .ok { success := true, value := some () })
      { maxAttempts := 0 } ⟨0, 0⟩ 0) := by
  intro hIsolated
  obtain ⟨result, hResult⟩ := hIsolated.returns
  cases hResult

end Calls

end StockAiPlatform.Providers
