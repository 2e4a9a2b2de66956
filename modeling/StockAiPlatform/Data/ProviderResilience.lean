import Mathlib.Data.Rat.Defs
import Mathlib.Algebra.Order.Ring.Rat
import Mathlib.Tactic.Common

/-! # Retries and the circuit breaker

A provider call is a function on a state of its own that returns a result or
raises. It is wrapped in a loop of attempts with a wait between them, and in a
breaker that stops calling after failures in a row.
-/

namespace StockAiPlatform.Providers
set_option autoImplicit false

inductive ProviderErrorKind where
  | timeout | rateLimit | serverError | clientError | unknown
  deriving DecidableEq, Repr

structure ProviderCallResult (β : Type) where
  success : Bool
  value : Option β := none
  errorKind : Option ProviderErrorKind := none
  errorMessage : Option String := none
  attempts : Int := 1

namespace ProviderCallResult

variable {β : Type}

def fail (kind : ProviderErrorKind) (message : String) : ProviderCallResult β where
  success := false
  errorKind := some kind
  errorMessage := some message

def onAttempt (result : ProviderCallResult β) (attempt : Nat) : ProviderCallResult β :=
  { result with attempts := attempt }

end ProviderCallResult

/-- What the wrappers raise themselves, and what they let through. -/
inductive Raised (ε : Type) where
  | assertionError
  | overflowError
  | passedOn (error : ε)
  deriving DecidableEq, Repr

def nonRetryable : List ProviderErrorKind := [.clientError]

def ProviderCallResult.conclusive {β : Type} (result : ProviderCallResult β) : Bool :=
  result.success || result.errorKind.any fun kind => nonRetryable.contains kind

/-- The keyword arguments of `retry_with_backoff`; `sleep` is injectable and may raise. -/
structure RetryOptions (ε : Type) where
  maxAttempts : Int := 3
  baseDelayS : ℚ := 1 / 2
  maxDelayS : ℚ := 10
  sleep : ℚ → Except ε Unit := fun _ => .ok ()

section Retry

variable {ε σ β : Type}

/-- `base_delay_s * (2 ** (attempt - 1))`, cut off: no float is as large as `2 ** 1024`. -/
def RetryOptions.delay (options : RetryOptions ε) (attempt : Nat) : Except (Raised ε) ℚ :=
  if 1024 ≤ attempt - 1 then .error .overflowError
  else .ok (min (options.baseDelayS * 2 ^ (attempt - 1)) options.maxDelayS)

def RetryOptions.wait (options : RetryOptions ε) (attempt : Nat) : Except (Raised ε) Unit := do
  let delay ← options.delay attempt
  (options.sleep delay).mapError .passedOn

def returnLast : Option (ProviderCallResult β) → Except (Raised ε) (ProviderCallResult β)
  | none => .error .assertionError
  | some last => .ok last

/-- The loop of attempts from number `attempt` on, with `remaining` of them to go. -/
def attemptsFrom (fn : σ → Except (Raised ε) (ProviderCallResult β) × σ) (options : RetryOptions ε) :
    Nat → Nat → Option (ProviderCallResult β) → σ →
      Except (Raised ε) (ProviderCallResult β) × σ
  | 0, _, last, s => (returnLast last, s)
  | remaining + 1, attempt, _, s =>
    match fn s with
    | (.error raised, s) => (.error raised, s)
    | (.ok result, s) =>
      let result := result.onAttempt attempt
      if result.success then (.ok result, s)
      else if result.errorKind.any fun kind => nonRetryable.contains kind then
        (returnLast (some result), s)
      else if (attempt : Int) < options.maxAttempts then
        match options.wait attempt with
        | .error raised => (.error raised, s)
        | .ok () => attemptsFrom fn options remaining (attempt + 1) (some result) s
      else attemptsFrom fn options remaining (attempt + 1) (some result) s

def retryWithBackoff (fn : σ → Except (Raised ε) (ProviderCallResult β) × σ)
    (options : RetryOptions ε) (s : σ) : Except (Raised ε) (ProviderCallResult β) × σ :=
  attemptsFrom fn options options.maxAttempts.toNat 1 none s

end Retry

inductive CircuitBreakerState where
  | closed | opened | halfOpen
  deriving DecidableEq, Repr

structure CircuitBreaker where
  failureThreshold : Int := 5
  resetTimeoutS : ℚ := 60
  name : String := "provider"
  state : CircuitBreakerState := .closed
  failureCount : Nat := 0
  openedAt : Option ℚ := none
  deriving DecidableEq

/-- `time.monotonic()` in one call: on entry, and where a failure opens the breaker. -/
structure Readings where
  entry : ℚ
  after : ℚ
  deriving DecidableEq

namespace CircuitBreaker

variable {ε σ β : Type}

/-- The time since the breaker opened has reached the timeout. -/
def timedOut (breaker : CircuitBreaker) (now : ℚ) : Bool :=
  breaker.openedAt.any fun openedAt => breaker.resetTimeoutS ≤ now - openedAt

def tryReset (breaker : CircuitBreaker) (now : ℚ) : CircuitBreaker :=
  if breaker.state = .opened ∧ breaker.timedOut now then { breaker with state := .halfOpen }
  else breaker

def settle (breaker : CircuitBreaker) (result : ProviderCallResult β) (now : ℚ) :
    CircuitBreaker :=
  if result.success then { breaker with state := .closed, failureCount := 0, openedAt := none }
  else
    let counted := { breaker with failureCount := breaker.failureCount + 1 }
    if breaker.state = .halfOpen ∨ breaker.failureThreshold ≤ counted.failureCount then
      { counted with state := .opened, openedAt := some now }
    else counted

def call (breaker : CircuitBreaker) (readings : Readings)
    (fn : σ → Except ε (ProviderCallResult β) × σ) (s : σ) :
    Except ε (ProviderCallResult β) × CircuitBreaker × σ :=
  let breaker := breaker.tryReset readings.entry
  if breaker.state = .opened then
    (.ok (.fail .unknown s!"circuit breaker '{breaker.name}' is OPEN"), breaker, s)
  else
    match fn s with
    | (.error raised, s) => (.error raised, breaker, s)
    | (.ok result, s) => (.ok result, breaker.settle result readings.after, s)

def reset (breaker : CircuitBreaker) : CircuitBreaker :=
  { breaker with state := .closed, failureCount := 0, openedAt := none }

end CircuitBreaker

end StockAiPlatform.Providers
