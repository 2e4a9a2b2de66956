import StockAiPlatform.Data.ProviderResilience
import Mathlib.Logic.Function.Basic

/-! # The provider health monitor

Counts and the latest results for each registered provider, and the way every
provider call takes: through the breaker of the provider, if it is registered,
into the loop of attempts, and back into the record.
-/

namespace StockAiPlatform.Providers
set_option autoImplicit false

/-- `deque(maxlen=...)` -/
structure Ring (α : Type) (maxlen : Nat) where
  items : List α
  length_le : items.length ≤ maxlen

namespace Ring

variable {α : Type} {maxlen : Nat}

theorem length_drop_le (items : List α) (maxlen : Nat) :
    (items.drop (items.length - maxlen)).length ≤ maxlen := by
  rw [List.length_drop]
  omega

def append (ring : Ring α maxlen) (item : α) : Ring α maxlen where
  items := (ring.items ++ [item]).drop ((ring.items ++ [item]).length - maxlen)
  length_le := length_drop_le (ring.items ++ [item]) maxlen

end Ring

def callHistoryMaxlen : Nat := 200

def failureHistoryMaxlen : Nat := 50

structure CallRecord where
  timestamp : Int
  success : Bool
  errorKind : Option ProviderErrorKind
  attempts : Int

structure FailureRecord where
  timestamp : Int
  errorKind : ProviderErrorKind
  attempts : Int

structure ProviderStats where
  name : String
  circuitBreaker : CircuitBreaker
  callCount : Nat
  successCount : Nat
  failureCount : Nat
  lastErrorKind : Option ProviderErrorKind
  lastErrorMessage : Option String
  lastCalledAt : Option Int
  recentCalls : Ring CallRecord callHistoryMaxlen
  recentFailures : Ring FailureRecord failureHistoryMaxlen

structure ProviderHealthMonitor where
  providers : String → Option ProviderStats

namespace ProviderHealthMonitor

variable {β : Type}

def store (monitor : ProviderHealthMonitor) (name : String) (stats : ProviderStats) :
    ProviderHealthMonitor := ⟨Function.update monitor.providers name (some stats)⟩

/-- `max(int(attempts or 1), 1)` -/
def recordedAttempts (result : ProviderCallResult β) : Int := max result.attempts 1

def recorded (stats : ProviderStats) (result : ProviderCallResult β) (now : Int) :
    ProviderStats :=
  if result.success then
    { stats with
      callCount := stats.callCount + 1
      lastCalledAt := some now
      successCount := stats.successCount + 1
      lastErrorKind := none
      lastErrorMessage := none
      recentCalls := stats.recentCalls.append ⟨now, true, none, recordedAttempts result⟩ }
  else
    { stats with
      callCount := stats.callCount + 1
      lastCalledAt := some now
      failureCount := stats.failureCount + 1
      lastErrorKind := result.errorKind
      lastErrorMessage := result.errorMessage
      recentFailures := stats.recentFailures.append
        ⟨now, result.errorKind.getD .unknown, recordedAttempts result⟩
      recentCalls := stats.recentCalls.append
        ⟨now, false, result.errorKind, recordedAttempts result⟩ }

def recordResult (monitor : ProviderHealthMonitor) (name : String)
    (result : ProviderCallResult β) (now : Int) : ProviderHealthMonitor :=
  match monitor.providers name with
  | none => monitor
  | some stats => monitor.store name (recorded stats result now)

end ProviderHealthMonitor

section Calls

variable {ε β : Type} [ToString ε]

/-- What each invocation of a provider within one call comes to: a result, or an exception. -/
abbrev Provider (ε β : Type) := Nat → Except ε (ProviderCallResult β)

/-- `_safe_fn`, which turns an exception into a result; the state is the number of invocations. -/
def safeFn (provider : Provider ε β) (invocations : Nat) :
    Except (Raised ε) (ProviderCallResult β) × Nat :=
  match provider invocations with
  | .ok result => (.ok result, invocations + 1)
  | .error error => (.ok (.fail .unknown (toString error)), invocations + 1)

/-- What a call of a provider returns or raises, what it leaves, and how often it invoked. -/
structure CallOutcome (ε β : Type) where
  outcome : Except (Raised ε) (ProviderCallResult β)
  monitor : ProviderHealthMonitor
  invocations : Nat

/-- The result is recorded, unless an exception has passed through. -/
def finish (monitor : ProviderHealthMonitor) (providerName : String) (now : Int) :
    Except (Raised ε) (ProviderCallResult β) × Nat → CallOutcome ε β
  | (.error raised, invocations) => ⟨.error raised, monitor, invocations⟩
  | (.ok result, invocations) =>
    ⟨.ok result, monitor.recordResult providerName result now, invocations⟩

def callWithResilience (monitor : ProviderHealthMonitor) (providerName : String)
    (provider : Provider ε β) (options : RetryOptions ε) (readings : Readings) (now : Int) :
    CallOutcome ε β :=
  let withRetry := retryWithBackoff (safeFn provider) options
  match monitor.providers providerName with
  | some stats =>
    let (outcome, breaker, invocations) := stats.circuitBreaker.call readings withRetry 0
    finish (monitor.store providerName { stats with circuitBreaker := breaker }) providerName now
      (outcome, invocations)
  | none => finish monitor providerName now (withRetry 0)

end Calls

end StockAiPlatform.Providers
