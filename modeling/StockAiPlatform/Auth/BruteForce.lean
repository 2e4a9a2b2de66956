import StockAiPlatform.Python.Hashlib
import Mathlib.Algebra.Order.Ring.Rat

/-! # The brute force guard

Failures are counted per user name and hashed address, in memory and by the
monotonic clock. A key with enough of them is locked for a while.
-/

namespace StockAiPlatform
set_option autoImplicit false

open Python

structure FailureRecord where
  count : Nat := 0
  windowStart : ℚ := 0
  lockedUntil : ℚ := 0

structure BruteForceGuard where
  maxFailures : Nat := 5
  windowSeconds : ℚ := 300
  lockoutSeconds : ℚ := 900
  records : List (String × FailureRecord) := []

/-- `source_ip_hash or "unknown"` -/
def ipPart : Option String → String
  | none => "unknown"
  | some hash => if hash = "" then "unknown" else hash

/-- The text whose digest is the key. -/
def rawKey (username : String) (sourceIpHash : Option String) : String :=
  username ++ ":" ++ ipPart sourceIpHash

namespace BruteForceGuard

def makeKey (username : String) (sourceIpHash : Option String) : String :=
  sha256Hexdigest (rawKey username sourceIpHash)

def getRecord (guard : BruteForceGuard) (key : String) : FailureRecord :=
  (guard.records.lookup key).getD {}

/-- `check_allowed` raises exactly on a locked key. -/
def isLocked (guard : BruteForceGuard) (username : String) (sourceIpHash : Option String) (now : ℚ) :
    Bool :=
  now < (guard.getRecord (makeKey username sourceIpHash)).lockedUntil

def recordFailure (guard : BruteForceGuard) (username : String) (sourceIpHash : Option String)
    (now : ℚ) : BruteForceGuard :=
  let key := makeKey username sourceIpHash
  let record := guard.getRecord key
  let current := if record.lockedUntil ≤ now ∧ guard.windowSeconds < now - record.windowStart
    then { record with count := 0, windowStart := now } else record
  let count := current.count + 1
  let lockedUntil := if guard.maxFailures ≤ count then now + guard.lockoutSeconds
    else current.lockedUntil
  { guard with
    records := (key, { current with count := count, lockedUntil := lockedUntil }) ::
      guard.records.filter fun entry => entry.1 ≠ key }

def recordSuccess (guard : BruteForceGuard) (username : String) (sourceIpHash : Option String) :
    BruteForceGuard :=
  let key := makeKey username sourceIpHash
  { guard with records := guard.records.filter fun entry => entry.1 ≠ key }

end BruteForceGuard

end StockAiPlatform
