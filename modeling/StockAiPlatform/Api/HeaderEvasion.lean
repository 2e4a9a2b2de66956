import StockAiPlatform.Api.LockoutRuns
import Mathlib.Tactic.Linarith

/-! # Logins behind chosen headers

The key of a login holds the address that the request itself gives, if it gives
one. The threshold bounds the guesses of a peer as long as that address stays
the same.
-/

namespace StockAiPlatform
set_option autoImplicit false

open Transaction Python

/-- The first address of the header, or the peer where there is none. -/
def extractClientIp (forwardedFor peer : Option String) : Option String :=
  match forwardedFor with
  | none => peer
  | some forwarded =>
    if forwarded = "" then peer
    else
      let head := String.ofList (strip (splitHead ',' forwarded.toList))
      if head = "" then peer else some head

structure HeaderLogin where
  username : String
  password : String
  forwardedFor : Option String
  userAgent : Option String
  peer : Option String
  checkedAt : ℚ
  issuedAt : Int
  loggedInAt : Int
  countedAt : ℚ

namespace HeaderLogin

def address (login : HeaderLogin) : Option String := extractClientIp login.forwardedFor login.peer

def call (login : HeaderLogin) : LoginCall where
  username := login.username
  password := login.password
  client := ⟨login.address, login.userAgent⟩
  checkedAt := login.checkedAt
  issuedAt := login.issuedAt
  loggedInAt := login.loggedInAt
  countedAt := login.countedAt

end HeaderLogin

/-- How many of the logins get to the credential check. -/
def checksReached (app : AuthApp) : List LoginCall → AuthState → Nat
  | [], _ => 0
  | call :: calls, state => (if ReachesCheck app call state then 1 else 0) +
    checksReached app calls ((AuthRequest.login call).step app state)

/-- The period that the guard bounds, by the shorter of its lengths. -/
def BruteForceGuard.period (guard : BruteForceGuard) : ℚ :=
  min guard.windowSeconds guard.lockoutSeconds

/-- Failing logins for one name from one peer, in a period that begins with a fresh guard. -/
structure FailingLogins (app : AuthApp) (guard : BruteForceGuard) (db : UserDatabase)
    (username : String) (peer : Option String) (start : ℚ) (logins : List HeaderLogin) : Prop where
  fresh : guard.records = []
  sameUser : ∀ login ∈ logins, login.username = username
  samePeer : ∀ login ∈ logins, login.peer = peer
  failing : ∀ login ∈ logins, credentialCheck app login.call db = .ok none
  nonDecreasing : NonDecreasing (logins.map fun login => .login login.call)
  inPeriod : ∀ login ∈ logins, start ≤ login.checkedAt ∧ login.checkedAt < start + guard.period

def Contained (app : AuthApp) (guard : BruteForceGuard) (db : UserDatabase)
    (logins : List HeaderLogin) : Prop :=
  checksReached app (logins.map HeaderLogin.call) ⟨some guard, db⟩ ≤ guard.maxFailures

section Bound

variable {app : AuthApp} {guard : BruteForceGuard} {key : String} {bound : ℚ}

theorem checksReached_eq {calls : List LoginCall} {state : AuthState}
    (h : ∀ call ∈ calls, call.key = key ∧ credentialCheck app call state.db = .ok none) :
    checksReached app calls state = (loginAttempts app key (calls.map .login) state).length := by
  induction calls generalizing state with
  | nil => rfl
  | cons call calls ih =>
    obtain ⟨⟨hKey, hFail⟩, hRest⟩ := List.forall_mem_cons.mp h
    rw [← AuthRequest.db_step app (.login call) state] at hRest
    rw [checksReached, ih hRest, List.map_cons, loginAttempts, List.length_append, attemptOf, hFail]
    by_cases hReach : ReachesCheck app call state
    · rw [if_pos hReach, if_pos ⟨hKey, hReach⟩]
      rfl
    · rw [if_neg hReach, if_neg fun hBoth => hReach hBoth.2]
      rfl

theorem nonDecreasing_cons {call : LoginCall} {calls : List LoginCall}
    (h : NonDecreasing ((call :: calls).map .login)) :
    call.checkedAt ≤ call.countedAt ∧ (∀ later ∈ calls, call.countedAt ≤ later.checkedAt) ∧
      NonDecreasing (calls.map .login) := by
  have hReadings : NonDecreasing (.login call :: calls.map .login) := h
  rw [NonDecreasing, List.flatMap_cons, List.pairwise_append] at hReadings
  obtain ⟨hCall, hRest, hLater⟩ := hReadings
  refine ⟨List.rel_of_pairwise_cons hCall List.mem_cons_self, fun later hMem => ?_, hRest⟩
  refine hLater _ (List.mem_cons_of_mem _ List.mem_cons_self) _ (List.mem_flatMap.mpr ?_)
  exact ⟨.login later, List.mem_map_of_mem hMem, List.mem_cons_self⟩

/-- The record of a key after some failures of a period that lasts until `bound`. -/
structure CountCapped (guard : BruteForceGuard) (bound : ℚ) (calls : List LoginCall)
    (record : FailureRecord) (reached : Nat) : Prop where
  counted : reached ≤ record.count
  capped : reached ≤ guard.maxFailures
  locked : reached = guard.maxFailures → bound ≤ record.lockedUntil
  window : ∀ call ∈ calls, call.countedAt < bound →
    call.countedAt - record.windowStart ≤ guard.windowSeconds

theorem CountCapped.weaken {call : LoginCall} {calls : List LoginCall} {record : FailureRecord}
    {reached : Nat} (h : CountCapped guard bound (call :: calls) record reached) :
    CountCapped guard bound calls record reached where
  counted := h.counted
  capped := h.capped
  locked := h.locked
  window later hLater := h.window later (List.mem_cons_of_mem _ hLater)

theorem CountCapped.failed {call : LoginCall} {calls : List LoginCall} {record : FailureRecord}
    {reached : Nat} (h : CountCapped guard bound (call :: calls) record reached)
    (hRoom : reached < guard.maxFailures) (hIn : call.countedAt < bound)
    (hLockout : bound ≤ call.countedAt + guard.lockoutSeconds) :
    CountCapped guard bound calls (guard.failed record call.countedAt) (reached + 1) := by
  obtain ⟨⟨-, hOut⟩, -⟩ | ⟨-, hStart, hCount⟩ := failed_cases guard record call.countedAt
  · exact absurd hOut (not_lt.mpr (h.window call List.mem_cons_self hIn))
  · have hCounted : reached + 1 ≤ (guard.failed record call.countedAt).count := by
      rw [hCount]
      exact Nat.add_le_add_right h.counted 1
    refine ⟨hCounted, hRoom, fun hFull => ?_, fun later hLater hLaterIn => ?_⟩
    · rw [lockedUntil_failed (hFull ▸ hCounted)]
      exact hLockout
    · rw [hStart]
      exact h.window later (List.mem_cons_of_mem _ hLater) hLaterIn

/-- From a record on, no more failures are counted than the threshold leaves room for. -/
theorem length_counted_le {calls : List LoginCall} {record : FailureRecord} {reached : Nat}
    (hCapped : CountCapped guard bound calls record reached) (hSorted : NonDecreasing (calls.map .login))
    (hPeriod : ∀ call ∈ calls, call.checkedAt < bound ∧ bound ≤ call.checkedAt + guard.lockoutSeconds) :
    reached + (guard.counted calls record).length ≤ guard.maxFailures := by
  induction calls generalizing record reached with
  | nil => exact hCapped.capped
  | cons call calls ih =>
    obtain ⟨hCall, hLater, hRest⟩ := nonDecreasing_cons hSorted
    obtain ⟨⟨hIn, hLockout⟩, hPeriodRest⟩ := List.forall_mem_cons.mp hPeriod
    rw [BruteForceGuard.counted]
    by_cases hLocked : call.checkedAt < record.lockedUntil
    · rw [if_pos hLocked]
      exact ih hCapped.weaken hRest hPeriodRest
    · have hRoom : reached < guard.maxFailures := by
        refine lt_of_le_of_ne hCapped.capped fun hFull => hLocked ?_
        exact hIn.trans_le (hCapped.locked hFull)
      rw [if_neg hLocked, List.length_cons]
      cases calls with
      | nil => exact hRoom
      | cons next calls =>
        -- a later check of the period bounds when this failure is counted
        have hCountedIn : call.countedAt < bound :=
          (hLater next List.mem_cons_self).trans_lt (hPeriodRest next List.mem_cons_self).1
        have hNext := ih (hCapped.failed hRoom hCountedIn
          (hLockout.trans (add_le_add_left hCall _))) hRest hPeriodRest
        omega

/-- The failures of a period are counted from windows that do not end within it. -/
def SameWindow (guard : BruteForceGuard) (calls : List LoginCall) : Prop :=
  (∀ call ∈ calls, guard.windowSeconds < call.countedAt) ∨
    ∀ call ∈ calls, call.countedAt ≤ guard.windowSeconds

theorem countCapped_first {call : LoginCall} {calls : List LoginCall} {start : ℚ}
    (hPositive : 1 ≤ guard.maxFailures) (hClock : 0 ≤ call.countedAt)
    (hWindow : SameWindow guard (call :: calls)) (hStart : start ≤ call.countedAt) :
    CountCapped guard (start + guard.period) calls (guard.failed {} call.countedAt) 1 := by
  have hCounted : (guard.failed {} call.countedAt).count = 1 := by
    obtain ⟨-, -, hCount⟩ | ⟨-, -, hCount⟩ := failed_cases guard {} call.countedAt <;> rw [hCount]
  refine ⟨hCounted.ge, hPositive, fun hFull => ?_, fun later hLater hIn => ?_⟩
  · rw [lockedUntil_failed (by rw [hCounted, hFull])]
    exact add_le_add hStart (min_le_right _ _)
  · obtain hAfter | hWithin := hWindow
    · have hOpens : guard.OpensWindow {} call.countedAt := by
        refine ⟨hClock, ?_⟩
        rw [sub_zero]
        exact hAfter call List.mem_cons_self
      obtain ⟨-, hOpened, -⟩ | ⟨hNot, -⟩ := failed_cases guard {} call.countedAt
      · have hMin : guard.period ≤ guard.windowSeconds := min_le_left _ _
        rw [hOpened]
        linarith
      · exact absurd hOpens hNot
    · obtain ⟨⟨-, hOut⟩, -⟩ | ⟨-, hZero, -⟩ := failed_cases guard {} call.countedAt
      · rw [sub_zero] at hOut
        exact absurd hOut (not_lt.mpr (hWithin call List.mem_cons_self))
      · rw [hZero, sub_zero]
        exact hWithin later (List.mem_cons_of_mem _ hLater)

theorem length_counted_fresh {calls : List LoginCall} {start : ℚ} (hPositive : 1 ≤ guard.maxFailures)
    (hSorted : NonDecreasing (calls.map .login)) (hWindow : SameWindow guard calls)
    (hPeriod : ∀ call ∈ calls, start ≤ call.checkedAt ∧ call.checkedAt < start + guard.period) :
    (guard.counted calls {}).length ≤ guard.maxFailures := by
  induction calls with
  | nil => exact Nat.zero_le _
  | cons call calls ih =>
    obtain ⟨hCall, hLater, hRest⟩ := nonDecreasing_cons hSorted
    obtain ⟨⟨hStart, -⟩, hPeriodRest⟩ := List.forall_mem_cons.mp hPeriod
    rw [BruteForceGuard.counted]
    by_cases hLocked : call.checkedAt < ({} : FailureRecord).lockedUntil
    · rw [if_pos hLocked]
      refine ih hRest (hWindow.imp ?_ ?_) hPeriodRest
      · exact fun h later hMem => h later (List.mem_cons_of_mem _ hMem)
      · exact fun h later hMem => h later (List.mem_cons_of_mem _ hMem)
    · have hClock : 0 ≤ call.checkedAt := not_lt.mp hLocked
      have hBound := length_counted_le
        (countCapped_first hPositive (hClock.trans hCall) hWindow (hStart.trans hCall)) hRest
        fun later hMem => ⟨(hPeriodRest later hMem).2,
          add_le_add (hPeriodRest later hMem).1 (min_le_right _ _)⟩
      rw [if_neg hLocked, List.length_cons]
      omega

theorem attempts_of_unconfigured (h : AuthRoutes.unconfigured app) (requests : List AuthRequest)
    (state : AuthState) : loginAttempts app key requests state = [] := by
  induction requests generalizing state with
  | nil => rfl
  | cons request requests ih =>
    have hAttempt : attemptOf app key request state = none := by
      cases request with
      | logout call => rfl
      | login call => exact if_neg fun hReach => hReach.2.1 h
    rw [loginAttempts, hAttempt, ih]
    rfl

/-- Every login on a key of its own reaches the check, however many there are. -/
theorem checksReached_of_distinct {calls : List LoginCall} {state : AuthState}
    (hConfigured : ¬ AuthRoutes.unconfigured app) (hGuard : state.bruteForce = some guard)
    (hKeys : (calls.map LoginCall.key).Nodup)
    (hFresh : ∀ call ∈ calls, guard.getRecord call.key = {} ∧ 0 ≤ call.checkedAt) :
    checksReached app calls state = calls.length := by
  induction calls generalizing state guard with
  | nil => rfl
  | cons call calls ih =>
    obtain ⟨⟨hRecord, hClock⟩, hFreshRest⟩ := List.forall_mem_cons.mp hFresh
    obtain ⟨hNew, hKeysRest⟩ := List.nodup_cons.mp hKeys
    have hReach : ReachesCheck app call state := by
      refine (reachesCheck_iff hGuard).mpr ⟨hConfigured, ?_⟩
      rw [hRecord]
      exact not_lt.mpr hClock
    obtain ⟨next, hNext, -, -⟩ := step_record app call.key (.login call) hGuard
    rw [checksReached, if_pos hReach, ih hNext hKeysRest, List.length_cons, Nat.add_comm]
    intro later hLater
    obtain ⟨same, hSame, -, hLaterRecord⟩ := step_record app later.key (.login call) hGuard
    have hOther : call.key ≠ later.key := fun h => hNew (h ▸ List.mem_map_of_mem hLater)
    rw [attemptOf, if_neg fun h => hOther h.1] at hLaterRecord
    obtain rfl : same = next := Option.some.inj (hSame.symm.trans hNext)
    exact ⟨hLaterRecord.trans (hFreshRest later hLater).1, (hFreshRest later hLater).2⟩

end Bound

def forwardedGuess (forwardedFor : String) (time : ℚ) : HeaderLogin where
  username := "ghost"
  password := "guess"
  forwardedFor := some forwardedFor
  userAgent := none
  peer := some "203.0.113.9"
  checkedAt := time
  issuedAt := 0
  loggedInAt := 0
  countedAt := time

def strictGuard : BruteForceGuard := ⟨1, 300, 900, []⟩

def guessTwice (second : String) : List HeaderLogin :=
  [forwardedGuess "a" 1000, forwardedGuess second 1001]

theorem failing_guessTwice (second : String) : FailingLogins AuthRequest.sampleApp strictGuard .empty
    "ghost" (some "203.0.113.9") 1000 (guessTwice second) where
  fresh := rfl
  sameUser login hLogin := by rcases List.mem_pair.mp hLogin with rfl | rfl <;> rfl
  samePeer login hLogin := by rcases List.mem_pair.mp hLogin with rfl | rfl <;> rfl
  failing login hLogin := by rcases List.mem_pair.mp hLogin with rfl | rfl <;> rfl
  nonDecreasing := by
    change List.Pairwise (· ≤ ·) [(1000 : ℚ), 1000, 1001, 1001]
    decide +kernel
  inPeriod login hLogin := by
    change (1000 : ℚ) ≤ login.checkedAt ∧ login.checkedAt < 1000 + min 300 900
    rcases List.mem_pair.mp hLogin with rfl | rfl <;> constructor <;> norm_num [forwardedGuess]

theorem not_contained_forwardedFor : FailingLogins AuthRequest.sampleApp strictGuard .empty "ghost"
    (some "203.0.113.9") 1000 (guessTwice "b") ∧
      ¬ Contained AuthRequest.sampleApp strictGuard .empty (guessTwice "b") := by
  refine ⟨failing_guessTwice "b", ?_⟩
  have hConfigured : ¬ AuthRoutes.unconfigured AuthRequest.sampleApp := fun h => absurd h.2 (by decide)
  have hStart : (⟨some strictGuard, .empty⟩ : AuthState).bruteForce = some strictGuard := rfl
  have hKeys : (((guessTwice "b").map HeaderLogin.call).map LoginCall.key).Nodup := by decide +kernel
  have hFresh : ∀ call ∈ (guessTwice "b").map HeaderLogin.call,
      strictGuard.getRecord call.key = {} ∧ 0 ≤ call.checkedAt := by
    intro call hCall
    obtain ⟨login, hLogin, rfl⟩ := List.mem_map.mp hCall
    refine ⟨rfl, ?_⟩
    change (0 : ℚ) ≤ login.checkedAt
    rcases List.mem_pair.mp hLogin with rfl | rfl <;> norm_num [forwardedGuess]
  rw [Contained, checksReached_of_distinct hConfigured hStart hKeys hFresh]
  decide

/-- Where the address stays the same, the threshold bounds the checks that are reached. -/
theorem contained_of_sameAddress {app : AuthApp} {guard : BruteForceGuard} {db : UserDatabase}
    {username : String} {peer : Option String} {start : ℚ} {logins : List HeaderLogin}
    (hPositive : 1 ≤ guard.maxFailures)
    (h : FailingLogins app guard db username peer start logins)
    (hAddress : ∃ address, ∀ login ∈ logins, login.address = address)
    (hWindow : SameWindow guard (logins.map HeaderLogin.call)) : Contained app guard db logins := by
  obtain ⟨address, hAddress⟩ := hAddress
  have hCalls : ∀ call ∈ logins.map HeaderLogin.call,
      call.key = BruteForceGuard.makeKey username (hashForAudit address) ∧
        credentialCheck app call db = .ok none := by
    intro call hCall
    obtain ⟨login, hLogin, rfl⟩ := List.mem_map.mp hCall
    refine ⟨?_, h.failing login hLogin⟩
    rw [← h.sameUser login hLogin, ← hAddress login hLogin]
    rfl
  rw [Contained, checksReached_eq hCalls]
  by_cases hConfigured : AuthRoutes.unconfigured app
  · rw [attempts_of_unconfigured hConfigured]
    exact Nat.zero_le _
  · have hFresh : ∀ key, guard.getRecord key = {} := by
      intro key
      rw [BruteForceGuard.getRecord, h.fresh]
      rfl
    have hSorted := h.nonDecreasing
    rw [attempts_counted hConfigured rfl (.refl guard) hCalls, List.length_map, hFresh]
    rw [← Function.comp_def AuthRequest.login, ← List.map_map] at hSorted
    have hPeriod : ∀ call ∈ logins.map HeaderLogin.call,
        start ≤ call.checkedAt ∧ call.checkedAt < start + guard.period := by
      intro call hCall
      obtain ⟨login, hLogin, rfl⟩ := List.mem_map.mp hCall
      exact h.inPeriod login hLogin
    exact length_counted_fresh hPositive hSorted hWindow hPeriod

theorem contained_guessTwice :
    Contained AuthRequest.sampleApp strictGuard .empty (guessTwice "a") := by
  refine contained_of_sameAddress (le_refl 1) (failing_guessTwice "a") ⟨some "a", ?_⟩ (.inl ?_)
  · intro login hLogin
    rcases List.mem_pair.mp hLogin with rfl | rfl <;> decide +kernel
  · intro call hCall
    obtain ⟨login, hLogin, rfl⟩ := List.mem_map.mp hCall
    change (300 : ℚ) < login.countedAt
    rcases List.mem_pair.mp hLogin with rfl | rfl <;> norm_num [forwardedGuess]

end StockAiPlatform
