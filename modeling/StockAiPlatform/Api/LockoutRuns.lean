import StockAiPlatform.Api.AuthRoutes
import StockAiPlatform.Auth.GuardRecords
import Mathlib.Data.List.Pairwise
import Mathlib.Tactic.NormNum

/-! # Logins against the guard

The loginAttempts a run makes on a key decide its record. A key is locked by enough
failures of one counting window, which begins with a failure and does not move
along with the loginAttempts.
-/

namespace StockAiPlatform
set_option autoImplicit false

open Transaction Python

section Attempts

/-- What the service answers to the credentials. -/
def credentialCheck (app : AuthApp) (call : LoginCall) (db : UserDatabase) :
    Except UserError (Option LoginResult) :=
  (((AuthRoutes.authService app).login call.username call.password call.client call.issuedAt
    call.loggedInAt).exec nothingAsked (.opened db)).1

/-- The request gets past the configuration and the guard. -/
def ReachesCheck (app : AuthApp) (call : LoginCall) (state : AuthState) : Prop :=
  ¬ AuthRoutes.unconfigured app ∧ AuthRoutes.isLocked state.bruteForce call = false

instance (app : AuthApp) (call : LoginCall) (state : AuthState) :
    Decidable (ReachesCheck app call state) := inferInstanceAs (Decidable (_ ∧ _))

def LoginCall.key (call : LoginCall) : String :=
  BruteForceGuard.makeKey call.username (hashForAudit call.client.sourceIp)

/-- A checked attempt that ended with an answer. -/
inductive AttemptOutcome where
  | failed (countedAt : ℚ)
  | succeeded

def attemptOf (app : AuthApp) (key : String) (request : AuthRequest) (state : AuthState) :
    Option AttemptOutcome :=
  match request with
  | .logout _ => none
  | .login call =>
    if call.key = key ∧ ReachesCheck app call state then
      match credentialCheck app call state.db with
      | .ok none => some (.failed call.countedAt)
      | .ok (some _) => some .succeeded
      | .error _ => none
    else none

/-- The attempts on the key along a run. -/
def loginAttempts (app : AuthApp) (key : String) : List AuthRequest → AuthState → List AttemptOutcome
  | [], _ => []
  | request :: requests, state =>
    (attemptOf app key request state).toList ++ loginAttempts app key requests (request.step app state)

def BruteForceGuard.recordAfter (guard : BruteForceGuard) (record : FailureRecord) :
    AttemptOutcome → FailureRecord
  | .failed countedAt => guard.failed record countedAt
  | .succeeded => {}

structure SameLimits (guard guard' : BruteForceGuard) : Prop where
  maxFailures : guard'.maxFailures = guard.maxFailures
  windowSeconds : guard'.windowSeconds = guard.windowSeconds
  lockoutSeconds : guard'.lockoutSeconds = guard.lockoutSeconds

variable {app : AuthApp} {guard guard' : BruteForceGuard} {state : AuthState} {key : String}

theorem SameLimits.refl (guard : BruteForceGuard) : SameLimits guard guard := ⟨rfl, rfl, rfl⟩

theorem SameLimits.trans {a b c : BruteForceGuard} (h : SameLimits a b) (h' : SameLimits b c) :
    SameLimits a c :=
  ⟨h'.maxFailures.trans h.maxFailures, h'.windowSeconds.trans h.windowSeconds,
    h'.lockoutSeconds.trans h.lockoutSeconds⟩

theorem SameLimits.recordAfter_eq (h : SameLimits guard guard') :
    guard'.recordAfter = guard.recordAfter := by
  obtain ⟨maxFailures, windowSeconds, lockoutSeconds, records⟩ := guard
  obtain ⟨_, _, _, records'⟩ := guard'
  obtain ⟨rfl, rfl, rfl⟩ := h
  rfl

theorem isLocked_some (call : LoginCall) : AuthRoutes.isLocked (some guard) call =
    decide (call.checkedAt < (guard.getRecord call.key).lockedUntil) := rfl

theorem step_login (call : LoginCall) : ((AuthRequest.login call).step app state).bruteForce =
    match (AuthRequest.loginEnding app call state).1 with
    | .ok (bruteForce, _) => bruteForce
    | .error _ => state.bruteForce := by
  rw [AuthRequest.step]
  cases AuthRequest.loginEnding app call state with
  | mk ending session =>
    cases ending with
    | error error => rfl
    | ok answer => rfl

theorem bruteForce_unreached {call : LoginCall} (h : ¬ ReachesCheck app call state) :
    ((AuthRequest.login call).step app state).bruteForce = state.bruteForce := by
  rw [step_login, AuthRequest.loginEnding, AuthRoutes.login]
  by_cases hConfigured : AuthRoutes.unconfigured app
  · rw [if_pos hConfigured]
    rfl
  · have hLocked : AuthRoutes.isLocked state.bruteForce call = true :=
      eq_true_of_ne_false fun hFree => h ⟨hConfigured, hFree⟩
    have hKnown : LoginAuditLogRepository.userKnown
        (AuthService.auditRow .lockoutRejected (some call.username) none call.client)
        state.db = true := rfl
    have hCreate := LoginAuditLogRepository.exec_create (s := .opened state.db) hKnown
    rw [if_neg hConfigured, if_pos hLocked, Program.exec_bind_ok nothingAsked _ hCreate]
    rfl

def LoginCall.outcome (call : LoginCall) : Except UserError (Option LoginResult) → Option AttemptOutcome
  | .ok none => some (.failed call.countedAt)
  | .ok (some _) => some .succeeded
  | .error _ => none

theorem attemptOf_reached {call : LoginCall} (hKey : call.key = key) (h : ReachesCheck app call state) :
    attemptOf app key (.login call) state = call.outcome (credentialCheck app call state.db) := by
  rw [attemptOf, if_pos ⟨hKey, h⟩]
  cases credentialCheck app call state.db with
  | error error => rfl
  | ok result => cases result <;> rfl

/-- The guard after the check of the credentials. -/
def BruteForceGuard.answered (guard : BruteForceGuard) (call : LoginCall) :
    Except UserError (Option LoginResult) → BruteForceGuard
  | .ok none => guard.recordFailure call.username (hashForAudit call.client.sourceIp) call.countedAt
  | .ok (some _) => guard.recordSuccess call.username (hashForAudit call.client.sourceIp)
  | .error _ => guard

theorem sameLimits_answered (guard : BruteForceGuard) (call : LoginCall)
    (answer : Except UserError (Option LoginResult)) : SameLimits guard (guard.answered call answer) := by
  cases answer with
  | error error => exact .refl guard
  | ok result => cases result <;> exact ⟨rfl, rfl, rfl⟩

theorem getRecord_answered {call : LoginCall} (hKey : call.key = key)
    (answer : Except UserError (Option LoginResult)) : (guard.answered call answer).getRecord key =
      (call.outcome answer).toList.foldl guard.recordAfter (guard.getRecord key) := by
  cases answer with
  | error error => rfl
  | ok result =>
    cases result with
    | none => exact (getRecord_recordFailure hKey key).trans (if_pos rfl)
    | some result => exact (getRecord_recordSuccess hKey key).trans (if_pos rfl)

theorem getRecord_answered_of_ne {call : LoginCall} (hKey : call.key ≠ key)
    (answer : Except UserError (Option LoginResult)) :
    (guard.answered call answer).getRecord key = guard.getRecord key := by
  cases answer with
  | error error => rfl
  | ok result =>
    cases result with
    | none => exact (getRecord_recordFailure rfl key).trans (if_neg hKey.symm)
    | some result => exact (getRecord_recordSuccess rfl key).trans (if_neg hKey.symm)

theorem bruteForce_reached {call : LoginCall} (h : ReachesCheck app call state) :
    ((AuthRequest.login call).step app state).bruteForce = state.bruteForce.map fun guard =>
      guard.answered call (credentialCheck app call state.db) := by
  obtain ⟨hConfigured, hFree⟩ := h
  rw [step_login, AuthRequest.loginEnding, AuthRoutes.login, if_neg hConfigured,
    if_neg (Bool.eq_false_iff.mp hFree), Program.exec_bind, Program.exec_attempt, credentialCheck]
  cases ((AuthRoutes.authService app).login call.username call.password call.client call.issuedAt
    call.loggedInAt).exec nothingAsked (.opened state.db) with
  | mk answer session =>
    cases answer with
    | error error =>
      have hSame : state.bruteForce.map (fun guard => guard.answered call (.error error)) =
          state.bruteForce := by cases state.bruteForce <;> rfl
      rw [hSame]
      cases error <;> rfl
    | ok result => cases result <;> rfl

/-- A request adds to the record of a key what it attempted on it. -/
theorem step_record (app : AuthApp) (key : String) (request : AuthRequest)
    (hGuard : state.bruteForce = some guard) :
    ∃ guard', (request.step app state).bruteForce = some guard' ∧ SameLimits guard guard' ∧
      guard'.getRecord key = (attemptOf app key request state).toList.foldl guard.recordAfter
        (guard.getRecord key) := by
  cases request with
  | logout call => exact ⟨guard, hGuard, .refl guard, rfl⟩
  | login call =>
    by_cases hReach : ReachesCheck app call state
    · rw [bruteForce_reached hReach, hGuard]
      refine ⟨_, rfl, sameLimits_answered guard call _, ?_⟩
      by_cases hKey : call.key = key
      · rw [attemptOf_reached hKey hReach]
        exact getRecord_answered hKey _
      · rw [attemptOf, if_neg fun h => hKey h.1]
        exact getRecord_answered_of_ne hKey _
    · rw [bruteForce_unreached hReach, attemptOf, if_neg fun h => hReach h.2]
      exact ⟨guard, hGuard, .refl guard, rfl⟩

theorem run_record (app : AuthApp) (key : String) (requests : List AuthRequest)
    (hGuard : state.bruteForce = some guard) :
    ∃ guard', (run (AuthRequest.step app) requests state).bruteForce = some guard' ∧
      SameLimits guard guard' ∧
      guard'.getRecord key = (loginAttempts app key requests state).foldl guard.recordAfter
        (guard.getRecord key) := by
  induction requests generalizing state guard with
  | nil => exact ⟨guard, hGuard, .refl guard, rfl⟩
  | cons request requests ih =>
    obtain ⟨next, hNext, hLimits, hRecord⟩ := step_record app key request hGuard
    obtain ⟨last, hLast, hLastLimits, hLastRecord⟩ := ih hNext
    refine ⟨last, hLast, hLimits.trans hLastLimits, ?_⟩
    rw [hLastRecord, hLimits.recordAfter_eq, hRecord, loginAttempts, List.foldl_append]

theorem reachesCheck_iff {call : LoginCall} (hGuard : state.bruteForce = some guard) :
    ReachesCheck app call state ↔ ¬ AuthRoutes.unconfigured app ∧
      ¬ call.checkedAt < (guard.getRecord call.key).lockedUntil := by
  refine and_congr_right fun _ => ?_
  rw [hGuard, isLocked_some, decide_eq_false_iff_not]

theorem not_reachesCheck_of_locked {call : LoginCall} (hGuard : state.bruteForce = some guard)
    (h : call.checkedAt < (guard.getRecord call.key).lockedUntil) : ¬ ReachesCheck app call state :=
  fun hReach => ((reachesCheck_iff hGuard).mp hReach).2 h

/-- While a key is locked nothing is attempted on it. -/
theorem attempts_of_locked {key : String} {requests : List AuthRequest} {state : AuthState}
    {guard : BruteForceGuard} (hGuard : state.bruteForce = some guard)
    (h : ∀ call, AuthRequest.login call ∈ requests → call.checkedAt < (guard.getRecord key).lockedUntil) :
    loginAttempts app key requests state = [] := by
  induction requests generalizing state guard with
  | nil => rfl
  | cons request requests ih =>
    have hAttempt : attemptOf app key request state = none := by
      cases request with
      | logout call => rfl
      | login call =>
        rw [attemptOf, if_neg]
        rintro ⟨rfl, hReach⟩
        exact not_reachesCheck_of_locked hGuard (h call List.mem_cons_self) hReach
    obtain ⟨next, hNext, -, hRecord⟩ := step_record app key request hGuard
    rw [hAttempt] at hRecord
    rw [loginAttempts, hAttempt, Option.toList_none, List.nil_append]
    refine ih hNext fun call hCall => ?_
    rw [hRecord]
    exact h call (List.mem_cons_of_mem _ hCall)

/-- The failures among logins on one key, all with wrong credentials. -/
def BruteForceGuard.counted (guard : BruteForceGuard) : List LoginCall → FailureRecord → List ℚ
  | [], _ => []
  | call :: calls, record =>
    if call.checkedAt < record.lockedUntil then guard.counted calls record
    else call.countedAt :: guard.counted calls (guard.failed record call.countedAt)

theorem attempts_counted {calls : List LoginCall} {state : AuthState} {current : BruteForceGuard}
    (hConfigured : ¬ AuthRoutes.unconfigured app)
    (hGuard : state.bruteForce = some current) (hLimits : SameLimits guard current)
    (hCalls : ∀ call ∈ calls, call.key = key ∧ credentialCheck app call state.db = .ok none) :
    loginAttempts app key (calls.map .login) state =
      (guard.counted calls (current.getRecord key)).map .failed := by
  induction calls generalizing state current with
  | nil => rfl
  | cons call calls ih =>
    obtain ⟨⟨rfl, hFail⟩, hRest⟩ := List.forall_mem_cons.mp hCalls
    obtain ⟨next, hNext, hNextLimits, hRecord⟩ := step_record app call.key (.login call) hGuard
    rw [← AuthRequest.db_step app (.login call) state] at hRest
    have hIh := ih hNext (hLimits.trans hNextLimits) hRest
    rw [List.map_cons, loginAttempts, hIh, hRecord, hLimits.recordAfter_eq, BruteForceGuard.counted]
    by_cases hLocked : call.checkedAt < (current.getRecord call.key).lockedUntil
    · have hNone : attemptOf app call.key (.login call) state = none :=
        if_neg fun h => not_reachesCheck_of_locked hGuard hLocked h.2
      rw [if_pos hLocked, hNone]
      rfl
    · have hSome : attemptOf app call.key (.login call) state = some (.failed call.countedAt) := by
        rw [attemptOf, if_pos ⟨rfl, (reachesCheck_iff hGuard).mpr ⟨hConfigured, hLocked⟩⟩, hFail]
      rw [if_neg hLocked, hSome]
      rfl

end Attempts

section Lockout

def AuthRequest.readings : AuthRequest → List ℚ
  | .login call => [call.checkedAt, call.countedAt]
  | .logout _ => []

/-- The clock does not go back along the requests. -/
def NonDecreasing (requests : List AuthRequest) : Prop :=
  (requests.flatMap AuthRequest.readings).Pairwise (· ≤ ·)

def LockedAt (state : AuthState) (key : String) (now : ℚ) : Prop :=
  ∃ guard ∈ state.bruteForce, now < (guard.getRecord key).lockedUntil

def AuthState.record (state : AuthState) (key : String) : FailureRecord :=
  (state.bruteForce.map fun guard => guard.getRecord key).getD {}

/-- The failures lie in some interval of the length of the window. -/
def BruteForceGuard.RollingWindow (guard : BruteForceGuard) (_ : FailureRecord) (first last : ℚ) : Prop :=
  last - first ≤ guard.windowSeconds

/-- The failures lie in the window that the first of them is counted in. -/
def BruteForceGuard.CountingWindow (guard : BruteForceGuard) (record : FailureRecord)
    (first last : ℚ) : Prop :=
  last - (guard.failed record first).windowStart ≤ guard.windowSeconds

/-- The digest tells the key texts of the two logins apart. -/
def Distinguished (call other : LoginCall) : Prop :=
  call.key = other.key → rawKey call.username (hashForAudit call.client.sourceIp) =
    rawKey other.username (hashForAudit other.client.sourceIp)

/-- Failures on a key with no success between them, in the course of a run. -/
structure Burst (app : AuthApp) (key : String) (start : AuthState) where
  before : List AuthRequest
  segment : List AuthRequest
  after : List AuthRequest
  first : ℚ
  rest : List ℚ
  nonDecreasing : NonDecreasing (before ++ segment ++ after)
  failures : loginAttempts app key segment (run (AuthRequest.step app) before start) =
    (first :: rest).map .failed

namespace Burst

variable {app : AuthApp} {key : String} {start : AuthState}

def found (burst : Burst app key start) : AuthState := run (AuthRequest.step app) burst.before start

def left (burst : Burst app key start) : AuthState :=
  run (AuthRequest.step app) (burst.before ++ burst.segment ++ burst.after) start

def last (burst : Burst app key start) : ℚ := burst.rest.getLastD burst.first

end Burst

/-- The lockout of a guard whose failures count together if they are `Within` a window. -/
structure Lockout (app : AuthApp) (guard : BruteForceGuard)
    (Within : FailureRecord → ℚ → ℚ → Prop) : Prop where
  /-- Enough failures on a key lock it from the last of them on, whatever comes after. -/
  covers : ∀ (db : UserDatabase) (key : String) (burst : Burst app key ⟨some guard, db⟩),
    guard.maxFailures ≤ burst.rest.length + 1 →
    Within (burst.found.record key) burst.first burst.last →
    ∀ now, burst.last ≤ now → now < burst.last + guard.lockoutSeconds →
      (∀ reading ∈ burst.after.flatMap AuthRequest.readings, reading ≤ now) →
      LockedAt burst.left key now
  /-- The answer to a locked login depends on neither the password nor how it is checked. -/
  unchecked : ∀ (state : AuthState) (call : LoginCall), LockedAt state call.key call.checkedAt →
    ¬ ReachesCheck app call state ∧ ∀ (hasher : PasswordHasher) (password : String),
      AuthRequest.loginEnding { app with hasher := hasher } { call with password := password } state =
        AuthRequest.loginEnding app call state
  /-- What is attempted on other pairs neither locks nor frees this one. -/
  separate : ∀ (db : UserDatabase) (requests : List AuthRequest) (call : LoginCall) (now : ℚ),
    (∀ other, AuthRequest.login other ∈ requests → Distinguished other call ∧
      ¬ (other.username = call.username ∧
        hashForAudit other.client.sourceIp = hashForAudit call.client.sourceIp)) →
    (LockedAt (run (AuthRequest.step app) requests ⟨some guard, db⟩) call.key now ↔
      LockedAt ⟨some guard, db⟩ call.key now)

variable {app : AuthApp} {guard : BruteForceGuard} {key : String} {state : AuthState}

/-- The failures of a run are counted at its readings, in their order. -/
theorem sublist_readings {requests : List AuthRequest} {times : List ℚ}
    (h : loginAttempts app key requests state = times.map .failed) :
    times.Sublist (requests.flatMap AuthRequest.readings) := by
  induction requests generalizing state times with
  | nil =>
    rw [loginAttempts, List.nil_eq, List.map_eq_nil_iff] at h
    rw [h]
    exact List.nil_sublist _
  | cons request requests ih =>
    rw [loginAttempts] at h
    rw [List.flatMap_cons]
    cases hAttempt : attemptOf app key request state with
    | none =>
      rw [hAttempt, Option.toList_none, List.nil_append] at h
      exact (ih h).trans (List.sublist_append_right _ _)
    | some outcome =>
      rw [hAttempt, Option.toList_some, List.singleton_append] at h
      obtain ⟨time, times, rfl, rfl, hRest⟩ := List.map_eq_cons_iff.mp h.symm
      rw [← List.singleton_append]
      refine List.Sublist.append ?_ (ih hRest.symm)
      cases request with
      | logout call => cases hAttempt
      | login call =>
        have hTime : time = call.countedAt := by
          simp only [attemptOf] at hAttempt
          split at hAttempt
          · split at hAttempt <;> cases hAttempt
            rfl
          · cases hAttempt
        rw [hTime]
        exact (List.Sublist.refl _).cons _

/-- Failures inside the window of a record add to its count and leave the window. -/
theorem foldl_failed {times : List ℚ} {record : FailureRecord}
    (h : ∀ time ∈ times, time - record.windowStart ≤ guard.windowSeconds) :
    ((times.map .failed).foldl guard.recordAfter record).count = record.count + times.length := by
  induction times generalizing record with
  | nil => rfl
  | cons time times ih =>
    obtain hOpens | ⟨-, hStart, hCount⟩ := failed_cases guard record time
    · exact absurd hOpens.1.2 (not_lt.mpr (h time List.mem_cons_self))
    · have hRest : ∀ later ∈ times,
          later - (guard.failed record time).windowStart ≤ guard.windowSeconds := by
        intro later hLater
        rw [hStart]
        exact h later (List.mem_cons_of_mem _ hLater)
      rw [List.map_cons, List.foldl_cons]
      refine (ih hRest).trans ?_
      rw [hCount, List.length_cons]
      omega

/-- The failure that brings the count to the threshold sets the end of the lockout. -/
theorem lockedUntil_foldl {first : ℚ} {rest : List ℚ} {record : FailureRecord}
    (h : guard.maxFailures ≤ (((first :: rest).map .failed).foldl guard.recordAfter record).count) :
    (((first :: rest).map .failed).foldl guard.recordAfter record).lockedUntil =
      rest.getLastD first + guard.lockoutSeconds := by
  induction rest generalizing first record with
  | nil => exact lockedUntil_failed h
  | cons second rest ih =>
    rw [List.map_cons, List.foldl_cons] at h ⊢
    rw [List.getLastD_cons]
    exact ih h

theorem record_of_bruteForce (h : state.bruteForce = some guard) :
    state.record key = guard.getRecord key := by
  rw [AuthState.record, h]
  rfl

theorem lockedAt_of_bruteForce (h : state.bruteForce = some guard) {now : ℚ} :
    LockedAt state key now ↔ now < (guard.getRecord key).lockedUntil := by
  rw [LockedAt, h]
  simp

/-- Enough failures of one counting window set the end of the lockout. -/
theorem lockedUntil_of_window {first : ℚ} {rest : List ℚ} {record : FailureRecord}
    (hSorted : (first :: rest).Pairwise (· ≤ ·)) (hEnough : guard.maxFailures ≤ rest.length + 1)
    (hWindow : guard.CountingWindow record first (rest.getLastD first)) :
    (((first :: rest).map .failed).foldl guard.recordAfter record).lockedUntil =
      rest.getLastD first + guard.lockoutSeconds := by
  have hLast : ∀ time ∈ first :: rest, time ≤ rest.getLastD first := by
    intro time hTime
    have hMax := hSorted.rel_getLast hTime
    rwa [List.getLast_eq_getLastD] at hMax
  have hCounted : 1 ≤ (guard.failed record first).count := by
    obtain ⟨-, -, hCount⟩ | ⟨-, -, hCount⟩ := failed_cases guard record first <;> omega
  refine lockedUntil_foldl ?_
  rw [List.map_cons, List.foldl_cons]
  refine le_of_le_of_eq ?_ (foldl_failed fun time hTime => ?_).symm
  · change guard.maxFailures ≤ (guard.failed record first).count + rest.length
    omega
  · have hTimeLast := hLast time (List.mem_cons_of_mem _ hTime)
    exact (sub_le_sub_right hTimeLast _).trans hWindow

theorem lockedAt_left {db : UserDatabase} (burst : Burst app key ⟨some guard, db⟩)
    (hEnough : guard.maxFailures ≤ burst.rest.length + 1)
    (hWindow : guard.CountingWindow (burst.found.record key) burst.first burst.last) {now : ℚ}
    (hNow : now < burst.last + guard.lockoutSeconds)
    (hAfter : ∀ reading ∈ burst.after.flatMap AuthRequest.readings, reading ≤ now) :
    LockedAt burst.left key now := by
  obtain ⟨before, segment, after, first, rest, hNonDecreasing, hFailures⟩ := burst
  have hStart : (⟨some guard, db⟩ : AuthState).bruteForce = some guard := rfl
  obtain ⟨found, hFound, hLimits, -⟩ := run_record app key before hStart
  obtain ⟨locked, hLocked, -, hRecord⟩ := run_record app key segment hFound
  obtain ⟨left, hLeft, -, hLeftRecord⟩ := run_record app key after hLocked
  have hTimes : (first :: rest).Pairwise (· ≤ ·) := by
    refine List.Pairwise.sublist (sublist_readings hFailures) ?_
    rw [NonDecreasing, List.flatMap_append, List.flatMap_append] at hNonDecreasing
    exact (List.pairwise_append.mp (List.pairwise_append.mp hNonDecreasing).1).2.1
  have hLockedUntil : (locked.getRecord key).lockedUntil = rest.getLastD first + guard.lockoutSeconds := by
    rw [Burst.found, record_of_bruteForce hFound] at hWindow
    rw [hRecord, hFailures, hLimits.recordAfter_eq]
    exact lockedUntil_of_window hTimes hEnough hWindow
  have hQuiet : loginAttempts app key after (run (AuthRequest.step app) segment
      (run (AuthRequest.step app) before ⟨some guard, db⟩)) = [] := by
    refine attempts_of_locked hLocked fun call hCall => ?_
    rw [hLockedUntil]
    exact (hAfter _ (List.mem_flatMap.mpr ⟨_, hCall, List.mem_cons_self⟩)).trans_lt hNow
  rw [Burst.left, run_append, run_append, lockedAt_of_bruteForce hLeft, hLeftRecord, hQuiet]
  exact hLockedUntil ▸ hNow

/-- A locked login ends in the audit row and the generic answer. -/
theorem loginEnding_locked {call : LoginCall} (h : LockedAt state call.key call.checkedAt)
    (hasher : PasswordHasher) (password : String) :
    AuthRequest.loginEnding { app with hasher := hasher } { call with password := password } state =
      AuthRequest.loginEnding app call state := by
  obtain ⟨guard, hGuard, hLocked⟩ := h
  have hIsLocked : AuthRoutes.isLocked state.bruteForce call = true := by
    rw [Option.mem_def.mp hGuard, isLocked_some]
    exact decide_eq_true hLocked
  have hLogin : AuthRoutes.login { app with hasher := hasher } state.bruteForce
      { call with password := password } = AuthRoutes.login app state.bruteForce call := by
    rw [AuthRoutes.login, AuthRoutes.login, if_pos hIsLocked]
    refine if_congr Iff.rfl rfl (if_pos ?_)
    exact hIsLocked
  rw [AuthRequest.loginEnding, hLogin]
  rfl

theorem attempts_of_separate {call : LoginCall} {requests : List AuthRequest}
    (h : ∀ other, AuthRequest.login other ∈ requests → Distinguished other call ∧
      ¬ (other.username = call.username ∧
        hashForAudit other.client.sourceIp = hashForAudit call.client.sourceIp)) :
    loginAttempts app call.key requests state = [] := by
  induction requests generalizing state with
  | nil => rfl
  | cons request requests ih =>
    have hAttempt : attemptOf app call.key request state = none := by
      cases request with
      | logout other => rfl
      | login other =>
        obtain ⟨hDistinguished, hOther⟩ := h other List.mem_cons_self
        rw [attemptOf, if_neg]
        exact fun hSame => hOther (rawKey_injective (hDistinguished hSame.1))
    rw [loginAttempts, hAttempt, Option.toList_none, List.nil_append]
    exact ih fun other hMem => h other (List.mem_cons_of_mem _ hMem)

/-- A wrong guess at the unknown user, checked and counted at one time. -/
def guessAt (time : ℚ) : LoginCall :=
  { AuthRequest.unknownUser with checkedAt := time, countedAt := time }

def guesses (times : List ℚ) : List AuthRequest := (times.map guessAt).map .login

def shortGuard : BruteForceGuard := ⟨3, 10, 100, []⟩

theorem attempts_guesses {current : BruteForceGuard} (times : List ℚ)
    (hGuard : state.bruteForce = some current) (hLimits : SameLimits shortGuard current)
    (hEmpty : state.db = .empty) :
    loginAttempts AuthRequest.sampleApp (guessAt 0).key (guesses times) state =
      (shortGuard.counted (times.map guessAt) (current.getRecord (guessAt 0).key)).map .failed := by
  refine attempts_counted (fun h => absurd h.2 (by decide)) hGuard hLimits fun call hCall => ?_
  obtain ⟨time, -, rfl⟩ := List.mem_map.mp hCall
  rw [hEmpty]
  exact ⟨rfl, rfl⟩

/-- Three failures in four seconds, the first of them counted in the window before. -/
theorem not_lockout_rollingWindow :
    ¬ Lockout AuthRequest.sampleApp shortGuard shortGuard.RollingWindow := by
  intro hLockout
  have hStart : (⟨some shortGuard, .empty⟩ : AuthState).bruteForce = some shortGuard := rfl
  obtain ⟨found, hFound, hLimits, hRecord⟩ :=
    run_record AuthRequest.sampleApp (guessAt 0).key (guesses [100]) hStart
  rw [attempts_guesses [100] hStart (.refl _) rfl] at hRecord
  have hFailures := attempts_guesses [109, 111, 112] hFound hLimits (AuthRequest.db_run _ _ _)
  have hCounted : shortGuard.counted ([109, 111, 112].map guessAt)
      (found.getRecord (guessAt 0).key) = [109, 111, 112] := by
    rw [hRecord]
    decide +kernel
  rw [hCounted] at hFailures
  have hSorted : NonDecreasing (guesses [100] ++ guesses [109, 111, 112] ++ []) := by
    unfold NonDecreasing
    decide +kernel
  have hLocked := hLockout.covers .empty (guessAt 0).key
    ⟨guesses [100], guesses [109, 111, 112], [], 109, [111, 112], hSorted, hFailures⟩
    (Nat.le_refl 3) (show (112 : ℚ) - 109 ≤ 10 by norm_num) 112 (le_refl (112 : ℚ))
    (show (112 : ℚ) < 112 + 100 by norm_num) (fun _ hReading => nomatch hReading)
  obtain ⟨left, hLeft, -, hLeftRecord⟩ :=
    run_record AuthRequest.sampleApp (guessAt 0).key (guesses [100, 109, 111, 112]) hStart
  rw [attempts_guesses _ hStart (.refl _) rfl] at hLeftRecord
  have hFree : (left.getRecord (guessAt 0).key).lockedUntil = 0 := by
    rw [hLeftRecord]
    decide +kernel
  have hUntil := (lockedAt_of_bruteForce hLeft).mp hLocked
  rw [hFree] at hUntil
  exact absurd hUntil (by norm_num)

/-- The lockout holds for the failures that one counting window takes in. -/
theorem lockout_countingWindow (app : AuthApp) (guard : BruteForceGuard) :
    Lockout app guard guard.CountingWindow where
  covers _ _ burst hEnough hWindow _ _ hNow hAfter := lockedAt_left burst hEnough hWindow hNow hAfter
  unchecked state call hLocked := by
    obtain ⟨current, hCurrent, hUntil⟩ := hLocked
    exact ⟨not_reachesCheck_of_locked hCurrent hUntil, loginEnding_locked ⟨current, hCurrent, hUntil⟩⟩
  separate db requests call now hSeparate := by
    have hStart : (⟨some guard, db⟩ : AuthState).bruteForce = some guard := rfl
    obtain ⟨left, hLeft, -, hRecord⟩ := run_record app call.key requests hStart
    rw [lockedAt_of_bruteForce hLeft, lockedAt_of_bruteForce hStart, hRecord,
      attempts_of_separate hSeparate]
    rfl

end Lockout

end StockAiPlatform
