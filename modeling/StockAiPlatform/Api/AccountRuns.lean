import StockAiPlatform.Api.AuthRoutes
import StockAiPlatform.Auth.PasswordHash

/-! # Who can log in

Runs of the operator command among logins and logouts, against a map from
usernames to the credential that was last stored for them.
-/

namespace StockAiPlatform
set_option autoImplicit false

open Transaction Python

structure Credential where
  costs : ScryptCosts
  salt : List UInt8
  password : String
  isAdmin : Bool
  deriving DecidableEq

namespace Credential

def key (scrypt : Scrypt) (credential : Credential) (password : String) :
    Except HashError (List UInt8) :=
  PasswordHash.scryptKey scrypt credential.costs credential.salt PasswordHash.derivedKeyBytes password

/-- A password of the same key. -/
def Opens (scrypt : Scrypt) (credential : Credential) (given : String) : Prop :=
  credential.key scrypt given = credential.key scrypt credential.password

def hash (scrypt : Scrypt) (credential : Credential) : Except HashError String :=
  PasswordHash.hashPassword scrypt credential.costs credential.salt credential.password

end Credential

abbrev Credentials := String → Option Credential

inductive AccountCall where
  | createAdmin (call : CreateAdmin.Call)
  | request (sent : AuthRequest)

namespace AccountCall

def step (scrypt : Scrypt) (app : AuthApp) : AccountCall → AuthState → AuthState
  | createAdmin call, state =>
    match CreateAdmin.main scrypt call with
    | .ok program => { state with db := program.served nothingAsked state.db }
    | .error _ => state
  | request sent, state => sent.step app state

/-- The credential a run of the command asks for; `none` where it ends before its session. -/
def asked (scrypt : Scrypt) (call : CreateAdmin.Call) : Option Credential :=
  match CreateAdmin.readPassword call with
  | .error _ => none
  | .ok password =>
    let credential : Credential := ⟨call.costs, call.salt, password, !call.args.noAdmin⟩
    match credential.hash scrypt with
    | .ok _ => some credential
    | .error _ => none

/-- What a call is for: a credential under a free name, or in place of another where it may be. -/
def enroll (scrypt : Scrypt) : AccountCall → Credentials → Credentials
  | createAdmin call, known =>
    match asked scrypt call with
    | some credential =>
      if known call.args.username = none ∨ call.args.updateIfExists = true then
        Function.update known call.args.username (some credential)
      else known
    | none => known
  | request _, known => known

end AccountCall

/-- The row of an active user, under whose hash text the credential is. -/
structure Stores (scrypt : Scrypt) (user : User) (credential : Credential) : Prop where
  active : user.isActive = true
  admin : user.isAdmin = credential.isAdmin
  hash : credential.hash scrypt = .ok user.passwordHash

def Represents (scrypt : Scrypt) (known : Credentials) (db : UserDatabase) : Prop :=
  ∀ username, Option.Rel (Stores scrypt) (UserRepository.findByUsername username db) (known username)

namespace UserRepository

theorem username_of_find {username : String} {db : UserDatabase} {user : User}
    (h : findByUsername username db = some user) : user ∈ db.users.rows ∧ user.username = username :=
  ⟨List.mem_of_find?_eq_some h, by simpa using List.find?_some h⟩

theorem findByUsername_storeCredentials (username : String) (userId : Nat) (passwordHash : String)
    (isAdmin : Bool) (db : UserDatabase) :
    findByUsername username (CreateAdmin.storeCredentials userId passwordHash isAdmin db) =
      (findByUsername username db).map fun user =>
        if user.id = userId then CreateAdmin.credentials passwordHash isAdmin user else user := by
  rw [findByUsername, CreateAdmin.storeCredentials, Table.rows_modify, List.find?_map]
  have hName : ((fun user : User => user.username == username) ∘ fun user =>
      if user.id = userId then CreateAdmin.credentials passwordHash isAdmin user else user) =
      fun user => user.username == username := by
    funext user
    simp only [Function.comp_apply]
    split <;> rfl
  exact congrArg (fun p => (db.users.rows.find? p).map _) hName

/-- The row of a name is the only one that new credentials of its user reach. -/
theorem findByUsername_update {name : String} {db : UserDatabase} {existing : User}
    (h : findByUsername name db = some existing) (username passwordHash : String) (isAdmin : Bool) :
    findByUsername username (CreateAdmin.storeCredentials existing.id passwordHash isAdmin db) =
      if username = name then some (CreateAdmin.credentials passwordHash isAdmin existing)
      else findByUsername username db := by
  rw [findByUsername_storeCredentials]
  split
  case isTrue hSame => rw [hSame, h, Option.map_some, if_pos rfl]
  case isFalse hOther =>
    obtain ⟨hMem, hName⟩ := username_of_find h
    cases hFind : findByUsername username db with
    | none => rfl
    | some user =>
      obtain ⟨hUserMem, hUserName⟩ := username_of_find hFind
      have hId : user.id ≠ existing.id := by
        intro hId
        have hUser : user = existing := List.inj_on_of_nodup_map db.users.nodup hUserMem hMem hId
        exact hOther (hUserName.symm.trans (hUser ▸ hName))
      rw [Option.map_some, if_neg hId]

theorem findByUsername_insert {db : UserDatabase} {user : User} (hId : user.id = db.users.nextKey)
    (hFree : findByUsername user.username db = none) (username : String) :
    findByUsername username (insertRow user db) =
      if username = user.username then some user else findByUsername username db := by
  rw [findByUsername, insertRow, Table.rows_insert_of_key_eq hId, List.find?_append]
  by_cases hSame : username = user.username
  · rw [findByUsername] at hFree
    simp [hSame, hFree]
  · rw [if_neg hSame, List.find?_cons_of_neg (by simpa using Ne.symm hSame), List.find?_nil,
      Option.or_none, findByUsername]

end UserRepository

namespace CreateAdmin

/-- What the session of the command leaves in the store. -/
def stored (args : Args) (passwordHash : String) (db : UserDatabase) : UserDatabase :=
  match UserRepository.findByUsername args.username db with
  | some existing =>
    if args.updateIfExists then storeCredentials existing.id passwordHash (!args.noAdmin) db else db
  | none =>
    UserRepository.insertRow
      ⟨db.users.nextKey, args.username, passwordHash, true, !args.noAdmin, none⟩ db

theorem usernameFree_of_find {username : String} {db : UserDatabase}
    (h : UserRepository.findByUsername username db = none) :
    UserRepository.usernameFree username db = true := by
  rw [UserRepository.usernameFree, List.all_eq_true]
  intro user hMem
  have hOther := List.find?_eq_none.mp h user hMem
  simpa using hOther

theorem served_store (args : Args) (passwordHash : String) (db : UserDatabase) :
    (store args passwordHash).served nothingAsked db = stored args passwordHash db := by
  rw [Program.served, store, UserRepository.getByUsername, Program.exec_query_bind, stored]
  rw [Session.opened_view]
  cases hFind : UserRepository.findByUsername args.username db with
  | none =>
    have hFree := usernameFree_of_find hFind
    rw [Program.exec_bind, UserRepository.create, Program.exec_query_bind]
    simp only [Session.opened_view, hFree, if_true]
    rfl
  | some existing =>
    simp only
    cases args.updateIfExists <;> rfl

theorem main_of_asked {scrypt : Scrypt} {call : Call} {credential : Credential}
    (h : AccountCall.asked scrypt call = some credential) :
    ∃ passwordHash, credential.hash scrypt = .ok passwordHash ∧
      credential.isAdmin = !call.args.noAdmin ∧
      main scrypt call = .ok (store call.args passwordHash) := by
  rw [AccountCall.asked] at h
  split at h
  next => cases h
  next password hRead =>
    simp only at h
    split at h
    next passwordHash hHash =>
      cases h
      refine ⟨passwordHash, hHash, rfl, ?_⟩
      rw [main, hRead]
      rw [Credential.hash] at hHash
      simp only [Except.bind, bind, hHash]
      rfl
    next => cases h

theorem main_of_not_asked {scrypt : Scrypt} {call : Call} (h : AccountCall.asked scrypt call = none) :
    ∃ error, main scrypt call = .error error := by
  rw [AccountCall.asked] at h
  split at h
  next error hRead => exact ⟨error, by rw [main, hRead]; rfl⟩
  next password hRead =>
    simp only at h
    split at h
    next => cases h
    next error hHash =>
      refine ⟨error, ?_⟩
      rw [main, hRead]
      rw [Credential.hash] at hHash
      simp only [Except.bind, bind, hHash]

end CreateAdmin

namespace AccountCall

/-- One call keeps the store a representation of the map. -/
theorem represents_step {scrypt : Scrypt} {known : Credentials} {state : AuthState}
    (h : Represents scrypt known state.db) (app : AuthApp) (call : AccountCall) :
    Represents scrypt (call.enroll scrypt known) (call.step scrypt app state).db := by
  cases call with
  | request sent =>
    rw [enroll, step, AuthRequest.db_step]
    exact h
  | createAdmin call =>
    rw [enroll, step]
    cases hAsked : asked scrypt call with
    | none =>
      obtain ⟨error, hMain⟩ := CreateAdmin.main_of_not_asked hAsked
      simp only [hMain]
      exact h
    | some credential =>
      obtain ⟨passwordHash, hHash, hAdmin, hMain⟩ := CreateAdmin.main_of_asked hAsked
      simp only [hMain, CreateAdmin.served_store, CreateAdmin.stored]
      have hName := h call.args.username
      intro username
      cases hFind : UserRepository.findByUsername call.args.username state.db with
      | none =>
        rw [hFind] at hName
        cases hKnown : known call.args.username with
        | some other => rw [hKnown] at hName; cases hName
        | none =>
          simp only [true_or, if_true]
          rw [UserRepository.findByUsername_insert rfl hFind, Function.update_apply]
          split
          · exact .some ⟨rfl, hAdmin.symm, hHash⟩
          · exact h username
      | some existing =>
        rw [hFind] at hName
        cases hKnown : known call.args.username with
        | none => rw [hKnown] at hName; cases hName
        | some other =>
          cases hUpdate : call.args.updateIfExists with
          | false => simpa [hKnown] using h username
          | true =>
            simp only [or_true, if_true]
            rw [UserRepository.findByUsername_update hFind, Function.update_apply]
            split
            · exact .some ⟨rfl, hAdmin.symm, hHash⟩
            · exact h username

/-- The map after a run of calls. -/
def credentials (scrypt : Scrypt) (calls : List AccountCall) : Credentials :=
  run (enroll scrypt) calls fun _ => none

theorem represents_run {scrypt : Scrypt} {known : Credentials} {state : AuthState}
    (h : Represents scrypt known state.db) (app : AuthApp) (calls : List AccountCall) :
    Represents scrypt (run (enroll scrypt) calls known) (run (step scrypt app) calls state).db := by
  induction calls generalizing known state with
  | nil => exact h
  | cons call calls ih => exact ih (represents_step h app call)

end AccountCall

/-! ## The login of a run -/

/-- The hasher of the routes is this one, wherever it answers. -/
def Verifies (scrypt : Scrypt) (hasher : PasswordHasher) : Prop :=
  ∀ given stored answer, PasswordHash.verifyPassword scrypt given stored = .ok answer →
    hasher.verifyPassword given stored = answer

theorem verifyPassword_eq {scrypt : Scrypt} {hasher : PasswordHasher} (h : Verifies scrypt hasher)
    {user : User} {credential : Credential} (hStores : Stores scrypt user credential) (given : String) :
    hasher.verifyPassword given user.passwordHash = true ↔ credential.Opens scrypt given := by
  have hOpens := PasswordHash.verifyPassword_eq_true_iff hStores.hash given
  obtain ⟨answer, hAnswer⟩ := PasswordHash.verifyPassword_ne_error hStores.hash given
  rw [h given user.passwordHash answer hAnswer, Credential.Opens, Credential.key, Credential.key,
    ← hOpens, hAnswer, Except.ok.injEq]

namespace AuthService

/-- How a login ends, by the row of its name. -/
theorem exec_login_fst (service : AuthService) (username password : String) (client : ClientInfo)
    (issuedAt loggedInAt : Int) (db : UserDatabase) :
    ((login service username password client issuedAt loggedInAt).exec nothingAsked (.opened db)).1 =
      match UserRepository.findByUsername username db with
      | none => .ok none
      | some user =>
        if user.isActive = true ∧ service.hasher.verifyPassword password user.passwordHash = true then
          (service.issuer.issue user.id user.username issuedAt).map fun issued =>
            some ⟨UserRepository.stamp loggedInAt user, issued⟩
        else .ok none := by
  rw [login, UserRepository.getByUsername, Program.exec_query_bind, Session.opened_view]
  cases hName : UserRepository.findByUsername username db with
  | none =>
    obtain ⟨t, hExec⟩ := exec_refuse username none client (.opened db) (by simp)
    rw [hExec]
  | some user =>
    have hFound : db.users.find? user.id = some user :=
      (Table.find?_eq_some_iff ..).mpr ⟨(UserRepository.username_of_find hName).1, rfl⟩
    obtain ⟨t, hRefuse⟩ := exec_refuse username (some user.id) client (.opened db)
      (by simp [hFound])
    simp only
    cases hActive : user.isActive with
    | false => simp [hRefuse]
    | true =>
      cases hVerify : service.hasher.verifyPassword password user.passwordHash with
      | false => simp [hRefuse]
      | true =>
        simp only [Bool.not_true, Bool.false_eq_true, if_false, and_self, if_true]
        cases hIssue : service.issuer.issue user.id user.username issuedAt with
        | error error => rfl
        | ok issued =>
          have hKnown : LoginAuditLogRepository.userKnown
              (auditRow .loginSuccess (some user.username) (some user.id) client)
              (UserRepository.storeLastLogin user.id loggedInAt db) = true := by
            simp [LoginAuditLogRepository.userKnown, auditRow, UserRepository.storeLastLogin,
              Table.find?_modify, hFound]
          let stamping : UserSession :=
            (Session.opened db).write (UserRepository.storeLastLogin user.id loggedInAt)
          have hCreate := LoginAuditLogRepository.exec_create (s := stamping) hKnown
          exact congrArg Prod.fst (Program.exec_bind_ok nothingAsked stamping hCreate _)

end AuthService

namespace AccountCall

open AuthRoutes

/-- Who a login answers with a token. -/
def identity (app : AuthApp) (call : LoginCall) (state : AuthState) : Option (String × Bool) :=
  ((AuthRequest.login call).loggedIn app state).map fun user => (user.username, user.isAdmin)

/-- A login that reaches the service is answered as the service ends. -/
theorem identity_of_reached {app : AuthApp} {call : LoginCall} {state : AuthState}
    (hConfigured : ¬ unconfigured app) (hLocked : isLocked state.bruteForce call = false) :
    identity app call state =
      match (((authService app).login call.username call.password call.client call.issuedAt
        call.loggedInAt).exec nothingAsked (.opened state.db)).1 with
      | .ok (some result) => some (result.user.username, result.user.isAdmin)
      | .ok none => none
      | .error _ => none := by
  rw [identity, AuthRequest.loggedIn, AuthRequest.loginEnding, AuthRoutes.login, if_neg hConfigured,
    if_neg (ne_true_of_eq_false hLocked), Program.exec_bind, Program.exec_attempt]
  rcases ((authService app).login call.username call.password call.client call.issuedAt
    call.loggedInAt).exec nothingAsked (.opened state.db) with ⟨ending, t⟩
  cases ending with
  | error error => cases error <;> rfl
  | ok result => cases result <;> rfl

theorem secret_of_unconfigured {app : AuthApp} (h : unconfigured app) :
    (authService app).issuer.secret = "" := by
  simp [authService, jwtIssuer, h.1, h.2]

theorem identity_eq (app : AuthApp) (call : LoginCall) (state : AuthState) :
    identity app call state =
      if (authService app).issuer.secret = "" ∨ isLocked state.bruteForce call = true then none
      else (UserRepository.findByUsername call.username state.db).bind fun user =>
        if user.isActive = true ∧ app.hasher.verifyPassword call.password user.passwordHash = true then
          some (user.username, user.isAdmin)
        else none := by
  by_cases hConfigured : unconfigured app
  · rw [if_pos (.inl (secret_of_unconfigured hConfigured)), identity,
      AuthRequest.loggedIn_of_unconfigured hConfigured, Option.map_none]
  cases hLocked : isLocked state.bruteForce call with
  | true =>
    rw [if_pos (.inr rfl), identity, AuthRequest.loggedIn, AuthRequest.loginEnding, AuthRoutes.login,
      if_neg hConfigured, if_pos hLocked,
      Program.exec_bind_ok nothingAsked _ (LoginAuditLogRepository.exec_create rfl)]
    rfl
  | false =>
    rw [identity_of_reached hConfigured hLocked, AuthService.exec_login_fst]
    cases UserRepository.findByUsername call.username state.db with
    | none => simp
    | some user =>
      by_cases hSecret : (authService app).issuer.secret = ""
      · simp only [hSecret, true_or, if_true]
        split
        next hResult =>
          split at hResult
          · simp [JwtIssuer.issue, hSecret, Except.map] at hResult
          · cases hResult
        next => rfl
        next => rfl
      · simp only [hSecret, Bool.false_eq_true, or_self, if_false, Option.bind_some]
        simp only [JwtIssuer.issue, if_neg hSecret, Except.map]
        by_cases hOpens : user.isActive = true ∧
            (authService app).hasher.verifyPassword call.password user.passwordHash = true
        · rw [if_pos hOpens]
          exact (if_pos hOpens).symm
        · rw [if_neg hOpens]
          exact (if_neg hOpens).symm

/-- In every run, a login is answered with a token exactly if the last credential stored for the name
opens to the password: whatever the other calls were, and at whichever costs it was stored. -/
theorem identity_run_iff {scrypt : Scrypt} {app : AuthApp} (hHasher : Verifies scrypt app.hasher)
    (bruteForce : Option BruteForceGuard) (calls : List AccountCall) (call : LoginCall)
    (username : String) (isAdmin : Bool) :
    identity app call (run (step scrypt app) calls ⟨bruteForce, .empty⟩) = some (username, isAdmin) ↔
      username = call.username ∧ (authService app).issuer.secret ≠ "" ∧
      isLocked (run (step scrypt app) calls ⟨bruteForce, .empty⟩).bruteForce call = false ∧
      ∃ credential ∈ credentials scrypt calls username,
        credential.isAdmin = isAdmin ∧ credential.Opens scrypt call.password := by
  have hEmpty : Represents scrypt (fun _ => none) (AuthState.mk bruteForce .empty).db :=
    fun username => .none
  have hRun : Represents scrypt (credentials scrypt calls) _ := represents_run hEmpty app calls
  generalize run (step scrypt app) calls ⟨bruteForce, .empty⟩ = state at hRun ⊢
  have hName := hRun call.username
  rw [identity_eq, ite_eq_iff]
  cases hFind : UserRepository.findByUsername call.username state.db with
  | none =>
    rw [hFind] at hName
    cases hKnown : credentials scrypt calls call.username with
    | some credential => rw [hKnown] at hName; cases hName
    | none =>
      simp only [Option.bind_none, reduceCtorEq, and_false, or_self, false_iff]
      rintro ⟨rfl, -, -, credential, hMem, -⟩
      rw [hKnown] at hMem
      cases hMem
  | some user =>
    have hUsername := (UserRepository.username_of_find hFind).2
    rw [hFind] at hName
    cases hKnown : credentials scrypt calls call.username with
    | none => rw [hKnown] at hName; cases hName
    | some credential =>
      rw [hKnown] at hName
      cases hName with
      | some hStores =>
        have hOpens : (user.isActive = true ∧
            app.hasher.verifyPassword call.password user.passwordHash = true) ↔
            credential.Opens scrypt call.password := by
          rw [verifyPassword_eq hHasher hStores, hStores.active, eq_self_iff_true, true_and]
        simp only [Option.bind_some, hUsername, hStores.admin]
        constructor
        · rintro (⟨-, hNone⟩ | ⟨hReached, hSome⟩)
          · cases hNone
          obtain ⟨hKey, hSame⟩ := Option.ite_none_right_eq_some.mp hSome
          obtain ⟨rfl, rfl⟩ := Prod.mk.inj (Option.some.inj hSame)
          rw [not_or, Bool.not_eq_true] at hReached
          exact ⟨rfl, hReached.1, hReached.2, credential, hKnown, rfl, hOpens.mp hKey⟩
        · rintro ⟨rfl, hSecret, hLocked, other, hMem, rfl, hKey⟩
          cases hKnown.symm.trans hMem
          right
          rw [not_or, Bool.not_eq_true, if_pos (hOpens.mpr hKey)]
          exact ⟨⟨hSecret, hLocked⟩, rfl⟩

/-- Scrypt at one password and salt. -/
def sampleScrypt : Scrypt where
  takes _ _ _ := true
  derive password salt n r p dklen :=
    if password = "hunter2!".toUTF8.toList ∧ salt = (List.range 16).map UInt8.ofNat ∧ n = 1024 ∧
        r = 8 ∧ p = 1 ∧ dklen = 32 then
      some [182, 124, 253, 196, 122, 179, 34, 217, 233, 78, 170, 20, 22, 90, 237, 32, 236, 12,
        160, 139, 183, 147, 194, 6, 35, 223, 245, 254, 252, 68, 76, 210]
    else none
  length_derive password salt n r p dklen key hKey := by
    obtain ⟨hInput, hSome⟩ := Option.ite_none_right_eq_some.mp hKey
    cases hSome
    exact hInput.2.2.2.2.2.symm

def sampleCommand : CreateAdmin.Call where
  args := ⟨"admin", none, false, false⟩
  environ := some "hunter2!"
  prompted := ""
  confirmed := ""
  costs := ⟨1024, 8, 1⟩
  salt := (List.range 16).map UInt8.ofNat

def verifyingApp : AuthApp where
  __ := AuthRequest.sampleApp
  hasher := ⟨fun given stored => (PasswordHash.verifyPassword sampleScrypt given stored).toOption.getD false⟩

def adminLogin : LoginCall := { AuthRequest.unknownUser with username := "admin", password := "hunter2!" }

theorem verifies_sample : Verifies sampleScrypt verifyingApp.hasher := by
  intro given stored answer hAnswer
  simp only [verifyingApp, hAnswer, Except.toOption, Option.getD_some]

theorem identity_run_sample : identity verifyingApp adminLogin
    (run (step sampleScrypt verifyingApp)
      [.request (.login AuthRequest.unknownUser), .createAdmin sampleCommand] ⟨none, .empty⟩) =
      some ("admin", true) :=
  (identity_run_iff verifies_sample none _ adminLogin "admin" true).mpr
    ⟨rfl, by decide, by decide +kernel,
      ⟨⟨1024, 8, 1⟩, (List.range 16).map UInt8.ofNat, "hunter2!", true⟩, by decide +kernel, rfl, rfl⟩

end AccountCall

end StockAiPlatform
