import StockAiPlatform.Db.UserModels
import StockAiPlatform.Python.Hashlib
import StockAiPlatform.Transaction.Trail

/-! # The authentication service

`login` and `record_logout` with the repositories under them. Every path of a
login adds one row to the audit, and none of them commits.
-/

namespace StockAiPlatform
set_option autoImplicit false

open Transaction Python

/-- `hash_for_audit`. -/
def hashForAudit (value : Option String) : Option String :=
  value.bind fun text =>
    let stripped := String.ofList (strip text.toList)
    if stripped = "" then none else some (sha256Hexdigest stripped)

namespace UserRepository

def findByUsername (username : String) (db : UserDatabase) : Option User :=
  db.users.rows.find? fun user => user.username == username

def getByUsername (username : String) : UserApp (Option User) :=
  Program.query (.userByUsername username) (findByUsername username)

def stamp (now : Int) (user : User) : User := { user with lastLoginAt := some now }

theorem id_stamp (now : Int) (user : User) : (stamp now user).id = user.id := rfl

def storeLastLogin (userId : Nat) (now : Int) (db : UserDatabase) : UserDatabase :=
  { db with users := db.users.modify userId (stamp now) (id_stamp now) }

def setLastLogin (user : User) (now : Int) : UserApp User := do
  Program.modify (storeLastLogin user.id now)
  pure (stamp now user)

end UserRepository

namespace LoginAuditLogRepository

def append (row : LoginAuditLog) (db : UserDatabase) : UserDatabase :=
  { db with loginAuditLogs := db.loginAuditLogs ++ [row] }

def userKnown (row : LoginAuditLog) (db : UserDatabase) : Bool :=
  row.userId.all fun userId => (db.users.find? userId).isSome

/-- The insert with its foreign key; an event type of its own type needs no check. -/
def create (row : LoginAuditLog) : UserApp Unit := do
  if ← Program.query (.constraint "login_audit_logs.user_id") (userKnown row) then
    Program.modify (append row)
  else .raise .integrity

theorem exec_create {row : LoginAuditLog} {s : UserSession} (h : userKnown row s.view = true) :
    (create row).exec nothingAsked s = (.ok (), s.write (append row)) := by
  rw [create, Program.exec_query_bind, h]
  rfl

theorem commitFree_create (row : LoginAuditLog) : (create row).CommitFree := by
  refine (Program.commitFree_query _ _).bind fun known => ?_
  exact Program.CommitFree.ite trivial trivial

end LoginAuditLogRepository

/-- Injected into the service; a malformed hash verifies nothing. -/
structure PasswordHasher where
  verifyPassword : (password stored : String) → Bool

inductive TokenError where
  | expired | invalid
  deriving DecidableEq, Repr

structure DecodedToken where
  userId : Nat
  username : String

structure IssuedToken where
  token : String
  issuedAt : Int
  expiresAt : Int

/-- The secret and lifetime of the tokens, with the JWT library's two functions. -/
structure JwtIssuer where
  secret : String
  expiresMinutes : Int
  encode : (secret : String) → (userId : Nat) → (username : String) → (issuedAt expiresAt : Int) → String
  decode : (secret : String) → (token : String) → Except TokenError DecodedToken

def JwtIssuer.issue (issuer : JwtIssuer) (userId : Nat) (username : String) (now : Int) :
    Except UserError IssuedToken :=
  let expiresAt := now + issuer.expiresMinutes * 60 * 1000000
  if issuer.secret = "" then
    .error (.missingSecret ("JWT_SECRET is not configured. Set the JWT_SECRET environment "
      ++ "variable when AUTH_ENABLED=true."))
  else .ok {
    token := issuer.encode issuer.secret userId username now expiresAt
    issuedAt := now
    expiresAt := expiresAt }

structure AuthService where
  hasher : PasswordHasher
  issuer : JwtIssuer

structure LoginResult where
  user : User
  issued : IssuedToken

/-- `AuthenticatedUser`, of a token or of the development fallback. -/
structure AuthenticatedUser where
  userId : Nat
  username : Option String

/-- Who asks, as the request shows it. -/
structure ClientInfo where
  sourceIp : Option String
  userAgent : Option String

namespace AuthService

def auditRow (event : LoginEvent) (username : Option String) (userId : Option Nat) (client : ClientInfo) :
    LoginAuditLog where
  eventType := event
  username := username
  userId := userId
  sourceIpHash := hashForAudit client.sourceIp
  userAgentHash := hashForAudit client.userAgent

def refuse (username : String) (userId : Option Nat) (client : ClientInfo) :
    UserApp (Option LoginResult) := do
  LoginAuditLogRepository.create (auditRow .loginFailed (some username) userId client)
  pure none

/-- `issuedAt` and `loggedInAt` are the two readings of the clock. -/
def login (service : AuthService) (username password : String) (client : ClientInfo)
    (issuedAt loggedInAt : Int) : UserApp (Option LoginResult) := do
  match ← UserRepository.getByUsername username with
  | none => refuse username none client
  | some user =>
    if !user.isActive then refuse username (some user.id) client
    else if !service.hasher.verifyPassword password user.passwordHash then
      refuse username (some user.id) client
    else do
      let issued ← .ofExcept (service.issuer.issue user.id user.username issuedAt)
      let stamped ← UserRepository.setLastLogin user loggedInAt
      LoginAuditLogRepository.create
        (auditRow .loginSuccess (some user.username) (some user.id) client)
      return some { user := stamped, issued := issued }

def recordLogout (user : AuthenticatedUser) (client : ClientInfo) : UserApp Unit :=
  LoginAuditLogRepository.create (auditRow .logout user.username (some user.userId) client)

theorem commitFree_refuse (username : String) (userId : Option Nat) (client : ClientInfo) :
    (refuse username userId client).CommitFree :=
  (LoginAuditLogRepository.commitFree_create _).bind fun _ => trivial

theorem commitFree_login (service : AuthService) (username password : String) (client : ClientInfo)
    (issuedAt loggedInAt : Int) :
    (login service username password client issuedAt loggedInAt).CommitFree := by
  have hRefuse : ∀ userId, (refuse username userId client).CommitFree :=
    fun userId => commitFree_refuse username userId client
  refine (Program.commitFree_query _ _).bind fun found => ?_
  cases found with
  | none => exact hRefuse none
  | some user =>
    refine Program.CommitFree.ite (hRefuse (some user.id)) ?_
    refine Program.CommitFree.ite (hRefuse (some user.id)) ?_
    refine (Program.commitFree_ofExcept _).bind fun issued => ?_
    refine Program.CommitFree.bind (p := UserRepository.setLastLogin user loggedInAt) trivial fun stamped => ?_
    exact (LoginAuditLogRepository.commitFree_create _).bind fun _ => trivial

theorem exec_refuse (username : String) (userId : Option Nat) (client : ClientInfo) (s : UserSession)
    (hKnown : ∀ k ∈ userId, (s.view.users.find? k).isSome) :
    ∃ t, (refuse username userId client).exec nothingAsked s = (.ok none, t) := by
  have hUser : LoginAuditLogRepository.userKnown
      (auditRow .loginFailed (some username) userId client) s.view = true := by
    cases userId with
    | none => rfl
    | some k => exact hKnown k rfl
  rw [refuse, Program.exec_bind_ok nothingAsked s (LoginAuditLogRepository.exec_create hUser)]
  exact ⟨_, rfl⟩

end AuthService

end StockAiPlatform
