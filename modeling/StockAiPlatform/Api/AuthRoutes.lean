import StockAiPlatform.Auth.BruteForce
import StockAiPlatform.Auth.Security
import StockAiPlatform.Transaction.Atomic
import StockAiPlatform.Transaction.Run

/-! # The login and logout routes

Each request works on a session of its own, which is closed at the end; the
guard lives in the process. What a handler stages reaches the store only by a
commit, and neither the routes nor the service under them makes one.
-/

namespace StockAiPlatform
set_option autoImplicit false

open Transaction Python

structure AuthSettings where
  authEnabled : Bool
  jwtSecret : String
  jwtExpiresMinutes : Int

/-- The settings with what the dependencies of the routes are built from. -/
structure AuthApp where
  settings : AuthSettings
  ephemeralSecret : String
  hasher : PasswordHasher
  encode : (secret : String) → (userId : Nat) → (username : String) → (issuedAt expiresAt : Int) → String
  decode : (secret : String) → (token : String) → Except TokenError DecodedToken

structure LoginUser where
  id : Nat
  username : String
  isAdmin : Bool

structure LoginResponse where
  accessToken : String
  tokenType : String := "bearer"
  expiresIn : Int
  issuedAt : Int
  expiresAt : Int
  user : LoginUser

/-- A login request past the rate limiter. The times are the readings of the two clocks. -/
structure LoginCall where
  username : String
  password : String
  client : ClientInfo
  checkedAt : ℚ
  issuedAt : Int
  loggedInAt : Int
  countedAt : ℚ

/-- `credentials` are the scheme and the token of the Authorization header. -/
structure LogoutCall where
  credentials : Option (String × String)
  client : ClientInfo

namespace AuthRoutes

def genericLoginError : UserError := .http 401 "invalid username or password"

def jwtIssuer (app : AuthApp) : JwtIssuer where
  secret := if app.settings.jwtSecret = "" ∧ app.settings.authEnabled = false
    then app.ephemeralSecret else app.settings.jwtSecret
  expiresMinutes := app.settings.jwtExpiresMinutes
  encode := app.encode
  decode := app.decode

def authService (app : AuthApp) : AuthService := ⟨app.hasher, jwtIssuer app⟩

def getCurrentUser (app : AuthApp) (credentials : Option (String × String)) :
    Except UserError AuthenticatedUser :=
  if app.settings.authEnabled = false then .ok ⟨1, none⟩
  else
    match credentials with
    | none => .error (.http 401 "authentication required")
    | some (scheme, token) =>
      if lower scheme.toList ≠ "bearer".toList then .error (.http 401 "authentication required")
      else if (jwtIssuer app).secret = "" then
        .error (.missingSecret ("JWT_SECRET is not configured. Set the JWT_SECRET environment "
          ++ "variable when AUTH_ENABLED=true."))
      else
        match app.decode (jwtIssuer app).secret token with
        | .error .expired => .error (.http 401 "token expired")
        | .error .invalid => .error (.http 401 "invalid token")
        | .ok decoded => .ok ⟨decoded.userId, some decoded.username⟩

def isLocked (bruteForce : Option BruteForceGuard) (call : LoginCall) : Bool :=
  bruteForce.any fun state =>
    state.isLocked call.username (hashForAudit call.client.sourceIp) call.checkedAt

def loginResponse (result : LoginResult) : LoginResponse where
  accessToken := result.issued.token
  expiresIn := max 0 ((result.issued.expiresAt - result.issued.issuedAt).tdiv 1000000)
  issuedAt := result.issued.issuedAt
  expiresAt := result.issued.expiresAt
  user := ⟨result.user.id, result.user.username, result.user.isAdmin⟩

/-- `AUTH_ENABLED` without a secret, which startup should have caught. -/
def unconfigured (app : AuthApp) : Prop :=
  app.settings.authEnabled = true ∧ app.settings.jwtSecret = ""

instance (app : AuthApp) : Decidable (unconfigured app) := inferInstanceAs (Decidable (_ ∧ _))

/-- The answer, and the guard as the request leaves it. -/
def login (app : AuthApp) (bruteForce : Option BruteForceGuard) (call : LoginCall) :
    UserApp (Option BruteForceGuard × Except UserError LoginResponse) :=
  let ipHash := hashForAudit call.client.sourceIp
  if unconfigured app then
    pure (bruteForce, .error (.http 503 "auth is enabled but JWT_SECRET is not configured"))
  else if isLocked bruteForce call then do
    LoginAuditLogRepository.create
      (AuthService.auditRow .lockoutRejected (some call.username) none call.client)
    pure (bruteForce, .error genericLoginError)
  else do
    match ← ((authService app).login call.username call.password call.client call.issuedAt
      call.loggedInAt).attempt with
    | .error (.missingSecret _) => pure (bruteForce, .error (.http 503 "auth is unavailable"))
    | .error error => .raise error
    | .ok none =>
      pure (bruteForce.map fun state => state.recordFailure call.username ipHash call.countedAt,
        .error genericLoginError)
    | .ok (some result) =>
      pure (bruteForce.map fun state => state.recordSuccess call.username ipHash,
        .ok (loginResponse result))

/-- The dependencies come first: without a current user the handler is not reached. -/
def logout (app : AuthApp) (call : LogoutCall) : UserApp Unit := do
  let current ← .ofExcept (getCurrentUser app call.credentials)
  AuthService.recordLogout current call.client

theorem commitFree_login (app : AuthApp) (bruteForce : Option BruteForceGuard) (call : LoginCall) :
    (login app bruteForce call).CommitFree := by
  refine Program.CommitFree.ite trivial (Program.CommitFree.ite ?_ ?_)
  · exact (LoginAuditLogRepository.commitFree_create _).bind fun _ => trivial
  · refine (AuthService.commitFree_login (authService app) call.username call.password call.client
      call.issuedAt call.loggedInAt).attempt.bind fun ending => ?_
    cases ending with
    | error error => cases error <;> trivial
    | ok result => cases result <;> trivial

theorem commitFree_logout (app : AuthApp) (call : LogoutCall) : (logout app call).CommitFree := by
  refine (Program.commitFree_ofExcept _).bind fun current => ?_
  exact LoginAuditLogRepository.commitFree_create _

end AuthRoutes

structure AuthState where
  bruteForce : Option BruteForceGuard
  db : UserDatabase

inductive AuthRequest where
  | login (call : LoginCall)
  | logout (call : LogoutCall)

namespace AuthRequest

open AuthRoutes

/-- How the login ends for the client, and the session at its end. -/
def loginEnding (app : AuthApp) (call : LoginCall) (state : AuthState) :
    Except UserError (Option BruteForceGuard × Except UserError LoginResponse) × UserSession :=
  (AuthRoutes.login app state.bruteForce call).exec nothingAsked (.opened state.db)

/-- A request, after which its session is closed: only what was committed is stored. -/
def step (app : AuthApp) (request : AuthRequest) (state : AuthState) : AuthState :=
  match request with
  | login call =>
    match loginEnding app call state with
    | (.ok (bruteForce, _), s) => ⟨bruteForce, s.durable⟩
    | (.error _, s) => ⟨state.bruteForce, s.durable⟩
  | logout call =>
    ⟨state.bruteForce, (AuthRoutes.logout app call).served nothingAsked state.db⟩

/-- A logout reaches its handler if there is a current user, a login where a secret is set. -/
def Reaches (app : AuthApp) : AuthRequest → Prop
  | login _ => ¬ unconfigured app
  | logout call => ∃ user, getCurrentUser app call.credentials = .ok user

/-- The user a login answers with a token. -/
def loggedIn (app : AuthApp) (request : AuthRequest) (state : AuthState) : Option LoginUser :=
  match request with
  | logout _ => none
  | login call =>
    match (loginEnding app call state).1 with
    | .ok (_, .ok response) => some response.user
    | .ok (_, .error _) | .error _ => none

/-- The event of a request that reaches its handler, by what becomes of it. -/
def event (app : AuthApp) (request : AuthRequest) (state : AuthState) : Option LoginEvent :=
  match request with
  | login call =>
    if unconfigured app then none
    else if isLocked state.bruteForce call then some .lockoutRejected
    else if (loggedIn app (login call) state).isSome then some .loginSuccess
    else some .loginFailed
  | logout call =>
    match getCurrentUser app call.credentials with
    | .ok _ => some .logout
    | .error _ => none

/-- The events of a run, one for each request that reached its handler. -/
def events (app : AuthApp) : List AuthRequest → AuthState → List LoginEvent
  | [], _ => []
  | request :: requests, state =>
    (request.event app state).toList ++ events app requests (request.step app state)

def LastLoginStored (app : AuthApp) (request : AuthRequest) (state : AuthState) : Prop :=
  match request with
  | login call => ∀ user ∈ loggedIn app (login call) state,
    (((login call).step app state).db.users.find? user.id).bind User.lastLoginAt = some call.loggedInAt
  | logout _ => True

structure AuditExact (app : AuthApp) (requests : List AuthRequest) (state : AuthState) : Prop where
  rows : ∃ rows, (run (step app) requests state).db.loginAuditLogs = state.db.loginAuditLogs ++ rows ∧
    rows.map LoginAuditLog.eventType = events app requests state
  lastLogin : Along (step app) (LastLoginStored app) requests state

theorem db_step (app : AuthApp) (request : AuthRequest) (state : AuthState) :
    (request.step app state).db = state.db := by
  cases request with
  | login call =>
    have hDurable := (commitFree_login app state.bruteForce call).durable_exec nothingAsked
      (.opened state.db)
    change (loginEnding app call state).2.durable = state.db at hDurable
    cases hEnding : loginEnding app call state with
    | mk ending s =>
      rw [hEnding] at hDurable
      simp only [step, hEnding]
      cases ending <;> exact hDurable
  | logout call =>
    exact (commitFree_logout app call).durable_exec nothingAsked (.opened state.db)

theorem db_run (app : AuthApp) (requests : List AuthRequest) (state : AuthState) :
    (run (step app) requests state).db = state.db := by
  induction requests generalizing state with
  | nil => rfl
  | cons request requests ih => exact (ih _).trans (db_step app request state)

theorem event_eq_none_iff (app : AuthApp) (request : AuthRequest) (state : AuthState) :
    request.event app state = none ↔ ¬ request.Reaches app := by
  cases request with
  | login call =>
    by_cases hConfigured : unconfigured app
    · simp [event, Reaches, hConfigured]
    · simp only [event, Reaches, hConfigured, if_false, not_false_eq_true, not_true_eq_false, iff_false]
      split
      · simp
      · split <;> simp
  | logout call =>
    cases hUser : getCurrentUser app call.credentials <;> simp [event, Reaches, hUser]

theorem events_eq_nil_iff (app : AuthApp) (requests : List AuthRequest) (state : AuthState) :
    events app requests state = [] ↔ ∀ request ∈ requests, ¬ request.Reaches app := by
  induction requests generalizing state with
  | nil => simp [events]
  | cons request requests ih =>
    rw [events, List.append_eq_nil_iff, Option.toList_eq_nil_iff, event_eq_none_iff, ih,
      List.forall_mem_cons]

theorem loggedIn_of_unconfigured {app : AuthApp} (h : unconfigured app) (call : LoginCall)
    (state : AuthState) : loggedIn app (login call) state = none := by
  simp only [loggedIn, loginEnding, AuthRoutes.login, if_pos h, Program.exec_pure]

theorem events_of_rows {app : AuthApp} {requests : List AuthRequest} {state : AuthState}
    (h : AuditExact app requests state) : events app requests state = [] := by
  obtain ⟨rows, hRows, hEvents⟩ := h.rows
  rw [db_run, List.self_eq_append_right] at hRows
  rw [← hEvents, hRows]
  rfl

/-- Nothing is ever committed, so the audit is exact only where there was nothing to record. -/
theorem auditExact_iff (app : AuthApp) (requests : List AuthRequest) (state : AuthState) :
    AuditExact app requests state ↔ ∀ request ∈ requests, ¬ request.Reaches app := by
  constructor
  · exact fun hExact => (events_eq_nil_iff app requests state).mp (events_of_rows hExact)
  · intro hUnreached
    refine ⟨⟨[], ?_, ((events_eq_nil_iff app requests state).mpr hUnreached).symm⟩, ?_⟩
    · rw [db_run, List.append_nil]
    · refine Along.of_forall (fun request hMem before => ?_) state
      cases request with
      | login call =>
        intro user hUser
        rw [loggedIn_of_unconfigured (not_not.mp (hUnreached _ hMem))] at hUser
        cases hUser
      | logout call => trivial

def sampleApp : AuthApp where
  settings := ⟨true, "jwt-secret", 60⟩
  ephemeralSecret := ""
  hasher := ⟨fun _ _ => false⟩
  encode _ _ username _ _ := username
  decode _ _ := .error .invalid

def unknownUser : LoginCall where
  username := "ghost"
  password := "guess"
  client := ⟨none, none⟩
  checkedAt := 0
  issuedAt := 0
  loggedInAt := 0
  countedAt := 0

/-- A failed login answers 401, and its audit row is gone with the session. -/
theorem unknownUser_unaudited : ¬ AuditExact sampleApp [.login unknownUser] ⟨none, .empty⟩ := by
  intro hExact
  have hNone := events_of_rows hExact
  rw [events_eq_nil_iff] at hNone
  refine hNone _ List.mem_cons_self ?_
  rintro ⟨-, hSecret⟩
  exact absurd hSecret (by decide)

end AuthRequest

end StockAiPlatform
