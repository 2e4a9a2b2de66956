import StockAiPlatform.Approval.ApprovalRuns
import StockAiPlatform.Auth.Security

/-! # The approval routes

Each request opens a session of its own. A route commits after the service
returned; where the service raises, the exception becomes an HTTP one and the
session is closed without a commit.
-/

namespace StockAiPlatform
set_option autoImplicit false

open Transaction Python

/-- What authentication and the request's headers say of the caller. -/
structure Caller where
  userId : Nat
  clientIp : Option String := none
  userAgent : Option String := none

/-- A body past its validators, the strings stripped and upper-cased by them. -/
structure CreateOrderCandidateRequest where
  symbol : String
  side : Side
  quantity : Int
  orderType : OrderType := .market
  limitPrice : Option ℚ := none
  estimatedAmount : Option ℚ := none
  source : CandidateSource := .manual
  sourceRefId : Option Int := none
  accountId : Option Nat := none
  ttlMinutes : Option Int := none
  symbol_ok : symbol ≠ "" ∧ symbol.length ≤ 32
  quantity_pos : 0 < quantity
  limitPrice_pos : ∀ price ∈ limitPrice, 0 < price
  estimatedAmount_nonneg : ∀ amount ∈ estimatedAmount, 0 ≤ amount
  ttlMinutes_ok : ∀ minutes ∈ ttlMinutes, 0 < minutes ∧ minutes ≤ 24 * 60

namespace ApprovalRoutes

def requireTradingSafetyEnabled (settings : Settings) : App Unit :=
  if settings.tradingSafetyEnabled then pure ()
  else .raise (.http 503 ("approval workflow is disabled — set TRADING_SAFETY_ENABLED=true "
    ++ "in operator-private .env to opt in"))

def requireKillSwitchOff (settings : Settings) : App Unit :=
  if settings.killSwitchEnabled then
    .raise (.http 503 ("kill switch is ON — set KILL_SWITCH_ENABLED=false in "
      ++ "operator-private .env to opt out of the paranoid default"))
  else pure ()

def buildActor (caller : Caller) : ApprovalActor where
  userId := some caller.userId
  ipHash := hashForAudit caller.clientIp
  userAgentHash := hashForAudit caller.userAgent

def resolveAccountId (requested : Option Nat) (userId : Nat) : App Nat := do
  let account ← VirtualAccountRepository.resolve "virtual account not found"
    "no virtual account exists for this user" requested (some userId)
  pure account.id

def saysNotFound (message : String) : Bool := isIn "not found".toList message.toList

/-- The `except` clauses of the four routes. What none of them names goes through. -/
def createError : PyError → PyError
  | .killSwitchBlocked message => .http 503 message
  | .tradingSafetyDisabled message => .http 503 message
  | .candidateValidation message => .http 422 message
  | error => error

def approveError : PyError → PyError
  | .killSwitchBlocked message => .http 503 message
  | .approvalDenied message _ =>
    if saysNotFound message then .http 404 message else .http 409 message
  | .tradingSafetyDisabled message | .approvalService message =>
    if saysNotFound message then .http 404 message else .http 500 message
  | error => error

def rejectError : PyError → PyError
  | .killSwitchBlocked message => .http 503 message
  | .approvalDenied message _ =>
    if saysNotFound message then .http 404 message else .http 409 message
  | .tradingSafetyDisabled message =>
    if saysNotFound message then .http 404 message else .tradingSafetyDisabled message
  | .approvalService message =>
    if saysNotFound message then .http 404 message else .approvalService message
  | error => error

def expireError : PyError → PyError
  | .approvalDenied message _ => .http 409 message
  | .killSwitchBlocked message =>
    if saysNotFound message then .http 404 message else .killSwitchBlocked message
  | .tradingSafetyDisabled message =>
    if saysNotFound message then .http 404 message else .tradingSafetyDisabled message
  | .approvalService message =>
    if saysNotFound message then .http 404 message else .approvalService message
  | error => error

/-- `try`, the `except` clauses, and the commit after a normal return. -/
def committing {α : Type} (exceptClauses : PyError → PyError) (p : App α) : App α := do
  match ← p.attempt with
  | .ok result =>
    Program.committed
    pure result
  | .error error => .raise (exceptClauses error)

/-- The call the create route makes of a body; a missing amount becomes zero. -/
def createCall (payload : CreateOrderCandidateRequest) (accountId : Nat) (caller : Caller)
    (now createdAt : Int) (upper : String → String) : ApprovalService.CreateCall where
  draft := {
    accountId := accountId
    source := payload.source.value
    symbol := payload.symbol
    side := payload.side.value
    quantity := payload.quantity
    orderType := payload.orderType.value
    limitPrice := payload.limitPrice
    estimatedAmount := payload.estimatedAmount.getD 0
    sourceRefId := payload.sourceRefId
    expiresAt := none }
  ttl := payload.ttlMinutes.map (· * 60 * 1000000)
  actor := buildActor caller
  now := now
  createdAt := createdAt
  upper := upper

def createCandidate (settings : Settings) (payload : CreateOrderCandidateRequest) (caller : Caller)
    (now createdAt : Int) (upper : String → String) : App CreateCandidateResult := do
  requireTradingSafetyEnabled settings
  requireKillSwitchOff settings
  let accountId ← resolveAccountId payload.accountId caller.userId
  committing createError (ApprovalService.createCandidate (.ofSettings settings)
    (createCall payload accountId caller now createdAt upper))

def approveCandidate (settings : Settings) (candidateId : Nat) (caller : Caller) (now : Int) :
    App ApproveResult := do
  requireTradingSafetyEnabled settings
  requireKillSwitchOff settings
  committing approveError
    (ApprovalService.approve (.ofSettings settings) candidateId (buildActor caller) now)

def rejectCandidate (settings : Settings) (candidateId : Nat) (caller : Caller) (reason : String) :
    App OrderCandidate := do
  requireTradingSafetyEnabled settings
  requireKillSwitchOff settings
  committing rejectError
    (ApprovalService.reject (.ofSettings settings) candidateId (buildActor caller) reason)

/-- The kill switch does not stop an expiry. -/
def expireCandidate (settings : Settings) (candidateId : Nat) (caller : Caller) :
    App OrderCandidate := do
  requireTradingSafetyEnabled settings
  committing expireError (ApprovalService.expire candidateId (buildActor caller))

theorem served_committing {α : Type} {p : App α} (hp : p.CommitFree)
    (exceptClauses : PyError → PyError) (answer : Answer) (db : Database) :
    (committing exceptClauses p).served answer db = p.atomically answer db :=
  Program.served_attempt hp (fun value => ⟨value, rfl⟩) fun _ => trivial

section Gates

variable {settings : Settings} {answer : Answer} {s : DbSession}

theorem exec_requireTradingSafetyEnabled :
    (requireTradingSafetyEnabled settings).exec answer s =
      (if settings.tradingSafetyEnabled then .ok ()
        else .error (.http 503 ("approval workflow is disabled — set TRADING_SAFETY_ENABLED=true "
          ++ "in operator-private .env to opt in")), s) := by
  unfold requireTradingSafetyEnabled
  split <;> rfl

theorem exec_requireKillSwitchOff :
    (requireKillSwitchOff settings).exec answer s =
      (if settings.killSwitchEnabled then
          .error (.http 503 ("kill switch is ON — set KILL_SWITCH_ENABLED=false in "
            ++ "operator-private .env to opt out of the paranoid default"))
        else .ok (), s) := by
  unfold requireKillSwitchOff
  split <;> rfl

theorem exec_resolveAccountId (answer : Answer) (s : DbSession) (requested : Option Nat)
    (userId : Nat) :
    (resolveAccountId requested userId).exec answer s =
      (match VirtualAccountRepository.resolved? requested (some userId) s.view with
        | some account => .ok account.id
        | none => .error (.http 404 (if requested.isSome then "virtual account not found"
          else "no virtual account exists for this user")), s) := by
  rw [resolveAccountId, Program.exec_bind, VirtualAccountRepository.exec_resolve]
  cases VirtualAccountRepository.resolved? requested (some userId) s.view <;> rfl

end Gates

end ApprovalRoutes

inductive ApprovalRequest where
  | create (payload : CreateOrderCandidateRequest) (caller : Caller) (now createdAt : Int)
    (upper : String → String)
  | approve (candidateId : Nat) (caller : Caller) (now : Int)
  | reject (candidateId : Nat) (caller : Caller) (reason : String)
  | expire (candidateId : Nat) (caller : Caller)

namespace ApprovalRequest

open ApprovalRoutes

def step (settings : Settings) (request : ApprovalRequest) (db : Database) : Database :=
  match request with
  | create payload caller now createdAt upper =>
    (createCandidate settings payload caller now createdAt upper).served unasked db
  | approve candidateId caller now =>
    (approveCandidate settings candidateId caller now).served unasked db
  | reject candidateId caller reason =>
    (rejectCandidate settings candidateId caller reason).served unasked db
  | expire candidateId caller => (expireCandidate settings candidateId caller).served unasked db

def gatesOpen (settings : Settings) : ApprovalRequest → Bool
  | create .. | approve .. | reject .. =>
    settings.tradingSafetyEnabled && !settings.killSwitchEnabled
  | expire .. => settings.tradingSafetyEnabled

/-- The call of the service behind the gates, if the route gets that far. -/
def call? (db : Database) : ApprovalRequest → Option ApprovalCall
  | create payload caller now createdAt upper =>
    (VirtualAccountRepository.resolved? payload.accountId (some caller.userId) db).map fun account =>
      .create (createCall payload account.id caller now createdAt upper)
  | approve candidateId caller now => some (.approve candidateId (buildActor caller) now)
  | reject candidateId caller reason => some (.reject candidateId (buildActor caller) reason)
  | expire candidateId caller => some (.expire candidateId (buildActor caller))

theorem step_closed {settings : Settings} {request : ApprovalRequest} (db : Database)
    (h : request.gatesOpen settings = false) : request.step settings db = db := by
  cases hSafety : settings.tradingSafetyEnabled with
  | false =>
    have hGate : (requireTradingSafetyEnabled settings).exec unasked (.opened db) =
        (.error (.http 503 ("approval workflow is disabled — set TRADING_SAFETY_ENABLED=true "
          ++ "in operator-private .env to opt in")), .opened db) := by
      rw [exec_requireTradingSafetyEnabled, hSafety]
      rfl
    cases request <;> exact Program.served_bind_of_error hGate _
  | true =>
    have hPassed : (requireTradingSafetyEnabled settings).exec unasked (.opened db) =
        (.ok (), .opened db) := by
      rw [exec_requireTradingSafetyEnabled, hSafety]
      rfl
    have hGate (hKill : settings.killSwitchEnabled = true) :
        (requireKillSwitchOff settings).exec unasked (.opened db) =
        (.error (.http 503 ("kill switch is ON — set KILL_SWITCH_ENABLED=false in "
          ++ "operator-private .env to opt out of the paranoid default")), .opened db) := by
      rw [exec_requireKillSwitchOff, hKill]
      rfl
    cases request with
    | expire candidateId caller => simp [gatesOpen, hSafety] at h
    | create | approve | reject =>
      rw [gatesOpen, hSafety, Bool.true_and, Bool.not_eq_false'] at h
      exact (Program.served_bind_of_ok hPassed _).trans (Program.served_bind_of_error (hGate h) _)

/-- Behind open gates a request does what one call of the service does in a transaction of its
own. -/
theorem step_open {settings : Settings} {request : ApprovalRequest} (db : Database)
    (h : request.gatesOpen settings = true) :
    request.step settings db =
      ((request.call? db).map fun call => call.step (.ofSettings settings) db).getD db := by
  have hPassed (hSafety : settings.tradingSafetyEnabled = true) :
      (requireTradingSafetyEnabled settings).exec unasked (.opened db) = (.ok (), .opened db) := by
    rw [exec_requireTradingSafetyEnabled, hSafety]
    rfl
  have hOff (hKill : settings.killSwitchEnabled = false) :
      (requireKillSwitchOff settings).exec unasked (.opened db) = (.ok (), .opened db) := by
    rw [exec_requireKillSwitchOff, hKill]
    rfl
  cases request with
  | expire candidateId caller =>
    exact (Program.served_bind_of_ok (hPassed h) _).trans
      (served_committing (ApprovalService.commitFree_expire _ _) _ _ db)
  | approve candidateId caller now =>
    rw [gatesOpen, Bool.and_eq_true, Bool.not_eq_true'] at h
    exact (Program.served_bind_of_ok (hPassed h.1) _).trans
      ((Program.served_bind_of_ok (hOff h.2) _).trans
        (served_committing (ApprovalService.commitFree_approve _ _ _ _) _ _ db))
  | reject candidateId caller reason =>
    rw [gatesOpen, Bool.and_eq_true, Bool.not_eq_true'] at h
    exact (Program.served_bind_of_ok (hPassed h.1) _).trans
      ((Program.served_bind_of_ok (hOff h.2) _).trans
        (served_committing (ApprovalService.commitFree_reject _ _ _ _) _ _ db))
  | create payload caller now createdAt upper =>
    rw [gatesOpen, Bool.and_eq_true, Bool.not_eq_true'] at h
    have hResolve := exec_resolveAccountId unasked (.opened db) payload.accountId caller.userId
    rw [Session.opened_view] at hResolve
    refine (Program.served_bind_of_ok (hPassed h.1) _).trans
      ((Program.served_bind_of_ok (hOff h.2) _).trans ?_)
    rw [call?]
    cases hAccount : VirtualAccountRepository.resolved? payload.accountId (some caller.userId) db with
    | none =>
      rw [hAccount] at hResolve
      exact Program.served_bind_of_error hResolve _
    | some account =>
      rw [hAccount] at hResolve
      exact (Program.served_bind_of_ok hResolve _).trans
        (served_committing (ApprovalService.commitFree_createCandidate _ _) _ _ db)

end ApprovalRequest

theorem unpriced : ∀ price ∈ (none : Option ℚ), 0 < price := by simp

def candidateBody : CreateOrderCandidateRequest where
  symbol := "005930"
  side := .buy
  quantity := 10
  estimatedAmount := some 70000
  symbol_ok := by decide
  quantity_pos := tenShares_pos
  limitPrice_pos := unpriced
  estimatedAmount_nonneg := by decide +kernel
  ttlMinutes_ok := by simp

end StockAiPlatform
