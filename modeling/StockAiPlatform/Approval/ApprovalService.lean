import StockAiPlatform.Broker.SimulationBroker
import StockAiPlatform.Data.ApprovalAuditLogRepository
import StockAiPlatform.Data.OrderCandidateRepository
import StockAiPlatform.Risk.PreTradeRiskEngine

/-! # The approval service

Create, approve, reject and expire. The service writes a status and an audit
row for every step and never commits: the caller does after a normal return.
-/

namespace StockAiPlatform
set_option autoImplicit false

open Transaction Python

/-- Thirty minutes, in microseconds. -/
def defaultTtl : Int := 30 * 60 * 1000000

structure ApprovalActor where
  userId : Option Nat := none
  ipHash : Option String := none
  userAgentHash : Option String := none

structure CreateCandidateResult where
  candidate : OrderCandidate
  riskResult : RiskCheckResult

structure ApproveResult where
  candidate : OrderCandidate
  virtualOrderId : Nat
  riskResult : RiskCheckResult

/-- The service with the collaborators its constructor takes. -/
structure ApprovalService where
  settings : Settings
  riskEngine : Database → OrderCandidate → Int → RiskCheckResult
  broker : SimulationBroker

namespace ApprovalService

def ofSettings (settings : Settings) : ApprovalService where
  settings := settings
  riskEngine := PreTradeRiskEngine.evaluate settings
  broker := ⟨settings⟩

def formatViolations (result : RiskCheckResult) : String :=
  if result.violations = [] then "risk passed"
  else "risk:" ++ PreTradeRiskEngine.policyVersion ++ " violations=["
    ++ ", ".intercalate result.ruleIds ++ "]"

def auditRow (actor : ApprovalActor) (candidateId : Nat) (eventType : AuditEvent)
    (reason : Option String) (details : Option (List (String × Json))) : ApprovalAuditLog where
  candidateId := candidateId
  eventType := eventType
  userId := actor.userId
  reason := reason
  detailsJson := details
  ipHash := actor.ipHash
  userAgentHash := actor.userAgentHash

def ruleIdsJson (result : RiskCheckResult) : Json := .list (result.ruleIds.map Json.str)

variable (service : ApprovalService)

def assertWorkflowActive : App Unit :=
  if service.settings.tradingSafetyEnabled then pure ()
  else .raise (.tradingSafetyDisabled
    ("TRADING_SAFETY_ENABLED is False -- Approval API is disabled "
      ++ "(set TRADING_SAFETY_ENABLED=true in operator-private .env)."))

/-- Called with a candidate at hand: the block is written down before it raises. -/
def assertKillSwitchOff (candidateId : Nat) (actor : ApprovalActor) : App Unit :=
  if service.settings.killSwitchEnabled then do
    let _ ← ApprovalAuditLogRepository.append
      (auditRow actor candidateId .killSwitchBlocked (some "kill_switch_enabled") none)
    .raise (.killSwitchBlocked
      ("kill switch is ON -- set KILL_SWITCH_ENABLED=false in "
        ++ "operator-private .env to opt out of the paranoid default."))
  else pure ()

def evaluateRisk (candidate : OrderCandidate) (now : Int) : App RiskCheckResult :=
  Program.query (.riskEvaluation candidate.id) fun db => service.riskEngine db candidate now

/-- The transition the risk result decides, with the audit row of a refusal. -/
def routeByRisk (candidate : OrderCandidate) (riskResult : RiskCheckResult)
    (actor : ApprovalActor) : App OrderCandidate :=
  if riskResult.passed then
    OrderCandidateRepository.updateStatus candidate .pendingApproval none none
  else do
    let candidate ← OrderCandidateRepository.updateStatus candidate .riskRejected
      (some (formatViolations riskResult)) none
    let _ ← ApprovalAuditLogRepository.append
      (auditRow actor candidate.id .riskRejected (some (formatViolations riskResult))
        (some [("policy_version", .str riskResult.policyVersion),
          ("violation_rule_ids", ruleIdsJson riskResult)]))
    pure candidate

/-- What `create_candidate` is called with. A zero `ttl` counts as none. -/
structure CreateCall where
  draft : CandidateDraft
  ttl : Option Int
  actor : ApprovalActor
  now : Int
  createdAt : Int
  upper : String → String

def CreateCall.expiresAt (call : CreateCall) : Int :=
  call.now + (match call.ttl with
    | some ttl => if ttl = 0 then defaultTtl else ttl
    | none => defaultTtl)

def createCandidate (call : CreateCall) : App CreateCandidateResult := do
  assertWorkflowActive service
  if service.settings.killSwitchEnabled then
    .raise (.killSwitchBlocked "kill switch is ON -- candidate creation refused")
  else
    let candidate ← OrderCandidateRepository.create call.upper
      { call.draft with expiresAt := some call.expiresAt } call.createdAt
    let _ ← ApprovalAuditLogRepository.append
      (auditRow call.actor candidate.id .created none
        (some [("source", .str call.draft.source), ("symbol", .str candidate.symbol)]))
    let candidate ← OrderCandidateRepository.updateStatus candidate .riskChecking none none
    let riskResult ← evaluateRisk service candidate call.now
    let candidate ← OrderCandidateRepository.attachRiskResult candidate riskResult
    let _ ← ApprovalAuditLogRepository.append
      (auditRow call.actor candidate.id .riskChecked none
        (some [("policy_version", .str riskResult.policyVersion),
          ("passed", .bool riskResult.passed), ("violation_rule_ids", ruleIdsJson riskResult)]))
    let candidate ← routeByRisk candidate riskResult call.actor
    return { candidate := candidate, riskResult := riskResult }

def notFound (candidateId : Nat) : PyError :=
  .approvalService s!"OrderCandidate id={candidateId} not found"

def loadPending (candidateId : Nat) (participle : String) : App OrderCandidate := do
  match ← OrderCandidateRepository.getById candidateId with
  | none => .raise (notFound candidateId)
  | some candidate =>
    if candidate.status = .pendingApproval then pure candidate
    else .raise (.approvalDenied (s!"candidate id={candidateId} status is "
      ++ s!"'{candidate.status.value}'; only PENDING_APPROVAL candidates can be " ++ participle)
      (.currentStatus candidate.status))

/-- A failed re-check: the refusal is written down and then raised. -/
def denyByRisk (candidate : OrderCandidate) (riskResult : RiskCheckResult) (actor : ApprovalActor) :
    App ApproveResult := do
  let candidate ← OrderCandidateRepository.attachRiskResult candidate riskResult
  let candidate ← OrderCandidateRepository.updateStatus candidate .rejected
    (some (formatViolations riskResult)) actor.userId
  let _ ← ApprovalAuditLogRepository.append
    (auditRow actor candidate.id .riskRejected (some (formatViolations riskResult))
      (some [("policy_version", .str riskResult.policyVersion),
        ("violation_rule_ids", ruleIdsJson riskResult), ("phase", .str "approve_recheck")]))
  .raise (.approvalDenied "risk re-check failed at approval time"
    (.violationRuleIds riskResult.ruleIds))

def idempotencyKey (candidateId : Nat) : String := s!"approval-{candidateId}"

theorem idempotencyKey_injective : Function.Injective idempotencyKey := by
  intro j k h
  have hRepr : j.repr = k.repr := (String.append_right_inj "approval-").mp h
  have hDigits : Nat.toDigits 10 j = Nat.toDigits 10 k := by
    rw [← Nat.toList_repr, ← Nat.toList_repr, hRepr]
  rw [← Nat.ofDigitChars_ten_toDigits (n := j), hDigits, Nat.ofDigitChars_ten_toDigits]

def paperOrder (candidate : OrderCandidate) : PaperOrder where
  accountId := candidate.accountId
  symbol := candidate.symbol
  side := candidate.side.value
  quantity := candidate.quantity
  orderType := candidate.orderType.value
  limitPrice := candidate.limitPrice
  idempotencyKey := some (idempotencyKey candidate.id)
  note := some s!"approved candidate id={candidate.id}"

/-- The submit with its `except` clause: two kinds of exception become a denial. -/
def submitPaper (candidate : OrderCandidate) : App SubmitResult := do
  match ← (service.broker.submitOrder (paperOrder candidate)).attempt with
  | .ok result => pure result
  | .error (.paperTradingDisabled message) =>
    .raise (.approvalDenied ("paper execution failed: " ++ message)
      (.errorType "PaperTradingDisabledError"))
  | .error (.simulationBroker message) =>
    .raise (.approvalDenied ("paper execution failed: " ++ message)
      (.errorType "SimulationBrokerError"))
  | .error error => .raise error

def executePaper (candidate : OrderCandidate) (riskResult : RiskCheckResult)
    (actor : ApprovalActor) : App ApproveResult := do
  let candidate ← OrderCandidateRepository.updateStatus candidate .approved none actor.userId
  let _ ← ApprovalAuditLogRepository.append
    (auditRow actor candidate.id .approved none
      (some [("policy_version", .str riskResult.policyVersion)]))
  let submitted ← submitPaper service candidate
  let candidate ← OrderCandidateRepository.attachVirtualOrder candidate submitted.order.id
  let candidate ← OrderCandidateRepository.updateStatus candidate .executedPaper none none
  let _ ← ApprovalAuditLogRepository.append
    (auditRow actor candidate.id .executedPaper none
      (some [("virtual_order_id", .int submitted.order.id),
        ("deduplicated", .bool submitted.deduplicated)]))
  return {
    candidate := candidate
    virtualOrderId := submitted.order.id
    riskResult := riskResult }

def approve (candidateId : Nat) (actor : ApprovalActor) (now : Int) : App ApproveResult := do
  assertWorkflowActive service
  let candidate ← loadPending candidateId "approved"
  assertKillSwitchOff service candidate.id actor
  let riskResult ← evaluateRisk service candidate now
  if riskResult.passed then executePaper service candidate riskResult actor
  else denyByRisk candidate riskResult actor

def reject (candidateId : Nat) (actor : ApprovalActor) (reason : String) : App OrderCandidate := do
  assertWorkflowActive service
  let candidate ← loadPending candidateId "rejected"
  assertKillSwitchOff service candidate.id actor
  let candidate ← OrderCandidateRepository.reject candidate (actor.userId.getD 0) reason
  let _ ← ApprovalAuditLogRepository.append
    (auditRow actor candidate.id .rejected (OrderCandidateRepository.cutRejectionReason reason) none)
  pure candidate

/-- The part of `expire` after its read, also what the expiry job does with a row it has. -/
def expireLoaded (candidate : OrderCandidate) (actor : ApprovalActor) : App OrderCandidate := do
  match ← (OrderCandidateRepository.expire candidate).attempt with
  | .ok expired =>
    let _ ← ApprovalAuditLogRepository.append
      (auditRow actor expired.id .expired (some "ttl_expired") none)
    pure expired
  | .error (.invalidTransition _) =>
    .raise (.approvalDenied (s!"candidate id={candidate.id} cannot be expired from "
      ++ s!"status '{candidate.status.value}'") (.currentStatus candidate.status))
  | .error error => .raise error

/-- Neither switch is asked: an expiry always goes through. -/
def expire (candidateId : Nat) (actor : ApprovalActor) : App OrderCandidate := do
  match ← OrderCandidateRepository.getById candidateId with
  | none => .raise (notFound candidateId)
  | some candidate => expireLoaded candidate actor

end ApprovalService

end StockAiPlatform
