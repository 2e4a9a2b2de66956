import StockAiPlatform.Data.ApprovalAuditLogRepository
import StockAiPlatform.Data.OrderCandidateRepository
import StockAiPlatform.Data.RealOrderRepository
import StockAiPlatform.Python.Hashlib
import StockAiPlatform.Risk.PreTradeRiskEngine

/-! # The real order executor

Nine gates over the database and the settings, then the dry-run branch or, if
a live transport can be resolved, the real one.
-/

namespace StockAiPlatform
set_option autoImplicit false

open Transaction Python

/-- The tokens a transport puts before the colon of its message. -/
inductive PlaceClassification where
  | submitted | rejected | timeout | networkError | unknown
  deriving DecidableEq, Repr

namespace PlaceClassification

def value : PlaceClassification → String
  | submitted => "SUBMITTED"
  | rejected => "REJECTED"
  | timeout => "TIMEOUT"
  | networkError => "NETWORK_ERROR"
  | unknown => "UNKNOWN"

/-- `_PLACE_PREFIXES`. -/
def all : List PlaceClassification := [submitted, rejected, timeout, networkError, unknown]

end PlaceClassification

def classifyPlaceMessage (message : Str) : PlaceClassification :=
  if message = [] then .unknown
  else
    let head := Str.upper (Str.strip (splitHead (.scalar ':') message))
    (PlaceClassification.all.find? fun c => (c.value : Str) == head).getD .unknown

inductive BlockedReason where
  | candidateNotFound | notApproved | duplicateRealOrder | alreadyExecuted | killSwitchOn
  | tradingSafetyDisabled | realTradingDisabled | kisOrderDisabled | amountExceedsPerOrderCap
  | amountExceedsDailyCap | riskRejected | transportUnavailable
  | placed (classification : PlaceClassification)
  deriving DecidableEq, Repr

inductive ExecutorStatus where
  | dryRun | blocked | submitted | failed
  deriving DecidableEq, Repr

structure ExecutorResult where
  success : Bool
  dryRun : Bool
  blockedReason : Option BlockedReason
  realOrderId : Option Nat
  status : ExecutorStatus
  message : Formatted
  deriving DecidableEq

/-- What one call reads of the process it runs in, and whether its session is one on SQLite. -/
structure Ambient where
  capNow : Int
  riskNow : Int
  createdNow : Int
  submittedNow : Int
  fakeOrderCounter : Nat
  substrings : SubstringOrder
  onSqlite : Bool := true

/-- One pass of `_scrub` for one substring. -/
def redact (redacted : Str) (substr : String) : Str :=
  if isIn (substr : Str) (Str.lower redacted) then Str.subIgnoringCase substr "***" redacted
  else redacted

def scrub (order : SubstringOrder) (text : Str) : Str :=
  if text = [] then text else order.val.foldl redact text

/-- The statuses `_today_real_order_total` leaves out. -/
def RealOrderStatus.isExcluded : RealOrderStatus → Bool
  | failed | rejected | canceled => true
  | dryRun | created | submitted | partiallyFilled | filled => false

namespace Database

def accountOf (db : Database) (order : RealOrder) : Option Nat :=
  (db.orderCandidates.find? order.candidateId).map OrderCandidate.accountId

def ordersToday (db : Database) (accountId : Nat) (now : Int) : List RealOrder :=
  let dayStart := kstMidnight (kstDate now)
  db.realOrders.rows.filter fun order =>
    db.accountOf order == some accountId
      && dayStart ≤ order.createdAt && order.createdAt < dayStart + microsPerDay

def todayRealOrderTotal (db : Database) (accountId : Nat) (now : Int) : ℚ :=
  (((db.ordersToday accountId now).filter fun order => !order.status.isExcluded).map
    RealOrder.estimatedAmount).sum

end Database

structure RealOrderExecutor where
  transport : Option KisOrderTransport
  realTransportFactory : Option (Settings → Except PyError KisOrderTransport)

namespace RealOrderExecutor

/-- `self._transport`. -/
def injected (executor : RealOrderExecutor) : KisOrderTransport := executor.transport.getD .fake

def blocked (reason : BlockedReason) (message : Formatted) (dryRun : Bool)
    (realOrderId : Option Nat) : ExecutorResult where
  success := false
  dryRun := dryRun
  blockedReason := some reason
  realOrderId := realOrderId
  status := .blocked
  message := message

/-- Gates 1 to 9: the result of the first one that refuses, or the candidate. -/
def checkGates (ambient : Ambient) (settings : Settings) (candidateId : Nat) :
    App (Except ExecutorResult OrderCandidate) := do
  let dryRun := settings.realOrderDryRun
  let some candidate ← OrderCandidateRepository.getById candidateId
    | return .error (blocked .candidateNotFound
        [.str "OrderCandidate id=", .int candidateId, .str " not found"] dryRun none)
  if candidate.status ≠ .approved then
    return .error (blocked .notApproved
      [.str s!"candidate.status='{candidate.status.value}'; must be APPROVED before execution"]
      dryRun none)
  let exists? ← RealOrderRepository.existsNonFailedForCandidate candidateId
  if exists? then
    let existing ← RealOrderRepository.getByCandidateId candidateId
    let nonFailed := existing.find? fun order => !order.status.isExcluded
    return .error (blocked (if dryRun then .alreadyExecuted else .duplicateRealOrder)
      (.str s!"candidate_id={candidateId} already has an active RealOrder" ::
        match nonFailed with
        | some order => [.str s!" (id={order.id}, status='{order.status.value}')"]
        | none => [])
      dryRun (nonFailed.map RealOrder.id))
  if settings.killSwitchEnabled then
    return .error (blocked .killSwitchOn
      [.str ("kill_switch_enabled=True blocks all real order attempts; "
        ++ "set KILL_SWITCH_ENABLED=false to proceed")] dryRun none)
  if !settings.tradingSafetyEnabled then
    return .error (blocked .tradingSafetyDisabled
      [.str "trading_safety_enabled=False; set TRADING_SAFETY_ENABLED=true to proceed"] dryRun none)
  if !settings.realTradingEnabled then
    return .error (blocked .realTradingDisabled
      [.str "real_trading_enabled=False; set REAL_TRADING_ENABLED=true to proceed"] dryRun none)
  if !settings.kisOrderEnabled then
    return .error (blocked .kisOrderDisabled
      [.str "kis_order_enabled=False; set KIS_ORDER_ENABLED=true to proceed"] dryRun none)
  let estimated := candidate.estimatedAmount
  let cap : ℚ := settings.maxRealOrderAmount
  if cap < estimated then
    return .error (blocked .amountExceedsPerOrderCap
      [.str "estimated_amount=", .decimal estimated, .str " > max_real_order_amount=", .decimal cap]
      dryRun none)
  let todayTotal ← Program.query (.todayRealOrderTotal candidate.accountId)
    fun db : Database => db.todayRealOrderTotal candidate.accountId ambient.capNow
  let dailyCap : ℚ := settings.maxRealDailyOrderAmount
  if dailyCap < todayTotal + estimated then
    return .error (blocked .amountExceedsDailyCap
      [.str "today_total=", .decimal todayTotal, .str " + estimated=", .decimal estimated,
        .str " > max_real_daily_order_amount=", .decimal dailyCap] dryRun none)
  let riskResult ← Program.query (.riskEvaluation candidateId)
    fun db : Database => PreTradeRiskEngine.evaluate settings db candidate ambient.riskNow
  if !riskResult.passed then
    return .error (blocked .riskRejected
      [.str ("PreTradeRiskEngine violations: "
        ++ (Json.list (riskResult.violations.map fun v => .str v.ruleId)).repr)] dryRun none)
  return .ok candidate

/-- Gate 10: a factory decides alone, and nothing fake gets through. -/
def resolveRealTransport (executor : RealOrderExecutor) (settings : Settings) :
    Option KisOrderTransport :=
  match executor.realTransportFactory with
  | some factory =>
    match factory settings with
    | .error _ => none
    | .ok transport => if transport.isFake then none else some transport
  | none => if executor.injected.isFake then none else some executor.injected

/-- `int(limit_price or 0)`. -/
def wholePrice (limitPrice : Option ℚ) : Int :=
  match limitPrice with
  | some price => price.num.tdiv price.den
  | none => 0

theorem wholePrice_nonneg (candidate : OrderCandidate) : 0 ≤ wholePrice candidate.limitPrice := by
  cases hPrice : candidate.limitPrice with
  | none => exact le_refl 0
  | some price =>
    have hPos : 0 < price := OrderType.pos_of_takesPositive (hPrice ▸ candidate.limitPrice_ok)
    exact Int.tdiv_nonneg (Rat.num_pos.mpr hPos).le (Int.natCast_nonneg price.den)

def orderRequest (candidate : OrderCandidate) (accountNo : String) : KisOrderRequest where
  symbol := candidate.symbol
  side := candidate.side
  orderType := candidate.orderType
  quantity := candidate.quantity
  price := wholePrice candidate.limitPrice
  accountNo := accountNo
  quantity_pos := candidate.quantity_pos
  price_nonneg := wholePrice_nonneg candidate

def draftOf (candidate : OrderCandidate) (dryRun : Bool) (fakeOrderNo requestId : Option String)
    (status : RealOrderStatus) : RealOrderDraft where
  candidateId := candidate.id
  symbol := candidate.symbol
  side := candidate.side
  quantity := candidate.quantity
  orderType := candidate.orderType
  limitPrice := candidate.limitPrice
  estimatedAmount := candidate.estimatedAmount
  dryRun := dryRun
  fakeOrderNo := fakeOrderNo
  requestId := requestId
  status := status
  estimatedAmount_nonneg := candidate.estimatedAmount_nonneg

/-- The first sixteen hexadecimal characters. -/
def hashPrefix (hash : String) : String := String.ofList (hash.toList.take 16)

def executeDryRun (executor : RealOrderExecutor) (ambient : Ambient) (candidate : OrderCandidate) :
    App ExecutorResult := do
  let request := orderRequest candidate "DRY_RUN"
  let fakeResult ← placeOrder executor.injected ambient.fakeOrderCounter request
  let fakeOrderNo ← .ofExcept (encoded fakeResult.orderNo)
  let fakeHashPrefix := hashPrefix (sha256Hexdigest fakeOrderNo)
  let order ← RealOrderRepository.create
    (draftOf candidate true (some fakeOrderNo) (some fakeHashPrefix) .dryRun)
    ambient.createdNow
  return {
    success := true
    dryRun := true
    blockedReason := none
    realOrderId := some order.id
    status := .dryRun
    message := [.str "Dry-run order recorded: fake_order_no=", .str (Json.quote fakeOrderNo)] }

/-- The details both audit rows of the real path share. -/
def auditDetails (candidate : OrderCandidate) (classification : PlaceClassification) :
    List (String × Json) :=
  [("classification", .str classification.value), ("dry_run", .bool false),
    ("symbol", .str candidate.symbol), ("side", .str candidate.side.value),
    ("quantity", .int candidate.quantity)]

def brokerHash (orderNo : Str) : Except PyError (Option String) :=
  if orderNo = [] then .ok none else (encoded orderNo).map fun bytes => some (sha256Hexdigest bytes)

def recordSubmitted (ambient : Ambient) (candidate : OrderCandidate) (order : RealOrder)
    (kisResult : KisOrderResult) : App ExecutorResult := do
  let hash ← .ofExcept (brokerHash kisResult.orderNo)
  let order ← RealOrderRepository.markSubmitted order hash ambient.submittedNow
  let _ ← ApprovalAuditLogRepository.append
    (ApprovalAuditLogRepository.systemRow candidate.id .realOrderSubmitted
      "real-path place_order succeeded"
      (auditDetails candidate .submitted ++
        [("broker_order_no_hash_prefix", (hash.map fun h => Json.str (hashPrefix h)).getD .null)]))
  return {
    success := true
    dryRun := false
    blockedReason := none
    realOrderId := some order.id
    status := .submitted
    message := [.str "Real order submitted to KIS (broker_order_no_hash stored)"] }

def sanitizedMessage (ambient : Ambient) (message : Str) : Str :=
  (scrub ambient.substrings message).take 500

def recordFailed (ambient : Ambient) (candidate : OrderCandidate) (order : RealOrder)
    (classification : PlaceClassification) (kisResult : KisOrderResult) : App ExecutorResult := do
  let order ← RealOrderRepository.markFailed ambient.onSqlite ambient.substrings order
    (some classification.value) (some (sanitizedMessage ambient kisResult.message))
  let _ ← ApprovalAuditLogRepository.append
    (ApprovalAuditLogRepository.systemRow candidate.id .realOrderFailed
      s!"real-path place_order returned {classification.value}"
      (auditDetails candidate classification))
  return {
    success := false
    dryRun := false
    blockedReason := some (.placed classification)
    realOrderId := some order.id
    status := .failed
    message := [.str s!"Real order rejected/failed at KIS: classification={classification.value}"] }

/-- The result classification decides how the anchor row is settled. -/
def recordOutcome (ambient : Ambient) (candidate : OrderCandidate) (order : RealOrder)
    (kisResult : KisOrderResult) : App ExecutorResult :=
  match classifyPlaceMessage kisResult.message with
  | .submitted => recordSubmitted ambient candidate order kisResult
  | classification => recordFailed ambient candidate order classification kisResult

def executeReal (ambient : Ambient) (candidate : OrderCandidate) (settings : Settings)
    (transport : KisOrderTransport) : App ExecutorResult := do
  let order ← RealOrderRepository.create (draftOf candidate false none none .created)
    ambient.createdNow
  let request := orderRequest candidate settings.kisAccountNo
  let kisResult ← placeOrder transport ambient.fakeOrderCounter request
  recordOutcome ambient candidate order kisResult

def transportUnavailable : ExecutorResult :=
  blocked .transportUnavailable
    [.str ("Real-path transport is not configured. Inject a non-Fake "
      ++ "KisOrderClientInterface (or supply real_transport_factory) "
      ++ "before calling execute() with real_order_dry_run=False.")] false none

def execute (executor : RealOrderExecutor) (ambient : Ambient) (settings : Settings)
    (candidateId : Nat) : App ExecutorResult := do
  match ← checkGates ambient settings candidateId with
  | .error refusal => return refusal
  | .ok candidate =>
    if settings.realOrderDryRun then executeDryRun executor ambient candidate
    else
      match resolveRealTransport executor settings with
      | none => return transportUnavailable
      | some transport => executeReal ambient candidate settings transport

end RealOrderExecutor

end StockAiPlatform
