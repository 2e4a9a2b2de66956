import StockAiPlatform.Data.ApprovalAuditLogRepository
import StockAiPlatform.Data.RealFillRepository
import StockAiPlatform.Data.RealOrderRepository

/-! # The fill sync service

One query of the broker for one order, and what its answer does to the fill
rows and to the order's status.
-/

namespace StockAiPlatform
set_option autoImplicit false

open Transaction Python

inductive FillClassification where
  | full | partialFill | none | rejected | canceled | failed
  deriving DecidableEq, Repr

namespace FillClassification

def value : FillClassification → String
  | full => "FULL"
  | partialFill => "PARTIAL"
  | none => "NONE"
  | rejected => "REJECTED"
  | canceled => "CANCELED"
  | failed => "FAILED"

end FillClassification

inductive SkippedReason where
  | realOrderNotFound | dryRunOrderSkipped | transportRaised | negativeDelta
  | orderAlreadyTerminal (status : RealOrderStatus)
  | unrecognisedStatus (status : KisFillStatus)
  deriving DecidableEq, Repr

namespace SkippedReason

def value : SkippedReason → String
  | realOrderNotFound => "REAL_ORDER_NOT_FOUND"
  | dryRunOrderSkipped => "DRY_RUN_ORDER_SKIPPED"
  | transportRaised => "TRANSPORT_RAISED"
  | negativeDelta => "NEGATIVE_DELTA"
  | orderAlreadyTerminal status => "ORDER_ALREADY_TERMINAL_" ++ status.value
  | unrecognisedStatus status => "UNRECOGNISED_STATUS_" ++ status.value

end SkippedReason

structure FillSyncResult where
  realOrderId : Nat
  fillStatus : FillClassification
  createdFillCount : Nat
  skippedReason : Option SkippedReason
  delta : Int
  fillsTotal : Int
  realOrderStatus : Option RealOrderStatus
  deriving DecidableEq, Repr

def classifyFillResponse (response : KisFillStatusResult) : FillClassification :=
  match response.status with
  | .filled => .full
  | .partiallyFilled => .partialFill
  | .rejected => .rejected
  | .canceled => .canceled
  | .pending => if response.success then .none else .failed

def effectiveKisTotal (classification : FillClassification) (response : KisFillStatusResult)
    (totalQty : Int) : Int :=
  let raw := max response.filledQuantity 0
  match classification with
  | .full => max raw (if 0 < totalQty then totalQty else 0)
  | .partialFill => raw
  | _ => 0

def safeUnitPrice (order : RealOrder) (totalQty : Int) : ℚ :=
  let estimated := order.estimatedAmount
  let unit := if 0 < totalQty ∧ 0 < estimated then estimated / totalQty else 0
  if 0 < unit then unit else 1

theorem safeUnitPrice_pos (order : RealOrder) (totalQty : Int) : 0 < safeUnitPrice order totalQty := by
  simp only [safeUnitPrice]
  split_ifs with hQuantity hUnit hUnit
  · exact hUnit
  · exact one_pos
  · exact hUnit
  · exact one_pos

/-- `_ORDER_SKIP_STATUSES`. -/
def RealOrderStatus.isSkipped : RealOrderStatus → Bool
  | filled | canceled | rejected | failed => true
  | dryRun | created | submitted | partiallyFilled => false

/-- `_ORDER_NON_TERMINAL`. -/
def RealOrderStatus.isNonTerminal : RealOrderStatus → Bool
  | created | submitted | partiallyFilled => true
  | dryRun | filled | canceled | rejected | failed => false

theorem RealOrderStatus.isNonTerminal_of_not_skipped {status : RealOrderStatus}
    (hDry : status ≠ .dryRun) (hSkipped : ¬ status.isSkipped = true) :
    status.isNonTerminal = true := by
  cases status <;> simp_all [isSkipped, isNonTerminal]

namespace FillSyncService

/-- `kis_order_no_plaintext or order.fake_order_no or str(real_order_id)`. -/
def orderRef (plaintext : Option String) (order : RealOrder) : String :=
  let given (text : Option String) := text.filter (· ≠ "")
  (given plaintext).getD ((given order.fakeOrderNo).getD (toString order.id))

/-- The details every audit row of the sync starts with. -/
def auditDetails (order : RealOrder) (classification : FillClassification) :
    List (String × Json) :=
  [("classification", .str classification.value), ("dry_run", .bool false),
    ("symbol", .str order.symbol), ("side", .str order.side.value)]

def appendAudit (order : RealOrder) (eventType : AuditEvent) (reason : String)
    (details : List (String × Json)) : App Unit := do
  let _ ← ApprovalAuditLogRepository.append
    (ApprovalAuditLogRepository.systemRow order.candidateId eventType reason details)
  pure ()

def skipped (order : RealOrder) (reason : SkippedReason) (fillsTotal : Int) : FillSyncResult where
  realOrderId := order.id
  fillStatus := .none
  createdFillCount := 0
  skippedReason := some reason
  delta := 0
  fillsTotal := fillsTotal
  realOrderStatus := some order.status

def failed (order : RealOrder) (reason : SkippedReason) (delta fillsTotal : Int) :
    FillSyncResult where
  realOrderId := order.id
  fillStatus := .failed
  createdFillCount := 0
  skippedReason := some reason
  delta := delta
  fillsTotal := fillsTotal
  realOrderStatus := some order.status

def dispatchFailed (order : RealOrder) (response : KisFillStatusResult) : App FillSyncResult := do
  appendAudit order .realOrderFillFailed s!"unrecognised KIS status: {response.status.value}"
    (auditDetails order .failed ++ [("kis_status", .str response.status.value)])
  let total ← RealFillRepository.totalFilledQuantity order.id
  return failed order (.unrecognisedStatus response.status) 0 total

def dispatchClosed (order : RealOrder) (classification : FillClassification) :
    App FillSyncResult := do
  let newStatus : RealOrderStatus := if classification = .rejected then .rejected else .canceled
  let order ← if order.status.isNonTerminal then RealOrderRepository.updateStatus order newStatus
    else pure order
  appendAudit order .realOrderFillSynced s!"KIS reported {classification.value}"
    (auditDetails order classification ++ [("delta", .int 0)])
  let total ← RealFillRepository.totalFilledQuantity order.id
  return {
    realOrderId := order.id
    fillStatus := classification
    createdFillCount := 0
    skippedReason := none
    delta := 0
    fillsTotal := total
    realOrderStatus := some order.status }

/-- The fill row a positive delta becomes. -/
def fillDraft (order : RealOrder) (existingTotal delta : Int) (now : Int) : RealFillDraft :=
  let totalQty := order.quantity
  let unitPrice := safeUnitPrice order totalQty
  let gross := if unitPrice * delta ≤ 0 then 1 else unitPrice * delta
  { realOrderId := order.id
    symbol := order.symbol
    side := order.side
    quantity := delta
    fillPrice := unitPrice
    fee := 0
    tax := 0
    grossAmount := gross
    netAmount := gross
    fillStatus := if totalQty ≤ existingTotal + delta ∧ 0 < totalQty then .full else .partialFill
    filledAt := now }

/-- The number of rows created: one for a positive delta, else none. -/
def recordFill (order : RealOrder) (existingTotal delta : Int) (now : Int) : App Nat :=
  if 0 < delta then do
    let _ ← RealFillRepository.create (fillDraft order existingTotal delta now)
    pure 1
  else pure 0

/-- Drive the order towards the broker's view, where its status still allows it. -/
def advanceStatus (order : RealOrder) (classification : FillClassification) : App RealOrder :=
  if order.status.isNonTerminal then
    match classification with
    | .full => RealOrderRepository.updateStatus order .filled
    | .partialFill =>
      if order.status ≠ .partiallyFilled then
        RealOrderRepository.updateStatus order .partiallyFilled
      else pure order
    | _ => pure order
  else pure order

def dispatchTotals (order : RealOrder) (classification : FillClassification)
    (response : KisFillStatusResult) (now : Int) : App FillSyncResult := do
  let existingTotal ← RealFillRepository.totalFilledQuantity order.id
  let kisTotal := effectiveKisTotal classification response order.quantity
  let delta := kisTotal - existingTotal
  if delta < 0 then
    appendAudit order .fillSyncNegativeDelta
      "KIS reports filled_quantity below internal RealFill sum"
      (auditDetails order classification ++
        [("delta", .int delta), ("existing_total", .int existingTotal), ("kis_total", .int kisTotal)])
    return failed order .negativeDelta delta existingTotal
  else
    let createdCount ← recordFill order existingTotal delta now
    let order ← advanceStatus order classification
    appendAudit order .realOrderFillSynced
      s!"KIS reported {classification.value} (delta={delta})"
      (auditDetails order classification ++ [("delta", .int delta), ("kis_total", .int kisTotal)])
    return {
      realOrderId := order.id
      fillStatus := classification
      createdFillCount := createdCount
      skippedReason := none
      delta := delta
      fillsTotal := existingTotal + delta
      realOrderStatus := some order.status }

def dispatchStatus (order : RealOrder) (response : KisFillStatusResult) (now : Int) :
    App FillSyncResult :=
  match classifyFillResponse response with
  | .failed => dispatchFailed order response
  | .rejected => dispatchClosed order .rejected
  | .canceled => dispatchClosed order .canceled
  | classification => dispatchTotals order classification response now

def reportRaised (order : RealOrder) : App FillSyncResult := do
  appendAudit order .realOrderFillFailed "transport.query_fill_status raised"
    (auditDetails order .failed)
  let total ← RealFillRepository.totalFilledQuantity order.id
  return failed order .transportRaised 0 total

/-- The fake transport stands in where none is injected. -/
def syncFills (transport : Option KisOrderTransport) (realOrderId : Nat)
    (kisOrderNoPlaintext : Option String) (now : Int) : App FillSyncResult := do
  let some order ← RealOrderRepository.getById realOrderId
    | return {
        realOrderId := realOrderId
        fillStatus := .none
        createdFillCount := 0
        skippedReason := some .realOrderNotFound
        delta := 0
        fillsTotal := 0
        realOrderStatus := none }
  if order.dryRun || order.status == .dryRun then
    let total ← RealFillRepository.totalFilledQuantity order.id
    return skipped order .dryRunOrderSkipped total
  if order.status.isSkipped then
    let total ← RealFillRepository.totalFilledQuantity order.id
    return skipped order (.orderAlreadyTerminal order.status) total
  match ← (queryFillStatus (transport.getD .fake) (orderRef kisOrderNoPlaintext order)).attempt with
  | .error _ => reportRaised order
  | .ok response => dispatchStatus order response now

end FillSyncService

end StockAiPlatform
