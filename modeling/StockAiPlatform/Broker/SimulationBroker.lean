import StockAiPlatform.Config.Settings
import StockAiPlatform.Data.OrderChecks
import StockAiPlatform.Data.VirtualAccountRepository
import StockAiPlatform.Data.VirtualOrderRepository

/-! # The paper broker: submit and cancel

An order is validated and stored as CREATED. Under an idempotency key the
account has used before, the stored order is returned unchanged.
-/

namespace StockAiPlatform
set_option autoImplicit false

open Transaction Python

structure SimulationBroker where
  settings : Settings

/-- The arguments of `submit_order`, the strings as the caller passes them. -/
structure PaperOrder where
  accountId : Nat
  symbol : String
  side : String
  quantity : Int
  orderType : String
  limitPrice : Option ℚ
  idempotencyKey : Option String
  note : Option String

structure SubmitResult where
  order : VirtualOrder
  deduplicated : Bool

namespace SimulationBroker

/-- `normalized_limit`: here a market order may not come with a price. -/
def normalizeLimit (limitPrice : Option ℚ) : (orderType : OrderType) →
    Except PyError { price : Option ℚ // orderType.takesPositive price = true }
  | .limit => OrderChecks.checkLimitPrice .simulationBroker limitPrice
  | .market =>
    match limitPrice with
    | none => .ok ⟨none, OrderType.takesPositive_market⟩
    | some _ => .error (.simulationBroker "MARKET order must not have limit_price")

/-- A draft past the broker's checks, so that the repository takes it. -/
structure CheckedOrder where
  draft : VirtualOrderDraft
  quantity_pos : 0 < draft.quantity
  limitPrice_ok : draft.orderType.takes draft.limitPrice = true

def validate (order : PaperOrder) : Except PyError CheckedOrder := do
  let side ← OrderChecks.checkSide .simulationBroker order.side
  let orderType ← OrderChecks.checkOrderType .simulationBroker order.orderType
  let quantity ← OrderChecks.checkQuantity .simulationBroker order.quantity
  OrderChecks.checkSymbol .simulationBroker order.symbol
  let limitPrice ← normalizeLimit order.limitPrice orderType
  return {
    draft := {
      accountId := order.accountId
      symbol := order.symbol
      side := side
      quantity := quantity.val
      orderType := orderType
      limitPrice := limitPrice.val
      idempotencyKey := order.idempotencyKey
      note := order.note }
    quantity_pos := OrderChecks.pos_of_checked quantity
    limitPrice_ok := OrderType.takes_of_takesPositive limitPrice.property }

def checkAccount (broker : SimulationBroker) (accountId : Nat) : App VirtualAccount := do
  if !broker.settings.paperTradingEnabled then
    .raise (.paperTradingDisabled
      ("PAPER_TRADING_ENABLED is False; SimulationBroker.submit_order "
        ++ "refuses to write any VirtualOrder. Set PAPER_TRADING_ENABLED=true "
        ++ "in operator-private .env to opt in."))
  else
    match ← VirtualAccountRepository.getById accountId with
    | none => .raise (.simulationBroker s!"VirtualAccount id={accountId} not found")
    | some account =>
      if account.paperTradingEnabled then pure account
      else .raise (.paperTradingDisabled
        s!"VirtualAccount id={accountId} has paper_trading_enabled=False")

def findExisting (accountId : Nat) : Option String → App (Option VirtualOrder)
  | none => pure none
  | some key => VirtualOrderRepository.getByIdempotencyKey accountId key

def submitOrder (broker : SimulationBroker) (order : PaperOrder) : App SubmitResult := do
  let _ ← checkAccount broker order.accountId
  let checked ← .ofExcept (validate order)
  match ← findExisting order.accountId order.idempotencyKey with
  | some existing => return { order := existing, deduplicated := true }
  | none =>
    let created ← VirtualOrderRepository.create checked.draft
    return { order := created, deduplicated := false }

def cancelOrder (orderId : Nat) (reason : Option Formatted) : App VirtualOrder := do
  match ← VirtualOrderRepository.getById orderId with
  | none => .raise (.simulationBroker s!"VirtualOrder id={orderId} not found")
  | some order =>
    if order.status.isCancelable then VirtualOrderRepository.cancel order reason
    else .raise (.simulationBroker (s!"VirtualOrder id={orderId} is in "
      ++ s!"status='{order.status.value}'; only ['CREATED', 'SUBMITTED'] are cancelable "
      ++ "(terminal: ['CANCELED', 'FILLED', 'PARTIALLY_FILLED', 'REJECTED'])"))

end SimulationBroker

end StockAiPlatform
