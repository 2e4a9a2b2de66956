import StockAiPlatform.Broker.SimulationBroker
import StockAiPlatform.Paper.PnlTracker

/-! # The paper broker: matching

`execute_pending_orders` walks through the orders that are still open, account
by account and oldest first, and fills each that has a price it can take.
-/

namespace StockAiPlatform
set_option autoImplicit false

open Transaction Python

/-- The arguments of `execute_pending_orders`, and the clock at which each order is filled. -/
structure PendingExecution where
  asOfDate : Int
  accountId : Option Nat := none
  tracker : PnlTracker := {}
  priceLookbackDays : Int := 0
  filledAt : Nat → Int

structure ExecutePendingResult where
  filled : List (VirtualOrder × VirtualFill) := []
  rejected : List VirtualOrder := []
  skippedNoPrice : Nat := 0
  skippedLimitUnmet : Nat := 0
  skippedTerminal : Nat := 0

inductive MatchOutcome where
  | skippedTerminal
  | skippedNoPrice
  | skippedLimitUnmet
  | rejected (order : VirtualOrder)
  | filled (order : VirtualOrder) (fill : VirtualFill)

def ExecutePendingResult.add (result : ExecutePendingResult) : MatchOutcome → ExecutePendingResult
  | .skippedTerminal => { result with skippedTerminal := result.skippedTerminal + 1 }
  | .skippedNoPrice => { result with skippedNoPrice := result.skippedNoPrice + 1 }
  | .skippedLimitUnmet => { result with skippedLimitUnmet := result.skippedLimitUnmet + 1 }
  | .rejected order => { result with rejected := result.rejected ++ [order] }
  | .filled order fill => { result with filled := result.filled ++ [(order, fill)] }

namespace SimulationBroker

def pendingGlobal (status : VirtualOrderStatus) (db : Database) : List VirtualOrder :=
  (db.virtualOrders.rows.filter fun order => order.status == status).insertionSort
    fun a b => a.id ≤ b.id

def listPendingGlobal (status : VirtualOrderStatus) : App (List VirtualOrder) :=
  Program.query (.virtualOrdersByStatus none status) (pendingGlobal status)

def listPending (accountId : Option Nat) (status : VirtualOrderStatus) : App (List VirtualOrder) :=
  match accountId with
  | none => listPendingGlobal status
  | some accountId => VirtualOrderRepository.listByAccount accountId status 10000

def lookupClosePrice (execution : PendingExecution) (symbol : String) : App (Option DailyPrice) :=
  if execution.priceLookbackDays ≤ 0 then
    DailyPriceRepository.getBySymbolDate symbol execution.asOfDate
  else
    DailyPriceRepository.getLatestOnOrBefore symbol execution.asOfDate execution.priceLookbackDays

/-- A limit order, which always has a limit, is left alone on the wrong side of it. -/
def limitMet (order : VirtualOrder) (close : ℚ) : Bool :=
  match order.orderType, order.limitPrice with
  | .limit, some limit =>
    match order.side with
    | .buy => close ≤ limit
    | .sell => limit ≤ close
  | .limit, none | .market, _ => true

def fillAt (execution : PendingExecution) (order : VirtualOrder) (close : ℚ) : PaperFill where
  orderId := order.id
  accountId := order.accountId
  symbol := order.symbol
  side := order.side
  quantity := order.quantity
  fillPrice := close
  filledAt := execution.filledAt order.id

/-- The two `except` clauses; the first 256 characters of a message hold all its numbers. -/
def rejectOrder (order : VirtualOrder) : PyError → App MatchOutcome
  | .insufficientCash message => do
    let rejected ← VirtualOrderRepository.updateStatus order .rejected (some message)
    pure (.rejected rejected)
  | .insufficientPosition message => do
    let rejected ← VirtualOrderRepository.updateStatus order .rejected
      (some [.str (String.ofList (message.toList.take 256))])
    pure (.rejected rejected)
  | error => .raise error

def matchOrder (execution : PendingExecution) (order : VirtualOrder) : App MatchOutcome :=
  if order.status.isTerminal then pure .skippedTerminal
  else do
    let some bar ← lookupClosePrice execution order.symbol
      | pure .skippedNoPrice
    if !limitMet order bar.close then pure .skippedLimitUnmet
    else
      match ← (execution.tracker.applyFill (fillAt execution order bar.close)).attempt with
      | .ok result => do
        let filled ← VirtualOrderRepository.updateStatus order .filled none
        pure (.filled filled result.fill)
      | .error error => rejectOrder order error

def matchAll (execution : PendingExecution) :
    List VirtualOrder → ExecutePendingResult → App ExecutePendingResult
  | [], result => pure result
  | order :: orders, result => do
    let outcome ← matchOrder execution order
    matchAll execution orders (result.add outcome)

def sortCandidates (candidates : List VirtualOrder) : List VirtualOrder :=
  candidates.insertionSort fun a b =>
    a.accountId < b.accountId ∨ a.accountId = b.accountId ∧ a.id ≤ b.id

def executePendingOrders (execution : PendingExecution) : App ExecutePendingResult := do
  let created ← listPending execution.accountId .created
  let submitted ← listPending execution.accountId .submitted
  matchAll execution (sortCandidates (created ++ submitted)) {}

end SimulationBroker

end StockAiPlatform
