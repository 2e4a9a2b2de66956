import StockAiPlatform.Broker.MatchOutcomes
import StockAiPlatform.Paper.LedgerConservation
import StockAiPlatform.Transaction.Locality

/-! # An account is matched by itself

A round of the matching loop reads and writes the order's own account and the
prices of the day. It works alike on two stores that agree there, and leaves
every other account as it was.
-/

namespace StockAiPlatform
set_option autoImplicit false

open Transaction Python VirtualPositionRepository

/-- Orders, fills, cash and positions of one account. -/
structure AccountState where
  account : Option VirtualAccount
  orders : List VirtualOrder
  fills : List VirtualFill
  positions : List VirtualPosition

namespace Database

def virtualOrdersOf (db : Database) (accountId : Nat) : List VirtualOrder :=
  db.virtualOrders.rows.filter fun order => order.accountId == accountId

def accountState (accountId : Nat) (db : Database) : AccountState where
  account := db.virtualAccounts.find? accountId
  orders := db.virtualOrdersOf accountId
  fills := db.virtualFillsOf accountId
  positions := positionsOf accountId db

/-- What a fill for the account looks at. -/
def tradingView (accountId : Nat) (db : Database) : AccountState × List DailyPrice :=
  (db.accountState accountId, db.dailyPrices)

/-- The account, with what is `shown` of the prices. -/
def pricedView {γ : Type} (shown : List DailyPrice → γ) (accountId : Nat) (db : Database) :
    AccountState × γ :=
  (db.accountState accountId, shown db.dailyPrices)

theorem virtualOrdersOf_update {orderId accountId : Nat} {change : VirtualOrder → VirtualOrder}
    {hId : ∀ order, (change order).id = order.id}
    (hAccount : ∀ order, (change order).accountId = order.accountId) (db : Database) :
    (db.updateVirtualOrder orderId change hId).virtualOrdersOf accountId =
      updateWhere (fun order => order.id == orderId) change (db.virtualOrdersOf accountId) := by
  refine filter_updateVirtualOrder (fun order => ?_) db
  rw [hAccount]

end Database

section Local

variable {γ : Type} {shown : List DailyPrice → γ} {accountId : Nat} {fill : PaperFill}

theorem findAt_eq_find? (symbol : String) (db : Database) : findAt accountId symbol db =
    (positionsOf accountId db).find? (VirtualPosition.isAt accountId symbol) := by
  rw [findAt, positionsOf, List.find?_filter]
  congr 1
  funext position
  rw [Bool.eq_iff_iff, decide_eq_true_iff]
  exact ⟨fun hAt => ⟨(Bool.and_eq_true_iff.mp hAt).1, hAt⟩, And.right⟩

theorem local_updateCashBalance (account : VirtualAccount) (balance : ℚ) :
    (VirtualAccountRepository.updateCashBalance account balance).Local
      (Database.pricedView shown accountId) := by
  unfold VirtualAccountRepository.updateCashBalance
  split
  · trivial
  · refine Program.Local.bind (Program.local_modify_of
      (fun view => ({ view.1 with
        account := view.1.account.map fun row =>
          if accountId = account.id then { row with cashBalance := balance } else row }, view.2))
      fun db => ?_) fun _ => trivial
    rw [Database.pricedView, Database.accountState, Database.find?_setCashBalance]
    rfl

theorem local_storeVirtualPosition (position : VirtualPosition) :
    (Program.modify fun db => db.storeVirtualPosition position : App Unit).Local
      (Database.pricedView shown accountId) := by
  refine Program.local_modify_of (fun view => ({ view.1 with
    positions := updateWhere (VirtualPosition.isAt position.accountId position.symbol)
      (fun _ => position) view.1.positions }, view.2)) fun db => ?_
  have hPositions : positionsOf accountId (db.storeVirtualPosition position) =
      updateWhere (VirtualPosition.isAt position.accountId position.symbol) (fun _ => position)
        (positionsOf accountId db) := by
    refine filter_updateWhere fun row hRow => ?_
    rw [(VirtualPosition.isAt_iff.mp hRow).1]
  rw [Database.pricedView, Database.accountState, hPositions]
  rfl

theorem local_getByAccountSymbol (symbol : String) :
    (getByAccountSymbol accountId symbol).Local (Database.pricedView shown accountId) := by
  refine Program.local_query fun s t h => ?_
  have hPositions : positionsOf accountId s = positionsOf accountId t :=
    congrArg (fun view => view.1.positions) h
  rw [findAt_eq_find?, findAt_eq_find?, hPositions]

theorem local_getOrCreate (symbol : String) :
    (getOrCreate accountId symbol).Local (Database.pricedView shown accountId) := by
  refine (local_getByAccountSymbol symbol).bind fun found => ?_
  cases found with
  | some existing => trivial
  | none =>
    refine Program.Local.bind (Program.local_modify_of
      (fun view => ({ view.1 with
        positions := view.1.positions ++ [.opened accountId symbol] }, view.2))
      fun db => ?_) fun _ => trivial
    have hPositions : positionsOf accountId (db.insertVirtualPosition (.opened accountId symbol)) =
        positionsOf accountId db ++ [.opened accountId symbol] := by
      rw [positionsOf, Database.insertVirtualPosition, List.filter_append, List.filter_singleton]
      simp [VirtualPosition.opened, positionsOf]
    rw [Database.pricedView, Database.accountState, hPositions]
    rfl

theorem local_applyBuy (symbol : String) (quantity : Int) (price spent : ℚ) :
    (applyBuy accountId symbol quantity price spent).Local (Database.pricedView shown accountId) := by
  unfold applyBuy
  split
  · trivial
  split
  · trivial
  split
  · trivial
  refine (local_getOrCreate symbol).bind fun position => ?_
  exact (local_storeVirtualPosition _).bind fun _ => trivial

theorem local_applySell (symbol : String) (quantity : Int) (received : ℚ) :
    (applySell accountId symbol quantity received).Local (Database.pricedView shown accountId) := by
  unfold applySell
  split
  · trivial
  split
  · trivial
  refine (local_getByAccountSymbol symbol).bind fun found => ?_
  cases found with
  | none => trivial
  | some position =>
    simp only
    split
    · trivial
    · exact (local_storeVirtualPosition _).bind fun _ => trivial

theorem local_settle (account : VirtualAccount) (costs : PaperFillCosts) :
    (PnlTracker.settle fill account costs).Local (Database.pricedView shown fill.accountId) := by
  unfold PnlTracker.settle
  cases fill.side with
  | buy =>
    refine Program.Local.bind ?_ fun outcome => trivial
    unfold PnlTracker.buy
    split
    · trivial
    · refine (local_updateCashBalance account _).bind fun updated => ?_
      exact (local_applyBuy fill.symbol fill.quantity fill.fillPrice _).bind fun position => trivial
  | sell =>
    refine (local_applySell fill.symbol fill.quantity _).bind fun outcome => ?_
    exact (local_updateCashBalance account _).bind fun updated => trivial

theorem local_insertVirtualFill (row : VirtualFill) :
    (Program.modify fun db => db.insertVirtualFill row : App Unit).Local
      (Database.pricedView shown accountId) := by
  refine Program.local_modify_of (fun view => ({ view.1 with
    fills := view.1.fills ++ [row].filter fun fill => fill.accountId == accountId }, view.2))
    fun db => ?_
  have hFills : (db.insertVirtualFill row).virtualFillsOf accountId =
      db.virtualFillsOf accountId ++ [row].filter fun fill => fill.accountId == accountId := by
    rw [Database.virtualFillsOf, Database.insertVirtualFill, List.filter_append]
    rfl
  rw [Database.pricedView, Database.accountState, hFills]
  rfl

theorem local_create (costs : PaperFillCosts) :
    (VirtualFillRepository.create fill costs).Local (Database.pricedView shown accountId) := by
  unfold VirtualFillRepository.create
  split
  · split
    · split
      · exact (local_insertVirtualFill _).bind fun _ => trivial
      · trivial
    · trivial
  · trivial

theorem local_applyFill (tracker : PnlTracker) (fill : PaperFill) :
    (tracker.applyFill fill).Local (Database.pricedView shown fill.accountId) := by
  unfold PnlTracker.applyFill
  split
  · trivial
  split
  · trivial
  refine Program.local_query_bind (fun s t h => congrArg (fun view => view.1.account) h) fun db => ?_
  cases db.virtualAccounts.find? fill.accountId with
  | none => trivial
  | some account =>
    refine (Program.local_ofExcept _).bind fun costs => ?_
    refine (local_settle account costs).bind fun outcome => ?_
    exact (local_create costs).bind fun row => trivial

end Local

namespace SimulationBroker

variable {γ : Type} {shown : List DailyPrice → γ} {execution : PendingExecution}
  {order : VirtualOrder} {accountId : Nat}

theorem local_updateStatus (status : VirtualOrderStatus) (reason : Option Formatted) :
    (VirtualOrderRepository.updateStatus order status reason).Local
      (Database.pricedView shown accountId) := by
  have hAccount : ∀ row, (VirtualOrderRepository.settle status reason row).accountId = row.accountId :=
    fun _ => rfl
  refine Program.Local.bind (Program.local_modify_of
    (fun view => ({ view.1 with
      orders := updateWhere (fun row => row.id == order.id)
        (VirtualOrderRepository.settle status reason) view.1.orders }, view.2))
    fun db => ?_) fun _ => trivial
  exact Prod.ext (congrArg (fun orders => { db.accountState accountId with orders := orders })
    (Database.virtualOrdersOf_update hAccount db)) rfl

theorem local_lookupClosePrice {symbol : String}
    (hShown : ∀ prices other, shown prices = shown other →
      DailyPriceRepository.rowsOf symbol prices = DailyPriceRepository.rowsOf symbol other) :
    (lookupClosePrice execution symbol).Local (Database.pricedView shown accountId) := by
  unfold lookupClosePrice
  split
  · refine Program.local_query fun s t h => ?_
    have hRows := hShown s.dailyPrices t.dailyPrices (congrArg Prod.snd h)
    rw [DailyPriceRepository.find?_rowsOf, hRows, ← DailyPriceRepository.find?_rowsOf]
  · refine Program.local_query fun s t h => ?_
    have hRows := hShown s.dailyPrices t.dailyPrices (congrArg Prod.snd h)
    rw [DailyPriceRepository.latestOnOrBefore_rowsOf, hRows,
      ← DailyPriceRepository.latestOnOrBefore_rowsOf]

/-- A round sees its account, and of the prices the rows of its symbol. -/
theorem local_matchOrder (execution : PendingExecution) (order : VirtualOrder)
    (hShown : ∀ prices other, shown prices = shown other →
      DailyPriceRepository.rowsOf order.symbol prices =
        DailyPriceRepository.rowsOf order.symbol other) :
    (matchOrder execution order).Local (Database.pricedView shown order.accountId) := by
  unfold matchOrder
  split
  · trivial
  refine (local_lookupClosePrice hShown).bind fun bar => ?_
  cases bar with
  | none => trivial
  | some bar =>
    simp only
    split
    · trivial
    · refine (local_applyFill execution.tracker (fillAt execution order bar.close)).attempt.bind
        fun outcome => ?_
      cases outcome with
      | ok result => exact (local_updateStatus .filled none).bind fun filled => trivial
      | error error =>
        cases error with
        | insufficientCash message =>
          exact (local_updateStatus .rejected _).bind fun rejected => trivial
        | insufficientPosition message =>
          exact (local_updateStatus .rejected _).bind fun rejected => trivial
        | _ => trivial

theorem local_matchOrder_tradingView (execution : PendingExecution) (order : VirtualOrder) :
    (matchOrder execution order).Local (Database.tradingView order.accountId) := by
  have hLocal : (matchOrder execution order).Local
      (Database.pricedView (fun prices => prices) order.accountId) := by
    refine local_matchOrder execution order ?_
    rintro prices other rfl
    rfl
  exact hLocal

end SimulationBroker

end StockAiPlatform
