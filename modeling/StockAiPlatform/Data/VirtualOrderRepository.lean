import Mathlib.Data.List.Sort
import StockAiPlatform.Broker.KisOrderClient
import StockAiPlatform.Transaction.Rows

/-! # Paper order rows

Inserts, reads and status changes of `virtual_orders`.
-/

namespace StockAiPlatform
set_option autoImplicit false

open Transaction Python

namespace Database

def insertVirtualOrder (db : Database) (order : VirtualOrder) : Database :=
  { db with virtualOrders := db.virtualOrders.insert order }

def updateVirtualOrder (db : Database) (orderId : Nat) (change : VirtualOrder → VirtualOrder)
    (hId : ∀ order, (change order).id = order.id) : Database :=
  { db with virtualOrders := db.virtualOrders.modify orderId change hId }

/-- A change that moves no row into or out of a part of the table. -/
theorem filter_updateVirtualOrder {orderId : Nat} {change : VirtualOrder → VirtualOrder}
    {hId : ∀ order, (change order).id = order.id} {keep : VirtualOrder → Bool}
    (hKeep : ∀ order, keep (change order) = keep order) (db : Database) :
    (db.updateVirtualOrder orderId change hId).virtualOrders.rows.filter keep =
      updateWhere (fun order => order.id == orderId) change (db.virtualOrders.rows.filter keep) := by
  have hRows : (db.updateVirtualOrder orderId change hId).virtualOrders.rows =
      updateWhere (fun order => order.id == orderId) change db.virtualOrders.rows := by
    refine List.map_congr_left fun order _ => ?_
    simp only [key_virtualOrder, beq_iff_eq]
  rw [hRows]
  exact filter_updateWhere fun order _ => hKeep order

end Database

structure VirtualOrderDraft where
  accountId : Nat
  symbol : String
  side : Side
  quantity : Int
  orderType : OrderType
  limitPrice : Option ℚ
  idempotencyKey : Option String
  note : Option String

namespace VirtualOrderRepository

def rowOf (draft : VirtualOrderDraft) (id : Nat) (hQuantity : 0 < draft.quantity)
    (hPrice : draft.orderType.takes draft.limitPrice = true) : VirtualOrder where
  id := id
  accountId := draft.accountId
  symbol := draft.symbol
  side := draft.side
  quantity := draft.quantity
  orderType := draft.orderType
  limitPrice := draft.limitPrice
  status := .created
  idempotencyKey := draft.idempotencyKey
  reason := none
  note := draft.note
  quantity_pos := hQuantity
  limitPrice_ok := hPrice

/-- `create` for a caller that has checked side and order type, with status CREATED. -/
def create (draft : VirtualOrderDraft) : App VirtualOrder :=
  if hQuantity : 0 < draft.quantity then
    if hPrice : draft.orderType.takes draft.limitPrice = true then do
      let id ← Program.allocated fun db : Database => db.virtualOrders.nextKey
      let order := rowOf draft id hQuantity hPrice
      Program.modify fun db => db.insertVirtualOrder order
      pure order
    else match draft.orderType with
      | .limit => .raise (.valueError "LIMIT order requires limit_price")
      | .market => .raise (.valueError "MARKET order must not have limit_price")
  else .raise (.valueError "quantity must be > 0")

def getById (orderId : Nat) : App (Option VirtualOrder) :=
  Program.query (.virtualOrderById orderId) fun db => db.virtualOrders.find? orderId

/-- The orders of one status, newest first, of one account or of all. -/
def withStatus (accountId : Option Nat) (status : VirtualOrderStatus) (db : Database) :
    List VirtualOrder :=
  (db.virtualOrders.rows.filter fun order =>
    accountId.all (order.accountId == ·) && order.status == status).insertionSort
    fun a b => b.id ≤ a.id

def listByAccount (accountId : Nat) (status : VirtualOrderStatus) (limit : Nat) :
    App (List VirtualOrder) :=
  Program.query (.virtualOrdersByStatus (some accountId) status) fun db =>
    (withStatus (some accountId) status db).take limit

/-- `list_by_account` as a route calls it: with any text for a status, or with none. -/
def listByAccountStatus (accountId : Nat) (status : Option String) (limit : Nat) :
    App (List VirtualOrder) :=
  Program.query (.virtualOrdersByAccount accountId status limit) fun db =>
    ((db.virtualOrders.rows.filter fun order => order.accountId == accountId &&
      status.all (order.status.value == ·)).insertionSort fun a b => b.id ≤ a.id).take limit

def findByKey (accountId : Nat) (idempotencyKey : String) (orders : Table VirtualOrder) :
    Option VirtualOrder :=
  orders.rows.find? fun order =>
    order.accountId == accountId && order.idempotencyKey == some idempotencyKey

def getByIdempotencyKey (accountId : Nat) (idempotencyKey : String) : App (Option VirtualOrder) :=
  Program.query (.virtualOrderByKey accountId idempotencyKey) fun db =>
    findByKey accountId idempotencyKey db.virtualOrders

/-- The columns a status change sets; no reason keeps the old one. -/
def settle (newStatus : VirtualOrderStatus) (reason : Option Formatted) (order : VirtualOrder) :
    VirtualOrder :=
  { order with status := newStatus, reason := reason.or order.reason }

theorem id_settle (newStatus : VirtualOrderStatus) (reason : Option Formatted) (order : VirtualOrder) :
    (settle newStatus reason order).id = order.id := rfl

def updateStatus (order : VirtualOrder) (newStatus : VirtualOrderStatus)
    (reason : Option Formatted) : App VirtualOrder := do
  Program.modify fun db => db.updateVirtualOrder order.id (settle newStatus reason) fun _ => rfl
  pure (settle newStatus reason order)

def cancel (order : VirtualOrder) (reason : Option Formatted) : App VirtualOrder :=
  if order.status.isCancelable then updateStatus order .canceled reason
  else .raise (.valueError (s!"cannot cancel VirtualOrder in status='{order.status.value}'; "
    ++ "only ['CREATED', 'SUBMITTED'] are cancelable"))

theorem exec_create (answer : Answer) (s : DbSession) (draft : VirtualOrderDraft)
    (hQuantity : 0 < draft.quantity) (hPrice : draft.orderType.takes draft.limitPrice = true) :
    let order := rowOf draft s.view.virtualOrders.nextKey hQuantity hPrice
    (create draft).exec answer s = (.ok order, s.write fun db => db.insertVirtualOrder order) := by
  intro order
  rw [create, dif_pos hQuantity, dif_pos hPrice]
  rfl

theorem commitFree_create (draft : VirtualOrderDraft) : (create draft).CommitFree := by
  unfold create
  split
  · split
    · exact fun _ => trivial
    · cases draft.orderType <;> trivial
  · trivial

end VirtualOrderRepository

end StockAiPlatform
