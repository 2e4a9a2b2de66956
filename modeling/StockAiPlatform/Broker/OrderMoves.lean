import Mathlib.Logic.Relation
import StockAiPlatform.Broker.MatchOutcomes

/-! # Moves of paper orders

A paper order is submitted, closed without a fill, or filled, once. Two things
survive every move: an order has its one fill exactly while it is FILLED, and a
terminal status stays.
-/

namespace StockAiPlatform
set_option autoImplicit false

open Transaction Python

namespace Database

def fillsFor (orderId : Nat) (db : Database) : List VirtualFill :=
  db.virtualFills.filter fun fill => fill.orderId == orderId

def orderStatus (orderId : Nat) (db : Database) : Option VirtualOrderStatus :=
  (db.virtualOrders.find? orderId).map VirtualOrder.status

end Database

/-- The fill is the order's, on its account and terms. -/
structure Carries (order : VirtualOrder) (fill : VirtualFill) : Prop where
  orderId : fill.orderId = order.id
  accountId : fill.accountId = order.accountId
  symbol : fill.symbol = order.symbol
  side : fill.side = order.side
  quantity : fill.quantity = order.quantity

open SimulationBroker (settled)

inductive OrderMove (before : Database) : Database → Prop where
  | elsewhere {after : Database} (hOrders : after.virtualOrders = before.virtualOrders)
      (hFills : after.virtualFills = before.virtualFills) : OrderMove before after
  | submitted {after : Database} {order : VirtualOrder}
      (hId : order.id = before.virtualOrders.nextKey) (hStatus : order.status = .created)
      (hOrders : after.virtualOrders = before.virtualOrders.insert order)
      (hFills : after.virtualFills = before.virtualFills) : OrderMove before after
  | closed {order : VirtualOrder} {status : VirtualOrderStatus} (reason : Option Formatted)
      (hFound : before.virtualOrders.find? order.id = some order)
      (hOpen : order.status.isTerminal = false) (hStatus : status ≠ .filled) :
      OrderMove before (settled order status reason before)
  | filled {order : VirtualOrder} {fill : VirtualFill} {paid : Database}
      (hFound : before.virtualOrders.find? order.id = some order)
      (hOpen : order.status.isTerminal = false) (hCarries : Carries order fill)
      (hOrders : paid.virtualOrders = before.virtualOrders)
      (hFills : paid.virtualFills = before.virtualFills ++ [fill]) :
      OrderMove before (settled order .filled none paid)

/-- The order has its one fill if it is FILLED, and none otherwise. -/
structure FilledOnce (db : Database) (order : VirtualOrder) : Prop where
  count : (db.fillsFor order.id).length = if order.status = .filled then 1 else 0
  carries : ∀ fill ∈ db.fillsFor order.id, Carries order fill

structure OneFill (db : Database) : Prop where
  orders : ∀ order ∈ db.virtualOrders.rows, FilledOnce db order
  known : ∀ fill ∈ db.virtualFills, ∃ order, db.virtualOrders.find? fill.orderId = some order

namespace OneFill

variable {before after : Database} {order : VirtualOrder}

theorem fillsFor_of_open (h : OneFill before)
    (hFound : before.virtualOrders.find? order.id = some order)
    (hOpen : order.status.isTerminal = false) : before.fillsFor order.id = [] := by
  have hCount := (h.orders order (Table.mem_of_find? hFound)).count
  rw [if_neg] at hCount
  · exact List.length_eq_zero_iff.mp hCount
  · intro hFilled
    rw [hFilled] at hOpen
    cases hOpen

theorem fillsFor_nextKey (h : OneFill before) :
    before.fillsFor before.virtualOrders.nextKey = [] := by
  rw [Database.fillsFor, List.filter_eq_nil_iff]
  intro fill hFill hId
  obtain ⟨order, hFound⟩ := h.known fill hFill
  rw [beq_iff_eq.mp hId, Table.find?_nextKey] at hFound
  cases hFound

theorem mem_of_settled {db : Database} {status : VirtualOrderStatus} {reason : Option Formatted}
    (hFound : db.virtualOrders.find? order.id = some order) {row : VirtualOrder}
    (hRow : row ∈ (settled order status reason db).virtualOrders.rows) :
    row = VirtualOrderRepository.settle status reason order ∨
      row ∈ db.virtualOrders.rows ∧ row.id ≠ order.id := by
  have hStored := (Table.find?_eq_some_iff _ row.id row).mpr ⟨hRow, rfl⟩
  rw [SimulationBroker.find?_settled, Option.map_eq_some_iff] at hStored
  obtain ⟨old, hOld, hNew⟩ := hStored
  by_cases hKey : row.id = order.id
  · rw [if_pos hKey] at hNew
    rw [hKey, hFound] at hOld
    obtain rfl := Option.some.inj hOld
    exact .inl hNew.symm
  · rw [if_neg hKey] at hNew
    obtain rfl := hNew
    exact .inr ⟨Table.mem_of_find? hOld, hKey⟩

theorem known_settled {db : Database} {status : VirtualOrderStatus} {reason : Option Formatted}
    {k : Nat} (h : ∃ order, db.virtualOrders.find? k = some order) :
    ∃ stored, (settled order status reason db).virtualOrders.find? k = some stored := by
  obtain ⟨found, hFound⟩ := h
  rw [SimulationBroker.find?_settled, hFound]
  exact ⟨_, rfl⟩

theorem fillsFor_congr (hFills : after.virtualFills = before.virtualFills) (orderId : Nat) :
    after.fillsFor orderId = before.fillsFor orderId := by
  rw [Database.fillsFor, hFills, Database.fillsFor]

theorem filledOnce_congr (hFills : after.fillsFor order.id = before.fillsFor order.id)
    (h : FilledOnce before order) : FilledOnce after order := by
  obtain ⟨hCount, hCarries⟩ := h
  rw [← hFills] at hCount hCarries
  exact ⟨hCount, hCarries⟩

theorem submitted (h : OneFill before) (hId : order.id = before.virtualOrders.nextKey)
    (hStatus : order.status = .created)
    (hOrders : after.virtualOrders = before.virtualOrders.insert order)
    (hFills : after.virtualFills = before.virtualFills) : OneFill after := by
  constructor
  · intro row hRow
    rw [hOrders, Table.rows_insert_of_key_eq hId, List.mem_append, List.mem_singleton] at hRow
    rcases hRow with hOld | rfl
    · exact filledOnce_congr (fillsFor_congr hFills _) (h.orders row hOld)
    · have hNone : after.fillsFor row.id = [] := by
        rw [fillsFor_congr hFills, hId, h.fillsFor_nextKey]
      constructor
      · rw [hNone, hStatus]
        rfl
      · rw [hNone]
        intro fill hFill
        cases hFill
  · intro fill hFill
    rw [hFills] at hFill
    obtain ⟨found, hFound⟩ := h.known fill hFill
    rw [hOrders]
    exact ⟨found, Table.find?_insert_of_some hFound⟩

theorem closed (h : OneFill before) {status : VirtualOrderStatus} {reason : Option Formatted}
    (hFound : before.virtualOrders.find? order.id = some order)
    (hOpen : order.status.isTerminal = false) (hStatus : status ≠ .filled) :
    OneFill (settled order status reason before) := by
  constructor
  · intro row hRow
    rcases mem_of_settled hFound hRow with rfl | ⟨hMem, -⟩
    · have hNone : before.fillsFor order.id = [] := h.fillsFor_of_open hFound hOpen
      constructor
      · exact (congrArg List.length hNone).trans (if_neg hStatus).symm
      · intro fill hFill
        have hNil : fill ∈ before.fillsFor order.id := hFill
        rw [hNone] at hNil
        cases hNil
    · have hSame : (settled order status reason before).fillsFor row.id = before.fillsFor row.id := rfl
      exact filledOnce_congr hSame (h.orders row hMem)
  · intro fill hFill
    exact known_settled (h.known fill hFill)

theorem filled (h : OneFill before) {fill : VirtualFill} {paid : Database}
    (hFound : before.virtualOrders.find? order.id = some order)
    (hOpen : order.status.isTerminal = false) (hCarries : Carries order fill)
    (hOrders : paid.virtualOrders = before.virtualOrders)
    (hFills : paid.virtualFills = before.virtualFills ++ [fill]) :
    OneFill (settled order .filled none paid) := by
  have hFor : ∀ orderId, (settled order .filled none paid).fillsFor orderId =
      before.fillsFor orderId ++ [fill].filter fun fill => fill.orderId == orderId := by
    intro orderId
    exact (congrArg (List.filter _) hFills).trans (List.filter_append ..)
  have hOrder : paid.virtualOrders.find? order.id = some order := by rw [hOrders, hFound]
  constructor
  · intro row hRow
    rcases mem_of_settled hOrder hRow with rfl | ⟨hMem, hOther⟩
    · have hOwn : (settled order .filled none paid).fillsFor order.id = [fill] := by
        rw [hFor, h.fillsFor_of_open hFound hOpen, List.nil_append]
        exact List.filter_cons_of_pos (beq_iff_eq.mpr hCarries.orderId)
      constructor
      · exact (congrArg List.length hOwn)
      · intro own hMem
        have hMem : own ∈ (settled order .filled none paid).fillsFor order.id := hMem
        rw [hOwn, List.mem_singleton] at hMem
        obtain rfl := hMem
        exact ⟨hCarries.orderId, hCarries.accountId, hCarries.symbol, hCarries.side, hCarries.quantity⟩
    · rw [hOrders] at hMem
      refine filledOnce_congr ?_ (h.orders row hMem)
      rw [hFor, List.filter_cons_of_neg, List.filter_nil, List.append_nil]
      rw [beq_iff_eq, hCarries.orderId]
      exact Ne.symm hOther
  · intro recorded hMem
    refine known_settled ?_
    rw [hOrders]
    rcases List.mem_append.mp (hFills ▸ hMem : recorded ∈ before.virtualFills ++ [fill]) with hOld | hNew
    · exact h.known recorded hOld
    · obtain rfl := List.mem_singleton.mp hNew
      rw [hCarries.orderId]
      exact ⟨order, hFound⟩

theorem move (h : OneFill before) (hMove : OrderMove before after) : OneFill after := by
  cases hMove with
  | elsewhere hOrders hFills =>
    constructor
    · intro row hRow
      rw [hOrders] at hRow
      exact filledOnce_congr (fillsFor_congr hFills _) (h.orders row hRow)
    · rw [hOrders, hFills]
      exact h.known
  | submitted hId hStatus hOrders hFills => exact h.submitted hId hStatus hOrders hFills
  | closed reason hFound hOpen hStatus => exact h.closed hFound hOpen hStatus
  | filled hFound hOpen hCarries hOrders hFills => exact h.filled hFound hOpen hCarries hOrders hFills

theorem moves (h : OneFill before) (hMoves : Relation.ReflTransGen OrderMove before after) :
    OneFill after := by
  induction hMoves with
  | refl => exact h
  | tail moves move ih => exact ih.move move

end OneFill

namespace OrderMove

variable {before after : Database} {k : Nat} {status : VirtualOrderStatus}

/-- Only an order that is still open is settled. -/
theorem orderStatus_settled {order : VirtualOrder} {newStatus : VirtualOrderStatus}
    {reason : Option Formatted} {db : Database}
    (hFound : db.virtualOrders.find? order.id = some order) (hOpen : order.status.isTerminal = false)
    (hTerminal : status.isTerminal = true) (hStatus : db.orderStatus k = some status) :
    (settled order newStatus reason db).orderStatus k = some status := by
  have hOther : k ≠ order.id := by
    rintro rfl
    rw [Database.orderStatus, hFound] at hStatus
    cases hStatus
    rw [hOpen] at hTerminal
    cases hTerminal
  rw [Database.orderStatus, SimulationBroker.find?_settled]
  simp only [if_neg hOther, Option.map_id']
  exact hStatus

theorem keeps_terminal (hMove : OrderMove before after) (hTerminal : status.isTerminal = true)
    (hStatus : before.orderStatus k = some status) : after.orderStatus k = some status := by
  cases hMove with
  | elsewhere hOrders hFills =>
    rw [Database.orderStatus, hOrders]
    exact hStatus
  | submitted hId hCreated hOrders hFills =>
    obtain ⟨order, hFound, hOwn⟩ := Option.map_eq_some_iff.mp hStatus
    rw [Database.orderStatus, hOrders, Table.find?_insert_of_some hFound, Option.map_some, hOwn]
  | closed reason hFound hOpen hNew => exact orderStatus_settled hFound hOpen hTerminal hStatus
  | filled hFound hOpen hCarries hOrders hFills =>
    rw [← hOrders] at hFound
    rw [Database.orderStatus, ← hOrders] at hStatus
    exact orderStatus_settled hFound hOpen hTerminal hStatus

theorem terminal_of_moves (hMoves : Relation.ReflTransGen OrderMove before after)
    (hTerminal : status.isTerminal = true) (hStatus : before.orderStatus k = some status) :
    after.orderStatus k = some status := by
  induction hMoves with
  | refl => exact hStatus
  | tail moves move ih => exact move.keeps_terminal hTerminal ih

end OrderMove

end StockAiPlatform
