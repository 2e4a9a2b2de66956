import Mathlib.Algebra.Order.BigOperators.Group.List
import StockAiPlatform.Broker.KisOrderClient

/-! # Real fill rows

Fills are only ever inserted. The recorded total of an order is the sum of the
quantities of its rows.
-/

namespace StockAiPlatform
set_option autoImplicit false

open Transaction Python

namespace Database

def insertRealFill (db : Database) (fill : RealFill) : Database :=
  { db with realFills := db.realFills ++ [fill] }

@[simp] theorem insertRealFill_realOrders (db : Database) (fill : RealFill) :
    (db.insertRealFill fill).realOrders = db.realOrders := rfl
@[simp] theorem insertRealFill_realFills (db : Database) (fill : RealFill) :
    (db.insertRealFill fill).realFills = db.realFills ++ [fill] := rfl

def fillsOf (db : Database) (orderId : Nat) : List RealFill :=
  db.realFills.filter fun fill => fill.realOrderId == orderId

/-- `SUM(quantity)` over the fills of one order, zero when there are none. -/
def totalFilled (db : Database) (orderId : Nat) : Int :=
  ((db.fillsOf orderId).map RealFill.quantity).sum

theorem fillsOf_insertRealFill (db : Database) (fill : RealFill) (orderId : Nat) :
    (db.insertRealFill fill).fillsOf orderId =
      db.fillsOf orderId ++ if fill.realOrderId = orderId then [fill] else [] := by
  rw [fillsOf, insertRealFill_realFills, List.filter_append]
  by_cases h : fill.realOrderId = orderId <;> simp [fillsOf, h]

theorem totalFilled_insertRealFill (db : Database) (fill : RealFill) (orderId : Nat) :
    (db.insertRealFill fill).totalFilled orderId =
      db.totalFilled orderId + if fill.realOrderId = orderId then fill.quantity else 0 := by
  rw [totalFilled, fillsOf_insertRealFill, List.map_append, List.sum_append]
  by_cases h : fill.realOrderId = orderId <;> simp [totalFilled, h]

theorem totalFilled_nonneg (db : Database) (orderId : Nat) : 0 ≤ db.totalFilled orderId := by
  apply List.sum_nonneg
  intro quantity hMem
  obtain ⟨fill, -, rfl⟩ := List.mem_map.mp hMem
  exact fill.quantity_pos.le

end Database

structure RealFillDraft where
  realOrderId : Nat
  symbol : String
  side : Side
  quantity : Int
  fillPrice : ℚ
  fee : ℚ
  tax : ℚ
  grossAmount : ℚ
  netAmount : ℚ
  fillStatus : FillMark
  filledAt : Int

namespace RealFillRepository

def rowOf (draft : RealFillDraft) (hQuantity : 0 < draft.quantity) (hPrice : 0 < draft.fillPrice)
    (hGross : 0 ≤ draft.grossAmount) (hNet : 0 ≤ draft.netAmount) : RealFill where
  realOrderId := draft.realOrderId
  symbol := draft.symbol
  side := draft.side
  quantity := draft.quantity
  fillPrice := draft.fillPrice
  fee := draft.fee
  tax := draft.tax
  grossAmount := draft.grossAmount
  netAmount := draft.netAmount
  fillStatus := draft.fillStatus
  filledAt := draft.filledAt
  quantity_pos := hQuantity
  fillPrice_pos := hPrice
  grossAmount_nonneg := hGross
  netAmount_nonneg := hNet

def create (draft : RealFillDraft) : App RealFill :=
  if hQuantity : 0 < draft.quantity then
    if hPrice : 0 < draft.fillPrice then
      if hGross : 0 ≤ draft.grossAmount then
        if hNet : 0 ≤ draft.netAmount then do
          let fill := rowOf draft hQuantity hPrice hGross hNet
          Program.modify fun db => db.insertRealFill fill
          pure fill
        else .raise (.valueError "net_amount must be >= 0")
      else .raise (.valueError "gross_amount must be >= 0")
    else .raise (.valueError "fill_price must be > 0")
  else .raise (.valueError "quantity must be > 0")

def totalFilledQuantity (orderId : Nat) : App Int :=
  Program.query (.totalFilledQuantity orderId) fun db => db.totalFilled orderId

theorem create_eq (draft : RealFillDraft) (hQuantity : 0 < draft.quantity)
    (hPrice : 0 < draft.fillPrice) (hGross : 0 ≤ draft.grossAmount) (hNet : 0 ≤ draft.netAmount) :
    let fill := rowOf draft hQuantity hPrice hGross hNet
    create draft = (do
      Program.modify fun db => db.insertRealFill fill
      pure fill) := by
  intro fill
  rw [create, dif_pos hQuantity, dif_pos hPrice, dif_pos hGross, dif_pos hNet]

theorem exec_create (draft : RealFillDraft) (hQuantity : 0 < draft.quantity)
    (hPrice : 0 < draft.fillPrice) (hGross : 0 ≤ draft.grossAmount) (hNet : 0 ≤ draft.netAmount)
    (answer : Answer) (s : DbSession) :
    let fill := rowOf draft hQuantity hPrice hGross hNet
    (create draft).exec answer s = (.ok fill, s.write fun db => db.insertRealFill fill) := by
  intro fill
  rw [create_eq draft hQuantity hPrice hGross hNet]
  rfl

end RealFillRepository

end StockAiPlatform
