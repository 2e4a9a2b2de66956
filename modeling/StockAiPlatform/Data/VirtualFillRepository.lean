import StockAiPlatform.Backtest.CostModel
import StockAiPlatform.Transaction.Atomic

/-! # Paper fills

Rows of `virtual_fills`, which are inserted and never changed.
-/

namespace StockAiPlatform
set_option autoImplicit false

open Transaction

/-- The arguments of `apply_fill`; `filledAt` is the clock where the caller passes no time. -/
structure PaperFill where
  orderId : Nat
  accountId : Nat
  symbol : String
  side : Side
  quantity : Int
  fillPrice : ℚ
  filledAt : Int

namespace Database

def insertVirtualFill (db : Database) (fill : VirtualFill) : Database :=
  { db with virtualFills := db.virtualFills ++ [fill] }

end Database

def PaperFillCosts.allNonneg (costs : PaperFillCosts) : Prop :=
  0 ≤ costs.fee ∧ 0 ≤ costs.stampTax ∧ 0 ≤ costs.slippage ∧ 0 ≤ costs.grossAmount ∧
    0 ≤ costs.netAmount

instance (costs : PaperFillCosts) : Decidable costs.allNonneg :=
  inferInstanceAs (Decidable (_ ∧ _ ∧ _ ∧ _ ∧ _))

namespace VirtualFillRepository

def rowOf (fill : PaperFill) (costs : PaperFillCosts) (hQuantity : 0 < fill.quantity)
    (hPrice : 0 < fill.fillPrice) (hCosts : costs.allNonneg) : VirtualFill where
  orderId := fill.orderId
  accountId := fill.accountId
  symbol := fill.symbol
  side := fill.side
  quantity := fill.quantity
  fillPrice := fill.fillPrice
  fee := costs.fee
  stampTax := costs.stampTax
  slippage := costs.slippage
  grossAmount := costs.grossAmount
  netAmount := costs.netAmount
  filledAt := fill.filledAt
  quantity_pos := hQuantity
  fillPrice_pos := hPrice
  fee_nonneg := hCosts.1
  stampTax_nonneg := hCosts.2.1
  slippage_nonneg := hCosts.2.2.1
  grossAmount_nonneg := hCosts.2.2.2.1
  netAmount_nonneg := hCosts.2.2.2.2

def create (fill : PaperFill) (costs : PaperFillCosts) : App VirtualFill :=
  if hQuantity : 0 < fill.quantity then
    if hPrice : 0 < fill.fillPrice then
      if hCosts : costs.allNonneg then do
        let row := rowOf fill costs hQuantity hPrice hCosts
        Program.modify fun db => db.insertVirtualFill row
        pure row
      else .raise (.valueError "cost / amount fields must be >= 0")
    else .raise (.valueError "fill_price must be > 0")
  else .raise (.valueError "quantity must be > 0")

theorem exec_create_eq_ok {fill : PaperFill} {costs : PaperFillCosts} {row : VirtualFill}
    {answer : Answer} {s t : DbSession} (h : (create fill costs).exec answer s = (.ok row, t)) :
    (∃ hQuantity hPrice hCosts, row = rowOf fill costs hQuantity hPrice hCosts) ∧
      t = s.write fun db => db.insertVirtualFill row := by
  unfold create at h
  split at h
  · split at h
    · split at h
      · cases h
        exact ⟨⟨_, _, _, rfl⟩, rfl⟩
      · cases h
    · cases h
  · cases h

end VirtualFillRepository

end StockAiPlatform
