import StockAiPlatform.Broker.KisOrderClient

/-! # What a paper fill costs

Fee, stamp tax and slippage as rates of the gross amount. A buy pays them on
top, a sell pays them out of what it brings in, down to nothing.
-/

namespace StockAiPlatform
set_option autoImplicit false

structure PaperFillCosts where
  grossAmount : ℚ
  fee : ℚ
  stampTax : ℚ
  slippage : ℚ
  netAmount : ℚ
  deriving DecidableEq, Repr

structure PaperTradingCostModel where
  buyFeeRate : ℚ := 15 / 100000
  sellFeeRate : ℚ := 15 / 100000
  sellTaxRate : ℚ := 18 / 10000
  slippageRate : ℚ := 5 / 10000

/-- The rates a backtest takes off a return. -/
structure CostModel where
  buyFee : ℚ := 15 / 100000
  sellFee : ℚ := 15 / 100000
  sellTax : ℚ := 2 / 1000
  slippage : ℚ := 1 / 1000
  version : String := "constant-v1"

namespace CostModel

def totalCost (model : CostModel) : ℚ :=
  model.buyFee + model.sellFee + model.sellTax + model.slippage

/-- Returns are in percent, the cost is a fraction. -/
def apply (model : CostModel) (rawReturn : Option ℚ) : Option ℚ :=
  rawReturn.map fun value => value - model.totalCost * 100

end CostModel

namespace PaperTradingCostModel

def buyCosts (model : PaperTradingCostModel) (gross : ℚ) : PaperFillCosts :=
  let fee := gross * model.buyFeeRate
  let slippage := gross * model.slippageRate
  { grossAmount := gross
    fee := fee
    stampTax := 0
    slippage := slippage
    netAmount := gross + fee + slippage }

/-- What is left of the gross amount is clamped at zero. -/
def sellCosts (model : PaperTradingCostModel) (gross : ℚ) : PaperFillCosts :=
  let fee := gross * model.sellFeeRate
  let stampTax := gross * model.sellTaxRate
  let slippage := gross * model.slippageRate
  let net := gross - fee - stampTax - slippage
  { grossAmount := gross
    fee := fee
    stampTax := stampTax
    slippage := slippage
    netAmount := if net < 0 then 0 else net }

def compute (model : PaperTradingCostModel) (side : Side) (fillPrice : ℚ) (quantity : Int) :
    Except PyError PaperFillCosts :=
  if fillPrice ≤ 0 then .error (.valueError "fill_price must be > 0")
  else if quantity ≤ 0 then .error (.valueError "quantity must be > 0")
  else
    match side with
    | .buy => .ok (model.buyCosts (fillPrice * quantity))
    | .sell => .ok (model.sellCosts (fillPrice * quantity))

end PaperTradingCostModel

end StockAiPlatform
