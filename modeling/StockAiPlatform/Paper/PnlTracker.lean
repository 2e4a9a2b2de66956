import StockAiPlatform.Data.DailyPriceRepository
import StockAiPlatform.Data.VirtualAccountRepository
import StockAiPlatform.Data.VirtualFillRepository
import StockAiPlatform.Data.VirtualPnlSnapshotRepository
import StockAiPlatform.Data.VirtualPositionRepository

/-! # The tracker of paper accounts

`apply_fill` moves cash and a position and records the fill. The daily
snapshot values the open positions at the latest close that is recent enough.
-/

namespace StockAiPlatform
set_option autoImplicit false

open Transaction Python

structure PnlTracker where
  costModel : PaperTradingCostModel := {}

structure FillResult where
  fill : VirtualFill
  position : VirtualPosition
  account : VirtualAccount
  costs : PaperFillCosts
  realizedPnlDelta : ℚ

namespace PnlTracker

def buy (fill : PaperFill) (account : VirtualAccount) (costs : PaperFillCosts) :
    App (VirtualAccount × VirtualPosition) :=
  if account.cashBalance < costs.netAmount then
    .raise (.insufficientCash [.str "BUY of ", .int fill.quantity, .str s!" {fill.symbol} requires ",
      .decimal costs.netAmount, .str " cash; account has ", .decimal account.cashBalance])
  else do
    let account ← VirtualAccountRepository.updateCashBalance account
      (account.cashBalance - costs.netAmount)
    let position ← VirtualPositionRepository.applyBuy fill.accountId fill.symbol fill.quantity
      fill.fillPrice costs.netAmount
    pure (account, position)

def sell (fill : PaperFill) (account : VirtualAccount) (costs : PaperFillCosts) :
    App (VirtualAccount × VirtualPosition × ℚ) := do
  let (position, realized) ← VirtualPositionRepository.applySell fill.accountId fill.symbol
    fill.quantity costs.netAmount
  let account ← VirtualAccountRepository.updateCashBalance account
    (account.cashBalance + costs.netAmount)
  pure (account, position, realized)

def settle (fill : PaperFill) (account : VirtualAccount) (costs : PaperFillCosts) :
    App (VirtualAccount × VirtualPosition × ℚ) :=
  match fill.side with
  | .buy => do
    let (account, position) ← buy fill account costs
    pure (account, position, 0)
  | .sell => sell fill account costs

def applyFill (tracker : PnlTracker) (fill : PaperFill) : App FillResult :=
  if fill.quantity ≤ 0 then .raise (.valueError "quantity must be > 0")
  else if fill.fillPrice ≤ 0 then .raise (.valueError "fill_price must be > 0")
  else do
    let some account ← VirtualAccountRepository.getById fill.accountId
      | .raise (.valueError s!"VirtualAccount id={fill.accountId} not found")
    let costs ← .ofExcept (tracker.costModel.compute fill.side fill.fillPrice fill.quantity)
    let (account, position, realized) ← settle fill account costs
    let row ← VirtualFillRepository.create fill costs
    return {
      fill := row
      position := position
      account := account
      costs := costs
      realizedPnlDelta := realized }

structure PositionTotals where
  marketValue : ℚ := 0
  unrealizedPnl : ℚ := 0
  realizedTotal : ℚ := 0

/-- One round of the loop, with the bar the query found. -/
def PositionTotals.add (totals : PositionTotals) (position : VirtualPosition)
    (bar : Option DailyPrice) : PositionTotals :=
  let realized := totals.realizedTotal + position.realizedPnl
  if position.quantity ≤ 0 then { totals with realizedTotal := realized }
  else
    match bar with
    | none => { totals with realizedTotal := realized }
    | some bar =>
      { marketValue := totals.marketValue + bar.close * position.quantity
        unrealizedPnl := totals.unrealizedPnl
          + (bar.close * position.quantity - position.avgCost * position.quantity)
        realizedTotal := realized }

/-- Positions sold out are not priced. -/
def totalUp (snapshotDate lookbackDays : Int) : List VirtualPosition → PositionTotals →
    App PositionTotals
  | [], totals => pure totals
  | position :: positions, totals => do
    if position.quantity ≤ 0 then totalUp snapshotDate lookbackDays positions (totals.add position none)
    else do
      let bar ← DailyPriceRepository.getLatestOnOrBefore position.symbol snapshotDate lookbackDays
      totalUp snapshotDate lookbackDays positions (totals.add position bar)

def createDailyPnlSnapshot (accountId : Nat) (snapshotDate : Int)
    (priceLookbackDays : Int := 14) : App VirtualPnlSnapshot := do
  let some account ← VirtualAccountRepository.getById accountId
    | .raise (.valueError s!"VirtualAccount id={accountId} not found")
  let positions ← VirtualPositionRepository.listByAccount accountId
  let totals ← totalUp snapshotDate priceLookbackDays positions {}
  VirtualPnlSnapshotRepository.createOrReplaceSnapshot accountId snapshotDate account.cashBalance
    totals.marketValue totals.realizedTotal totals.unrealizedPnl

end PnlTracker

end StockAiPlatform
