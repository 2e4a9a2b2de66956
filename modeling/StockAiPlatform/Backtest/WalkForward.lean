import StockAiPlatform.Backtest.Engine
import StockAiPlatform.Python.Calendar
import StockAiPlatform.Python.Loop

/-! # The walk-forward engine

A range of dates is cut into folds of a train and a validate window, and the
strategy is replayed over both windows of every fold. What is stored of a run
that is not dry are the totals over the validate windows.
-/

namespace StockAiPlatform.Backtest
set_option autoImplicit false

open Python

/-- `train_window_days`, `validate_window_days` and `gap_days`: any integers. -/
structure Windows where
  train : Int := 60
  validate : Int := 20
  gap : Int := 0
  deriving DecidableEq, Repr

structure Fold where
  foldIndex : Nat
  trainStart : Int
  trainEnd : Int
  validateStart : Int
  validateEnd : Int
  deriving DecidableEq, Repr

structure FoldState where
  foldIndex : Nat
  cursor : Int
  folds : List Fold
  deriving DecidableEq, Repr

/-- One pass through the body of the `while True`. -/
def foldPass (calendar : Calendar) (windows : Windows) (endDate : Int) (s : FoldState) :
    Except OverflowError (FoldState ⊕ List Fold) := do
  let trainStart := s.cursor
  let trainEnd ← calendar.plus trainStart (windows.train - 1)
  let validateStart ← calendar.plus trainEnd (windows.gap + 1)
  let validateEnd ← calendar.plus validateStart (windows.validate - 1)
  if endDate < validateEnd then return .inr s.folds
  let cursor ← calendar.plus s.cursor windows.validate
  return .inl
    { foldIndex := s.foldIndex + 1
      cursor := cursor
      folds := s.folds ++ [⟨s.foldIndex, trainStart, trainEnd, validateStart, validateEnd⟩] }

def foldsFrom (startDate : Int) : FoldState := ⟨0, startDate, []⟩

def generateFolds (calendar : Calendar) (windows : Windows) (startDate endDate : Int)
    (fuel : Nat) : Option (Except OverflowError (List Fold)) :=
  whileTrue (foldPass calendar windows endDate) fuel (foldsFrom startDate)

structure FoldResult where
  fold : Fold
  isMetrics : BacktestRunSummary
  oosMetrics : BacktestRunSummary
  isOosGap : Int
  signalCount : Nat
  buyCount : Nat

/-- The counts of the `backtest_runs` row that a run leaves if it is not dry. -/
structure BacktestRunRecord where
  runDate : Int
  signalCount : Nat
  buyCount : Nat
  avoidCount : Nat
  passCount : Nat
  winRate5d : Option ℚ
  avgReturn5d : Option ℚ

structure WalkForwardSummary where
  strategyName : String
  strategyVersion : String
  runDate : Int
  startDate : Int
  endDate : Int
  windows : Windows
  dryRun : Bool
  totalFolds : Nat
  foldResults : List FoldResult
  avgOosWinRate5d : Option ℚ
  avgOosAvgReturn5d : Option ℚ

structure WalkForwardBacktestEngine where
  costModel : CostModel := {}
  regimeMarket : String := "KOSPI"
  windows : Windows := {}

namespace WalkForwardBacktestEngine

def engine (walkForward : WalkForwardBacktestEngine) : BacktestEngine where
  costModel := walkForward.costModel
  regimeMarket := walkForward.regimeMarket

def foldResult (walkForward : WalkForwardBacktestEngine) (db : Database) (strategy : Strategy)
    (today : Int) (fold : Fold) : FoldResult :=
  let isMetrics := walkForward.engine.run db strategy (some fold.trainStart) (some fold.trainEnd)
    none today
  let oosMetrics := walkForward.engine.run db strategy (some fold.validateStart)
    (some fold.validateEnd) none today
  { fold, isMetrics, oosMetrics
    isOosGap := walkForward.windows.gap
    signalCount := oosMetrics.stats.signalCount
    buyCount := oosMetrics.stats.buyCount }

def total (count : AggregateStats → Nat) (results : List FoldResult) : Nat :=
  (results.map fun result => count result.oosMetrics.stats).sum

def averageOf (metric : AggregateStats → Option ℚ) (results : List FoldResult) : Option ℚ :=
  average (results.filterMap fun result => metric result.oosMetrics.stats)

def summarize (walkForward : WalkForwardBacktestEngine) (strategy : Strategy)
    (startDate endDate : Int) (dryRun : Bool) (runDate : Int) (results : List FoldResult) :
    WalkForwardSummary × Option BacktestRunRecord :=
  let avgOosWinRate5d := averageOf (fun stats => stats.winRate .d5) results
  let avgOosAvgReturn5d := averageOf (fun stats => stats.avgReturn .d5) results
  ({ strategyName := strategy.name
     strategyVersion := strategy.version
     runDate, startDate, endDate, dryRun
     windows := walkForward.windows
     totalFolds := results.length
     foldResults := results
     avgOosWinRate5d, avgOosAvgReturn5d },
    if dryRun then none
    else some
      { runDate
        signalCount := total AggregateStats.signalCount results
        buyCount := total AggregateStats.buyCount results
        avoidCount := total AggregateStats.avoidCount results
        passCount := total AggregateStats.passCount results
        winRate5d := avgOosWinRate5d
        avgReturn5d := avgOosAvgReturn5d })

def run (walkForward : WalkForwardBacktestEngine) (calendar : Calendar) (db : Database)
    (strategy : Strategy) (startDate endDate : Int) (dryRun : Bool) (runDate : Option Int)
    (today : Int) (fuel : Nat) :
    Option (Except OverflowError (WalkForwardSummary × Option BacktestRunRecord)) :=
  (generateFolds calendar walkForward.windows startDate endDate fuel).map fun outcome =>
    outcome.map fun folds =>
      walkForward.summarize strategy startDate endDate dryRun (runDate.getD today)
        (folds.map (walkForward.foldResult db strategy today))

end WalkForwardBacktestEngine

end StockAiPlatform.Backtest
