import StockAiPlatform.Backtest.MultiStrategyRunner
import StockAiPlatform.Backtest.WalkForward

/-! # What committed backtests leave

A plain run leaves its row and a result for every recommendation it evaluated.
A walk-forward run and a comparison of strategies leave their row alone, the
first with the totals over its validate windows, the second without counts of
actions.
-/

namespace StockAiPlatform.Backtest
set_option autoImplicit false

open Python

structure BacktestRun where
  id : Nat
  strategyName : String
  strategyVersion : String
  runDate : Int
  startDate : Option Int
  endDate : Option Int
  signalCount : Nat
  buyCount : Nat
  avoidCount : Nat
  passCount : Nat
  winRate : Horizon → Option ℚ
  avgReturn : Horizon → Option ℚ
  maxDrawdown : Option ℚ

structure BacktestResult where
  backtestRunId : Nat
  symbol : String
  signalAction : StrategyAction
  recommendationId : Nat
  recommendationResultId : Option Nat
  confidence : ℚ
  reason : String
  grade : Option String
  totalScore : Option ℚ
  returnAt : Horizon → Option ℚ
  maxDrawdown : Option ℚ
  resultStatus : Option String
  costAdjustedReturn5d : Option ℚ
  regime : Option String
  evidenceJson : Option Json

structure BacktestTables where
  runs : List BacktestRun
  results : List BacktestResult

namespace BacktestTables

def empty : BacktestTables := ⟨[], []⟩

def nextRunId (tables : BacktestTables) : Nat := (tables.runs.map BacktestRun.id).foldr max 0 + 1

def addRun (run : BacktestRun) (results : List BacktestResult) (tables : BacktestTables) :
    BacktestTables where
  runs := tables.runs ++ [run]
  results := tables.results ++ results

end BacktestTables

/-- A column that only one horizon has a value in. -/
def onlyFiveDays (value : Option ℚ) : Horizon → Option ℚ
  | .d5 => value
  | _ => none

namespace BacktestEngine

def persistResult (backtestRunId : Nat) (row : EvaluatedRow) : BacktestResult where
  backtestRunId := backtestRunId
  symbol := row.recommendation.symbol
  signalAction := row.signalAction
  recommendationId := row.recommendation.id
  recommendationResultId := row.recommendationResultId
  confidence := row.confidence
  reason := row.reason
  grade := row.recommendation.grade
  totalScore := row.recommendation.totalScore
  returnAt := row.returnAt
  maxDrawdown := row.maxDrawdown
  resultStatus := row.resultStatus
  costAdjustedReturn5d := row.costAdjustedReturn5d
  regime := row.regime
  evidenceJson := row.evidence.map Json.dict

/-- `run` with `dry_run=False`. -/
def commit (engine : BacktestEngine) (db : Database) (strategy : Strategy)
    (startDate endDate limit : Option Int) (runDate : Int) (tables : BacktestTables) :
    BacktestTables :=
  let evaluated := engine.evaluateAll db strategy startDate endDate limit
  let stats := aggregate evaluated
  let id := tables.nextRunId
  tables.addRun
    { id, runDate, startDate, endDate
      strategyName := strategy.name
      strategyVersion := strategy.version
      signalCount := stats.signalCount
      buyCount := stats.buyCount
      avoidCount := stats.avoidCount
      passCount := stats.passCount
      winRate := stats.winRate
      avgReturn := stats.avgReturn
      maxDrawdown := stats.maxDrawdown }
    (evaluated.map (persistResult id))

end BacktestEngine

namespace WalkForwardBacktestEngine

def runRow (strategy : Strategy) (startDate endDate : Int) (id : Nat) (record : BacktestRunRecord) :
    BacktestRun where
  id := id
  strategyName := strategy.name
  strategyVersion := strategy.version
  runDate := record.runDate
  startDate := some startDate
  endDate := some endDate
  signalCount := record.signalCount
  buyCount := record.buyCount
  avoidCount := record.avoidCount
  passCount := record.passCount
  winRate := onlyFiveDays record.winRate5d
  avgReturn := onlyFiveDays record.avgReturn5d
  maxDrawdown := none

/-- What `run` with `dry_run=False` stores: nothing if it raises or goes on for ever. -/
def stored (walkForward : WalkForwardBacktestEngine) (calendar : Calendar) (db : Database)
    (strategy : Strategy) (startDate endDate : Int) (runDate : Option Int) (today : Int)
    (fuel : Nat) : Option BacktestRunRecord :=
  match walkForward.run calendar db strategy startDate endDate false runDate today fuel with
  | some (.ok (_, record)) => record
  | _ => none

def commit (walkForward : WalkForwardBacktestEngine) (calendar : Calendar) (db : Database)
    (strategy : Strategy) (startDate endDate : Int) (runDate : Option Int) (today : Int)
    (fuel : Nat) (tables : BacktestTables) : BacktestTables :=
  match walkForward.stored calendar db strategy startDate endDate runDate today fuel with
  | some record => tables.addRun (runRow strategy startDate endDate tables.nextRunId record) []
  | none => tables

end WalkForwardBacktestEngine

namespace MultiStrategyRunner

/-- `run` with `dry_run=False`: one row for the whole comparison, if there is anything in it. -/
def commit (runner : MultiStrategyRunner) (db : Database) (stocks : StockTable)
    (strategies : List Strategy) (startDate endDate : Int) (limit runDate : Option Int) (today : Int)
    (tables : BacktestTables) : BacktestTables :=
  let comparison := runner.run db db stocks strategies startDate endDate false limit runDate today
  match comparison.strategyResults with
  | [] => tables
  | ref :: _ => tables.addRun
      { id := tables.nextRunId
        strategyName := "MULTI"
        strategyVersion := "multi"
        runDate := comparison.runDate
        startDate := some startDate
        endDate := some endDate
        signalCount := ref.stats.signalCount
        buyCount := 0
        avoidCount := 0
        passCount := 0
        winRate := fun _ => none
        avgReturn := fun _ => none
        maxDrawdown := none }
      []

end MultiStrategyRunner

/-- A call of one of the three engines that is not dry. -/
inductive BacktestCall where
  | plain (engine : BacktestEngine) (strategy : Strategy) (startDate endDate limit : Option Int)
    (runDate : Int)
  | walkForward (walker : WalkForwardBacktestEngine) (calendar : Calendar) (strategy : Strategy)
    (startDate endDate : Int) (runDate : Option Int) (today : Int) (fuel : Nat)
  | multi (runner : MultiStrategyRunner) (strategies : List Strategy) (startDate endDate : Int)
    (limit runDate : Option Int) (today : Int)

/-- What a call finds: the decisions and the stocks as they are at that time. -/
structure Moment where
  db : Database
  stocks : StockTable

namespace BacktestCall

def commit (call : BacktestCall) (now : Moment) (tables : BacktestTables) : BacktestTables :=
  match call with
  | .plain engine strategy startDate endDate limit runDate =>
    engine.commit now.db strategy startDate endDate limit runDate tables
  | .walkForward walker calendar strategy startDate endDate runDate today fuel =>
    walker.commit calendar now.db strategy startDate endDate runDate today fuel tables
  | .multi runner strategies startDate endDate limit runDate today =>
    runner.commit now.db now.stocks strategies startDate endDate limit runDate today tables

/-- The tables after a sequence of calls, each over the data of its time. -/
def commitAll (calls : List (BacktestCall × Moment)) : BacktestTables :=
  calls.foldl (fun tables call => call.1.commit call.2 tables) .empty

end BacktestCall

end StockAiPlatform.Backtest
