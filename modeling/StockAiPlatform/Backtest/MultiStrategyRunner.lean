import StockAiPlatform.Backtest.Engine
import StockAiPlatform.Transaction.Groups

/-! # The multi-strategy runner

Several strategies replayed over the same recommendations and compared. The
sector breakdown fetches the recommendations and their returns a second time
and evaluates the strategy again.
-/

namespace StockAiPlatform.Backtest
set_option autoImplicit false

open Transaction

/-! ## The sector breakdown

Signals with their sector and their return after five days, put together by
sector. A sector that is not known has a bucket of its own.
-/

def unknownSectorBucket : String := "UNKNOWN"

/-- A triple `(sector, action, return_5d)`. -/
structure SectorSignal where
  sector : Option String
  action : StrategyAction
  return5d : Option ℚ
  deriving DecidableEq

structure SectorBreakdownEntry where
  sector : String
  signalCount : Nat
  buyCount : Nat
  winRate5d : Option ℚ
  avgReturn5d : Option ℚ
  deriving DecidableEq

def SectorSignal.bucket (signal : SectorSignal) : String :=
  match signal.sector with
  | some sector => if sector = "" then unknownSectorBucket else sector
  | none => unknownSectorBucket

def SectorSignal.isBuy (signal : SectorSignal) : Bool := signal.action == .buy

def buyReturns (signals : List SectorSignal) : List ℚ :=
  (signals.filter SectorSignal.isBuy).filterMap SectorSignal.return5d

def sectorEntry (signals : List SectorSignal) (sector : String) : SectorBreakdownEntry :=
  let inSector := group SectorSignal.bucket signals sector
  { sector := sector
    signalCount := inSector.length
    buyCount := inSector.countP SectorSignal.isBuy
    winRate5d := winRateOf (buyReturns inSector)
    avgReturn5d := average (buyReturns inSector) }

/-- Sectors in the order of their first signal, then sorted by size and name. -/
def aggregateSectorBreakdown (signals : List SectorSignal) : List SectorBreakdownEntry :=
  ((keysOf SectorSignal.bucket signals).map (sectorEntry signals)).insertionSort
    fun a b => b.buyCount < a.buyCount ∨ (a.buyCount = b.buyCount ∧ a.sector ≤ b.sector)

/-! ## The runner -/

structure StrategyResult where
  strategyName : String
  strategyVersion : String
  stats : AggregateStats
  regimeBreakdown : List RegimeBreakdownEntry
  sectorBreakdown : List SectorBreakdownEntry

structure MultiStrategyComparison where
  startDate : Int
  endDate : Int
  runDate : Int
  dryRun : Bool
  totalStrategies : Nat
  strategyResults : List StrategyResult
  bestStrategyByWinRate5d : Option String
  bestStrategyByAvgReturn5d : Option String

structure MultiStrategyRunner where
  costModel : CostModel := {}
  regimeMarket : String := "KOSPI"
  withRegimeBreakdown : Bool := true
  withSectorBreakdown : Bool := true

namespace MultiStrategyRunner

open BacktestEngine

abbrev SectorRow := FetchedRow × Option String

def engine (runner : MultiStrategyRunner) : BacktestEngine where
  costModel := runner.costModel
  regimeMarket := runner.regimeMarket

/-- The recommendations with run and snapshot, and the sector of the stock if there is one. -/
def joinedWithSector (db : Database) (stocks : StockTable) : List SectorRow :=
  (outerJoin (fun (row : FetchedRow) (stock : Stock) => row.1.symbol == stock.symbol) (joined db)
    stocks.rows).map fun pair => (pair.1, pair.2.bind Stock.sector)

def fetchRecsWithSector (db : Database) (stocks : StockTable) (startDate endDate limit : Option Int) :
    List SectorRow :=
  let rows := ((joinedWithSector db stocks).filter fun row => inRange startDate endDate row.1).insertionSort
    fun a b => comesBefore a.1 b.1
  match limit with
  | some n => if 0 < n then rows.take n.toNat else rows
  | none => rows

/-- The 5-day returns of the recommendations, in the order of the table. -/
def fetchReturnsMap (db : Database) (recIds : List Nat) : List (Nat × Option ℚ) :=
  (db.recommendationResults.filter fun row =>
    recIds.contains row.recommendationId && row.daysAfter == 5).map fun row =>
      (row.recommendationId, row.closeReturn)

/-- `returns_map.get(rec_id)`: a dictionary keeps the last value of a key. -/
def getReturn (returnsMap : List (Nat × Option ℚ)) (recId : Nat) : Option ℚ :=
  ((returnsMap.filter fun entry => entry.1 == recId).getLast?.map Prod.snd).join

def sectorSignal (strategy : Strategy) (returnsMap : List (Nat × Option ℚ)) (row : SectorRow) :
    SectorSignal where
  sector := row.2
  action := (strategy.evaluate (buildScoreSnapshot row.1.1 row.1.2.2)).action
  return5d := getReturn returnsMap row.1.1.id

def sectorSignals (db : Database) (stocks : StockTable) (strategy : Strategy)
    (startDate endDate limit : Option Int) : List SectorSignal :=
  let recRows := fetchRecsWithSector db stocks startDate endDate limit
  recRows.map (sectorSignal strategy (fetchReturnsMap db (recRows.map fun row => row.1.1.id)))

def strategyResult (runner : MultiStrategyRunner) (db scanned : Database) (stocks : StockTable)
    (startDate endDate : Int) (limit : Option Int) (today : Int) (strategy : Strategy) :
    StrategyResult :=
  let summary := runner.engine.run db strategy (some startDate) (some endDate) limit today
  { strategyName := summary.strategyName
    strategyVersion := summary.strategyVersion
    stats := summary.stats
    regimeBreakdown := if runner.withRegimeBreakdown then summary.regimeBreakdown else []
    sectorBreakdown :=
      if runner.withSectorBreakdown then
        aggregateSectorBreakdown
          (sectorSignals scanned stocks strategy (some startDate) (some endDate) limit)
      else [] }

/-- `max(candidates, key=...)`: the first of the largest. -/
def firstMax : List (String × ℚ) → Option (String × ℚ)
  | [] => none
  | candidate :: candidates => some (candidates.foldl
      (fun best other => if best.2 < other.2 then other else best) candidate)

def findBest (metric : AggregateStats → Option ℚ) (results : List StrategyResult) : Option String :=
  (firstMax (results.filterMap fun result =>
    (metric result.stats).map fun value => (result.strategyName, value))).map Prod.fst

/-- The recommendations are fetched once more for the sectors. What ORDER BY leaves tied may come in
another order there: `scanned` is the database as that fetch reads it. -/
def run (runner : MultiStrategyRunner) (db scanned : Database) (stocks : StockTable)
    (strategies : List Strategy) (startDate endDate : Int) (dryRun : Bool) (limit : Option Int)
    (runDate : Option Int) (today : Int) : MultiStrategyComparison :=
  let strategyResults := strategies.map
    (runner.strategyResult db scanned stocks startDate endDate limit today)
  { startDate, endDate, dryRun
    runDate := runDate.getD today
    totalStrategies := strategyResults.length
    strategyResults
    bestStrategyByWinRate5d := findBest (fun stats => stats.winRate .d5) strategyResults
    bestStrategyByAvgReturn5d := findBest (fun stats => stats.avgReturn .d5) strategyResults }

end MultiStrategyRunner

end StockAiPlatform.Backtest
