import StockAiPlatform.Backtest.CostModel
import StockAiPlatform.Db.BacktestModels
import StockAiPlatform.Python.Decimal
import StockAiPlatform.Transaction.AsOf
import StockAiPlatform.Transaction.FirstSeen

/-! # The backtest engine

A strategy replayed over past recommendations and what became of them. Signals
are counted over all rows, returns and regimes over the BUY rows alone. The
runs modelled here are dry: they write nothing.
-/

namespace StockAiPlatform.Backtest
set_option autoImplicit false

open Transaction Python

inductive StrategyAction where
  | buy | pass | avoid
  deriving DecidableEq, Repr

/-- A signal past `__post_init__`, which clamps the confidence. -/
structure StrategySignal where
  action : StrategyAction
  confidence : ℚ
  reason : String
  evidence : Option (List (String × Json))
  confidence_ok : 0 ≤ confidence ∧ confidence ≤ 1

structure ScoreSnapshot where
  symbol : String
  totalScore : Option ℚ
  grade : Option String
  technicalScore : Option ℚ
  newsScore : Option ℚ
  supplyScore : Option ℚ
  fundamentalScore : Option ℚ
  earningsScore : Option ℚ
  aiScore : Option ℚ
  reportScore : Option ℚ
  themeSignalScore : Option ℚ
  riskLevel : Option String
  riskFlags : List String
  evidence : Option (List (String × List (String × Json)))

structure Strategy where
  name : String
  version : String
  evaluate : ScoreSnapshot → StrategySignal

/-- `_HORIZONS` -/
inductive Horizon where
  | d1 | d3 | d5 | d20
  deriving DecidableEq, Repr

namespace Horizon

def days : Horizon → Int
  | d1 => 1
  | d3 => 3
  | d5 => 5
  | d20 => 20

def all : List Horizon := [d1, d3, d5, d20]

end Horizon

def safeDict : Option Json → Option (List (String × Json))
  | some (.dict entries) => some entries
  | _ => none

def safeListOfStr : Option Json → List String
  | some (.list items) => items.filterMap fun
    | .str value => some value
    | _ => none
  | _ => []

def evidenceKeys : List String :=
  ["news_evidence", "disclosure_risk_evidence", "fundamental_evidence", "earnings_evidence"]

def buildScoreSnapshot (recommendation : Recommendation) (snapshot : Option DataSnapshot) :
    ScoreSnapshot :=
  let marketContext := (snapshot.bind DataSnapshot.marketContextJson).getD []
  let riskSummary := (safeDict (Json.get? "risk_summary" marketContext)).getD []
  let evidence := evidenceKeys.filterMap fun key =>
    (safeDict (Json.get? key marketContext)).map fun entries => (key, entries)
  { symbol := recommendation.symbol
    totalScore := recommendation.totalScore
    grade := recommendation.grade
    technicalScore := recommendation.technicalScore
    newsScore := recommendation.newsScore
    supplyScore := recommendation.supplyScore
    fundamentalScore := recommendation.fundamentalScore
    earningsScore := none
    aiScore := recommendation.aiScore
    reportScore := none
    themeSignalScore := none
    riskLevel := match Json.get? "level" riskSummary with
      | some (.str level) => some level
      | _ => none
    riskFlags := safeListOfStr (Json.get? "flags" riskSummary)
    evidence := if evidence = [] then none else some evidence }

def unclassifiedBucket : String := "UNCLASSIFIED"

def assignRegime (db : Database) (signalDate : Int) (market : String) : Option String :=
  (latest MarketRegime.date (db.marketRegimes.filter fun row =>
    row.market == market && row.date ≤ signalDate)).map MarketRegime.regime

def displayBucket : Option String → String
  | none => unclassifiedBucket
  | some regime => if regime = "" then unclassifiedBucket else regime

structure HorizonReturn where
  close : Option ℚ := none
  status : Option String := none
  maxDrawdown : Option ℚ := none
  resultId : Option Nat := none
  deriving DecidableEq

structure EvaluatedRow where
  recommendation : Recommendation
  run : RecommendationRun
  snapshot : Option DataSnapshot
  signalAction : StrategyAction
  confidence : ℚ
  reason : String
  evidence : Option (List (String × Json))
  returnAt : Horizon → Option ℚ
  maxDrawdown : Option ℚ
  resultStatus : Option String
  recommendationResultId : Option Nat
  costAdjustedReturn5d : Option ℚ
  regime : Option String

structure AggregateStats where
  signalCount : Nat
  buyCount : Nat
  passCount : Nat
  avoidCount : Nat
  winRate : Horizon → Option ℚ
  avgReturn : Horizon → Option ℚ
  maxDrawdown : Option ℚ
  costAdjustedAvgReturn5d : Option ℚ
  missingPerHorizon : Horizon → Nat

structure RegimeBreakdownEntry where
  regime : String
  buyCount : Nat
  winRate5d : Option ℚ
  avgReturn5d : Option ℚ
  costAdjustedAvgReturn5d : Option ℚ
  deriving DecidableEq

structure BacktestRunSummary where
  strategyName : String
  strategyVersion : String
  runDate : Int
  startDate : Option Int
  endDate : Option Int
  evaluatedRecommendationCount : Nat
  stats : AggregateStats
  costModelVersion : String
  totalCost : ℚ
  regimeBreakdown : List RegimeBreakdownEntry

/-- `(sum(values) / Decimal(len(values))).quantize(Decimal("0.0001"))`, if there are any. -/
def average (values : List ℚ) : Option ℚ :=
  if values = [] then none else some (quantizeHalfEven 4 (divide values.sum values.length))

def winRateOf (values : List ℚ) : Option ℚ :=
  if values = [] then none
  else some (quantizeHalfEven 4 (divide (values.countP fun value => 0 < value) values.length))

/-- `min(values) if values else None` -/
def minimum : List ℚ → Option ℚ
  | [] => none
  | value :: values => some (values.foldl min value)

def buyRows (rows : List EvaluatedRow) : List EvaluatedRow :=
  rows.filter fun row => row.signalAction == .buy

def aggregate (rows : List EvaluatedRow) : AggregateStats :=
  let returns (horizon : Horizon) := (buyRows rows).map fun row => row.returnAt horizon
  let nonNull (horizon : Horizon) := (returns horizon).reduceOption
  { signalCount := rows.length
    buyCount := rows.countP fun row => row.signalAction == .buy
    passCount := rows.countP fun row => row.signalAction == .pass
    avoidCount := rows.countP fun row => row.signalAction == .avoid
    winRate := fun horizon => winRateOf (nonNull horizon)
    avgReturn := fun horizon => average (nonNull horizon)
    maxDrawdown := minimum ((buyRows rows).filterMap EvaluatedRow.maxDrawdown)
    costAdjustedAvgReturn5d := average ((buyRows rows).filterMap EvaluatedRow.costAdjustedReturn5d)
    missingPerHorizon := fun horizon => (returns horizon).length - (nonNull horizon).length }

def EvaluatedRow.bucket (row : EvaluatedRow) : String := displayBucket row.regime

def regimeEntry (rows : List EvaluatedRow) (bucket : String) : RegimeBreakdownEntry :=
  let rowsInBucket := (buyRows rows).filter fun row => row.bucket == bucket
  let fiveDayReturns := rowsInBucket.filterMap fun row => row.returnAt .d5
  { regime := bucket
    buyCount := rowsInBucket.length
    winRate5d := winRateOf fiveDayReturns
    avgReturn5d := average fiveDayReturns
    costAdjustedAvgReturn5d := average (rowsInBucket.filterMap EvaluatedRow.costAdjustedReturn5d) }

/-- Buckets in the order of their first row, then sorted by size and name. -/
def buildRegimeBreakdown (rows : List EvaluatedRow) : List RegimeBreakdownEntry :=
  ((firstSeen [] ((buyRows rows).map EvaluatedRow.bucket)).map (regimeEntry rows)).insertionSort
    fun a b => b.buyCount < a.buyCount ∨ (a.buyCount = b.buyCount ∧ a.regime ≤ b.regime)

structure BacktestEngine where
  costModel : CostModel := {}
  regimeMarket : String := "KOSPI"

namespace BacktestEngine

abbrev FetchedRow := Recommendation × RecommendationRun × Option DataSnapshot

def inRange (startDate endDate : Option Int) (row : FetchedRow) : Bool :=
  startDate.all (· ≤ row.2.1.runDate) && endDate.all (row.2.1.runDate ≤ ·)

/-- The recommendations with their run and, if there is one, their snapshot. -/
def joined (db : Database) : List FetchedRow :=
  db.recommendations.filterMap fun recommendation =>
    (db.recommendationRuns.find? fun run => run.runId == recommendation.runId).map fun run =>
      (recommendation, run, recommendation.snapshotId.bind fun snapshotId =>
        db.dataSnapshots.find? fun snapshot => snapshot.snapshotId == snapshotId)

/-- The latest run date first, then the latest run, then the best rank. -/
def comesBefore (a b : FetchedRow) : Bool :=
  b.2.1.runDate < a.2.1.runDate ||
    (a.2.1.runDate == b.2.1.runDate && (b.2.1.runId < a.2.1.runId ||
      (a.2.1.runId == b.2.1.runId && a.1.rank ≤ b.1.rank)))

def fetchRecommendations (db : Database) (startDate endDate limit : Option Int) :
    List FetchedRow :=
  let rows := ((joined db).filter (inRange startDate endDate)).insertionSort
    fun a b => comesBefore a b
  match limit with
  | some n => if 0 < n then rows.take n.toNat else rows
  | none => rows

/-- The last of the rows of a horizon, as a dictionary keeps it. -/
def fetchHorizonReturns (db : Database) (recommendationId : Nat) (horizon : Horizon) :
    Option HorizonReturn :=
  (db.recommendationResults.filter fun row =>
    row.recommendationId == recommendationId && row.daysAfter == horizon.days).getLast?.map
      fun row => ⟨row.closeReturn, row.resultStatus, row.maxDrawdown, some row.id⟩

def evaluateRow (engine : BacktestEngine) (db : Database) (strategy : Strategy) :
    FetchedRow → EvaluatedRow
  | (recommendation, run, snapshot) =>
    let signal := strategy.evaluate (buildScoreSnapshot recommendation snapshot)
    let horizons := fetchHorizonReturns db recommendation.id
    let returnAt (horizon : Horizon) := ((horizons horizon).getD {}).close
    { recommendation, run, snapshot
      signalAction := signal.action
      confidence := signal.confidence
      reason := signal.reason
      evidence := signal.evidence
      returnAt
      maxDrawdown := minimum (Horizon.all.filterMap fun horizon =>
        (horizons horizon).bind HorizonReturn.maxDrawdown)
      resultStatus := ((horizons .d5).getD {}).status
      recommendationResultId := ((horizons .d5).getD {}).resultId
      costAdjustedReturn5d :=
        if signal.action = .buy then engine.costModel.apply (returnAt .d5) else none
      regime := assignRegime db run.runDate engine.regimeMarket }

def evaluateAll (engine : BacktestEngine) (db : Database) (strategy : Strategy)
    (startDate endDate limit : Option Int) : List EvaluatedRow :=
  (fetchRecommendations db startDate endDate limit).map (engine.evaluateRow db strategy)

def run (engine : BacktestEngine) (db : Database) (strategy : Strategy)
    (startDate endDate limit : Option Int) (runDate : Int) : BacktestRunSummary :=
  let evaluated := engine.evaluateAll db strategy startDate endDate limit
  { strategyName := strategy.name
    strategyVersion := strategy.version
    runDate, startDate, endDate
    evaluatedRecommendationCount := evaluated.length
    stats := aggregate evaluated
    costModelVersion := engine.costModel.version
    totalCost := engine.costModel.totalCost
    regimeBreakdown := buildRegimeBreakdown evaluated }

end BacktestEngine

end StockAiPlatform.Backtest
