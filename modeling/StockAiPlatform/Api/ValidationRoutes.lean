import StockAiPlatform.Backtest.Persistence
import StockAiPlatform.Python.DecimalContext

/-! # The validation report

Four views of the committed backtests. The report and the strategies add up
the counts of the runs, the regimes and the sectors count the BUY results. The
score deltas are read from the evidence of the results, whatever JSON it holds.
An average that is not a number a response can carry, or JSON that cannot be
walked, escapes as an exception. `Decimal(text)` is any function from texts.
-/

namespace StockAiPlatform.ValidationRoutes
set_option autoImplicit false

open Backtest Transaction Python

inductive ReportError where
  | typeError
  | decimal (signal : DecimalSignal)
  deriving DecidableEq, Repr

def raised {α : Type} : Except DecimalSignal α → Except ReportError α
  | .ok value => .ok value
  | .error signal => .error (.decimal signal)

/-- `str(...)` of the average is kept as the number it writes. -/
def avgStr (values : List DecimalValue) : Except ReportError (Option DecimalValue) :=
  match values with
  | [] => .ok none
  | _ => (raised (DecimalValue.averageFour values)).map some

def avgColumn (values : List ℚ) : Except ReportError (Option DecimalValue) :=
  avgStr (values.map DecimalValue.finite)

def winRateStr (wins totalWithReturn : Nat) : Option ℚ :=
  if totalWithReturn = 0 then none else some (quantize 4 (divide wins totalWithReturn))

section ScoreDelta

variable (decimal : String → Option DecimalValue)

/-- `Decimal(str(value))`, or nothing where that fails. -/
def safeDecimal : Option Json → Option DecimalValue
  | none => none
  | some .null => none
  | some value => decimal value.text

def extractScoreDelta : Option Json → Option (List (String × Json))
  | some (.dict evidence) =>
    match Json.get? "score_delta" evidence with
    | some (.dict scoreDelta) => some scoreDelta
    | _ => none
  | _ => none

/-- What a `for` loop over a value runs through. -/
def iterate : Json → Except ReportError (List Json)
  | .list items => .ok items
  | .str text => .ok (text.toList.map fun c => .str (String.ofList [c]))
  | .dict entries => .ok (entries.map fun entry => .str entry.1)
  | _ => .error .typeError

def validDataSources : List String := ["PROVIDER", "CSV", "MANUAL", "FAKE"]

/-- `ds if ds in _VALID_DATA_SOURCES else "UNKNOWN"`: a list or a dict has no hash. -/
def dataSourceBucket : Option Json → Except ReportError String
  | some (.list _) => .error .typeError
  | some (.dict _) => .error .typeError
  | some (.str text) => .ok (if text ∈ validDataSources then text else "UNKNOWN")
  | _ => .ok "UNKNOWN"

def componentBuckets : List Json → Except ReportError (List String)
  | [] => .ok []
  | .dict component :: rest => do
    let bucket ← dataSourceBucket (Json.get? "data_source" component)
    return bucket :: (← componentBuckets rest)
  | _ :: rest => componentBuckets rest

structure Tally where
  totalScored : Nat := 0
  policyEnabledCount : Nat := 0
  deltas : List DecimalValue := []
  positive : Nat := 0
  negative : Nat := 0
  neutral : Nat := 0
  dataSources : List String := []

def Tally.add (tally more : Tally) : Tally where
  totalScored := tally.totalScored + more.totalScored
  policyEnabledCount := tally.policyEnabledCount + more.policyEnabledCount
  deltas := tally.deltas ++ more.deltas
  positive := tally.positive + more.positive
  negative := tally.negative + more.negative
  neutral := tally.neutral + more.neutral
  dataSources := tally.dataSources ++ more.dataSources

def signOf (deltaVal : DecimalValue) : Except ReportError Tally := do
  match ← raised deltaVal.compareZero with
  | .gt => return { deltas := [deltaVal], positive := 1 }
  | .lt => return { deltas := [deltaVal], negative := 1 }
  | .eq => return { deltas := [deltaVal], neutral := 1 }

def tallyDelta : Option DecimalValue → Except ReportError Tally
  | none => .ok {}
  | some deltaVal => signOf deltaVal

/-- The pass of the loop over a score delta. -/
def tallyScoreDelta (scoreDelta : List (String × Json)) : Except ReportError Tally := do
  let scored : Tally :=
    { totalScored := 1
      policyEnabledCount :=
        if (Json.get? "policy_enabled" scoreDelta).any Json.truthy then 1 else 0 }
  let signs ← tallyDelta (safeDecimal decimal (Json.get? "delta" scoreDelta))
  let components ← iterate ((Json.get? "components" scoreDelta).getD (.list []))
  let dataSources ← componentBuckets components
  return (scored.add signs).add { dataSources }

def tallyEvidence (evidence : Option Json) : Except ReportError Tally :=
  match extractScoreDelta evidence with
  | none => .ok {}
  | some scoreDelta => tallyScoreDelta decimal scoreDelta

def tallyAll (evidence : List (Option Json)) : Except ReportError Tally :=
  evidence.foldlM (fun tally row => return tally.add (← tallyEvidence decimal row)) {}

structure ScoreDeltaSummary where
  totalScored : Nat
  policyEnabledCount : Nat
  avgDelta : Option DecimalValue
  positiveDeltaCount : Nat
  negativeDeltaCount : Nat
  neutralDeltaCount : Nat
  dataSourceCounts : List (String × Nat)

/-- The summary of what was counted; the data sources in the order they were met. -/
def summarize (tally : Tally) : Except ReportError ScoreDeltaSummary := do
  return {
    totalScored := tally.totalScored
    policyEnabledCount := tally.policyEnabledCount
    avgDelta := ← avgStr tally.deltas
    positiveDeltaCount := tally.positive
    negativeDeltaCount := tally.negative
    neutralDeltaCount := tally.neutral
    dataSourceCounts := (keysOf id tally.dataSources).map fun source =>
      (source, tally.dataSources.count source) }

def aggregateScoreDelta (results : List BacktestResult) : Except ReportError ScoreDeltaSummary := do
  summarize (← tallyAll decimal (results.map BacktestResult.evidenceJson))

/-- `GET /api/validation/report`, without the time it is made at. -/
structure ValidationReport where
  runCount : Nat
  signalCount : Nat
  buyCount : Nat
  winRate5d : Option DecimalValue
  avgReturn5d : Option DecimalValue
  scoreDelta : ScoreDeltaSummary

def winRates (runs : List BacktestRun) : List ℚ := runs.filterMap fun run => run.winRate .d5

def avgReturns (runs : List BacktestRun) : List ℚ := runs.filterMap fun run => run.avgReturn .d5

def getValidationReport (tables : BacktestTables) : Except ReportError ValidationReport := do
  return {
    runCount := tables.runs.length
    signalCount := (tables.runs.map BacktestRun.signalCount).sum
    buyCount := (tables.runs.map BacktestRun.buyCount).sum
    winRate5d := ← avgColumn (winRates tables.runs)
    avgReturn5d := ← avgColumn (avgReturns tables.runs)
    scoreDelta := ← aggregateScoreDelta decimal tables.results }

end ScoreDelta

/-- `sorted(groups.items())`: the keys are distinct, so they alone decide the order. -/
def sortedKeys (keys : List String) : List String := keys.insertionSort fun a b => a ≤ b

structure StrategySummary where
  strategyName : String
  runCount : Nat
  signalCount : Nat
  buyCount : Nat
  winRate5d : Option DecimalValue
  avgReturn5d : Option DecimalValue
  costAdjustedAvgReturn5d : Option DecimalValue
  maxDrawdown : Option DecimalValue

def isBuyResult (result : BacktestResult) : Bool := result.signalAction == .buy

/-- The cost-adjusted returns of the BUY results whose run has that strategy. -/
def costAdjusted (tables : BacktestTables) (strategyName : String) : List ℚ :=
  (tables.results.filter isBuyResult).filterMap fun result =>
    match (tables.runs.find? fun run => run.id == result.backtestRunId).map BacktestRun.strategyName with
    | none => none
    | some name => if name ≠ "" ∧ name = strategyName then result.costAdjustedReturn5d else none

def strategySummary (tables : BacktestTables) (strategyName : String) :
    Except ReportError StrategySummary := do
  let runs := group BacktestRun.strategyName tables.runs strategyName
  return {
    strategyName
    runCount := runs.length
    signalCount := (runs.map BacktestRun.signalCount).sum
    buyCount := (runs.map BacktestRun.buyCount).sum
    winRate5d := ← avgColumn (winRates runs)
    avgReturn5d := ← avgColumn (avgReturns runs)
    costAdjustedAvgReturn5d := ← avgColumn (costAdjusted tables strategyName)
    maxDrawdown := ← avgColumn (runs.filterMap BacktestRun.maxDrawdown) }

/-- `GET /api/validation/report/by-strategy` -/
def getValidationByStrategy (tables : BacktestTables) : Except ReportError (List StrategySummary) :=
  (sortedKeys (keysOf BacktestRun.strategyName tables.runs)).mapM (strategySummary tables)

structure ReturnGroup where
  buyCount : Nat
  returns : List ℚ
  wins : Nat

def returnGroup (results : List BacktestResult) : ReturnGroup :=
  let returns := results.filterMap fun result => result.returnAt .d5
  { buyCount := results.length
    returns
    wins := returns.countP fun value => 0 < value }

structure GroupSummary where
  name : String
  buyCount : Nat
  winRate5d : Option ℚ
  avgReturn5d : Option DecimalValue

def groupSummary (item : String × ReturnGroup) : Except ReportError GroupSummary := do
  return {
    name := item.1
    buyCount := item.2.buyCount
    winRate5d := winRateStr item.2.wins item.2.returns.length
    avgReturn5d := ← avgColumn item.2.returns }

/-- `value or default` of a column. -/
def textOr (default : String) : Option String → String
  | none => default
  | some value => if value = "" then default else value

/-- The collected groups, by name. -/
def groupsBy {α : Type} (key : α → String) (result : α → BacktestResult) (rows : List α) :
    List (String × ReturnGroup) :=
  (sortedKeys (keysOf key rows)).map fun name =>
    (name, returnGroup ((group key rows name).map result))

def regimeGroups (tables : BacktestTables) : List (String × ReturnGroup) :=
  groupsBy (fun result => textOr "UNCLASSIFIED" result.regime) id (tables.results.filter isBuyResult)

/-- `GET /api/validation/report/by-regime` -/
def getValidationByRegime (tables : BacktestTables) : Except ReportError (List GroupSummary) :=
  (regimeGroups tables).mapM groupSummary

/-- The BUY results with the sector of their stock. -/
def sectorRows (tables : BacktestTables) (stocks : StockTable) :
    List (BacktestResult × Option String) :=
  ((outerJoin (fun (result : BacktestResult) (stock : Stock) => result.symbol == stock.symbol)
    tables.results stocks.rows).filter fun row => isBuyResult row.1).map fun row =>
      (row.1, row.2.bind Stock.sector)

def sectorGroups (tables : BacktestTables) (stocks : StockTable) : List (String × ReturnGroup) :=
  groupsBy (fun row => textOr "UNKNOWN" row.2) Prod.fst (sectorRows tables stocks)

/-- `GET /api/validation/report/by-sector` -/
def getValidationBySector (tables : BacktestTables) (stocks : StockTable) :
    Except ReportError (List GroupSummary) :=
  (sectorGroups tables stocks).mapM groupSummary

end StockAiPlatform.ValidationRoutes
