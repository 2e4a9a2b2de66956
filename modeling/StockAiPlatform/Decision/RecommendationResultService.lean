import StockAiPlatform.Db.ResultModels
import StockAiPlatform.Python.Decimal
import StockAiPlatform.Transaction.AsOf
import StockAiPlatform.Transaction.Rows

/-! # What became of the recommendations

The returns of a recommendation over the days after it, and the verdict on
them. A run evaluates every recommendation of its lookback again and writes
over what an earlier run stored. One that raises is rolled back by its job.
-/

namespace StockAiPlatform.Results
set_option autoImplicit false

open Transaction Python

namespace DailyPriceRepository

def getBySymbolDate (symbol : String) (priceDate : Int) (prices : DailyPriceTable) :
    Option DailyPrice :=
  prices.rows.find? fun bar => bar.symbol == symbol && bar.date == priceDate

def inRange (symbol : String) (startDate endDate : Int) (bar : DailyPrice) : Bool :=
  bar.symbol == symbol && startDate ≤ bar.date && bar.date ≤ endDate

def listInRange (symbol : String) (startDate endDate : Int) (prices : DailyPriceTable) :
    List DailyPrice :=
  (prices.rows.filter (inRange symbol startDate endDate)).insertionSort fun a b => a.date ≤ b.date

def getLatestOnOrBefore (symbol : String) (targetDate lookbackDays : Int)
    (prices : DailyPriceTable) : Option DailyPrice :=
  latest DailyPrice.date (prices.rows.filter (inRange symbol (targetDate - lookbackDays) targetDate))

end DailyPriceRepository

namespace RecommendationRunRepository

def listByDateRange (startDate endDate : Int) (runs : Table RecommendationRun) :
    List RecommendationRun :=
  (runs.rows.filter fun run => startDate ≤ run.runDate && run.runDate ≤ endDate).insertionSort
    fun a b => a.runDate ≤ b.runDate

end RecommendationRunRepository

namespace RecommendationRepository

def listByRunId (runId : Nat) (recommendations : Table Recommendation) : List Recommendation :=
  (recommendations.rows.filter fun rec => rec.runId == runId).insertionSort
    fun a b => a.rank ≤ b.rank

end RecommendationRepository

/-- The columns that an upsert is given. -/
structure Write where
  recommendationId : Nat
  daysAfter : Int
  columns : ComputedResult
  deriving DecidableEq

namespace RecommendationResultRepository

def key (row : RecommendationResult) : Nat × Int := (row.recommendationId, row.daysAfter)

def sameKey (recommendationId : Nat) (daysAfter : Int) (row : RecommendationResult) : Bool :=
  key row == (recommendationId, daysAfter)

def getByRecommendationDays (recommendationId : Nat) (daysAfter : Int)
    (results : Table RecommendationResult) : Option RecommendationResult :=
  results.rows.find? (sameKey recommendationId daysAfter)

def setColumns (columns : ComputedResult) (row : RecommendationResult) : RecommendationResult :=
  { row with toComputedResult := columns }

theorem key_setColumns (columns : ComputedResult) (row : RecommendationResult) :
    Keyed.key (setColumns columns row) = Keyed.key row := rfl

/-- The row of the recommendation and horizon is overwritten, or added. -/
def upsert (results : Table RecommendationResult) (write : Write) : Table RecommendationResult :=
  match getByRecommendationDays write.recommendationId write.daysAfter results with
  | some _ => results.updateWhere (sameKey write.recommendationId write.daysAfter)
      (setColumns write.columns) (key_setColumns write.columns)
  | none => results.insert
      { toComputedResult := write.columns
        id := results.nextKey
        recommendationId := write.recommendationId
        daysAfter := write.daysAfter }

end RecommendationResultRepository

/-- `x / 0` and `0 / 0` -/
inductive DivisionError where
  | divisionByZero | divisionUndefined
  deriving DecidableEq, Repr

def pctChange (value base : ℚ) : Except DivisionError ℚ :=
  if base = 0 then .error (if value = 0 then .divisionUndefined else .divisionByZero)
  else .ok (divide (value - base) base * 100)

structure RecommendationResultRunResult where
  asOf : Int
  processedRuns : Nat
  processedRecommendations : Nat
  upsertedResults : Nat
  pendingCount : Nat
  successCount : Nat
  failedCount : Nat
  skippedNoReference : Nat
  deriving DecidableEq, Repr

/-- The arguments of `update_results`. -/
structure UpdateCall where
  asOf : Int
  daysAfter : Option (List Int) := none
  lookbackDays : Int := 60

namespace RecommendationResultService

def defaultDaysAfter : List Int := [1, 3, 5, 20]
def referenceLookbackDays : Int := 14
def verificationBufferDays : Int := 5
def successHighThreshold : ℚ := 3
def successCloseThreshold : ℚ := 1
def failedLowThreshold : ℚ := -5

/-- `days_after or self.DEFAULT_DAYS_AFTER` -/
def targetDays (call : UpdateCall) : List Int :=
  match call.daysAfter with
  | some (n :: rest) => n :: rest
  | _ => defaultDaysAfter

def resolveReference (symbol : String) (runDate : Int) (prices : DailyPriceTable) :
    Option DailyPrice :=
  (DailyPriceRepository.getBySymbolDate symbol runDate prices).or
    (DailyPriceRepository.getLatestOnOrBefore symbol runDate referenceLookbackDays prices)

def classifyStatus (highReturn lowReturn closeReturn : ℚ) : ResultStatus :=
  if lowReturn ≤ failedLowThreshold then .failed
  else if successHighThreshold ≤ highReturn ∨ successCloseThreshold ≤ closeReturn then .success
  else .pending

/-- What is stored as long as there is no price to look at. -/
def pendingResult (asOf : Int) : ComputedResult where
  resultDate := asOf
  openReturn := none
  highReturn := none
  lowReturn := none
  closeReturn := none
  maxReturn := none
  maxDrawdown := none
  resultStatus := .pending

def maxHigh (first : DailyPrice) (rest : List DailyPrice) : ℚ :=
  (rest.map DailyPrice.high).foldl max first.high

def minLow (first : DailyPrice) (rest : List DailyPrice) : ℚ :=
  (rest.map DailyPrice.low).foldl min first.low

theorem window_ne_nil (first : DailyPrice) (rest : List DailyPrice) : first :: rest ≠ [] :=
  List.cons_ne_nil first rest

/-- The bars of a window in ascending order, of which there is at least one. -/
def evaluateWindow (referenceClose : ℚ) (first : DailyPrice) (rest : List DailyPrice) :
    Except DivisionError ComputedResult := do
  let verification := (first :: rest).getLast (window_ne_nil first rest)
  let openReturn ← pctChange verification.openPrice referenceClose
  let closeReturn ← pctChange verification.close referenceClose
  let highReturn ← pctChange (maxHigh first rest) referenceClose
  let lowReturn ← pctChange (minLow first rest) referenceClose
  let peak := max referenceClose (maxHigh first rest)
  let maxDrawdown ← pctChange (minLow first rest) peak
  return {
    resultDate := verification.date
    openReturn := some (quantize 4 openReturn)
    highReturn := some (quantize 4 highReturn)
    lowReturn := some (quantize 4 lowReturn)
    closeReturn := some (quantize 4 closeReturn)
    maxReturn := some (quantize 4 highReturn)
    maxDrawdown := some (quantize 4 maxDrawdown)
    resultStatus := classifyStatus highReturn lowReturn closeReturn }

/-- The bars are looked up without a bound at the date of the run. -/
def barsInWindow (symbol : String) (referenceDate daysAfter : Int) (prices : DailyPriceTable) :
    List DailyPrice :=
  let targetDate := referenceDate + daysAfter
  (DailyPriceRepository.listInRange symbol (referenceDate + 1) (targetDate + verificationBufferDays)
    prices).filter fun bar => bar.date ≤ targetDate

def computeForDaysAfter (prices : DailyPriceTable) (symbol : String) (referenceDate : Int)
    (referenceClose : ℚ) (asOf daysAfter : Int) : Except DivisionError ComputedResult :=
  match barsInWindow symbol referenceDate daysAfter prices with
  | [] => .ok (pendingResult asOf)
  | first :: rest => evaluateWindow referenceClose first rest

/-- The recommendations of the lookback with the date of their run. -/
def recommendationsOf (call : UpdateCall) (db : Database) : List (Int × Recommendation) :=
  (RecommendationRunRepository.listByDateRange (call.asOf - call.lookbackDays) call.asOf
    db.runs).flatMap fun run =>
      (RecommendationRepository.listByRunId run.runId db.recommendations).map fun rec =>
        (run.runDate, rec)

/-- The rows of a recommendation, one for each horizon. -/
def writesOf (call : UpdateCall) (prices : DailyPriceTable) (rec : Int × Recommendation) :
    Except DivisionError (List Write) :=
  match resolveReference rec.2.symbol rec.1 prices with
  | none => .ok ((targetDays call).map fun n => ⟨rec.2.id, n, pendingResult call.asOf⟩)
  | some reference => (targetDays call).mapM fun n => do
      let computed ← computeForDaysAfter prices rec.2.symbol reference.date reference.close call.asOf n
      return ⟨rec.2.id, n, computed⟩

def countStatus (status : ResultStatus) (writes : List Write) : Nat :=
  writes.countP fun write => write.columns.resultStatus == status

def updateResults (call : UpdateCall) (db : Database) :
    Except DivisionError (RecommendationResultRunResult × Database) := do
  let writes := (← (recommendationsOf call db).mapM (writesOf call db.dailyPrices)).flatten
  return (
    { asOf := call.asOf
      processedRuns := (RecommendationRunRepository.listByDateRange
        (call.asOf - call.lookbackDays) call.asOf db.runs).length
      processedRecommendations := (recommendationsOf call db).length
      upsertedResults := writes.length
      pendingCount := countStatus .pending writes
      successCount := countStatus .success writes
      failedCount := countStatus .failed writes
      skippedNoReference := (recommendationsOf call db).countP fun rec =>
        (resolveReference rec.2.symbol rec.1 db.dailyPrices).isNone },
    { db with results := writes.foldl RecommendationResultRepository.upsert db.results })

/-- The database after a run. -/
def run (call : UpdateCall) (db : Database) : Database :=
  match updateResults call db with
  | .ok (_, after) => after
  | .error _ => db

end RecommendationResultService

end StockAiPlatform.Results
