import StockAiPlatform.Api.ValidationRoutes
import StockAiPlatform.Db.DecisionModels
import StockAiPlatform.Scoring.ScoreDelta
import StockAiPlatform.Strategy.RuleBased

/-! # What becomes of recorded score deltas

A score delta is recorded in the snapshot of a recommendation and read back
from the evidence of a backtest result. The projection in between keeps four
kinds of evidence and no delta, and no strategy of the registry adds one. So
the report counts none of them, which is right only where there were none.
-/

namespace StockAiPlatform.ValidationRoutes
set_option autoImplicit false

open Backtest Transaction Python Strategies

section Recorded

variable (decimal : String → Option DecimalValue) (intOfFloat : FloatRepr → FloatInt)

/-- A call of the engine with a strategy of the registry. -/
structure KnownRun where
  engine : BacktestEngine := {}
  strategy : KnownStrategy
  startDate : Option Int
  endDate : Option Int
  limit : Option Int
  runDate : Int

/-- The strategy evaluates every recommendation of the run without raising. -/
def KnownRun.completes (run : KnownRun) (db : Backtest.Database) : Bool :=
  (BacktestEngine.fetchRecommendations db run.startDate run.endDate run.limit).all fun row =>
    (run.strategy.evaluate intOfFloat (buildScoreSnapshot row.1 row.2.2)).isSome

def KnownRun.commit (run : KnownRun) (db : Backtest.Database) (tables : BacktestTables) :
    BacktestTables :=
  if run.completes intOfFloat db then
    run.engine.commit db (run.strategy.total intOfFloat) run.startDate run.endDate run.limit
      run.runDate tables
  else tables

/-- The tables after committed runs over one set of recommendations. -/
def committed (db : Backtest.Database) (runs : List KnownRun) : BacktestTables :=
  runs.foldl (fun tables run => run.commit intOfFloat db tables) .empty

/-- The score delta in the snapshot of the recommendation of a result. -/
def recordedDelta (db : Backtest.Database) (result : BacktestResult) :
    Option (List (String × Json)) := do
  let recommendation ← db.recommendations.find? fun row => row.id == result.recommendationId
  let snapshotId ← recommendation.snapshotId
  let snapshot ← db.dataSnapshots.find? fun row => row.snapshotId == snapshotId
  safeDict (Json.get? "score_delta" (← snapshot.marketContextJson))

def recordedDeltas (db : Backtest.Database) (tables : BacktestTables) :
    List (List (String × Json)) :=
  tables.results.filterMap (recordedDelta db)

def deltaValues (deltas : List (List (String × Json))) : List DecimalValue :=
  deltas.filterMap fun delta => safeDecimal decimal (Json.get? "delta" delta)

def hasSign (sign : Ordering) (value : DecimalValue) : Bool :=
  match value.compareZero with
  | .ok found => found == sign
  | .error _ => false

/-- The summary is that of the recorded deltas, no fewer and no others. -/
structure Arrive (deltas : List (List (String × Json))) (summary : ScoreDeltaSummary) : Prop where
  total : summary.totalScored = deltas.length
  average : avgStr (deltaValues decimal deltas) = .ok summary.avgDelta
  positive : summary.positiveDeltaCount = (deltaValues decimal deltas).countP (hasSign .gt)
  negative : summary.negativeDeltaCount = (deltaValues decimal deltas).countP (hasSign .lt)
  neutral : summary.neutralDeltaCount = (deltaValues decimal deltas).countP (hasSign .eq)

end Recorded

section Evidence

variable {decimal : String → Option DecimalValue} {intOfFloat : FloatRepr → FloatInt}

theorem topGrade_evidence (snapshot : ScoreSnapshot) :
    ∃ grade, (TopGradeStrategy.evaluate snapshot).evidence = some [("grade", grade)] := by
  simp only [TopGradeStrategy.evaluate]
  split
  · exact ⟨_, rfl⟩
  · split
    · exact ⟨_, rfl⟩
    · exact ⟨_, rfl⟩

theorem highScore_evidence (snapshot : ScoreSnapshot) :
    ∃ score, (HighScoreStrategy.evaluate snapshot).evidence = some [("total_score", score)] := by
  simp only [HighScoreStrategy.evaluate]
  split
  · exact ⟨_, rfl⟩
  · split
    · exact ⟨_, rfl⟩
    · split
      · exact ⟨_, rfl⟩
      · exact ⟨_, rfl⟩

theorem multiSignal_evidence {snapshot : ScoreSnapshot} {signal : StrategySignal}
    (h : MultiSignalStrategy.evaluate intOfFloat snapshot = some signal) :
    (∃ value, signal.evidence = some [("risk_level", value)]) ∨
      (∃ value, signal.evidence = some [("risk_flags", value)]) ∨
      (∃ value, signal.evidence = some [("total_score", value)]) ∨
      signal.evidence = some (MultiSignalStrategy.scoresEvidence snapshot) := by
  rw [MultiSignalStrategy.evaluate] at h
  split at h
  · cases h
    exact .inl ⟨_, rfl⟩
  · split at h
    · cases h
      exact .inr (.inl ⟨_, rfl⟩)
    · split at h
      · cases h
        exact .inr (.inr (.inl ⟨_, rfl⟩))
      · split at h
        · obtain ⟨skew, -, hSignal⟩ := Option.map_eq_some_iff.mp h
          rw [← hSignal]
          exact .inr (.inr (.inr rfl))
        · cases h
          exact .inr (.inr (.inr rfl))

/-- No strategy of the registry puts a score delta into its evidence. -/
theorem extractScoreDelta_evaluate {strategy : KnownStrategy} {snapshot : ScoreSnapshot}
    {signal : StrategySignal} (h : strategy.evaluate intOfFloat snapshot = some signal) :
    extractScoreDelta (signal.evidence.map Json.dict) = none := by
  cases strategy with
  | topGrade =>
    cases h
    obtain ⟨grade, hEvidence⟩ := topGrade_evidence snapshot
    rw [hEvidence]
    rfl
  | highScore =>
    cases h
    obtain ⟨score, hEvidence⟩ := highScore_evidence snapshot
    rw [hEvidence]
    rfl
  | multiSignal =>
    rcases multiSignal_evidence h with ⟨_, hEvidence⟩ | ⟨_, hEvidence⟩ | ⟨_, hEvidence⟩ | hEvidence
    · rw [hEvidence]
      rfl
    · rw [hEvidence]
      rfl
    · rw [hEvidence]
      rfl
    · rw [hEvidence]
      rfl

def Unscored (result : BacktestResult) : Prop := extractScoreDelta result.evidenceJson = none

theorem unscored_commit {run : KnownRun} {db : Backtest.Database} {tables : BacktestTables}
    (h : ∀ result ∈ tables.results, Unscored result) :
    ∀ result ∈ (run.commit intOfFloat db tables).results, Unscored result := by
  intro result hResult
  rw [KnownRun.commit] at hResult
  split at hResult
  · rename_i hCompletes
    rcases List.mem_append.mp hResult with hOld | hNew
    · exact h result hOld
    · obtain ⟨evaluated, hEvaluated, rfl⟩ := List.mem_map.mp hNew
      obtain ⟨row, hRow, rfl⟩ := List.mem_map.mp hEvaluated
      obtain ⟨signal, hSignal⟩ := Option.isSome_iff_exists.mp (List.all_eq_true.mp hCompletes row hRow)
      have hUnscored := extractScoreDelta_evaluate hSignal
      rw [← KnownStrategy.total_evaluate hSignal] at hUnscored
      exact hUnscored
  · exact h result hResult

theorem unscored_committed (db : Backtest.Database) (runs : List KnownRun) :
    ∀ result ∈ (committed intOfFloat db runs).results, Unscored result := by
  induction runs using List.reverseRecOn with
  | nil => exact fun result hResult => absurd hResult List.not_mem_nil
  | append_singleton runs run ih =>
    rw [committed, List.foldl_append]
    exact unscored_commit ih

theorem tallyAll_unscored {evidence : List (Option Json)}
    (h : ∀ row ∈ evidence, extractScoreDelta row = none) : tallyAll decimal evidence = .ok {} := by
  induction evidence with
  | nil => rfl
  | cons row evidence ih =>
    rw [List.forall_mem_cons] at h
    have hRow : tallyEvidence decimal row = .ok {} := by
      rw [tallyEvidence, h.1]
    rw [tallyAll, List.foldlM_cons, hRow]
    exact ih h.2

def noScores : ScoreDeltaSummary := ⟨0, 0, none, 0, 0, 0, []⟩

theorem aggregateScoreDelta_committed (db : Backtest.Database) (runs : List KnownRun) :
    aggregateScoreDelta decimal (committed intOfFloat db runs).results = .ok noScores := by
  have hNone : ∀ row ∈ (committed intOfFloat db runs).results.map BacktestResult.evidenceJson,
      extractScoreDelta row = none := by
    intro row hRow
    obtain ⟨result, hResult, rfl⟩ := List.mem_map.mp hRow
    exact unscored_committed db runs result hResult
  rw [aggregateScoreDelta, tallyAll_unscored hNone]
  rfl

theorem arrive_iff (decimal : String → Option DecimalValue) (intOfFloat : FloatRepr → FloatInt)
    (db : Backtest.Database) (runs : List KnownRun) :
    (∃ summary, aggregateScoreDelta decimal (committed intOfFloat db runs).results = .ok summary ∧
        Arrive decimal (recordedDeltas db (committed intOfFloat db runs)) summary) ↔
      ∀ result ∈ (committed intOfFloat db runs).results, recordedDelta db result = none := by
  rw [aggregateScoreDelta_committed]
  constructor
  · rintro ⟨summary, hSummary, hArrive⟩
    have hLength := hArrive.total
    rw [← Except.ok.inj hSummary] at hLength
    exact List.filterMap_eq_nil_iff.mp (List.eq_nil_of_length_eq_zero hLength.symm)
  · intro hNone
    have hDeltas : recordedDeltas db (committed intOfFloat db runs) = [] :=
      List.filterMap_eq_nil_iff.mpr hNone
    refine ⟨noScores, rfl, ?_⟩
    rw [hDeltas]
    exact ⟨rfl, rfl, rfl, rfl, rfl⟩

end Evidence

section Example

open Scoring

/-- The row of a ranking, as a backtest reads it under its key. -/
def storedAs (id : Nat) (row : Decision.Recommendation) : Backtest.Recommendation where
  id := id
  runId := row.runId
  rank := row.rank
  symbol := row.symbol
  grade := some row.grade.value
  totalScore := some row.totalScore
  technicalScore := row.technicalScore
  newsScore := some row.newsScore
  supplyScore := some row.supplyScore
  fundamentalScore := some row.fundamentalScore
  aiScore := some row.aiScore
  snapshotId := some row.snapshotId

/-- A candidate whose news came from a file. -/
def scaledRow : Decision.Recommendation where
  runId := 1
  rank := 1
  market := "KOSPI"
  symbol := "005930"
  name := "Samsung"
  grade := .a
  totalScore := 72
  technicalScore := some 80
  newsScore := 60
  supplyScore := 50
  fundamentalScore := 50
  aiScore := 50
  riskScore := 0
  reason := ""
  riskNote := ""
  snapshotId := 1

/-- What a run stores of it: of its components the news score is scaled down, from 60 to 54. -/
def scaledContext : List (String × Json) :=
  marketContext ⟨"KOSPI", "2026-05-04", 1, "phase", .null, .null, .null, .null, .null, .null⟩
    (some (computeScoreDelta (recommendationDeltaComponents scaledRow.newsScore scaledRow.supplyScore
      scaledRow.fundamentalScore scaledRow.aiScore [("news_data_source", .str "CSV")]) ⟨true⟩))

def scaledRecommendation : Backtest.Database where
  recommendationRuns := [⟨1, 3⟩]
  recommendations := [storedAs 1 scaledRow]
  recommendationResults := []
  dataSnapshots := [⟨1, some scaledContext⟩]
  marketRegimes := []

def topGradeRun : KnownRun where
  strategy := .topGrade
  startDate := none
  endDate := none
  limit := none
  runDate := 9

theorem arrive_scaledRecommendation :
    let tables := committed (fun _ => .valueError) scaledRecommendation [topGradeRun]
    tables.results.length = 1 ∧ (recordedDeltas scaledRecommendation tables).length = 1 ∧
      (aggregateScoreDelta (fun _ => none) tables.results).map ScoreDeltaSummary.totalScored =
        .ok 0 := by
  decide +kernel

end Example

end StockAiPlatform.ValidationRoutes
