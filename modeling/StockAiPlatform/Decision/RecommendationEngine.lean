import StockAiPlatform.Analysis.ReportScoreCalculator
import StockAiPlatform.Analysis.ScoreProducers
import StockAiPlatform.Decision.Repositories
import StockAiPlatform.Decision.RiskEngine
import StockAiPlatform.Decision.ScoringEngine

/-! # The recommendation engine

Every member of a universe with a stock and an indicator is a candidate. The
best of them are ranked and stored, each with a snapshot and the scores of its
reports. Of a snapshot the risk summary is kept; decision logs are left out.
-/

namespace StockAiPlatform.Decision
set_option autoImplicit false

open Transaction Python

structure Candidate where
  stock : Stock
  indicator : StockIndicator
  components : RecommendationComponentScores
  score : ScoreBreakdown
  totalScore : ℚ
  risk : RiskAssessment
  reportScore : Option ReportScoreResult
  themeSignalScore : Option ThemeSignalScoreResult
  scoreAdjustment : Option ScoreAdjustmentResult

inductive Evaluation where
  | skippedNoStock
  | skippedNoIndicator
  | candidate (candidate : Candidate)

/-- What the engine was built with. `readsReports` says that it got the four repositories of the
report scores, `logsReportScores` that it got the one their log goes to. -/
structure RecommendationEngine where
  scoreProducer : ScoreProducer := dummyScoreProducer
  disclosureRiskProducer : Option DisclosureRiskProducer := none
  readsReports : Bool := true
  logsReportScores : Bool := true

namespace RecommendationEngine

def gradeForScore (score : ℚ) : Grade := .ofScore score

def watchCandidateReason (indicator : StockIndicator) : String :=
  let technical := indicator.technicalScore.toList.map fun score => "기술점수 " ++ fixed 4 score
  let alignment := (indicator.maAlignment.toList.filter (· ≠ "")).map ("MA정렬 " ++ ·)
  let volume := indicator.volumeRatio20d.toList.map fun ratio => "거래량비 " ++ fixed 4 ratio
  String.intercalate " · " ("관찰 후보" :: technical ++ alignment ++ volume)

def calculateReportIntelligenceScores (engine : RecommendationEngine) (symbol : String)
    (runDate : Date) (baseTotalScore : ℚ) (db : Database) :
    Option (ReportScoreResult × ThemeSignalScoreResult × ScoreAdjustmentResult) :=
  if engine.readsReports then
    let latestPrice := DailyPriceRepository.getLatestOnOrBefore symbol runDate db
    let latestConsensus := ReportConsensusSnapshotRepository.getLatestBySymbol symbol db
    let counts : RatingCounts :=
      match latestConsensus with
      | none => {}
      | some row =>
        ⟨row.strongBuyCount, row.buyCount, row.holdCount, row.sellCount, row.strongSellCount⟩
    let reportScore := calculateReportScore runDate
      ((latestConsensus.map ReportConsensusSnapshot.reportCount).getD 0)
      (latestConsensus.bind ReportConsensusSnapshot.avgTargetPrice)
      (latestPrice.map DailyPrice.close) counts
      (latestConsensus.bind ReportConsensusSnapshot.latestPublishedAt)
    let themeSignalScore := calculateThemeSignalScore
      (ThemeStockMappingRepository.listBySymbol symbol db)
      (ReportSignalEventRepository.listBySymbol symbol db)
    some (reportScore, themeSignalScore, calculateScoreAdjustment baseTotalScore
      reportScore.reportScore themeSignalScore.themeSignalScore)
  else none

def candidateOf (engine : RecommendationEngine) (runDate : Date) (stock : Stock)
    (indicator : StockIndicator) (db : Database) : Candidate :=
  let disclosure := engine.disclosureRiskProducer.map (· stock.symbol)
  let risk := RiskEngine.evaluateRecommendation indicator.technicalScore indicator.maAlignment
    indicator.volumeRatio20d ((disclosure.map DisclosureRiskResult.riskDisclosureCount).getD 0)
    ((disclosure.map DisclosureRiskResult.penaltyAddition).getD 0)
  let components := engine.scoreProducer.scoreRecommendation stock indicator
  let score := ScoringEngine.scoreNewRecommendation
    { technicalScore := indicator.technicalScore
      newsScore := some components.newsScore
      supplyScore := some components.supplyScore
      fundamentalScore := some components.fundamentalScore
      aiScore := some components.aiScore
      riskPenalty := some risk.riskPenalty }
  let reports := engine.calculateReportIntelligenceScores stock.symbol runDate score.totalScore db
  { stock, indicator, components, score, risk
    totalScore := match reports with
      | none => score.totalScore
      | some (_, _, adjustment) => adjustment.totalScoreAfter
    reportScore := reports.map Prod.fst
    themeSignalScore := reports.map (·.2.1)
    scoreAdjustment := reports.map (·.2.2) }

def evaluate (engine : RecommendationEngine) (runDate : Date) (db : Database)
    (member : StockUniverseMember) : Evaluation :=
  match StockRepository.getBySymbol member.symbol db with
  | none => .skippedNoStock
  | some stock =>
    match StockIndicatorRepository.getLatestBySymbol member.symbol db with
    | none => .skippedNoIndicator
    | some indicator => .candidate (engine.candidateOf runDate stock indicator db)

def candidates (evaluations : List Evaluation) : List Candidate :=
  evaluations.filterMap fun
    | .candidate candidate => some candidate
    | _ => none

/-- By total score, the highest first, and by symbol among equal ones. -/
def ranked (candidates : List Candidate) : List Candidate :=
  (candidates.insertionSort fun a b => a.stock.symbol ≤ b.stock.symbol).insertionSort
    fun a b => b.totalScore ≤ a.totalScore

def recommendationOf (runId rank snapshotId : Nat) (candidate : Candidate) : Recommendation where
  runId := runId
  rank := rank
  market := candidate.stock.market
  symbol := candidate.stock.symbol
  name := candidate.stock.name
  grade := gradeForScore candidate.totalScore
  totalScore := candidate.totalScore
  technicalScore := candidate.indicator.technicalScore
  newsScore := candidate.components.newsScore
  supplyScore := candidate.components.supplyScore
  fundamentalScore := candidate.components.fundamentalScore
  aiScore := candidate.components.aiScore
  riskScore := candidate.risk.riskPenalty
  reason := watchCandidateReason candidate.indicator
  riskNote := "Phase 5-3: dummy/rule-based component scores; risk_level=" ++
    candidate.risk.riskLevel.value
  snapshotId := snapshotId

def reportScoreLogOf (runId : Nat) (runDate : Date) (candidate : Candidate) : ReportScoreLog where
  symbol := candidate.stock.symbol
  scoreDate := runDate
  reportCount := (candidate.reportScore.map ReportScoreResult.reportCount).getD 0
  reportScore := candidate.reportScore.bind ReportScoreResult.reportScore
  themeSignalScore := candidate.themeSignalScore.bind ThemeSignalScoreResult.themeSignalScore
  themeCount := candidate.themeSignalScore.map ThemeSignalScoreResult.themeCount
  signalEventCount := candidate.themeSignalScore.map ThemeSignalScoreResult.signalEventCount
  targetUpsidePct := candidate.reportScore.bind ReportScoreResult.targetUpsidePct
  ratingScoreAvg := candidate.reportScore.bind ReportScoreResult.ratingScoreAvg
  recencyBonus := candidate.reportScore.bind ReportScoreResult.recencyBonus
  themeSignalBonus := candidate.themeSignalScore.bind ThemeSignalScoreResult.themeSignalBonus
  eventSignalBonus := candidate.themeSignalScore.bind ThemeSignalScoreResult.eventSignalBonus
  riskPenalty := candidate.themeSignalScore.bind ThemeSignalScoreResult.riskPenalty
  recommendationRunId := runId

def persistCandidate (engine : RecommendationEngine) (runId : Nat) (runDate : Date) (rank : Nat)
    (candidate : Candidate) (db : Database) : Database :=
  let snapshotId := nextId (db.dataSnapshots.map DataSnapshot.snapshotId)
  { db with
    dataSnapshots := db.dataSnapshots ++ [⟨snapshotId, some candidate.risk.summary⟩]
    recommendations := db.recommendations ++ [recommendationOf runId rank snapshotId candidate]
    reportScoreLogs := db.reportScoreLogs ++
      (if engine.logsReportScores then [reportScoreLogOf runId runDate candidate] else []) }

def persistFrom (engine : RecommendationEngine) (runId : Nat) (runDate : Date) :
    Nat → List Candidate → Database → Database
  | _, [], db => db
  | rank, candidate :: rest, db =>
    engine.persistFrom runId runDate (rank + 1) rest
      (engine.persistCandidate runId runDate rank candidate db)

def defaultUniverseName : String := "MARKET_CAP_TOP_500"

def membersOf (universeName : String) (db : Database) : List StockUniverseMember :=
  match StockUniverseRepository.getByName universeName db with
  | none => []
  | some found => StockUniverseMemberRepository.listByUniverse found.universeId db

/-- The run row is added before the candidates are stored and completed after them. -/
def generate (engine : RecommendationEngine) (runDate : Date) (universeName : String) (topN : Int)
    (db : Database) : RecommendationRun × Database :=
  let runId := nextId (db.recommendationRuns.map RecommendationRun.runId)
  let members := membersOf universeName db
  let evaluations := members.map (engine.evaluate runDate db)
  let found := candidates evaluations
  let top := (ranked found).take topN.toNat
  let run : RecommendationRun :=
    { runId, runDate, universeName
      status := if top.isEmpty then .empty else .success
      universeFound := (StockUniverseRepository.getByName universeName db).isSome
      memberCount := members.length
      candidateCount := found.length
      savedCount := top.length
      skippedNoIndicator := evaluations.countP fun
        | .skippedNoIndicator => true
        | _ => false
      skippedNoStockMaster := evaluations.countP fun
        | .skippedNoStock => true
        | _ => false }
  (run, engine.persistFrom runId runDate 1 top
    { db with recommendationRuns := db.recommendationRuns ++ [run] })

end RecommendationEngine

end StockAiPlatform.Decision
