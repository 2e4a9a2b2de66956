import StockAiPlatform.Db.Models
import StockAiPlatform.Db.NotificationModels
import StockAiPlatform.Python.Decimal

/-! # The rows decisions are made from

The columns that the recommendation and holding check engines read and write.
Rows lie in the order they were inserted. A theme mapping and a signal event
are dated by the publication of their report, which the engines do not read.
-/

namespace StockAiPlatform.Decision
set_option autoImplicit false

open Python

structure Stock where
  symbol : String
  market : String
  name : String
  deriving DecidableEq, Repr

structure StockUniverse where
  universeId : Nat
  name : String
  deriving DecidableEq, Repr

structure StockUniverseMember where
  universeId : Nat
  symbol : String
  deriving DecidableEq, Repr

structure Holding where
  symbol : String
  avgBuyPrice : ℚ
  isActive : Bool
  deriving DecidableEq, Repr

structure StockIndicator where
  symbol : String
  date : Date
  ma20 : Option ℚ
  volumeRatio20d : Option ℚ
  maAlignment : Option String
  technicalScore : Option ℚ
  deriving DecidableEq

abbrev DailyPrice := StockAiPlatform.DailyPrice Date

structure ReportConsensusSnapshot where
  symbol : String
  snapshotDate : Date
  windowDays : Nat
  reportCount : Nat
  avgTargetPrice : Option ℚ
  strongBuyCount : Nat
  buyCount : Nat
  holdCount : Nat
  sellCount : Nat
  strongSellCount : Nat
  latestPublishedAt : Option Date
  deriving DecidableEq

/-- `Numeric(20, 4)`: a number of ten-thousandths. -/
structure StoredPrice where
  units : Int
  digits : units.natAbs < 10 ^ 20

def StoredPrice.value (price : StoredPrice) : ℚ := price.units / 10 ^ 4

/-- The columns the consensus is formed of. -/
structure AnalystReport where
  symbol : Option String
  reportType : String
  publishedAt : Date
  normalizedRating : Option String
  targetPrice : Option StoredPrice

structure ThemeStockMapping where
  symbol : String
  publishedAt : Date
  impactDirection : String
  impactStrength : Option ℚ
  deriving DecidableEq

structure ReportSignalEvent where
  symbol : Option String
  publishedAt : Date
  eventType : String
  direction : String
  strength : Option ℚ
  deriving DecidableEq

inductive Grade where
  | s | a | b | c | d
  deriving DecidableEq, Repr

def Grade.value : Grade → String
  | s => "S"
  | a => "A"
  | b => "B"
  | c => "C"
  | d => "D"

/-- The grade both engines give a score. -/
def Grade.ofScore (score : ℚ) : Grade :=
  if 85 ≤ score then .s else if 70 ≤ score then .a else if 55 ≤ score then .b
  else if 40 ≤ score then .c else .d

inductive RunStatus where
  | success | empty
  deriving DecidableEq, Repr

/-- A run as it ends, with the counts of its market summary. -/
structure RecommendationRun where
  runId : Nat
  runDate : Date
  status : RunStatus
  universeName : String
  universeFound : Bool
  memberCount : Nat
  candidateCount : Nat
  savedCount : Nat
  skippedNoIndicator : Nat
  skippedNoStockMaster : Nat
  deriving DecidableEq

structure Recommendation where
  runId : Nat
  rank : Nat
  market : String
  symbol : String
  name : String
  grade : Grade
  totalScore : ℚ
  technicalScore : Option ℚ
  newsScore : ℚ
  supplyScore : ℚ
  fundamentalScore : ℚ
  aiScore : ℚ
  riskScore : ℚ
  reason : String
  riskNote : String
  snapshotId : Nat
  deriving DecidableEq, Repr

structure ReportScoreLog where
  symbol : String
  scoreDate : Date
  reportCount : Nat
  reportScore : Option ℚ
  themeSignalScore : Option ℚ
  themeCount : Option Nat
  signalEventCount : Option Nat
  targetUpsidePct : Option ℚ
  ratingScoreAvg : Option ℚ
  recencyBonus : Option ℚ
  themeSignalBonus : Option ℚ
  eventSignalBonus : Option ℚ
  riskPenalty : Option ℚ
  recommendationRunId : Nat
  deriving DecidableEq

structure Database where
  stocks : List Stock
  universes : List StockUniverse
  members : List StockUniverseMember
  holdings : List Holding
  indicators : List StockIndicator
  dailyPrices : List DailyPrice
  consensusSnapshots : List ReportConsensusSnapshot
  themeMappings : List ThemeStockMapping
  signalEvents : List ReportSignalEvent
  holdingChecks : List HoldingCheck
  dataSnapshots : List DataSnapshot
  recommendationRuns : List RecommendationRun
  recommendations : List Recommendation
  reportScoreLogs : List ReportScoreLog

def Database.empty : Database := ⟨[], [], [], [], [], [], [], [], [], [], [], [], [], []⟩

end StockAiPlatform.Decision
