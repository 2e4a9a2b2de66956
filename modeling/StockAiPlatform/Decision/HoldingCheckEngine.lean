import StockAiPlatform.Analysis.ScoreProducers
import StockAiPlatform.Decision.Repositories
import StockAiPlatform.Decision.RiskEngine
import StockAiPlatform.Decision.ScoringEngine

/-! # The holding check engine

Every active holding with a price and an indicator is scored, assessed for risk
and scored again with the penalty. Its check replaces the one of the same day,
type and symbol. Of a snapshot the risk summary is kept; decision logs are left
out.
-/

namespace StockAiPlatform.Decision
set_option autoImplicit false

open Transaction Python

inductive HoldingDecision where
  | hold | watch | reduce | sellReview
  deriving DecidableEq, Repr

namespace HoldingDecision

def value : HoldingDecision → String
  | hold => "HOLD"
  | watch => "WATCH"
  | reduce => "REDUCE"
  | sellReview => "SELL_REVIEW"

def label : HoldingDecision → String
  | hold => "보유 유지"
  | watch => "관찰 필요"
  | reduce => "비중 축소 검토"
  | sellReview => "매도 검토"

def ofGrade : Grade → HoldingDecision
  | .s | .a => hold
  | .b => watch
  | .c => reduce
  | .d => sellReview

end HoldingDecision

structure HoldingCheckEngine where
  scoreProducer : ScoreProducer := dummyScoreProducer
  disclosureRiskProducer : Option DisclosureRiskProducer := none

/-- The counts of a run. The ids of the checks are left out. -/
structure HoldingCheckResult where
  savedCount : Nat := 0
  skippedNoPrice : Nat := 0
  skippedNoIndicator : Nat := 0
  alertCount : Nat := 0
  deriving DecidableEq, Repr

namespace HoldingCheckEngine

def gradeForScore : Option ℚ → Grade
  | none => .d
  | some score => .ofScore score

/-- `_RISK_FLAG_LABEL_KR.get(flag, flag)`. -/
def flagLabel : RiskFlag → String
  | .scoreDrop => "점수 급락"
  | .ma20Breakdown => "20일선 이탈"
  | .stopLossNear => "손절 근접"
  | .lowTechnicalScore => "기술 점수 낮음"
  | flag => flag.value

/-- The sign of the return, which a rate that rounds to zero keeps. -/
def isLoss (currentPrice avgBuyPrice : ℚ) : Bool :=
  decide (currentPrice < avgBuyPrice) != decide (avgBuyPrice < 0)

def buildReason (decision : HoldingDecision) (returnRate : Option ℚ) (loss : Bool) (totalScore : ℚ)
    (riskFlags : List RiskFlag) : String :=
  let returnText := match returnRate with
    | some rate => "수익률 " ++ signed 2 loss rate ++ "%"
    | none => "수익률 N/A"
  let base := decision.label ++ " (" ++ returnText ++ ", 종합점수 " ++ fixed 4 totalScore ++ ")"
  if riskFlags = [] then base
  else base ++ " · 위험: " ++ String.intercalate ", " (riskFlags.map flagLabel)

def computeReturnRate (currentPrice : ℚ) : Option ℚ → Option ℚ
  | none => none
  | some avgBuyPrice =>
    if avgBuyPrice = 0 then none
    else some (quantize 4 (divide (currentPrice - avgBuyPrice) avgBuyPrice * 100))

def holdingScoreInputs (indicator : StockIndicator) (components : HoldingComponentScores)
    (riskPenalty : Option ℚ) : HoldingScoreInputs where
  technicalScore := indicator.technicalScore
  newsScore := some components.newsScore
  earningsScore := some components.earningsScore
  aiScore := some components.aiScore
  riskPenalty := riskPenalty

/-- What a check comes to, from the rows that were looked up for it. -/
structure Assessed where
  check : HoldingCheck
  assessment : RiskAssessment

def assess (engine : HoldingCheckEngine) (checkDate : Date) (checkType : CheckType)
    (holding : Holding) (price : DailyPrice) (indicator : StockIndicator)
    (previousTotalScore : Option ℚ) : Assessed :=
  let currentPrice := price.close
  let returnRate := computeReturnRate currentPrice (some holding.avgBuyPrice)
  let components := engine.scoreProducer.scoreHolding holding indicator
  let weightedOnly := ScoringEngine.scoreHolding (holdingScoreInputs indicator components none)
  let disclosure := engine.disclosureRiskProducer.map (· holding.symbol)
  let assessment := RiskEngine.evaluateHolding indicator.technicalScore weightedOnly.totalScore
    previousTotalScore currentPrice indicator.ma20 returnRate
    ((disclosure.map DisclosureRiskResult.riskDisclosureCount).getD 0)
    ((disclosure.map DisclosureRiskResult.penaltyAddition).getD 0)
  let finalScore := ScoringEngine.scoreHolding
    (holdingScoreInputs indicator components (some assessment.riskPenalty))
  let grade := gradeForScore (some finalScore.totalScore)
  let decision := HoldingDecision.ofGrade grade
  { assessment
    check :=
      { checkDate, checkType, returnRate
        symbol := holding.symbol
        currentPrice := some currentPrice
        avgBuyPrice := some holding.avgBuyPrice
        technicalScore := indicator.technicalScore
        newsScore := some components.newsScore
        earningsScore := some components.earningsScore
        aiScore := some components.aiScore
        riskScore := some assessment.riskPenalty
        totalScore := some finalScore.totalScore
        grade := some grade.value
        decision := some decision.value
        reason := some
          (buildReason decision returnRate (isLoss currentPrice holding.avgBuyPrice)
            finalScore.totalScore assessment.riskFlags)
        alert := !assessment.riskFlags.isEmpty } }

def previousTotalScore (symbol : String) (checkDate : Date) (checkType : CheckType)
    (db : Database) : Option ℚ :=
  (HoldingCheckRepository.findPreviousForSymbol symbol checkDate checkType db.holdingChecks).bind
    HoldingCheck.totalScore

def persist (assessed : Assessed) (db : Database) : Database :=
  let snapshotId := nextId (db.dataSnapshots.map DataSnapshot.snapshotId)
  { db with
    dataSnapshots := db.dataSnapshots ++ [⟨snapshotId, some assessed.assessment.summary⟩]
    holdingChecks := HoldingCheckRepository.upsert
      { assessed.check with snapshotId := some snapshotId } db.holdingChecks }

def checkHolding (engine : HoldingCheckEngine) (checkDate : Date) (checkType : CheckType)
    (state : HoldingCheckResult × Database) (holding : Holding) : HoldingCheckResult × Database :=
  let (result, db) := state
  match DailyPriceRepository.getLatestBySymbol holding.symbol db with
  | none => ({ result with skippedNoPrice := result.skippedNoPrice + 1 }, db)
  | some price =>
    match StockIndicatorRepository.getLatestBySymbol holding.symbol db with
    | none => ({ result with skippedNoIndicator := result.skippedNoIndicator + 1 }, db)
    | some indicator =>
      let assessed := engine.assess checkDate checkType holding price indicator
        (previousTotalScore holding.symbol checkDate checkType db)
      ({ result with
          savedCount := result.savedCount + 1
          alertCount := result.alertCount + (if assessed.check.alert then 1 else 0) },
        persist assessed db)

/-- `run`, where an unknown check type raises a `ValueError`. -/
def run (engine : HoldingCheckEngine) (checkDate : Date) (checkType : String) (db : Database) :
    Except String (HoldingCheckResult × Database) :=
  match CheckType.ofValue? checkType with
  | none => .error ("check_type must be one of ['POST_MARKET', 'PRE_MARKET'], got " ++
      Json.quote checkType)
  | some checkType => .ok
      ((HoldingRepository.listActive db).foldl (engine.checkHolding checkDate checkType) ({}, db))

end HoldingCheckEngine

end StockAiPlatform.Decision
