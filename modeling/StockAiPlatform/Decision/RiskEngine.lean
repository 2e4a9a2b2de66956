import StockAiPlatform.Db.NotificationModels
import StockAiPlatform.Python.Decimal

/-! # The risk engine

Flags and a capped penalty for a stock that may be recommended and for one that
is held. The details it reports only go to the decision log.
-/

namespace StockAiPlatform.Decision
set_option autoImplicit false

open Python

inductive RiskFlag where
  | lowTechnicalScore | bearishMaAlignment | volumeRatioMissing | volumeRatioExtreme
  | scoreDrop | ma20Breakdown | stopLossNear | riskDisclosure
  deriving DecidableEq, Repr

def RiskFlag.value : RiskFlag → String
  | lowTechnicalScore => "LOW_TECHNICAL_SCORE"
  | bearishMaAlignment => "BEARISH_MA_ALIGNMENT"
  | volumeRatioMissing => "VOLUME_RATIO_MISSING"
  | volumeRatioExtreme => "VOLUME_RATIO_EXTREME"
  | scoreDrop => "SCORE_DROP"
  | ma20Breakdown => "MA20_BREAKDOWN"
  | stopLossNear => "STOP_LOSS_NEAR"
  | riskDisclosure => "RISK_DISCLOSURE"

inductive RiskLevel where
  | low | medium | high
  deriving DecidableEq, Repr

def RiskLevel.value : RiskLevel → String
  | low => "LOW"
  | medium => "MEDIUM"
  | high => "HIGH"

structure RiskAssessment where
  riskPenalty : ℚ
  riskLevel : RiskLevel
  riskFlags : List RiskFlag
  deriving DecidableEq, Repr

/-- What a snapshot keeps of an assessment. -/
def RiskAssessment.summary (risk : RiskAssessment) : RiskSummary :=
  ⟨some risk.riskLevel.value, some (risk.riskFlags.map RiskFlag.value)⟩

namespace RiskEngine

def lowTechnicalScoreThreshold : ℚ := 20

def volumeRatioExtremeThreshold : ℚ := 5

def scoreDropThreshold : ℚ := 15

def stopLossReturnThreshold : ℚ := -5

def penaltyCap : ℚ := 50

def classifyRiskLevel (penalty : ℚ) : RiskLevel :=
  if 15 ≤ penalty then .high else if 5 ≤ penalty then .medium else .low

/-- A flag with its penalty, where its rule applies. -/
def rule (applies : Bool) (flag : RiskFlag) (penalty : ℚ) : List (RiskFlag × ℚ) :=
  if applies then [(flag, penalty)] else []

def assess (raised : List (RiskFlag × ℚ)) : RiskAssessment :=
  let capped := quantize 4 (min (raised.map Prod.snd).sum penaltyCap)
  ⟨capped, classifyRiskLevel capped, raised.map Prod.fst⟩

def evaluateRecommendation (technicalScore : Option ℚ) (maAlignment : Option String)
    (volumeRatio20d : Option ℚ) (disclosureRiskCount : Nat) (disclosurePenaltyAddition : ℚ) :
    RiskAssessment :=
  assess
    (rule (technicalScore.any (· < lowTechnicalScoreThreshold)) .lowTechnicalScore 10 ++
      rule (maAlignment == some "BEAR" || maAlignment == some "PERFECT_BEAR")
        .bearishMaAlignment 8 ++
      rule volumeRatio20d.isNone .volumeRatioMissing 3 ++
      rule (volumeRatio20d.any (volumeRatioExtremeThreshold ≤ ·)) .volumeRatioExtreme 5 ++
      rule (0 < disclosureRiskCount) .riskDisclosure disclosurePenaltyAddition)

def evaluateHolding (technicalScore : Option ℚ) (currentTotalScore : ℚ)
    (previousTotalScore : Option ℚ) (currentPrice : ℚ) (ma20 returnRate : Option ℚ)
    (disclosureRiskCount : Nat) (disclosurePenaltyAddition : ℚ) : RiskAssessment :=
  assess
    (rule (previousTotalScore.any (scoreDropThreshold ≤ · - currentTotalScore)) .scoreDrop 12 ++
      rule (ma20.any (currentPrice < ·)) .ma20Breakdown 8 ++
      rule (returnRate.any (· ≤ stopLossReturnThreshold)) .stopLossNear 15 ++
      rule (technicalScore.any (· < lowTechnicalScoreThreshold)) .lowTechnicalScore 5 ++
      rule (0 < disclosureRiskCount) .riskDisclosure disclosurePenaltyAddition)

end RiskEngine

end StockAiPlatform.Decision
