import StockAiPlatform.Db.DecisionModels

/-! # Producers of component scores

The engines take their news, supply, fundamental, earnings and AI scores from a
producer they are given. The dummy producer derives them from the indicator
alone. What producers record beside the scores only goes to the logs.
-/

namespace StockAiPlatform.Decision
set_option autoImplicit false

open Python

def neutralScore : ℚ := 50

def lowRuleScore : ℚ := 45

def highRuleScore : ℚ := 55

structure RecommendationComponentScores where
  newsScore : ℚ := neutralScore
  supplyScore : ℚ := neutralScore
  fundamentalScore : ℚ := neutralScore
  aiScore : ℚ := neutralScore
  deriving DecidableEq, Repr

structure HoldingComponentScores where
  newsScore : ℚ := neutralScore
  earningsScore : ℚ := neutralScore
  aiScore : ℚ := neutralScore
  deriving DecidableEq, Repr

/-- `ScoreProducerInterface`. -/
structure ScoreProducer where
  scoreRecommendation : Stock → StockIndicator → RecommendationComponentScores
  scoreHolding : Holding → StockIndicator → HoldingComponentScores

structure DisclosureRiskResult where
  riskDisclosureCount : Nat
  penaltyAddition : ℚ
  deriving DecidableEq, Repr

/-- `DisclosureRiskProducer.evaluate`, for a symbol. -/
abbrev DisclosureRiskProducer := String → DisclosureRiskResult

def scoreSupply (volumeRatio20d : Option ℚ) : ℚ :=
  match volumeRatio20d with
  | none => neutralScore
  | some ratio =>
    if 2 ≤ ratio then highRuleScore
    else if ratio ≤ 7 / 10 then lowRuleScore
    else neutralScore

def scoreAiPlaceholder (maAlignment : Option String) : ℚ :=
  let normalized := upper (maAlignment.getD "").toList
  if isIn "BULL".toList normalized then highRuleScore
  else if isIn "BEAR".toList normalized then lowRuleScore
  else neutralScore

def dummyScoreProducer : ScoreProducer where
  scoreRecommendation _ indicator :=
    { supplyScore := scoreSupply indicator.volumeRatio20d
      aiScore := scoreAiPlaceholder indicator.maAlignment }
  scoreHolding _ indicator := { aiScore := scoreAiPlaceholder indicator.maAlignment }

end StockAiPlatform.Decision
