import StockAiPlatform.Python.Rounding

/-! # The scoring engine

Component scores in fixed weights, less a risk penalty, within 0 and 100.
-/

namespace StockAiPlatform.Decision
set_option autoImplicit false

open Python

structure NewRecommendationScoreInputs where
  technicalScore : Option ℚ := none
  newsScore : Option ℚ := none
  supplyScore : Option ℚ := none
  fundamentalScore : Option ℚ := none
  aiScore : Option ℚ := none
  riskPenalty : Option ℚ := none

structure HoldingScoreInputs where
  technicalScore : Option ℚ := none
  newsScore : Option ℚ := none
  earningsScore : Option ℚ := none
  aiScore : Option ℚ := none
  profitManagementScore : Option ℚ := none
  riskPenalty : Option ℚ := none

structure ScoreBreakdown where
  totalScore : ℚ
  rawTotal : ℚ
  weightedComponents : List (String × ℚ)
  riskPenalty : ℚ
  deriving DecidableEq, Repr

/-- A value within 0 and 100. -/
def clampScore (value : ℚ) : ℚ := if value < 0 then 0 else if 100 < value then 100 else value

theorem clampScore_bounds (value : ℚ) : 0 ≤ clampScore value ∧ clampScore value ≤ 100 := by
  rw [clampScore]
  split
  · exact ⟨le_refl 0, by norm_num⟩
  · split
    · exact ⟨by norm_num, le_refl 100⟩
    · exact ⟨not_lt.mp ‹_›, not_lt.mp ‹_›⟩

theorem clampScore_mono {a b : ℚ} (h : a ≤ b) : clampScore a ≤ clampScore b := by
  rw [clampScore, clampScore]
  split
  · exact (clampScore_bounds b).1
  · rename_i hLow
    rw [if_neg (not_lt.mpr ((not_lt.mp hLow).trans h))]
    split
    · rename_i hHigh
      rw [if_pos (hHigh.trans_le h)]
    · rename_i hBelow
      split
      · exact not_lt.mp hBelow
      · exact h

def clampComponent : Option ℚ → ℚ
  | none => 0
  | some value => clampScore value

def normalizePenalty : Option ℚ → ℚ
  | none => 0
  | some value => if value < 0 then 0 else value

theorem normalizePenalty_mono {a b : ℚ} (h : a ≤ b) :
    normalizePenalty (some a) ≤ normalizePenalty (some b) := by
  simp only [normalizePenalty]
  split
  · split
    · exact le_refl 0
    · exact not_lt.mp ‹_›
  · rename_i hNonneg
    rw [if_neg (not_lt.mpr ((not_lt.mp hNonneg).trans h))]
    exact h

theorem normalizePenalty_nonneg (penalty : Option ℚ) : 0 ≤ normalizePenalty penalty := by
  cases penalty with
  | none => exact le_refl 0
  | some value =>
    simp only [normalizePenalty]
    split
    · exact le_refl 0
    · exact not_lt.mp ‹_›

namespace ScoringEngine

/-- Components come with their weights. -/
def compose (components : List (String × ℚ × Option ℚ)) (riskPenalty : Option ℚ) :
    ScoreBreakdown :=
  let contributions := components.map fun (name, weight, raw) =>
    (name, clampComponent raw * weight)
  let penalty := normalizePenalty riskPenalty
  let rawTotal := (contributions.map Prod.snd).sum - penalty
  ⟨quantize 4 (clampScore rawTotal), quantize 4 rawTotal,
    contributions.map fun (name, value) => (name, quantize 4 value), quantize 4 penalty⟩

theorem totalScore_compose_bounds (components : List (String × ℚ × Option ℚ))
    (riskPenalty : Option ℚ) : 0 ≤ (compose components riskPenalty).totalScore ∧
      (compose components riskPenalty).totalScore ≤ 100 := by
  obtain ⟨hLow, hHigh⟩ := clampScore_bounds
    (((components.map fun (name, weight, raw) => (name, clampComponent raw * weight)).map
      Prod.snd).sum - normalizePenalty riskPenalty)
  exact quantize_bounds 4 hLow hHigh

/-- A higher penalty never raises the total. -/
theorem totalScore_compose_anti (components : List (String × ℚ × Option ℚ))
    {penalty penalty' : Option ℚ} (h : normalizePenalty penalty ≤ normalizePenalty penalty') :
    (compose components penalty').totalScore ≤ (compose components penalty).totalScore :=
  quantize_mono 4 (clampScore_mono (sub_le_sub_left h _))

def scoreNewRecommendation (inputs : NewRecommendationScoreInputs) : ScoreBreakdown :=
  compose
    [("technical", 35 / 100, inputs.technicalScore), ("news", 25 / 100, inputs.newsScore),
      ("supply", 15 / 100, inputs.supplyScore), ("fundamental", 15 / 100, inputs.fundamentalScore),
      ("ai", 10 / 100, inputs.aiScore)]
    inputs.riskPenalty

def scoreHolding (inputs : HoldingScoreInputs) : ScoreBreakdown :=
  compose
    [("technical", 35 / 100, inputs.technicalScore), ("news", 20 / 100, inputs.newsScore),
      ("earnings", 20 / 100, inputs.earningsScore), ("ai", 15 / 100, inputs.aiScore),
      ("profit_management", 10 / 100, inputs.profitManagementScore)]
    inputs.riskPenalty

end ScoringEngine

end StockAiPlatform.Decision
