import StockAiPlatform.Decision.HoldingCheckEngine

/-! # Better inputs to a holding check

The scores and the price of a holding go into its total, and into the rules
that take a penalty off it again. Both move the same way: inputs that are no
worse never raise the penalty, lower the total or harden the decision.
-/

namespace StockAiPlatform.Decision
set_option autoImplicit false

open Python

/-- The order HOLD, WATCH, REDUCE, SELL_REVIEW. -/
def HoldingDecision.severity : HoldingDecision → Nat
  | hold => 0
  | watch => 1
  | reduce => 2
  | sellReview => 3

theorem severity_anti {a b : ℚ} (h : a ≤ b) :
    (HoldingDecision.ofGrade (.ofScore b)).severity ≤
      (HoldingDecision.ofGrade (.ofScore a)).severity := by
  simp only [Grade.ofScore]
  split_ifs <;> simp only [HoldingDecision.ofGrade, HoldingDecision.severity] <;> first | omega | linarith

namespace HoldingCheckEngine

section Inputs

/-- What an evaluation of a holding looks up and is given. -/
structure HoldingInputs where
  avgBuyPrice : Option ℚ
  currentPrice : ℚ
  ma20 : Option ℚ
  technicalScore : ℚ
  newsScore : ℚ
  earningsScore : ℚ
  aiScore : ℚ
  disclosureRiskCount : Nat
  disclosurePenalty : ℚ
  previousTotalScore : Option ℚ

namespace HoldingInputs

def score (inputs : HoldingInputs) (riskPenalty : Option ℚ) : ℚ :=
  (ScoringEngine.scoreHolding
    { technicalScore := some inputs.technicalScore
      newsScore := some inputs.newsScore
      earningsScore := some inputs.earningsScore
      aiScore := some inputs.aiScore
      riskPenalty := riskPenalty }).totalScore

def assessment (inputs : HoldingInputs) : RiskAssessment :=
  RiskEngine.evaluateHolding (some inputs.technicalScore) (inputs.score none)
    inputs.previousTotalScore inputs.currentPrice inputs.ma20
    (computeReturnRate inputs.currentPrice inputs.avgBuyPrice) inputs.disclosureRiskCount
    inputs.disclosurePenalty

def finalTotalScore (inputs : HoldingInputs) : ℚ :=
  inputs.score (some inputs.assessment.riskPenalty)

def decision (inputs : HoldingInputs) : HoldingDecision :=
  .ofGrade (gradeForScore (some inputs.finalTotalScore))

end HoldingInputs

def inputsOf (engine : HoldingCheckEngine) (holding : Holding) (price : DailyPrice)
    (indicator : StockIndicator) (technicalScore : ℚ) (previousTotalScore : Option ℚ) :
    HoldingInputs :=
  let components := engine.scoreProducer.scoreHolding holding indicator
  let disclosure := engine.disclosureRiskProducer.map (· holding.symbol)
  { avgBuyPrice := some holding.avgBuyPrice
    currentPrice := price.close
    ma20 := indicator.ma20
    technicalScore
    newsScore := components.newsScore
    earningsScore := components.earningsScore
    aiScore := components.aiScore
    disclosureRiskCount := (disclosure.map DisclosureRiskResult.riskDisclosureCount).getD 0
    disclosurePenalty := (disclosure.map DisclosureRiskResult.penaltyAddition).getD 0
    previousTotalScore }

variable {engine : HoldingCheckEngine} {checkDate : Date} {checkType : CheckType}
  {holding : Holding} {price : DailyPrice} {indicator : StockIndicator} {technicalScore : ℚ}
  {previousTotalScore : Option ℚ}

/-- A stored check has the total, the penalty and the decision of its inputs. -/
theorem assess_of_inputs (hTechnical : indicator.technicalScore = some technicalScore) :
    let check := (engine.assess checkDate checkType holding price indicator previousTotalScore).check
    let inputs := engine.inputsOf holding price indicator technicalScore previousTotalScore
    check.totalScore = some inputs.finalTotalScore ∧
      check.riskScore = some inputs.assessment.riskPenalty ∧
        check.decision = some inputs.decision.value := by
  simp only [assess, holdingScoreInputs, hTechnical]
  exact ⟨rfl, rfl, rfl⟩

end Inputs

section Monotone

variable {inputs inputs' : HoldingInputs}

/-- The second evaluation of a holding is made from inputs that are no worse. -/
structure NoWorse (inputs inputs' : HoldingInputs) : Prop where
  avgBuyPrice : inputs.avgBuyPrice = inputs'.avgBuyPrice
  positive : ∀ avgBuyPrice ∈ inputs.avgBuyPrice, 0 < avgBuyPrice
  ma20 : inputs.ma20 = inputs'.ma20
  technicalScore : inputs.technicalScore ≤ inputs'.technicalScore
  newsScore : inputs.newsScore ≤ inputs'.newsScore
  earningsScore : inputs.earningsScore ≤ inputs'.earningsScore
  aiScore : inputs.aiScore ≤ inputs'.aiScore
  currentPrice : inputs.currentPrice ≤ inputs'.currentPrice
  disclosurePenalty : inputs'.disclosurePenalty ≤ inputs.disclosurePenalty
  disclosed : 0 < inputs.disclosureRiskCount ↔ 0 < inputs.disclosurePenalty
  disclosed' : 0 < inputs'.disclosureRiskCount ↔ 0 < inputs'.disclosurePenalty
  previous : (inputs.previousTotalScore = none ∧ inputs'.previousTotalScore = none) ∨
    ∃ previous previous', inputs.previousTotalScore = some previous ∧
      inputs'.previousTotalScore = some previous' ∧ previous' ≤ previous

theorem NoWorse.weighted_le (h : NoWorse inputs inputs') {penalty penalty' : Option ℚ}
    (hPenalty : normalizePenalty penalty' ≤ normalizePenalty penalty) :
    inputs.score penalty ≤ inputs'.score penalty' := by
  have hTechnical := clampScore_mono h.technicalScore
  have hNews := clampScore_mono h.newsScore
  have hEarnings := clampScore_mono h.earningsScore
  have hAi := clampScore_mono h.aiScore
  refine quantize_mono 4 (clampScore_mono ?_)
  simp only [List.map_cons, List.map_nil, List.sum_cons, List.sum_nil, clampComponent]
  linarith

/-- A penalty counts only where its rule applies. -/
theorem sum_rule (applies : Bool) (flag : RiskFlag) (penalty : ℚ) :
    ((RiskEngine.rule applies flag penalty).map Prod.snd).sum = if applies then penalty else 0 := by
  cases applies <;> simp [RiskEngine.rule]

theorem rule_anti {applies applies' : Bool} {penalty : ℚ} (hNonneg : 0 ≤ penalty)
    (h : applies' = true → applies = true) :
    (if applies' then penalty else 0) ≤ if applies then penalty else 0 := by
  cases applies' with
  | false => cases applies <;> simp [hNonneg]
  | true => simp [h rfl]

theorem computeReturnRate_mono {avgBuyPrice : Option ℚ} {price price' rate rate' : ℚ}
    (hPositive : ∀ avg ∈ avgBuyPrice, 0 < avg) (h : price ≤ price')
    (hRate : computeReturnRate price avgBuyPrice = some rate)
    (hRate' : computeReturnRate price' avgBuyPrice = some rate') : rate ≤ rate' := by
  cases avgBuyPrice with
  | none => cases hRate
  | some avg =>
    have hAvg := hPositive avg rfl
    rw [computeReturnRate, if_neg hAvg.ne'] at hRate hRate'
    rw [← Option.some.inj hRate, ← Option.some.inj hRate']
    refine quantize_mono 4 (mul_le_mul_of_nonneg_right (divide_mono ?_) (by norm_num))
    exact div_le_div_of_nonneg_right (sub_le_sub_right h avg) hAvg.le

/-- The five rules, each with the penalty that it takes. -/
theorem riskPenalty_eq (inputs : HoldingInputs) : inputs.assessment.riskPenalty = quantize 4 (min
    ((if inputs.previousTotalScore.any (RiskEngine.scoreDropThreshold ≤ · - inputs.score none) then
        12 else 0) +
      (if inputs.ma20.any (inputs.currentPrice < ·) then 8 else 0) +
      (if (computeReturnRate inputs.currentPrice inputs.avgBuyPrice).any
        (· ≤ RiskEngine.stopLossReturnThreshold) then 15 else 0) +
      (if decide (inputs.technicalScore < RiskEngine.lowTechnicalScoreThreshold) then 5 else 0) +
      if decide (0 < inputs.disclosureRiskCount) then inputs.disclosurePenalty else 0)
    RiskEngine.penaltyCap) := by
  simp only [HoldingInputs.assessment, RiskEngine.evaluateHolding, RiskEngine.assess,
    List.map_append, List.sum_append, sum_rule, Option.any_some]

theorem NoWorse.scoreDrop (h : NoWorse inputs inputs')
    (hDrop : inputs'.previousTotalScore.any
      (RiskEngine.scoreDropThreshold ≤ · - inputs'.score none) = true) :
    inputs.previousTotalScore.any (RiskEngine.scoreDropThreshold ≤ · - inputs.score none) = true := by
  have hScore := h.weighted_le (le_refl (normalizePenalty none))
  rcases h.previous with ⟨-, hNone⟩ | ⟨previous, previous', hSome, hSome', hLe⟩
  · rw [hNone] at hDrop
    cases hDrop
  · rw [hSome', Option.any_some, decide_eq_true_iff] at hDrop
    rw [hSome, Option.any_some, decide_eq_true_iff]
    linarith

theorem NoWorse.ma20Breakdown (h : NoWorse inputs inputs')
    (hBelow : inputs'.ma20.any (inputs'.currentPrice < ·) = true) :
    inputs.ma20.any (inputs.currentPrice < ·) = true := by
  rw [Option.any_eq_true] at hBelow ⊢
  obtain ⟨ma20, hMa20, hLt⟩ := hBelow
  refine ⟨ma20, h.ma20.trans hMa20, ?_⟩
  rw [decide_eq_true_iff] at hLt ⊢
  exact h.currentPrice.trans_lt hLt

theorem NoWorse.stopLoss (h : NoWorse inputs inputs')
    (hLoss : (computeReturnRate inputs'.currentPrice inputs'.avgBuyPrice).any
      (· ≤ RiskEngine.stopLossReturnThreshold) = true) :
    (computeReturnRate inputs.currentPrice inputs.avgBuyPrice).any
      (· ≤ RiskEngine.stopLossReturnThreshold) = true := by
  rw [← h.avgBuyPrice] at hLoss
  rw [Option.any_eq_true] at hLoss ⊢
  obtain ⟨rate', hRate', hLow⟩ := hLoss
  rw [decide_eq_true_iff] at hLow
  cases hRate : computeReturnRate inputs.currentPrice inputs.avgBuyPrice with
  | none =>
    cases hAvg : inputs.avgBuyPrice with
    | none =>
      rw [hAvg] at hRate'
      cases hRate'
    | some avg =>
      rw [hAvg, computeReturnRate, if_neg (h.positive avg hAvg).ne'] at hRate
      cases hRate
  | some rate =>
    exact ⟨rate, rfl, decide_eq_true
      ((computeReturnRate_mono h.positive h.currentPrice hRate hRate').trans hLow)⟩

theorem NoWorse.disclosure (h : NoWorse inputs inputs') :
    (if decide (0 < inputs'.disclosureRiskCount) then inputs'.disclosurePenalty else 0) ≤
      if decide (0 < inputs.disclosureRiskCount) then inputs.disclosurePenalty else 0 := by
  simp only [decide_eq_true_iff, h.disclosed, h.disclosed']
  split
  · rename_i hPos
    rw [if_pos (hPos.trans_le h.disclosurePenalty)]
    exact h.disclosurePenalty
  · split
    · exact le_of_lt ‹_›
    · exact le_refl 0

theorem NoWorse.riskPenalty_le (h : NoWorse inputs inputs') :
    inputs'.assessment.riskPenalty ≤ inputs.assessment.riskPenalty := by
  rw [riskPenalty_eq, riskPenalty_eq]
  have hTechnical : decide (inputs'.technicalScore < RiskEngine.lowTechnicalScoreThreshold) = true →
      decide (inputs.technicalScore < RiskEngine.lowTechnicalScoreThreshold) = true := by
    rw [decide_eq_true_iff, decide_eq_true_iff]
    exact h.technicalScore.trans_lt
  refine quantize_mono 4 (min_le_min_right _ ?_)
  exact add_le_add (add_le_add (add_le_add (add_le_add
    (rule_anti (by norm_num) h.scoreDrop) (rule_anti (by norm_num) h.ma20Breakdown))
    (rule_anti (by norm_num) h.stopLoss)) (rule_anti (by norm_num) hTechnical)) h.disclosure

/-- Inputs that are no worse lead to an evaluation that is no worse. -/
theorem holdingDecision_mono (inputs inputs' : HoldingInputs) (h : NoWorse inputs inputs') :
    inputs.finalTotalScore ≤ inputs'.finalTotalScore ∧
      inputs'.assessment.riskPenalty ≤ inputs.assessment.riskPenalty ∧
        inputs'.decision.severity ≤ inputs.decision.severity := by
  have hPenalty := h.riskPenalty_le
  have hScore : inputs.finalTotalScore ≤ inputs'.finalTotalScore :=
    h.weighted_le (normalizePenalty_mono hPenalty)
  exact ⟨hScore, hPenalty, severity_anti hScore⟩

/-- A holding at a loss that fell by 15 points. -/
def fallen : HoldingInputs where
  avgBuyPrice := some 100
  currentPrice := 94
  ma20 := some 96
  technicalScore := 40
  newsScore := 50
  earningsScore := 50
  aiScore := 45
  disclosureRiskCount := 1
  disclosurePenalty := 3
  previousTotalScore := some 60

def recovered : HoldingInputs :=
  { fallen with
    currentPrice := 97
    technicalScore := 60
    disclosureRiskCount := 0
    disclosurePenalty := 0 }

theorem noWorse_recovered : NoWorse fallen recovered where
  avgBuyPrice := rfl
  positive avg hAvg := by
    cases hAvg
    norm_num
  ma20 := rfl
  technicalScore := by norm_num [fallen, recovered]
  newsScore := le_refl _
  earningsScore := le_refl _
  aiScore := le_refl _
  currentPrice := by norm_num [fallen, recovered]
  disclosurePenalty := by norm_num [fallen, recovered]
  disclosed := by norm_num [fallen]
  disclosed' := by norm_num [recovered]
  previous := .inr ⟨60, 60, rfl, rfl, le_refl 60⟩

theorem holdingDecision_mono_recovered : fallen.finalTotalScore ≤ recovered.finalTotalScore ∧
    recovered.assessment.riskPenalty ≤ fallen.assessment.riskPenalty ∧
      recovered.decision.severity ≤ fallen.decision.severity :=
  holdingDecision_mono fallen recovered noWorse_recovered

end Monotone

end HoldingCheckEngine

end StockAiPlatform.Decision
