import StockAiPlatform.Db.DecisionModels
import StockAiPlatform.Python.Rounding

/-! # Scores from analyst reports and theme signals

What the consensus on a stock, the themes it belongs to and the events reported
of it add to its score. Evidence texts are left out.
-/

namespace StockAiPlatform.Decision
set_option autoImplicit false

open Python

structure ReportScoreResult where
  reportScore : Option ℚ
  reportCount : Nat
  targetUpsidePct : Option ℚ
  ratingScoreAvg : Option ℚ
  recencyBonus : Option ℚ
  deriving DecidableEq, Repr

structure ThemeSignalScoreResult where
  themeSignalScore : Option ℚ
  themeCount : Nat
  signalEventCount : Nat
  themeSignalBonus : Option ℚ
  eventSignalBonus : Option ℚ
  riskPenalty : Option ℚ
  deriving DecidableEq, Repr

structure ScoreAdjustmentResult where
  reportScoreAdjustment : ℚ
  themeSignalAdjustment : ℚ
  totalScoreAfter : ℚ
  deriving DecidableEq, Repr

def clip (value lower upper : ℚ) : ℚ := max lower (min upper value)

theorem clip_bounds {lower upper : ℚ} (value : ℚ) (h : lower ≤ upper) :
    lower ≤ clip value lower upper ∧ clip value lower upper ≤ upper :=
  ⟨le_max_left _ _, max_le h (min_le_left _ _)⟩

theorem clip_mono {value value' : ℚ} (lower upper : ℚ) (h : value ≤ value') :
    clip value lower upper ≤ clip value' lower upper :=
  max_le_max_left _ (min_le_min_left _ h)

def calculateRecencyBonus (asOf : Date) : Option Date → Option ℚ
  | none => none
  | some latestPublishedAt =>
    let ageDays := asOf.toordinal - latestPublishedAt.toordinal
    if ageDays ≤ 14 then some 5 else if ageDays ≤ 30 then some 3 else some 0

structure RatingCounts where
  strongBuyCount : Nat := 0
  buyCount : Nat := 0
  holdCount : Nat := 0
  sellCount : Nat := 0
  strongSellCount : Nat := 0

def calculateRatingScoreAvg (reportCount : Nat) (counts : RatingCounts) : Option ℚ :=
  if reportCount = 0 then none
  else
    let weighted : ℚ := counts.strongBuyCount * 2 + counts.buyCount * 1 + counts.holdCount * 0 +
      counts.sellCount * (-1) + counts.strongSellCount * (-2)
    some (quantize 4 (divide weighted reportCount))

def calculateTargetUpsidePct (avgTargetPrice latestClose : Option ℚ) : Option ℚ :=
  match avgTargetPrice, latestClose with
  | some target, some close =>
    if close ≤ 0 then none
    else some (quantize 4 (clip (divide (target - close) close * 100) (-40) 60))
  | _, _ => none

def calculateReportScore (asOf : Date) (reportCount : Nat) (avgTargetPrice latestClose : Option ℚ)
    (counts : RatingCounts) (latestPublishedAt : Option Date) : ReportScoreResult :=
  if reportCount = 0 then ⟨none, 0, none, none, none⟩
  else
    let targetUpsidePct := calculateTargetUpsidePct avgTargetPrice latestClose
    let ratingScoreAvg := calculateRatingScoreAvg reportCount counts
    let recencyBonus := calculateRecencyBonus asOf latestPublishedAt
    let score : ℚ := 50 + (targetUpsidePct.map (· * (1 / 2))).getD 0 +
      (ratingScoreAvg.map (· * 10)).getD 0 + recencyBonus.getD 0
    ⟨some (quantize 2 (clip score 0 100)), reportCount, targetUpsidePct, ratingScoreAvg,
      recencyBonus⟩

def directionWeight (direction : String) : ℚ :=
  let name := upper direction.toList
  if name = "POSITIVE".toList then 1 else if name = "NEGATIVE".toList then -1 else 0

def strengthWeight : Option ℚ → ℚ
  | none => 1
  | some value => clip value 0 1

def averageSignalPoints (values : List ℚ) (count : Nat) : Option ℚ :=
  if count = 0 then none else some (quantize 2 (divide values.sum count * 10))

def isRiskWarning (event : ReportSignalEvent) : Bool :=
  upper event.eventType.toList == "RISK_WARNING".toList

def calculateThemeSignalScore (themeMappings : List ThemeStockMapping)
    (signalEvents : List ReportSignalEvent) : ThemeSignalScoreResult :=
  let themeCount := themeMappings.length
  let signalEventCount := signalEvents.length
  if themeCount = 0 ∧ signalEventCount = 0 then ⟨none, 0, 0, none, none, none⟩
  else
    let themePoints := themeMappings.map fun mapping =>
      directionWeight mapping.impactDirection * strengthWeight mapping.impactStrength
    let eventPoints := signalEvents.map fun event =>
      directionWeight event.direction * strengthWeight event.strength
    let riskWarningCount := signalEvents.countP isRiskWarning
    let themeSignalBonus := averageSignalPoints themePoints themeCount
    let eventSignalBonus := averageSignalPoints eventPoints signalEventCount
    let riskPenalty := quantize 2 (clip (riskWarningCount * (5 / 2)) 0 10)
    let score : ℚ := 50 + themeSignalBonus.getD 0 + eventSignalBonus.getD 0 - riskPenalty
    ⟨some (quantize 2 (clip score 0 100)), themeCount, signalEventCount, themeSignalBonus,
      eventSignalBonus, some riskPenalty⟩

/-- A score moves the total by a tenth of what it is above or below 50, at most by 5. -/
def adjustmentOf : Option ℚ → ℚ
  | none => 0
  | some score => clip ((score - 50) * (1 / 10)) (-5) 5

def calculateScoreAdjustment (baseTotalScore : ℚ) (reportScore themeSignalScore : Option ℚ) :
    ScoreAdjustmentResult :=
  let reportAdjustment := adjustmentOf reportScore
  let themeAdjustment := adjustmentOf themeSignalScore
  let total := clip (baseTotalScore + reportAdjustment + themeAdjustment) 0 100
  ⟨quantize 2 reportAdjustment, quantize 2 themeAdjustment, quantize 4 total⟩

theorem totalScoreAfter_bounds (baseTotalScore : ℚ) (reportScore themeSignalScore : Option ℚ) :
    0 ≤ (calculateScoreAdjustment baseTotalScore reportScore themeSignalScore).totalScoreAfter ∧
      (calculateScoreAdjustment baseTotalScore reportScore themeSignalScore).totalScoreAfter ≤ 100 :=
  quantize_bounds 4 (clip_bounds _ (by norm_num)).1 (clip_bounds _ (by norm_num)).2

end StockAiPlatform.Decision
