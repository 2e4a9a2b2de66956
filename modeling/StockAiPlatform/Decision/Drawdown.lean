import StockAiPlatform.Decision.ResultOutcomes
import Mathlib.Tactic.FieldSimp
import Mathlib.Tactic.Linarith

/-! # The drawdown of a window

The fall from the peak of a whole window to its lowest low is the deepest one
that could be. It is the deepest that did happen, from a peak to a later low,
if a bar with that low comes once the peak has been reached.
-/

namespace StockAiPlatform.Results
set_option autoImplicit false

open Transaction Python RecommendationResultService

section Ratios

variable {K : Type} [Field K] [LinearOrder K] [IsStrictOrderedRing K] {low bottom peak top : K}

def decline (low peak : K) : K := (low - peak) / peak * 100

theorem decline_le_iff (hPeak : 0 < peak) (hTop : 0 < top) :
    decline bottom top ≤ decline low peak ↔ bottom * peak ≤ low * top := by
  rw [decline, decline, mul_le_mul_iff_left₀ (by norm_num), sub_div, sub_div, div_self hPeak.ne',
    div_self hTop.ne', sub_le_sub_iff_right, div_le_div_iff₀ hTop hPeak]

/-- A decline grows with a lower low and with a higher peak. -/
theorem decline_le (hBottom : 0 < bottom) (hPeak : 0 < peak) (hLow : bottom ≤ low)
    (hTop : peak ≤ top) : decline bottom top ≤ decline low peak := by
  rw [decline_le_iff hPeak (hPeak.trans_le hTop)]
  exact mul_le_mul hLow hTop hPeak.le (hBottom.trans_le hLow).le

theorem decline_eq_iff (hBottom : 0 < bottom) (hPeak : 0 < peak) (hLow : bottom ≤ low)
    (hTop : peak ≤ top) : decline low peak ≤ decline bottom top ↔ low = bottom ∧ peak = top := by
  rw [decline_le_iff (hPeak.trans_le hTop) hPeak]
  constructor
  · intro h
    have hSame : low * top = bottom * peak :=
      le_antisymm h (mul_le_mul hLow hTop hPeak.le (hBottom.trans_le hLow).le)
    have hLows : low = bottom := by
      by_contra hOther
      have hLt := lt_of_le_of_ne hLow (Ne.symm hOther)
      exact absurd hSame (mul_lt_mul hLt hTop hPeak (hBottom.trans_le hLow).le).ne'
    subst hLows
    exact ⟨rfl, (mul_left_cancel₀ hBottom.ne' hSame).symm⟩
  · rintro ⟨rfl, rfl⟩
    exact le_refl _

end Ratios

section Window

variable {referenceClose : ℚ} {first : DailyPrice} {rest : List DailyPrice}

/-- The drawdown as it is computed, before it is rounded. -/
def drawdown (referenceClose : ℚ) (first : DailyPrice) (rest : List DailyPrice) : ℚ :=
  decline (minLow first rest) (max referenceClose (maxHigh first rest))

/-- A change in percent as it is stored: a quotient of 28 digits, then four places. -/
def stored (percent : ℚ) : ℚ := quantize 4 (divide percent 100 * 100)

/-- The peak of the bars dated no later than a day. -/
def peakUpTo (referenceClose : ℚ) (bars : List DailyPrice) (date : Int) : ℚ :=
  peak referenceClose (bars.filter fun bar => bar.date ≤ date)

/-- What a bar is off the peak of the bars up to it. -/
def declineAt (referenceClose : ℚ) (bars : List DailyPrice) (bar : DailyPrice) : ℚ :=
  decline bar.low (peakUpTo referenceClose bars bar.date)

/-- The deepest fall from a peak to a later low. -/
def peakToTrough (referenceClose : ℚ) (first : DailyPrice) (rest : List DailyPrice) : ℚ :=
  (rest.map (declineAt referenceClose (first :: rest))).foldl min
    (declineAt referenceClose (first :: rest) first)

theorem peakToTrough_le_iff {bound : ℚ} : peakToTrough referenceClose first rest ≤ bound ↔
    ∃ bar ∈ first :: rest, declineAt referenceClose (first :: rest) bar ≤ bound := by
  rw [peakToTrough, foldl_min_le_iff, List.exists_mem_cons_iff]
  simp only [List.mem_map, exists_exists_and_eq_and]

theorem minLow_pos (h : ∀ bar ∈ first :: rest, 0 < bar.low) : 0 < minLow first rest := by
  obtain ⟨bar, hBar, hLow⟩ := minLow_mem first rest
  rw [hLow]
  exact h bar hBar

theorem peakUpTo_le (referenceClose : ℚ) (bars : List DailyPrice) (date : Int) :
    referenceClose ≤ peakUpTo referenceClose bars date ∧
      peakUpTo referenceClose bars date ≤ peak referenceClose bars := by
  refine ⟨le_peak.1, foldl_max_le_iff.mpr ⟨le_peak.1, ?_⟩⟩
  rw [List.forall_mem_map]
  exact fun bar hBar => le_peak.2 bar (List.mem_of_mem_filter hBar)

variable (hReference : 0 < referenceClose) (hLows : ∀ bar ∈ first :: rest, 0 < bar.low)
include hReference hLows

theorem drawdown_le_peakToTrough :
    drawdown referenceClose first rest ≤ peakToTrough referenceClose first rest := by
  obtain ⟨bar, hBar, hLe⟩ := peakToTrough_le_iff.mp (le_refl (peakToTrough referenceClose first rest))
  have hPeaks := peakUpTo_le referenceClose (first :: rest) bar.date
  refine le_trans ?_ hLe
  rw [drawdown, max_maxHigh]
  exact decline_le (minLow_pos hLows) (hReference.trans_le hPeaks.1) (minLow_le hBar) hPeaks.2

theorem drawdown_eq_peakToTrough_iff :
    drawdown referenceClose first rest = peakToTrough referenceClose first rest ↔
      ∃ bar ∈ first :: rest, bar.low = minLow first rest ∧
        peakUpTo referenceClose (first :: rest) bar.date = peak referenceClose (first :: rest) := by
  rw [le_antisymm_iff, and_iff_right (drawdown_le_peakToTrough hReference hLows),
    peakToTrough_le_iff]
  refine exists_congr fun bar => and_congr_right fun hBar => ?_
  have hPeaks := peakUpTo_le referenceClose (first :: rest) bar.date
  rw [drawdown, max_maxHigh]
  exact decline_eq_iff (minLow_pos hLows) (hReference.trans_le hPeaks.1) (minLow_le hBar) hPeaks.2

end Window

/-- What the evaluation stores of a window, and how it compares with the falls that did happen. -/
structure DrawdownSpec (referenceClose : ℚ) (first : DailyPrice) (rest : List DailyPrice)
    (out : ComputedResult) : Prop where
  value : out.maxDrawdown = some (stored (drawdown referenceClose first rest))
  deepest : drawdown referenceClose first rest ≤ peakToTrough referenceClose first rest
  exact_iff : drawdown referenceClose first rest = peakToTrough referenceClose first rest ↔
    ∃ bar ∈ first :: rest, bar.low = minLow first rest ∧
      peakUpTo referenceClose (first :: rest) bar.date = peak referenceClose (first :: rest)

theorem divide_decline (low base : ℚ) : divide (low - base) base * 100 =
    divide (decline low base) 100 * 100 := by
  have hQuotient : (low - base) / base = decline low base / 100 := by
    rw [decline]
    ring
  simp only [divide, hQuotient]

theorem maxDrawdown_evaluateWindow (referenceClose : ℚ) (first : DailyPrice)
    (rest : List DailyPrice) (hReference : 0 < referenceClose)
    (hBars : ∀ bar ∈ first :: rest, 0 < bar.low ∧ bar.low ≤ bar.high) :
    ∃ out, evaluateWindow referenceClose first rest = .ok out ∧
      DrawdownSpec referenceClose first rest out := by
  have hLows : ∀ bar ∈ first :: rest, 0 < bar.low := fun bar hBar => (hBars bar hBar).1
  have hPeak : 0 < peak referenceClose (first :: rest) := hReference.trans_le le_peak.1
  refine ⟨windowResult referenceClose first rest,
    evaluateWindow_eq_ok.mpr ⟨⟨hReference.ne', hPeak.ne'⟩, rfl⟩, ?_,
    drawdown_le_peakToTrough hReference hLows, drawdown_eq_peakToTrough_iff hReference hLows⟩
  rw [stored, drawdown, max_maxHigh, ← divide_decline]
  rfl

def lowDay : DailyPrice := ⟨"005930", 11, 100, 100, 90, 95⟩

def highDay : DailyPrice := ⟨"005930", 12, 110, 120, 110, 115⟩

theorem positive_lowDay_highDay :
    ∀ bar ∈ [lowDay, highDay], 0 < bar.low ∧ bar.low ≤ bar.high := by
  rw [List.forall_mem_cons, List.forall_mem_singleton]
  exact ⟨⟨by decide +kernel, by decide +kernel⟩, by decide +kernel, by decide +kernel⟩

theorem maxDrawdown_evaluateWindow_lowDay :
    0 < (100 : ℚ) ∧ (∀ bar ∈ [lowDay, highDay], 0 < bar.low ∧ bar.low ≤ bar.high) ∧
      ∃ out, evaluateWindow 100 lowDay [highDay] = .ok out ∧
        DrawdownSpec 100 lowDay [highDay] out :=
  ⟨by decide +kernel, positive_lowDay_highDay,
    maxDrawdown_evaluateWindow 100 lowDay [highDay] (by decide +kernel) positive_lowDay_highDay⟩

theorem maxDrawdown_not_peakToTrough : ¬ ∀ (referenceClose : ℚ) (first : DailyPrice)
    (rest : List DailyPrice), 0 < referenceClose →
      (∀ bar ∈ first :: rest, 0 < bar.low ∧ bar.low ≤ bar.high) →
      ∃ out, evaluateWindow referenceClose first rest = .ok out ∧
        out.maxDrawdown = some (stored (peakToTrough referenceClose first rest)) := by
  intro h
  obtain ⟨out, hOut, hValue⟩ :=
    h 100 lowDay [highDay] (by decide +kernel) positive_lowDay_highDay
  obtain ⟨-, rfl⟩ := evaluateWindow_eq_ok.mp hOut
  exact absurd hValue (by decide +kernel)

end StockAiPlatform.Results
