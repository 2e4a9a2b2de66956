import StockAiPlatform.Analysis.TechnicalAnalyzer
import StockAiPlatform.Python.Rounding
import StockAiPlatform.Transaction.AsOf
import Mathlib.Tactic.Linarith
import Mathlib.Tactic.NormNum

/-! # Indicators under a change of unit

Prices in another currency or before a split are all multiplied by one factor,
volumes by another. Averages and ranges follow the prices, and everything that
compares or divides them stays the same, so the score does.
-/

namespace StockAiPlatform.Analysis
set_option autoImplicit false

open Python Series Transaction

section Averages

variable {c : ℚ} {closes values : List ℚ}

def times (c : ℚ) (value : Option ℚ) : Option ℚ := value.map fun value => c * value

theorem simpleMovingAverage_scaled (period : Nat) :
    simpleMovingAverage (scaled c closes) period = times c (simpleMovingAverage closes period) := by
  rw [simpleMovingAverage, simpleMovingAverage, length_scaled]
  split
  · rfl
  · have hWindow : lastValues period (scaled c closes) = scaled c (lastValues period closes) :=
      lastValues_map _ _ _
    rw [hWindow, sum_scaled, mul_div_assoc]
    rfl

theorem exponentialMovingAverage_scaled (period : Nat) :
    exponentialMovingAverage (scaled c values) period =
      (exponentialMovingAverage values period).map (scaled c) := by
  rw [exponentialMovingAverage, exponentialMovingAverage, length_scaled]
  split
  · rfl
  · rw [take_scaled, drop_scaled, sum_scaled, mul_div_assoc, emaSeries_scaled]
    rfl

theorem gain_mul (hc : 0 < c) (difference : ℚ) : gain (c * difference) = c * gain difference := by
  simp only [gain, mul_nonneg_iff_of_pos_left hc, mul_ite, mul_zero]

theorem loss_mul (hc : 0 < c) (difference : ℚ) : loss (c * difference) = c * loss difference := by
  simp only [loss, mul_nonneg_iff_of_pos_left hc, mul_ite, mul_zero, mul_neg]

/-- The ratio of gains and losses has no unit. -/
theorem relativeStrengthIndex_scaled (hc : 0 < c) (period : Nat) :
    relativeStrengthIndex (scaled c closes) period = relativeStrengthIndex closes period := by
  have hDifferences : adjacent (fun close previous => close - previous) (scaled c closes) =
      scaled c (adjacent (fun close previous => close - previous) closes) :=
    adjacent_map (fun a b => (mul_sub c a b).symm) closes
  have hGains : ∀ differences : List ℚ,
      (scaled c differences).map gain = scaled c (differences.map gain) := by
    intro differences
    simp only [scaled, List.map_map]
    exact List.map_congr_left fun difference _ => gain_mul hc difference
  have hLosses : ∀ differences : List ℚ,
      (scaled c differences).map loss = scaled c (differences.map loss) := by
    intro differences
    simp only [scaled, List.map_map]
    exact List.map_congr_left fun difference _ => loss_mul hc difference
  simp only [relativeStrengthIndex, length_scaled, hDifferences, hGains, hLosses, wilder_scaled,
    mul_eq_zero, hc.ne', false_or, mul_div_mul_left _ _ hc.ne']

theorem computeMacd_scaled (fastPeriod slowPeriod signalPeriod : Nat) :
    computeMacd (scaled c closes) fastPeriod slowPeriod signalPeriod =
      ((computeMacd closes fastPeriod slowPeriod signalPeriod).map (times c) (times c)) := by
  simp only [computeMacd, length_scaled, exponentialMovingAverage_scaled]
  split
  · rfl
  · cases exponentialMovingAverage closes fastPeriod with
    | none => rfl
    | some fastSeries =>
      cases exponentialMovingAverage closes slowPeriod with
      | none => rfl
      | some slowSeries =>
        have hSeries : List.zipWith (fun f s => f - s)
              (lastValues slowSeries.length (scaled c fastSeries)) (scaled c slowSeries) =
            scaled c (List.zipWith (fun f s => f - s) (lastValues slowSeries.length fastSeries)
              slowSeries) := by
          rw [scaled, lastValues_map]
          exact zipWith_map_of_comm (fun a b => (mul_sub c a b).symm) _ _
        simp only [Option.map_some, length_scaled, hSeries, getLast?_scaled,
          exponentialMovingAverage_scaled]
        split
        · rfl
        · cases exponentialMovingAverage (List.zipWith (fun f s => f - s)
              (lastValues slowSeries.length fastSeries) slowSeries) signalPeriod with
          | none => rfl
          | some series => exact congrArg (Prod.mk _) getLast?_scaled

end Averages

section Comparisons

variable {c d : ℚ}

theorem cast_sum_map {scaleVolume : Int → Int} {volumes : List Int}
    (h : ∀ volume ∈ volumes, (scaleVolume volume : ℚ) = d * volume) :
    ((volumes.map scaleVolume).sum : ℚ) = d * (volumes.sum : ℚ) := by
  induction volumes with
  | nil => simp
  | cons volume volumes ih =>
    rw [List.forall_mem_cons] at h
    rw [List.map_cons, List.sum_cons, List.sum_cons, Int.cast_add, Int.cast_add, h.1, ih h.2, mul_add]

theorem mem_of_mem_priorWindow {α : Type} {n : Nat} {values : List α} {value : α}
    (h : value ∈ priorWindow n values) : value ∈ values :=
  List.mem_of_mem_drop (List.mem_of_mem_dropLast h)

theorem computeVolumeRatio20d_map (hd : 0 < d) {scaleVolume : Int → Int} {volumes : List Int}
    (h : ∀ volume ∈ volumes, (scaleVolume volume : ℚ) = d * volume) (period : Nat) :
    computeVolumeRatio20d (volumes.map scaleVolume) period =
      computeVolumeRatio20d volumes period := by
  have hSum := cast_sum_map fun volume hVolume => h volume (mem_of_mem_priorWindow (n := period) hVolume)
  simp only [computeVolumeRatio20d, List.length_map, priorWindow_map, hSum, mul_div_assoc,
    mul_eq_zero, hd.ne', false_or, List.getLast?_map]
  cases hLast : volumes.getLast? with
  | none => rfl
  | some volume =>
    have hRatio : ∀ avg : ℚ, (scaleVolume volume : ℚ) / (d * avg) = volume / avg := by
      intro avg
      rw [h volume (List.mem_of_getLast? hLast), mul_div_mul_left _ _ hd.ne']
    simp only [Option.map_some, hRatio]

theorem computeBreakout_scaled (hc : 0 < c) (highs : List ℚ) (period : Nat) (todayClose : ℚ) :
    computeBreakout (scaled c highs) period (c * todayClose) =
      computeBreakout highs period todayClose := by
  have hWindow : priorWindow period (scaled c highs) = scaled c (priorWindow period highs) :=
    priorWindow_map _ _ _
  simp only [computeBreakout, length_scaled, hWindow, max?_scaled hc, Option.map_map,
    Function.comp_def, mul_lt_mul_iff_right₀ hc]

theorem classifyMaAlignment_times (hc : 0 < c) (close ma5 ma20 ma60 ma120 : Option ℚ) :
    classifyMaAlignment (times c close) (times c ma5) (times c ma20) (times c ma60) (times c ma120) =
      classifyMaAlignment close ma5 ma20 ma60 ma120 := by
  cases ma5 with
  | none => rfl
  | some ma5 =>
    cases ma20 with
    | none => rfl
    | some ma20 =>
      cases ma60 with
      | none => rfl
      | some ma60 =>
        simp only [classifyMaAlignment, times, Option.map_some, mul_lt_mul_iff_right₀ hc,
          Option.any_map]

theorem mul_nonpos_iff_of_pos (hc : 0 < c) {value : ℚ} : c * value ≤ 0 ↔ value ≤ 0 := by
  rw [← not_lt, mul_pos_iff_of_pos_left hc, not_lt]

theorem classifyVolatility_times (hc : 0 < c) (atr14 latestClose : Option ℚ) :
    classifyVolatility (times c atr14) (times c latestClose) = classifyVolatility atr14 latestClose := by
  cases atr14 with
  | none => rfl
  | some atr14 =>
    cases latestClose with
    | none => rfl
    | some latestClose =>
      simp only [classifyVolatility, times, Option.map_some, mul_div_mul_left _ _ hc.ne',
        mul_nonpos_iff_of_pos hc]

theorem crossed_times (hc : 0 < c) (macdValue macdSignal : Option ℚ) :
    crossed (times c macdValue) (times c macdSignal) = crossed macdValue macdSignal := by
  cases macdValue with
  | none => rfl
  | some macdValue =>
    cases macdSignal with
    | none => rfl
    | some macdSignal =>
      simp only [crossed, times, Option.map_some, mul_lt_mul_iff_right₀ hc]

end Comparisons

section Bars

variable {c : ℚ} {scaleVolume : Int → Int} {bar prev : KisDailyPrice} {bars : List KisDailyPrice}

/-- A bar in other units. -/
def rescale (c : ℚ) (scaleVolume : Int → Int) (bar : KisDailyPrice) : KisDailyPrice where
  symbol := bar.symbol
  date := bar.date
  openPrice := c * bar.openPrice
  high := c * bar.high
  low := c * bar.low
  close := c * bar.close
  volume := scaleVolume bar.volume

theorem byDate_map : byDate (bars.map (rescale c scaleVolume)) =
    (byDate bars).map (rescale c scaleVolume) :=
  (List.map_insertionSort (fun a b : KisDailyPrice => a.date ≤ b.date)
    (fun a b : KisDailyPrice => a.date ≤ b.date) (rescale c scaleVolume) bars
    fun _ _ _ _ => Iff.rfl).symm

theorem abs_mul_of_pos (hc : 0 < c) (value : ℚ) : |c * value| = c * |value| := by
  rw [abs_mul, abs_of_pos hc]

theorem trueRange_rescale (hc : 0 < c) (bar previous : KisDailyPrice) :
    trueRange (rescale c scaleVolume bar) (rescale c scaleVolume previous) =
      c * trueRange bar previous := by
  simp only [trueRange, rescale, ← mul_sub, abs_mul_of_pos hc, ← mul_max_of_nonneg _ _ hc.le]

theorem computeAtr14_map (hc : 0 < c) (period : Nat) :
    computeAtr14 (bars.map (rescale c scaleVolume)) period = times c (computeAtr14 bars period) := by
  have hRanges : adjacent trueRange ((byDate bars).map (rescale c scaleVolume)) =
      scaled c (adjacent trueRange (byDate bars)) := adjacent_map (trueRange_rescale hc) _
  simp only [computeAtr14, List.length_map, byDate_map, hRanges, length_scaled, wilder_scaled]
  split
  · rfl
  · split <;> rfl

theorem body_rescale (hc : 0 < c) : (rescale c scaleVolume bar).body = c * bar.body := by
  simp only [KisDailyPrice.body, rescale, ← mul_sub, abs_mul_of_pos hc]

theorem range_rescale : (rescale c scaleVolume bar).range = c * bar.range :=
  (mul_sub c bar.high bar.low).symm

theorem upperShadow_rescale (hc : 0 < c) :
    (rescale c scaleVolume bar).upperShadow = c * bar.upperShadow := by
  simp only [KisDailyPrice.upperShadow, rescale, ← mul_max_of_nonneg _ _ hc.le, mul_sub]

theorem lowerShadow_rescale (hc : 0 < c) :
    (rescale c scaleVolume bar).lowerShadow = c * bar.lowerShadow := by
  simp only [KisDailyPrice.lowerShadow, rescale, ← mul_min_of_nonneg _ _ hc.le, mul_sub]

theorem detectDoji_rescale (hc : 0 < c) (bodyPctOfClose : ℚ) :
    detectDoji (rescale c scaleVolume bar) bodyPctOfClose = detectDoji bar bodyPctOfClose := by
  have hLimit : c * bar.close * bodyPctOfClose / 100 = c * (bar.close * bodyPctOfClose / 100) := by
    ring
  have hClose : (rescale c scaleVolume bar).close = c * bar.close := rfl
  simp only [detectDoji, hClose, hLimit, body_rescale hc, mul_nonpos_iff_of_pos hc,
    mul_le_mul_iff_right₀ hc]

theorem detectHammer_rescale (hc : 0 < c) :
    detectHammer (rescale c scaleVolume bar) = detectHammer bar := by
  simp only [detectHammer, body_rescale hc, range_rescale, upperShadow_rescale hc,
    lowerShadow_rescale hc, mul_eq_zero, hc.ne', false_or, mul_div_mul_left _ _ hc.ne', mul_assoc,
    mul_le_mul_iff_right₀ hc]

theorem detectShootingStar_rescale (hc : 0 < c) :
    detectShootingStar (rescale c scaleVolume bar) = detectShootingStar bar := by
  simp only [detectShootingStar, body_rescale hc, range_rescale, upperShadow_rescale hc,
    lowerShadow_rescale hc, mul_eq_zero, hc.ne', false_or, mul_div_mul_left _ _ hc.ne', mul_assoc,
    mul_le_mul_iff_right₀ hc]

theorem detectBullishEngulfing_rescale (hc : 0 < c) :
    detectBullishEngulfing (rescale c scaleVolume prev) (rescale c scaleVolume bar) =
      detectBullishEngulfing prev bar := by
  simp only [detectBullishEngulfing, rescale, mul_le_mul_iff_right₀ hc]

theorem detectBearishEngulfing_rescale (hc : 0 < c) :
    detectBearishEngulfing (rescale c scaleVolume prev) (rescale c scaleVolume bar) =
      detectBearishEngulfing prev bar := by
  simp only [detectBearishEngulfing, rescale, mul_le_mul_iff_right₀ hc]

theorem detectCandlePatterns_map (hc : 0 < c) :
    detectCandlePatterns (bars.map (rescale c scaleVolume)) = detectCandlePatterns bars := by
  simp only [detectCandlePatterns, secondLast, byDate_map, List.getLast?_map, ← List.map_dropLast]
  cases (byDate bars).getLast? with
  | none => rfl
  | some last =>
    cases (byDate bars).dropLast.getLast? with
    | none =>
      simp only [Option.map_some, Option.map_none, detectDoji_rescale hc, detectHammer_rescale hc,
        detectShootingStar_rescale hc]
    | some prev =>
      simp only [Option.map_some, detectDoji_rescale hc, detectHammer_rescale hc,
        detectShootingStar_rescale hc, detectBullishEngulfing_rescale hc,
        detectBearishEngulfing_rescale hc]

end Bars

section Snapshots

open TechnicalAnalyzer

variable {c d : ℚ} {scaleVolume : Int → Int} {bars bars' : List KisDailyPrice}

/-- A snapshot in another unit of prices. -/
def IndicatorSnapshot.times (c : ℚ) (snapshot : IndicatorSnapshot) : IndicatorSnapshot :=
  { snapshot with
    ma5 := Analysis.times c snapshot.ma5
    ma20 := Analysis.times c snapshot.ma20
    ma60 := Analysis.times c snapshot.ma60
    ma120 := Analysis.times c snapshot.ma120
    macd := Analysis.times c snapshot.macd
    macdSignal := Analysis.times c snapshot.macdSignal
    atr14 := Analysis.times c snapshot.atr14 }

/-- The same bars in other units and in any order. -/
def Rescaled (c d : ℚ) (bars bars' : List KisDailyPrice) : Prop :=
  ∃ scaleVolume : Int → Int, (∀ bar ∈ bars, (scaleVolume bar.volume : ℚ) = d * bar.volume) ∧
    bars'.Perm (bars.map (rescale c scaleVolume))

theorem measure_map (hc : 0 < c) (hd : 0 < d)
    (hVolumes : ∀ bar ∈ bars, (scaleVolume bar.volume : ℚ) = d * bar.volume) (last : KisDailyPrice) :
    TechnicalAnalyzer.measure (bars.map (rescale c scaleVolume)) (rescale c scaleVolume last) =
      (TechnicalAnalyzer.measure bars last).times c := by
  have hCloses : (bars.map (rescale c scaleVolume)).map (·.close) =
      scaled c (bars.map (·.close)) := by
    rw [scaled, List.map_map, List.map_map]
    rfl
  have hHighs : (bars.map (rescale c scaleVolume)).map (·.high) =
      scaled c (bars.map (·.high)) := by
    rw [scaled, List.map_map, List.map_map]
    rfl
  have hScaled : (bars.map (rescale c scaleVolume)).map KisDailyPrice.volume =
      (bars.map KisDailyPrice.volume).map scaleVolume := by
    rw [List.map_map, List.map_map]
    rfl
  have hRatio := computeVolumeRatio20d_map hd (List.forall_mem_map.mpr hVolumes) 20
  have hLast : (rescale c scaleVolume last).close = c * last.close := rfl
  have hClose : some (c * last.close) = times c (some last.close) := rfl
  simp only [TechnicalAnalyzer.measure, hCloses, hHighs, hScaled, hRatio, hLast, hClose,
    simpleMovingAverage_scaled, relativeStrengthIndex_scaled hc, computeMacd_scaled, computeBreakout_scaled hc,
    classifyMaAlignment_times hc, computeAtr14_map hc, detectCandlePatterns_map hc,
    classifyVolatility_times hc, Prod.map_fst, Prod.map_snd, calculateTechnicalScore,
    crossed_times hc]
  rfl

theorem eq_of_date (hDates : (bars.map (·.date)).Nodup) {a b : KisDailyPrice}
    (ha : a ∈ bars) (hb : b ∈ bars) (hDate : a.date = b.date) : a = b :=
  List.inj_on_of_nodup_map hDates ha hb hDate

/-- The order of bars with distinct dates does not matter. -/
theorem byDate_eq_of_perm (hDates : (bars.map (·.date)).Nodup) (h : bars.Perm bars') :
    byDate bars = byDate bars' :=
  insertionSort_eq_of_perm (fun a b : KisDailyPrice => a.date ≤ b.date) h
    fun _ ha _ hb hab hba => eq_of_date hDates ha hb (le_antisymm hab hba)

theorem measureLatest_of_rescaled (hc : 0 < c) (hd : 0 < d)
    (hDates : (bars.map (·.date)).Nodup) (h : Rescaled c d bars bars') :
    measureLatest bars' = (measureLatest bars).map (IndicatorSnapshot.times c) := by
  obtain ⟨scaleVolume, hVolumes, hPerm⟩ := h
  have hDates' : ((bars.map (rescale c scaleVolume)).map (·.date)).Nodup := by
    rw [List.map_map]
    exact hDates
  have hSorted : byDate bars' = (byDate bars).map (rescale c scaleVolume) := by
    rw [← byDate_map]
    exact (byDate_eq_of_perm hDates' hPerm.symm).symm
  have hSortedVolumes : ∀ bar ∈ byDate bars, (scaleVolume bar.volume : ℚ) = d * bar.volume := by
    intro bar hBar
    exact hVolumes bar ((List.mem_insertionSort _).mp hBar)
  rw [measureLatest, measureLatest, hSorted, List.getLast?_map]
  cases (byDate bars).getLast? with
  | none => rfl
  | some last => exact congrArg some (measure_map hc hd hSortedVolumes last)

theorem clampScore_bounds (score : ℚ) : 0 ≤ clampScore score ∧ clampScore score ≤ 100 := by
  rw [clampScore]
  split
  · exact ⟨le_refl 0, by norm_num⟩
  · split
    · exact ⟨by norm_num, le_refl 100⟩
    · exact ⟨not_lt.mp ‹_›, not_lt.mp ‹_›⟩

theorem technicalScore_bounds {snapshot : IndicatorSnapshot}
    (h : measureLatest bars = some snapshot) :
    0 ≤ snapshot.technicalScore ∧ snapshot.technicalScore ≤ 100 := by
  obtain ⟨last, -, rfl⟩ := Option.map_eq_some_iff.mp h
  exact clampScore_bounds _

theorem technicalScore_bounds_rounded {snapshot : IndicatorSnapshot}
    (h : analyzeLatest bars = some snapshot) :
    0 ≤ snapshot.technicalScore ∧ snapshot.technicalScore ≤ 100 := by
  obtain ⟨measured, hMeasured, rfl⟩ := Option.map_eq_some_iff.mp h
  obtain ⟨hLow, hHigh⟩ := technicalScore_bounds hMeasured
  have hBounds := @quantize_bounds measured.technicalScore 4 100 hLow (by exact_mod_cast hHigh)
  exact_mod_cast hBounds

/-- Averages, MACD, signal and range are multiplied by the factor on the prices, and nothing else
of the snapshot changes. -/
theorem indicators_rescaled (c d : ℚ) (bars bars' : List KisDailyPrice) (hc : 0 < c) (hd : 0 < d)
    (hDates : (bars.map (·.date)).Nodup) (h : Rescaled c d bars bars') :
    measureLatest bars' = (measureLatest bars).map (IndicatorSnapshot.times c) ∧
      ∀ (others : List KisDailyPrice) (snapshot : IndicatorSnapshot),
        measureLatest others = some snapshot ∨ analyzeLatest others = some snapshot →
        0 ≤ snapshot.technicalScore ∧ snapshot.technicalScore ≤ 100 := by
  refine ⟨measureLatest_of_rescaled hc hd hDates h, ?_⟩
  rintro others snapshot (hMeasured | hRounded)
  · exact technicalScore_bounds hMeasured
  · exact technicalScore_bounds_rounded hRounded

def firstDay : KisDailyPrice := ⟨⟨"005930", 1, 100, 110, 90, 104⟩, 1000⟩

def secondDay : KisDailyPrice := ⟨⟨"005930", 2, 104, 120, 100, 118⟩, 3000⟩

/-- After a split of one share into two. -/
def halvedFirst : KisDailyPrice := ⟨⟨"005930", 1, 50, 55, 45, 52⟩, 2000⟩

def halvedSecond : KisDailyPrice := ⟨⟨"005930", 2, 52, 60, 50, 59⟩, 6000⟩

theorem rescaled_split :
    Rescaled (1 / 2) 2 [firstDay, secondDay] [halvedSecond, halvedFirst] := by
  refine ⟨fun volume => 2 * volume, fun bar _ => by push_cast; rfl, ?_⟩
  have hHalves : [firstDay, secondDay].map (rescale (1 / 2) fun volume => 2 * volume) =
      [halvedFirst, halvedSecond] := by decide +kernel
  rw [hHalves]
  exact List.Perm.swap _ _ _

theorem indicators_rescaled_split : (0 < (1 / 2 : ℚ) ∧ 0 < (2 : ℚ)) ∧
    measureLatest [halvedSecond, halvedFirst] =
      (measureLatest [firstDay, secondDay]).map (IndicatorSnapshot.times (1 / 2)) ∧
      ∀ (others : List KisDailyPrice) (snapshot : IndicatorSnapshot),
        measureLatest others = some snapshot ∨ analyzeLatest others = some snapshot →
        0 ≤ snapshot.technicalScore ∧ snapshot.technicalScore ≤ 100 :=
  ⟨⟨by decide +kernel, by decide +kernel⟩,
    indicators_rescaled (1 / 2) 2 [firstDay, secondDay] [halvedSecond, halvedFirst]
      (by decide +kernel) (by decide +kernel) (by decide) rescaled_split⟩

end Snapshots

end StockAiPlatform.Analysis
