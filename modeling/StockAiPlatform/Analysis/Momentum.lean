import StockAiPlatform.Analysis.TechnicalAnalyzer
import Mathlib.Tactic.FieldSimp
import Mathlib.Tactic.Linarith
import Mathlib.Tactic.NormNum
import Mathlib.Tactic.Positivity

/-! # The laws of the strength index and the moving averages

The index weighs an average gain against an average loss and reads the mirrored
series the other way round. An average is a mean of what it has read, and the
two averages under the MACD are read at the same bar.
-/

namespace StockAiPlatform.Analysis
set_option autoImplicit false

open Series

section Strength

def differences (closes : List ℚ) : List ℚ := adjacent (fun close previous => close - previous) closes

def averageGain (closes : List ℚ) (period : Nat) : ℚ := wilder period ((differences closes).map gain)

def averageLoss (closes : List ℚ) (period : Nat) : ℚ := wilder period ((differences closes).map loss)

/-- The index of two averages. -/
def strength (avgGain avgLoss : ℚ) : ℚ :=
  if avgLoss = 0 then (if avgGain = 0 then 50 else 100) else 100 - 100 / (1 + avgGain / avgLoss)

/-- The closes turned upside down at the first of them. -/
def mirrored : List ℚ → List ℚ
  | [] => []
  | first :: closes => (first :: closes).map fun close => 2 * first - close

variable {closes : List ℚ} {period : Nat}

theorem relativeStrengthIndex_eq (hPeriod : 1 ≤ period) (hLength : period < closes.length) :
    relativeStrengthIndex closes period =
      some (strength (averageGain closes period) (averageLoss closes period)) := by
  rw [relativeStrengthIndex, if_neg]
  · rfl
  · omega

@[simp] theorem length_mirrored (closes : List ℚ) : (mirrored closes).length = closes.length := by
  cases closes with
  | nil => rfl
  | cons first closes => exact List.length_map _

theorem gain_nonneg (difference : ℚ) : 0 ≤ gain difference := by
  rw [gain]
  split <;> linarith

theorem loss_nonneg (difference : ℚ) : 0 ≤ loss difference := by
  rw [loss]
  split <;> linarith

theorem gain_neg (difference : ℚ) : gain (-difference) = loss difference := by
  rw [gain, loss]
  split <;> split <;> linarith

theorem loss_neg (difference : ℚ) : loss (-difference) = gain difference := by
  rw [← gain_neg, neg_neg]

theorem differences_mirrored (closes : List ℚ) :
    differences (mirrored closes) = (differences closes).map fun difference => -difference := by
  cases closes with
  | nil => rfl
  | cons first closes =>
    apply adjacent_map
    intro close previous
    ring

/-- Where the series rose the mirrored one fell by as much. -/
theorem averageGain_mirrored (closes : List ℚ) (period : Nat) :
    averageGain (mirrored closes) period = averageLoss closes period := by
  rw [averageGain, differences_mirrored, List.map_map, averageLoss]
  exact congrArg (wilder period) (List.map_congr_left fun difference _ => gain_neg difference)

theorem averageLoss_mirrored (closes : List ℚ) (period : Nat) :
    averageLoss (mirrored closes) period = averageGain closes period := by
  rw [averageLoss, differences_mirrored, List.map_map, averageGain]
  exact congrArg (wilder period) (List.map_congr_left fun difference _ => loss_neg difference)

theorem averageGain_nonneg (hPeriod : 1 ≤ period) : 0 ≤ averageGain closes period := by
  apply wilder_nonneg hPeriod
  intro value hValue
  obtain ⟨difference, -, rfl⟩ := List.mem_map.mp hValue
  exact gain_nonneg difference

theorem averageLoss_nonneg (hPeriod : 1 ≤ period) : 0 ≤ averageLoss closes period := by
  apply wilder_nonneg hPeriod
  intro value hValue
  obtain ⟨difference, -, rfl⟩ := List.mem_map.mp hValue
  exact loss_nonneg difference

variable {avgGain avgLoss : ℚ}

/-- Away from two averages of zero the index is the share of the gain. -/
theorem strength_eq_share (hSum : 0 < avgGain + avgLoss) :
    strength avgGain avgLoss = 100 * avgGain / (avgGain + avgLoss) := by
  rw [strength]
  split
  case isTrue hZero =>
    have hGainNe : avgGain ≠ 0 := by
      rintro rfl
      rw [hZero, add_zero] at hSum
      exact lt_irrefl 0 hSum
    rw [if_neg hGainNe, hZero, add_zero, mul_div_cancel_right₀ _ hGainNe]
  case isFalse hLossNe =>
    have hSumNe : avgLoss + avgGain ≠ 0 := by
      rw [add_comm]
      exact hSum.ne'
    have hRatio : 1 + avgGain / avgLoss = (avgLoss + avgGain) / avgLoss := by
      rw [add_div, div_self hLossNe]
    rw [hRatio, add_comm avgGain]
    field_simp
    ring

theorem strength_zero_zero : strength 0 0 = 50 := by
  rw [strength, if_pos rfl, if_pos rfl]

theorem sum_pos_or_both_zero (hGain : 0 ≤ avgGain) (hLoss : 0 ≤ avgLoss) :
    0 < avgGain + avgLoss ∨ avgGain = 0 ∧ avgLoss = 0 := by
  rcases (add_nonneg hGain hLoss).lt_or_eq with hSum | hSum
  · exact .inl hSum
  · exact .inr ((add_eq_zero_iff_of_nonneg hGain hLoss).mp hSum.symm)

theorem strength_bounds (hGain : 0 ≤ avgGain) (hLoss : 0 ≤ avgLoss) :
    0 ≤ strength avgGain avgLoss ∧ strength avgGain avgLoss ≤ 100 := by
  obtain hSum | ⟨rfl, rfl⟩ := sum_pos_or_both_zero hGain hLoss
  · rw [strength_eq_share hSum]
    constructor
    · exact div_nonneg (mul_nonneg (by norm_num) hGain) hSum.le
    · rw [div_le_iff₀ hSum]
      linarith
  · rw [strength_zero_zero]
    norm_num

theorem strength_swap (hGain : 0 ≤ avgGain) (hLoss : 0 ≤ avgLoss) :
    strength avgLoss avgGain = 100 - strength avgGain avgLoss := by
  obtain hSum | ⟨rfl, rfl⟩ := sum_pos_or_both_zero hGain hLoss
  · have hSwap : 0 < avgLoss + avgGain := by rwa [add_comm]
    rw [strength_eq_share hSwap, strength_eq_share hSum, add_comm avgLoss]
    field_simp
    ring
  · rw [strength_zero_zero]
    norm_num

theorem strength_eq_fifty_iff (hGain : 0 ≤ avgGain) (hLoss : 0 ≤ avgLoss) :
    strength avgGain avgLoss = 50 ↔ avgGain = avgLoss := by
  obtain hSum | ⟨rfl, rfl⟩ := sum_pos_or_both_zero hGain hLoss
  · rw [strength_eq_share hSum, div_eq_iff hSum.ne']
    constructor
    · intro hHalf
      linarith
    · intro hSame
      linarith
  · exact iff_of_true strength_zero_zero rfl

/-- The index lies between 0 and 100, is taken from 100 by mirroring, and is 50 exactly when the
averages are equal. -/
theorem relativeStrengthIndex_mirror (closes : List ℚ) (period : Nat) (hPeriod : 1 ≤ period)
    (hLength : period < closes.length) :
    ∃ rsi, relativeStrengthIndex closes period = some rsi ∧ (0 ≤ rsi ∧ rsi ≤ 100) ∧
      relativeStrengthIndex (mirrored closes) period = some (100 - rsi) ∧
      (rsi = 50 ↔ averageGain closes period = averageLoss closes period) := by
  have hGain : 0 ≤ averageGain closes period := averageGain_nonneg hPeriod
  have hLoss : 0 ≤ averageLoss closes period := averageLoss_nonneg hPeriod
  refine ⟨_, relativeStrengthIndex_eq hPeriod hLength, strength_bounds hGain hLoss, ?_,
    strength_eq_fifty_iff hGain hLoss⟩
  have hMirrored : period < (mirrored closes).length := by rwa [length_mirrored]
  rw [relativeStrengthIndex_eq hPeriod hMirrored, averageGain_mirrored, averageLoss_mirrored,
    strength_swap hGain hLoss]

theorem relativeStrengthIndex_mirror_three :
    ∃ rsi, relativeStrengthIndex [10, 12, 11] 2 = some rsi ∧ (0 ≤ rsi ∧ rsi ≤ 100) ∧
      relativeStrengthIndex (mirrored [10, 12, 11]) 2 = some (100 - rsi) ∧
      (rsi = 50 ↔ averageGain [10, 12, 11] 2 = averageLoss [10, 12, 11] 2) :=
  relativeStrengthIndex_mirror [10, 12, 11] 2 (by decide) (by decide)

end Strength

section Averages

/-- The average after the last of the values, from the mean of the first `period` of them. -/
def averageOf (period : Nat) (values : List ℚ) : ℚ :=
  (values.drop period).foldl
    (fun average value => value * (2 / (period + 1)) + average * (1 - 2 / (period + 1)))
    ((values.take period).sum / period)

/-- The differences of which `computeMacd` takes the last and the signal. -/
def macdSeries (fastSeries slowSeries : List ℚ) : List ℚ :=
  List.zipWith (fun f s => f - s) (lastValues slowSeries.length fastSeries) slowSeries

variable {values series closes : List ℚ} {period k : Nat}

theorem exponentialMovingAverage_isSome (hPeriod : 1 ≤ period) (hLength : period ≤ values.length) :
    ∃ series, exponentialMovingAverage values period = some series := by
  rw [exponentialMovingAverage, if_neg]
  · exact ⟨_, rfl⟩
  · omega

theorem eq_emaSeries (hSeries : exponentialMovingAverage values period = some series) :
    series = emaSeries (2 / (period + 1) : ℚ) ((values.take period).sum / period)
      (values.drop period) := by
  rw [exponentialMovingAverage] at hSeries
  split at hSeries
  · exact nomatch hSeries
  · exact (Option.some.inj hSeries).symm

theorem length_average (hSeries : exponentialMovingAverage values period = some series) :
    series.length = values.length - period + 1 := by
  rw [eq_emaSeries hSeries, length_emaSeries, List.length_drop]

/-- The `k`-th average is that of the values up to its bar. -/
theorem getElem?_average (hSeries : exponentialMovingAverage values period = some series)
    (hk : k ≤ values.length - period) :
    series[k]? = some (averageOf period (values.take (period + k))) := by
  have hTail : (values.take (period + k)).drop period = (values.drop period).take k := by
    rw [List.drop_take, Nat.add_sub_cancel_left]
  have hHead : (values.take (period + k)).take period = values.take period := by
    rw [List.take_take, Nat.min_eq_left (Nat.le_add_right period k)]
  have hBound : k ≤ (values.drop period).length := by rwa [List.length_drop]
  rw [eq_emaSeries hSeries, getElem?_emaSeries _ _ hBound, averageOf, hTail, hHead]

theorem averageOf_mem_Icc {lo hi : ℚ} (hPeriod : 1 ≤ period) (hLength : period ≤ values.length)
    (hValues : ∀ value ∈ values, value ∈ Set.Icc lo hi) : averageOf period values ∈ Set.Icc lo hi := by
  have hTake : (values.take period).length = period := List.length_take_of_le hLength
  have hNil : values.take period ≠ [] := by
    intro hNil
    rw [hNil] at hTake
    exact absurd hTake.symm (Nat.one_le_iff_ne_zero.mp hPeriod)
  have hSeed : (values.take period).sum / period ∈ Set.Icc lo hi := by
    have hMean := mean_mem_Icc (fun value hValue => hValues value (List.mem_of_mem_take hValue)) hNil
    rwa [hTake] at hMean
  have hCast : (1 : ℚ) ≤ period := Nat.one_le_cast.mpr hPeriod
  have hAlpha : (0 : ℚ) ≤ 2 / (period + 1) := by positivity
  have hRest : (0 : ℚ) ≤ 1 - 2 / (period + 1) := by
    rw [sub_nonneg, div_le_one (by linarith)]
    linarith
  apply List.foldlRecOn (motive := fun average : ℚ => average ∈ Set.Icc lo hi) _ _ hSeed
  intro average hAverage value hValue
  have hValue : value ∈ Set.Icc lo hi := hValues value (List.mem_of_mem_drop hValue)
  constructor
  · nlinarith [mul_le_mul_of_nonneg_right hValue.1 hAlpha, mul_le_mul_of_nonneg_right hAverage.1 hRest]
  · nlinarith [mul_le_mul_of_nonneg_right hValue.2 hAlpha, mul_le_mul_of_nonneg_right hAverage.2 hRest]

theorem min?_le_and_le_max? (hNil : values ≠ []) :
    ∃ lo hi, values.min? = some lo ∧ values.max? = some hi ∧
      ∀ value ∈ values, value ∈ Set.Icc lo hi := by
  obtain ⟨lo, hLo⟩ := Option.isSome_iff_exists.mp (List.isSome_min?_of_ne_nil hNil)
  obtain ⟨hi, hHi⟩ := Option.isSome_iff_exists.mp (List.isSome_max?_of_ne_nil hNil)
  refine ⟨lo, hi, hLo, hHi, ?_⟩
  intro value hValue
  exact ⟨(List.min?_eq_some_iff.mp hLo).2 value hValue, (List.max?_eq_some_iff.mp hHi).2 value hValue⟩

/-- The averages of a series: one for each bar from the first full period on, each made of what came
up to its bar and no further out than that. -/
structure CausalAverages (values : List ℚ) (period : Nat) (series : List ℚ) : Prop where
  length : series.length = values.length - period + 1
  causal : ∀ k x, series[k]? = some x →
    ∀ others, others.take (period + k) = values.take (period + k) →
      ∃ other, exponentialMovingAverage others period = some other ∧ other[k]? = some x
  convex : ∀ k x, series[k]? = some x →
    ∃ lo hi, (values.take (period + k)).min? = some lo ∧ (values.take (period + k)).max? = some hi ∧
      lo ≤ x ∧ x ≤ hi

theorem causalAverages (hPeriod : 1 ≤ period) (hLength : period ≤ values.length)
    (hSeries : exponentialMovingAverage values period = some series) :
    CausalAverages values period series where
  length := length_average hSeries
  causal k x hx others hOthers := by
    have hk : k < values.length - period + 1 :=
      length_average hSeries ▸ (List.getElem?_eq_some_iff.mp hx).1
    have hOther : period + k ≤ others.length := by
      have hTaken := congrArg List.length hOthers
      rw [List.length_take, List.length_take] at hTaken
      omega
    obtain ⟨other, hOtherSeries⟩ :=
      exponentialMovingAverage_isSome hPeriod ((Nat.le_add_right period k).trans hOther)
    refine ⟨other, hOtherSeries, ?_⟩
    rw [← hx, getElem?_average hSeries (by omega), getElem?_average hOtherSeries (by omega), hOthers]
  convex k x hx := by
    have hk : k < values.length - period + 1 :=
      length_average hSeries ▸ (List.getElem?_eq_some_iff.mp hx).1
    have hTaken : (values.take (period + k)).length = period + k := by
      apply List.length_take_of_le
      omega
    have hNil : values.take (period + k) ≠ [] := by
      apply List.ne_nil_of_length_pos
      omega
    obtain ⟨lo, hi, hLo, hHi, hBetween⟩ := min?_le_and_le_max? hNil
    rw [getElem?_average hSeries (by omega)] at hx
    obtain rfl := Option.some.inj hx
    exact ⟨lo, hi, hLo, hHi, averageOf_mem_Icc hPeriod (by omega) hBetween⟩

theorem average_replicate (hPeriod : 1 ≤ period) {n : Nat} (hLength : period ≤ n) (value : ℚ) :
    exponentialMovingAverage (List.replicate n value) period =
      some (List.replicate (n - period + 1) value) := by
  have hSeed : (List.replicate period value).sum / period = value := by
    have hPositive : (period : ℚ) ≠ 0 := Nat.cast_ne_zero.mpr (Nat.one_le_iff_ne_zero.mp hPeriod)
    rw [List.sum_replicate, nsmul_eq_mul, mul_div_cancel_left₀ _ hPositive]
  rw [exponentialMovingAverage, if_neg, List.take_replicate, Nat.min_eq_left hLength, hSeed,
    List.drop_replicate, emaSeries_replicate]
  rw [List.length_replicate]
  omega

variable {fastSeries slowSeries : List ℚ} {fastPeriod slowPeriod signalPeriod : Nat}

theorem length_macdSeries (h : slowSeries.length ≤ fastSeries.length) :
    (macdSeries fastSeries slowSeries).length = slowSeries.length := by
  rw [macdSeries, List.length_zipWith, lastValues, List.length_drop]
  omega

/-- The fast averages are read from as far in as they are longer. -/
theorem getElem?_macdSeries {f s : ℚ}
    (hFast : fastSeries[fastSeries.length - slowSeries.length + k]? = some f)
    (hSlow : slowSeries[k]? = some s) : (macdSeries fastSeries slowSeries)[k]? = some (f - s) := by
  rw [macdSeries, List.getElem?_zipWith, lastValues, List.getElem?_drop, hFast, hSlow]

theorem computeMacd_eq (hSlow : slowPeriod ≤ closes.length)
    (hFastSeries : exponentialMovingAverage closes fastPeriod = some fastSeries)
    (hSlowSeries : exponentialMovingAverage closes slowPeriod = some slowSeries) :
    computeMacd closes fastPeriod slowPeriod signalPeriod =
      ((macdSeries fastSeries slowSeries).getLast?,
        if (macdSeries fastSeries slowSeries).length < signalPeriod then none
        else (exponentialMovingAverage (macdSeries fastSeries slowSeries) signalPeriod).bind
          List.getLast?) := by
  rw [computeMacd, if_neg (Nat.not_lt.mpr hSlow), hFastSeries, hSlowSeries]
  exact (apply_ite (Prod.mk (macdSeries fastSeries slowSeries).getLast?) _ _ _).symm

/-- What `computeMacd` makes of two series of averages: differences of the averages of one bar,
the last of them, and nothing at all when the closes stand still. -/
structure AlignedMacd (closes : List ℚ) (fastPeriod slowPeriod signalPeriod : Nat)
    (fastSeries slowSeries macd : List ℚ) : Prop where
  result : computeMacd closes fastPeriod slowPeriod signalPeriod =
    (macd.getLast?, if macd.length < signalPeriod then none
      else (exponentialMovingAverage macd signalPeriod).bind List.getLast?)
  length : macd.length = closes.length - slowPeriod + 1
  aligned : ∀ bar < closes.length, slowPeriod ≤ bar + 1 →
    ∃ f s, fastSeries[bar + 1 - fastPeriod]? = some f ∧ slowSeries[bar + 1 - slowPeriod]? = some s ∧
      macd[bar + 1 - slowPeriod]? = some (f - s)
  last : ∃ f s, fastSeries.getLast? = some f ∧ slowSeries.getLast? = some s ∧
    (computeMacd closes fastPeriod slowPeriod signalPeriod).1 = some (f - s)
  constant : ∀ value, closes = List.replicate closes.length value →
    computeMacd closes fastPeriod slowPeriod signalPeriod =
      (some 0, if closes.length - slowPeriod + 1 < signalPeriod then none else some 0)

theorem getLast?_replicate_succ (n : Nat) (value : ℚ) :
    (List.replicate (n + 1) value).getLast? = some value := by
  rw [List.getLast?_replicate, if_neg (Nat.succ_ne_zero n)]

theorem macd_replicate (hFast : 1 ≤ fastPeriod) (hOrder : fastPeriod ≤ slowPeriod)
    (hSignal : 1 ≤ signalPeriod) {n : Nat} (hLength : slowPeriod ≤ n) (value : ℚ) :
    computeMacd (List.replicate n value) fastPeriod slowPeriod signalPeriod =
      (some 0, if n - slowPeriod + 1 < signalPeriod then none else some 0) := by
  have hSlow : slowPeriod ≤ (List.replicate n value).length := by rwa [List.length_replicate]
  have hZero : macdSeries (List.replicate (n - fastPeriod + 1) value)
      (List.replicate (n - slowPeriod + 1) value) = List.replicate (n - slowPeriod + 1) 0 := by
    have hTail : n - fastPeriod + 1 - (n - fastPeriod + 1 - (n - slowPeriod + 1)) =
        n - slowPeriod + 1 := by omega
    rw [macdSeries, lastValues, List.drop_replicate, List.length_replicate, List.length_replicate,
      hTail, List.zipWith_replicate', sub_self]
  rw [computeMacd_eq hSlow (average_replicate hFast (hOrder.trans hLength) value)
    (average_replicate (hFast.trans hOrder) hLength value), hZero, List.length_replicate]
  refine Prod.ext (getLast?_replicate_succ _ _) ?_
  split
  case isTrue hShort => rfl
  case isFalse hLong =>
    rw [average_replicate hSignal (Nat.not_lt.mp hLong)]
    exact getLast?_replicate_succ _ _

theorem macdSeries_aligned (hOrder : fastPeriod ≤ slowPeriod)
    (hFastSeries : exponentialMovingAverage closes fastPeriod = some fastSeries)
    (hSlowSeries : exponentialMovingAverage closes slowPeriod = some slowSeries)
    {bar : Nat} (hBar : bar < closes.length) (hSlow : slowPeriod ≤ bar + 1) :
    ∃ f s, fastSeries[bar + 1 - fastPeriod]? = some f ∧ slowSeries[bar + 1 - slowPeriod]? = some s ∧
      (macdSeries fastSeries slowSeries)[bar + 1 - slowPeriod]? = some (f - s) := by
  have hFastLength := length_average hFastSeries
  have hSlowLength := length_average hSlowSeries
  have hSame : fastSeries.length - slowSeries.length + (bar + 1 - slowPeriod) =
      bar + 1 - fastPeriod := by omega
  have hFastBar := getElem?_average hFastSeries (show bar + 1 - fastPeriod ≤ _ by omega)
  have hSlowBar := getElem?_average hSlowSeries (show bar + 1 - slowPeriod ≤ _ by omega)
  exact ⟨_, _, hFastBar, hSlowBar, getElem?_macdSeries (hSame ▸ hFastBar) hSlowBar⟩

theorem alignedMacd (hFast : 1 ≤ fastPeriod) (hOrder : fastPeriod ≤ slowPeriod)
    (hSignal : 1 ≤ signalPeriod) (hLength : slowPeriod ≤ closes.length)
    (hFastSeries : exponentialMovingAverage closes fastPeriod = some fastSeries)
    (hSlowSeries : exponentialMovingAverage closes slowPeriod = some slowSeries) :
    AlignedMacd closes fastPeriod slowPeriod signalPeriod fastSeries slowSeries
      (macdSeries fastSeries slowSeries) := by
  have hFastLength := length_average hFastSeries
  have hSlowLength := length_average hSlowSeries
  have hMacdLength : (macdSeries fastSeries slowSeries).length = closes.length - slowPeriod + 1 := by
    rw [length_macdSeries (by omega), hSlowLength]
  refine ⟨computeMacd_eq hLength hFastSeries hSlowSeries, hMacdLength, ?_, ?_, ?_⟩
  · intro bar hBar hSlow
    exact macdSeries_aligned hOrder hFastSeries hSlowSeries hBar hSlow
  · -- the last of each series is its element at the last bar
    obtain ⟨f, s, hF, hS, hMacd⟩ := macdSeries_aligned hOrder hFastSeries hSlowSeries
      (show closes.length - 1 < closes.length by omega) (by omega)
    have hBar : closes.length - 1 + 1 = closes.length := by omega
    rw [hBar] at hF hS hMacd
    refine ⟨f, s, ?_, ?_, ?_⟩
    · rw [List.getLast?_eq_getElem?, hFastLength, Nat.add_sub_cancel, hF]
    · rw [List.getLast?_eq_getElem?, hSlowLength, Nat.add_sub_cancel, hS]
    · rw [computeMacd_eq hLength hFastSeries hSlowSeries, List.getLast?_eq_getElem?, hMacdLength,
        Nat.add_sub_cancel, hMacd]
  · intro value hConstant
    rw [hConstant, List.length_replicate]
    exact macd_replicate hFast hOrder hSignal hLength value

/-- The averages are causal and convex, and the MACD subtracts averages of the same bar. -/
theorem movingAverages_aligned :
    (∀ (values : List ℚ) (period : Nat), 1 ≤ period → period ≤ values.length →
      ∃ series, exponentialMovingAverage values period = some series ∧
        CausalAverages values period series) ∧
    ∀ (closes : List ℚ) (fastPeriod slowPeriod signalPeriod : Nat), 1 ≤ fastPeriod →
      fastPeriod ≤ slowPeriod → 1 ≤ signalPeriod → slowPeriod ≤ closes.length →
      ∃ fastSeries slowSeries macd, exponentialMovingAverage closes fastPeriod = some fastSeries ∧
        exponentialMovingAverage closes slowPeriod = some slowSeries ∧
        AlignedMacd closes fastPeriod slowPeriod signalPeriod fastSeries slowSeries macd := by
  constructor
  · intro values period hPeriod hLength
    obtain ⟨series, hSeries⟩ := exponentialMovingAverage_isSome hPeriod hLength
    exact ⟨series, hSeries, causalAverages hPeriod hLength hSeries⟩
  · intro closes fastPeriod slowPeriod signalPeriod hFast hOrder hSignal hLength
    obtain ⟨fastSeries, hFastSeries⟩ := exponentialMovingAverage_isSome hFast (hOrder.trans hLength)
    obtain ⟨slowSeries, hSlowSeries⟩ := exponentialMovingAverage_isSome (hFast.trans hOrder) hLength
    exact ⟨fastSeries, slowSeries, _, hFastSeries, hSlowSeries,
      alignedMacd hFast hOrder hSignal hLength hFastSeries hSlowSeries⟩

theorem movingAverages_aligned_four :
    (∃ series, exponentialMovingAverage [1, 3, 2, 6] 2 = some series ∧
      CausalAverages [1, 3, 2, 6] 2 series) ∧
    ∃ fastSeries slowSeries macd, exponentialMovingAverage [1, 3, 2, 6] 1 = some fastSeries ∧
      exponentialMovingAverage [1, 3, 2, 6] 2 = some slowSeries ∧
      AlignedMacd [1, 3, 2, 6] 1 2 2 fastSeries slowSeries macd :=
  ⟨movingAverages_aligned.1 [1, 3, 2, 6] 2 (by decide) (by decide),
    movingAverages_aligned.2 [1, 3, 2, 6] 1 2 2 (by decide) (by decide) (by decide) (by decide)⟩

end Averages

end StockAiPlatform.Analysis
