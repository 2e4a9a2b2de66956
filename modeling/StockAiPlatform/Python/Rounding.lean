import StockAiPlatform.Python.Decimal
import Mathlib.Algebra.Order.Field.Power
import Mathlib.Tactic.Linarith
import Mathlib.Tactic.NormNum
import Mathlib.Tactic.Ring

/-! # Rounding is monotone

A quotient rounded to the digits of the context lies between the powers of ten
around it, and a larger quotient is not rounded to a smaller number.
-/

namespace StockAiPlatform.Python
set_option autoImplicit false

variable {a b value : ℚ} {n : Int}

theorem roundHalfUp_bounds (value : ℚ) :
    value - 1 / 2 < roundHalfUp value ∧ (roundHalfUp value : ℚ) ≤ value + 1 / 2 := by
  have hBelow := Rat.floor_le (value + 1 / 2)
  have hAbove := Rat.lt_floor_add_one (value + 1 / 2)
  push_cast at hAbove
  exact ⟨by rw [roundHalfUp]; linarith, hBelow⟩

theorem roundHalfEven_bounds (value : ℚ) :
    value - 1 / 2 ≤ roundHalfEven value ∧ (roundHalfEven value : ℚ) ≤ value + 1 / 2 := by
  simp only [roundHalfEven]
  split
  · rename_i hTie
    split
    · constructor <;> linarith
    · push_cast
      constructor <;> linarith
  · exact ⟨(roundHalfUp_bounds value).1.le, (roundHalfUp_bounds value).2⟩

theorem roundHalfEven_mono (h : a ≤ b) : roundHalfEven a ≤ roundHalfEven b := by
  rcases h.eq_or_lt with rfl | hLt
  · exact le_refl _
  · have hBelow := (roundHalfEven_bounds a).2
    have hAbove := (roundHalfEven_bounds b).1
    have hNext : (roundHalfEven a : ℚ) < roundHalfEven b + 1 := by linarith
    exact Int.lt_add_one_iff.mp (by exact_mod_cast hNext)

theorem roundHalfEven_intCast (n : Int) : roundHalfEven (n : ℚ) = n := by
  have hBounds := roundHalfEven_bounds (n : ℚ)
  have hBelow : (n : ℚ) < roundHalfEven (n : ℚ) + 1 := by linarith [hBounds.1]
  have hAbove : (roundHalfEven (n : ℚ) : ℚ) < n + 1 := by linarith [hBounds.2]
  have hBelowInt : n < roundHalfEven (n : ℚ) + 1 := by exact_mod_cast hBelow
  have hAboveInt : roundHalfEven (n : ℚ) < n + 1 := by exact_mod_cast hAbove
  omega

theorem roundHalfUp_mono (h : a ≤ b) : roundHalfUp a ≤ roundHalfUp b :=
  Rat.floor_monotone (by linarith)

theorem roundHalfUp_nonneg (h : 0 ≤ value) : 0 ≤ roundHalfUp value :=
  Rat.le_floor_iff.mpr (by push_cast; linarith)

theorem quantize_of_nonneg (places : Nat) (h : 0 ≤ value) :
    quantize places value = roundHalfUp (value * 10 ^ places) / 10 ^ places := by
  simp only [quantize]
  rw [if_neg (not_lt.mpr h), abs_of_nonneg h]

/-- Rounding goes to the same distance from zero on either side. -/
theorem quantize_neg (places : Nat) (value : ℚ) : quantize places (-value) = -quantize places value := by
  rcases lt_trichotomy value 0 with hNeg | rfl | hPos
  · simp only [quantize, abs_neg]
    rw [if_neg (by linarith), if_pos hNeg, neg_neg]
  · have hZero : roundHalfUp 0 = 0 := by decide +kernel
    simp [quantize, hZero]
  · simp only [quantize, abs_neg]
    rw [if_pos (by linarith), if_neg (by linarith)]

theorem quantize_nonneg (places : Nat) (h : 0 ≤ value) : 0 ≤ quantize places value := by
  have hScale : (0 : ℚ) < 10 ^ places := pow_pos (by norm_num) places
  rw [quantize_of_nonneg places h]
  refine div_nonneg ?_ hScale.le
  exact_mod_cast roundHalfUp_nonneg (mul_nonneg h hScale.le)

theorem roundHalfUp_intCast (n : Int) : roundHalfUp (n : ℚ) = n := by
  obtain ⟨hBelow, hAbove⟩ := roundHalfUp_bounds (n : ℚ)
  have hBelowNext : (n : ℚ) < roundHalfUp (n : ℚ) + 1 := by linarith
  have hAboveNext : (roundHalfUp (n : ℚ) : ℚ) < n + 1 := by linarith
  have hBelowInt : n < roundHalfUp (n : ℚ) + 1 := by exact_mod_cast hBelowNext
  have hAboveInt : roundHalfUp (n : ℚ) < n + 1 := by exact_mod_cast hAboveNext
  omega

/-- Rounding moves a number by half a unit of its last place at most. -/
theorem quantize_near (places : Nat) (h : 0 ≤ value) :
    value * 10 ^ places - 1 / 2 < quantize places value * 10 ^ places ∧
      quantize places value * 10 ^ places ≤ value * 10 ^ places + 1 / 2 := by
  have hScale : (10 : ℚ) ^ places ≠ 0 := pow_ne_zero places (by norm_num)
  rw [quantize_of_nonneg places h, div_mul_cancel₀ _ hScale]
  exact roundHalfUp_bounds _

/-- A number of so many places is not rounded. -/
theorem quantize_of_places (n : Int) (places : Nat) :
    quantize places ((n : ℚ) / 10 ^ places) = n / 10 ^ places := by
  have hScale : (0 : ℚ) < 10 ^ places := pow_pos (by norm_num) places
  have hNonneg : ∀ m : Int, 0 ≤ m → quantize places ((m : ℚ) / 10 ^ places) = m / 10 ^ places := by
    intro m hm
    have hCast : (0 : ℚ) ≤ m := by exact_mod_cast hm
    rw [quantize_of_nonneg places (div_nonneg hCast hScale.le), div_mul_cancel₀ _ hScale.ne',
      roundHalfUp_intCast]
  rcases le_total 0 n with hPos | hNeg
  · exact hNonneg n hPos
  · have hFlip : (n : ℚ) / 10 ^ places = -(((-n : Int) : ℚ) / 10 ^ places) := by
      push_cast
      ring
    rw [hFlip, quantize_neg, hNonneg (-n) (by omega)]

theorem quantize_eq_places (places : Nat) (value : ℚ) :
    ∃ n : Int, quantize places value = n / 10 ^ places := by
  simp only [quantize]
  split
  · refine ⟨-roundHalfUp (|value| * 10 ^ places), ?_⟩
    push_cast
    ring
  · exact ⟨_, rfl⟩

theorem quantize_quantize (places : Nat) (value : ℚ) :
    quantize places (quantize places value) = quantize places value := by
  obtain ⟨n, hn⟩ := quantize_eq_places places value
  rw [hn, quantize_of_places]

theorem quantize_mono_of_nonneg (places : Nat) (hNonneg : 0 ≤ a) (h : a ≤ b) :
    quantize places a ≤ quantize places b := by
  have hScale : (0 : ℚ) < 10 ^ places := pow_pos (by norm_num) places
  rw [quantize_of_nonneg places hNonneg, quantize_of_nonneg places (hNonneg.trans h)]
  refine div_le_div_of_nonneg_right ?_ hScale.le
  exact_mod_cast roundHalfUp_mono (mul_le_mul_of_nonneg_right h hScale.le)

theorem quantize_mono (places : Nat) (h : a ≤ b) : quantize places a ≤ quantize places b := by
  rcases le_total 0 a with hNonneg | hNeg
  · exact quantize_mono_of_nonneg places hNonneg h
  · have hFlip : quantize places a = -quantize places (-a) := by
      rw [quantize_neg, neg_neg]
    rcases le_total 0 b with hPos | hBoth
    · have hLow := quantize_nonneg places (neg_nonneg.mpr hNeg)
      have hHigh := quantize_nonneg places hPos
      linarith
    · have hMono := quantize_mono_of_nonneg places (neg_nonneg.mpr hBoth) (neg_le_neg h)
      rw [quantize_neg places b] at hMono
      linarith

/-- Rounding to places leaves a number between zero and a whole number there. -/
theorem quantize_bounds (places : Nat) {limit : Nat} (hNonneg : 0 ≤ value) (hLimit : value ≤ limit) :
    0 ≤ quantize places value ∧ quantize places value ≤ limit := by
  have hScale : (10 : ℚ) ^ places ≠ 0 := pow_ne_zero places (by norm_num)
  have hWhole : quantize places limit = limit := by
    have hPlaces : (limit : ℚ) = ((limit * 10 ^ places : Int) : ℚ) / 10 ^ places := by
      push_cast
      rw [mul_div_cancel_right₀ _ hScale]
    rw [hPlaces]
    exact quantize_of_places _ places
  have hHigh := quantize_mono places hLimit
  rw [hWhole] at hHigh
  exact ⟨quantize_nonneg places hNonneg, hHigh⟩

theorem pow_log_floor (hOne : 1 ≤ value) :
    (10 : ℚ) ^ Nat.log 10 value.floor.toNat ≤ value ∧
      value < 10 ^ (Nat.log 10 value.floor.toNat + 1) := by
  have hFloor : 1 ≤ value.floor := Rat.le_floor_iff.mpr (by exact_mod_cast hOne)
  have hNat : ((value.floor.toNat : Int) : ℚ) = value.floor := by
    rw [Int.toNat_of_nonneg (by omega)]
  have hLog : (10 : ℚ) ^ Nat.log 10 value.floor.toNat ≤ value.floor.toNat := by
    exact_mod_cast Nat.pow_log_le_self 10 (show value.floor.toNat ≠ 0 by omega)
  have hSucc : (value.floor.toNat : ℚ) + 1 ≤ 10 ^ (Nat.log 10 value.floor.toNat + 1) := by
    exact_mod_cast Nat.lt_pow_succ_log_self (by norm_num) value.floor.toNat
  have hBelow := Rat.floor_le value
  have hAbove := Rat.lt_floor_add_one value
  push_cast at hNat hAbove
  exact ⟨by linarith, by linarith⟩

theorem pow_clog_ceil (hPos : 0 < value) (hOne : value < 1) :
    1 ≤ value * 10 ^ Nat.clog 10 (1 / value).ceil.toNat ∧
      value * 10 ^ Nat.clog 10 (1 / value).ceil.toNat < 10 := by
  have hInverse : 1 < 1 / value := (one_lt_div hPos).mpr hOne
  have hCeil : 1 < (1 / value).ceil := Rat.lt_ceil_iff.mpr (by exact_mod_cast hInverse)
  have hNat : (((1 / value).ceil.toNat : Int)) = (1 / value).ceil :=
    Int.toNat_of_nonneg (by omega)
  have hTwo : 1 < (1 / value).ceil.toNat := by omega
  obtain ⟨c, hClog⟩ : ∃ c, Nat.clog 10 (1 / value).ceil.toNat = c + 1 :=
    Nat.exists_eq_succ_of_ne_zero (Nat.clog_pos (by norm_num) hTwo).ne'
  have hAbove : (1 / value).ceil.toNat ≤ 10 ^ (c + 1) :=
    hClog ▸ Nat.le_pow_clog (by norm_num) _
  have hBelow : 10 ^ c < (1 / value).ceil.toNat := by
    have hPred := Nat.pow_pred_clog_lt_self (by norm_num : 1 < 10) hTwo
    rwa [hClog] at hPred
  have hUpper : 1 / value ≤ 10 ^ (c + 1) := by
    refine Rat.le_ceil.trans ?_
    rw [← hNat]
    exact_mod_cast hAbove
  have hLower : (10 : ℚ) ^ c < 1 / value := by
    have hInt : ((10 ^ c : Nat) : Int) < (1 / value).ceil := by
      rw [← hNat]
      exact_mod_cast hBelow
    exact_mod_cast Rat.lt_ceil_iff.mp hInt
  rw [div_le_iff₀ hPos] at hUpper
  rw [lt_div_iff₀ hPos] at hLower
  rw [hClog, pow_succ] at *
  constructor <;> linarith

/-- The power of the leading digit is the power of ten below the number. -/
theorem leadingPower_spec (hPos : 0 < value) :
    (10 : ℚ) ^ leadingPower value ≤ value ∧ value < 10 ^ (leadingPower value + 1) := by
  rw [leadingPower]
  split
  · rename_i hOne
    obtain ⟨hBelow, hAbove⟩ := pow_log_floor hOne
    exact ⟨by rwa [zpow_natCast], by exact_mod_cast hAbove⟩
  · rename_i hOne
    obtain ⟨hBelow, hAbove⟩ := pow_clog_ceil hPos (not_le.mp hOne)
    have hPow : (0 : ℚ) < 10 ^ Nat.clog 10 (1 / value).ceil.toNat := pow_pos (by norm_num) _
    rw [zpow_add₀ (by norm_num), zpow_neg, zpow_natCast, zpow_one]
    constructor
    · exact (inv_le_iff_one_le_mul₀ hPow).mpr hBelow
    · rw [← div_eq_inv_mul, lt_div_iff₀ hPow]
      exact hAbove

/-- A positive number rounded to the digits of the context. -/
def significant (value : ℚ) : ℚ :=
  roundHalfEven (value * 10 ^ (27 - leadingPower value)) / 10 ^ (27 - leadingPower value)

theorem divide_eq_significant (h : 0 < a / b) : divide a b = significant (a / b) := by
  simp only [divide, significant, if_neg h.ne', if_neg h.not_gt, abs_of_pos h]

theorem divide_eq_neg_significant (h : a / b < 0) : divide a b = -significant (-(a / b)) := by
  simp only [divide, significant, if_neg h.ne, if_pos h, abs_of_neg h]

theorem divide_eq_zero (h : a / b = 0) : divide a b = 0 := by
  simp only [divide, if_pos h]

/-- Rounding does not leave the decade of a number. -/
theorem significant_bounds (hPos : 0 < value) :
    (10 : ℚ) ^ leadingPower value ≤ significant value ∧
      significant value ≤ 10 ^ (leadingPower value + 1) := by
  obtain ⟨hBelow, hAbove⟩ := leadingPower_spec hPos
  have hScale : (0 : ℚ) < 10 ^ (27 - leadingPower value) := zpow_pos (by norm_num) _
  have hPower : ∀ k : Int, (10 : ℚ) ^ (leadingPower value + k) * 10 ^ (27 - leadingPower value) =
      10 ^ (27 + k) := by
    intro k
    rw [← zpow_add₀ (by norm_num)]
    congr 1
    ring
  have hLow := hPower 0
  have hHigh := hPower 1
  rw [add_zero, add_zero] at hLow
  rw [significant, le_div_iff₀ hScale, div_le_iff₀ hScale, hLow, hHigh]
  have hFloor : ((10 ^ 27 : Int) : ℚ) ≤ value * 10 ^ (27 - leadingPower value) := by
    have h := mul_le_mul_of_nonneg_right hBelow hScale.le
    rw [hLow] at h
    exact_mod_cast h
  have hCeil : value * 10 ^ (27 - leadingPower value) ≤ ((10 ^ 28 : Int) : ℚ) := by
    have h := mul_le_mul_of_nonneg_right hAbove.le hScale.le
    rw [hHigh] at h
    exact_mod_cast h
  have hFloor' := roundHalfEven_mono hFloor
  have hCeil' := roundHalfEven_mono hCeil
  rw [roundHalfEven_intCast] at hFloor' hCeil'
  exact ⟨by exact_mod_cast hFloor', by exact_mod_cast hCeil'⟩

theorem significant_pos (hPos : 0 < value) : 0 < significant value :=
  lt_of_lt_of_le (zpow_pos (by norm_num) _) (significant_bounds hPos).1

theorem significant_mono (hPos : 0 < a) (h : a ≤ b) : significant a ≤ significant b := by
  have hPosB := hPos.trans_le h
  have hPowers : leadingPower a ≤ leadingPower b := by
    have hDecades := ((leadingPower_spec hPos).1.trans h).trans_lt (leadingPower_spec hPosB).2
    have hLt := (zpow_lt_zpow_iff_right₀ (by norm_num)).mp hDecades
    omega
  rcases hPowers.eq_or_lt with hSame | hLess
  · rw [significant, significant, hSame]
    have hScale : (0 : ℚ) < 10 ^ (27 - leadingPower b) := zpow_pos (by norm_num) _
    have hRound := roundHalfEven_mono (mul_le_mul_of_nonneg_right h hScale.le)
    exact div_le_div_of_nonneg_right (by exact_mod_cast hRound) hScale.le
  · calc significant a ≤ 10 ^ (leadingPower a + 1) := (significant_bounds hPos).2
      _ ≤ 10 ^ leadingPower b := zpow_le_zpow_right₀ (by norm_num) hLess
      _ ≤ significant b := (significant_bounds hPosB).1

variable {c d : ℚ}

/-- Larger quotients are not rounded to smaller numbers. -/
theorem divide_mono (h : a / b ≤ c / d) : divide a b ≤ divide c d := by
  rcases lt_trichotomy (a / b) 0 with hNeg | hZero | hPos
  · rw [divide_eq_neg_significant hNeg]
    have hFirst := significant_pos (neg_pos.mpr hNeg)
    rcases lt_trichotomy (c / d) 0 with hNeg' | hZero' | hPos'
    · rw [divide_eq_neg_significant hNeg', neg_le_neg_iff]
      exact significant_mono (neg_pos.mpr hNeg') (neg_le_neg h)
    · rw [divide_eq_zero hZero']
      exact neg_nonpos.mpr hFirst.le
    · rw [divide_eq_significant hPos']
      exact (neg_nonpos.mpr hFirst.le).trans (significant_pos hPos').le
  · rw [divide_eq_zero hZero]
    rw [hZero] at h
    rcases h.eq_or_lt with hZero' | hPos'
    · rw [divide_eq_zero hZero'.symm]
    · rw [divide_eq_significant hPos']
      exact (significant_pos hPos').le
  · rw [divide_eq_significant hPos, divide_eq_significant (hPos.trans_le h)]
    exact significant_mono hPos h

/-- A number with few digits is not rounded. -/
theorem significant_of_places {n : Int} {places : Nat} (hPos : 0 < n) (hDigits : n < 10 ^ 28) :
    significant ((n : ℚ) / 10 ^ places) = n / 10 ^ places := by
  have hScale : (0 : ℚ) < 10 ^ places := pow_pos (by norm_num) places
  have hCast : (0 : ℚ) < n := by exact_mod_cast hPos
  obtain ⟨lead, hLeadEq⟩ : ∃ lead, leadingPower ((n : ℚ) / 10 ^ places) = lead := ⟨_, rfl⟩
  have hLead := (leadingPower_spec (div_pos hCast hScale)).1
  rw [hLeadEq, le_div_iff₀ hScale, ← zpow_natCast, ← zpow_add₀ (by norm_num)] at hLead
  have hBelow : (n : ℚ) < 10 ^ (28 : Int) := by exact_mod_cast hDigits
  have hPower := (zpow_lt_zpow_iff_right₀ (by norm_num)).mp (hLead.trans_lt hBelow)
  obtain ⟨m, hm⟩ := Int.eq_ofNat_of_zero_le (show 0 ≤ 27 - lead - places by omega)
  have hSplit : 27 - lead = places + m := by omega
  have hWhole : (n : ℚ) / 10 ^ places * 10 ^ ((places : Int) + m) = ((n * 10 ^ m : Int) : ℚ) := by
    rw [zpow_add₀ (by norm_num), zpow_natCast, zpow_natCast, ← mul_assoc,
      div_mul_cancel₀ _ hScale.ne']
    push_cast
    rfl
  rw [significant, hLeadEq, hSplit, hWhole, roundHalfEven_intCast, ← hWhole]
  exact mul_div_cancel_right₀ _ (zpow_ne_zero _ (by norm_num))

theorem divide_of_places {n : Int} (places : Nat) (hDigits : n.natAbs < 10 ^ 28) :
    divide ((n : ℚ) / 10 ^ places) 1 = n / 10 ^ places := by
  have hScale : (0 : ℚ) < 10 ^ places := pow_pos (by norm_num) places
  rcases lt_trichotomy n 0 with hNeg | rfl | hPos
  · have hCast : (n : ℚ) < 0 := by exact_mod_cast hNeg
    have hFlip : -((n : ℚ) / 10 ^ places) = ((-n : Int) : ℚ) / 10 ^ places := by
      push_cast
      ring
    rw [divide_eq_neg_significant (by rw [div_one]; exact div_neg_of_neg_of_pos hCast hScale), div_one,
      hFlip, significant_of_places (by omega) (by omega)]
    push_cast
    ring
  · rw [divide_eq_zero (by norm_num), Int.cast_zero, zero_div]
  · have hCast : (0 : ℚ) < n := by exact_mod_cast hPos
    rw [divide_eq_significant (by rw [div_one]; exact div_pos hCast hScale), div_one,
      significant_of_places hPos (by omega)]

end StockAiPlatform.Python
