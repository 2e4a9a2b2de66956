import StockAiPlatform.Python.Decimal
import StockAiPlatform.Transaction.Fallible
import Mathlib.Algebra.Order.Archimedean.Basic
import Mathlib.Tactic.Linarith
import Mathlib.Tactic.NormNum

/-! # Decimals under the default context

Arithmetic on any decimals: 28 significant digits, exponents up to 999999, and
the traps for invalid operations and overflow set.
-/

namespace StockAiPlatform.Python
set_option autoImplicit false

inductive DecimalSignal where
  | invalidOperation | overflow
  deriving DecidableEq, Repr

/-- The least magnitude with an exponent over `Emax`. -/
def overflowLimit : ℚ := 10 ^ 1000000

namespace DecimalValue

/-- A result rounded to the digits of the context. -/
def fit (value : ℚ) : Except DecimalSignal DecimalValue :=
  if |divide value 1| < overflowLimit then .ok (.finite (divide value 1)) else .error .overflow

def add : DecimalValue → DecimalValue → Except DecimalSignal DecimalValue
  | .nan, _ => .ok .nan
  | _, .nan => .ok .nan
  | .infinite a, .infinite b => if a = b then .ok (.infinite a) else .error .invalidOperation
  | .infinite a, .finite _ => .ok (.infinite a)
  | .finite _, .infinite b => .ok (.infinite b)
  | .finite a, .finite b => fit (a + b)

/-- `sum(values)` -/
def sum (values : List DecimalValue) : Except DecimalSignal DecimalValue :=
  values.foldlM add (.finite 0)

def divideByCount (count : Nat) : DecimalValue → Except DecimalSignal DecimalValue
  | .finite a => fit (a / count)
  | other => .ok other

/-- `value.quantize(Decimal("0.0001"), rounding=ROUND_HALF_UP)` -/
def quantizeFour : DecimalValue → Except DecimalSignal DecimalValue
  | .finite a =>
    if |quantize 4 a| < 10 ^ 24 then .ok (.finite (quantize 4 a)) else .error .invalidOperation
  | .infinite _ => .error .invalidOperation
  | .nan => .ok .nan

/-- `(sum(values) / len(values)).quantize(...)` -/
def averageFour (values : List DecimalValue) : Except DecimalSignal DecimalValue := do
  let total ← sum values
  quantizeFour (← divideByCount values.length total)

/-- The comparisons with zero. There is no order on a NaN. -/
def compareZero : DecimalValue → Except DecimalSignal Ordering
  | .finite a => .ok (if 0 < a then .gt else if a < 0 then .lt else .eq)
  | .infinite negative => .ok (if negative then .lt else .gt)
  | .nan => .error .invalidOperation

/-- `a < b`, which is no order on a NaN. -/
def lessThan : DecimalValue → DecimalValue → Except DecimalSignal Bool
  | .nan, _ => .error .invalidOperation
  | _, .nan => .error .invalidOperation
  | .infinite negative, .infinite negative' => .ok (negative && !negative')
  | .infinite negative, .finite _ => .ok negative
  | .finite _, .infinite negative => .ok (!negative)
  | .finite a, .finite b => .ok (decide (a < b))

/-- `max(first, *rest)` -/
def maximum (first : DecimalValue) (rest : List DecimalValue) :
    Except DecimalSignal DecimalValue :=
  rest.foldlM (fun best value => do return if ← best.lessThan value then value else best) first

/-- `min(first, *rest)` -/
def minimum (first : DecimalValue) (rest : List DecimalValue) :
    Except DecimalSignal DecimalValue :=
  rest.foldlM (fun best value => do return if ← value.lessThan best then value else best) first

end DecimalValue

theorem maximum_finite (first : ℚ) (rest : List ℚ) :
    DecimalValue.maximum (.finite first) (rest.map .finite) = .ok (.finite (rest.foldl max first)) := by
  rw [DecimalValue.maximum]
  induction rest generalizing first with
  | nil => rfl
  | cons value rest ih =>
    have hStep : (if decide (first < value) = true then DecimalValue.finite value else .finite first)
        = .finite (max first value) := by
      rw [max_def_lt]
      simp only [decide_eq_true_eq]
      exact (apply_ite DecimalValue.finite _ _ _).symm
    rw [List.map_cons, List.foldlM_cons, List.foldl_cons, ← ih, ← hStep]
    rfl

theorem minimum_finite (first : ℚ) (rest : List ℚ) :
    DecimalValue.minimum (.finite first) (rest.map .finite) = .ok (.finite (rest.foldl min first)) := by
  rw [DecimalValue.minimum]
  induction rest generalizing first with
  | nil => rfl
  | cons value rest ih =>
    have hStep : (if decide (value < first) = true then DecimalValue.finite value else .finite first)
        = .finite (min first value) := by
      rw [min_comm, min_def_lt]
      simp only [decide_eq_true_eq]
      exact (apply_ite DecimalValue.finite _ _ _).symm
    rw [List.map_cons, List.foldlM_cons, List.foldl_cons, ← ih, ← hStep]
    rfl

/-- A running total, rounded after each number. -/
def runningTotal (total : ℚ) (numbers : List ℚ) : ℚ :=
  numbers.foldl (fun total number => divide (total + number) 1) total

def contextMean (numbers : List ℚ) : ℚ := divide (runningTotal 0 numbers / numbers.length) 1

/-- The sum never overflows on the way, and the mean has at most 24 digits before the point. -/
structure Averageable (numbers : List ℚ) : Prop where
  totals : ∀ initial, initial <+: numbers → |runningTotal 0 initial| < overflowLimit
  mean : |quantize 4 (contextMean numbers)| < 10 ^ 24

section Averages

open Transaction

variable {value : DecimalValue} {numbers : List ℚ} {total : ℚ}

theorem le_overflowLimit : (10 : ℚ) ^ 25 ≤ overflowLimit :=
  pow_le_pow_right₀ (by norm_num) (by norm_num)

theorem fit_eq_ok_iff {number : ℚ} : DecimalValue.fit number = .ok value ↔
    |divide number 1| < overflowLimit ∧ value = .finite (divide number 1) := by
  rw [DecimalValue.fit]
  split
  · rename_i hSmall
    constructor
    · exact fun h => ⟨hSmall, (Except.ok.inj h).symm⟩
    · rintro ⟨-, rfl⟩
      rfl
  · rename_i hLarge
    constructor
    · intro h
      cases h
    · rintro ⟨hSmall, -⟩
      exact absurd hSmall hLarge

theorem foldlM_add_finite_iff :
    (numbers.map DecimalValue.finite).foldlM DecimalValue.add (.finite total) = .ok value ↔
      (∀ initial, initial <+: numbers → initial ≠ [] →
          |runningTotal total initial| < overflowLimit) ∧
        value = .finite (runningTotal total numbers) := by
  induction numbers generalizing total with
  | nil =>
    constructor
    · intro h
      refine ⟨fun initial hPrefix hSome => absurd (List.prefix_nil.mp hPrefix) hSome, ?_⟩
      exact (Except.ok.inj h).symm
    · rintro ⟨-, rfl⟩
      rfl
  | cons number numbers ih =>
    rw [List.map_cons, List.foldlM_cons, except_bind_eq_ok]
    constructor
    · rintro ⟨next, hNext, hRest⟩
      obtain ⟨hSmall, rfl⟩ := fit_eq_ok_iff.mp hNext
      obtain ⟨hTotals, hValue⟩ := ih.mp hRest
      refine ⟨fun initial hPrefix hSome => ?_, hValue⟩
      obtain ⟨rest, rfl, hRest⟩ := (List.prefix_cons_iff.mp hPrefix).resolve_left hSome
      cases rest with
      | nil => exact hSmall
      | cons second rest => exact hTotals _ hRest (List.cons_ne_nil _ _)
    · rintro ⟨hTotals, hValue⟩
      refine ⟨.finite (divide (total + number) 1), fit_eq_ok_iff.mpr ⟨?_, rfl⟩, ih.mpr ⟨?_, hValue⟩⟩
      · exact hTotals [number] (List.prefix_cons_iff.mpr (.inr ⟨[], rfl, List.nil_prefix⟩))
          (List.cons_ne_nil _ _)
      · intro initial hPrefix _
        exact hTotals (number :: initial) (List.prefix_cons_iff.mpr (.inr ⟨initial, rfl, hPrefix⟩))
          (List.cons_ne_nil _ _)

theorem sum_finite_iff : DecimalValue.sum (numbers.map DecimalValue.finite) = .ok value ↔
    (∀ initial, initial <+: numbers → |runningTotal 0 initial| < overflowLimit) ∧
      value = .finite (runningTotal 0 numbers) := by
  rw [DecimalValue.sum, foldlM_add_finite_iff]
  refine and_congr_left fun _ => ⟨fun h initial hPrefix => ?_, fun h initial hPrefix _ =>
    h initial hPrefix⟩
  cases initial with
  | nil => exact lt_of_eq_of_lt abs_zero (lt_of_lt_of_le (by norm_num) le_overflowLimit)
  | cons first rest => exact h _ hPrefix (List.cons_ne_nil _ _)

theorem abs_quantize (places : Nat) (number : ℚ) :
    |quantize places number| = roundHalfUp (|number| * 10 ^ places) / 10 ^ places := by
  have hRounded : (0 : ℚ) ≤ roundHalfUp (|number| * 10 ^ places) / 10 ^ places := by
    have hFloor : (0 : Int) ≤ roundHalfUp (|number| * 10 ^ places) := by
      have hSum : (0 : ℚ) ≤ |number| * 10 ^ places + 1 / 2 := by positivity
      exact Int.floor_nonneg.mpr hSum
    exact div_nonneg (Int.cast_nonneg hFloor) (by positivity)
  simp only [quantize]
  split
  · rw [abs_neg, abs_of_nonneg hRounded]
  · exact abs_of_nonneg hRounded

/-- A mean that is small after rounding was small before. -/
theorem abs_lt_of_quantize {number : ℚ} (h : |quantize 4 number| < 10 ^ 24) :
    |number| < overflowLimit := by
  rw [abs_quantize, div_lt_iff₀ (by norm_num), roundHalfUp] at h
  have hFloor : |number| * 10 ^ 4 + 1 / 2 < (|number| * 10 ^ 4 + 1 / 2).floor + 1 :=
    Int.lt_floor_add_one (|number| * 10 ^ 4 + 1 / 2)
  refine lt_of_lt_of_le ?_ le_overflowLimit
  linarith

theorem quantizeFour_finite_iff {number : ℚ} :
    DecimalValue.quantizeFour (.finite number) = .ok value ↔
      |quantize 4 number| < 10 ^ 24 ∧ value = .finite (quantize 4 number) := by
  rw [DecimalValue.quantizeFour]
  split
  · rename_i hSmall
    constructor
    · exact fun h => ⟨hSmall, (Except.ok.inj h).symm⟩
    · rintro ⟨-, rfl⟩
      rfl
  · rename_i hLarge
    constructor
    · intro h
      cases h
    · rintro ⟨hSmall, -⟩
      exact absurd hSmall hLarge

theorem averageFour_finite_iff :
    (∃ average, DecimalValue.averageFour (numbers.map DecimalValue.finite) = .ok average) ↔
      Averageable numbers := by
  constructor
  · rintro ⟨average, hAverage⟩
    obtain ⟨total, hTotal, hThen⟩ := except_bind_eq_ok.mp hAverage
    obtain ⟨hTotals, rfl⟩ := sum_finite_iff.mp hTotal
    obtain ⟨mean, hMean, hQuantized⟩ := except_bind_eq_ok.mp hThen
    obtain ⟨-, rfl⟩ := fit_eq_ok_iff.mp hMean
    rw [List.length_map] at hQuantized
    exact ⟨hTotals, (quantizeFour_finite_iff.mp hQuantized).1⟩
  · intro h
    refine ⟨_, except_bind_eq_ok.mpr ⟨_, sum_finite_iff.mpr ⟨h.totals, rfl⟩,
      except_bind_eq_ok.mpr ⟨.finite (contextMean numbers), ?_,
        quantizeFour_finite_iff.mpr ⟨h.mean, rfl⟩⟩⟩⟩
    refine fit_eq_ok_iff.mpr ⟨?_, ?_⟩
    · rw [List.length_map]
      exact abs_lt_of_quantize h.mean
    · rw [List.length_map]
      rfl

theorem averageable_nil : Averageable [] where
  totals initial hPrefix := by
    rw [List.prefix_nil.mp hPrefix]
    exact lt_of_eq_of_lt abs_zero (lt_of_lt_of_le (by norm_num) le_overflowLimit)
  mean := by decide +kernel

def DecimalValue.IsFinite : DecimalValue → Prop
  | .finite _ => True
  | _ => False

def DecimalValue.number? : DecimalValue → Option ℚ
  | .finite number => some number
  | _ => none

theorem map_finite_numbers {values : List DecimalValue} (h : ∀ a ∈ values, a.IsFinite) :
    (values.filterMap DecimalValue.number?).map DecimalValue.finite = values := by
  induction values with
  | nil => rfl
  | cons a values ih =>
    rw [List.forall_mem_cons] at h
    cases a with
    | finite number => exact congrArg (DecimalValue.finite number :: ·) (ih h.2)
    | infinite negative => exact h.1.elim
    | nan => exact h.1.elim

theorem isFinite_of_add {a b : DecimalValue} (h : a.add b = .ok value) (hValue : value.IsFinite) :
    a.IsFinite ∧ b.IsFinite := by
  cases a with
  | finite a =>
    cases b with
    | finite b => exact ⟨trivial, trivial⟩
    | infinite b =>
      cases h
      exact hValue.elim
    | nan =>
      cases h
      exact hValue.elim
  | infinite a =>
    cases b with
    | finite b =>
      cases h
      exact hValue.elim
    | infinite b =>
      rw [DecimalValue.add] at h
      split at h
      · cases h
        exact hValue.elim
      · cases h
    | nan =>
      cases h
      exact hValue.elim
  | nan =>
    cases b with
    | _ =>
      cases h
      exact hValue.elim

theorem isFinite_of_sum {values : List DecimalValue} {start : DecimalValue}
    (h : values.foldlM DecimalValue.add start = .ok value) (hValue : value.IsFinite) :
    ∀ a ∈ values, a.IsFinite := by
  have hBoth : start.IsFinite ∧ ∀ a ∈ values, a.IsFinite := by
    induction values generalizing start with
    | nil =>
      cases h
      exact ⟨hValue, fun a ha => absurd ha List.not_mem_nil⟩
    | cons a values ih =>
      rw [List.foldlM_cons] at h
      obtain ⟨next, hNext, hRest⟩ := except_bind_eq_ok.mp h
      obtain ⟨hFinite, hAll⟩ := ih hRest
      obtain ⟨hStart, ha⟩ := isFinite_of_add hNext hFinite
      exact ⟨hStart, List.forall_mem_cons.mpr ⟨ha, hAll⟩⟩
  exact hBoth.2

theorem ne_nan_of_add {a b : DecimalValue} (h : a.add b = .ok value) (ha : a ≠ .nan)
    (hb : b ≠ .nan) : value ≠ .nan := by
  rintro rfl
  cases a with
  | nan => exact ha rfl
  | finite a =>
    cases b with
    | nan => exact hb rfl
    | infinite b => cases h
    | finite b => cases (fit_eq_ok_iff.mp h).2
  | infinite a =>
    cases b with
    | nan => exact hb rfl
    | finite b => cases h
    | infinite b =>
      rw [DecimalValue.add] at h
      split at h
      · cases h
      · cases h

theorem ne_nan_of_sum {values : List DecimalValue} {start : DecimalValue}
    (h : values.foldlM DecimalValue.add start = .ok value) (hStart : start ≠ .nan)
    (hValues : ∀ a ∈ values, a ≠ .nan) : value ≠ .nan := by
  induction values generalizing start with
  | nil =>
    cases h
    exact hStart
  | cons a values ih =>
    rw [List.foldlM_cons] at h
    obtain ⟨next, hNext, hRest⟩ := except_bind_eq_ok.mp h
    rw [List.forall_mem_cons] at hValues
    exact ih hRest (ne_nan_of_add hNext hStart hValues.1) hValues.2

theorem isFinite_of_averageFour {values : List DecimalValue} {average : DecimalValue}
    (h : DecimalValue.averageFour values = .ok average) (hValues : ∀ a ∈ values, a ≠ .nan) :
    ∀ a ∈ values, a.IsFinite := by
  obtain ⟨total, hTotal, hThen⟩ := except_bind_eq_ok.mp h
  have hNumber : total ≠ .nan := ne_nan_of_sum hTotal (by rintro ⟨⟩) hValues
  refine isFinite_of_sum hTotal ?_
  cases total with
  | finite total => trivial
  | infinite negative => cases hThen
  | nan => exact absurd rfl hNumber

theorem averageFour_ok_iff {values : List DecimalValue} (hValues : ∀ a ∈ values, a ≠ .nan) :
    (∃ average, DecimalValue.averageFour values = .ok average) ↔
      (∀ a ∈ values, a.IsFinite) ∧ Averageable (values.filterMap DecimalValue.number?) := by
  constructor
  · rintro ⟨average, hAverage⟩
    have hFinite := isFinite_of_averageFour hAverage hValues
    rw [← map_finite_numbers hFinite] at hAverage
    exact ⟨hFinite, averageFour_finite_iff.mp ⟨average, hAverage⟩⟩
  · rintro ⟨hFinite, hAverageable⟩
    rw [← map_finite_numbers hFinite]
    exact averageFour_finite_iff.mpr hAverageable

end Averages

end StockAiPlatform.Python
