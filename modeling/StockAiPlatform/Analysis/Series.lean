import Mathlib.Algebra.Order.Field.Basic
import Mathlib.Algebra.BigOperators.Group.List.Basic
import Mathlib.Algebra.BigOperators.Ring.List
import Mathlib.Algebra.Order.BigOperators.Group.List
import Mathlib.Order.Interval.Set.Defs
import Mathlib.Tactic.Ring

/-! # Series of values

Windows of a series, its differences and its moving averages. All of them
commute with a factor on the values.
-/

namespace StockAiPlatform.Series
set_option autoImplicit false

section Windows

variable {α β γ δ : Type}

/-- `values[-n:]`, for a list that is long enough. -/
def lastValues (n : Nat) (values : List α) : List α := values.drop (values.length - n)

/-- `values[-(n + 1):-1]`, for a list that is long enough. -/
def priorWindow (n : Nat) (values : List α) : List α := (lastValues (n + 1) values).dropLast

/-- What `f` makes of every value and the one before it. -/
def adjacent (f : α → α → β) (values : List α) : List β := List.zipWith f values.tail values

theorem lastValues_map (f : α → β) (n : Nat) (values : List α) :
    lastValues n (values.map f) = (lastValues n values).map f := by
  rw [lastValues, lastValues, List.length_map, List.map_drop]

theorem priorWindow_map (f : α → β) (n : Nat) (values : List α) :
    priorWindow n (values.map f) = (priorWindow n values).map f := by
  rw [priorWindow, priorWindow, lastValues_map, List.map_dropLast]

theorem zipWith_map_of_comm {f : α → α → β} {g : γ → γ → δ} {h : γ → α} {k : δ → β}
    (hComm : ∀ a b, f (h a) (h b) = k (g a b)) (left right : List γ) :
    List.zipWith f (left.map h) (right.map h) = (List.zipWith g left right).map k := by
  rw [List.zipWith_map, List.map_zipWith]
  simp only [hComm]

theorem adjacent_map {f : α → α → β} {g : γ → γ → δ} {h : γ → α} {k : δ → β}
    (hComm : ∀ a b, f (h a) (h b) = k (g a b)) (values : List γ) :
    adjacent f (values.map h) = (adjacent g values).map k := by
  rw [adjacent, adjacent, ← List.map_tail, zipWith_map_of_comm hComm]

end Windows

section Averages

variable {K : Type} [Field K]

def scaled (c : K) (values : List K) : List K := values.map fun value => c * value

/-- The averages from one on, each put before the value that moves it. -/
def emaSeries (alpha average : K) : List K → List K
  | [] => [average]
  | value :: values =>
    average :: emaSeries alpha (value * alpha + average * (1 - alpha)) values

/-- Wilder's smoothing: the mean of the first values moved by each of the others. -/
def wilder (period : Nat) (values : List K) : K :=
  (values.drop period).foldl (fun average value => (average * (period - 1) + value) / period)
    ((values.take period).sum / period)

variable {c : K} {values : List K}

@[simp] theorem length_scaled : (scaled c values).length = values.length := List.length_map _

theorem sum_scaled : (scaled c values).sum = c * values.sum := by
  rw [scaled, List.sum_map_mul_left, List.map_id']

@[simp] theorem take_scaled (n : Nat) : (scaled c values).take n = scaled c (values.take n) :=
  List.map_take.symm

@[simp] theorem drop_scaled (n : Nat) : (scaled c values).drop n = scaled c (values.drop n) :=
  List.map_drop.symm

theorem getLast?_scaled : (scaled c values).getLast? = values.getLast?.map fun value => c * value :=
  List.getLast?_map

theorem emaSeries_scaled (alpha average : K) :
    emaSeries alpha (c * average) (scaled c values) = scaled c (emaSeries alpha average values) := by
  induction values generalizing average with
  | nil => rfl
  | cons value values ih =>
    have hNext : c * value * alpha + c * average * (1 - alpha) =
        c * (value * alpha + average * (1 - alpha)) := by ring
    change _ :: emaSeries alpha (c * value * alpha + c * average * (1 - alpha)) (scaled c values) = _
    rw [hNext, ih]
    rfl

theorem foldl_scaled {f : K → K → K} (hf : ∀ a b, f (c * a) (c * b) = c * f a b) (start : K) :
    (scaled c values).foldl f (c * start) = c * values.foldl f start := by
  induction values generalizing start with
  | nil => rfl
  | cons value values ih =>
    change (scaled c values).foldl f (f (c * start) (c * value)) = _
    rw [hf, ih]
    rfl

theorem wilder_scaled (period : Nat) : wilder period (scaled c values) = c * wilder period values := by
  have hStep : ∀ average value : K, (c * average * (period - 1) + c * value) / period =
      c * ((average * (period - 1) + value) / period) := by
    intro average value
    ring
  rw [wilder, take_scaled, drop_scaled, sum_scaled, mul_div_assoc, foldl_scaled hStep]
  rfl

/-! An average is moved by one value at a time, so it is the fold over the values up to it. -/

@[simp] theorem length_emaSeries (alpha average : K) (values : List K) :
    (emaSeries alpha average values).length = values.length + 1 := by
  induction values generalizing average with
  | nil => rfl
  | cons value values ih => exact congrArg (· + 1) (ih _)

theorem getElem?_emaSeries (alpha average : K) {values : List K} {k : Nat}
    (hk : k ≤ values.length) :
    (emaSeries alpha average values)[k]? = some ((values.take k).foldl
      (fun average value => value * alpha + average * (1 - alpha)) average) := by
  induction k generalizing average values with
  | zero =>
    cases values with
    | nil => rfl
    | cons value values => rfl
  | succ k ih =>
    cases values with
    | nil => exact absurd hk (Nat.not_succ_le_zero k)
    | cons value values =>
      rw [emaSeries, List.getElem?_cons_succ, ih _ (Nat.le_of_succ_le_succ hk)]
      rfl

theorem emaSeries_replicate (alpha value : K) (n : Nat) :
    emaSeries alpha value (List.replicate n value) = List.replicate (n + 1) value := by
  induction n with
  | zero => rfl
  | succ n ih =>
    have hMoved : value * alpha + value * (1 - alpha) = value := by ring
    rw [List.replicate_succ, emaSeries, hMoved, ih]
    rfl

variable [LinearOrder K] [IsStrictOrderedRing K]

theorem mean_mem_Icc {lo hi : K} (hValues : ∀ value ∈ values, value ∈ Set.Icc lo hi)
    (hNil : values ≠ []) : values.sum / values.length ∈ Set.Icc lo hi := by
  have hPositive : (0 : K) < values.length := Nat.cast_pos.mpr (List.length_pos_of_ne_nil hNil)
  constructor
  · rw [le_div_iff₀ hPositive, mul_comm, ← nsmul_eq_mul]
    exact List.card_nsmul_le_sum values lo fun value hValue => (hValues value hValue).1
  · rw [div_le_iff₀ hPositive, mul_comm, ← nsmul_eq_mul]
    exact List.sum_le_card_nsmul values hi fun value hValue => (hValues value hValue).2

theorem wilder_nonneg {period : Nat} (hPeriod : 1 ≤ period) (hValues : ∀ value ∈ values, 0 ≤ value) :
    0 ≤ wilder period values := by
  have hWeight : (0 : K) ≤ period - 1 := sub_nonneg.mpr (Nat.one_le_cast.mpr hPeriod)
  have hStart : 0 ≤ (values.take period).sum / period :=
    div_nonneg (List.sum_nonneg fun value hValue => hValues value (List.mem_of_mem_take hValue))
      (Nat.cast_nonneg period)
  apply List.foldlRecOn (motive := fun average : K => 0 ≤ average) _ _ hStart
  intro average hAverage value hValue
  have hMoved : 0 ≤ average * (period - 1) + value :=
    add_nonneg (mul_nonneg hAverage hWeight) (hValues value (List.mem_of_mem_drop hValue))
  exact div_nonneg hMoved (Nat.cast_nonneg period)

theorem max?_scaled (hc : 0 < c) :
    (scaled c values).max? = values.max?.map fun value => c * value := by
  cases values with
  | nil => rfl
  | cons value values =>
    change (c * value :: scaled c values).max? = _
    rw [List.max?_cons', List.max?_cons']
    exact congrArg some (foldl_scaled (fun a b => (mul_max_of_nonneg a b hc.le).symm) value)

end Averages

end StockAiPlatform.Series
