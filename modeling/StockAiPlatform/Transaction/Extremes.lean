import Mathlib.Order.MinMax
import Mathlib.Order.OrderDual
import Mathlib.Data.List.Basic
import Mathlib.Algebra.Order.Group.Defs
import Mathlib.Algebra.BigOperators.Group.List.Basic
import Mathlib.Tactic.Abel

/-! # The extremes of a list

The largest and the smallest of a start value and the values of a list, by
what lies above and below them.
-/

namespace StockAiPlatform.Transaction
set_option autoImplicit false

section Extremes

variable {α : Type} [LinearOrder α] {start bound : α} {values : List α}

theorem foldl_max_le_iff :
    values.foldl max start ≤ bound ↔ start ≤ bound ∧ ∀ value ∈ values, value ≤ bound := by
  induction values generalizing start with
  | nil => exact ⟨fun h => ⟨h, fun _ hNone => absurd hNone List.not_mem_nil⟩, And.left⟩
  | cons value values ih => rw [List.foldl_cons, ih, max_le_iff, List.forall_mem_cons, and_assoc]

theorem foldl_max_lt_iff :
    values.foldl max start < bound ↔ start < bound ∧ ∀ value ∈ values, value < bound := by
  induction values generalizing start with
  | nil => exact ⟨fun h => ⟨h, fun _ hNone => absurd hNone List.not_mem_nil⟩, And.left⟩
  | cons value values ih => rw [List.foldl_cons, ih, max_lt_iff, List.forall_mem_cons, and_assoc]

theorem le_foldl_max_iff :
    bound ≤ values.foldl max start ↔ bound ≤ start ∨ ∃ value ∈ values, bound ≤ value := by
  rw [← not_lt, foldl_max_lt_iff, not_and_or, not_lt]
  refine or_congr_right ?_
  simp only [not_forall, not_lt, exists_prop]

theorem foldl_max_mem : values.foldl max start = start ∨ values.foldl max start ∈ values := by
  rcases le_foldl_max_iff.mp (le_refl (values.foldl max start)) with hStart | ⟨value, hValue, hLe⟩
  · exact .inl (le_antisymm hStart (foldl_max_le_iff.mp (le_refl _)).1)
  · refine .inr (le_antisymm hLe ?_ ▸ hValue)
    exact (foldl_max_le_iff.mp (le_refl _)).2 value hValue

theorem le_foldl_min_iff :
    bound ≤ values.foldl min start ↔ bound ≤ start ∧ ∀ value ∈ values, bound ≤ value :=
  @foldl_max_le_iff αᵒᵈ _ _ _ _

theorem foldl_min_le_iff :
    values.foldl min start ≤ bound ↔ start ≤ bound ∨ ∃ value ∈ values, value ≤ bound :=
  @le_foldl_max_iff αᵒᵈ _ _ _ _

theorem foldl_min_mem : values.foldl min start = start ∨ values.foldl min start ∈ values :=
  @foldl_max_mem αᵒᵈ _ _ _

theorem exists_max? (h : values ≠ []) :
    ∃ high ∈ values, values.max? = some high ∧ ∀ value ∈ values, value ≤ high := by
  obtain ⟨first, rest, rfl⟩ := List.exists_cons_of_ne_nil h
  refine ⟨rest.foldl max first, ?_, rfl, ?_⟩
  · exact List.mem_cons.mpr foldl_max_mem
  · exact List.forall_mem_cons.mpr (foldl_max_le_iff.mp (le_refl _))

theorem exists_greatest (h : values ≠ []) : ∃ high ∈ values, ∀ value ∈ values, value ≤ high := by
  obtain ⟨high, hMem, -, hGreatest⟩ := exists_max? h
  exact ⟨high, hMem, hGreatest⟩

theorem exists_least (h : values ≠ []) : ∃ low ∈ values, ∀ value ∈ values, low ≤ value :=
  @exists_greatest αᵒᵈ _ values h

end Extremes

/-! ## A counter kept as increments

A source reports a running total, possibly late, twice or out of order. The
receiver stores only the increments over what it has stored already, so that
their sum is the highest total it was told.
-/

namespace HighWater

variable {α : Type} [AddCommGroup α] [LinearOrder α]

/-- Store what `reported` adds to the stored total, if it adds anything. -/
def observe (increments : List α) (reported : α) : List α :=
  if increments.sum < reported then increments ++ [reported - increments.sum] else increments

variable (increments : List α) (reported : α)

theorem observe_of_lt {increments : List α} {reported : α} (h : increments.sum < reported) :
    observe increments reported = increments ++ [reported - increments.sum] := if_pos h

theorem observe_of_le {increments : List α} {reported : α} (h : reported ≤ increments.sum) :
    observe increments reported = increments := if_neg (not_lt.mpr h)

theorem sum_observe : (observe increments reported).sum = max increments.sum reported := by
  rcases lt_or_ge increments.sum reported with h | h
  · rw [observe_of_lt h, max_eq_right h.le, List.sum_append, List.sum_singleton]
    abel
  · rw [observe_of_le h, max_eq_left h]

/-- The stored total is the highest one reported, however the reports are ordered. -/
theorem sum_foldl_observe (reports : List α) :
    (reports.foldl observe increments).sum = reports.foldl max increments.sum := by
  induction reports generalizing increments with
  | nil => rfl
  | cons report reports ih =>
    rw [List.foldl_cons, List.foldl_cons, ih, sum_observe]

end HighWater

end StockAiPlatform.Transaction
