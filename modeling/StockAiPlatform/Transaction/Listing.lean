import Mathlib.Data.List.Sort
import Mathlib.Tactic.Common

/-! # Filters before and after a limit

A listing cut off at a limit and filtered afterwards holds no more than the
listing filtered first. It holds as much exactly if nothing was left to find
beyond the limit, or nothing was dropped before it.
-/

namespace StockAiPlatform.Transaction
set_option autoImplicit false

section Listing

variable {α β : Type} {keep : α → Bool} {n : Nat} {rows : List α}

/-- No row beyond the limit is wanted. -/
def Exhausted (keep : α → Bool) (n : Nat) (rows : List α) : Prop :=
  ∀ row ∈ rows.drop n, keep row = false

/-- Every row up to the limit is wanted. -/
def AllKept (keep : α → Bool) (n : Nat) (rows : List α) : Prop :=
  ∀ row ∈ rows.take n, keep row = true

variable (keep n rows) in
theorem filter_eq_append :
    rows.filter keep = (rows.take n).filter keep ++ (rows.drop n).filter keep := by
  rw [← List.filter_append, List.take_append_drop]

theorem length_filter_take_le : ((rows.take n).filter keep).length ≤ n :=
  (List.length_filter_le _ _).trans (List.length_take_le n rows)

theorem filter_take_of_exhausted (h : Exhausted keep n rows) :
    (rows.take n).filter keep = rows.filter keep := by
  have hNone : (rows.drop n).filter keep = [] := by
    rw [List.filter_eq_nil_iff]
    intro row hRow
    rw [h row hRow]
    exact Bool.false_ne_true
  rw [filter_eq_append keep n rows, hNone, List.append_nil]

theorem filter_take_of_allKept (h : AllKept keep n rows) :
    (rows.take n).filter keep = (rows.filter keep).take n := by
  rcases Nat.le_total rows.length n with hShort | hLong
  · rw [List.take_of_length_le hShort,
      List.take_of_length_le ((List.length_filter_le _ _).trans hShort)]
  · have hFull : ((rows.take n).filter keep).length = n := by
      rw [List.filter_eq_self.mpr h, List.length_take_of_le hLong]
    rw [filter_eq_append keep n rows, List.take_append_of_le_length (le_of_eq hFull.symm),
      List.take_of_length_le (le_of_eq hFull)]

/-- What is missing is found beyond the limit, and there was room for it. -/
theorem length_filter_take_lt (hMore : ¬ Exhausted keep n rows) (hDropped : ¬ AllKept keep n rows) :
    ((rows.take n).filter keep).length < ((rows.filter keep).take n).length := by
  rw [Exhausted, not_forall₂] at hMore
  obtain ⟨later, hLater, hKeep⟩ := hMore
  have hSome : 0 < ((rows.drop n).filter keep).length :=
    List.length_pos_of_mem (List.mem_filter.mpr ⟨hLater, Bool.of_not_eq_false hKeep⟩)
  have hRoom : ((rows.take n).filter keep).length < n := by
    refine lt_of_lt_of_le (lt_of_le_of_ne (List.length_filter_le _ _) fun hSame => hDropped ?_)
      (List.length_take_le n rows)
    exact List.length_filter_eq_length_iff.mp hSame
  rw [List.length_take, filter_eq_append keep n rows, List.length_append]
  omega

theorem map_filter_take_eq_iff (f : α → β) :
    ((rows.take n).filter keep).map f = ((rows.filter keep).take n).map f ↔
      Exhausted keep n rows ∨ AllKept keep n rows := by
  constructor
  · intro hSame
    by_contra hNeither
    rw [not_or] at hNeither
    have hShorter := length_filter_take_lt hNeither.1 hNeither.2
    have hLength := congrArg List.length hSame
    rw [List.length_map, List.length_map] at hLength
    omega
  · rintro (hExhausted | hAllKept)
    · have hAll := filter_take_of_exhausted hExhausted
      rw [← hAll, List.take_of_length_le length_filter_take_le]
    · rw [filter_take_of_allKept hAllKept]

theorem length_filter_take_eq_iff :
    ((rows.take n).filter keep).length = rows.countP keep ↔ Exhausted keep n rows := by
  rw [List.countP_eq_length_filter, filter_eq_append keep n rows, List.length_append,
    Nat.left_eq_add, List.length_eq_zero_iff, List.filter_eq_nil_iff, Exhausted]
  exact forall₂_congr fun row _ => iff_of_eq (Bool.not_eq_true _)

end Listing

section Sorting

variable {α : Type} {r : α → α → Prop} [DecidableRel r]

theorem filter_orderedInsert_of_neg {keep : α → Bool} {a : α} (hDrop : keep a = false)
    (rows : List α) : (rows.orderedInsert r a).filter keep = rows.filter keep := by
  induction rows with
  | nil => simp [hDrop]
  | cons b rows ih =>
    rw [List.orderedInsert_cons]
    split
    · rw [List.filter_cons_of_neg (by simp [hDrop])]
    · rw [List.filter_cons, List.filter_cons, ih]

theorem filter_orderedInsert_of_pos [IsTrans α r] {keep : α → Bool} {a : α} (hKeep : keep a = true)
    {rows : List α} (hSorted : rows.Pairwise r) :
    (rows.orderedInsert r a).filter keep = (rows.filter keep).orderedInsert r a := by
  induction rows with
  | nil => simp [hKeep]
  | cons b rows ih =>
    rw [List.pairwise_cons] at hSorted
    rw [List.orderedInsert_cons]
    split
    · rename_i hBefore
      have hAll : ∀ c ∈ (b :: rows).filter keep, r a c := by
        intro c hc
        rcases List.mem_cons.mp (List.mem_filter.mp hc).1 with rfl | hLater
        · exact hBefore
        · exact IsTrans.trans a b c hBefore (hSorted.1 c hLater)
      rw [List.filter_cons_of_pos hKeep]
      cases hRest : (b :: rows).filter keep with
      | nil => rfl
      | cons c rest =>
        rw [List.orderedInsert_cons, if_pos]
        exact hAll c (hRest ▸ List.mem_cons_self)
    · rename_i hAfter
      rw [List.filter_cons, List.filter_cons, ih hSorted.2]
      split
      · rw [List.orderedInsert_cons, if_neg hAfter]
      · rfl

/-- A stable sort commutes with a filter. -/
theorem filter_insertionSort [Std.Total r] [IsTrans α r] (keep : α → Bool) (rows : List α) :
    (rows.insertionSort r).filter keep = (rows.filter keep).insertionSort r := by
  induction rows with
  | nil => rfl
  | cons a rows ih =>
    rw [List.insertionSort_cons]
    cases hKeep : keep a with
    | true =>
      rw [filter_orderedInsert_of_pos hKeep (List.pairwise_insertionSort r rows), ih,
        List.filter_cons_of_pos hKeep, List.insertionSort_cons]
    | false =>
      rw [filter_orderedInsert_of_neg hKeep, ih, List.filter_cons_of_neg (by simp [hKeep])]

/-- `SELECT ... WHERE ... ORDER BY ...` -/
def select (r : α → α → Prop) [DecidableRel r] (wanted : α → Bool) (table : List α) : List α :=
  (table.filter wanted).insertionSort r

theorem filter_select [Std.Total r] [IsTrans α r] (wanted keep : α → Bool) (table : List α) :
    (select r wanted table).filter keep = select r (fun row => keep row && wanted row) table := by
  rw [select, filter_insertionSort, List.filter_filter, select]

theorem countP_select (wanted keep : α → Bool) (table : List α) :
    (select r wanted table).countP keep = table.countP fun row => keep row && wanted row := by
  rw [select, (List.perm_insertionSort r _).countP_eq, List.countP_filter]

end Sorting

end StockAiPlatform.Transaction
