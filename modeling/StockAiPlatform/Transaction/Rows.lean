import StockAiPlatform.Transaction.Table
import Mathlib.Algebra.BigOperators.Group.List.Basic
import Mathlib.Algebra.Group.Basic
import Mathlib.Tactic.Abel

/-! # Rows a condition picks

An UPDATE or DELETE of the rows a condition picks, whether or not the table
has a key of its own. Where an UPDATE picks one row, a sum over the table
changes by that row alone.
-/

namespace StockAiPlatform.Transaction
set_option autoImplicit false

variable {α : Type}

def updateWhere (here : α → Bool) (change : α → α) (rows : List α) : List α :=
  rows.map fun row => if here row then change row else row

variable {here keep : α → Bool} {change : α → α} {rows : List α}

theorem updateWhere_cons (row : α) : updateWhere here change (row :: rows) =
    (if here row then change row else row) :: updateWhere here change rows := rfl

theorem updateWhere_eq_self (h : ∀ row ∈ rows, here row = false) :
    updateWhere here change rows = rows := by
  refine (List.map_congr_left fun row hRow => ?_).trans (List.map_id rows)
  rw [h row hRow]
  rfl

/-- An update that moves no row into or out of a part of the table acts on that part alone. -/
theorem filter_updateWhere (h : ∀ row, here row = true → keep (change row) = keep row) :
    (updateWhere here change rows).filter keep = updateWhere here change (rows.filter keep) := by
  induction rows with
  | nil => rfl
  | cons row rows ih =>
    have hSame : keep (if here row then change row else row) = keep row := by
      split
      · exact h row ‹_›
      · rfl
    rw [updateWhere_cons, List.filter_cons, List.filter_cons, hSame, ih]
    split
    · rw [updateWhere_cons]
    · rfl

theorem filter_updateWhere_of_apart (h : ∀ row, here row = true → keep (change row) = keep row)
    (hApart : ∀ row ∈ rows, keep row = true → here row = false) :
    (updateWhere here change rows).filter keep = rows.filter keep := by
  rw [filter_updateWhere h]
  apply updateWhere_eq_self
  intro row hRow
  exact hApart row (List.mem_of_mem_filter hRow) (List.of_mem_filter hRow)

theorem filter_updateWhere_of_disjoint (h : ∀ row, here row = true → keep (change row) = keep row)
    (hApart : ∀ row, keep row = true → here row = false) :
    (updateWhere here change rows).filter keep = rows.filter keep :=
  filter_updateWhere_of_apart h fun row _ => hApart row

theorem filter_updateWhere_of_single {row : α} (hSingle : rows.filter here = [row])
    (h : ∀ row, here row = true → here (change row) = true) :
    (updateWhere here change rows).filter here = [change row] := by
  have hHere : here row = true :=
    List.of_mem_filter (hSingle ▸ List.mem_singleton_self row)
  rw [filter_updateWhere fun row hRow => (h row hRow).trans hRow.symm, hSingle, updateWhere_cons,
    if_pos hHere]
  rfl

theorem sum_updateWhere {β : Type} [AddCommGroup β] (g : α → β) {row : α}
    (hSingle : rows.filter here = [row]) :
    ((updateWhere here change rows).map g).sum = (rows.map g).sum + (g (change row) - g row) := by
  induction rows with
  | nil => cases hSingle
  | cons first rows ih =>
    rw [updateWhere_cons, List.map_cons, List.sum_cons, List.map_cons, List.sum_cons]
    by_cases hHere : here first = true
    · rw [List.filter_cons_of_pos hHere] at hSingle
      obtain ⟨rfl, hNone⟩ := List.cons_eq_cons.mp hSingle
      rw [if_pos hHere, updateWhere_eq_self]
      · abel
      · intro other hOther
        exact eq_false_of_ne_true (List.filter_eq_nil_iff.mp hNone other hOther)
    · rw [List.filter_cons_of_neg hHere] at hSingle
      rw [if_neg hHere, ih hSingle, add_assoc]

theorem mem_updateWhere {row : α} : row ∈ updateWhere here change rows ↔
    (∃ before ∈ rows, here before = true ∧ row = change before) ∨
      (row ∈ rows ∧ here row = false) := by
  rw [updateWhere, List.mem_map]
  constructor
  · rintro ⟨before, hMem, rfl⟩
    cases hHere : here before with
    | true => exact .inl ⟨before, hMem, hHere, if_pos rfl⟩
    | false => exact .inr ⟨hMem, hHere⟩
  · rintro (⟨before, hMem, hHere, rfl⟩ | ⟨hMem, hHere⟩)
    · exact ⟨before, hMem, if_pos hHere⟩
    · exact ⟨row, hMem, by rw [hHere]; rfl⟩

namespace Table

open Keyed

variable [Keyed α]

/-- UPDATE of the rows a condition picks. The change may not touch the key. -/
def updateWhere (t : Table α) (here : α → Bool) (change : α → α)
    (hKey : ∀ row, key (change row) = key row) : Table α where
  rows := Transaction.updateWhere here change t.rows
  nodup := by
    have hKeys : (Transaction.updateWhere here change t.rows).map key = t.rows.map key := by
      rw [Transaction.updateWhere, List.map_map]
      apply List.map_congr_left
      intro row _
      simp only [Function.comp_apply]
      split
      · exact hKey row
      · rfl
    rw [hKeys]
    exact t.nodup

/-- DELETE of the rows a condition picks. -/
def deleteWhere (t : Table α) (here : α → Bool) : Table α where
  rows := t.rows.filter fun row => !here row
  nodup := t.nodup.sublist (List.filter_sublist.map key)

@[simp] theorem rows_updateWhere (t : Table α) (here : α → Bool) (change : α → α)
    (hKey : ∀ row, key (change row) = key row) :
    (t.updateWhere here change hKey).rows = Transaction.updateWhere here change t.rows := rfl

@[simp] theorem rows_deleteWhere (t : Table α) (here : α → Bool) :
    (t.deleteWhere here).rows = t.rows.filter fun row => !here row := rfl

theorem mem_rows_deleteWhere {t : Table α} {here : α → Bool} {row : α} :
    row ∈ (t.deleteWhere here).rows ↔ row ∈ t.rows ∧ here row = false := by
  rw [rows_deleteWhere, List.mem_filter, Bool.not_eq_true']

/-- A DELETE that picks no row of a part of the table leaves that part as it is. -/
theorem filter_deleteWhere {t : Table α} {keep : α → Bool}
    (hApart : ∀ row ∈ t.rows, keep row = true → here row = false) :
    (t.deleteWhere here).rows.filter keep = t.rows.filter keep := by
  rw [rows_deleteWhere, List.filter_filter]
  apply List.filter_congr
  intro row hMem
  cases hKeep : keep row with
  | true => rw [hApart row hMem hKeep]; rfl
  | false => rfl

end Table

end StockAiPlatform.Transaction
