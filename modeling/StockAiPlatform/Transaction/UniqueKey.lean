import StockAiPlatform.Transaction.Table

/-! # Rows under a unique key

A look-up by the columns of a unique key finds every row that carries them. An
insert under a key that found nothing leaves all other look-ups as they were.
-/

namespace StockAiPlatform.Transaction.Table
set_option autoImplicit false

open Keyed

variable {α κ : Type} [Keyed α] [DecidableEq κ]

def byKey (t : Table α) (ukey : α → κ) (k : κ) : List α := t.rows.filter fun row => ukey row == k

/-- Every look-up finds what it found before, except that one that found nothing may find one row. -/
def FillsTo (ukey : α → κ) (t t' : Table α) : Prop :=
  ∀ k, t'.byKey ukey k = t.byKey ukey k ∨
    (t.byKey ukey k = [] ∧ ∃ row, t'.byKey ukey k = [row])

variable {ukey : α → κ} {t t' t'' : Table α} {k : κ}

theorem byKey_insert {row : α} (hKey : key row = t.nextKey) :
    (t.insert row).byKey ukey k = t.byKey ukey k ++ (if ukey row = k then [row] else []) := by
  rw [byKey, rows_insert_of_key_eq hKey, List.filter_append, List.filter_cons, List.filter_nil]
  simp only [beq_iff_eq]
  rfl

namespace FillsTo

theorem refl (ukey : α → κ) (t : Table α) : FillsTo ukey t t := fun _ => .inl rfl

theorem trans (h : FillsTo ukey t t') (h' : FillsTo ukey t' t'') : FillsTo ukey t t'' := by
  intro k
  rcases h' k with hSame' | ⟨hNone', row, hRow⟩
  · rw [hSame']
    exact h k
  · rcases h k with hSame | ⟨-, row, hSome⟩
    · exact .inr ⟨hSame ▸ hNone', row, hRow⟩
    · exact absurd (hNone'.symm.trans hSome) (List.cons_ne_nil row []).symm

theorem insert {row : α} (hKey : key row = t.nextKey) (hNone : t.byKey ukey (ukey row) = []) :
    FillsTo ukey t (t.insert row) := by
  intro k
  rw [byKey_insert hKey]
  split
  · rename_i hHere
    subst hHere
    exact .inr ⟨hNone, row, by rw [hNone]; rfl⟩
  · exact .inl (List.append_nil _)

theorem single (h : FillsTo ukey t t') {row : α} (hRow : t.byKey ukey k = [row]) :
    t'.byKey ukey k = [row] := by
  rcases h k with hSame | ⟨hNone, -⟩
  · rw [hSame, hRow]
  · rw [hRow] at hNone
    exact absurd hNone (List.cons_ne_nil row [])

theorem eq_nil (h : FillsTo ukey t t') (hNone : t'.byKey ukey k = []) : t.byKey ukey k = [] := by
  rcases h k with hSame | ⟨hNone, -⟩
  · rw [← hSame, hNone]
  · exact hNone

/-- A look-up finds several rows after exactly if it did before. -/
theorem length_le_one_iff (h : FillsTo ukey t t') :
    (t'.byKey ukey k).length ≤ 1 ↔ (t.byKey ukey k).length ≤ 1 := by
  rcases h k with hSame | ⟨hNone, row, hRow⟩
  · rw [hSame]
  · rw [hNone, hRow]
    exact ⟨fun _ => Nat.zero_le 1, fun _ => Nat.le_refl 1⟩

end FillsTo

theorem byKey_insert_self (row : α) (hKey : key row = t.nextKey)
    (hNone : t.byKey ukey (ukey row) = []) : (t.insert row).byKey ukey (ukey row) = [row] := by
  rw [byKey_insert hKey, hNone, if_pos rfl]
  rfl

theorem byKey_insert_of_ne {row : α} (hKey : key row = t.nextKey) (hOther : ukey row ≠ k) :
    (t.insert row).byKey ukey k = t.byKey ukey k := by
  rw [byKey_insert hKey, if_neg hOther, List.append_nil]

end StockAiPlatform.Transaction.Table
