import Mathlib.Data.List.Sort
import Mathlib.Order.Lattice

/-! # The best of a list

Rows ranked by a score, the highest first, and by name among equal scores. Two
stable sorts do it, the one by the score last. Where no two rows share a name
the ranking does not depend on the order of the rows, and a prefix of it holds
the best of them.
-/

namespace StockAiPlatform.Transaction
set_option autoImplicit false

section Ranking

variable {α β γ : Type} [LinearOrder β] [LinearOrder γ] (score : α → β) (name : α → γ)

def Before (a b : α) : Prop := score b < score a ∨ (score a = score b ∧ name a < name b)

def ranking (rows : List α) : List α :=
  (rows.insertionSort fun a b => name a ≤ name b).insertionSort fun a b => score b ≤ score a

variable {score name} {a b c : α} {rows rows' : List α} {n : Nat}

theorem Before.score_le (h : Before score name a b) : score b ≤ score a := by
  rcases h with hLess | ⟨hSame, -⟩
  · exact hLess.le
  · exact hSame.ge

theorem Before.asymm (h : Before score name a b) : ¬ Before score name b a := by
  rcases h with hLess | ⟨hSame, hName⟩
  · rintro (hMore | ⟨hSame, -⟩)
    · exact lt_asymm hLess hMore
    · exact hLess.ne hSame
  · rintro (hMore | ⟨-, hLater⟩)
    · exact hMore.ne hSame
    · exact lt_asymm hName hLater

/-- Before all that rank after a row of no higher score, and of a later name. -/
theorem Before.of_score_le (hScore : score b ≤ score a) (hName : name a < name b) :
    Before score name a b := by
  rcases lt_or_eq_of_le hScore with hLess | hSame
  · exact .inl hLess
  · exact .inr ⟨hSame.symm, hName⟩

theorem perm_ranking (rows : List α) : (ranking score name rows).Perm rows :=
  (List.perm_insertionSort _ _).trans (List.perm_insertionSort _ _)

/-- A row with the first name goes before the rows that do not score higher. -/
theorem pairwise_orderedInsert (hRows : rows.Pairwise (Before score name))
    (hName : ∀ b ∈ rows, name a < name b) :
    (rows.orderedInsert (fun a b => score b ≤ score a) a).Pairwise (Before score name) := by
  induction rows with
  | nil => exact List.pairwise_singleton _ _
  | cons first rows ih =>
    obtain ⟨hFirst, hRest⟩ := List.pairwise_cons.mp hRows
    rw [List.orderedInsert_cons]
    split
    · rename_i hScore
      refine List.pairwise_cons.mpr ⟨fun b hb => .of_score_le ?_ (hName b hb), hRows⟩
      rcases List.mem_cons.mp hb with rfl | hb
      · exact hScore
      · exact (hFirst b hb).score_le.trans hScore
    · rename_i hScore
      refine List.pairwise_cons.mpr
        ⟨fun b hb => ?_, ih hRest fun b hb => hName b (List.mem_cons_of_mem _ hb)⟩
      rcases (List.mem_orderedInsert _).mp hb with rfl | hb
      · exact .inl (not_le.mp hScore)
      · exact hFirst b hb

theorem pairwise_insertionSort_score (hNames : rows.Pairwise fun a b => name a < name b) :
    (rows.insertionSort fun a b => score b ≤ score a).Pairwise (Before score name) := by
  induction rows with
  | nil => exact List.Pairwise.nil
  | cons first rows ih =>
    obtain ⟨hFirst, hRest⟩ := List.pairwise_cons.mp hNames
    rw [List.insertionSort_cons]
    exact pairwise_orderedInsert (ih hRest) fun b hb => hFirst b ((List.mem_insertionSort _).mp hb)

theorem pairwise_ranking (hNames : (rows.map name).Nodup) :
    (ranking score name rows).Pairwise (Before score name) := by
  apply pairwise_insertionSort_score
  have hSorted := List.pairwise_insertionSort (fun a b : α => name a ≤ name b) rows
  have hApart : (rows.insertionSort fun a b => name a ≤ name b).Pairwise
      fun a b => name a ≠ name b :=
    List.pairwise_map.mp (((List.perm_insertionSort _ rows).map name).nodup_iff.mpr hNames)
  exact (hSorted.and hApart).imp fun h => lt_of_le_of_ne h.1 h.2

theorem ranking_eq_of_perm (hPerm : rows.Perm rows') (hNames : (rows.map name).Nodup) :
    ranking score name rows = ranking score name rows' := by
  have hNames' : (rows'.map name).Nodup := (hPerm.map name).nodup_iff.mp hNames
  refine List.Perm.eq_of_pairwise ?_ (pairwise_ranking hNames) (pairwise_ranking hNames')
    ((perm_ranking rows).trans (hPerm.trans (perm_ranking rows').symm))
  intro a b _ _ hBefore hAfter
  exact absurd hAfter hBefore.asymm

/-- A row that is left out of a prefix comes after every row in it. -/
theorem rel_of_notMem_take {r : α → α → Prop} (hRows : rows.Pairwise r) (ha : a ∈ rows.take n)
    (hb : b ∈ rows) (hOut : b ∉ rows.take n) : r a b := by
  rw [← List.take_append_drop n rows] at hRows hb
  have hRest := (List.mem_append.mp hb).resolve_left hOut
  exact (List.pairwise_append.mp hRows).2.2 a ha b hRest

end Ranking

end StockAiPlatform.Transaction
