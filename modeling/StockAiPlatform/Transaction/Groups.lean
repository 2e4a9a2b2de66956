import StockAiPlatform.Transaction.FirstSeen
import Mathlib.Algebra.BigOperators.Group.List.Basic
import Mathlib.Algebra.Order.Ring.Nat

/-! # Groups and outer joins

Rows put under their keys, one group for each key in the order of its first
row, are together the rows again. An outer join on a column that is unique on
the right keeps every row of the left exactly once.
-/

namespace StockAiPlatform.Transaction
set_option autoImplicit false

section Groups

variable {α κ : Type} [DecidableEq κ] {key : α → κ} {rows : List α} {keys : List κ}

def keysOf (key : α → κ) (rows : List α) : List κ := firstSeen [] (rows.map key)

def group (key : α → κ) (rows : List α) (k : κ) : List α := rows.filter fun row => key row == k

theorem mem_keysOf {k : κ} : k ∈ keysOf key rows ↔ ∃ row ∈ rows, key row = k := by
  rw [keysOf, mem_firstSeen, List.mem_map]
  exact and_iff_left List.not_mem_nil

theorem nodup_keysOf : (keysOf key rows).Nodup := nodup_firstSeen [] (rows.map key)

theorem mem_group {k : κ} {row : α} : row ∈ group key rows k ↔ row ∈ rows ∧ key row = k := by
  rw [group, List.mem_filter, beq_iff_eq]

theorem group_ne_nil {k : κ} (h : k ∈ keysOf key rows) : group key rows k ≠ [] := by
  obtain ⟨row, hRow, hKey⟩ := mem_keysOf.mp h
  exact List.ne_nil_of_mem (mem_group.mpr ⟨hRow, hKey⟩)

theorem group_filter_of_ne {first k : κ} (h : k ≠ first) :
    group key (rows.filter fun row => !(key row == first)) k = group key rows k := by
  rw [group, group, List.filter_filter]
  apply List.filter_congr
  intro row _
  cases hKey : key row == k with
  | false => rfl
  | true =>
    rw [beq_iff_eq] at hKey
    have hOther : (key row == first) = false := beq_eq_false_iff_ne.mpr (hKey ▸ h)
    rw [hOther]
    rfl

/-- The groups of keys that cover the rows are the rows in another order. -/
theorem flatMap_group_perm (hNodup : keys.Nodup) (hCovers : ∀ row ∈ rows, key row ∈ keys) :
    (keys.flatMap (group key rows)).Perm rows := by
  induction keys generalizing rows with
  | nil =>
    have hNone : rows = [] := List.eq_nil_iff_forall_not_mem.mpr fun row hRow =>
      List.not_mem_nil (hCovers row hRow)
    rw [hNone]
    exact List.Perm.refl _
  | cons first keys ih =>
    rw [List.nodup_cons] at hNodup
    have hRest : ∀ row ∈ rows.filter fun row => !(key row == first), key row ∈ keys := by
      intro row hRow
      obtain ⟨hMem, hOther⟩ := List.mem_filter.mp hRow
      rw [Bool.not_eq_true', beq_eq_false_iff_ne] at hOther
      exact (List.mem_cons.mp (hCovers row hMem)).resolve_left hOther
    have hSame : keys.flatMap (group key (rows.filter fun row => !(key row == first))) =
        keys.flatMap (group key rows) := by
      apply List.flatMap_congr
      intro k hk
      exact group_filter_of_ne (ne_of_mem_of_not_mem hk hNodup.1)
    have hGroups := ih hNodup.2 hRest
    rw [hSame] at hGroups
    rw [List.flatMap_cons]
    exact (hGroups.append_left _).trans (List.filter_append_perm (fun row => key row == first) rows)

variable (key rows) in
/-- A row is in the group of one key at most. -/
theorem sum_length_group_le (hNodup : keys.Nodup) :
    (keys.map fun k => (group key rows k).length).sum ≤ rows.length := by
  have hKept : keys.flatMap (group key (rows.filter fun row => decide (key row ∈ keys))) =
      keys.flatMap (group key rows) := by
    apply List.flatMap_congr
    intro k hk
    rw [group, group, List.filter_filter]
    apply List.filter_congr
    intro row _
    cases hKey : key row == k with
    | false => rfl
    | true =>
      rw [beq_iff_eq] at hKey
      rw [hKey, Bool.true_and, decide_eq_true_iff]
      exact hk
  have hPerm : (keys.flatMap (group key rows)).Perm (rows.filter fun row => decide (key row ∈ keys)) := by
    rw [← hKept]
    exact flatMap_group_perm hNodup fun row hRow => of_decide_eq_true (List.mem_filter.mp hRow).2
  rw [← List.length_flatMap, hPerm.length_eq]
  exact List.length_filter_le _ _

theorem flatMap_keysOf_perm : ((keysOf key rows).flatMap (group key rows)).Perm rows :=
  flatMap_group_perm nodup_keysOf fun row hRow => mem_keysOf.mpr ⟨row, hRow, rfl⟩

theorem sum_countP_group (keep : α → Bool) :
    ((keysOf key rows).map fun k => (group key rows k).countP keep).sum = rows.countP keep := by
  have hPerm : ((keysOf key rows).flatMap (group key rows)).Perm rows := flatMap_keysOf_perm
  rw [← hPerm.countP_eq, List.countP_flatMap]
  rfl

theorem sum_length_group : ((keysOf key rows).map fun k => (group key rows k).length).sum =
    rows.length := by
  have hPerm : ((keysOf key rows).flatMap (group key rows)).Perm rows := flatMap_keysOf_perm
  rw [← hPerm.length_eq, List.length_flatMap]

theorem sum_map_group (weight : α → Nat) :
    ((keysOf key rows).map fun k => ((group key rows k).map weight).sum).sum =
      (rows.map weight).sum := by
  have hPerm : ((keysOf key rows).flatMap (group key rows)).Perm rows := flatMap_keysOf_perm
  rw [← (hPerm.map weight).sum_eq]
  generalize keysOf key rows = keys
  induction keys with
  | nil => rfl
  | cons k keys ih =>
    rw [List.map_cons, List.sum_cons, ih, List.flatMap_cons, List.map_append, List.sum_append]

theorem group_eq_self {k : κ} (h : keysOf key rows = [k]) : group key rows k = rows := by
  rw [group, List.filter_eq_self]
  intro row hRow
  have hKey : key row ∈ keysOf key rows := mem_keysOf.mpr ⟨row, hRow, rfl⟩
  rw [h, List.mem_singleton] at hKey
  exact beq_iff_eq.mpr hKey

end Groups

section Join

variable {α β κ : Type} {on : α → β → Bool}

/-- `LEFT OUTER JOIN` -/
def outerJoin (on : α → β → Bool) (left : List α) (right : List β) : List (α × Option β) :=
  left.flatMap fun a =>
    match right.filter (on a) with
    | [] => [(a, none)]
    | found => found.map fun b => (a, some b)

variable {left : List α} {right : List β}

theorem outerJoin_eq_map (h : ∀ a, (right.filter (on a)).length ≤ 1) :
    outerJoin on left right = left.map fun a => (a, right.find? (on a)) := by
  rw [outerJoin, List.map_eq_flatMap]
  apply List.flatMap_congr
  intro a _
  have hOne := h a
  rw [← List.head?_filter]
  cases hFound : right.filter (on a) with
  | nil => rfl
  | cons b rest =>
    rw [hFound, List.length_cons] at hOne
    have hRest : rest = [] := List.eq_nil_of_length_eq_zero (by omega)
    rw [hRest]
    rfl

theorem length_filter_key_le_one [DecidableEq κ] {key : β → κ} (hUnique : (right.map key).Nodup)
    (k : κ) : (right.filter fun b => k == key b).length ≤ 1 := by
  have hCount := List.nodup_iff_count_le_one.mp hUnique k
  rw [List.count, List.countP_map, List.countP_eq_length_filter] at hCount
  refine le_of_eq_of_le (congrArg List.length (List.filter_congr fun b _ => ?_)) hCount
  exact Bool.beq_comm

end Join

end StockAiPlatform.Transaction
