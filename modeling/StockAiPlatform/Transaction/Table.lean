import Mathlib.Data.List.Nodup
import Mathlib.Tactic.Common

/-! # Tables with a primary key

The rows of a table in insertion order, no two under one key. An insert under
a taken key is refused and leaves the table as it is.
-/

namespace StockAiPlatform.Transaction
set_option autoImplicit false

class Keyed (α : Type) where
  key : α → Nat

open Keyed

structure Table (α : Type) [Keyed α] where
  rows : List α
  nodup : (rows.map key).Nodup

namespace Table

variable {α : Type} [Keyed α]

def empty : Table α := ⟨[], List.nodup_nil⟩

instance : EmptyCollection (Table α) := ⟨empty⟩

def find? (t : Table α) (k : Nat) : Option α := t.rows.find? fun a => key a == k

/-- The key the store hands out next: one past the largest in use. -/
def nextKey (t : Table α) : Nat := t.rows.foldr (fun a n => max (key a) n) 0 + 1

def insert (t : Table α) (a : α) : Table α :=
  if h : key a ∈ t.rows.map key then t
  else ⟨t.rows ++ [a], by
    rw [List.map_append, List.nodup_append]
    refine ⟨t.nodup, List.nodup_singleton _, ?_⟩
    intro x hx y hy
    rw [List.map_singleton, List.mem_singleton] at hy
    rintro rfl
    exact h (hy ▸ hx)⟩

/-- UPDATE of the row under `k`. The change may not touch the key. -/
def modify (t : Table α) (k : Nat) (f : α → α) (hf : ∀ a, key (f a) = key a) : Table α where
  rows := t.rows.map fun a => if key a = k then f a else a
  nodup := by
    have hKeys : (t.rows.map fun a => if key a = k then f a else a).map key = t.rows.map key := by
      rw [List.map_map]
      apply List.map_congr_left
      intro a _
      simp only [Function.comp_apply]
      split
      · exact hf a
      · rfl
    rw [hKeys]
    exact t.nodup

theorem ext_rows {t u : Table α} (h : t.rows = u.rows) : t = u := by
  cases t
  cases u
  simp only at h
  subst h
  rfl

theorem find?_eq_some_iff (t : Table α) (k : Nat) (a : α) :
    t.find? k = some a ↔ a ∈ t.rows ∧ key a = k := by
  constructor
  · intro h
    exact ⟨List.mem_of_find?_eq_some h, by simpa using List.find?_some h⟩
  · rintro ⟨hMem, rfl⟩
    cases hFind : t.find? (key a) with
    | none =>
      have hNone := List.find?_eq_none.mp hFind a hMem
      simp at hNone
    | some b =>
      have hKey : key b = key a := by simpa using List.find?_some hFind
      rw [List.inj_on_of_nodup_map t.nodup (List.mem_of_find?_eq_some hFind) hMem hKey]

theorem find?_eq_none_iff (t : Table α) (k : Nat) :
    t.find? k = none ↔ ∀ a ∈ t.rows, key a ≠ k := by
  simp [find?]

theorem key_of_find? {t : Table α} {k : Nat} {a : α} (h : t.find? k = some a) : key a = k :=
  ((find?_eq_some_iff t k a).mp h).2

theorem mem_of_find? {t : Table α} {k : Nat} {a : α} (h : t.find? k = some a) : a ∈ t.rows :=
  ((find?_eq_some_iff t k a).mp h).1

theorem key_lt_nextKey (t : Table α) {a : α} (h : a ∈ t.rows) : key a < t.nextKey := by
  have hFold : ∀ rows : List α, a ∈ rows → key a ≤ rows.foldr (fun a n => max (key a) n) 0 := by
    intro rows
    induction rows with
    | nil => simp
    | cons b rows ih =>
      intro hMem
      rcases List.mem_cons.mp hMem with rfl | hMem
      · exact Nat.le_max_left ..
      · exact Nat.le_trans (ih hMem) (Nat.le_max_right ..)
  exact Nat.lt_succ_of_le (hFold t.rows h)

theorem rows_insert_of_key_eq {t : Table α} {a : α} (h : key a = t.nextKey) :
    (t.insert a).rows = t.rows ++ [a] := by
  have hFree : key a ∉ t.rows.map key := by
    intro hMem
    obtain ⟨b, hb, hKey⟩ := List.mem_map.mp hMem
    have := t.key_lt_nextKey hb
    omega
  simp [insert, hFree]

@[simp] theorem rows_modify (t : Table α) (k : Nat) (f : α → α) (hf : ∀ a, key (f a) = key a) :
    (t.modify k f hf).rows = t.rows.map fun a => if key a = k then f a else a := rfl

theorem rows_modify_of_rows_append {t u : Table α} {a : α} (h : key a = t.nextKey)
    (hRows : u.rows = t.rows ++ [a]) (f : α → α) (hf : ∀ a, key (f a) = key a) :
    (u.modify (key a) f hf).rows = t.rows ++ [f a] := by
  rw [rows_modify, hRows, List.map_append, List.map_singleton, if_pos rfl]
  congr 1
  have hKept : ∀ b ∈ t.rows, (if key b = key a then f b else b) = b := by
    intro b hb
    have hLt := t.key_lt_nextKey hb
    exact if_neg (by omega)
  rw [List.map_congr_left hKept, List.map_id']

theorem map_rows_eq_self {t : Table α} {k : Nat} {a : α} (h : t.find? k = some a) {f : α → α}
    (hf : f a = a) : (t.rows.map fun b => if key b = k then f b else b) = t.rows := by
  have hKept : ∀ b ∈ t.rows, (if key b = k then f b else b) = b := by
    intro b hb
    by_cases hKey : key b = k
    · have hSame := (find?_eq_some_iff t k b).mpr ⟨hb, hKey⟩
      rw [h] at hSame
      obtain rfl := Option.some.inj hSame
      rw [if_pos hKey, hf]
    · exact if_neg hKey
  rw [List.map_congr_left hKept, List.map_id']

theorem find?_modify (t : Table α) (k : Nat) (f : α → α) (hf : ∀ a, key (f a) = key a) (j : Nat) :
    (t.modify k f hf).find? j = (t.find? j).map fun a => if j = k then f a else a := by
  cases hFind : t.find? j with
  | none =>
    rw [find?_eq_none_iff] at hFind
    rw [Option.map_none, find?_eq_none_iff]
    intro a ha
    obtain ⟨b, hb, rfl⟩ := List.mem_map.mp ha
    split
    · rw [hf]; exact hFind b hb
    · exact hFind b hb
  | some a =>
    obtain ⟨ha, rfl⟩ := (find?_eq_some_iff t j a).mp hFind
    rw [Option.map_some, find?_eq_some_iff]
    refine ⟨List.mem_map.mpr ⟨a, ha, rfl⟩, ?_⟩
    split
    · exact hf a
    · rfl

theorem modify_modify (t : Table α) (k : Nat) {f g : α → α} (hf : ∀ a, key (f a) = key a)
    (hg : ∀ a, key (g a) = key a) :
    (t.modify k f hf).modify k g hg = t.modify k (g ∘ f) fun a => (hg (f a)).trans (hf a) := by
  apply ext_rows
  simp only [rows_modify, List.map_map]
  apply List.map_congr_left
  intro a _
  simp only [Function.comp_apply]
  by_cases hKey : key a = k
  · rw [if_pos hKey, hf, if_pos hKey, if_pos hKey]
  · rw [if_neg hKey, if_neg hKey, if_neg hKey]

theorem find?_insert_of_some {t : Table α} {k : Nat} {a b : α} (h : t.find? k = some a) :
    (t.insert b).find? k = some a := by
  unfold insert
  split
  · exact h
  · rw [find?, List.find?_append]
    rw [find?] at h
    rw [h]
    rfl

theorem find?_nextKey (t : Table α) : t.find? t.nextKey = none := by
  rw [find?_eq_none_iff]
  intro a ha
  exact Nat.ne_of_lt (t.key_lt_nextKey ha)

theorem find?_insert_of_key_eq {t : Table α} {a : α} (h : key a = t.nextKey) :
    (t.insert a).find? (key a) = some a := by
  rw [find?_eq_some_iff, rows_insert_of_key_eq h]
  exact ⟨List.mem_append_right _ (List.mem_singleton_self a), rfl⟩

/-- A row under the next key can be changed before it is inserted just as well as after. -/
theorem modify_insert {t : Table α} {a : α} (h : key a = t.nextKey) {f : α → α}
    (hf : ∀ a, key (f a) = key a) : (t.insert a).modify (key a) f hf = t.insert (f a) := by
  apply ext_rows
  rw [rows_modify_of_rows_append h (rows_insert_of_key_eq h),
    rows_insert_of_key_eq ((hf a).trans h)]

theorem mem_rows_modify {t : Table α} {k : Nat} {f : α → α} {hf : ∀ a, key (f a) = key a} {a : α} :
    a ∈ (t.modify k f hf).rows ↔
      (∃ b ∈ t.rows, key b = k ∧ a = f b) ∨ (a ∈ t.rows ∧ key a ≠ k) := by
  rw [rows_modify, List.mem_map]
  constructor
  · rintro ⟨b, hb, rfl⟩
    by_cases hKey : key b = k
    · rw [if_pos hKey]
      exact .inl ⟨b, hb, hKey, rfl⟩
    · rw [if_neg hKey]
      exact .inr ⟨hb, hKey⟩
  · rintro (⟨b, hb, hKey, rfl⟩ | ⟨ha, hKey⟩)
    · exact ⟨b, hb, if_pos hKey⟩
    · exact ⟨a, ha, if_neg hKey⟩

end Table

end StockAiPlatform.Transaction
