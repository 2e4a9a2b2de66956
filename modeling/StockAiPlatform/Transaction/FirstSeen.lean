import Mathlib.Data.List.Nodup
import Mathlib.Tactic.Tauto

/-! # The first and the last of a key

A pass over keys that lets each one through unless it was seen before the pass
or earlier in it: every unseen key gets through, exactly once. A pass that
overwrites leaves what was written last.
-/

namespace StockAiPlatform.Transaction
set_option autoImplicit false

section FirstSeen

variable {κ : Type} [DecidableEq κ]

def firstSeen : List κ → List κ → List κ
  | _, [] => []
  | seen, key :: keys =>
    if key ∈ seen then firstSeen seen keys else key :: firstSeen (key :: seen) keys

theorem firstSeen_cons_of_mem {seen : List κ} {key : κ} (h : key ∈ seen) (keys : List κ) :
    firstSeen seen (key :: keys) = firstSeen seen keys := if_pos h

theorem firstSeen_cons_of_notMem {seen : List κ} {key : κ} (h : key ∉ seen) (keys : List κ) :
    firstSeen seen (key :: keys) = key :: firstSeen (key :: seen) keys := if_neg h

theorem mem_firstSeen {seen keys : List κ} {key : κ} :
    key ∈ firstSeen seen keys ↔ key ∈ keys ∧ key ∉ seen := by
  induction keys generalizing seen with
  | nil => simp [firstSeen]
  | cons head keys ih =>
    by_cases hHead : head ∈ seen
    · rw [firstSeen_cons_of_mem hHead, ih, List.mem_cons]
      constructor
      · rintro ⟨hMem, hNew⟩
        exact ⟨.inr hMem, hNew⟩
      · rintro ⟨rfl | hMem, hNew⟩
        · exact absurd hHead hNew
        · exact ⟨hMem, hNew⟩
    · rw [firstSeen_cons_of_notMem hHead, List.mem_cons, ih, List.mem_cons, List.mem_cons, not_or]
      constructor
      · rintro (rfl | ⟨hMem, -, hNew⟩)
        · exact ⟨.inl rfl, hHead⟩
        · exact ⟨.inr hMem, hNew⟩
      · rintro ⟨hKey, hNew⟩
        by_cases hSame : key = head
        · exact .inl hSame
        · exact .inr ⟨hKey.resolve_left hSame, hSame, hNew⟩

theorem nodup_firstSeen (seen keys : List κ) : (firstSeen seen keys).Nodup := by
  induction keys generalizing seen with
  | nil => exact List.nodup_nil
  | cons head keys ih =>
    by_cases hHead : head ∈ seen
    · rw [firstSeen_cons_of_mem hHead]
      exact ih seen
    · rw [firstSeen_cons_of_notMem hHead, List.nodup_cons]
      refine ⟨?_, ih (head :: seen)⟩
      intro hMem
      exact (mem_firstSeen.mp hMem).2 List.mem_cons_self

/-! ## Rows by their key -/

variable {α : Type} (key : α → κ)

/-- The rows whose key was not seen before them. -/
def firstOfKey : List κ → List α → List α
  | _, [] => []
  | seen, row :: rows =>
    if key row ∈ seen then firstOfKey seen rows else row :: firstOfKey (key row :: seen) rows

theorem firstOfKey_cons_of_mem {seen : List κ} {row : α} (h : key row ∈ seen) (rows : List α) :
    firstOfKey key seen (row :: rows) = firstOfKey key seen rows := if_pos h

theorem firstOfKey_cons_of_notMem {seen : List κ} {row : α} (h : key row ∉ seen) (rows : List α) :
    firstOfKey key seen (row :: rows) = row :: firstOfKey key (key row :: seen) rows := if_neg h

theorem map_firstOfKey (seen : List κ) (rows : List α) :
    (firstOfKey key seen rows).map key = firstSeen seen (rows.map key) := by
  induction rows generalizing seen with
  | nil => rfl
  | cons head rows ih =>
    by_cases hHead : key head ∈ seen
    · rw [firstOfKey_cons_of_mem key hHead, List.map_cons, firstSeen_cons_of_mem hHead, ih]
    · rw [firstOfKey_cons_of_notMem key hHead, List.map_cons, List.map_cons,
        firstSeen_cons_of_notMem hHead, ih]

theorem nodup_map_firstOfKey (seen : List κ) (rows : List α) :
    ((firstOfKey key seen rows).map key).Nodup := by
  rw [map_firstOfKey]
  exact nodup_firstSeen seen _

/-- A row gets through if its key is new and no row before it has the key. -/
theorem mem_firstOfKey {seen : List κ} {rows : List α} {row : α} :
    row ∈ firstOfKey key seen rows ↔
      key row ∉ seen ∧ rows.find? (fun other => decide (key other = key row)) = some row := by
  induction rows generalizing seen with
  | nil => simp [firstOfKey]
  | cons head rows ih =>
    by_cases hSame : key head = key row
    · have hFind : (head :: rows).find? (fun other => decide (key other = key row)) = some head :=
        List.find?_cons_of_pos (p := fun other => decide (key other = key row)) (decide_eq_true hSame)
      rw [hFind, Option.some.injEq]
      by_cases hHead : key head ∈ seen
      · rw [firstOfKey_cons_of_mem key hHead, ih]
        have hSeen : key row ∈ seen := hSame ▸ hHead
        exact iff_of_false (fun h => h.1 hSeen) fun h => h.1 hSeen
      · rw [firstOfKey_cons_of_notMem key hHead, List.mem_cons, ih, hSame]
        have hNew : key row ∉ seen := hSame ▸ hHead
        constructor
        · rintro (rfl | ⟨hNot, -⟩)
          · exact ⟨hNew, rfl⟩
          · exact absurd List.mem_cons_self hNot
        · rintro ⟨-, rfl⟩
          exact .inl rfl
    · have hFind : (head :: rows).find? (fun other => decide (key other = key row)) =
          rows.find? fun other => decide (key other = key row) :=
        List.find?_cons_of_neg (p := fun other => decide (key other = key row))
          (by rwa [decide_eq_true_eq])
      rw [hFind]
      have hNe : row ≠ head := by
        rintro rfl
        exact hSame rfl
      by_cases hHead : key head ∈ seen
      · rw [firstOfKey_cons_of_mem key hHead, ih]
      · rw [firstOfKey_cons_of_notMem key hHead, List.mem_cons, ih, List.mem_cons, not_or]
        constructor
        · rintro (rfl | ⟨⟨-, hNew⟩, hFirst⟩)
          · exact absurd rfl hNe
          · exact ⟨hNew, hFirst⟩
        · rintro ⟨hNew, hFirst⟩
          exact .inr ⟨⟨Ne.symm hSame, hNew⟩, hFirst⟩

theorem firstOfKey_congr {seen seen' : List κ} (h : ∀ k, k ∈ seen ↔ k ∈ seen') (rows : List α) :
    firstOfKey key seen rows = firstOfKey key seen' rows := by
  induction rows generalizing seen seen' with
  | nil => rfl
  | cons head rows ih =>
    by_cases hHead : key head ∈ seen
    · rw [firstOfKey_cons_of_mem key hHead, firstOfKey_cons_of_mem key ((h _).mp hHead), ih h]
    · rw [firstOfKey_cons_of_notMem key hHead,
        firstOfKey_cons_of_notMem key fun hMem => hHead ((h _).mpr hMem)]
      have hLonger : ∀ k, k ∈ key head :: seen ↔ k ∈ key head :: seen' := fun k => by
        rw [List.mem_cons, List.mem_cons, h]
      rw [ih hLonger]

/-- A second pass goes on with what the first let through. -/
theorem firstOfKey_append (seen : List κ) (rows rows' : List α) :
    firstOfKey key seen (rows ++ rows') = firstOfKey key seen rows ++
      firstOfKey key (seen ++ (firstOfKey key seen rows).map key) rows' := by
  induction rows generalizing seen with
  | nil => simp [firstOfKey]
  | cons head rows ih =>
    by_cases hHead : key head ∈ seen
    · rw [List.cons_append, firstOfKey_cons_of_mem key hHead, firstOfKey_cons_of_mem key hHead, ih]
    · rw [List.cons_append, firstOfKey_cons_of_notMem key hHead, firstOfKey_cons_of_notMem key hHead,
        ih, List.cons_append, List.map_cons]
      congr 2
      apply firstOfKey_congr
      intro k
      simp only [List.mem_append, List.mem_cons]
      tauto

theorem firstOfKey_eq_nil {seen : List κ} {rows : List α} (h : ∀ row ∈ rows, key row ∈ seen) :
    firstOfKey key seen rows = [] := by
  induction rows with
  | nil => rfl
  | cons head rows ih =>
    rw [firstOfKey_cons_of_mem key (h head List.mem_cons_self)]
    exact ih fun row hRow => h row (List.mem_cons_of_mem head hRow)

end FirstSeen

section LastWrite

variable {σ α β : Type} {step : σ → α → σ} {write : α → Option β}

theorem read_foldl_lastWrite (read : σ → β) (hStep : ∀ s a, read (step s a) = (write a).getD (read s))
    (rows : List α) (s : σ) :
    read (rows.foldl step s) = ((rows.filterMap write).getLast?).getD (read s) := by
  induction rows generalizing s with
  | nil => rfl
  | cons row rows ih =>
    rw [List.foldl_cons, ih, hStep]
    cases hWrite : write row with
    | none =>
      rw [List.filterMap_cons_none hWrite]
      rfl
    | some value =>
      rw [List.filterMap_cons_some hWrite, List.getLast?_cons]
      rfl

end LastWrite

end StockAiPlatform.Transaction
