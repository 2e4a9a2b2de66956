import StockAiPlatform.Transaction.Rows
import Mathlib.Data.List.Nodup

/-! # Upserts under a unique key

A row is written over the one with its key, or added. What is found after a
list of writes is the last of them under the key. Writes that are made again
change nothing.
-/

namespace StockAiPlatform.Transaction
set_option autoImplicit false

variable {α β κ : Type} [DecidableEq κ]

def hasKey (key : α → κ) (k : κ) (row : α) : Bool := decide (key row = k)

/-- `INSERT`, or `UPDATE` of the row under the key -/
def upsertBy (key : α → κ) (rows : List α) (row : α) : List α :=
  if key row ∈ rows.map key then updateWhere (hasKey key (key row)) (fun _ => row) rows
  else rows ++ [row]

def lookup (key : α → κ) (k : κ) (rows : List α) : Option α := rows.find? (hasKey key k)

variable {key : α → κ} {k : κ} {row : α} {rows rows' writes : List α}

theorem hasKey_iff : hasKey key k row = true ↔ key row = k := decide_eq_true_iff

theorem keys_updateWhere (rows : List α) :
    (updateWhere (hasKey key (key row)) (fun _ => row) rows).map key = rows.map key := by
  rw [updateWhere, List.map_map]
  apply List.map_congr_left
  intro other _
  simp only [Function.comp_apply]
  split
  · exact (hasKey_iff.mp ‹_›).symm
  · rfl

theorem keys_upsertBy : (upsertBy key rows row).map key =
    if key row ∈ rows.map key then rows.map key else rows.map key ++ [key row] := by
  rw [upsertBy]
  split
  · exact keys_updateWhere rows
  · rw [List.map_append, List.map_singleton]

theorem nodup_upsertBy (h : (rows.map key).Nodup) : ((upsertBy key rows row).map key).Nodup := by
  rw [keys_upsertBy]
  split
  · exact h
  · exact List.nodup_append_comm.mp (List.nodup_cons.mpr ⟨‹_›, h⟩)

theorem mem_keys_upsertBy : k ∈ (upsertBy key rows row).map key ↔ k = key row ∨ k ∈ rows.map key := by
  rw [keys_upsertBy]
  split
  · rename_i hOld
    exact ⟨.inr, fun h => h.elim (fun hNew => hNew ▸ hOld) id⟩
  · rw [List.mem_append, List.mem_singleton, or_comm]

theorem lookup_eq_none : lookup key k rows = none ↔ k ∉ rows.map key := by
  simp only [lookup, List.find?_eq_none, hasKey_iff, List.mem_map, not_exists, not_and]

theorem lookup_eq_some (h : (rows.map key).Nodup) :
    lookup key k rows = some row ↔ row ∈ rows ∧ key row = k := by
  constructor
  · intro hFound
    exact ⟨List.mem_of_find?_eq_some hFound, hasKey_iff.mp (List.find?_some hFound)⟩
  · rintro ⟨hRow, rfl⟩
    cases hFound : lookup key (key row) rows with
    | none => exact absurd (List.mem_map_of_mem hRow) (lookup_eq_none.mp hFound)
    | some found =>
      have hKey := hasKey_iff.mp (List.find?_some hFound)
      rw [List.inj_on_of_nodup_map h (List.mem_of_find?_eq_some hFound) hRow hKey]

theorem lookup_append : lookup key k (rows ++ rows') = (lookup key k rows).or (lookup key k rows') :=
  List.find?_append

theorem lookup_singleton : lookup key k [row] = if key row = k then some row else none := by
  rw [lookup, List.find?_singleton]
  simp only [hasKey_iff]

theorem lookup_updateWhere_self (h : key row ∈ rows.map key) :
    lookup key (key row) (updateWhere (hasKey key (key row)) (fun _ => row) rows) = some row := by
  induction rows with
  | nil => cases h
  | cons first rows ih =>
    rw [updateWhere_cons, lookup]
    by_cases hHere : hasKey key (key row) first = true
    · rw [if_pos hHere, List.find?_cons_of_pos (hasKey_iff.mpr rfl)]
    · rw [if_neg hHere, List.find?_cons_of_neg hHere]
      rw [List.map_cons, List.mem_cons] at h
      exact ih (h.resolve_left fun hSame => hHere (hasKey_iff.mpr hSame.symm))

theorem lookup_updateWhere_of_ne (h : key row ≠ k) :
    lookup key k (updateWhere (hasKey key (key row)) (fun _ => row) rows) = lookup key k rows := by
  induction rows with
  | nil => rfl
  | cons first rows ih =>
    rw [updateWhere_cons, lookup, lookup, List.find?_cons, List.find?_cons]
    by_cases hHere : hasKey key (key row) first = true
    · have hFirst : hasKey key k first = false := by
        rw [Bool.eq_false_iff, ne_eq, hasKey_iff, hasKey_iff.mp hHere]
        exact h
      have hRow : hasKey key k row = false := by
        rw [Bool.eq_false_iff, ne_eq, hasKey_iff]
        exact h
      rw [if_pos hHere, hRow, hFirst]
      exact ih
    · rw [if_neg hHere]
      split
      · rfl
      · exact ih

theorem lookup_upsertBy : lookup key k (upsertBy key rows row) =
    if key row = k then some row else lookup key k rows := by
  rw [upsertBy]
  split
  · rename_i hOld
    split
    · rename_i hHere
      subst hHere
      exact lookup_updateWhere_self hOld
    · exact lookup_updateWhere_of_ne ‹_›
  · rename_i hNew
    rw [lookup_append, lookup_singleton]
    split
    · rename_i hHere
      rw [← hHere, lookup_eq_none.mpr hNew]
      rfl
    · rw [Option.or_none]

theorem mem_upsertBy {other : α} :
    other ∈ upsertBy key rows row ↔ other = row ∨ (other ∈ rows ∧ key other ≠ key row) := by
  rw [upsertBy]
  split
  · rename_i hOld
    simp only [updateWhere, List.mem_map]
    constructor
    · rintro ⟨first, hFirst, rfl⟩
      by_cases hHere : key first = key row
      · exact .inl (if_pos (hasKey_iff.mpr hHere))
      · rw [if_neg fun h => hHere (hasKey_iff.mp h)]
        exact .inr ⟨hFirst, hHere⟩
    · rintro (rfl | ⟨hMem, hOther⟩)
      · obtain ⟨first, hFirst, hKey⟩ := List.mem_map.mp hOld
        exact ⟨first, hFirst, if_pos (hasKey_iff.mpr hKey)⟩
      · exact ⟨other, hMem, if_neg fun h => hOther (hasKey_iff.mp h)⟩
  · rename_i hNew
    rw [List.mem_append, List.mem_singleton, or_comm]
    refine or_congr_right ⟨fun hMem => ⟨hMem, fun hKey => hNew ?_⟩, And.left⟩
    exact hKey ▸ List.mem_map_of_mem hMem

/-- A write is not seen by a look-up that passes over its key. -/
theorem filter_upsertBy_of_apart {keep : α → Bool}
    (h : ∀ other, key other = key row → keep other = false) :
    (upsertBy key rows row).filter keep = rows.filter keep := by
  rw [upsertBy]
  split
  · refine filter_updateWhere_of_disjoint (fun other hOther => ?_) fun other hKept => ?_
    · rw [h row rfl, h other (hasKey_iff.mp hOther)]
    · rw [Bool.eq_false_iff, ne_eq, hasKey_iff]
      intro hSame
      rw [h other hSame] at hKept
      cases hKept
  · rw [List.filter_append, List.filter_singleton, h row rfl]
    exact List.append_nil _

/-- A row that is there already is not changed by its write. -/
theorem upsertBy_eq_self (hMem : key row ∈ rows.map key) (h : ∀ other ∈ rows, key other = key row →
    other = row) : upsertBy key rows row = rows := by
  rw [upsertBy, if_pos hMem, updateWhere]
  refine (List.map_congr_left fun other hOther => ?_).trans (List.map_id rows)
  split
  · exact (h other hOther (hasKey_iff.mp ‹_›)).symm
  · rfl

theorem countP_upsertBy : (upsertBy key rows row).countP (hasKey key k) =
    if key row = k ∧ k ∉ rows.map key then 1 else rows.countP (hasKey key k) := by
  rw [upsertBy]
  by_cases hOld : key row ∈ rows.map key
  · have hSame : ∀ other : α, hasKey key k (if hasKey key (key row) other then row else other) =
        hasKey key k other := by
      intro other
      split
      · rename_i hHere
        simp only [hasKey, hasKey_iff.mp hHere]
      · rfl
    rw [if_pos hOld, if_neg fun h => h.2 (h.1 ▸ hOld), updateWhere, List.countP_map]
    exact congrArg (rows.countP ·) (funext hSame)
  · rw [if_neg hOld, List.countP_append, List.countP_singleton]
    by_cases hKey : key row = k
    · subst hKey
      have hZero : rows.countP (hasKey key (key row)) = 0 := by
        rw [List.countP_eq_zero]
        intro other hOther hHere
        exact hOld (hasKey_iff.mp hHere ▸ List.mem_map_of_mem hOther)
      rw [hZero, if_pos (hasKey_iff.mpr rfl), if_pos ⟨rfl, hOld⟩]
    · rw [if_neg fun h => hKey (hasKey_iff.mp h), if_neg fun h => hKey h.1, Nat.add_zero]

/-- Where a key is taken at most once, what has the key is what is found. -/
theorem eq_of_lookup_eq_some {found : α} (h : rows.countP (hasKey key k) ≤ 1)
    (hFound : lookup key k rows = some found) (hMem : row ∈ rows) (hKey : key row = k) : row = found := by
  rw [List.countP_eq_length_filter] at h
  rw [lookup, ← List.head?_filter] at hFound
  have hRow : row ∈ rows.filter (hasKey key k) := List.mem_filter.mpr ⟨hMem, hasKey_iff.mpr hKey⟩
  match hRows : rows.filter (hasKey key k) with
  | [] =>
    rw [hRows] at hRow
    cases hRow
  | [only] =>
    rw [hRows] at hRow hFound
    exact (List.mem_singleton.mp hRow).trans (Option.some.inj hFound)
  | first :: second :: rest =>
    rw [hRows] at h
    exact absurd h (by simp)

theorem nodup_foldl_upsertBy (h : (rows.map key).Nodup) :
    ((writes.foldl (upsertBy key) rows).map key).Nodup := by
  induction writes generalizing rows with
  | nil => exact h
  | cons write writes ih => exact ih (nodup_upsertBy h)

theorem mem_keys_foldl_upsertBy : k ∈ (writes.foldl (upsertBy key) rows).map key ↔
    k ∈ writes.map key ∨ k ∈ rows.map key := by
  induction writes generalizing rows with
  | nil => simp
  | cons write writes ih =>
    rw [List.foldl_cons, ih, mem_keys_upsertBy, List.map_cons, List.mem_cons]
    tauto

/-- The last of the writes under a key is what is found there. -/
theorem lookup_foldl_upsertBy : lookup key k (writes.foldl (upsertBy key) rows) =
    (lookup key k writes.reverse).or (lookup key k rows) := by
  induction writes generalizing rows with
  | nil => rfl
  | cons write writes ih =>
    rw [List.foldl_cons, ih, lookup_upsertBy, List.reverse_cons, lookup_append, lookup_singleton,
      Option.or_assoc]
    congr 1
    split <;> rfl

theorem filter_foldl_upsertBy_of_apart {keep : α → Bool}
    (h : ∀ write ∈ writes, ∀ other, key other = key write → keep other = false) :
    (writes.foldl (upsertBy key) rows).filter keep = rows.filter keep := by
  induction writes generalizing rows with
  | nil => rfl
  | cons write writes ih =>
    rw [List.forall_mem_cons] at h
    rw [List.foldl_cons, ih h.2, filter_upsertBy_of_apart h.1]

/-- What is found under a key is what the owner of the key wrote there last. -/
theorem lookup_foldl_owners {ω : Type} [DecidableEq ω] {owners : List ω} {writesOf : ω → List α}
    (owner : ω) (h : ∀ other, other ≠ owner → k ∉ (writesOf other).map key) :
    lookup key k (owners.foldl (fun rows other => (writesOf other).foldl (upsertBy key) rows) rows) =
      if owner ∈ owners then (lookup key k (writesOf owner).reverse).or (lookup key k rows)
      else lookup key k rows := by
  induction owners generalizing rows with
  | nil => rfl
  | cons first owners ih =>
    rw [List.foldl_cons, ih, lookup_foldl_upsertBy]
    by_cases hFirst : first = owner
    · subst hFirst
      rw [if_pos List.mem_cons_self, ← Option.or_assoc, Option.or_self, ite_self]
    · have hNone : lookup key k (writesOf first).reverse = none := by
        rw [lookup_eq_none, List.map_reverse, List.mem_reverse]
        exact h first hFirst
      rw [hNone, Option.none_or]
      simp only [List.mem_cons, Ne.symm hFirst, false_or]

theorem mem_foldl_upsertBy (h : (writes.map key).Nodup) (hMem : row ∈ writes) :
    row ∈ writes.foldl (upsertBy key) rows := by
  have hReverse : (writes.reverse.map key).Nodup := by
    rw [List.map_reverse]
    exact List.nodup_reverse.mpr h
  have hFound : lookup key (key row) (writes.foldl (upsertBy key) rows) = some row := by
    rw [lookup_foldl_upsertBy, (lookup_eq_some hReverse).mpr ⟨List.mem_reverse.mpr hMem, rfl⟩]
    rfl
  exact List.mem_of_find?_eq_some hFound

/-- A list with unique keys is known by its keys and what is found under them. -/
theorem eq_of_lookup (hKeys : rows.map key = rows'.map key) (h : (rows.map key).Nodup)
    (hSame : ∀ k, lookup key k rows = lookup key k rows') : rows = rows' := by
  have h' : (rows'.map key).Nodup := hKeys ▸ h
  have hLength : rows.length = rows'.length := by
    simpa only [List.length_map] using congrArg List.length hKeys
  refine List.ext_getElem hLength fun n hn hn' => ?_
  have hKey : key rows[n] = key rows'[n] := by
    have hAt := congrArg (fun keys => keys[n]?) hKeys
    simpa [hn, hn'] using hAt
  have hFound := (lookup_eq_some h).mpr ⟨List.getElem_mem hn, rfl⟩
  rw [hSame, hKey] at hFound
  have hFound' := (lookup_eq_some h').mpr ⟨List.getElem_mem hn', rfl⟩
  exact Option.some.inj (hFound.symm.trans hFound')

theorem keys_foldl_of_mem (h : ∀ write ∈ writes, key write ∈ rows.map key) :
    (writes.foldl (upsertBy key) rows).map key = rows.map key := by
  induction writes generalizing rows with
  | nil => rfl
  | cons write writes ih =>
    rw [List.forall_mem_cons] at h
    have hKeys : (upsertBy key rows write).map key = rows.map key := by
      rw [keys_upsertBy, if_pos h.1]
    rw [List.foldl_cons, ih (fun other hOther => hKeys ▸ h.2 other hOther), hKeys]

/-- The same writes once more change nothing. -/
theorem foldl_upsertBy_idem (h : (rows.map key).Nodup) :
    writes.foldl (upsertBy key) (writes.foldl (upsertBy key) rows) =
      writes.foldl (upsertBy key) rows := by
  refine eq_of_lookup (keys_foldl_of_mem fun write hWrite => ?_)
    (nodup_foldl_upsertBy (nodup_foldl_upsertBy h)) fun k => ?_
  · exact mem_keys_foldl_upsertBy.mpr (.inl (List.mem_map_of_mem hWrite))
  · rw [lookup_foldl_upsertBy, lookup_foldl_upsertBy, ← Option.or_assoc, Option.or_self]

/-- No key is taken twice by a write, so it is taken twice only where it was before. -/
theorem countP_foldl_upsertBy : (writes.foldl (upsertBy key) rows).countP (hasKey key k) ≤ 1 ↔
    rows.countP (hasKey key k) ≤ 1 := by
  induction writes generalizing rows with
  | nil => rfl
  | cons write writes ih =>
    rw [List.foldl_cons, ih, countP_upsertBy]
    split
    · rename_i hNew
      have hZero : rows.countP (hasKey key k) = 0 := by
        rw [List.countP_eq_zero]
        intro other hOther hHere
        exact hNew.2 (hasKey_iff.mp hHere ▸ List.mem_map_of_mem hOther)
      rw [hZero]
      decide
    · rfl

theorem mem_of_mem_foldl_upsertBy (h : row ∈ writes.foldl (upsertBy key) rows) :
    row ∈ writes ∨ row ∈ rows := by
  induction writes generalizing rows with
  | nil => exact .inr h
  | cons write writes ih =>
    obtain hWrite | hRest := ih h
    · exact .inl (List.mem_cons_of_mem _ hWrite)
    · obtain rfl | ⟨hOld, -⟩ := mem_upsertBy.mp hRest
      · exact .inl List.mem_cons_self
      · exact .inr hOld

/-- After the writes each row is the last one that was written under its key. -/
theorem lastWrite_of_mem (h : row ∈ writes.foldl (upsertBy key) rows) :
    (lookup key (key row) writes.reverse).getD row = row := by
  induction writes generalizing rows with
  | nil => rfl
  | cons write writes ih =>
    rw [List.foldl_cons] at h
    have hRest := ih h
    rw [List.reverse_cons, lookup_append, lookup_singleton]
    cases hLater : lookup key (key row) writes.reverse with
    | some later =>
      rw [hLater] at hRest
      exact hRest
    | none =>
      rw [Option.none_or]
      split
      · rename_i hKey
        have hNotLater : row ∉ writes := by
          intro hMem
          refine lookup_eq_none.mp hLater ?_
          exact List.mem_map_of_mem (List.mem_reverse.mpr hMem)
        obtain hSame | ⟨-, hOther⟩ :=
          mem_upsertBy.mp ((mem_of_mem_foldl_upsertBy h).resolve_left hNotLater)
        · exact hSame.symm
        · exact absurd hKey.symm hOther
      · rfl

/-- Writes under keys that are all there replace each row by the last write under its key. -/
theorem foldl_upsertBy_eq_map (h : ∀ write ∈ writes, key write ∈ rows.map key) :
    writes.foldl (upsertBy key) rows =
      rows.map fun row => (lookup key (key row) writes.reverse).getD row := by
  induction writes generalizing rows with
  | nil => exact (List.map_id rows).symm
  | cons write writes ih =>
    rw [List.forall_mem_cons] at h
    have hKeys : (upsertBy key rows write).map key = rows.map key := by
      rw [keys_upsertBy, if_pos h.1]
    rw [List.foldl_cons, ih fun other hOther => hKeys ▸ h.2 other hOther, upsertBy, if_pos h.1,
      updateWhere, List.map_map]
    refine List.map_congr_left fun row _ => ?_
    rw [Function.comp_apply, List.reverse_cons, lookup_append, lookup_singleton]
    by_cases hHere : key row = key write
    · rw [if_pos (hasKey_iff.mpr hHere), if_pos hHere.symm, hHere]
      cases lookup key (key write) writes.reverse <;> rfl
    · rw [if_neg fun h => hHere (hasKey_iff.mp h), if_neg (Ne.symm hHere), Option.or_none]

/-- A change that keeps the keys can be made before or after. -/
theorem map_upsertBy {f : α → α} (hf : ∀ row, key (f row) = key row) (rows : List α) (row : α) :
    (upsertBy key rows row).map f = upsertBy key (rows.map f) (f row) := by
  have hKeys : (rows.map f).map key = rows.map key := by
    rw [List.map_map]
    exact List.map_congr_left fun row _ => hf row
  rw [upsertBy, upsertBy, hKeys, hf]
  split
  · rw [updateWhere, updateWhere, List.map_map, List.map_map]
    apply List.map_congr_left
    intro other _
    simp only [Function.comp_apply, hasKey, hf]
    exact apply_ite f _ _ _
  · rw [List.map_append, List.map_singleton]

end StockAiPlatform.Transaction
