import Mathlib.Data.List.Sort
import Mathlib.Order.Defs.LinearOrder

/-! # What was known at a date

Rows carry a date, and two tables agree up to a date if they hold the same
rows not dated after it. A look-up of the newest rows finds the same in both
unless it finds a later row in one of them.
-/

namespace StockAiPlatform.Transaction
set_option autoImplicit false

section AsOf

variable {α β : Type} [LinearOrder β]

def upTo (dated : α → β) (d : β) (rows : List α) : List α := rows.filter fun row => dated row ≤ d

/-- The newest row, the first of those that share its date. -/
def latest (dated : α → β) (rows : List α) : Option α :=
  (rows.insertionSort fun a b => dated b ≤ dated a).head?

variable {dated : α → β} {d : β} {keep : α → Bool} {rows rows' : List α}

theorem upTo_filter : upTo dated d (rows.filter keep) = (upTo dated d rows).filter keep := by
  rw [upTo, upTo, List.filter_filter, List.filter_filter]
  apply List.filter_congr
  intro row _
  rw [Bool.and_comm]

theorem upTo_reverse : upTo dated d rows.reverse = (upTo dated d rows).reverse := by
  rw [upTo, upTo, List.filter_reverse]

theorem mem_of_latest {row : α} (h : latest dated rows = some row) : row ∈ rows :=
  (List.mem_insertionSort _).mp (List.mem_of_mem_head? h)

theorem dated_le_of_latest {row : α} (h : latest dated rows = some row) :
    ∀ other ∈ rows, dated other ≤ dated row := by
  have hSorted := List.pairwise_insertionSort (fun a b : α => dated b ≤ dated a) rows
  intro other hOther
  rw [← List.mem_insertionSort fun a b : α => dated b ≤ dated a] at hOther
  rw [latest] at h
  obtain ⟨rest, hRest⟩ := List.head?_eq_some_iff.mp h
  rw [hRest] at hSorted hOther
  rcases List.mem_cons.mp hOther with rfl | hLater
  · exact le_refl _
  · exact List.rel_of_pairwise_cons hSorted hLater

theorem latest_eq_none (h : latest dated rows = none) : rows = [] := by
  rw [latest, List.head?_eq_none_iff] at h
  have hLength := congrArg List.length h
  rw [List.length_insertionSort] at hLength
  exact List.eq_nil_of_length_eq_zero hLength

theorem latest_of_one_date (h : ∀ a ∈ rows, ∀ b ∈ rows, dated a = dated b) :
    latest dated rows = rows.head? := by
  have hSorted : rows.Pairwise fun a b => dated b ≤ dated a :=
    List.pairwise_of_forall_mem_list fun a ha b hb => le_of_eq (h b hb a ha)
  rw [latest, hSorted.insertionSort_eq]

/-- A stable sort leaves a newest row that stands first where it is. -/
theorem latest_cons_of_max {row : α} (h : ∀ other ∈ rows, dated other ≤ dated row) :
    latest dated (row :: rows) = some row := by
  rw [latest, List.insertionSort_cons]
  cases hSorted : rows.insertionSort fun a b => dated b ≤ dated a with
  | nil => rfl
  | cons first rest =>
    have hFirst : first ∈ rows := by
      rw [← List.mem_insertionSort fun a b : α => dated b ≤ dated a, hSorted]
      exact List.mem_cons_self
    rw [List.orderedInsert_cons, if_pos (h first hFirst)]
    rfl

/-- A row newer than all others is found wherever it stands. -/
theorem latest_eq_some {row : α} (hRow : row ∈ rows)
    (h : ∀ other ∈ rows, other ≠ row → dated other < dated row) : latest dated rows = some row := by
  cases hLatest : latest dated rows with
  | none =>
    rw [latest_eq_none hLatest] at hRow
    cases hRow
  | some found =>
    by_contra hOther
    have hLater := h found (mem_of_latest hLatest) fun hSame => hOther (congrArg some hSame)
    exact absurd (dated_le_of_latest hLatest row hRow) (not_le_of_gt hLater)

/-- Rows in ascending order end with the newest. -/
theorem getLast?_eq_some {row : α} (hSorted : rows.Pairwise fun a b => dated a ≤ dated b)
    (hRow : row ∈ rows) (h : ∀ other ∈ rows, other ≠ row → dated other < dated row) :
    rows.getLast? = some row := by
  cases hLast : rows.getLast? with
  | none =>
    rw [List.getLast?_eq_none_iff.mp hLast] at hRow
    cases hRow
  | some found =>
    obtain ⟨initial, rfl⟩ := List.getLast?_eq_some_iff.mp hLast
    rcases List.mem_append.mp hRow with hEarlier | hSame
    · by_contra hOther
      have hLater := h found (List.mem_append_right _ (List.mem_singleton.mpr rfl))
        fun hSame => hOther (congrArg some hSame)
      rw [List.pairwise_append] at hSorted
      exact absurd (hSorted.2.2 row hEarlier found (List.mem_singleton.mpr rfl)) (not_le_of_gt hLater)
    · rw [List.mem_singleton.mp hSame]

theorem find?_eq_some_of_unique {p : α → Bool} {row : α} (hRow : row ∈ rows) (hFound : p row = true)
    (h : ∀ other ∈ rows, p other = true → other = row) : rows.find? p = some row := by
  cases hFind : rows.find? p with
  | none => exact absurd hFound (List.find?_eq_none.mp hFind row hRow)
  | some found =>
    rw [h found (List.mem_of_find?_eq_some hFind) (List.find?_some hFind)]

theorem upTo_eq_self (h : ∀ row, latest dated rows = some row → dated row ≤ d) :
    upTo dated d rows = rows := by
  rw [upTo, List.filter_eq_self]
  intro other hOther
  cases hLatest : latest dated rows with
  | none =>
    rw [latest_eq_none hLatest] at hOther
    cases hOther
  | some row => exact decide_eq_true ((dated_le_of_latest hLatest other hOther).trans (h row hLatest))

theorem latest_congr (hAgree : upTo dated d rows = upTo dated d rows')
    (h : ∀ row, latest dated (rows.filter keep) = some row → dated row ≤ d)
    (h' : ∀ row, latest dated (rows'.filter keep) = some row → dated row ≤ d) :
    latest dated (rows.filter keep) = latest dated (rows'.filter keep) := by
  rw [← upTo_eq_self h, ← upTo_eq_self h', upTo_filter, upTo_filter, hAgree]

theorem take_filter_of_forall {p : α → Bool} {n : Nat} (h : ∀ row ∈ rows.take n, p row = true) :
    (rows.filter p).take n = rows.take n := by
  induction rows generalizing n with
  | nil => rfl
  | cons row rows ih =>
    cases n with
    | zero => rfl
    | succ n =>
      rw [List.take_succ_cons, List.forall_mem_cons] at h
      rw [List.filter_cons_of_pos h.1, List.take_succ_cons, List.take_succ_cons, ih h.2]

/-- The last `n` rows that a condition keeps, the newest insert first. -/
def newest (keep : α → Bool) (n : Nat) (rows : List α) : List α :=
  (rows.filter keep).reverse.take n

theorem newest_upTo {n : Nat} (h : ∀ row ∈ newest keep n rows, dated row ≤ d) :
    newest keep n (upTo dated d rows) = newest keep n rows := by
  rw [newest, ← upTo_filter, ← upTo_reverse]
  exact take_filter_of_forall fun row hRow => decide_eq_true (h row hRow)

theorem newest_congr {n : Nat} (hAgree : upTo dated d rows = upTo dated d rows')
    (h : ∀ row ∈ newest keep n rows, dated row ≤ d)
    (h' : ∀ row ∈ newest keep n rows', dated row ≤ d) :
    newest keep n rows = newest keep n rows' := by
  rw [← newest_upTo h, ← newest_upTo h', hAgree]

/-- A look-up that keeps no later row reads what both tables hold. -/
theorem filter_congr_of_upTo (hAgree : upTo dated d rows = upTo dated d rows')
    (hKeep : ∀ row, keep row = true → dated row ≤ d) : rows.filter keep = rows'.filter keep := by
  have hKept : ∀ rows : List α, (upTo dated d rows).filter keep = rows.filter keep := by
    intro rows
    rw [upTo, List.filter_filter]
    apply List.filter_congr
    intro row _
    cases hRow : keep row with
    | true => rw [decide_eq_true (hKeep row hRow)]; rfl
    | false => rfl
  rw [← hKept rows, ← hKept rows', hAgree]

end AsOf

section Sorted

variable {α : Type} {rows rows' : List α}

/-- Sorting forgets the order of the rows, if no two of them are tied. -/
theorem insertionSort_eq_of_perm (r : α → α → Prop) [DecidableRel r] [Std.Total r] [IsTrans α r]
    (hPerm : rows.Perm rows') (hApart : ∀ a ∈ rows, ∀ b ∈ rows, r a b → r b a → a = b) :
    rows.insertionSort r = rows'.insertionSort r := by
  refine List.Perm.eq_of_pairwise ?_ (List.pairwise_insertionSort r rows)
    (List.pairwise_insertionSort r rows')
    ((List.perm_insertionSort r rows).trans (hPerm.trans (List.perm_insertionSort r rows').symm))
  intro a b ha hb
  rw [List.mem_insertionSort] at ha hb
  exact hApart a ha b (hPerm.mem_iff.mpr hb)

end Sorted

end StockAiPlatform.Transaction
