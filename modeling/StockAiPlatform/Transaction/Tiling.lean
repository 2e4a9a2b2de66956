import Mathlib.Algebra.BigOperators.Group.List.Basic
import Mathlib.Algebra.Order.Group.Int
import Mathlib.Tactic.Ring

/-! # Windows of days

A window is the days from its first to its last. Where windows stand back to
back, what is counted in each of them adds up to what is counted in one window
from the first day of the first to the last day of the last.
-/

namespace StockAiPlatform.Transaction
set_option autoImplicit false

structure Window where
  first : Int
  last : Int
  deriving DecidableEq, Repr

namespace Window

def covers (window : Window) (day : Int) : Bool := window.first ≤ day && day ≤ window.last

theorem covers_iff {window : Window} {day : Int} :
    window.covers day = true ↔ window.first ≤ day ∧ day ≤ window.last := by
  rw [covers, Bool.and_eq_true, decide_eq_true_iff, decide_eq_true_iff]

/-- Each window begins on the day after the one before it. -/
def BackToBack (windows : List Window) : Prop :=
  windows.IsChain fun a b => b.first = a.last + 1

section Counting

variable {α : Type} (day : α → Int) (keep : α → Bool) (rows : List α)

def tally (window : Window) : Nat :=
  rows.countP fun row => keep row && window.covers (day row)

variable {day keep rows}

theorem tally_split {first last middle : Int} (hFirst : first ≤ middle + 1) (hLast : middle ≤ last) :
    tally day keep rows ⟨first, last⟩ =
      tally day keep rows ⟨first, middle⟩ + tally day keep rows ⟨middle + 1, last⟩ := by
  rw [tally, List.countP_eq_countP_filter_add _ _ fun row => decide (day row ≤ middle),
    List.countP_filter, List.countP_filter]
  congr 1
  · apply List.countP_congr
    intro row _
    simp only [Bool.and_eq_true, covers_iff, decide_eq_true_iff]
    constructor
    · rintro ⟨⟨hKeep, hCovers⟩, hMiddle⟩
      exact ⟨hKeep, hCovers.1, hMiddle⟩
    · rintro ⟨hKeep, hCovers⟩
      exact ⟨⟨hKeep, by omega⟩, hCovers.2⟩
  · apply List.countP_congr
    intro row _
    simp only [Bool.and_eq_true, covers_iff, Bool.not_eq_true', decide_eq_false_iff_not]
    constructor
    · rintro ⟨⟨hKeep, hCovers⟩, hMiddle⟩
      exact ⟨hKeep, by omega, hCovers.2⟩
    · rintro ⟨hKeep, hCovers⟩
      exact ⟨⟨hKeep, by omega⟩, by omega⟩

theorem first_le_of_backToBack {window last : Window} {windows : List Window}
    (hChain : BackToBack (window :: windows)) (hSpan : ∀ w ∈ window :: windows, w.first ≤ w.last)
    (hLast : (window :: windows).getLast? = some last) : window.last ≤ last.last := by
  induction windows generalizing window with
  | nil =>
    cases hLast
    exact le_refl _
  | cons next windows ih =>
    rw [BackToBack, List.isChain_cons_cons] at hChain
    have hNext := ih hChain.2 (fun w hw => hSpan w (List.mem_cons_of_mem _ hw)) hLast
    have hSpanNext := hSpan next (List.mem_cons_of_mem _ List.mem_cons_self)
    have hStep := hChain.1
    omega

/-- Counting window by window is counting once over all of them. -/
theorem sum_tally {window last : Window} {windows : List Window}
    (hChain : BackToBack (window :: windows)) (hSpan : ∀ w ∈ window :: windows, w.first ≤ w.last)
    (hLast : (window :: windows).getLast? = some last) :
    ((window :: windows).map (tally day keep rows)).sum =
      tally day keep rows ⟨window.first, last.last⟩ := by
  induction windows generalizing window with
  | nil =>
    cases hLast
    exact List.sum_singleton
  | cons next windows ih =>
    have hReaches := first_le_of_backToBack hChain hSpan hLast
    have hSpanFirst := hSpan window List.mem_cons_self
    rw [BackToBack, List.isChain_cons_cons] at hChain
    rw [List.map_cons, List.sum_cons,
      ih hChain.2 (fun w hw => hSpan w (List.mem_cons_of_mem _ hw)) hLast, hChain.1]
    exact (tally_split (by omega) hReaches).symm

end Counting

end Window

end StockAiPlatform.Transaction
