import StockAiPlatform.Backtest.WalkForward
import StockAiPlatform.Transaction.Program
import Mathlib.Data.List.Range

/-! # Folds

The folds of a range have a closed form: fold after fold, each a validate
window further on, until one would end after the range. The loop that makes
them ends unless a step of no days keeps it where it is.
-/

namespace StockAiPlatform.Backtest
set_option autoImplicit false

open Transaction Python

section Passes

variable {calendar : Calendar} {windows : Windows} {startDate endDate cursor : Int}
  {s next : FoldState}

def foldFrom (windows : Windows) (foldIndex : Nat) (cursor : Int) : Fold where
  foldIndex := foldIndex
  trainStart := cursor
  trainEnd := cursor + (windows.train - 1)
  validateStart := cursor + (windows.train - 1) + (windows.gap + 1)
  validateEnd := cursor + (windows.train - 1) + (windows.gap + 1) + (windows.validate - 1)

/-- The three dates a pass computes first are dates. -/
def datesExist (calendar : Calendar) (windows : Windows) (cursor : Int) : Bool :=
  calendar.reaches cursor (windows.train - 1) &&
    calendar.reaches (cursor + (windows.train - 1)) (windows.gap + 1) &&
    calendar.reaches (cursor + (windows.train - 1) + (windows.gap + 1)) (windows.validate - 1)

def advanced (windows : Windows) (s : FoldState) : FoldState where
  foldIndex := s.foldIndex + 1
  cursor := s.cursor + windows.validate
  folds := s.folds ++ [foldFrom windows s.foldIndex s.cursor]

theorem foldPass_eq_ok_iff {turn : FoldState ⊕ List Fold} :
    foldPass calendar windows endDate s = .ok turn ↔ datesExist calendar windows s.cursor = true ∧
      ((endDate < (foldFrom windows s.foldIndex s.cursor).validateEnd ∧ turn = .inr s.folds) ∨
        ((foldFrom windows s.foldIndex s.cursor).validateEnd ≤ endDate ∧
          calendar.reaches s.cursor windows.validate = true ∧
          turn = .inl (advanced windows s))) := by
  simp only [foldPass, except_bind_eq_ok, Calendar.plus_eq_ok_iff, datesExist, Bool.and_eq_true]
  constructor
  · rintro ⟨_, ⟨hTrain, rfl⟩, _, ⟨hGap, rfl⟩, _, ⟨hValidate, rfl⟩, hTurn⟩
    refine ⟨⟨⟨hTrain, hGap⟩, hValidate⟩, ?_⟩
    split at hTurn
    · cases hTurn
      exact .inl ⟨‹_›, rfl⟩
    · obtain ⟨cursor, hCursor, hNext⟩ := except_bind_eq_ok.mp hTurn
      obtain ⟨hReaches, rfl⟩ := Calendar.plus_eq_ok_iff.mp hCursor
      cases hNext
      exact .inr ⟨not_lt.mp ‹_›, hReaches, rfl⟩
  · rintro ⟨⟨⟨hTrain, hGap⟩, hValidate⟩, hTurn⟩
    refine ⟨_, ⟨hTrain, rfl⟩, _, ⟨hGap, rfl⟩, _, ⟨hValidate, rfl⟩, ?_⟩
    rcases hTurn with ⟨hLate, rfl⟩ | ⟨hInside, hReaches, rfl⟩
    · exact if_pos hLate
    · refine (if_neg (not_lt.mpr hInside)).trans ?_
      exact except_bind_eq_ok.mpr ⟨_, Calendar.plus_eq_ok_iff.mpr ⟨hReaches, rfl⟩, rfl⟩

theorem foldPass_again_iff : foldPass calendar windows endDate s = .ok (.inl next) ↔
    datesExist calendar windows s.cursor = true ∧
      (foldFrom windows s.foldIndex s.cursor).validateEnd ≤ endDate ∧
      calendar.reaches s.cursor windows.validate = true ∧ next = advanced windows s := by
  rw [foldPass_eq_ok_iff]
  refine and_congr_right fun _ => ⟨?_, fun ⟨hInside, hReaches, hNext⟩ => ?_⟩
  · rintro (⟨-, hTurn⟩ | ⟨hInside, hReaches, hTurn⟩)
    · cases hTurn
    · cases hTurn
      exact ⟨hInside, hReaches, rfl⟩
  · exact .inr ⟨hInside, hReaches, congrArg Sum.inl hNext⟩

theorem foldPass_stop_iff {folds : List Fold} :
    foldPass calendar windows endDate s = .ok (.inr folds) ↔
      datesExist calendar windows s.cursor = true ∧
        endDate < (foldFrom windows s.foldIndex s.cursor).validateEnd ∧ folds = s.folds := by
  rw [foldPass_eq_ok_iff]
  refine and_congr_right fun _ => ⟨?_, fun ⟨hLate, hFolds⟩ => ?_⟩
  · rintro (⟨hLate, hTurn⟩ | ⟨-, -, hTurn⟩)
    · cases hTurn
      exact ⟨hLate, rfl⟩
    · cases hTurn
  · exact .inl ⟨hLate, congrArg Sum.inr hFolds⟩

end Passes

section ClosedForm

variable {calendar : Calendar} {windows : Windows} {startDate endDate : Int} {folds : List Fold}

/-- Fold number `k` of a range. -/
def foldAt (windows : Windows) (startDate : Int) (k : Nat) : Fold :=
  foldFrom windows k (startDate + k * windows.validate)

def foldsUpTo (windows : Windows) (startDate : Int) (n : Nat) : List Fold :=
  (List.range n).map (foldAt windows startDate)

/-- After `n` passes the first `n` folds are made, and all of them end inside the range. -/
def Passed (windows : Windows) (startDate endDate : Int) (s : FoldState) : Prop :=
  ∃ n : Nat, s = ⟨n, startDate + n * windows.validate, foldsUpTo windows startDate n⟩ ∧
    ∀ k < n, (foldAt windows startDate k).validateEnd ≤ endDate

theorem passed_foldsFrom : Passed windows startDate endDate (foldsFrom startDate) :=
  ⟨0, by simp [foldsFrom, foldsUpTo], fun k hk => absurd hk (Nat.not_lt_zero k)⟩

theorem passed_advanced (n : Nat) :
    advanced windows ⟨n, startDate + n * windows.validate, foldsUpTo windows startDate n⟩ =
      ⟨n + 1, startDate + (n + 1 : Nat) * windows.validate, foldsUpTo windows startDate (n + 1)⟩ := by
  have hCursor : startDate + (n : Int) * windows.validate + windows.validate =
      startDate + (n + 1 : Nat) * windows.validate := by
    push_cast
    ring
  rw [advanced, hCursor, foldsUpTo, foldsUpTo, List.range_succ, List.map_append]
  rfl

theorem Passed.again {s next : FoldState} (h : Passed windows startDate endDate s)
    (hNext : foldPass calendar windows endDate s = .ok (.inl next)) :
    Passed windows startDate endDate next := by
  obtain ⟨n, rfl, hInside⟩ := h
  obtain ⟨-, hLast, -, rfl⟩ := foldPass_again_iff.mp hNext
  refine ⟨n + 1, passed_advanced n, fun k hk => ?_⟩
  rcases Nat.lt_succ_iff_lt_or_eq.mp hk with hBefore | rfl
  · exact hInside k hBefore
  · exact hLast

/-- A list of folds that comes out is the longest one that fits. -/
theorem folds_of_endsWith
    (h : EndsWith (foldPass calendar windows endDate) (foldsFrom startDate) (.ok folds)) :
    folds = foldsUpTo windows startDate folds.length ∧
      (∀ k < folds.length, (foldAt windows startDate k).validateEnd ≤ endDate) ∧
      endDate < (foldAt windows startDate folds.length).validateEnd := by
  obtain ⟨last, ⟨n, rfl, hInside⟩, hStop⟩ := h.invariant (Passed windows startDate endDate)
    (fun s next hPassed hNext => hPassed.again hNext) passed_foldsFrom
  obtain ⟨-, hLate, rfl⟩ := foldPass_stop_iff.mp hStop
  have hLength : (foldsUpTo windows startDate n).length = n := by
    rw [foldsUpTo, List.length_map, List.length_range]
  simp only [hLength]
  exact ⟨trivial, hInside, hLate⟩

end ClosedForm

/-- Folds as they should be: each inside the range with windows of the right lengths, the validate
windows back to back, and no room for one more. -/
structure ExactFolds (windows : Windows) (startDate endDate : Int) (folds : List Fold) : Prop where
  inside : ∀ fold ∈ folds, startDate ≤ fold.trainStart ∧ fold.trainStart ≤ fold.trainEnd ∧
    fold.trainEnd < fold.validateStart ∧ fold.validateStart ≤ fold.validateEnd ∧
    fold.validateEnd ≤ endDate
  trainDays : ∀ fold ∈ folds, fold.trainEnd - fold.trainStart + 1 = windows.train
  gapDays : ∀ fold ∈ folds, fold.validateStart - fold.trainEnd - 1 = windows.gap
  validateDays : ∀ fold ∈ folds, fold.validateEnd - fold.validateStart + 1 = windows.validate
  contiguous : folds.IsChain fun a b => b.validateStart = a.validateEnd + 1
  disjoint : folds.Pairwise fun a b => a.validateEnd < b.validateStart
  maximal : endDate < (foldAt windows startDate folds.length).validateEnd

section Exact

variable {calendar : Calendar} {windows : Windows} {startDate endDate : Int} {folds : List Fold}

theorem mem_foldsUpTo {fold : Fold} {n : Nat} :
    fold ∈ foldsUpTo windows startDate n ↔ ∃ k < n, foldAt windows startDate k = fold := by
  simp only [foldsUpTo, List.mem_map, List.mem_range]

theorem validateStart_of_lt (hValidate : 1 ≤ windows.validate) {j k : Nat} (h : j < k) :
    (foldAt windows startDate j).validateEnd < (foldAt windows startDate k).validateStart := by
  have hSteps : (j + 1 : Int) * windows.validate ≤ k * windows.validate :=
    mul_le_mul_of_nonneg_right (by exact_mod_cast h) (by omega)
  rw [add_mul, one_mul] at hSteps
  simp only [foldAt, foldFrom]
  omega

theorem validateStart_succ (k : Nat) : (foldAt windows startDate (k + 1)).validateStart =
    (foldAt windows startDate k).validateEnd + 1 := by
  simp only [foldAt, foldFrom]
  push_cast
  ring

theorem exactFolds_of_endsWith (hTrain : 1 ≤ windows.train) (hValidate : 1 ≤ windows.validate)
    (hGap : 0 ≤ windows.gap)
    (h : EndsWith (foldPass calendar windows endDate) (foldsFrom startDate) (.ok folds)) :
    ExactFolds windows startDate endDate folds := by
  obtain ⟨hFolds, hInside, hLate⟩ := folds_of_endsWith h
  have hAt : ∀ fold ∈ folds, ∃ k < folds.length, foldAt windows startDate k = fold :=
    fun fold hFold => mem_foldsUpTo.mp (hFolds ▸ hFold)
  refine ⟨fun fold hFold => ?_, fun fold hFold => ?_, fun fold hFold => ?_,
    fun fold hFold => ?_, ?_, ?_, hLate⟩
  · obtain ⟨k, hk, rfl⟩ := hAt fold hFold
    have hSteps : 0 ≤ (k : Int) * windows.validate := mul_nonneg (Int.natCast_nonneg k) (by omega)
    have hEnd := hInside k hk
    simp only [foldAt, foldFrom] at hEnd ⊢
    omega
  · obtain ⟨k, hk, rfl⟩ := hAt fold hFold
    simp only [foldAt, foldFrom]
    omega
  · obtain ⟨k, hk, rfl⟩ := hAt fold hFold
    simp only [foldAt, foldFrom]
    omega
  · obtain ⟨k, hk, rfl⟩ := hAt fold hFold
    simp only [foldAt, foldFrom]
    omega
  · rw [hFolds, foldsUpTo, List.isChain_map, List.isChain_range]
    intro k _
    exact validateStart_succ k
  · rw [hFolds, foldsUpTo, List.pairwise_map]
    exact List.pairwise_lt_range.imp fun hLt => validateStart_of_lt hValidate hLt

theorem ends_unbounded (hTrain : 1 ≤ windows.train) (hValidate : 1 ≤ windows.validate)
    (hGap : 0 ≤ windows.gap) (s : FoldState) : Ends (foldPass .unbounded windows endDate) s := by
  refine ends_of_measure (fun s => (endDate + 1 - s.cursor).toNat) (fun s next hNext => ?_) s
  obtain ⟨-, hInside, -, rfl⟩ := foldPass_again_iff.mp hNext
  simp only [foldFrom] at hInside
  simp only [advanced]
  omega

theorem foldPass_unbounded_ne_error (s : FoldState) (error : OverflowError) :
    foldPass .unbounded windows endDate s ≠ .error error := by
  intro hError
  rcases lt_or_ge endDate (foldFrom windows s.foldIndex s.cursor).validateEnd with hLate | hInside
  · cases hError.symm.trans (foldPass_eq_ok_iff.mpr ⟨rfl, .inl ⟨hLate, rfl⟩⟩)
  · cases hError.symm.trans (foldPass_eq_ok_iff.mpr ⟨rfl, .inr ⟨hInside, rfl, rfl⟩⟩)

theorem generateFolds_exact (windows : Windows) (startDate endDate : Int)
    (hTrain : 1 ≤ windows.train) (hValidate : 1 ≤ windows.validate) (hGap : 0 ≤ windows.gap) :
    ∃ folds, (∃ fuel, generateFolds .unbounded windows startDate endDate fuel = some (.ok folds)) ∧
      ExactFolds windows startDate endDate folds := by
  obtain ⟨outcome, hEnds⟩ : Ends (foldPass .unbounded windows endDate) (foldsFrom startDate) :=
    ends_unbounded hTrain hValidate hGap (foldsFrom startDate)
  cases outcome with
  | error error =>
    obtain ⟨last, -, hBreaks⟩ := hEnds.invariant (fun _ => True) (fun _ _ _ _ => trivial) trivial
    exact absurd hBreaks (foldPass_unbounded_ne_error last error)
  | ok folds => exact ⟨folds, hEnds, exactFolds_of_endsWith hTrain hValidate hGap hEnds⟩

theorem generateFolds_exact_twoFolds :
    (1 ≤ (30 : Int) ∧ 1 ≤ (10 : Int) ∧ 0 ≤ (5 : Int)) ∧
      ∃ folds, (∃ fuel, generateFolds .unbounded ⟨30, 10, 5⟩ 1 55 fuel = some (.ok folds)) ∧
        ExactFolds ⟨30, 10, 5⟩ 1 55 folds :=
  ⟨by decide, generateFolds_exact ⟨30, 10, 5⟩ 1 55 (by decide) (by decide) (by decide)⟩

example : generateFolds .unbounded ⟨30, 10, 5⟩ 1 55 3 =
    some (.ok [⟨0, 1, 30, 36, 45⟩, ⟨1, 11, 40, 46, 55⟩]) := by decide

end Exact

section Termination

variable {windows : Windows} {startDate endDate : Int}

/-- A step of no days goes round in one place, unless the first fold is late or has no dates. -/
theorem ends_iff_of_validate_eq_zero {calendar : Calendar} (hZero : windows.validate = 0)
    (hDate : calendar.reaches startDate 0 = true) :
    Ends (foldPass calendar windows endDate) (foldsFrom startDate) ↔
      datesExist calendar windows startDate = false ∨
        endDate < (foldFrom windows 0 startDate).validateEnd := by
  constructor
  · intro hEnds
    by_contra hStays
    rw [not_or, Bool.not_eq_false, not_lt] at hStays
    refine not_ends_of_forever (fun s => s.cursor = startDate) (fun s hCursor => ?_) rfl hEnds
    refine ⟨advanced windows s, foldPass_again_iff.mpr ?_, by rw [advanced, hCursor, hZero, add_zero]⟩
    rw [hCursor, hZero]
    exact ⟨hStays.1, hStays.2, hDate, rfl⟩
  · rintro (hMissing | hLate)
    · cases hPass : foldPass calendar windows endDate (foldsFrom startDate) with
      | error error => exact ⟨.error error, endsWith_of_breaks hPass⟩
      | ok turn =>
        have hDates := (foldPass_eq_ok_iff.mp hPass).1
        exact absurd (hMissing.symm.trans hDates) Bool.false_ne_true
    · cases hPass : foldPass calendar windows endDate (foldsFrom startDate) with
      | error error => exact ⟨.error error, endsWith_of_breaks hPass⟩
      | ok turn =>
        rcases (foldPass_eq_ok_iff.mp hPass).2 with ⟨-, rfl⟩ | ⟨hInside, -, -⟩
        · exact ⟨.ok _, endsWith_of_breaks hPass⟩
        · exact absurd hLate (not_lt.mpr hInside)

/-- Steps forward run out of dates at the end of the calendar, steps back at its beginning. -/
theorem ends_of_validate_ne_zero (hStep : windows.validate ≠ 0) (s : FoldState) :
    Ends (foldPass .gregorian windows endDate) s := by
  rcases lt_or_gt_of_ne hStep with hBack | hForward
  · refine ends_of_measure (fun s => s.cursor.toNat) (fun s next hNext => ?_) s
    obtain ⟨-, -, hReaches, rfl⟩ := foldPass_again_iff.mp hNext
    have hBounds := Calendar.bounds_of_reaches hReaches
    simp only [advanced]
    omega
  · refine ends_of_measure (fun s => (3652060 - s.cursor).toNat) (fun s next hNext => ?_) s
    obtain ⟨-, -, hReaches, rfl⟩ := foldPass_again_iff.mp hNext
    have hBounds := Calendar.bounds_of_reaches hReaches
    simp only [advanced]
    omega

/-- The first fold has dates and ends inside the range. -/
def FirstFoldFits (windows : Windows) (startDate endDate : Int) : Prop :=
  datesExist .gregorian windows startDate = true ∧
    (foldFrom windows 0 startDate).validateEnd ≤ endDate

theorem not_firstFoldFits_iff : ¬ FirstFoldFits windows startDate endDate ↔
    datesExist .gregorian windows startDate = false ∨
      endDate < (foldFrom windows 0 startDate).validateEnd := by
  rw [FirstFoldFits, not_and_or, Bool.not_eq_true, not_le]

theorem generateFolds_ends_iff (windows : Windows) (startDate endDate : Calendar.gregorian.Date) :
    (∃ fuel outcome, generateFolds .gregorian windows startDate endDate fuel = some outcome) ↔
      windows.validate ≠ 0 ∨ ¬ FirstFoldFits windows startDate endDate := by
  have hEnds : (∃ fuel outcome, generateFolds .gregorian windows startDate endDate fuel =
      some outcome) ↔ Ends (foldPass .gregorian windows endDate) (foldsFrom startDate) :=
    exists_comm
  rw [hEnds]
  by_cases hZero : windows.validate = 0
  · rw [ends_iff_of_validate_eq_zero hZero (Calendar.reaches_zero startDate), not_firstFoldFits_iff]
    exact (or_iff_right (not_not_intro hZero)).symm
  · exact iff_of_true (ends_of_validate_ne_zero hZero _) (.inl hZero)

theorem isDate_newYear2026 : Calendar.gregorian.isDate 739617 = true := by decide

theorem isDate_newYearsEve2026 : Calendar.gregorian.isDate 739981 = true := by decide

def newYear2026 : Calendar.gregorian.Date := ⟨739617, isDate_newYear2026⟩

def newYearsEve2026 : Calendar.gregorian.Date := ⟨739981, isDate_newYearsEve2026⟩

/-- `--validate-window-days 0` over a year. -/
theorem generateFolds_never_ends : ¬ ∃ fuel outcome,
    generateFolds .gregorian { validate := 0 } newYear2026 newYearsEve2026 fuel = some outcome := by
  rintro ⟨fuel, outcome, hFuel⟩
  have hEnds := (ends_iff_of_validate_eq_zero rfl (Calendar.reaches_zero newYear2026)).mp
    ⟨outcome, fuel, hFuel⟩
  exact not_firstFoldFits_iff.mpr hEnds ⟨by decide, by decide⟩

end Termination

end StockAiPlatform.Backtest
