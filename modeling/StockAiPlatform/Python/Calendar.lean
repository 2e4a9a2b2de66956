import Mathlib.Tactic.Common

/-! # Days added to a date

A date is its `toordinal()`. Where `timedelta` does not hold that many days, or
no date lies there, the sum is an `OverflowError`. A calendar without an end
stands for day numbers that are not dates.
-/

namespace StockAiPlatform.Python
set_option autoImplicit false

structure OverflowError where
  message : String
  deriving DecidableEq, Repr

structure Calendar where
  isDays : Int → Bool
  isDate : Int → Bool

namespace Calendar

def unbounded : Calendar := ⟨fun _ => true, fun _ => true⟩

/-- `datetime`, from 0001-01-01 to 9999-12-31. -/
def gregorian : Calendar where
  isDays days := -999999999 ≤ days && days ≤ 999999999
  isDate date := 1 ≤ date && date ≤ 3652059

/-- A C `int`, which the days of a `timedelta` go through. -/
def isCInt (days : Int) : Bool := -2147483648 ≤ days && days ≤ 2147483647

/-- `date + timedelta(days=days)` -/
def plus (calendar : Calendar) (date days : Int) : Except OverflowError Int :=
  if calendar.isDays days then
    if calendar.isDate (date + days) then .ok (date + days)
    else .error ⟨"date value out of range"⟩
  else if isCInt days then .error ⟨s!"days={days}; must have magnitude <= 999999999"⟩
  else .error ⟨"Python int too large to convert to C int"⟩

def reaches (calendar : Calendar) (date days : Int) : Bool :=
  calendar.isDays days && calendar.isDate (date + days)

variable {calendar : Calendar} {date days next : Int}

theorem plus_eq_ok_iff :
    calendar.plus date days = .ok next ↔ calendar.reaches date days = true ∧ next = date + days := by
  simp only [plus, reaches, Bool.and_eq_true]
  constructor
  · intro h
    split at h
    · split at h
      · cases h
        exact ⟨⟨‹_›, ‹_›⟩, rfl⟩
      · cases h
    · split at h <;> cases h
  · rintro ⟨⟨hDays, hDate⟩, rfl⟩
    rw [if_pos hDays, if_pos hDate]

@[simp] theorem reaches_unbounded (date days : Int) : unbounded.reaches date days = true := rfl

/-- The day numbers that are dates. -/
abbrev Date (calendar : Calendar) := { date : Int // calendar.isDate date = true }

theorem reaches_zero (date : gregorian.Date) : gregorian.reaches date 0 = true := by
  rw [reaches, Int.add_zero, date.property]
  rfl

theorem bounds_of_reaches (h : gregorian.reaches date days = true) :
    1 ≤ date + days ∧ date + days ≤ 3652059 := by
  simp only [reaches, gregorian, Bool.and_eq_true, decide_eq_true_eq] at h
  exact h.2

end Calendar

end StockAiPlatform.Python
