import StockAiPlatform.Python.Text
import Mathlib.Data.List.Basic
import Mathlib.Order.Defs.LinearOrder
import Mathlib.Order.Lattice

/-! # Calendar dates

`datetime.date`: a year, a month and a day that exist, ordered by time, and
the ten characters `isoformat` writes them with.
-/

namespace StockAiPlatform.Python
set_option autoImplicit false

def isLeap (year : Nat) : Bool := year % 4 == 0 && (year % 100 != 0 || year % 400 == 0)

def daysInMonth (year month : Nat) : Nat :=
  if month = 2 then (if isLeap year then 29 else 28)
  else if month = 4 ∨ month = 6 ∨ month = 9 ∨ month = 11 then 30
  else 31

theorem daysInMonth_le (year month : Nat) : daysInMonth year month ≤ 31 := by
  unfold daysInMonth
  split_ifs <;> omega

/-- What the constructor of `datetime.date` accepts. -/
def validDate (year month day : Nat) : Bool :=
  1 ≤ year && year ≤ 9999 && 1 ≤ month && month ≤ 12 && 1 ≤ day && day ≤ daysInMonth year month

structure Date where
  year : Nat
  month : Nat
  day : Nat
  valid : validDate year month day = true
  deriving DecidableEq

theorem validDate_mayFourth : validDate 2026 5 4 = true := rfl

namespace Date

theorem bounds (date : Date) :
    date.year ≤ 9999 ∧ date.month ≤ 12 ∧ date.day ≤ 31 := by
  have hValid := date.valid
  have hDays := daysInMonth_le date.year date.month
  simp only [validDate, Bool.and_eq_true, decide_eq_true_eq] at hValid
  omega

def ordinal (date : Date) : Nat := (date.year * 100 + date.month) * 100 + date.day

theorem ordinal_injective : Function.Injective ordinal := by
  intro a b hSame
  obtain ⟨-, hMonthA, hDayA⟩ := a.bounds
  obtain ⟨-, hMonthB, hDayB⟩ := b.bounds
  simp only [ordinal] at hSame
  have hDay : a.day = b.day := by omega
  have hMonth : a.month = b.month := by omega
  have hYear : a.year = b.year := by omega
  cases a
  cases b
  simp_all

instance : LinearOrder Date := LinearOrder.lift' ordinal ordinal_injective

def daysBeforeYear (year : Nat) : Nat :=
  (year - 1) * 365 + (year - 1) / 4 - (year - 1) / 100 + (year - 1) / 400

def daysBeforeMonth (year month : Nat) : Nat :=
  (List.range (month - 1)).foldl (fun days m => days + daysInMonth year (m + 1)) 0

/-- `date.toordinal()`: differences of dates are differences of these. -/
def toordinal (date : Date) : Int :=
  daysBeforeYear date.year + daysBeforeMonth date.year date.month + date.day

end Date

def digitChar (d : Nat) : Char := Char.ofNat (48 + d)

def twoDigits (n : Nat) : Text := [digitChar (n / 10), digitChar (n % 10)]

/-- `date.isoformat()`. -/
def Date.isoformat (date : Date) : Text :=
  twoDigits (date.year / 100) ++ twoDigits (date.year % 100) ++ '-' :: twoDigits date.month
    ++ '-' :: twoDigits date.day

theorem digitChar_inj : ∀ a < 10, ∀ b < 10, digitChar a = digitChar b → a = b := by decide

theorem digitChar_ne_colon : ∀ a < 10, digitChar a ≠ ':' := by decide

theorem twoDigits_inj {a b : Nat} (ha : a < 100) (hb : b < 100) (h : twoDigits a = twoDigits b) :
    a = b := by
  simp only [twoDigits, List.cons.injEq, and_true] at h
  have hTens := digitChar_inj (a / 10) (by omega) (b / 10) (by omega) h.1
  have hOnes := digitChar_inj (a % 10) (by omega) (b % 10) (by omega) h.2
  omega

theorem colon_not_mem_twoDigits {a : Nat} (ha : a < 100) : ':' ∉ twoDigits a := by
  intro hMem
  rcases List.mem_pair.mp hMem with hTens | hOnes
  · exact digitChar_ne_colon (a / 10) (by omega) hTens.symm
  · exact digitChar_ne_colon (a % 10) (by omega) hOnes.symm

namespace Date

theorem colon_not_mem_isoformat (date : Date) : ':' ∉ date.isoformat := by
  obtain ⟨hYear, hMonth, hDay⟩ := date.bounds
  have hDash : ':' ≠ '-' := by decide
  simp only [isoformat, List.mem_append, List.mem_cons, not_or]
  exact ⟨⟨⟨colon_not_mem_twoDigits (by omega), colon_not_mem_twoDigits (by omega)⟩, hDash,
    colon_not_mem_twoDigits (by omega)⟩, hDash, colon_not_mem_twoDigits (by omega)⟩

theorem isoformat_injective : Function.Injective isoformat := by
  intro a b hSame
  obtain ⟨hYearA, hMonthA, hDayA⟩ := a.bounds
  obtain ⟨hYearB, hMonthB, hDayB⟩ := b.bounds
  have hParts : twoDigits (a.year / 100) = twoDigits (b.year / 100) ∧
      twoDigits (a.year % 100) = twoDigits (b.year % 100) ∧
      twoDigits a.month = twoDigits b.month ∧ twoDigits a.day = twoDigits b.day := by
    simpa [isoformat, twoDigits, and_assoc] using hSame
  obtain ⟨hCentury, hYear, hMonth, hDay⟩ := hParts
  apply ordinal_injective
  have hCentury := twoDigits_inj (by omega) (by omega) hCentury
  have hYear := twoDigits_inj (by omega) (by omega) hYear
  have hMonth := twoDigits_inj (by omega) (by omega) hMonth
  have hDay := twoDigits_inj (by omega) (by omega) hDay
  simp only [ordinal]
  omega

end Date

end StockAiPlatform.Python
