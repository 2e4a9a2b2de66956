import StockAiPlatform.Data.AnalystReportImporter
import StockAiPlatform.Python.DecimalContext

/-! # The cells of the metric importers

The two importers of metrics read their cells alike. Where a cell is invalid the
row is counted as an error; the exceptions of decimal arithmetic are no such
errors, and nothing catches them.
-/

namespace StockAiPlatform.MetricImport
set_option autoImplicit false

open Python Transaction
open AnalystReportCsvImporter (Row reprText required requiredStr)

deriving instance DecidableEq for DecimalValue

/-- A `Decimal` as text gives it. A signaling NaN raises wherever it is used. -/
inductive CellNumber where
  | value (value : DecimalValue)
  | signaling
  deriving DecidableEq

/-- The functions of Python that read a cell of these importers. -/
structure MetricFunctions where
  upper : Text → Text
  lower : Text → Text
  /-- `datetime.strptime(text, "%Y-%m-%d").date()`, `none` for a `ValueError`. -/
  strptime : Text → Option Date
  /-- `int(text)`, `none` for a `ValueError`. -/
  int : Text → Option Int
  /-- `Decimal(text)`, `none` for an `InvalidOperation`. -/
  decimal : Text → Option CellNumber

def Caught : ImportError → Prop
  | .rowValidation _ => True
  | _ => False

/-- Something is raised that nothing catches. -/
def Escapes {α : Type} (outcome : Except ImportError α) : Prop :=
  ∃ error, outcome = .error error ∧ ¬ Caught error

def validated {α : Type} (outcome : Except String α) : Except ImportError α :=
  outcome.mapError .rowValidation

section Escapes

variable {α β : Type} {x : Except ImportError α} {next : α → Except ImportError β}

theorem not_escapes_ok (value : α) : ¬ Escapes (.ok value : Except ImportError α) := by
  rintro ⟨error, hError, -⟩
  cases hError

theorem escapes_bind_iff : Escapes (x >>= next) ↔ Escapes x ∨ ∃ a, x = .ok a ∧ Escapes (next a) := by
  cases x with
  | ok a =>
    constructor
    · exact fun h => .inr ⟨a, rfl, h⟩
    · rintro (h | ⟨b, hb, h⟩)
      · exact absurd h (not_escapes_ok a)
      · cases hb
        exact h
  | error error =>
    constructor
    · rintro ⟨other, hError, hEscapes⟩
      cases hError
      exact .inl ⟨error, rfl, hEscapes⟩
    · rintro (⟨other, hError, hEscapes⟩ | ⟨b, hb, -⟩)
      · cases hError
        exact ⟨error, rfl, hEscapes⟩
      · cases hb

theorem escapes_bind_pure_iff {g : α → β} : Escapes (x >>= fun a => pure (g a)) ↔ Escapes x := by
  rw [escapes_bind_iff]
  exact or_iff_left fun ⟨a, _, h⟩ => not_escapes_ok _ h

theorem not_escapes_validated (outcome : Except String α) : ¬ Escapes (validated outcome) := by
  rintro ⟨error, hError, hEscapes⟩
  cases outcome with
  | ok value => cases hError
  | error message =>
    cases hError
    exact hEscapes trivial

theorem validated_eq_ok {outcome : Except String α} {value : α} :
    validated outcome = .ok value ↔ outcome = .ok value := by
  cases outcome with
  | ok other => simp [validated, Except.mapError]
  | error message => simp [validated, Except.mapError]

theorem escapes_validated_bind_iff {outcome : Except String α} :
    Escapes (validated outcome >>= next) ↔ ∃ a, outcome = .ok a ∧ Escapes (next a) := by
  rw [escapes_bind_iff]
  simp only [validated_eq_ok]
  exact or_iff_right (not_escapes_validated outcome)

/-- The first of the elements that does not return is one that escapes. -/
theorem escapes_mapM_iff {rows : List α} {f : α → Except ImportError β} :
    Escapes (rows.mapM f) ↔ ∃ before a after, rows = before ++ a :: after ∧
      (∀ b ∈ before, ∃ value, f b = .ok value) ∧ Escapes (f a) := by
  induction rows with
  | nil =>
    constructor
    · exact fun h => absurd h (not_escapes_ok _)
    · rintro ⟨before, a, after, hSplit, -⟩
      exact absurd hSplit.symm (List.append_ne_nil_of_right_ne_nil before (List.cons_ne_nil a after))
  | cons first rows ih =>
    rw [List.mapM_cons, escapes_bind_iff]
    simp only [escapes_bind_pure_iff, ih]
    constructor
    · rintro (hFirst | ⟨value, hValue, before, a, after, rfl, hBefore, ha⟩)
      · exact ⟨[], first, rows, rfl, fun b hb => absurd hb List.not_mem_nil, hFirst⟩
      · exact ⟨first :: before, a, after, rfl, List.forall_mem_cons.mpr ⟨⟨value, hValue⟩, hBefore⟩, ha⟩
    · rintro ⟨before, a, after, hSplit, hBefore, ha⟩
      cases before with
      | nil =>
        obtain ⟨rfl, rfl⟩ := List.cons.inj hSplit
        exact .inl ha
      | cons other before =>
        obtain ⟨rfl, rfl⟩ := List.cons.inj hSplit
        obtain ⟨⟨value, hValue⟩, hBefore⟩ := List.forall_mem_cons.mp hBefore
        exact .inr ⟨value, hValue, before, a, after, rfl, hBefore, ha⟩

def Uncaught (outcome : Except ImportError α) : Prop :=
  ∀ error, outcome = .error error → ¬ Caught error

theorem uncaught_ok (value : α) : Uncaught (.ok value : Except ImportError α) :=
  fun _ h => (nomatch h)

theorem uncaught_error {error : ImportError} (h : ¬ Caught error) :
    Uncaught (.error error : Except ImportError α) := by
  rintro other hOther
  cases hOther
  exact h

theorem Uncaught.bind (hx : Uncaught x) (hNext : ∀ a, Uncaught (next a)) : Uncaught (x >>= next) := by
  cases x with
  | ok a => exact hNext a
  | error error => exact uncaught_error (hx error rfl)

theorem Uncaught.escapes_iff (h : Uncaught x) :
    Escapes x ↔ ¬ ∃ value, x = .ok value := by
  cases x with
  | ok value => exact iff_of_false (not_escapes_ok value) fun hNot => hNot ⟨value, rfl⟩
  | error error =>
    refine iff_of_true ⟨error, rfl, h error rfl⟩ ?_
    rintro ⟨value, hValue⟩
    cases hValue

end Escapes

def nullTokens : List String := ["", "-", "nan", "none", "null", "n/a"]

section Cells

variable (f : MetricFunctions)

def isNull (cleaned : Text) : Bool := nullTokens.contains (String.ofList (f.lower cleaned))

def date (name : String) (value : Text) : Except String Date :=
  if strip value = [] then .error (required name)
  else
    match f.strptime (strip value) with
    | some day => .ok day
    | none => .error (name ++ "=" ++ reprText value ++ " is not ISO date YYYY-MM-DD")

def int (name : String) (value : Text) : Except String Int :=
  if strip value = [] then .error (required name)
  else
    match f.int (strip value) with
    | some number => .ok number
    | none => .error (name ++ "=" ++ reprText value ++ " is not a valid integer")

def optionalQuarter (value : Text) : Except String (Option Int) :=
  if isNull f (strip value) then .ok none
  else
    match f.int (strip value) with
    | none => .error ("fiscal_quarter=" ++ reprText value ++ " is not a valid integer")
    | some quarter =>
      if quarter ∈ [1, 2, 3, 4] then .ok (some quarter)
      else .error "fiscal_quarter must be 1, 2, 3, 4, or empty"

/-- `parsed < 0`, for which a NaN has no answer. -/
def CellNumber.negative : CellNumber → Except ImportError Bool
  | .value (.finite number) => .ok (decide (number < 0))
  | .value (.infinite negative) => .ok negative
  | .value .nan => .error .invalidOperation
  | .signaling => .error .invalidOperation

/-- The number of a cell, `none` for a null token and the error for what is no number. -/
def cellNumber (name : String) (value : Text) : Except String (Option CellNumber) :=
  if isNull f (strip value) then .ok none
  else
    match f.decimal ((strip value).filter fun c => decide (c ≠ ',')) with
    | some number => .ok (some number)
    | none => .error (name ++ "=" ++ reprText value ++ " is not a valid number")

/-- The check that a field which must not be negative is not. -/
def signChecked (nonNegativeFields : List String) (name : String) (parsed : CellNumber) :
    Except ImportError (Option CellNumber) :=
  if name ∈ nonNegativeFields then do
    if ← parsed.negative then .error (.rowValidation (name ++ " must be non-negative"))
    else return some parsed
  else return some parsed

def optionalDecimal (nonNegativeFields : List String) (name : String) (value : Text) :
    Except ImportError (Option CellNumber) := do
  match ← validated (cellNumber f name value) with
  | none => return none
  | some parsed => signChecked nonNegativeFields name parsed

def enum (name : String) (value : Text) (allowed : List String) : Except String (Option Text) :=
  let cleaned := f.upper (strip value)
  if isNull f cleaned then .ok none
  else if (allowed.map String.toList).contains cleaned then .ok (some cleaned)
  else .error (name ++ "=" ++ reprText value ++ " is not one of " ++
    (Json.list (allowed.map .str)).repr)

def requiredEnum (name : String) (value : Text) (allowed : List String) : Except String Text := do
  match ← enum f name value allowed with
  | none => .error (required name)
  | some cleaned => .ok cleaned

def normalizeRow (raw : RawRow) : Row :=
  raw.map fun (name, value) => (f.lower (strip (name.getD [])),
    AnalystReportCsvImporter.normalize value)

/-- `row.get(name) or None` -/
def text? (row : Row) (name : String) : Option Text :=
  if row.cell name = [] then none else some (row.cell name)

def numbers (nonNegativeFields : List String) (row : Row) (names : List String) :
    Except ImportError (List (String × Option CellNumber)) :=
  names.mapM fun name => do
    return (name, ← optionalDecimal f nonNegativeFields name (row.cell name))

/-- `values[name]` for a number field -/
def number (values : List (String × Option CellNumber)) (name : String) : Option CellNumber :=
  (values.lookup name).join

/-- The cell holds a NaN of either kind. -/
def IsNan (name : String) (value : Text) : Prop :=
  cellNumber f name value = .ok (some (.value .nan)) ∨ cellNumber f name value = .ok (some .signaling)

theorem escapes_negative_iff {parsed : CellNumber} :
    Escapes parsed.negative ↔ parsed = .value .nan ∨ parsed = .signaling := by
  cases parsed with
  | signaling => exact ⟨fun _ => .inr rfl, fun _ => ⟨_, rfl, id⟩⟩
  | value number =>
    cases number with
    | nan => exact ⟨fun _ => .inl rfl, fun _ => ⟨_, rfl, id⟩⟩
    | finite number => exact iff_of_false (not_escapes_ok _) (by simp)
    | infinite negative => exact iff_of_false (not_escapes_ok _) (by simp)

theorem escapes_signChecked_iff {nonNegativeFields : List String} {name : String} {parsed : CellNumber} :
    Escapes (signChecked nonNegativeFields name parsed) ↔
      name ∈ nonNegativeFields ∧ (parsed = .value .nan ∨ parsed = .signaling) := by
  rw [signChecked]
  split
  · rename_i hName
    rw [escapes_bind_iff, escapes_negative_iff]
    refine ⟨fun h => ⟨hName, h.resolve_right ?_⟩, fun h => .inl h.2⟩
    rintro ⟨negative, -, error, hError, hEscapes⟩
    cases negative with
    | true =>
      cases hError
      exact hEscapes trivial
    | false => cases hError
  · rename_i hName
    exact iff_of_false (not_escapes_ok _) fun h => hName h.1

/-- Reading a number escapes where a NaN is compared with zero. -/
theorem escapes_optionalDecimal_iff {nonNegativeFields : List String} {name : String} {value : Text} :
    Escapes (optionalDecimal f nonNegativeFields name value) ↔
      name ∈ nonNegativeFields ∧ IsNan f name value := by
  rw [optionalDecimal, escapes_validated_bind_iff, IsNan]
  constructor
  · rintro ⟨found, hFound, hEscapes⟩
    cases found with
    | none => exact absurd hEscapes (not_escapes_ok _)
    | some parsed =>
      obtain ⟨hName, rfl | rfl⟩ := escapes_signChecked_iff.mp hEscapes
      · exact ⟨hName, .inl hFound⟩
      · exact ⟨hName, .inr hFound⟩
  · rintro ⟨hName, hNan | hSignaling⟩
    · exact ⟨_, hNan, escapes_signChecked_iff.mpr ⟨hName, .inl rfl⟩⟩
    · exact ⟨_, hSignaling, escapes_signChecked_iff.mpr ⟨hName, .inr rfl⟩⟩

/-- Of the number fields, one that must not be negative holds a NaN, and none before it is invalid. -/
def NumbersTrap (nonNegativeFields : List String) (row : Row) (names : List String) : Prop :=
  ∃ before name after, names = before ++ name :: after ∧
    (∀ other ∈ before, ∃ number, optionalDecimal f nonNegativeFields other (row.cell other) = .ok number) ∧
      name ∈ nonNegativeFields ∧ IsNan f name (row.cell name)

theorem escapes_numbers_iff {nonNegativeFields : List String} {row : Row} {names : List String} :
    Escapes (numbers f nonNegativeFields row names) ↔ NumbersTrap f nonNegativeFields row names := by
  rw [numbers, escapes_mapM_iff]
  simp only [escapes_bind_pure_iff, escapes_optionalDecimal_iff, NumbersTrap]
  refine exists_congr fun before => exists_congr fun name => exists_congr fun after =>
    and_congr_right fun _ => and_congr_left fun _ => forall_congr' fun other =>
      imp_congr_right fun _ => ?_
  constructor
  · rintro ⟨value, hValue⟩
    obtain ⟨number, hNumber, -⟩ := except_bind_eq_ok.mp hValue
    exact ⟨number, hNumber⟩
  · rintro ⟨number, hNumber⟩
    exact ⟨_, except_bind_eq_ok.mpr ⟨number, hNumber, rfl⟩⟩

end Cells

end StockAiPlatform.MetricImport
