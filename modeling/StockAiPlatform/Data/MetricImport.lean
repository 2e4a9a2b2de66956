import StockAiPlatform.Data.MetricCells
import StockAiPlatform.Transaction.Fallible
import StockAiPlatform.Transaction.Upsert

/-! # The loop of the metric importers

A row that passes its checks is compared with the stored row of its key and
written where they differ. The session goes on with the values it was given; the
columns of the table keep what they make of them.
-/

namespace StockAiPlatform.MetricImport
set_option autoImplicit false

open Python Transaction

inductive Attribute where
  | text (value : Option Text)
  | int (value : Option Int)
  | date (value : Date)
  | number (value : Option CellNumber)
  deriving DecidableEq

/-- `existing != value`. A NaN is equal to nothing. -/
def Attribute.unequal : Attribute → Attribute → Except ImportError Bool
  | .number (some .signaling), .number (some _) => .error .invalidOperation
  | .number (some _), .number (some .signaling) => .error .invalidOperation
  | .number (some (.value .nan)), .number (some _) => .ok true
  | existing, value => .ok (decide (existing ≠ value))

/-- The loop that stops at the first difference. -/
def allEqual : List Attribute → List Attribute → Except ImportError Bool
  | existing :: rest, value :: values => do
    if ← existing.unequal value then return false else allEqual rest values
  | _, _ => return true

theorem eq_of_unequal {existing value : Attribute} (h : existing.unequal value = .ok false) :
    existing = value := by
  rw [Attribute.unequal.eq_def] at h
  split at h
  · cases h
  · cases h
  · cases h
  · exact not_not.mp (of_decide_eq_false (Except.ok.inj h))

/-- Lists of attributes that no loop tells apart are the same. -/
theorem eq_of_allEqual {existing values : List Attribute} (hLength : existing.length = values.length)
    (h : allEqual existing values = .ok true) : existing = values := by
  induction existing generalizing values with
  | nil => exact (List.eq_nil_of_length_eq_zero hLength.symm).symm
  | cons first existing ih =>
    cases values with
    | nil => cases hLength
    | cons value values =>
      obtain ⟨unequal, hUnequal, hRest⟩ := except_bind_eq_ok.mp h
      cases unequal with
      | true => cases hRest
      | false => rw [eq_of_unequal hUnequal, ih (Nat.succ.inj hLength) hRest]

structure ImportSummary extends RowCounts where
  inserted : Nat := 0
  updated : Nat := 0
  unchanged : Nat := 0
  truncatedNotes : Nat := 0

/-- One of the importers, by the values it makes of a row. -/
structure CsvImporter (K V : Type) where
  key : V → K
  attributes : V → List Attribute
  /-- The values, and whether a note was cut. -/
  parseRow : RawRow → Except ImportError (V × Bool)
  /-- Whether unchanged rows are counted as skipped duplicates as well. -/
  countsSkipped : Bool
  eq_of_allEqual : ∀ {a b}, allEqual (attributes a) (attributes b) = .ok true → a = b

/-- What a table and its driver do with the values that are flushed. -/
structure Columns {K V : Type} (importer : CsvImporter K V) where
  /-- An insert, or an update of what the session has loaded, is carried out. -/
  accepts : Option V → V → Bool
  keep : V → V
  key_keep : ∀ values, importer.key (keep values) = importer.key values
  keep_keep : ∀ values, keep (keep values) = keep values

/-- A row as the session has it, and as the table keeps it. -/
structure StoredRow {K V : Type} {importer : CsvImporter K V} (columns : Columns importer) where
  loaded : V
  kept : V
  flushed : kept = columns.keep loaded

section Rows

variable {K V : Type} {importer : CsvImporter K V} {columns : Columns importer}

def StoredRow.key (row : StoredRow columns) : K := importer.key row.loaded

theorem StoredRow.key_kept (row : StoredRow columns) : importer.key row.kept = row.key := by
  rw [row.flushed, columns.key_keep]
  rfl

def Columns.row (columns : Columns importer) (values : V) : StoredRow columns :=
  ⟨values, columns.keep values, rfl⟩

theorem StoredRow.flushed_kept (row : StoredRow columns) : row.kept = columns.keep row.kept := by
  rw [row.flushed, columns.keep_keep]

/-- The row as another session loads it. -/
def StoredRow.reopened (row : StoredRow columns) : StoredRow columns :=
  ⟨row.kept, row.kept, row.flushed_kept⟩

abbrev MetricTable (columns : Columns importer) := List (StoredRow columns)

def flush (loaded : Option V) (values : V) : Except ImportError (StoredRow columns) :=
  if columns.accepts loaded values then .ok (columns.row values) else .error .refused

def CsvImporter.valid (importer : CsvImporter K V) (raw : RawRow) : Option V :=
  match importer.parseRow raw with
  | .ok (values, _) => some values
  | .error _ => none

def writes (columns : Columns importer) (rows : List RawRow) : List (StoredRow columns) :=
  (rows.filterMap importer.valid).map columns.row

variable {raw : RawRow}

theorem writes_of_error {error : ImportError} (h : importer.parseRow raw = .error error) :
    writes columns [raw] = [] := by
  have hNone : importer.valid raw = none := by rw [CsvImporter.valid, h]
  rw [writes, List.filterMap_cons_none hNone]
  rfl

theorem writes_of_ok {parsed : V × Bool} (h : importer.parseRow raw = .ok parsed) :
    writes columns [raw] = [columns.row parsed.1] := by
  have hSome : importer.valid raw = some parsed.1 := by rw [CsvImporter.valid, h]
  rw [writes, List.filterMap_cons_some hSome]
  rfl

theorem writes_append (rows rows' : List RawRow) :
    writes columns (rows ++ rows') = writes columns rows ++ writes columns rows' := by
  rw [writes, List.filterMap_append, List.map_append]
  rfl

end Rows

section Loop

variable {K V : Type} [DecidableEq K] {importer : CsvImporter K V} {columns : Columns importer}

abbrev ImportState (columns : Columns importer) := Importing (MetricTable columns) ImportSummary

/-- `get_by_symbol_event`, `get_by_symbol_period` -/
def getByKey (table : MetricTable columns) (key : K) :
    Except ImportError (Option (StoredRow columns)) :=
  scalarOneOrNone (table.filter (hasKey StoredRow.key key))

/-- `upsert_by_symbol_event`, `upsert_by_symbol_period` -/
def upsertByKey (table : MetricTable columns) (values : V) :
    Except ImportError (MetricTable columns) := do
  match ← getByKey table (importer.key values) with
  | none => return table ++ [← flush none values]
  | some existing =>
    let row ← flush (some existing.loaded) values
    return updateWhere (hasKey StoredRow.key (importer.key values)) (fun _ => row) table

/-- `_persist_dto` -/
def persistDto (values : V) (state : ImportState columns) :
    Except ImportError (ImportState columns) := do
  let summary := state.summary
  match ← getByKey state.db (importer.key values) with
  | none =>
    let summary := { summary with inserted := summary.inserted + 1 }
    return ⟨← upsertByKey state.db values, summary⟩
  | some existing =>
    if ← allEqual (importer.attributes existing.loaded) (importer.attributes values) then
      return ⟨state.db, { summary with
        unchanged := summary.unchanged + 1
        skippedDuplicates := summary.skippedDuplicates + importer.countsSkipped.toNat }⟩
    else
      let summary := { summary with updated := summary.updated + 1 }
      return ⟨← upsertByKey state.db values, summary⟩

/-- One turn of the loop. Only a check of the row raises what is caught. -/
def importNext (index : Nat) (raw : RawRow) (state : ImportState columns) :
    Except ImportError (ImportState columns) :=
  let summary := { state.summary with totalRows := state.summary.totalRows + 1 }
  match importer.parseRow raw with
  | .error (.rowValidation message) => .ok ⟨state.db, { summary with toRowCounts := summary.toRowCounts.failed index message }⟩
  | .error error => .error error
  | .ok (values, truncated) => persistDto values
      ⟨state.db, { summary with truncatedNotes := summary.truncatedNotes + truncated.toNat }⟩

def importFrom : Nat → List RawRow → ImportState columns → Except ImportError (ImportState columns)
  | _, [], state => .ok state
  | index, raw :: rows, state => do importFrom (index + 1) rows (← importNext index raw state)

/-- `import_rows` -/
def importRows (table : MetricTable columns) (rows : List RawRow) :
    Except ImportError (ImportState columns) := importFrom 1 rows ⟨table, {}⟩

def ImportSummary.handled (summary : ImportSummary) : Nat :=
  summary.inserted + summary.updated + summary.unchanged + summary.validationErrors

/-- The store takes the values, by the values the session found under their key. -/
def Suits (columns : Columns importer) (found : Option V) (values : V) : Prop :=
  match found with
  | none => columns.accepts none values = true
  | some existing => ∃ equal,
    allEqual (importer.attributes existing) (importer.attributes values) = .ok equal ∧
      (equal = true ∨ columns.accepts (some existing) values = true)

structure Admits (table : MetricTable columns) (values : V) : Prop where
  single : table.countP (hasKey StoredRow.key (importer.key values)) ≤ 1
  suits : Suits columns ((lookup StoredRow.key (importer.key values) table).map StoredRow.loaded) values

variable {table : MetricTable columns} {values : V} {state next : ImportState columns}

theorem scalarOneOrNone_of_le {α : Type} {rows : List α} (h : rows.length ≤ 1) :
    (scalarOneOrNone rows : Except ImportError _) = .ok rows.head? := by
  cases rows with
  | nil => rfl
  | cons row rest =>
    obtain rfl : rest = [] := List.eq_nil_of_length_eq_zero (by simpa using h)
    rfl

theorem le_of_scalarOneOrNone {α : Type} {rows : List α} {found : Option α}
    (h : (scalarOneOrNone rows : Except ImportError _) = .ok found) : rows.length ≤ 1 := by
  cases rows with
  | nil => exact Nat.zero_le 1
  | cons row rest =>
    cases rest with
    | nil => exact le_refl 1
    | cons other rest => cases h

theorem getByKey_of_single {key : K} (h : table.countP (hasKey StoredRow.key key) ≤ 1) :
    getByKey table key = .ok (lookup StoredRow.key key table) := by
  rw [List.countP_eq_length_filter] at h
  rw [getByKey, lookup, ← List.head?_filter]
  exact scalarOneOrNone_of_le h

theorem single_of_getByKey {key : K} {found : Option (StoredRow columns)}
    (h : getByKey table key = .ok found) : table.countP (hasKey StoredRow.key key) ≤ 1 := by
  rw [List.countP_eq_length_filter]
  exact le_of_scalarOneOrNone h

/-- What handling a row makes of the summary. -/
structure Counted (summary next : ImportSummary) : Prop where
  handled : next.handled = summary.handled + 1
  totalRows : next.totalRows = summary.totalRows
  validationErrors : next.validationErrors = summary.validationErrors

theorem lookup_key {key : K} {existing : StoredRow columns}
    (h : lookup StoredRow.key key table = some existing) :
    existing ∈ table ∧ existing.key = key :=
  ⟨List.mem_of_find?_eq_some h, hasKey_iff.mp (List.find?_some h)⟩

theorem upsertByKey_eq (hSingle : table.countP (hasKey StoredRow.key (importer.key values)) ≤ 1) :
    upsertByKey table values =
      if columns.accepts ((lookup StoredRow.key (importer.key values) table).map StoredRow.loaded) values
      then .ok (upsertBy StoredRow.key table (columns.row values)) else .error .refused := by
  have hKey : (columns.row values).key = importer.key values := rfl
  rw [upsertByKey, getByKey_of_single hSingle, upsertBy, hKey]
  cases hFound : lookup StoredRow.key (importer.key values) table with
  | none =>
    rw [if_neg (lookup_eq_none.mp hFound), Option.map_none]
    change (flush none values >>= fun row => pure (table ++ [row])) = _
    rw [flush]
    split <;> rfl
  | some existing =>
    obtain ⟨hMem, hSame⟩ := lookup_key hFound
    have hTaken : importer.key values ∈ table.map StoredRow.key := hSame ▸ List.mem_map_of_mem hMem
    rw [if_pos hTaken, Option.map_some]
    change (flush (some existing.loaded) values >>= fun row =>
      pure (updateWhere (hasKey StoredRow.key (importer.key values)) (fun _ => row) table)) = _
    rw [flush]
    split <;> rfl

/-- A row with the values is what flushing them would write. -/
theorem upsertBy_of_loaded {existing : StoredRow columns}
    (hSingle : table.countP (hasKey StoredRow.key (importer.key values)) ≤ 1)
    (hFound : lookup StoredRow.key (importer.key values) table = some existing)
    (hLoaded : existing.loaded = values) :
    upsertBy StoredRow.key table (columns.row values) = table := by
  obtain ⟨hMem, hSame⟩ := lookup_key hFound
  have hRow : existing = columns.row values := by
    obtain ⟨loaded, kept, hFlushed⟩ := existing
    subst hLoaded hFlushed
    rfl
  refine upsertBy_eq_self (hRow ▸ List.mem_map_of_mem hMem) fun other hOther hKey => ?_
  rw [← hRow]
  exact eq_of_lookup_eq_some hSingle hFound hOther hKey

theorem upsertByKey_eq_ok {written : MetricTable columns}
    (hSingle : table.countP (hasKey StoredRow.key (importer.key values)) ≤ 1) :
    upsertByKey table values = .ok written ↔
      columns.accepts ((lookup StoredRow.key (importer.key values) table).map StoredRow.loaded) values =
          true ∧ written = upsertBy StoredRow.key table (columns.row values) := by
  rw [upsertByKey_eq hSingle]
  split
  · rename_i hAccepts
    exact ⟨fun h => ⟨hAccepts, (Except.ok.inj h).symm⟩, fun h => congrArg Except.ok h.2.symm⟩
  · rename_i hRefused
    refine ⟨fun h => ?_, fun h => absurd h.1 hRefused⟩
    cases h

/-- Values that are persisted are those under their key, whether they were there already or not. -/
theorem persistDto_spec (h : persistDto values state = .ok next) :
    Admits state.db values ∧
      next.db = upsertBy StoredRow.key state.db (columns.row values) ∧
      Counted state.summary next.summary := by
  obtain ⟨found, hFound, hThen⟩ := except_bind_eq_ok.mp h
  have hSingle := single_of_getByKey hFound
  have hLookup := Except.ok.inj ((getByKey_of_single hSingle).symm.trans hFound)
  have hAdmits (hSuits : Suits columns (found.map StoredRow.loaded) values) :
      Admits state.db values := ⟨hSingle, hLookup ▸ hSuits⟩
  cases found with
  | none =>
    obtain ⟨written, hTable, hNext⟩ := except_bind_eq_ok.mp hThen
    obtain ⟨hAccepts, rfl⟩ := (upsertByKey_eq_ok hSingle).mp hTable
    rw [hLookup] at hAccepts
    cases hNext
    refine ⟨hAdmits hAccepts, rfl, ⟨?_, rfl, rfl⟩⟩
    simp only [ImportSummary.handled]
    omega
  | some existing =>
    obtain ⟨equal, hEqual, hThen⟩ := except_bind_eq_ok.mp hThen
    cases equal with
    | true =>
      cases hThen
      refine ⟨hAdmits ⟨true, hEqual, .inl rfl⟩, ?_, ⟨?_, rfl, rfl⟩⟩
      · exact (upsertBy_of_loaded hSingle hLookup (importer.eq_of_allEqual hEqual)).symm
      · simp only [ImportSummary.handled]
        omega
    | false =>
      obtain ⟨written, hTable, hNext⟩ := except_bind_eq_ok.mp hThen
      obtain ⟨hAccepts, rfl⟩ := (upsertByKey_eq_ok hSingle).mp hTable
      rw [hLookup] at hAccepts
      cases hNext
      refine ⟨hAdmits ⟨false, hEqual, .inr hAccepts⟩, rfl, ⟨?_, rfl, rfl⟩⟩
      simp only [ImportSummary.handled]
      omega

theorem persistDto_of_admits (h : Admits state.db values) :
    ∃ next, persistDto values state = .ok next := by
  obtain ⟨hSingle, hSuits⟩ := h
  have hGet := getByKey_of_single hSingle
  have hWritten (hAccepts : columns.accepts
      ((lookup StoredRow.key (importer.key values) state.db).map StoredRow.loaded) values = true) :
      upsertByKey state.db values = .ok (upsertBy StoredRow.key state.db (columns.row values)) :=
    (upsertByKey_eq_ok hSingle).mpr ⟨hAccepts, rfl⟩
  cases hFound : lookup StoredRow.key (importer.key values) state.db with
  | none =>
    rw [hFound] at hSuits hGet hWritten
    have hTable := hWritten hSuits
    exact ⟨_, except_bind_eq_ok.mpr ⟨none, hGet, except_bind_eq_ok.mpr ⟨_, hTable, rfl⟩⟩⟩
  | some existing =>
    rw [hFound] at hSuits hGet hWritten
    obtain ⟨equal, hEqual, hAccepts⟩ := hSuits
    cases equal with
    | true =>
      exact ⟨_, except_bind_eq_ok.mpr ⟨_, hGet, except_bind_eq_ok.mpr ⟨true, hEqual, rfl⟩⟩⟩
    | false =>
      have hTable := hWritten (hAccepts.resolve_left Bool.false_ne_true)
      exact ⟨_, except_bind_eq_ok.mpr ⟨_, hGet, except_bind_eq_ok.mpr ⟨false, hEqual,
        except_bind_eq_ok.mpr ⟨_, hTable, rfl⟩⟩⟩⟩

section Run

/-- Nothing but a caught error comes of the row. -/
def Passes (table : MetricTable columns) (raw : RawRow) : Prop :=
  match importer.parseRow raw with
  | .ok (values, _) => Admits table values
  | .error error => Caught error

variable {index : Nat} {raw : RawRow} {rows : List RawRow}

/-- What a turn of the loop does: the row is written or counted as an error. -/
structure Handled (state : ImportState columns) (raw : RawRow) (next : ImportState columns) : Prop where
  table : next.db = (writes columns [raw]).foldl (upsertBy StoredRow.key) state.db
  handled : next.summary.handled = state.summary.handled + 1
  totalRows : next.summary.totalRows = state.summary.totalRows + 1
  errorInert : state.summary.validationErrors < next.summary.validationErrors → next.db = state.db

theorem importNext_spec (h : importNext index raw state = .ok next) :
    Passes state.db raw ∧ Handled state raw next := by
  rw [importNext] at h
  rw [Passes]
  cases hParse : importer.parseRow raw with
  | error error =>
    rw [hParse] at h
    cases error with
    | rowValidation message =>
      cases h
      refine ⟨trivial, ?_, ?_, rfl, fun _ => rfl⟩
      · rw [writes_of_error hParse]
        rfl
      · simp only [ImportSummary.handled, RowCounts.failed]
        omega
    | _ => cases h
  | ok parsed =>
    rw [hParse] at h
    obtain ⟨hAdmits, hTable, hCounted⟩ := persistDto_spec h
    refine ⟨hAdmits, ?_, hCounted.handled, hCounted.totalRows, fun hMore => ?_⟩
    · rw [hTable, writes_of_ok hParse]
      rfl
    · rw [hCounted.validationErrors] at hMore
      exact absurd hMore (lt_irrefl _)

theorem importNext_of_passes (h : Passes state.db raw) :
    ∃ next, importNext index raw state = .ok next := by
  rw [Passes] at h
  rw [importNext]
  cases hParse : importer.parseRow raw with
  | error error =>
    rw [hParse] at h
    cases error with
    | rowValidation message => exact ⟨_, rfl⟩
    | _ => exact h.elim
  | ok parsed =>
    rw [hParse] at h
    exact persistDto_of_admits h

/-- What the rows do to the state they are imported into. -/
structure Imported (state : ImportState columns) (rows : List RawRow) (final : ImportState columns) :
    Prop where
  table : final.db = (writes columns rows).foldl (upsertBy StoredRow.key) state.db
  handled : final.summary.handled = state.summary.handled + rows.length
  totalRows : final.summary.totalRows = state.summary.totalRows + rows.length

theorem importFrom_spec {final : ImportState columns} (h : importFrom index rows state = .ok final) :
    Imported state rows final := by
  induction rows generalizing index state with
  | nil =>
    cases h
    exact ⟨rfl, rfl, rfl⟩
  | cons raw rows ih =>
    obtain ⟨next, hNext, hRest⟩ := except_bind_eq_ok.mp h
    have hHandled := (importNext_spec hNext).2
    have hImported := ih hRest
    refine ⟨?_, ?_, ?_⟩
    · rw [hImported.table, hHandled.table, ← List.foldl_append, ← writes_append]
      rfl
    · rw [hImported.handled, hHandled.handled, List.length_cons]
      omega
    · rw [hImported.totalRows, hHandled.totalRows, List.length_cons]
      omega

theorem importFrom_append {before after : List RawRow} {final : ImportState columns} :
    importFrom index (before ++ after) state = .ok final ↔ ∃ middle,
      importFrom index before state = .ok middle ∧
        importFrom (index + before.length) after middle = .ok final := by
  induction before generalizing index state with
  | nil =>
    constructor
    · exact fun h => ⟨state, rfl, h⟩
    · rintro ⟨middle, hMiddle, hRest⟩
      cases hMiddle
      exact hRest
  | cons raw before ih =>
    have hLength : index + (raw :: before).length = index + 1 + before.length := by
      rw [List.length_cons]
      omega
    rw [List.cons_append, importFrom, importFrom, except_bind_eq_ok, hLength]
    simp only [ih, except_bind_eq_ok]
    constructor
    · rintro ⟨next, hNext, middle, hMiddle, hRest⟩
      exact ⟨middle, ⟨next, hNext, hMiddle⟩, hRest⟩
    · rintro ⟨middle, ⟨next, hNext, hMiddle⟩, hRest⟩
      exact ⟨next, hNext, middle, hMiddle, hRest⟩

/-- An import returns if each row passes in the table that the rows before it leave. -/
theorem importFrom_ok_iff : (∃ final, importFrom index rows state = .ok final) ↔
    ∀ before raw after, rows = before ++ raw :: after →
      Passes ((writes columns before).foldl (upsertBy StoredRow.key) state.db) raw := by
  constructor
  · rintro ⟨final, hFinal⟩ before raw after rfl
    obtain ⟨middle, hBefore, hRest⟩ := importFrom_append.mp hFinal
    obtain ⟨next, hNext, -⟩ := except_bind_eq_ok.mp hRest
    rw [← (importFrom_spec hBefore).table]
    exact (importNext_spec hNext).1
  · intro h
    induction rows generalizing index state with
    | nil => exact ⟨state, rfl⟩
    | cons raw rows ih =>
      obtain ⟨next, hNext⟩ := importNext_of_passes (h [] raw rows rfl)
      have hTable := (importNext_spec hNext).2.table
      obtain ⟨final, hFinal⟩ := ih fun before other after hSplit => by
        have hPasses := h (raw :: before) other after (by rw [hSplit, List.cons_append])
        rwa [← List.singleton_append, writes_append, List.foldl_append, ← hTable] at hPasses
      exact ⟨final, except_bind_eq_ok.mpr ⟨next, hNext, hFinal⟩⟩

end Run

end Loop

end StockAiPlatform.MetricImport
