import StockAiPlatform.Data.MetricImport

/-! # Whole imports of metrics

An import that returns has counted every row once, and what it wrote under a key
is the last valid row of the key. It returns unless a row raises what is not
caught.
-/

namespace StockAiPlatform.MetricImport
set_option autoImplicit false

open Python Transaction

variable {K V : Type} [DecidableEq K] {importer : CsvImporter K V} {columns : Columns importer}

structure ImportsExactly (table : MetricTable columns) (rows : List RawRow) : Prop where
  total : ∃ state, importRows table rows = .ok state
  accounted : ∀ state, importRows table rows = .ok state →
    state.summary.totalRows = rows.length ∧ state.summary.totalRows = state.summary.inserted +
      state.summary.updated + state.summary.unchanged + state.summary.validationErrors
  errorInert : ∀ before raw after, rows = before ++ raw :: after → ∀ state next,
    importRows table before = .ok state → importRows table (before ++ [raw]) = .ok next →
      state.summary.validationErrors < next.summary.validationErrors → next.db = state.db
  /-- The second import may go on in the session of the first or load the table anew. -/
  again : ∀ state, importRows table rows = .ok state → ∀ loaded,
    loaded = state.db ∨ loaded = state.db.map StoredRow.reopened →
      ∀ next, importRows loaded rows = .ok next →
        next.db.map StoredRow.kept = state.db.map StoredRow.kept

/-- The values that a row finds: the last valid ones with its key before it, or the stored ones. -/
def predecessor (table : MetricTable columns) (before : List RawRow) (key : K) : Option V :=
  (lookup importer.key key (before.filterMap importer.valid).reverse).or
    ((lookup StoredRow.key key table).map StoredRow.loaded)

/-- The key of the values is stored once at most, and the store takes them over what they find. -/
structure Welcome (table : MetricTable columns) (before : List RawRow) (values : V) : Prop where
  single : table.countP (hasKey StoredRow.key (importer.key values)) ≤ 1
  suits : Suits columns (predecessor table before (importer.key values)) values

/-- A row meets nothing that raises: neither in its checks nor, if it passes them, at the store. -/
def Harmless (Traps : RawRow → Prop) (table : MetricTable columns) (rows : List RawRow) : Prop :=
  ∀ before raw after, rows = before ++ raw :: after →
    ¬ Traps raw ∧ ∀ values ∈ importer.valid raw, Welcome table before values

section Runs

variable {table : MetricTable columns} {rows : List RawRow}

theorem lookup_map_row (key : K) (values : List V) :
    lookup StoredRow.key key (values.map columns.row) =
      (lookup importer.key key values).map columns.row := by
  rw [lookup, lookup, List.find?_map]
  rfl

theorem lookup_writes (table : MetricTable columns) (before : List RawRow) (key : K) :
    (lookup StoredRow.key key ((writes columns before).foldl (upsertBy StoredRow.key) table)).map
      StoredRow.loaded = predecessor table before key := by
  rw [lookup_foldl_upsertBy, writes, ← List.map_reverse, lookup_map_row, predecessor]
  cases lookup importer.key key (before.filterMap importer.valid).reverse <;> rfl

theorem admits_writes_iff {before : List RawRow} {values : V} :
    Admits ((writes columns before).foldl (upsertBy StoredRow.key) table) values ↔
      Welcome table before values := by
  have hFound := lookup_writes table before (importer.key values)
  constructor
  · rintro ⟨hSingle, hSuits⟩
    rw [hFound] at hSuits
    exact ⟨countP_foldl_upsertBy.mp hSingle, hSuits⟩
  · rintro ⟨hSingle, hSuits⟩
    refine ⟨countP_foldl_upsertBy.mpr hSingle, ?_⟩
    rw [hFound]
    exact hSuits

theorem importRows_ok_iff {Traps : RawRow → Prop}
    (hTraps : ∀ raw, Escapes (importer.parseRow raw) ↔ Traps raw) :
    (∃ state, importRows table rows = .ok state) ↔ Harmless Traps table rows := by
  rw [importRows, importFrom_ok_iff]
  refine forall_congr' fun before => forall_congr' fun raw => forall_congr' fun after =>
    imp_congr_right fun _ => ?_
  rw [← hTraps, Escapes, Passes, CsvImporter.valid]
  cases importer.parseRow raw with
  | ok parsed => simp [admits_writes_iff]
  | error error => simp

theorem map_kept_again {state : ImportState columns} (h : importRows table rows = .ok state)
    {loaded : MetricTable columns}
    (hLoaded : loaded = state.db ∨ loaded = state.db.map StoredRow.reopened)
    {next : ImportState columns} (hNext : importRows loaded rows = .ok next) :
    next.db.map StoredRow.kept = state.db.map StoredRow.kept := by
  have hTable : state.db = (writes columns rows).foldl (upsertBy StoredRow.key) table :=
    (importFrom_spec h).table
  have hAgain : next.db = (writes columns rows).foldl (upsertBy StoredRow.key) loaded :=
    (importFrom_spec hNext).table
  obtain ⟨load, hLoad, rfl⟩ : ∃ load : StoredRow columns → StoredRow columns,
      (∀ row, (load row).key = row.key ∧ (load row).kept = row.kept) ∧ loaded = state.db.map load := by
    obtain rfl | rfl := hLoaded
    · exact ⟨id, fun row => ⟨rfl, rfl⟩, (List.map_id _).symm⟩
    · exact ⟨StoredRow.reopened, fun row => ⟨row.key_kept, rfl⟩, rfl⟩
  have hKeys : (state.db.map load).map StoredRow.key = state.db.map StoredRow.key := by
    rw [List.map_map]
    exact List.map_congr_left fun row _ => (hLoad row).1
  have hTaken : ∀ write ∈ writes columns rows, write.key ∈ (state.db.map load).map StoredRow.key := by
    intro write hWrite
    rw [hKeys, hTable]
    exact mem_keys_foldl_upsertBy.mpr (.inl (List.mem_map_of_mem hWrite))
  rw [hAgain, foldl_upsertBy_eq_map hTaken, List.map_map, List.map_map]
  refine List.map_congr_left fun row hRow => ?_
  -- what is written again under the key of the row is the row itself
  have hLast := lastWrite_of_mem (hTable ▸ hRow)
  rw [Function.comp_apply, Function.comp_apply, (hLoad row).1]
  cases hWrite : lookup StoredRow.key row.key (writes columns rows).reverse with
  | none => exact (hLoad row).2
  | some write =>
    rw [hWrite] at hLast
    exact congrArg StoredRow.kept hLast

theorem importsExactly_iff {Traps : RawRow → Prop}
    (hTraps : ∀ raw, Escapes (importer.parseRow raw) ↔ Traps raw) :
    ImportsExactly table rows ↔ Harmless Traps table rows := by
  rw [← importRows_ok_iff hTraps]
  refine ⟨ImportsExactly.total, fun hTotal => ⟨hTotal, ?_, ?_, ?_⟩⟩
  · intro state hState
    have hImported := importFrom_spec hState
    have hTotalRows : state.summary.totalRows = 0 + rows.length := hImported.totalRows
    have hHandled : state.summary.handled = 0 + rows.length := hImported.handled
    simp only [ImportSummary.handled] at hHandled
    exact ⟨by omega, by omega⟩
  · rintro before raw after - state next hState hNext hMore
    obtain ⟨middle, hBefore, hRest⟩ := importFrom_append.mp hNext
    obtain rfl := Except.ok.inj (hState.symm.trans hBefore)
    obtain ⟨last, hLast, hEnd⟩ := except_bind_eq_ok.mp hRest
    cases hEnd
    exact (importNext_spec hLast).2.errorInert hMore
  · intro state hState loaded hLoaded next hNext
    exact map_kept_again hState hLoaded hNext

end Runs

end StockAiPlatform.MetricImport
