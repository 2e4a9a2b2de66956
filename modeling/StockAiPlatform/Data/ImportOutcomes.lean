import StockAiPlatform.Data.AnalystReportImporter

/-! # What importing one row does

A stage of a row looks its record up and stores it where the look-up finds
nothing. What it stores it finds again; what it looks up and finds twice makes
the row raise.
-/

namespace StockAiPlatform
set_option autoImplicit false

open Transaction Python AnalystReportCsvImporter

/-- The part of the summary that the rows of a file are counted in. -/
def ImportSummary.account (n : ImportSummary) : Nat × Nat × Nat × Nat × List (Nat × String) :=
  (n.totalRows, n.insertedReports, n.skippedDuplicates, n.validationErrors, n.errorDetails)

/-- What a unique key finds it goes on finding. -/
structure ReportDatabase.Grows (db db' : ReportDatabase) : Prop where
  reports : db.reports.FillsTo AnalystReport.uniqueKey db'.reports
  themes : db.themes.FillsTo ReportTheme.uniqueKey db'.themes
  mappings : db.mappings.FillsTo ThemeStockMapping.uniqueKey db'.mappings
  events : db.events.FillsTo ReportSignalEvent.uniqueKey db'.events

namespace ReportDatabase.Grows

theorem refl (db : ReportDatabase) : db.Grows db :=
  ⟨.refl _ _, .refl _ _, .refl _ _, .refl _ _⟩

theorem trans {db db' db'' : ReportDatabase} (h : db.Grows db') (h' : db'.Grows db'') :
    db.Grows db'' where
  reports := h.reports.trans h'.reports
  themes := h.themes.trans h'.themes
  mappings := h.mappings.trans h'.mappings
  events := h.events.trans h'.events

end ReportDatabase.Grows

/-- Links may have been stored; reports and the account of the rows are as they were. -/
structure Extends (s t : ImportState) : Prop extends s.db.Grows t.db where
  sameReports : t.db.reports = s.db.reports
  account : t.summary.account = s.summary.account

namespace Extends

theorem refl (s : ImportState) : Extends s s := ⟨.refl s.db, rfl, rfl⟩

theorem trans {s t u : ImportState} (h : Extends s t) (h' : Extends t u) : Extends s u where
  toGrows := h.toGrows.trans h'.toGrows
  sameReports := h'.sameReports.trans h.sameReports
  account := h'.account.trans h.account

end Extends

section Steps

variable {α β : Type} {s t : ImportState} {value : β}

theorem run_checked_bind_eq_ok {outcome : Except ImportError α} {next : α → ImportApp β} :
    (checked outcome >>= next).run s = .ok value t ↔
      ∃ found, outcome = .ok found ∧ (next found).run s = .ok value t := by
  cases outcome with
  | ok found =>
    constructor
    · exact fun h => ⟨found, rfl, h⟩
    · rintro ⟨other, hSame, h⟩
      cases hSame
      exact h
  | error error =>
    constructor
    · intro h
      cases h
    · rintro ⟨other, hSame, -⟩
      cases hSame

theorem run_validated_bind_eq_ok {outcome : Except String α} {next : α → ImportApp β} :
    (validated outcome >>= next).run s = .ok value t ↔
      ∃ found, outcome = .ok found ∧ (next found).run s = .ok value t := by
  rw [validated, run_checked_bind_eq_ok]
  cases outcome with
  | ok found => simp only [Except.mapError, Except.ok.injEq]
  | error message => simp only [Except.mapError, reduceCtorEq]

theorem run_lookup_bind_eq_ok {rows : List α} {next : Option α → ImportApp β} :
    (scalarOneOrNone rows >>= next).run s = .ok value t ↔
      (∃ row, rows = [row] ∧ (next (some row)).run s = .ok value t) ∨
        (rows = [] ∧ (next none).run s = .ok value t) := by
  match rows with
  | [] =>
    constructor
    · exact fun h => .inr ⟨rfl, h⟩
    · rintro (⟨row, hNone, -⟩ | ⟨-, h⟩)
      · cases hNone
      · exact h
  | [row] =>
    constructor
    · exact fun h => .inl ⟨row, rfl, h⟩
    · rintro (⟨other, hSame, h⟩ | ⟨hNone, -⟩)
      · cases hSame
        exact h
      · cases hNone
  | row :: other :: rows =>
    constructor
    · intro h
      cases h
    · rintro (⟨found, hSingle, -⟩ | ⟨hNone, -⟩)
      · cases hSingle
      · cases hNone

variable {R : ImportState → ImportState → Prop}

theorem moves_checked_bind {outcome : Except ImportError α} {next : α → ImportApp β} (hSame : R s s)
    (hNext : ∀ found, Moves R (next found) s) : Moves R (checked outcome >>= next) s := by
  cases outcome with
  | ok found => exact hNext found
  | error error => exact hSame

theorem moves_lookup_bind {rows : List α} {next : Option α → ImportApp β} (hSame : R s s)
    (hFound : ∀ row, Moves R (next (some row)) s) (hNone : rows = [] → Moves R (next none) s) :
    Moves R (scalarOneOrNone rows >>= next) s := by
  match rows with
  | [] => exact hNone rfl
  | [row] => exact hFound row
  | row :: other :: rows => exact hSame

end Steps

theorem length_le_one_iff {α : Type} {rows : List α} :
    rows.length ≤ 1 ↔ rows = [] ∨ ∃ row, rows = [row] := by
  match rows with
  | [] => simp
  | [row] => simp
  | row :: other :: rows => simp

/-- The state after the stage stored a theme, a mapping or an event. -/
def withTheme (s : ImportState) (theme : ReportTheme) : ImportState where
  db := { s.db with themes := s.db.themes.insert theme }
  summary := { s.summary with insertedThemes := s.summary.insertedThemes + 1 }

def withMapping (s : ImportState) (mapping : ThemeStockMapping) : ImportState where
  db := { s.db with mappings := s.db.mappings.insert mapping }
  summary := { s.summary with insertedMappings := s.summary.insertedMappings + 1 }

def withEvent (s : ImportState) (event : ReportSignalEvent) : ImportState where
  db := { s.db with events := s.db.events.insert event }
  summary := { s.summary with insertedSignalEvents := s.summary.insertedSignalEvents + 1 }

theorem extends_withTheme {s : ImportState} (theme : ReportTheme)
    (hKey : theme.id = s.db.themes.nextKey)
    (hNone : s.db.themes.byKey ReportTheme.uniqueKey theme.uniqueKey = []) :
    Extends s (withTheme s theme) :=
  ⟨⟨.refl _ _, .insert hKey hNone, .refl _ _, .refl _ _⟩, rfl, rfl⟩

theorem extends_withMapping {s : ImportState} (mapping : ThemeStockMapping)
    (hKey : mapping.id = s.db.mappings.nextKey)
    (hNone : s.db.mappings.byKey ThemeStockMapping.uniqueKey mapping.uniqueKey = []) :
    Extends s (withMapping s mapping) :=
  ⟨⟨.refl _ _, .refl _ _, .insert hKey hNone, .refl _ _⟩, rfl, rfl⟩

theorem extends_withEvent {s : ImportState} (event : ReportSignalEvent)
    (hKey : event.id = s.db.events.nextKey)
    (hNone : s.db.events.byKey ReportSignalEvent.uniqueKey event.uniqueKey = []) :
    Extends s (withEvent s event) :=
  ⟨⟨.refl _ _, .refl _ _, .refl _ _, .insert hKey hNone⟩, rfl, rfl⟩

/-- The theme a row names, as its report finds it or as it will be stored. -/
def themeIdIn (db : ReportDatabase) (reportId : Nat) (row : Row) : Option Nat :=
  (text? row "theme_name").map fun themeName =>
    match db.themes.byKey ReportTheme.uniqueKey (reportId, themeName) with
    | theme :: _ => theme.id
    | [] => db.themes.nextKey

section Links

variable {f : CellFunctions} {row : Row} {reportId themeId : Nat} {s t : ImportState}

theorem run_importTheme_eq_ok {themeName : Text} (hName : text? row "theme_name" = some themeName)
    {found : Option Nat} : (importTheme f reportId row).run s = .ok found t ↔
      ∃ fields, themeFields f row = .ok fields ∧
        ((∃ theme, s.db.themes.byKey ReportTheme.uniqueKey (reportId, themeName) = [theme] ∧
            found = some theme.id ∧ t = s) ∨
          (s.db.themes.byKey ReportTheme.uniqueKey (reportId, themeName) = [] ∧
            found = some s.db.themes.nextKey ∧
            t = withTheme s (themeOf themeName fields reportId s.db.themes.nextKey))) := by
  rw [importTheme, hName]
  refine run_validated_bind_eq_ok.trans (exists_congr fun fields => and_congr_right fun _ => ?_)
  refine run_lookup_bind_eq_ok.trans (or_congr (exists_congr fun theme => ?_) ?_)
  · refine and_congr_right fun _ => ⟨fun h => ?_, ?_⟩
    · cases h
      exact ⟨rfl, rfl⟩
    · rintro ⟨rfl, rfl⟩
      rfl
  · refine and_congr_right fun _ => ⟨fun h => ?_, ?_⟩
    · cases h
      exact ⟨rfl, rfl⟩
    · rintro ⟨rfl, rfl⟩
      rfl

theorem themeIdIn_of_none (hNone : text? row "theme_name" = none) (db : ReportDatabase) :
    themeIdIn db reportId row = none := by rw [themeIdIn, hNone]; rfl

theorem themeIdIn_of_single {db : ReportDatabase} {themeName : Text} {theme : ReportTheme}
    (hName : text? row "theme_name" = some themeName)
    (hTheme : db.themes.byKey ReportTheme.uniqueKey (reportId, themeName) = [theme]) :
    themeIdIn db reportId row = some theme.id := by
  rw [themeIdIn, hName, Option.map_some, hTheme]

theorem themeIdIn_of_nil {db : ReportDatabase} {themeName : Text}
    (hName : text? row "theme_name" = some themeName)
    (hNone : db.themes.byKey ReportTheme.uniqueKey (reportId, themeName) = []) :
    themeIdIn db reportId row = some db.themes.nextKey := by
  rw [themeIdIn, hName, Option.map_some, hNone]

/-- The theme the row names stands in the database once. -/
def ThemeStored (db : ReportDatabase) (reportId : Nat) (row : Row) : Prop :=
  ∀ themeName, text? row "theme_name" = some themeName →
    ∃ theme, db.themes.byKey ReportTheme.uniqueKey (reportId, themeName) = [theme]

def ThemeClear (db : ReportDatabase) (reportId : Nat) (row : Row) : Prop :=
  ∀ themeName, text? row "theme_name" = some themeName →
    (db.themes.byKey ReportTheme.uniqueKey (reportId, themeName)).length ≤ 1

def ThemeFieldsPass (f : CellFunctions) (row : Row) : Prop :=
  text? row "theme_name" ≠ none → ∃ fields, themeFields f row = .ok fields

theorem importTheme_ok {found : Option Nat}
    (h : (importTheme f reportId row).run s = .ok found t) :
    ThemeFieldsPass f row ∧ ThemeClear s.db reportId row ∧ found = themeIdIn s.db reportId row ∧
      ThemeStored t.db reportId row ∧ found = themeIdIn t.db reportId row := by
  cases hName : text? row "theme_name" with
  | none =>
    rw [importTheme, hName] at h
    cases h
    refine ⟨fun hSome => absurd hName hSome, ?_, (themeIdIn_of_none hName s.db).symm, ?_,
      (themeIdIn_of_none hName s.db).symm⟩
    · intro themeName hSome
      cases hName.symm.trans hSome
    · intro themeName hSome
      cases hName.symm.trans hSome
  | some themeName =>
    obtain ⟨fields, hFields, hFound⟩ := (run_importTheme_eq_ok hName).mp h
    refine ⟨fun _ => ⟨fields, hFields⟩, ?_⟩
    rcases hFound with ⟨theme, hTheme, rfl, rfl⟩ | ⟨hNone, rfl, rfl⟩
    · refine ⟨?_, (themeIdIn_of_single hName hTheme).symm, ?_,
        (themeIdIn_of_single hName hTheme).symm⟩
      · rintro other hOther
        cases hName.symm.trans hOther
        exact length_le_one_iff.mpr (.inr ⟨theme, hTheme⟩)
      · rintro other hOther
        cases hName.symm.trans hOther
        exact ⟨theme, hTheme⟩
    · have hStored : (withTheme s (themeOf themeName fields reportId s.db.themes.nextKey)).db.themes.byKey
          ReportTheme.uniqueKey (reportId, themeName) =
            [themeOf themeName fields reportId s.db.themes.nextKey] :=
        Table.byKey_insert_self _ rfl hNone
      refine ⟨?_, (themeIdIn_of_nil hName hNone).symm, ?_,
        (themeIdIn_of_single hName hStored).symm⟩
      · rintro other hOther
        cases hName.symm.trans hOther
        exact length_le_one_iff.mpr (.inl hNone)
      · rintro other hOther
        cases hName.symm.trans hOther
        exact ⟨_, hStored⟩

theorem importTheme_progress (hPass : ThemeFieldsPass f row)
    (hClear : ThemeClear s.db reportId row) :
    ∃ found t, (importTheme f reportId row).run s = .ok found t := by
  cases hName : text? row "theme_name" with
  | none => exact ⟨none, s, by rw [importTheme, hName]; rfl⟩
  | some themeName =>
    obtain ⟨fields, hFields⟩ := hPass (by rw [hName]; exact Option.some_ne_none themeName)
    rcases length_le_one_iff.mp (hClear themeName hName) with hNone | ⟨theme, hTheme⟩
    · exact ⟨_, _, (run_importTheme_eq_ok hName).mpr ⟨fields, hFields, .inr ⟨hNone, rfl, rfl⟩⟩⟩
    · exact ⟨_, _, (run_importTheme_eq_ok hName).mpr
        ⟨fields, hFields, .inl ⟨theme, hTheme, rfl, rfl⟩⟩⟩

theorem importTheme_again (hPass : ThemeFieldsPass f row) (hStored : ThemeStored s.db reportId row) :
    (importTheme f reportId row).run s = .ok (themeIdIn s.db reportId row) s := by
  cases hName : text? row "theme_name" with
  | none =>
    rw [importTheme, hName, themeIdIn_of_none hName]
    rfl
  | some themeName =>
    obtain ⟨fields, hFields⟩ := hPass (by rw [hName]; exact Option.some_ne_none themeName)
    obtain ⟨theme, hTheme⟩ := hStored themeName hName
    rw [themeIdIn_of_single hName hTheme]
    exact (run_importTheme_eq_ok hName).mpr ⟨fields, hFields, .inl ⟨theme, hTheme, rfl, rfl⟩⟩

theorem moves_importTheme : Moves Extends (importTheme f reportId row) s := by
  cases hName : text? row "theme_name" with
  | none =>
    rw [importTheme, hName]
    exact .refl s
  | some themeName =>
    rw [importTheme, hName]
    refine moves_checked_bind (.refl s) fun fields => ?_
    exact moves_lookup_bind (.refl s) (fun theme => .refl s) fun hNone =>
      extends_withTheme (themeOf themeName fields reportId s.db.themes.nextKey) rfl hNone

theorem run_importMapping_eq_ok {fields : MappingFields} {symbol : Text} {result : Unit} :
    (importMapping fields themeId symbol).run s = .ok result t ↔
      (∃ mapping, s.db.mappings.byKey ThemeStockMapping.uniqueKey (themeId, symbol) = [mapping] ∧
          t = s) ∨
        (s.db.mappings.byKey ThemeStockMapping.uniqueKey (themeId, symbol) = [] ∧
          t = withMapping s (mappingOf fields themeId symbol s.db.mappings.nextKey)) := by
  refine run_lookup_bind_eq_ok.trans (or_congr (exists_congr fun mapping => ?_) ?_)
  · refine and_congr_right fun _ => ⟨fun h => ?_, ?_⟩
    · cases h
      rfl
    · rintro rfl
      rfl
  · refine and_congr_right fun _ => ⟨fun h => ?_, ?_⟩
    · cases h
      rfl
    · rintro rfl
      rfl

theorem moves_importMapping {fields : MappingFields} {symbol : Text} :
    Moves Extends (importMapping fields themeId symbol) s :=
  moves_lookup_bind (.refl s) (fun _ => .refl s) fun hNone =>
    extends_withMapping (mappingOf fields themeId symbol s.db.mappings.nextKey) rfl hNone

theorem moves_importRelated {fields : MappingFields} (symbols : List Text) :
    Moves Extends (importRelated fields themeId symbols) s := by
  induction symbols generalizing s with
  | nil => exact .refl s
  | cons symbol symbols ih => exact .bind .trans moves_importMapping fun _ _ _ => ih

theorem importMapping_stored {fields : MappingFields} {symbol : Text} {result : Unit}
    (h : (importMapping fields themeId symbol).run s = .ok result t) :
    ∃ mapping, t.db.mappings.byKey ThemeStockMapping.uniqueKey (themeId, symbol) = [mapping] := by
  rcases run_importMapping_eq_ok.mp h with ⟨mapping, hMapping, rfl⟩ | ⟨hNone, rfl⟩
  · exact ⟨mapping, hMapping⟩
  · have hStored := Table.byKey_insert_self
      (mappingOf fields themeId symbol s.db.mappings.nextKey) rfl hNone
    exact ⟨_, hStored⟩

/-- The loop over the related symbols raises where one of them has several mappings. -/
theorem run_importRelated_ok_iff {fields : MappingFields} {symbols : List Text} :
    (∃ t, (importRelated fields themeId symbols).run s = .ok () t) ↔ ∀ symbol ∈ symbols,
      (s.db.mappings.byKey ThemeStockMapping.uniqueKey (themeId, symbol)).length ≤ 1 := by
  induction symbols generalizing s with
  | nil => exact ⟨fun _ => by simp, fun _ => ⟨s, rfl⟩⟩
  | cons symbol symbols ih =>
    rw [List.forall_mem_cons]
    constructor
    · rintro ⟨t, h⟩
      obtain ⟨first, u, hFirst, hRest⟩ := run_bind_eq_ok.mp h
      have hMoved := moves_importMapping.of_ok hFirst
      refine ⟨?_, fun other hOther => ?_⟩
      · rcases run_importMapping_eq_ok.mp hFirst with ⟨mapping, hMapping, -⟩ | ⟨hNone, -⟩
        · exact length_le_one_iff.mpr (.inr ⟨mapping, hMapping⟩)
        · exact length_le_one_iff.mpr (.inl hNone)
      · exact hMoved.mappings.length_le_one_iff.mp (ih.mp ⟨t, hRest⟩ other hOther)
    · rintro ⟨hFirst, hRest⟩
      have hStep : ∃ u, (importMapping fields themeId symbol).run s = .ok () u := by
        rcases length_le_one_iff.mp hFirst with hNone | ⟨mapping, hMapping⟩
        · exact ⟨_, run_importMapping_eq_ok.mpr (.inr ⟨hNone, rfl⟩)⟩
        · exact ⟨_, run_importMapping_eq_ok.mpr (.inl ⟨mapping, hMapping, rfl⟩)⟩
      obtain ⟨u, hStep⟩ := hStep
      have hMoved := moves_importMapping.of_ok hStep
      obtain ⟨t, hTail⟩ := ih.mpr fun other hOther =>
        hMoved.mappings.length_le_one_iff.mpr (hRest other hOther)
      exact ⟨t, (run_bind_of_ok hStep).trans hTail⟩

theorem importRelated_stored {fields : MappingFields} {symbols : List Text} {result : Unit}
    (h : (importRelated fields themeId symbols).run s = .ok result t) : ∀ symbol ∈ symbols,
      ∃ mapping, t.db.mappings.byKey ThemeStockMapping.uniqueKey (themeId, symbol) = [mapping] := by
  induction symbols generalizing s with
  | nil => simp
  | cons symbol symbols ih =>
    obtain ⟨first, u, hFirst, hRest⟩ := run_bind_eq_ok.mp h
    refine List.forall_mem_cons.mpr ⟨?_, ih hRest⟩
    obtain ⟨mapping, hMapping⟩ := importMapping_stored hFirst
    exact ⟨mapping, ((moves_importRelated symbols).of_ok hRest).mappings.single hMapping⟩

theorem importRelated_again {fields : MappingFields} {symbols : List Text}
    (hStored : ∀ symbol ∈ symbols, ∃ mapping,
      s.db.mappings.byKey ThemeStockMapping.uniqueKey (themeId, symbol) = [mapping]) :
    (importRelated fields themeId symbols).run s = .ok () s := by
  induction symbols with
  | nil => rfl
  | cons symbol symbols ih =>
    rw [List.forall_mem_cons] at hStored
    obtain ⟨mapping, hMapping⟩ := hStored.1
    have hFirst : (importMapping fields themeId symbol).run s = .ok () s :=
      run_importMapping_eq_ok.mpr (.inl ⟨mapping, hMapping, rfl⟩)
    exact (run_bind_of_ok hFirst).trans (ih hStored.2)

theorem run_importEvent_eq_ok {found : Option Nat} {result : Unit} :
    (importEvent f reportId found row).run s = .ok result t ↔
      (eventFields f row = .ok none ∧ t = s) ∨ ∃ fields, eventFields f row = .ok (some fields) ∧
        ((∃ event, s.db.events.byKey ReportSignalEvent.uniqueKey
              (reportId, fields.eventType, text? row "symbol", found) = [event] ∧ t = s) ∨
          (s.db.events.byKey ReportSignalEvent.uniqueKey
              (reportId, fields.eventType, text? row "symbol", found) = [] ∧
            t = withEvent s (eventOf fields reportId found row s.db.events.nextKey))) := by
  refine run_checked_bind_eq_ok.trans ?_
  constructor
  · rintro ⟨none | fields, hFields, h⟩
    · cases h
      exact .inl ⟨hFields, rfl⟩
    · refine .inr ⟨fields, hFields, ?_⟩
      rcases run_lookup_bind_eq_ok.mp h with ⟨event, hEvent, h⟩ | ⟨hNone, h⟩
      · cases h
        exact .inl ⟨event, hEvent, rfl⟩
      · cases h
        exact .inr ⟨hNone, rfl⟩
  · rintro (⟨hFields, rfl⟩ | ⟨fields, hFields, ⟨event, hEvent, rfl⟩ | ⟨hNone, rfl⟩⟩)
    · exact ⟨none, hFields, rfl⟩
    · exact ⟨some fields, hFields, run_lookup_bind_eq_ok.mpr (.inl ⟨event, hEvent, rfl⟩)⟩
    · exact ⟨some fields, hFields, run_lookup_bind_eq_ok.mpr (.inr ⟨hNone, rfl⟩)⟩

theorem moves_importEvent {found : Option Nat} :
    Moves Extends (importEvent f reportId found row) s := by
  refine moves_checked_bind (.refl s) fun fields => ?_
  cases fields with
  | none => exact .refl s
  | some fields =>
    exact moves_lookup_bind (.refl s) (fun _ => .refl s) fun hNone =>
      extends_withEvent (eventOf fields reportId found row s.db.events.nextKey) rfl hNone

theorem moves_importMappings {found : Option Nat} :
    Moves Extends (importMappings f row found) s := by
  cases found with
  | none => exact .refl s
  | some themeId =>
    rw [importMappings]
    split
    · exact .refl s
    · exact moves_checked_bind (.refl s) fun _ => moves_importRelated _

/-- However far the links of a row get, they only add to what is stored. -/
theorem moves_importLinked : Moves Extends (importLinked f reportId row) s :=
  .bind .trans moves_importTheme fun _ _ _ =>
    .bind .trans moves_importMappings fun _ _ _ => moves_importEvent

def MappingFieldsPass (f : CellFunctions) (row : Row) : Prop :=
  text? row "theme_name" ≠ none → related row ≠ [] → ∃ fields, mappingFields f row = .ok fields

/-- The cells of the links are all valid. -/
structure FieldsPass (f : CellFunctions) (row : Row) : Prop where
  theme : ThemeFieldsPass f row
  mappings : MappingFieldsPass f row
  event : ∃ fields, eventFields f row = .ok fields

/-- No link of the row is looked up where several rows stand. -/
structure LinksClear (f : CellFunctions) (db : ReportDatabase) (reportId : Nat) (row : Row) :
    Prop where
  theme : ThemeClear db reportId row
  mappings : ∀ themeId, themeIdIn db reportId row = some themeId → ∀ symbol ∈ related row,
    (db.mappings.byKey ThemeStockMapping.uniqueKey (themeId, symbol)).length ≤ 1
  event : ∀ fields, eventFields f row = .ok (some fields) →
    (db.events.byKey ReportSignalEvent.uniqueKey (reportId, fields.eventType, text? row "symbol",
      themeIdIn db reportId row)).length ≤ 1

/-- Every link of the row stands in the database once. -/
structure LinksStored (f : CellFunctions) (db : ReportDatabase) (reportId : Nat) (row : Row) :
    Prop where
  theme : ThemeStored db reportId row
  mappings : ∀ themeId, themeIdIn db reportId row = some themeId → ∀ symbol ∈ related row,
    ∃ mapping, db.mappings.byKey ThemeStockMapping.uniqueKey (themeId, symbol) = [mapping]
  event : ∀ fields, eventFields f row = .ok (some fields) →
    ∃ event, db.events.byKey ReportSignalEvent.uniqueKey (reportId, fields.eventType,
      text? row "symbol", themeIdIn db reportId row) = [event]

theorem themeIdIn_isSome_iff {db : ReportDatabase} :
    (themeIdIn db reportId row).isSome ↔ text? row "theme_name" ≠ none := by
  rw [themeIdIn, Option.isSome_map, Option.isSome_iff_ne_none]

variable {db db' : ReportDatabase}

theorem ThemeStored.themeIdIn_eq (hStored : ThemeStored db reportId row) (h : db.Grows db') :
    themeIdIn db' reportId row = themeIdIn db reportId row := by
  cases hName : text? row "theme_name" with
  | none => rw [themeIdIn_of_none hName, themeIdIn_of_none hName]
  | some themeName =>
    obtain ⟨theme, hTheme⟩ := hStored themeName hName
    rw [themeIdIn_of_single hName hTheme, themeIdIn_of_single hName (h.themes.single hTheme)]

theorem ThemeStored.mono (hStored : ThemeStored db reportId row) (h : db.Grows db') :
    ThemeStored db' reportId row := by
  intro themeName hName
  obtain ⟨theme, hTheme⟩ := hStored themeName hName
  exact ⟨theme, h.themes.single hTheme⟩

theorem LinksStored.mono (hStored : LinksStored f db reportId row) (h : db.Grows db') :
    LinksStored f db' reportId row where
  theme := hStored.theme.mono h
  mappings := by
    intro themeId hTheme symbol hSymbol
    rw [hStored.theme.themeIdIn_eq h] at hTheme
    obtain ⟨mapping, hMapping⟩ := hStored.mappings themeId hTheme symbol hSymbol
    exact ⟨mapping, h.mappings.single hMapping⟩
  event := by
    intro fields hFields
    rw [hStored.theme.themeIdIn_eq h]
    obtain ⟨event, hEvent⟩ := hStored.event fields hFields
    exact ⟨event, h.events.single hEvent⟩

theorem LinksStored.clear (hStored : LinksStored f db reportId row) :
    LinksClear f db reportId row where
  theme := fun themeName hName => length_le_one_iff.mpr (.inr (hStored.theme themeName hName))
  mappings := fun themeId hTheme symbol hSymbol =>
    length_le_one_iff.mpr (.inr (hStored.mappings themeId hTheme symbol hSymbol))
  event := fun fields hFields => length_le_one_iff.mpr (.inr (hStored.event fields hFields))

theorem importMappings_ok {result : Unit}
    (h : (importMappings f row (some themeId)).run s = .ok result t) :
    (related row ≠ [] → ∃ fields, mappingFields f row = .ok fields) ∧
      (∀ symbol ∈ related row,
        (s.db.mappings.byKey ThemeStockMapping.uniqueKey (themeId, symbol)).length ≤ 1) ∧
      ∀ symbol ∈ related row, ∃ mapping,
        t.db.mappings.byKey ThemeStockMapping.uniqueKey (themeId, symbol) = [mapping] := by
  rw [importMappings] at h
  split at h
  · rename_i hNone
    rw [hNone]
    exact ⟨fun hSome => absurd rfl hSome, by simp, by simp⟩
  · obtain ⟨fields, hFields, hRelated⟩ := run_validated_bind_eq_ok.mp h
    exact ⟨fun _ => ⟨fields, hFields⟩, run_importRelated_ok_iff.mp ⟨t, hRelated⟩,
      importRelated_stored hRelated⟩

theorem importMappings_progress {found : Option Nat}
    (hPass : found ≠ none → related row ≠ [] → ∃ fields, mappingFields f row = .ok fields)
    (hClear : ∀ themeId, found = some themeId → ∀ symbol ∈ related row,
      (s.db.mappings.byKey ThemeStockMapping.uniqueKey (themeId, symbol)).length ≤ 1) :
    ∃ t, (importMappings f row found).run s = .ok () t := by
  cases found with
  | none => exact ⟨s, rfl⟩
  | some themeId =>
    rw [importMappings]
    split
    · exact ⟨s, rfl⟩
    · rename_i hSome
      obtain ⟨fields, hFields⟩ := hPass (Option.some_ne_none themeId) hSome
      obtain ⟨t, hRelated⟩ := run_importRelated_ok_iff.mpr (hClear themeId rfl)
      exact ⟨t, run_validated_bind_eq_ok.mpr ⟨fields, hFields, hRelated⟩⟩

theorem importMappings_again {found : Option Nat}
    (hPass : found ≠ none → related row ≠ [] → ∃ fields, mappingFields f row = .ok fields)
    (hStored : ∀ themeId, found = some themeId → ∀ symbol ∈ related row, ∃ mapping,
      s.db.mappings.byKey ThemeStockMapping.uniqueKey (themeId, symbol) = [mapping]) :
    (importMappings f row found).run s = .ok () s := by
  cases found with
  | none => rfl
  | some themeId =>
    rw [importMappings]
    split
    · rfl
    · rename_i hSome
      obtain ⟨fields, hFields⟩ := hPass (Option.some_ne_none themeId) hSome
      exact run_validated_bind_eq_ok.mpr
        ⟨fields, hFields, importRelated_again (hStored themeId rfl)⟩

/-- An event that was asked for stood at most once and stands once. -/
theorem importEvent_ok {found : Option Nat} {result : Unit}
    (h : (importEvent f reportId found row).run s = .ok result t) :
    (∃ fields, eventFields f row = .ok fields) ∧ ∀ fields, eventFields f row = .ok (some fields) →
      (s.db.events.byKey ReportSignalEvent.uniqueKey
        (reportId, fields.eventType, text? row "symbol", found)).length ≤ 1 ∧
      ∃ event, t.db.events.byKey ReportSignalEvent.uniqueKey
        (reportId, fields.eventType, text? row "symbol", found) = [event] := by
  rcases run_importEvent_eq_ok.mp h with ⟨hNone, -⟩ | ⟨own, hOwn, hLookup⟩
  · refine ⟨⟨none, hNone⟩, fun fields hFields => ?_⟩
    cases hFields.symm.trans hNone
  · refine ⟨⟨some own, hOwn⟩, fun fields hFields => ?_⟩
    cases hFields.symm.trans hOwn
    rcases hLookup with ⟨event, hEvent, rfl⟩ | ⟨hNone, rfl⟩
    · exact ⟨length_le_one_iff.mpr (.inr ⟨event, hEvent⟩), event, hEvent⟩
    · have hInserted := Table.byKey_insert_self
        (eventOf own reportId found row s.db.events.nextKey) rfl hNone
      exact ⟨length_le_one_iff.mpr (.inl hNone), _, hInserted⟩

/-- Links that went through were valid and clear, and are stored. -/
theorem importLinked_ok {result : Unit} (h : (importLinked f reportId row).run s = .ok result t) :
    FieldsPass f row ∧ LinksClear f s.db reportId row ∧ LinksStored f t.db reportId row := by
  obtain ⟨found, u, hTheme, hRest⟩ := run_bind_eq_ok.mp h
  obtain ⟨first, v, hMappings, hEvent⟩ := run_bind_eq_ok.mp hRest
  have hMovedTheme := moves_importTheme.of_ok hTheme
  have hMovedMappings := moves_importMappings.of_ok hMappings
  have hMovedEvent := moves_importEvent.of_ok hEvent
  obtain ⟨hPass, hClear, hFound, hStored, hFoundAfter⟩ := importTheme_ok hTheme
  obtain ⟨hEventPass, hEventLinked⟩ := importEvent_ok hEvent
  have hFoundEnd : themeIdIn t.db reportId row = found :=
    (hStored.themeIdIn_eq (hMovedMappings.trans hMovedEvent).toGrows).trans hFoundAfter.symm
  have hMapped : ∀ themeId, found = some themeId → _ := fun themeId hSome =>
    importMappings_ok (by rw [← hSome]; exact hMappings)
  refine ⟨⟨hPass, fun hName hRelated => ?_, hEventPass⟩,
    ⟨hClear, fun themeId hSome => ?_, fun fields hFields => ?_⟩,
    ⟨hStored.mono (hMovedMappings.trans hMovedEvent).toGrows, fun themeId hSome => ?_,
      fun fields hFields => ?_⟩⟩
  · have hNamed : (themeIdIn s.db reportId row).isSome := themeIdIn_isSome_iff.mpr hName
    rw [← hFound] at hNamed
    obtain ⟨themeId, hSome⟩ := Option.isSome_iff_exists.mp hNamed
    exact (hMapped themeId hSome).1 hRelated
  · intro symbol hSymbol
    exact hMovedTheme.mappings.length_le_one_iff.mp
      ((hMapped themeId (hFound.trans hSome)).2.1 symbol hSymbol)
  · rw [← hFound, ← (hMovedTheme.trans hMovedMappings).events.length_le_one_iff]
    exact (hEventLinked fields hFields).1
  · intro symbol hSymbol
    rw [hFoundEnd] at hSome
    obtain ⟨mapping, hMapping⟩ := (hMapped themeId hSome).2.2 symbol hSymbol
    exact ⟨mapping, hMovedEvent.mappings.single hMapping⟩
  · rw [hFoundEnd]
    exact (hEventLinked fields hFields).2

theorem FieldsPass.mappingFields (hPass : FieldsPass f row)
    (hSome : themeIdIn db reportId row ≠ none) (hRelated : related row ≠ []) :
    ∃ fields, mappingFields f row = .ok fields :=
  hPass.mappings (themeIdIn_isSome_iff.mp (Option.isSome_iff_ne_none.mpr hSome)) hRelated

theorem importLinked_progress (hPass : FieldsPass f row) (hClear : LinksClear f s.db reportId row) :
    ∃ t, (importLinked f reportId row).run s = .ok () t := by
  obtain ⟨found, u, hTheme⟩ := importTheme_progress hPass.theme hClear.theme
  obtain ⟨-, -, hFound, -⟩ := importTheme_ok hTheme
  have hMovedTheme := moves_importTheme.of_ok hTheme
  have hMapped : ∃ v, (importMappings f row found).run u = .ok () v := by
    rw [hFound]
    exact importMappings_progress hPass.mappingFields fun themeId hSome symbol hSymbol =>
      hMovedTheme.mappings.length_le_one_iff.mpr (hClear.mappings themeId hSome symbol hSymbol)
  obtain ⟨v, hMappings⟩ := hMapped
  have hMoved := hMovedTheme.trans (moves_importMappings.of_ok hMappings)
  have hEvent : ∃ t, (importEvent f reportId found row).run v = .ok () t := by
    obtain ⟨none | fields, hFields⟩ := hPass.event
    · exact ⟨v, run_importEvent_eq_ok.mpr (.inl ⟨hFields, rfl⟩)⟩
    · have hLookup := hMoved.events.length_le_one_iff.mpr (hClear.event fields hFields)
      rw [← hFound] at hLookup
      rcases length_le_one_iff.mp hLookup with hNone | ⟨event, hEvent⟩
      · exact ⟨_, run_importEvent_eq_ok.mpr (.inr ⟨fields, hFields, .inr ⟨hNone, rfl⟩⟩)⟩
      · exact ⟨v, run_importEvent_eq_ok.mpr (.inr ⟨fields, hFields, .inl ⟨event, hEvent, rfl⟩⟩)⟩
  obtain ⟨t, hEvent⟩ := hEvent
  exact ⟨t, (run_bind_of_ok hTheme).trans ((run_bind_of_ok hMappings).trans hEvent)⟩

theorem importLinked_again (hPass : FieldsPass f row) (hStored : LinksStored f s.db reportId row) :
    (importLinked f reportId row).run s = .ok () s := by
  have hTheme := importTheme_again hPass.theme hStored.theme
  have hMappings := importMappings_again hPass.mappingFields hStored.mappings
  have hEvent : (importEvent f reportId (themeIdIn s.db reportId row) row).run s = .ok () s := by
    obtain ⟨none | fields, hFields⟩ := hPass.event
    · exact run_importEvent_eq_ok.mpr (.inl ⟨hFields, rfl⟩)
    · obtain ⟨event, hEvent⟩ := hStored.event fields hFields
      exact run_importEvent_eq_ok.mpr (.inr ⟨fields, hFields, .inl ⟨event, hEvent, rfl⟩⟩)
  exact (run_bind_of_ok hTheme).trans ((run_bind_of_ok hMappings).trans hEvent)

end Links

/-- What the look-up of the report of a row finds. -/
def reportsFor (db : ReportDatabase) (head : Head) : List AnalystReport :=
  db.reports.byKey AnalystReport.uniqueKey (head.brokerName, head.publishedAt, head.title)

/-- The report of a row, as it is found or as it will be stored. -/
def reportIdIn (db : ReportDatabase) (head : Head) : Nat :=
  match reportsFor db head with
  | report :: _ => report.id
  | [] => db.reports.nextKey

/-- The message that refuses a row before anything of it is counted or stored. -/
def refusal (f : CellFunctions) (raw : RawRow) (db : ReportDatabase) : Option String :=
  match head f (normalizeRow f raw) with
  | .error message => some message
  | .ok head =>
    match reportsFor db head, details f (normalizeRow f raw) with
    | [], .error message => some message
    | _, _ => none

/-- The row's links are valid and nothing it looks up stands there twice. -/
def Passes (f : CellFunctions) (raw : RawRow) (db : ReportDatabase) : Prop :=
  ∀ own, head f (normalizeRow f raw) = .ok own →
    FieldsPass f (normalizeRow f raw) ∧ (reportsFor db own).length ≤ 1 ∧
      LinksClear f db (reportIdIn db own) (normalizeRow f raw)

/-- The report of the row and all its links stand in the database. -/
def Stored (f : CellFunctions) (raw : RawRow) (db : ReportDatabase) : Prop :=
  ∃ own report, head f (normalizeRow f raw) = .ok own ∧ reportsFor db own = [report] ∧
    FieldsPass f (normalizeRow f raw) ∧ LinksStored f db report.id (normalizeRow f raw)

def skipping (s : ImportState) : ImportState where
  db := s.db
  summary := { s.summary with skippedDuplicates := s.summary.skippedDuplicates + 1 }

def withReport (s : ImportState) (row : Row) (report : AnalystReport) : ImportState where
  db := { s.db with reports := s.db.reports.insert report }
  summary :=
    let n := truncatedSummary row s.summary
    { n with insertedReports := n.insertedReports + 1 }

section Row

variable {f : CellFunctions} {row : Row} {own : Head} {raw : RawRow} {s t : ImportState}

theorem run_importReport_eq_ok {id : Nat} : (importReport f own row).run s = .ok id t ↔
    (∃ report, reportsFor s.db own = [report] ∧ id = report.id ∧ t = skipping s) ∨
      (reportsFor s.db own = [] ∧ ∃ found, details f row = .ok found ∧
        id = s.db.reports.nextKey ∧
        t = withReport s row (reportOf own found row s.db.reports.nextKey)) := by
  refine run_lookup_bind_eq_ok.trans (or_congr (exists_congr fun report => ?_) ?_)
  · refine and_congr_right fun _ => ⟨fun h => ?_, ?_⟩
    · cases h
      exact ⟨rfl, rfl⟩
    · rintro ⟨rfl, rfl⟩
      rfl
  · refine and_congr_right fun _ => run_validated_bind_eq_ok.trans ?_
    refine exists_congr fun found => and_congr_right fun _ => ⟨fun h => ?_, ?_⟩
    · cases h
      exact ⟨rfl, rfl⟩
    · rintro ⟨rfl, rfl⟩
      rfl

theorem importReport_error {error : ImportError}
    (h : (importReport f own row).run s = .error error t) : t = s ∧
      ((reportsFor s.db own = [] ∧
          ∃ message, details f row = .error message ∧ error = .rowValidation message) ∨
        error = .multipleResultsFound) := by
  have hLookup : (importReport f own row).run s =
      ((scalarOneOrNone (reportsFor s.db own) : ImportApp _) >>= _).run s := rfl
  rw [hLookup] at h
  match hRows : reportsFor s.db own with
  | [] =>
    rw [hRows] at h
    change (createReport f own row).run s = .error error t at h
    rw [createReport] at h
    cases hDetails : details f row with
    | error message =>
      rw [hDetails] at h
      cases h
      exact ⟨rfl, .inl ⟨rfl, message, rfl, rfl⟩⟩
    | ok found =>
      rw [hDetails] at h
      cases h
  | [report] =>
    rw [hRows] at h
    cases h
  | report :: other :: rows =>
    rw [hRows] at h
    cases h
    exact ⟨rfl, .inr rfl⟩

theorem refusal_of_head_error {message : String} (h : head f (normalizeRow f raw) = .error message)
    (db : ReportDatabase) : refusal f raw db = some message := by rw [refusal, h]

theorem refusal_of_details_error {message : String} {db : ReportDatabase}
    (hHead : head f (normalizeRow f raw) = .ok own) (hNone : reportsFor db own = [])
    (hDetails : details f (normalizeRow f raw) = .error message) :
    refusal f raw db = some message := by
  simp only [refusal, hHead, hNone, hDetails]

theorem refusal_of_details {db : ReportDatabase} {found : Details}
    (hHead : head f (normalizeRow f raw) = .ok own)
    (hDetails : details f (normalizeRow f raw) = .ok found) : refusal f raw db = none := by
  simp only [refusal, hHead, hDetails]
  cases reportsFor db own <;> rfl

theorem refusal_of_stored {db : ReportDatabase}
    (hHead : head f (normalizeRow f raw) = .ok own) (hSome : reportsFor db own ≠ []) :
    refusal f raw db = none := by
  simp only [refusal, hHead]
  split
  · exact absurd ‹_› hSome
  · rfl

/-- A row is refused for its head, or for its details where its report is not stored. -/
theorem refusal_eq_some {message : String} {db : ReportDatabase}
    (h : refusal f raw db = some message) :
    head f (normalizeRow f raw) = .error message ∨
      ∃ own, head f (normalizeRow f raw) = .ok own ∧ reportsFor db own = [] ∧
        details f (normalizeRow f raw) = .error message := by
  cases hHead : head f (normalizeRow f raw) with
  | error other =>
    rw [refusal_of_head_error hHead] at h
    cases h
    exact .inl rfl
  | ok own =>
    refine .inr ⟨own, rfl, ?_⟩
    by_cases hNone : reportsFor db own = []
    · cases hDetails : details f (normalizeRow f raw) with
      | error other =>
        rw [refusal_of_details_error hHead hNone hDetails] at h
        cases h
        exact ⟨hNone, rfl⟩
      | ok found =>
        rw [refusal_of_details hHead hDetails] at h
        cases h
    · rw [refusal_of_stored hHead hNone] at h
      cases h

theorem refusal_eq_none {db : ReportDatabase} (h : refusal f raw db = none) :
    ∃ own, head f (normalizeRow f raw) = .ok own ∧
      (reportsFor db own = [] → ∃ found, details f (normalizeRow f raw) = .ok found) := by
  cases hHead : head f (normalizeRow f raw) with
  | error message =>
    rw [refusal_of_head_error hHead] at h
    cases h
  | ok own =>
    refine ⟨own, rfl, fun hNone => ?_⟩
    cases hDetails : details f (normalizeRow f raw) with
    | error message =>
      rw [refusal_of_details_error hHead hNone hDetails] at h
      cases h
    | ok found => exact ⟨found, rfl⟩

theorem run_importRow (hHead : head f (normalizeRow f raw) = .ok own) :
    (importRow f raw).run s = (importReport f own (normalizeRow f raw) >>= fun reportId =>
      importLinked f reportId (normalizeRow f raw)).run s := by
  rw [importRow, hHead]
  rfl

theorem importRow_refused {message : String} (h : refusal f raw s.db = some message) :
    (importRow f raw).run s = .error (.rowValidation message) s := by
  rcases refusal_eq_some h with hHead | ⟨own, hHead, hNone, hDetails⟩
  · rw [importRow, hHead]
    rfl
  · have hReport : (importReport f own (normalizeRow f raw)).run s =
        .error (.rowValidation message) s := by
      have hLookup : (importReport f own (normalizeRow f raw)).run s =
          ((scalarOneOrNone (reportsFor s.db own) : ImportApp _) >>= _).run s := rfl
      rw [hLookup, hNone]
      change (createReport f own (normalizeRow f raw)).run s = _
      rw [createReport, hDetails]
      rfl
    rw [run_importRow hHead]
    exact run_bind_of_error hReport

@[simp] theorem account_truncatedSummary (n : ImportSummary) :
    (truncatedSummary row n).account = n.account := by
  rw [truncatedSummary]
  split
  · rfl
  · rfl

theorem grows_withReport {report : AnalystReport} (hKey : report.id = s.db.reports.nextKey)
    (hNone : s.db.reports.byKey AnalystReport.uniqueKey report.uniqueKey = []) :
    s.db.Grows (withReport s row report).db :=
  ⟨.insert hKey hNone, .refl _ _, .refl _ _, .refl _ _⟩

theorem reportIdIn_of_single {db : ReportDatabase} {report : AnalystReport}
    (h : reportsFor db own = [report]) : reportIdIn db own = report.id := by
  rw [reportIdIn, h]

theorem reportIdIn_of_nil {db : ReportDatabase} (h : reportsFor db own = []) :
    reportIdIn db own = db.reports.nextKey := by rw [reportIdIn, h]

/-- A row is counted once in its account, among the reports stored or the duplicates. -/
def Counted (n n' : ImportSummary) : Prop :=
  n'.totalRows = n.totalRows ∧
    n'.insertedReports + n'.skippedDuplicates = n.insertedReports + n.skippedDuplicates + 1 ∧
    n'.validationErrors = n.validationErrors ∧ n'.errorDetails = n.errorDetails

theorem Counted.of_account {n n' n'' : ImportSummary} (h : Counted n n')
    (hSame : n''.account = n'.account) : Counted n n'' := by
  simp only [ImportSummary.account, Prod.mk.injEq] at hSame
  obtain ⟨hTotal, hInserted, hSkipped, hErrors, hDetails⟩ := hSame
  obtain ⟨hTotal', hHandled, hErrors', hDetails'⟩ := h
  exact ⟨hTotal.trans hTotal', by rw [hInserted, hSkipped, hHandled], hErrors.trans hErrors',
    hDetails.trans hDetails'⟩

theorem counted_skipping : Counted s.summary (skipping s).summary :=
  ⟨rfl, Nat.add_assoc _ _ 1, rfl, rfl⟩

theorem counted_withReport {report : AnalystReport} :
    Counted s.summary (withReport s row report).summary := by
  have hSame : (truncatedSummary row s.summary).account = s.summary.account :=
    account_truncatedSummary s.summary
  simp only [ImportSummary.account, Prod.mk.injEq] at hSame
  obtain ⟨hTotal, hInserted, hSkipped, hErrors, hDetails⟩ := hSame
  refine ⟨hTotal, ?_, hErrors, hDetails⟩
  simp only [withReport, hInserted, hSkipped]
  omega

theorem importReport_counted {id : Nat} (h : (importReport f own row).run s = .ok id t) :
    Counted s.summary t.summary := by
  rcases run_importReport_eq_ok.mp h with ⟨report, -, -, rfl⟩ | ⟨-, found, -, -, rfl⟩
  · exact counted_skipping
  · exact counted_withReport

/-- The row would store a report under the key of `own` if there is none yet. -/
def StoresReport (f : CellFunctions) (own : Head) (raw : RawRow) : Prop :=
  ∃ same found, head f (normalizeRow f raw) = .ok same ∧
    details f (normalizeRow f raw) = .ok found ∧
    (same.brokerName, same.publishedAt, same.title) = (own.brokerName, own.publishedAt, own.title)

/-- What a row that goes through has done. -/
structure Accepted (f : CellFunctions) (raw : RawRow) (s t : ImportState) : Prop where
  refusal : refusal f raw s.db = none
  passes : Passes f raw s.db
  grows : s.db.Grows t.db
  stored : Stored f raw t.db
  counted : Counted s.summary t.summary
  own : ∀ other, reportsFor s.db other = [] → reportsFor t.db other ≠ [] → StoresReport f other raw

theorem reportsFor_of_linked {u : ImportState} {reportId : Nat} {row : Row} {result : Unit}
    (h : (importLinked f reportId row).run u = .ok result t) (other : Head) :
    reportsFor t.db other = reportsFor u.db other := by
  rw [reportsFor, reportsFor, (moves_importLinked.of_ok h).sameReports]

/-- The report stood already: the row is counted as skipped and its links are made. -/
theorem accepted_of_known {own : Head} {report : AnalystReport} {result : Unit}
    (hHead : head f (normalizeRow f raw) = .ok own) (hSingle : reportsFor s.db own = [report])
    (hLinked : (importLinked f report.id (normalizeRow f raw)).run (skipping s) = .ok result t) :
    Accepted f raw s t := by
  have hMoved := moves_importLinked.of_ok hLinked
  have hReports := reportsFor_of_linked hLinked
  obtain ⟨hPass, hClear, hStored⟩ := importLinked_ok hLinked
  refine ⟨refusal_of_stored hHead (by rw [hSingle]; exact List.cons_ne_nil report []), ?_,
    hMoved.toGrows, ⟨own, report, hHead, (hReports own).trans hSingle, hPass, hStored⟩,
    counted_skipping.of_account hMoved.account, ?_⟩
  · rintro other hOther
    cases hHead.symm.trans hOther
    refine ⟨hPass, length_le_one_iff.mpr (.inr ⟨report, hSingle⟩), ?_⟩
    rw [reportIdIn_of_single hSingle]
    exact hClear
  · intro other hNone hSome
    exact absurd ((hReports other).trans hNone) hSome

/-- The report is new: it is inserted under the next key before its links are made. -/
theorem accepted_of_new {own : Head} {found : Details} {result : Unit}
    (hHead : head f (normalizeRow f raw) = .ok own) (hNone : reportsFor s.db own = [])
    (hDetails : details f (normalizeRow f raw) = .ok found)
    (hLinked : (importLinked f s.db.reports.nextKey (normalizeRow f raw)).run
      (withReport s (normalizeRow f raw)
        (reportOf own found (normalizeRow f raw) s.db.reports.nextKey)) = .ok result t) :
    Accepted f raw s t := by
  have hMoved := moves_importLinked.of_ok hLinked
  have hReports := reportsFor_of_linked hLinked
  obtain ⟨hPass, hClear, hStored⟩ := importLinked_ok hLinked
  generalize hReportOf : reportOf own found (normalizeRow f raw) s.db.reports.nextKey = report
    at hLinked hMoved hClear hReports
  have hKey : report.id = s.db.reports.nextKey := by rw [← hReportOf]; rfl
  have hUnique : report.uniqueKey = (own.brokerName, own.publishedAt, own.title) := by
    rw [← hReportOf]
    rfl
  have hFree : s.db.reports.byKey AnalystReport.uniqueKey report.uniqueKey = [] := by
    rw [hUnique]
    exact hNone
  have hSingle : reportsFor t.db own = [report] := by
    rw [hReports, reportsFor, ← hUnique]
    exact Table.byKey_insert_self _ hKey hFree
  refine ⟨refusal_of_details hHead hDetails, ?_, (grows_withReport hKey hFree).trans hMoved.toGrows,
    ⟨own, report, hHead, hSingle, hPass, by rw [hKey]; exact hStored⟩,
    counted_withReport.of_account hMoved.account, ?_⟩
  · rintro other hOther
    cases hHead.symm.trans hOther
    refine ⟨hPass, length_le_one_iff.mpr (.inl hNone), ?_⟩
    rw [reportIdIn_of_nil hNone]
    exact ⟨hClear.theme, hClear.mappings, hClear.event⟩
  · intro other hOther hSome
    refine ⟨own, found, hHead, hDetails, ?_⟩
    by_contra hKeys
    rw [← hUnique] at hKeys
    have hSame : reportsFor (withReport s (normalizeRow f raw) report).db other =
        reportsFor s.db other := Table.byKey_insert_of_ne hKey hKeys
    exact hSome ((hReports other).trans (hSame.trans hOther))

theorem importRow_ok {result : Unit} (h : (importRow f raw).run s = .ok result t) :
    Accepted f raw s t := by
  cases hHead : head f (normalizeRow f raw) with
  | error message =>
    rw [importRow_refused (refusal_of_head_error hHead s.db)] at h
    cases h
  | ok own =>
    rw [run_importRow hHead] at h
    obtain ⟨reportId, u, hReport, hLinked⟩ := run_bind_eq_ok.mp h
    rcases run_importReport_eq_ok.mp hReport with
      ⟨report, hSingle, rfl, rfl⟩ | ⟨hNone, found, hDetails, rfl, rfl⟩
    · exact accepted_of_known hHead hSingle hLinked
    · exact accepted_of_new hHead hNone hDetails hLinked

theorem importRow_progress (hRefusal : refusal f raw s.db = none) (hPass : Passes f raw s.db) :
    ∃ t, (importRow f raw).run s = .ok () t := by
  obtain ⟨own, hHead, hDetails⟩ := refusal_eq_none hRefusal
  obtain ⟨hFields, hSingle, hClear⟩ := hPass own hHead
  have hReport : ∃ u, (importReport f own (normalizeRow f raw)).run s = .ok (reportIdIn s.db own) u ∧
      LinksClear f u.db (reportIdIn s.db own) (normalizeRow f raw) := by
    rcases length_le_one_iff.mp hSingle with hNone | ⟨report, hReport⟩
    · obtain ⟨found, hFound⟩ := hDetails hNone
      refine ⟨_, run_importReport_eq_ok.mpr (.inr ⟨hNone, found, hFound, reportIdIn_of_nil hNone,
        rfl⟩), ?_⟩
      exact ⟨hClear.theme, hClear.mappings, hClear.event⟩
    · exact ⟨_, run_importReport_eq_ok.mpr (.inl ⟨report, hReport, reportIdIn_of_single hReport,
        rfl⟩), hClear⟩
  obtain ⟨u, hReport, hClear⟩ := hReport
  obtain ⟨t, hLinked⟩ := importLinked_progress hFields hClear
  rw [run_importRow hHead]
  exact ⟨t, (run_bind_of_ok hReport).trans hLinked⟩

/-- A row that raises was refused at once, was counted before it failed, or found several rows
for its report. -/
theorem importRow_error {error : ImportError} (h : (importRow f raw).run s = .error error t) :
    (∃ message, refusal f raw s.db = some message ∧ error = .rowValidation message ∧ t = s) ∨
      error = .multipleResultsFound ∨ Counted s.summary t.summary := by
  cases hRefusal : refusal f raw s.db with
  | some message =>
    rw [importRow_refused hRefusal] at h
    cases h
    exact .inl ⟨message, rfl, rfl, rfl⟩
  | none =>
    obtain ⟨own, hHead, hDetails⟩ := refusal_eq_none hRefusal
    rw [run_importRow hHead] at h
    cases hReport : (importReport f own (normalizeRow f raw)).run s with
    | ok reportId u =>
      rw [run_bind_of_ok hReport] at h
      exact .inr (.inr ((importReport_counted hReport).of_account
        (moves_importLinked.of_error h).account))
    | error other u =>
      rw [run_bind_of_error hReport] at h
      cases h
      obtain ⟨-, ⟨hNone, message, hMessage, -⟩ | hMultiple⟩ := importReport_error hReport
      · obtain ⟨found, hFound⟩ := hDetails hNone
        cases hMessage.symm.trans hFound
      · exact .inr (.inl hMultiple)

theorem importRow_again (h : Stored f raw s.db) : (importRow f raw).run s = .ok () (skipping s) := by
  obtain ⟨own, report, hHead, hSingle, hPass, hLinks⟩ := h
  have hReport : (importReport f own (normalizeRow f raw)).run s = .ok report.id (skipping s) :=
    run_importReport_eq_ok.mpr (.inl ⟨report, hSingle, rfl, rfl⟩)
  rw [run_importRow hHead]
  exact (run_bind_of_ok hReport).trans (importLinked_again (s := skipping s) hPass hLinks)

theorem Stored.mono {db db' : ReportDatabase} (h : Stored f raw db) (hGrows : db.Grows db') :
    Stored f raw db' := by
  obtain ⟨own, report, hHead, hSingle, hPass, hLinks⟩ := h
  exact ⟨own, report, hHead, hGrows.reports.single hSingle, hPass, hLinks.mono hGrows⟩

theorem Stored.refusal {db : ReportDatabase} (h : Stored f raw db) : refusal f raw db = none := by
  obtain ⟨own, report, hHead, hSingle, -, -⟩ := h
  exact refusal_of_stored hHead (by rw [hSingle]; exact List.cons_ne_nil report [])

theorem Stored.passes {db : ReportDatabase} (h : Stored f raw db) : Passes f raw db := by
  obtain ⟨own, report, hHead, hSingle, hPass, hLinks⟩ := h
  rintro other hOther
  cases hHead.symm.trans hOther
  refine ⟨hPass, length_le_one_iff.mpr (.inr ⟨report, hSingle⟩), ?_⟩
  rw [reportIdIn_of_single hSingle]
  exact hLinks.clear

end Row

end StockAiPlatform
