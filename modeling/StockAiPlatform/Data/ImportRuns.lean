import StockAiPlatform.Data.ImportOutcomes

/-! # When a file of analyst reports is imported exactly

Every row is counted once, a rejected one leaves nothing behind, and reading the
file a second time finds all of it. It takes that no row fails after its report
was counted, and that no row refused for its details is stored by a later one.
-/

namespace StockAiPlatform
set_option autoImplicit false

open Transaction Python AnalystReportCsvImporter

def ImportSummary.handled (n : ImportSummary) : Nat :=
  n.insertedReports + n.skippedDuplicates + n.validationErrors

def started (s : ImportState) : ImportState where
  db := s.db
  summary := { s.summary with totalRows := s.summary.totalRows + 1 }

def failed (index : Nat) (message : String) (s : ImportState) : ImportState where
  db := s.db
  summary := { s.summary with toRowCounts := s.summary.toRowCounts.failed index message }

section Next

variable {f : CellFunctions} {index : Nat} {raw : RawRow} {s t : ImportState}

theorem run_importNext_of_ok (h : (importRow f raw).run (started s) = .ok () t) :
    (importNext f index raw).run s = .ok () t := by
  change EStateM.tryCatch (importRow f raw) _ (started s) = _
  rw [EStateM.run] at h
  simp only [EStateM.tryCatch, h]

theorem run_importNext_of_validation {message : String}
    (h : (importRow f raw).run (started s) = .error (.rowValidation message) t) :
    (importNext f index raw).run s = .ok () (failed index message t) := by
  change EStateM.tryCatch (importRow f raw) _ (started s) = _
  rw [EStateM.run] at h
  simp only [EStateM.tryCatch, h]
  rfl

theorem run_importNext_of_raise {error : ImportError}
    (hError : ∀ message, error ≠ .rowValidation message)
    (h : (importRow f raw).run (started s) = .error error t) :
    (importNext f index raw).run s = .error error t := by
  change EStateM.tryCatch (importRow f raw) _ (started s) = _
  rw [EStateM.run] at h
  simp only [EStateM.tryCatch, h]
  cases error with
  | rowValidation message => exact absurd rfl (hError message)
  | invalidOperation | divisionByZero | overflow | multipleResultsFound | refused => rfl

/-- One turn of a loop that goes on: the row was refused before anything of it was counted, it went
through, or it was counted twice. -/
theorem importNext_cases {result : Unit} (h : (importNext f index raw).run s = .ok result t) :
    (∃ message, refusal f raw s.db = some message ∧ t = failed index message (started s)) ∨
      Accepted f raw (started s) t ∨
      (t.summary.totalRows = s.summary.totalRows + 1 ∧
        t.summary.handled = s.summary.handled + 2) := by
  cases hRow : (importRow f raw).run (started s) with
  | ok value u =>
    rw [run_importNext_of_ok hRow] at h
    cases h
    exact .inr (.inl (importRow_ok hRow))
  | error error u =>
    cases error with
    | rowValidation message =>
      rw [run_importNext_of_validation hRow] at h
      cases h
      rcases importRow_error hRow with ⟨other, hRefusal, hMessage, rfl⟩ | hMultiple | hCounted
      · cases hMessage
        exact .inl ⟨message, hRefusal, rfl⟩
      · cases hMultiple
      · obtain ⟨hTotal, hHandled, hErrors, -⟩ := hCounted
        refine .inr (.inr ⟨hTotal, ?_⟩)
        simp only [ImportSummary.handled, failed, started, RowCounts.failed] at hHandled hErrors ⊢
        omega
    | invalidOperation | divisionByZero | overflow | multipleResultsFound | refused =>
      rw [run_importNext_of_raise (by simp) hRow] at h
      cases h

theorem importNext_refused {message : String} (h : refusal f raw s.db = some message) :
    (importNext f index raw).run s = .ok () (failed index message (started s)) :=
  run_importNext_of_validation (importRow_refused (s := started s) h)

theorem importNext_progress (hRefusal : refusal f raw s.db = none) (hPass : Passes f raw s.db) :
    ∃ t, (importNext f index raw).run s = .ok () t ∧ Accepted f raw (started s) t := by
  obtain ⟨t, hRow⟩ := importRow_progress (s := started s) hRefusal hPass
  exact ⟨t, run_importNext_of_ok hRow, importRow_ok hRow⟩

theorem importNext_again (h : Stored f raw s.db) :
    (importNext f index raw).run s = .ok () (skipping (started s)) :=
  run_importNext_of_ok (importRow_again (s := started s) h)

theorem Accepted.handled (h : Accepted f raw (started s) t) :
    t.summary.totalRows = s.summary.totalRows + 1 ∧
      t.summary.handled = s.summary.handled + 1 ∧
      t.summary.validationErrors = s.summary.validationErrors ∧
      t.summary.errorDetails = s.summary.errorDetails := by
  obtain ⟨hTotal, hHandled, hErrors, hDetails⟩ := h.counted
  refine ⟨hTotal, ?_, hErrors, hDetails⟩
  simp only [ImportSummary.handled, started] at hHandled hErrors ⊢
  omega

end Next

/-- The import returned, counted every row once, and a row it counted as an error left the four
tables as they were. -/
structure ImportedExactly (f : CellFunctions) (rows : List RawRow) (db : ReportDatabase)
    (done : ImportState) : Prop where
  returned : importRows f rows db = .ok () done
  accounted : done.summary.totalRows = done.summary.handled
  atomic : ∀ earlier raw later before after, rows = earlier ++ raw :: later →
    importRows f earlier db = .ok () before →
    (importNext f (earlier.length + 1) raw).run before = .ok () after →
    after.summary.validationErrors ≠ before.summary.validationErrors → after.db = before.db

def ImportSummary.NothingInserted (n : ImportSummary) : Prop :=
  n.insertedReports = 0 ∧ n.insertedThemes = 0 ∧ n.insertedMappings = 0 ∧ n.insertedSignalEvents = 0

/-- Importing the rows is exact, and so is importing them once more, which stores nothing and meets
the same errors. -/
def ImportsSoundly (f : CellFunctions) (rows : List RawRow) (db : ReportDatabase) : Prop :=
  ∃ first second, ImportedExactly f rows db first ∧ ImportedExactly f rows first.db second ∧
    second.db = first.db ∧ second.summary.NothingInserted ∧
    second.summary.validationErrors = first.summary.validationErrors ∧
    second.summary.errorDetails = first.summary.errorDetails

/-- A row that is not refused at once passes, and the report of one refused for its details is not
stored by a later row. -/
def Acceptable (f : CellFunctions) (raw : RawRow) (later : List RawRow) (db : ReportDatabase) :
    Prop :=
  (refusal f raw db = none → Passes f raw db) ∧
    ∀ own, head f (normalizeRow f raw) = .ok own → refusal f raw db ≠ none →
      ∀ other ∈ later, ¬ StoresReport f own other

/-- Every row is acceptable in the database the rows before it lead to. -/
def Importable (f : CellFunctions) (rows : List RawRow) (db : ReportDatabase) : Prop :=
  ∀ earlier raw later before, rows = earlier ++ raw :: later →
    importRows f earlier db = .ok () before → Acceptable f raw later before.db

/-- The rows a database refuses, with their numbers. -/
def refusals (f : CellFunctions) (db : ReportDatabase) : Nat → List RawRow → List (Nat × String)
  | _, [] => []
  | index, raw :: rows =>
    match refusal f raw db with
    | some message => (index, message) :: refusals f db (index + 1) rows
    | none => refusals f db (index + 1) rows

def Settled (f : CellFunctions) (raw : RawRow) (db : ReportDatabase) : Prop :=
  Stored f raw db ∨ ∃ message, refusal f raw db = some message

section Runs

variable {f : CellFunctions} {index : Nat} {raw : RawRow} {rows earlier later : List RawRow}
  {db : ReportDatabase} {s t u : ImportState}

theorem run_importFrom_append : (importFrom f index (earlier ++ later)).run s = .ok () t ↔
    ∃ u, (importFrom f index earlier).run s = .ok () u ∧
      (importFrom f (index + earlier.length) later).run u = .ok () t := by
  induction earlier generalizing index s with
  | nil =>
    constructor
    · exact fun h => ⟨s, rfl, h⟩
    · rintro ⟨u, hNone, h⟩
      cases hNone
      exact h
  | cons raw earlier ih =>
    have hLength : index + 1 + earlier.length = index + (raw :: earlier).length := by
      rw [List.length_cons]
      omega
    rw [← hLength]
    constructor
    · intro h
      obtain ⟨first, u, hFirst, hRest⟩ := run_bind_eq_ok.mp h
      obtain ⟨v, hEarlier, hLater⟩ := ih.mp hRest
      exact ⟨v, run_bind_eq_ok.mpr ⟨first, u, hFirst, hEarlier⟩, hLater⟩
    · rintro ⟨v, h, hLater⟩
      obtain ⟨first, u, hFirst, hEarlier⟩ := run_bind_eq_ok.mp h
      exact run_bind_eq_ok.mpr ⟨first, u, hFirst, ih.mpr ⟨v, hEarlier, hLater⟩⟩

theorem refusals_cons_of_some {message : String} (h : refusal f raw db = some message) :
    refusals f db index (raw :: rows) = (index, message) :: refusals f db (index + 1) rows := by
  rw [refusals, h]

theorem refusals_cons_of_none (h : refusal f raw db = none) :
    refusals f db index (raw :: rows) = refusals f db (index + 1) rows := by
  rw [refusals, h]

/-- What importing rows that are all acceptable has done. -/
structure ImportedRows (f : CellFunctions) (index : Nat) (rows : List RawRow) (s t : ImportState) :
    Prop where
  grows : s.db.Grows t.db
  settled : ∀ raw ∈ rows, Settled f raw t.db
  total : t.summary.totalRows = s.summary.totalRows + rows.length
  handled : t.summary.handled = s.summary.handled + rows.length
  errors : t.summary.validationErrors =
    s.summary.validationErrors + (refusals f t.db index rows).length
  errorDetails : t.summary.errorDetails = s.summary.errorDetails ++ refusals f t.db index rows
  unstored : ∀ own, (∀ raw ∈ rows, ¬ StoresReport f own raw) → reportsFor s.db own = [] →
    reportsFor t.db own = []

/-- Where no later row stores the report, a refusal stands. -/
theorem refusal_of_imported {message : String} (h : refusal f raw s.db = some message)
    (hLater : ∀ own, head f (normalizeRow f raw) = .ok own → refusal f raw s.db ≠ none →
      ∀ other ∈ rows, ¬ StoresReport f own other)
    (hUnstored : ∀ own, (∀ raw ∈ rows, ¬ StoresReport f own raw) → reportsFor s.db own = [] →
      reportsFor t.db own = []) : refusal f raw t.db = some message := by
  rcases refusal_eq_some h with hHead | ⟨own, hHead, hNone, hDetails⟩
  · exact refusal_of_head_error hHead t.db
  · have hRefused : refusal f raw s.db ≠ none := by
      rw [h]
      exact Option.some_ne_none message
    exact refusal_of_details_error hHead (hUnstored own (hLater own hHead hRefused) hNone) hDetails

theorem importedRows_refused {message : String}
    (h : refusal f raw s.db = some message)
    (hLater : ∀ own, head f (normalizeRow f raw) = .ok own → refusal f raw s.db ≠ none →
      ∀ other ∈ rows, ¬ StoresReport f own other)
    (hRest : ImportedRows f (index + 1) rows (failed index message (started s)) t) :
    ImportedRows f index (raw :: rows) s t := by
  have hRefusal := refusal_of_imported (t := t) h hLater hRest.unstored
  refine ⟨hRest.grows, List.forall_mem_cons.mpr ⟨.inr ⟨message, hRefusal⟩, hRest.settled⟩, ?_, ?_,
    ?_, ?_, ?_⟩
  · rw [hRest.total, List.length_cons]
    simp only [failed, started, RowCounts.failed]
    omega
  · rw [hRest.handled, List.length_cons]
    simp only [failed, started, RowCounts.failed, ImportSummary.handled]
    omega
  · rw [hRest.errors, refusals_cons_of_some hRefusal, List.length_cons]
    simp only [failed, started, RowCounts.failed]
    omega
  · rw [hRest.errorDetails, refusals_cons_of_some hRefusal]
    simp only [failed, started, RowCounts.failed, List.append_assoc, List.singleton_append]
  · intro own hOwn hNone
    exact hRest.unstored own (List.forall_mem_cons.mp hOwn).2 hNone

theorem importedRows_accepted (h : Accepted f raw (started s) u)
    (hRest : ImportedRows f (index + 1) rows u t) : ImportedRows f index (raw :: rows) s t := by
  obtain ⟨hTotal, hHandled, hErrors, hDetails⟩ := h.handled
  have hStored := h.stored.mono hRest.grows
  refine ⟨h.grows.trans hRest.grows, List.forall_mem_cons.mpr ⟨.inl hStored, hRest.settled⟩, ?_, ?_,
    ?_, ?_, ?_⟩
  · rw [hRest.total, List.length_cons, hTotal]
    omega
  · rw [hRest.handled, List.length_cons, hHandled]
    omega
  · rw [hRest.errors, refusals_cons_of_none hStored.refusal, hErrors]
  · rw [hRest.errorDetails, refusals_cons_of_none hStored.refusal, hDetails]
  · intro own hOwn hNone
    rw [List.forall_mem_cons] at hOwn
    have hStill : reportsFor u.db own = [] := by
      by_contra hSome
      exact hOwn.1 (h.own own hNone hSome)
    exact hRest.unstored own hOwn.2 hStill

theorem importRows_snoc (hEarlier : importRows f earlier db = .ok () s)
    (hNext : (importNext f (earlier.length + 1) raw).run s = .ok () t) :
    importRows f (earlier ++ [raw]) db = .ok () t := by
  refine run_importFrom_append.mpr ⟨s, hEarlier, ?_⟩
  rw [Nat.add_comm] at hNext
  exact (run_bind_of_ok hNext).trans rfl

/-- The rest of an importable file goes through, row after row. -/
theorem importFrom_of_importable (hImportable : Importable f (earlier ++ rows) db)
    (hEarlier : importRows f earlier db = .ok () s) :
    ∃ t, (importFrom f (earlier.length + 1) rows).run s = .ok () t ∧
      ImportedRows f (earlier.length + 1) rows s t := by
  induction rows generalizing earlier s with
  | nil =>
    exact ⟨s, rfl, .refl s.db, by simp, rfl, rfl, rfl, (List.append_nil _).symm,
      fun _ _ hNone => hNone⟩
  | cons raw rows ih =>
    have hAcceptable := hImportable earlier raw rows s rfl hEarlier
    have hSplit : earlier ++ raw :: rows = (earlier ++ [raw]) ++ rows := by
      rw [List.append_assoc, List.singleton_append]
    have hLength : (earlier ++ [raw]).length = earlier.length + 1 := by
      rw [List.length_append, List.length_singleton]
    rw [hSplit] at hImportable
    cases hRefusal : refusal f raw s.db with
    | some message =>
      have hNext : (importNext f (earlier.length + 1) raw).run s = _ := importNext_refused hRefusal
      obtain ⟨t, hRest, hDone⟩ := ih hImportable (importRows_snoc hEarlier hNext)
      rw [hLength] at hRest hDone
      exact ⟨t, (run_bind_of_ok hNext).trans hRest,
        importedRows_refused hRefusal hAcceptable.2 hDone⟩
    | none =>
      obtain ⟨u, hNext, hAccepted⟩ := importNext_progress hRefusal (hAcceptable.1 hRefusal)
      obtain ⟨t, hRest, hDone⟩ := ih hImportable (importRows_snoc hEarlier hNext)
      rw [hLength] at hRest hDone
      exact ⟨t, (run_bind_of_ok hNext).trans hRest, importedRows_accepted hAccepted hDone⟩

/-- Rows that the database has or refuses change nothing in it. -/
theorem importFrom_settled (hSettled : ∀ raw ∈ rows, Settled f raw s.db) :
    ∃ t, (importFrom f index rows).run s = .ok () t ∧ t.db = s.db ∧
      (s.summary.NothingInserted → t.summary.NothingInserted) := by
  induction rows generalizing index s with
  | nil => exact ⟨s, rfl, rfl, id⟩
  | cons raw rows ih =>
    rw [List.forall_mem_cons] at hSettled
    rcases hSettled.1 with hStored | ⟨message, hRefusal⟩
    · obtain ⟨t, hRest, hSame, hNothing⟩ := ih (s := skipping (started s)) hSettled.2
      exact ⟨t, (run_bind_of_ok (importNext_again hStored)).trans hRest, hSame, hNothing⟩
    · obtain ⟨t, hRest, hSame, hNothing⟩ :=
        ih (s := failed index message (started s)) hSettled.2
      exact ⟨t, (run_bind_of_ok (importNext_refused hRefusal)).trans hRest, hSame, hNothing⟩

theorem importable_of_settled (hSettled : ∀ raw ∈ rows, Settled f raw db) :
    Importable f rows db := by
  rintro earlier raw later before rfl hBefore
  rw [List.forall_mem_append, List.forall_mem_cons] at hSettled
  obtain ⟨t, hRun, hSame, -⟩ := importFrom_settled (s := ⟨db, {}⟩) hSettled.1
  have hDb : before.db = db := by
    cases hBefore.symm.trans hRun
    exact hSame
  rw [hDb]
  constructor
  · intro hRefusal
    rcases hSettled.2.1 with hStored | ⟨message, hSome⟩
    · exact hStored.passes
    · cases hRefusal.symm.trans hSome
  · rintro own hHead hRefused other hOther ⟨same, found, hSameHead, hDetails, hKeys⟩
    have hNone : reportsFor db own = [] := by
      by_contra hSome
      exact hRefused (refusal_of_stored hHead hSome)
    rcases hSettled.2.2 other hOther with ⟨stored, report, hStoredHead, hSingle, -⟩ | ⟨message, hSome⟩
    · cases hSameHead.symm.trans hStoredHead
      rw [reportsFor, hKeys] at hSingle
      cases hNone.symm.trans hSingle
    · cases hSome.symm.trans (refusal_of_details hSameHead hDetails)

theorem importedExactly_of_importable (h : Importable f rows db) :
    ∃ done, ImportedExactly f rows db done ∧ ImportedRows f 1 rows ⟨db, {}⟩ done := by
  have hAll : Importable f ([] ++ rows) db := h
  obtain ⟨done, hRun, hDone⟩ := importFrom_of_importable hAll rfl
  refine ⟨done, ⟨hRun, ?_, ?_⟩, hDone⟩
  · rw [hDone.total, hDone.handled]
    rfl
  · intro earlier raw later before after hSplit hBefore hNext hErrors
    obtain ⟨hPasses, -⟩ := h earlier raw later before hSplit hBefore
    cases hRefusal : refusal f raw before.db with
    | some message =>
      cases hNext.symm.trans (importNext_refused hRefusal)
      rfl
    | none =>
      obtain ⟨t, hStep, hAccepted⟩ := importNext_progress hRefusal (hPasses hRefusal)
      cases hNext.symm.trans hStep
      exact absurd hAccepted.handled.2.2.1 hErrors

theorem importsSoundly_of_importable (h : Importable f rows db) : ImportsSoundly f rows db := by
  obtain ⟨first, hFirst, hFirstRows⟩ := importedExactly_of_importable h
  obtain ⟨second, hSecond, hSecondRows⟩ :=
    importedExactly_of_importable (importable_of_settled hFirstRows.settled)
  obtain ⟨again, hAgain, hSame, hNothing⟩ :=
    importFrom_settled (s := ⟨first.db, {}⟩) hFirstRows.settled
  cases hSecond.returned.symm.trans hAgain
  refine ⟨first, second, hFirst, hSecond, hSame, hNothing ⟨rfl, rfl, rfl, rfl⟩, ?_, ?_⟩
  · rw [hSecondRows.errors, hFirstRows.errors, hSame]
  · rw [hSecondRows.errorDetails, hFirstRows.errorDetails, hSame]

/-- No turn of a loop counts less than its row. -/
theorem total_le_handled (h : (importFrom f index rows).run s = .ok () t) :
    t.summary.totalRows + s.summary.handled ≤ t.summary.handled + s.summary.totalRows := by
  induction rows generalizing index s with
  | nil =>
    cases h
    rw [Nat.add_comm]
  | cons raw rows ih =>
    obtain ⟨first, u, hNext, hRest⟩ := run_bind_eq_ok.mp h
    have hTail := ih hRest
    rcases importNext_cases hNext with ⟨message, -, rfl⟩ | hAccepted | ⟨hTotal, hHandled⟩
    · simp only [failed, started, RowCounts.failed, ImportSummary.handled] at hTail ⊢
      omega
    · obtain ⟨hTotal, hHandled, -⟩ := hAccepted.handled
      omega
    · omega

/-- The rows went through and none was counted twice. -/
def Clean (f : CellFunctions) (index : Nat) (rows : List RawRow) (s t : ImportState) : Prop :=
  (importFrom f index rows).run s = .ok () t ∧
    t.summary.handled + s.summary.totalRows = t.summary.totalRows + s.summary.handled

/-- What a turn does that counts its row once. -/
def Turns (f : CellFunctions) (index : Nat) (raw : RawRow) (s t : ImportState) : Prop :=
  (∃ message, refusal f raw s.db = some message ∧ t = failed index message (started s)) ∨
    Accepted f raw (started s) t

theorem clean_append (h : Clean f index (earlier ++ later) s t) :
    ∃ u, Clean f index earlier s u ∧ Clean f (index + earlier.length) later u t := by
  obtain ⟨u, hEarlier, hLater⟩ := run_importFrom_append.mp h.1
  have hFirst := total_le_handled hEarlier
  have hSecond := total_le_handled hLater
  have hBalanced := h.2
  exact ⟨u, ⟨hEarlier, by omega⟩, hLater, by omega⟩

theorem clean_cons (h : Clean f index (raw :: rows) s t) :
    ∃ u, Turns f index raw s u ∧ Clean f (index + 1) rows u t := by
  obtain ⟨first, u, hNext, hRest⟩ := run_bind_eq_ok.mp h.1
  have hTail := total_le_handled hRest
  have hBalanced := h.2
  rcases importNext_cases hNext with ⟨message, hRefusal, rfl⟩ | hAccepted | ⟨hTotal, hHandled⟩
  · refine ⟨_, .inl ⟨message, hRefusal, rfl⟩, hRest, ?_⟩
    simp only [failed, started, RowCounts.failed, ImportSummary.handled] at hTail hBalanced ⊢
    omega
  · obtain ⟨hTotal, hHandled, -⟩ := hAccepted.handled
    exact ⟨u, .inr hAccepted, hRest, by omega⟩
  · omega

theorem Turns.grows (h : Turns f index raw s t) : s.db.Grows t.db := by
  rcases h with ⟨message, -, rfl⟩ | hAccepted
  · exact .refl s.db
  · exact hAccepted.grows

theorem Clean.grows (h : Clean f index rows s t) : s.db.Grows t.db := by
  induction rows generalizing index s with
  | nil =>
    cases h.1
    exact .refl t.db
  | cons raw rows ih =>
    obtain ⟨u, hTurn, hRest⟩ := clean_cons h
    exact hTurn.grows.trans (ih hRest)

/-- A row that goes through in the first import is not refused in the second, which so meets no
more errors. -/
theorem errors_le {v w : ImportState} (h : Clean f index rows s t) (hAgain : Clean f index rows v w)
    (hGrows : t.db.Grows v.db) : w.summary.validationErrors + s.summary.validationErrors ≤
      t.summary.validationErrors + v.summary.validationErrors := by
  induction rows generalizing index s v with
  | nil =>
    cases h.1
    cases hAgain.1
    rw [Nat.add_comm]
  | cons raw rows ih =>
    obtain ⟨u, hTurn, hRest⟩ := clean_cons h
    obtain ⟨x, hTurn', hRest'⟩ := clean_cons hAgain
    have hTail := ih hRest hRest' (hGrows.trans hTurn'.grows)
    rcases hTurn with ⟨message, -, rfl⟩ | hAccepted
    · rcases hTurn' with ⟨message', -, rfl⟩ | hAccepted'
      · simp only [failed, started, RowCounts.failed] at hTail ⊢
        omega
      · have hErrors := hAccepted'.handled.2.2.1
        simp only [failed, started, RowCounts.failed] at hTail ⊢
        omega
    · have hStored := hAccepted.stored.mono (hRest.grows.trans hGrows)
      rcases hTurn' with ⟨message', hRefusal, rfl⟩ | hAccepted'
      · cases hRefusal.symm.trans hStored.refusal
      · have hErrors := hAccepted.handled.2.2.1
        have hErrors' := hAccepted'.handled.2.2.1
        omega

theorem ImportedExactly.clean {done : ImportState} (h : ImportedExactly f rows db done) :
    Clean f 1 rows ⟨db, {}⟩ done := ⟨h.returned, h.accounted.symm⟩

/-- A row refused for its details, whose report a later row stores, is not refused again. -/
theorem errors_lt {v w : ImportState} {own : Head} {message : String}
    (h : Clean f index (earlier ++ raw :: later) s t)
    (hAgain : Clean f index (earlier ++ raw :: later) v w) (hGrows : t.db.Grows v.db)
    (hBefore : (importFrom f index earlier).run s = .ok () u)
    (hHead : head f (normalizeRow f raw) = .ok own) (hRefusal : refusal f raw u.db = some message)
    {other : RawRow} (hOther : other ∈ later) (hStores : StoresReport f own other) :
    w.summary.validationErrors + s.summary.validationErrors <
      t.summary.validationErrors + v.summary.validationErrors := by
  obtain ⟨before, hEarlier, hRest⟩ := clean_append h
  cases hBefore.symm.trans hEarlier.1
  obtain ⟨before', hEarlier', hRest'⟩ := clean_append hAgain
  obtain ⟨after, hTurn, hLater⟩ := clean_cons hRest
  obtain ⟨after', hTurn', hLater'⟩ := clean_cons hRest'
  have hFirst := errors_le hEarlier hEarlier' (hRest.grows.trans hGrows)
  have hLast := errors_le hLater hLater'
    (hGrows.trans (hEarlier'.grows.trans hTurn'.grows))
  have hStored : reportsFor t.db own ≠ [] := by
    obtain ⟨same, found, hSame, hDetails, hKeys⟩ := hStores
    obtain ⟨front, back, rfl⟩ := List.append_of_mem hOther
    obtain ⟨x, -, hMid⟩ := clean_append hLater
    obtain ⟨y, hThere, hEnd⟩ := clean_cons hMid
    rcases hThere with ⟨other', hRefused, -⟩ | hAccepted
    · cases hRefused.symm.trans (refusal_of_details hSame hDetails)
    · obtain ⟨stored, report, hStoredHead, hSingle, -⟩ := hAccepted.stored.mono hEnd.grows
      cases hSame.symm.trans hStoredHead
      rw [reportsFor, ← hKeys]
      intro hNone
      cases hNone.symm.trans hSingle
  have hAccepted : refusal f raw before'.db = none := by
    refine refusal_of_stored hHead fun hNone => hStored ?_
    exact (hGrows.trans hEarlier'.grows).reports.eq_nil hNone
  rcases hTurn with ⟨message, -, rfl⟩ | hThrough
  · rcases hTurn' with ⟨message', hRefused, -⟩ | hThrough'
    · cases hRefused.symm.trans hAccepted
    · have hErrors := hThrough'.handled.2.2.1
      simp only [failed, started, RowCounts.failed] at hLast
      omega
  · cases hRefusal.symm.trans hThrough.refusal

theorem importable_of_importsSoundly (h : ImportsSoundly f rows db) : Importable f rows db := by
  obtain ⟨first, second, hFirst, hSecond, -, -, hErrors, -⟩ := h
  rintro earlier raw later before rfl hBefore
  obtain ⟨u, hEarlier, hRest⟩ := clean_append hFirst.clean
  cases hBefore.symm.trans hEarlier.1
  constructor
  · intro hRefusal
    obtain ⟨after, ⟨message, hSome, -⟩ | hAccepted, -⟩ := clean_cons hRest
    · cases hRefusal.symm.trans hSome
    · exact hAccepted.passes
  · intro own hHead hRefused other hOther hStores
    obtain ⟨message, hRefusal⟩ := Option.ne_none_iff_exists'.mp hRefused
    have hFewer := errors_lt hFirst.clean hSecond.clean (.refl first.db) hBefore hHead hRefusal
      hOther hStores
    simp only [hErrors] at hFewer
    omega

end Runs

theorem validDate_publicationDay : validDate 2026 5 4 = true := rfl

def plainCells : CellFunctions where
  upper := upper
  lower := lower
  strptime text :=
    if text = "2026-05-04".toList then some ⟨2026, 5, 4, validDate_publicationDay⟩ else none
  decimal _ := none

def column (name value : String) : Option Text × Option Text := (some name.toList, some value.toList)

def unknownCategory : RawRow :=
  [column "report_type" "COMPANY", column "broker_name" "Broker", column "published_at" "2026-05-04",
    column "title" "Memory outlook", column "theme_name" "HBM", column "theme_category" "CHIPS"]

def summaryOf : EStateM.Result ImportError ImportState Unit → Option (Nat × Nat × Nat × Nat)
  | .ok _ done => some (done.summary.totalRows, done.summary.insertedReports,
      done.summary.validationErrors, done.db.reports.rows.length)
  | .error _ _ => none

theorem summary_unknownCategory :
    summaryOf (importRows plainCells [unknownCategory] .empty) = some (1, 1, 1, 1) := by
  decide +kernel

end StockAiPlatform
