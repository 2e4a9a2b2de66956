import StockAiPlatform.Python.Json
import StockAiPlatform.Transaction.Program
import StockAiPlatform.Transaction.Table

/-! # The job wrapper

`run_job` opens two sessions. One writes the row of `job_runs` and commits it
before and after the job; the other is the job's own, rolled back if the job
raises and committed if it returns. Only the job stands inside the handler, and
the row takes a summary only if it is JSON.
-/

namespace StockAiPlatform
set_option autoImplicit false

open Transaction Python

/-- What a job function returns; nothing checks the status it puts in, or the values of the summary. -/
structure JobResult where
  status : String := "SUCCESS"
  summary : Option (List (String × PyValue)) := none
  errorMessage : Option String := none

structure JobRun where
  jobId : Nat
  jobName : String
  startedAt : Int
  finishedAt : Option Int := none
  status : String
  errorMessage : Option String := none
  resultSummary : Option (List (String × Json)) := none

instance : Keyed JobRun := ⟨JobRun.jobId⟩

structure JobOutcome where
  jobRunId : Nat
  jobName : String
  status : String
  startedAt : Int
  finishedAt : Int
  resultSummary : Option (List (String × PyValue))
  errorMessage : Option String

namespace JobRun

def started (jobId : Nat) (jobName : String) (startedAt : Int) : JobRun where
  jobId := jobId
  jobName := jobName
  startedAt := startedAt
  status := "RUNNING"

def finish (finishedAt : Int) (report : JobResult) (resultSummary : Option (List (String × Json)))
    (run : JobRun) : JobRun :=
  { run with
    status := report.status
    finishedAt := some finishedAt
    resultSummary := resultSummary
    errorMessage := report.errorMessage }

theorem jobId_finish (finishedAt : Int) (report : JobResult)
    (resultSummary : Option (List (String × Json))) (run : JobRun) :
    (finish finishedAt report resultSummary run).jobId = run.jobId := rfl

end JobRun

/-- `job_runs` beside the tables the jobs work on. -/
structure JobStore (σ : Type) where
  jobRuns : Table JobRun
  work : σ

namespace JobStore

variable {σ : Type}

def start (store : JobStore σ) (jobName : String) (startedAt : Int) : JobStore σ :=
  { store with
    jobRuns := store.jobRuns.insert (.started store.jobRuns.nextKey jobName startedAt) }

def finish (store : JobStore σ) (jobRunId : Nat) (finishedAt : Int) (report : JobResult)
    (resultSummary : Option (List (String × Json))) : JobStore σ :=
  { store with
    jobRuns := store.jobRuns.modify jobRunId (JobRun.finish finishedAt report resultSummary)
      (JobRun.jobId_finish finishedAt report resultSummary) }

end JobStore

variable {σ κ ρ : Type} {τ : ρ → Type} {ε : Type}

/-- One call of `run_job`: the job, which finds its run's id in `session.info`, the answers the
outside world has for it, how the commits of its session and of the log session end, and the
clock. `notJson` is raised for a value of this type in the summary. -/
structure JobCall (σ κ ρ : Type) (τ : ρ → Type) (ε : Type) where
  jobName : String
  fn : Nat → Program σ κ ρ τ ε JobResult
  answer : (request : ρ) → τ request
  commit : Except ε Unit
  logStart : Except ε Unit
  logFinish : Except ε Unit
  notJson : String → ε
  startedAt : Int
  finishedAt : Int

namespace JobCall

/-- How the job itself ends, and its session then. -/
def worked (call : JobCall σ κ ρ τ ε) (store : JobStore σ) : Except ε JobResult × Session σ ρ τ :=
  (call.fn store.jobRuns.nextKey).exec call.answer (.opened store.work)

/-- The `try`, its `else` and the `finally`: what there is to report, or the exception of the
commit, and what is stored once the session is closed. `describe` is type and text of an exception. -/
def settleWork (describe : ε → String) (commit : Except ε Unit) :
    Except ε JobResult × Session σ ρ τ → Except ε JobResult × σ
  | (.error error, s) =>
    (.ok { status := "FAILED", errorMessage := some (describe error) }, s.rollback.durable)
  | (.ok result, s) =>
    match commit with
    | .ok () => (.ok result, s.commit.durable)
    -- no handler is open here, and the statements below the `finally` are skipped
    | .error error => (.error error, s.durable)

def outcome (call : JobCall σ κ ρ τ ε) (jobRunId : Nat) (report : JobResult) : JobOutcome where
  jobRunId := jobRunId
  jobName := call.jobName
  status := report.status
  startedAt := call.startedAt
  finishedAt := call.finishedAt
  resultSummary := report.summary
  errorMessage := report.errorMessage

/-- The last commit of the log session: what it makes of the summary, if it goes through. -/
def logged (call : JobCall σ κ ρ τ ε) (report : JobResult) :
    Except ε (Option (List (String × Json))) :=
  match PyValue.dumpsSummary report.summary with
  | .error typeName => .error (call.notJson typeName)
  | .ok resultSummary => call.logFinish.map fun () => resultSummary

def runJob (describe : ε → String) (call : JobCall σ κ ρ τ ε) (store : JobStore σ) :
    Except ε JobOutcome × JobStore σ :=
  match call.logStart with
  | .error error => (.error error, store)
  | .ok () =>
    let jobRunId := store.jobRuns.nextKey
    let started := store.start call.jobName call.startedAt
    match settleWork describe call.commit (call.worked store) with
    | (.error error, work) => (.error error, { started with work := work })
    | (.ok report, work) =>
      match call.logged report with
      | .error error => (.error error, { started with work := work })
      | .ok resultSummary =>
        (.ok (call.outcome jobRunId report),
          { started with work := work }.finish jobRunId call.finishedAt report resultSummary)

variable (describe : ε → String) {call : JobCall σ κ ρ τ ε} {store : JobStore σ}

theorem find?_start (store : JobStore σ) (jobName : String) (startedAt : Int) :
    (store.start jobName startedAt).jobRuns.find? store.jobRuns.nextKey =
      some (.started store.jobRuns.nextKey jobName startedAt) :=
  Table.find?_insert_of_key_eq (a := JobRun.started store.jobRuns.nextKey jobName startedAt) rfl

theorem logged_eq_ok {report : JobResult} {resultSummary : Option (List (String × Json))} :
    call.logged report = .ok resultSummary ↔
      PyValue.dumpsSummary report.summary = .ok resultSummary ∧ call.logFinish = .ok () := by
  rw [logged]
  cases PyValue.dumpsSummary report.summary with
  | error typeName => simp
  | ok dumped =>
    cases call.logFinish with
    | error error => simp [Except.map]
    | ok committed => simp [Except.map]

/-- What could be committed, and what the last commit of the log session took, is in the row. -/
theorem runJob_of_logged {report : JobResult} {work : σ}
    {resultSummary : Option (List (String × Json))} (hStart : call.logStart = .ok ())
    (h : settleWork describe call.commit (call.worked store) = (.ok report, work))
    (hLogged : call.logged report = .ok resultSummary) :
    (runJob describe call store).2.work = work ∧
      (runJob describe call store).2.jobRuns.find? store.jobRuns.nextKey =
        some (JobRun.finish call.finishedAt report resultSummary
          (.started store.jobRuns.nextKey call.jobName call.startedAt)) := by
  rw [runJob, hStart, h]
  simp only [hLogged]
  refine ⟨rfl, ?_⟩
  simp only [JobStore.finish, Table.find?_modify, find?_start, Option.map_some, if_true]

/-- A commit that fails leaves the row as it was written before the job. -/
theorem runJob_of_unlogged {ending : Except ε JobResult} {work : σ} (hStart : call.logStart = .ok ())
    (h : settleWork describe call.commit (call.worked store) = (ending, work))
    (hLogged : ∀ report, ending = .ok report → ∃ error, call.logged report = .error error) :
    (runJob describe call store).2.jobRuns.find? store.jobRuns.nextKey =
      some (.started store.jobRuns.nextKey call.jobName call.startedAt) := by
  rw [runJob, hStart, h]
  cases ending with
  | error error => exact find?_start store call.jobName call.startedAt
  | ok report =>
    obtain ⟨error, hError⟩ := hLogged report rfl
    simp only [hError]
    exact find?_start store call.jobName call.startedAt

/-! ## What a truthful row says -/

/-- The job raised, returned FAILED or could not be committed. -/
def Failed (call : JobCall σ κ ρ τ ε) (store : JobStore σ) : Prop :=
  (∃ error s, call.worked store = (.error error, s)) ∨
    (∃ result s, call.worked store = (.ok result, s) ∧ result.status = "FAILED") ∨
    ∃ result s error, call.worked store = (.ok result, s) ∧ call.commit = .error error

structure Truthful (call : JobCall σ κ ρ τ ε) (before after : JobStore σ) (run : JobRun) : Prop where
  not_running : run.status ≠ "RUNNING"
  finished : run.finishedAt.isSome
  failed_iff : run.status = "FAILED" ↔ after.work = before.work ∧ call.Failed before
  committed : run.status = "SUCCESS" ∨ run.status = "PARTIAL" →
    after.work = (call.worked before).2.view

/-- The wrapper ends with a committed row for this run, and the row is true. -/
def TellsTruth (describe : ε → String) (call : JobCall σ κ ρ τ ε) (store : JobStore σ) : Prop :=
  ∃ run, (runJob describe call store).2.jobRuns.find? store.jobRuns.nextKey = some run ∧
    call.Truthful store (runJob describe call store).2 run

/-- The commits of the log session go through, and the summary is JSON. A job that raises has
committed nothing itself; one that returns can be committed, does not report RUNNING, and where it
reports FAILED it has changed nothing. -/
def Accountable (call : JobCall σ κ ρ τ ε) (store : JobStore σ) : Prop :=
  call.logStart = .ok () ∧ call.logFinish = .ok () ∧
    match call.worked store with
    | (.error _, s) => s.durable = store.work
    | (.ok result, s) => call.commit = .ok () ∧ PyValue.IsJson result.summary ∧
      result.status ≠ "RUNNING" ∧ (result.status = "FAILED" → s.view = store.work)

theorem tellsTruth_iff_of_row {run : JobRun}
    (hRow : (runJob describe call store).2.jobRuns.find? store.jobRuns.nextKey = some run) :
    TellsTruth describe call store ↔ call.Truthful store (runJob describe call store).2 run := by
  constructor
  · rintro ⟨found, hFound, hTruth⟩
    obtain rfl := Option.some.inj (hRow.symm.trans hFound)
    exact hTruth
  · exact fun hTruth => ⟨run, hRow, hTruth⟩

theorem not_tellsTruth_of_unstarted {error : ε} (hStart : call.logStart = .error error) :
    ¬ TellsTruth describe call store := by
  rintro ⟨run, hFound, -⟩
  rw [runJob, hStart] at hFound
  have hFresh := store.jobRuns.key_lt_nextKey ((Table.find?_eq_some_iff _ _ _).mp hFound).1
  exact absurd (Table.key_of_find? hFound) (Nat.ne_of_lt hFresh)

theorem not_tellsTruth_of_unlogged {ending : Except ε JobResult} {work : σ}
    (hStart : call.logStart = .ok ())
    (h : settleWork describe call.commit (call.worked store) = (ending, work))
    (hLogged : ∀ report, ending = .ok report → ∃ error, call.logged report = .error error) :
    ¬ TellsTruth describe call store := by
  rw [tellsTruth_iff_of_row describe (runJob_of_unlogged describe hStart h hLogged)]
  exact fun hTruth => hTruth.not_running rfl

theorem tellsTruth_of_raised {error : ε} {s : Session σ ρ τ} (hStart : call.logStart = .ok ())
    (hFinish : call.logFinish = .ok ()) (h : call.worked store = (.error error, s)) :
    TellsTruth describe call store ↔ s.durable = store.work := by
  have hSettled : settleWork describe call.commit (call.worked store) =
      (.ok { status := "FAILED", errorMessage := some (describe error) }, s.durable) := by
    rw [h]
    rfl
  obtain ⟨hWork, hRow⟩ :=
    runJob_of_logged describe hStart hSettled (logged_eq_ok.mpr ⟨rfl, hFinish⟩)
  rw [tellsTruth_iff_of_row describe hRow]
  constructor
  · intro hTruth
    exact hWork.symm.trans (hTruth.failed_iff.mp rfl).1
  · intro hDurable
    refine ⟨by simp [JobRun.finish], rfl, ?_, by simp [JobRun.finish]⟩
    exact ⟨fun _ => ⟨hWork.trans hDurable, .inl ⟨error, s, h⟩⟩, fun _ => rfl⟩

theorem failed_iff_of_committed {result : JobResult} {s : Session σ ρ τ}
    (h : call.worked store = (.ok result, s)) (hCommit : call.commit = .ok ()) :
    call.Failed store ↔ result.status = "FAILED" := by
  constructor
  · rintro (⟨error, t, hRaised⟩ | ⟨other, t, hReturned, hStatus⟩ | ⟨other, t, error, -, hError⟩)
    · cases h.symm.trans hRaised
    · cases h.symm.trans hReturned
      exact hStatus
    · cases hCommit.symm.trans hError
  · exact fun hStatus => .inr (.inl ⟨result, s, h, hStatus⟩)

theorem tellsTruth_of_committed {result : JobResult} {s : Session σ ρ τ}
    {resultSummary : Option (List (String × Json))} (hStart : call.logStart = .ok ())
    (h : call.worked store = (.ok result, s)) (hCommit : call.commit = .ok ())
    (hLogged : call.logged result = .ok resultSummary) :
    TellsTruth describe call store ↔
      result.status ≠ "RUNNING" ∧ (result.status = "FAILED" → s.view = store.work) := by
  have hSettled : settleWork describe call.commit (call.worked store) = (.ok result, s.view) := by
    rw [h, hCommit]
    rfl
  obtain ⟨hWork, hRow⟩ := runJob_of_logged describe hStart hSettled hLogged
  have hEnded := failed_iff_of_committed h hCommit
  rw [tellsTruth_iff_of_row describe hRow]
  constructor
  · intro hTruth
    exact ⟨hTruth.not_running, fun hFailed => hWork.symm.trans (hTruth.failed_iff.mp hFailed).1⟩
  · rintro ⟨hRunning, hFailed⟩
    refine ⟨hRunning, rfl, ⟨fun hStatus => ?_, fun hBoth => hEnded.mp hBoth.2⟩, fun _ => ?_⟩
    · exact ⟨hWork.trans (hFailed hStatus), hEnded.mpr hStatus⟩
    · rw [h]
      exact hWork

theorem tellsTruth_of_returned {result : JobResult} {s : Session σ ρ τ}
    (hStart : call.logStart = .ok ()) (hFinish : call.logFinish = .ok ())
    (h : call.worked store = (.ok result, s)) :
    TellsTruth describe call store ↔ call.commit = .ok () ∧ PyValue.IsJson result.summary ∧
      result.status ≠ "RUNNING" ∧ (result.status = "FAILED" → s.view = store.work) := by
  cases hCommit : call.commit with
  | error error =>
    have hSettled : settleWork describe call.commit (call.worked store) = (.error error, s.durable) := by
      rw [h, hCommit]
      rfl
    refine iff_of_false (not_tellsTruth_of_unlogged describe hStart hSettled nofun) ?_
    rintro ⟨hOk, -⟩
    cases hOk
  | ok committed =>
    cases hDumped : PyValue.dumpsSummary result.summary with
    | error typeName =>
      have hSettled : settleWork describe call.commit (call.worked store) = (.ok result, s.view) := by
        rw [h, hCommit]
        rfl
      have hLogged : call.logged result = .error (call.notJson typeName) := by rw [logged, hDumped]
      refine iff_of_false (not_tellsTruth_of_unlogged describe hStart hSettled ?_) ?_
      · rintro report ⟨⟩
        exact ⟨_, hLogged⟩
      · rintro ⟨-, ⟨dumped, hJson⟩, -⟩
        cases hDumped.symm.trans hJson
    | ok resultSummary =>
      rw [tellsTruth_of_committed describe hStart h hCommit (logged_eq_ok.mpr ⟨hDumped, hFinish⟩)]
      exact ⟨fun hRest => ⟨rfl, ⟨_, hDumped⟩, hRest⟩, fun hAll => hAll.2.2⟩

theorem logged_of_finish_error {error : ε} (hFinish : call.logFinish = .error error)
    (report : JobResult) : ∃ raised, call.logged report = .error raised := by
  cases hLogged : call.logged report with
  | error raised => exact ⟨raised, rfl⟩
  | ok resultSummary => cases hFinish.symm.trans (logged_eq_ok.mp hLogged).2

theorem tellsTruth_iff (describe : ε → String) (call : JobCall σ κ ρ τ ε) (store : JobStore σ) :
    TellsTruth describe call store ↔ call.Accountable store := by
  cases hStart : call.logStart with
  | error error =>
    refine iff_of_false (not_tellsTruth_of_unstarted describe hStart) ?_
    rintro ⟨hOk, -⟩
    cases hStart.symm.trans hOk
  | ok started =>
    cases hFinish : call.logFinish with
    | error error =>
      refine iff_of_false (not_tellsTruth_of_unlogged describe hStart rfl
        fun report _ => logged_of_finish_error hFinish report) ?_
      rintro ⟨-, hOk, -⟩
      cases hFinish.symm.trans hOk
    | ok finished =>
      rw [Accountable, and_iff_right hStart, and_iff_right hFinish]
      cases hWorked : call.worked store with
      | mk ending s =>
        cases ending with
        | error error => exact tellsTruth_of_raised describe hStart hFinish hWorked
        | ok result => exact tellsTruth_of_returned describe hStart hFinish hWorked

def lockedOut : JobCall (List String) Unit Empty (fun _ => Empty) String where
  jobName := "collect_market_close_data"
  fn _ := do
    Program.modify fun rows => rows ++ ["005930"]
    pure {}
  answer := Empty.elim
  commit := .error "database is locked"
  logStart := .ok ()
  logFinish := .ok ()
  notJson typeName := "Object of type " ++ typeName ++ " is not JSON serializable"
  startedAt := 0
  finishedAt := 1

theorem lockedOut_stays_running :
    ¬ TellsTruth id lockedOut ⟨∅, []⟩ ∧
      ((runJob id lockedOut ⟨∅, []⟩).2.jobRuns.find? 1).map JobRun.status = some "RUNNING" := by
  refine ⟨?_, rfl⟩
  rintro ⟨run, hFound, hTruth⟩
  have hRow : (runJob id lockedOut ⟨∅, []⟩).2.jobRuns.find? (∅ : Table JobRun).nextKey =
      some (.started 1 "collect_market_close_data" 0) := rfl
  obtain rfl := Option.some.inj (hRow.symm.trans hFound)
  exact hTruth.not_running rfl

end JobCall

end StockAiPlatform
