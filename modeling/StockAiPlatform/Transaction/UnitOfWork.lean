import StockAiPlatform.Transaction.Raising
import Mathlib.Data.List.Basic

/-! # Sessions that a refused flush ends

A flush the database refuses rolls back all that was staged, and the session
fails every statement until it is rolled back itself. Tasks that share such a
session, each behind its own handler, are isolated up to the first refusal.
-/

namespace StockAiPlatform.Transaction
set_option autoImplicit false

/-- `staged` is what the session sees, and none once a flush was refused. -/
structure UnitOfWork (σ : Type) where
  durable : σ
  staged : Option σ

namespace UnitOfWork

variable {σ ε α β κ : Type}

def opened (durable : σ) : UnitOfWork σ := ⟨durable, some durable⟩

/-- What a commit would leave. -/
def stored (s : UnitOfWork σ) : σ := s.staged.getD s.durable

/-- Statements and flushes in a row, the first of which that is refused ends the session. -/
def transact (pending : ε) (f : σ → Except ε (α × σ)) : EStateM ε (UnitOfWork σ) α := fun s =>
  match s.staged with
  | none => .error pending s
  | some view =>
    match f view with
    | .ok (value, next) => .ok value { s with staged := some next }
    | .error error => .error error { s with staged := none }

/-- `try` -/
def attempt (p : EStateM ε (UnitOfWork σ) α) : EStateM ε (UnitOfWork σ) (Except ε α) := fun s =>
  match p.run s with
  | .ok value t => .ok (.ok value) t
  | .error error t => .ok (.error error) t

def attemptEach (task : κ → EStateM ε (UnitOfWork σ) α) :
    List κ → EStateM ε (UnitOfWork σ) (List (κ × Except ε α))
  | [] => pure []
  | key :: keys => do
    let outcome ← attempt (task key)
    let outcomes ← attemptEach task keys
    return (key, outcome) :: outcomes

def attemptBatches (task : κ → EStateM ε (UnitOfWork σ) α) :
    List (List κ) → EStateM ε (UnitOfWork σ) (List (κ × Except ε α))
  | [] => pure []
  | batch :: batches => do
    let outcomes ← attemptEach task batch
    let others ← attemptBatches task batches
    return outcomes ++ others

def failedKeys (outcomes : List (κ × Except ε α)) : List κ :=
  outcomes.filterMap fun
    | (key, .error _) => some key
    | (_, .ok _) => none

section Batches

variable {each : κ → EStateM ε (UnitOfWork σ) α}

theorem attemptEach_append (keys others : List κ) : attemptEach each (keys ++ others) = (do
    let outcomes ← attemptEach each keys
    let rest ← attemptEach each others
    return outcomes ++ rest) := by
  induction keys with
  | nil => simp only [List.nil_append, attemptEach, pure_bind, bind_pure]
  | cons key keys ih => simp only [List.cons_append, attemptEach, ih, bind_assoc, pure_bind]

theorem attemptBatches_eq (batches : List (List κ)) :
    attemptBatches each batches = attemptEach each batches.flatten := by
  induction batches with
  | nil => rfl
  | cons batch batches ih => rw [attemptBatches, List.flatten_cons, attemptEach_append, ih]

end Batches

section Tasks

variable (pending : ε) (refused : β → ε) (accepts : β → Bool) (put : σ → β → σ)
  (plan : κ → Except ε (List β × α))

def flushRow (row : β) : EStateM ε (UnitOfWork σ) Unit :=
  transact pending fun view =>
    if accepts row then .ok ((), put view row) else .error (refused row)

def flushAll : List β → EStateM ε (UnitOfWork σ) Unit
  | [] => pure ()
  | row :: rows => do
    flushRow pending refused accepts put row
    flushAll rows

/-- What is planned without the session, and then written. -/
def task (key : κ) : EStateM ε (UnitOfWork σ) α :=
  match plan key with
  | .error error => throw error
  | .ok (rows, value) => do
    flushAll pending refused accepts put rows
    return value

def ownFailure (key : κ) : Bool :=
  match plan key with
  | .error _ => true
  | .ok (rows, _) => !rows.all accepts

/-- The plan succeeds, and a row of it is refused. -/
def isRefused (key : κ) : Bool :=
  match plan key with
  | .error _ => false
  | .ok (rows, _) => !rows.all accepts

/-- The task fails on a session that has ended. -/
def failsEnded (key : κ) : Bool :=
  match plan key with
  | .error _ => true
  | .ok (rows, _) => !rows.isEmpty

def rowsOf (key : κ) : List β :=
  match plan key with
  | .error _ => []
  | .ok (rows, _) => rows

variable {accepts plan} {key : κ}

theorem ownFailure_of_isRefused (h : isRefused accepts plan key = true) :
    ownFailure accepts plan key = true := by
  rw [isRefused] at h
  rw [ownFailure]
  split at h
  · rfl
  · exact h

theorem failsEnded_iff (accepts : β → Bool) : failsEnded plan key = true ↔
    ownFailure accepts plan key = true ∨ rowsOf plan key ≠ [] := by
  rw [failsEnded, ownFailure, rowsOf]
  cases plan key with
  | error error => simp
  | ok planned =>
    obtain ⟨rows, value⟩ := planned
    cases rows with
    | nil => simp
    | cons row rows => simp

/-- An ended session fails the same tasks if the others write nothing. -/
theorem filter_failsEnded_iff (accepts : β → Bool) (keys : List κ) :
    keys.filter (failsEnded plan) = keys.filter (ownFailure accepts plan) ↔
      ∀ key ∈ keys, ownFailure accepts plan key = false → rowsOf plan key = [] := by
  constructor
  · intro hSame key hKey hOwn
    by_contra hRows
    have hMem := List.mem_filter.mpr ⟨hKey, (failsEnded_iff accepts).mpr (.inr hRows)⟩
    rw [hSame, List.mem_filter, hOwn] at hMem
    cases hMem.2
  · intro h
    apply List.filter_congr
    intro key hKey
    rw [Bool.eq_iff_iff, failsEnded_iff accepts]
    refine ⟨fun hEnded => hEnded.elim id fun hRows => ?_, .inl⟩
    by_contra hOwn
    exact hRows (h key hKey (Bool.eq_false_iff.mpr hOwn))

end Tasks

section Runs

variable {pending : ε} {refused : β → ε} {accepts : β → Bool} {put : σ → β → σ}
  {plan : κ → Except ε (List β × α)} {durable view : σ} {rows : List β} {key : κ} {keys : List κ}

theorem run_flushRow_accepted {row : β} (h : accepts row = true) :
    (flushRow pending refused accepts put row).run ⟨durable, some view⟩ =
      .ok () ⟨durable, some (put view row)⟩ := by
  simp only [flushRow, transact, EStateM.run, h, if_true]

theorem run_flushRow_refused {row : β} (h : accepts row = false) :
    (flushRow pending refused accepts put row).run ⟨durable, some view⟩ =
      .error (refused row) ⟨durable, none⟩ := by
  simp only [flushRow, transact, EStateM.run, h, Bool.false_eq_true, if_false]

theorem run_flushAll_accepted (h : rows.all accepts = true) :
    (flushAll pending refused accepts put rows).run ⟨durable, some view⟩ =
      .ok () ⟨durable, some (rows.foldl put view)⟩ := by
  induction rows generalizing view with
  | nil => rfl
  | cons row rows ih =>
    rw [List.all_cons, Bool.and_eq_true] at h
    rw [flushAll, run_bind_of_ok (run_flushRow_accepted h.1), List.foldl_cons]
    exact ih h.2

variable (pending refused put durable view) in
/-- What was staged before goes with the rows before the refused one. -/
theorem run_flushAll_refused (h : rows.all accepts = false) : ∃ error,
    (flushAll pending refused accepts put rows).run ⟨durable, some view⟩ =
      .error error ⟨durable, none⟩ := by
  induction rows generalizing view with
  | nil => cases h
  | cons row rows ih =>
    rw [flushAll]
    cases hAccepts : accepts row with
    | true =>
      rw [List.all_cons, hAccepts, Bool.true_and] at h
      rw [run_bind_of_ok (run_flushRow_accepted hAccepts)]
      exact ih _ h
    | false => exact ⟨refused row, run_bind_of_error (run_flushRow_refused hAccepts)⟩

variable (pending refused accepts put durable) in
theorem run_flushAll_ended (h : rows ≠ []) :
    (flushAll pending refused accepts put rows).run ⟨durable, none⟩ =
      .error pending ⟨durable, none⟩ := by
  obtain ⟨row, rest, rfl⟩ := List.exists_cons_of_ne_nil h
  rw [flushAll]
  exact run_bind_of_error rfl

def isError : Except ε α → Bool
  | .error _ => true
  | .ok _ => false

theorem failedKeys_cons (outcome : Except ε α) (outcomes : List (κ × Except ε α)) :
    failedKeys ((key, outcome) :: outcomes) =
      (if isError outcome then [key] else []) ++ failedKeys outcomes := by
  cases outcome with
  | error error => rfl
  | ok value => rfl

variable {s t : UnitOfWork σ} {value : α} {error : ε} {p : EStateM ε (UnitOfWork σ) α}

theorem run_attempt_ok (h : p.run s = .ok value t) : (attempt p).run s = .ok (.ok value) t := by
  simp only [attempt, EStateM.run] at h ⊢
  rw [h]

theorem run_attempt_error (h : p.run s = .error error t) :
    (attempt p).run s = .ok (.error error) t := by
  simp only [attempt, EStateM.run] at h ⊢
  rw [h]

theorem run_task_of_planError (hPlan : plan key = .error error) :
    (task pending refused accepts put plan key).run s = .error error s := by
  rw [task, hPlan]
  rfl

theorem run_task_of_stored (hPlan : plan key = .ok (rows, value))
    (hFlush : (flushAll pending refused accepts put rows).run s = .ok () t) :
    (task pending refused accepts put plan key).run s = .ok value t := by
  rw [task, hPlan]
  exact run_bind_of_ok hFlush

theorem run_task_of_flushError (hPlan : plan key = .ok (rows, value))
    (hFlush : (flushAll pending refused accepts put rows).run s = .error error t) :
    (task pending refused accepts put plan key).run s = .error error t := by
  rw [task, hPlan]
  exact run_bind_of_error hFlush

variable (pending refused put durable view) in
/-- A task none of whose rows is refused stages them, and fails only of itself. -/
theorem attempt_task_of_accepted (h : isRefused accepts plan key = false) : ∃ outcome,
    (attempt (task pending refused accepts put plan key)).run ⟨durable, some view⟩ =
        .ok outcome ⟨durable, some ((rowsOf plan key).foldl put view)⟩ ∧
      isError outcome = ownFailure accepts plan key := by
  cases hPlan : plan key with
  | error error =>
    rw [rowsOf, ownFailure, hPlan]
    exact ⟨.error error, run_attempt_error (run_task_of_planError hPlan), rfl⟩
  | ok planned =>
    obtain ⟨rows, value⟩ := planned
    rw [isRefused, hPlan] at h
    rw [rowsOf, ownFailure, hPlan]
    have hRows : rows.all accepts = true := by simpa using h
    exact ⟨.ok value, run_attempt_ok (run_task_of_stored hPlan (run_flushAll_accepted hRows)),
      h.symm⟩

variable (pending refused put durable view) in
theorem attempt_task_of_refused (h : isRefused accepts plan key = true) : ∃ outcome,
    (attempt (task pending refused accepts put plan key)).run ⟨durable, some view⟩ =
        .ok outcome ⟨durable, none⟩ ∧
      isError outcome = true := by
  cases hPlan : plan key with
  | error error =>
    rw [isRefused, hPlan] at h
    cases h
  | ok planned =>
    obtain ⟨rows, value⟩ := planned
    rw [isRefused, hPlan] at h
    have hRows : rows.all accepts = false := by simpa using h
    obtain ⟨error, hFlush⟩ := run_flushAll_refused pending refused put durable view hRows
    exact ⟨.error error, run_attempt_error (run_task_of_flushError hPlan hFlush), rfl⟩

variable (pending refused accepts put plan durable key) in
/-- On a session that has ended only a task that writes nothing can succeed. -/
theorem attempt_task_ended : ∃ outcome,
    (attempt (task pending refused accepts put plan key)).run ⟨durable, none⟩ =
        .ok outcome ⟨durable, none⟩ ∧
      isError outcome = failsEnded plan key := by
  cases hPlan : plan key with
  | error error =>
    rw [failsEnded, hPlan]
    exact ⟨.error error, run_attempt_error (run_task_of_planError hPlan), rfl⟩
  | ok planned =>
    obtain ⟨rows, value⟩ := planned
    rw [failsEnded, hPlan]
    cases rows with
    | nil => exact ⟨.ok value, run_attempt_ok (run_task_of_stored hPlan rfl), rfl⟩
    | cons row rows =>
      have hFlush := run_flushAll_ended pending refused accepts put durable
        (List.cons_ne_nil row rows)
      exact ⟨.error pending, run_attempt_error (run_task_of_flushError hPlan hFlush), rfl⟩

end Runs

section Each

variable (pending : ε) (refused : β → ε) (accepts : β → Bool) (put : σ → β → σ)
  (plan : κ → Except ε (List β × α)) (durable : σ)

theorem run_attemptEach_cons {q : κ → EStateM ε (UnitOfWork σ) α} {key : κ} {keys : List κ}
    {outcome : Except ε α} {outcomes : List (κ × Except ε α)} {s t u : UnitOfWork σ}
    (hFirst : (attempt (q key)).run s = .ok outcome t)
    (hRest : (attemptEach q keys).run t = .ok outcomes u) :
    (attemptEach q (key :: keys)).run s = .ok ((key, outcome) :: outcomes) u := by
  rw [attemptEach, run_bind_of_ok hFirst, run_bind_of_ok hRest]
  rfl

theorem attemptEach_of_accepted {keys : List κ} (view : σ)
    (h : ∀ key ∈ keys, isRefused accepts plan key = false) : ∃ outcomes,
    (attemptEach (task pending refused accepts put plan) keys).run ⟨durable, some view⟩ =
        .ok outcomes ⟨durable, some (keys.foldl (fun view key => (rowsOf plan key).foldl put view) view)⟩ ∧
      failedKeys outcomes = keys.filter (ownFailure accepts plan) := by
  induction keys generalizing view with
  | nil => exact ⟨[], rfl, rfl⟩
  | cons key keys ih =>
    rw [List.forall_mem_cons] at h
    obtain ⟨outcome, hFirst, hOutcome⟩ := attempt_task_of_accepted pending refused put durable view h.1
    obtain ⟨outcomes, hRest, hFailed⟩ := ih ((rowsOf plan key).foldl put view) h.2
    refine ⟨_, run_attemptEach_cons hFirst hRest, ?_⟩
    rw [failedKeys_cons, hFailed, hOutcome, List.filter_cons]
    split <;> rfl

theorem attemptEach_ended (keys : List κ) : ∃ outcomes,
    (attemptEach (task pending refused accepts put plan) keys).run ⟨durable, none⟩ =
        .ok outcomes ⟨durable, none⟩ ∧
      failedKeys outcomes = keys.filter (failsEnded plan) := by
  induction keys with
  | nil => exact ⟨[], rfl, rfl⟩
  | cons key keys ih =>
    obtain ⟨outcome, hFirst, hOutcome⟩ := attempt_task_ended pending refused accepts put plan durable key
    obtain ⟨outcomes, hRest, hFailed⟩ := ih
    refine ⟨_, run_attemptEach_cons hFirst hRest, ?_⟩
    rw [failedKeys_cons, hFailed, hOutcome, List.filter_cons]
    split <;> rfl

/-- From the first refused task on the session has ended, and nothing was stored. -/
theorem attemptEach_of_refused {before : List κ} {key : κ} (after : List κ) (view : σ)
    (hBefore : ∀ other ∈ before, isRefused accepts plan other = false)
    (hKey : isRefused accepts plan key = true) : ∃ outcomes,
    (attemptEach (task pending refused accepts put plan) (before ++ key :: after)).run
          ⟨durable, some view⟩ = .ok outcomes ⟨durable, none⟩ ∧
      failedKeys outcomes =
        before.filter (ownFailure accepts plan) ++ key :: after.filter (failsEnded plan) := by
  induction before generalizing view with
  | nil =>
    obtain ⟨outcome, hFirst, hOutcome⟩ := attempt_task_of_refused pending refused put durable view hKey
    obtain ⟨outcomes, hRest, hFailed⟩ :=
      attemptEach_ended pending refused accepts put plan durable after
    refine ⟨_, run_attemptEach_cons hFirst hRest, ?_⟩
    rw [failedKeys_cons, hFailed, hOutcome]
    rfl
  | cons other before ih =>
    rw [List.forall_mem_cons] at hBefore
    obtain ⟨outcome, hFirst, hOutcome⟩ := attempt_task_of_accepted pending refused put durable view
      hBefore.1
    obtain ⟨outcomes, hRest, hFailed⟩ := ih ((rowsOf plan other).foldl put view) hBefore.2
    refine ⟨_, run_attemptEach_cons hFirst hRest, ?_⟩
    rw [failedKeys_cons, hFailed, hOutcome, List.filter_cons]
    split <;> rfl

theorem exists_first_refused (keys : List κ) : (∀ key ∈ keys, isRefused accepts plan key = false) ∨
    ∃ before key after, keys = before ++ key :: after ∧ isRefused accepts plan key = true ∧
      ∀ other ∈ before, isRefused accepts plan other = false := by
  cases hFind : keys.find? (isRefused accepts plan) with
  | none =>
    left
    intro key hKey
    exact Bool.eq_false_iff.mpr (List.find?_eq_none.mp hFind key hKey)
  | some key =>
    obtain ⟨hKey, before, after, hKeys, hBefore⟩ := List.find?_eq_some_iff_append.mp hFind
    exact .inr ⟨before, key, after, hKeys, hKey, fun other hOther => by simpa using hBefore other hOther⟩

end Each

end UnitOfWork

end StockAiPlatform.Transaction
