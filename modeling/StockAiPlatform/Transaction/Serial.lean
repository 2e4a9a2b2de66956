import StockAiPlatform.Transaction.Atomic
import StockAiPlatform.Transaction.Interleaving

/-! # When two transactions come one after the other

Each of two transactions commits once, at its end. If one of them starts only
after the other has committed, or never commits, then any interleaving leaves
what the committed ones leave in the order of their commits.
-/

namespace StockAiPlatform.Transaction
set_option autoImplicit false

variable {σ κ ρ : Type} {τ : ρ → Type} {ε α β : Type}

namespace Program

/-- A commit is followed by nothing but the result. -/
def CommitsLast : Program σ κ ρ τ ε α → Prop
  | .done _ => True
  | .raise _ => True
  | .select _ next => ∀ s, (next s).CommitsLast
  | .write _ next => next.CommitsLast
  | .allocate _ next => ∀ n, (next n).CommitsLast
  | .ask _ next => ∀ reply, (next reply).CommitsLast
  | .commit next => ∃ value, next = .done value
  | .rollback next => next.CommitsLast

theorem CommitFree.commitsLast {p : Program σ κ ρ τ ε α} (hp : p.CommitFree) (f : α → β) :
    (p >>= fun value => committed >>= fun _ => pure (f value)).CommitsLast := by
  rw [bind_eq]
  induction p with
  | done value => exact ⟨f value, rfl⟩
  | raise error => trivial
  | select statement next ih => exact fun s => ih s (hp s)
  | write change next ih => exact ih hp
  | allocate key next ih => exact fun n => ih n (hp n)
  | ask request next ih => exact fun reply => ih reply (hp reply)
  | commit next ih => exact hp.elim
  | rollback next ih => exact ih hp

theorem served_committed {p : Program σ κ ρ τ ε α} (hp : p.CommitFree) (f : α → β)
    (answer : (request : ρ) → τ request) (db : σ) :
    (p >>= fun value => committed >>= fun _ => pure (f value)).served answer db =
      p.atomically answer db := by
  have hDurable := hp.durable_exec answer (.opened db)
  rw [served, exec_bind, atomically]
  cases h : p.exec answer (.opened db) with
  | mk outcome s =>
    rw [h] at hDurable
    cases outcome with
    | ok value => rfl
    | error error => exact hDurable

/-- What was asked before does not change what becomes durable. -/
theorem durable_exec_log (answer : (request : ρ) → τ request) (p : Program σ κ ρ τ ε α) (durable : σ)
    (overlay : σ → σ) (log log' : List (Exchange ρ τ)) :
    (p.exec answer ⟨durable, overlay, log⟩).2.durable =
      (p.exec answer ⟨durable, overlay, log'⟩).2.durable := by
  induction p generalizing durable overlay log log' with
  | done value => rfl
  | raise error => rfl
  | select statement next ih => exact ih (overlay durable) durable overlay log log'
  | write change next ih => exact ih durable (change ∘ overlay) log log'
  | allocate key next ih => exact ih (key (overlay durable)) durable overlay log log'
  | ask request next ih => exact ih (answer request) durable overlay _ _
  | commit next ih => exact ih (overlay durable) id log log'
  | rollback next ih => exact ih durable id log log'

end Program

/-- Who has committed, in the order of the commits. -/
def committers (trace : List (Bool × Event κ)) : List Bool :=
  trace.filterMap fun entry => match entry.2 with
    | .commit => some entry.1
    | .select _ | .write | .allocate | .ask | .rollback => none

/-- The first statement of `who` comes after the other's commit. -/
def StartsLate (who : Bool) (trace : List (Bool × Event κ)) : Prop :=
  ∃ earlier later, trace = earlier ++ later ∧ (!who, .commit) ∈ earlier ∧
    ∀ entry ∈ earlier, entry.1 = !who

/-- One of the two starts after the other's commit, or never commits. -/
def Apart (trace : List (Bool × Event κ)) : Prop :=
  ∃ who, (who, .commit) ∉ trace ∨ StartsLate who trace

section Trace

variable {trace : List (Bool × Event κ)} {who mover : Bool} {event : Event κ}

theorem committers_append (trace rest : List (Bool × Event κ)) :
    committers (trace ++ rest) = committers trace ++ committers rest := List.filterMap_append

theorem committers_quiet (h : event ≠ .commit) :
    committers (trace ++ [(mover, event)]) = committers trace := by
  rw [committers_append]
  cases event with
  | commit => contradiction
  | select statement => exact List.append_nil _
  | write | allocate | ask | rollback => exact List.append_nil _

theorem committers_commit :
    committers (trace ++ [(mover, .commit)]) = committers trace ++ [mover] := committers_append _ _

theorem mem_committers : who ∈ committers trace ↔ (who, .commit) ∈ trace := by
  rw [committers, List.mem_filterMap]
  constructor
  · rintro ⟨⟨mover, event⟩, hMem, hSome⟩
    cases event with
    | commit =>
      cases hSome
      exact hMem
    | select statement => cases hSome
    | write | allocate | ask | rollback => cases hSome
  · intro hMem
    exact ⟨_, hMem, rfl⟩

theorem startsLate_append {entry : Bool × Event κ} (h : StartsLate who (trace ++ [entry])) :
    StartsLate who trace ∨ (entry = (!who, .commit) ∧ ∀ old ∈ trace, old.1 = !who) := by
  obtain ⟨earlier, later, hTrace, hCommit, hOthers⟩ := h
  rcases List.eq_nil_or_concat later with rfl | ⟨later, last, rfl⟩
  · rw [List.append_nil] at hTrace
    subst hTrace
    have hOld : ∀ old ∈ trace, old.1 = !who := fun old hMem =>
      hOthers old (List.mem_append_left _ hMem)
    rcases List.mem_append.mp hCommit with hMem | hLast
    · exact .inl ⟨trace, [], (List.append_nil _).symm, hMem, hOld⟩
    · exact .inr ⟨(List.mem_singleton.mp hLast).symm, hOld⟩
  · rw [List.concat_eq_append, ← List.append_assoc] at hTrace
    obtain ⟨rfl, -⟩ := List.append_inj' hTrace rfl
    exact .inl ⟨earlier, later, rfl, hCommit, hOthers⟩

theorem Apart.of_append {entry : Bool × Event κ} (h : Apart (trace ++ [entry])) : Apart trace := by
  obtain ⟨who, hOpen | hLate⟩ := h
  · exact ⟨who, .inl fun hMem => hOpen (List.mem_append_left _ hMem)⟩
  · rcases startsLate_append hLate with hOld | ⟨-, hOthers⟩
    · exact ⟨who, .inr hOld⟩
    · refine ⟨who, .inl fun hMem => ?_⟩
      have hSame := hOthers _ hMem
      simp at hSame

end Trace

section Serial

variable (answers : Bool → (request : ρ) → τ request) (programs : Bool → Program σ κ ρ τ ε α)

/-- What each transaction leaves when it runs alone. -/
def alone (who : Bool) (db : σ) : σ := (programs who).served (answers who) db

/-- The thread goes on as its program does alone from `db`. -/
def Continues (who : Bool) (db : σ) (thread : Thread σ κ ρ τ ε α) : Prop :=
  thread.program.CommitsLast ∧
    (thread.program.exec (answers who) ⟨db, thread.overlay, []⟩).2.durable =
      alone answers programs who db

def Finished (thread : Thread σ κ ρ τ ε α) : Prop := ∃ value, thread.program = .done value

variable {answers programs} {who mover : Bool} {db durable start : σ}
  {thread thread' : Thread σ κ ρ τ ε α} {event : Event κ}

theorem Continues.next (h : Continues answers programs who db thread)
    (hNext : thread.next? (answers who) db = some (event, durable, thread')) :
    (event ≠ .commit ∧ durable = db ∧ Continues answers programs who db thread') ∨
      (event = .commit ∧ durable = alone answers programs who db ∧ Finished thread') := by
  obtain ⟨program, overlay⟩ := thread
  obtain ⟨hLast, hAlone⟩ := h
  cases program with
  | done value => contradiction
  | raise error => contradiction
  | select statement next =>
    obtain ⟨rfl, rfl, rfl⟩ := hNext
    exact .inl ⟨nofun, rfl, hLast _, hAlone⟩
  | write change next =>
    obtain ⟨rfl, rfl, rfl⟩ := hNext
    exact .inl ⟨nofun, rfl, hLast, hAlone⟩
  | allocate key next =>
    obtain ⟨rfl, rfl, rfl⟩ := hNext
    exact .inl ⟨nofun, rfl, hLast _, hAlone⟩
  | ask request next =>
    obtain ⟨rfl, rfl, rfl⟩ := hNext
    refine .inl ⟨nofun, rfl, hLast _, ?_⟩
    rw [← hAlone]
    exact Program.durable_exec_log _ _ _ _ _ _
  | commit next =>
    obtain ⟨value, rfl⟩ := hLast
    obtain ⟨rfl, rfl, rfl⟩ := hNext
    exact .inr ⟨rfl, hAlone, value, rfl⟩
  | rollback next =>
    obtain ⟨rfl, rfl, rfl⟩ := hNext
    exact .inl ⟨nofun, rfl, hLast, hAlone⟩

variable (answers programs)

/-- How far the two have come: no commit yet, one, or both in a row. -/
inductive Serial (start : σ) (w : World σ κ ρ τ ε α) : Prop where
  | neither (hDurable : w.durable = start) (hCommitted : committers w.trace = [])
    (hThreads : ∀ who, Continues answers programs who start (w.threads who) ∧
      ((∃ entry ∈ w.trace, entry.1 = who) ∨ w.threads who = ⟨programs who, id⟩))
  | one (who : Bool) (hDurable : w.durable = alone answers programs who start)
    (hCommitted : committers w.trace = [who]) (hFinished : Finished (w.threads who))
    (hEarly : ¬ StartsLate who w.trace)
    (hOther : Continues answers programs (!who) (alone answers programs who start) (w.threads !who) ∨
      ¬ StartsLate (!who) w.trace)
  | both (who : Bool)
    (hDurable : w.durable = alone answers programs (!who) (alone answers programs who start))
    (hCommitted : committers w.trace = [who, !who]) (hFinished : ∀ other, Finished (w.threads other))

variable {answers programs} {w : World σ κ ρ τ ε α}

theorem Serial.durable_eq (h : Serial answers programs start w) :
    w.durable = run (alone answers programs) (committers w.trace) start := by
  cases h with
  | neither hDurable hCommitted hThreads =>
    rw [hDurable, hCommitted]
    rfl
  | one who hDurable hCommitted hFinished hEarly hOther =>
    rw [hDurable, hCommitted]
    rfl
  | both who hDurable hCommitted hFinished =>
    rw [hDurable, hCommitted]
    rfl

theorem Finished.next?_eq_none (h : Finished thread) (answer : (request : ρ) → τ request) (db : σ) :
    thread.next? answer db = none := by
  obtain ⟨value, hDone⟩ := h
  rw [Thread.next?, hDone]

theorem durable_of_next? {answer : (request : ρ) → τ request}
    (hNext : thread.next? answer db = some (event, durable, thread')) (hEvent : event ≠ .commit) :
    durable = db := by
  obtain ⟨program, overlay⟩ := thread
  cases program with
  | done value => contradiction
  | raise error => contradiction
  | commit next =>
    obtain ⟨rfl, rfl, rfl⟩ := hNext
    contradiction
  | select statement next | write change next | allocate key next | ask request next
  | rollback next =>
    obtain ⟨rfl, rfl, rfl⟩ := hNext
    rfl

theorem serial_opened (hPrograms : ∀ who, (programs who).CommitsLast) (start : σ) :
    Serial answers programs start (.opened start programs) :=
  .neither rfl rfl fun who => ⟨⟨hPrograms who, rfl⟩, .inr rfl⟩

section Step

variable {trace : List (Bool × Event κ)}

/-- While nobody has committed, a commit ends one transaction and finds the other either untouched
or too early. -/
theorem serial_of_neither (hPrograms : ∀ who, (programs who).CommitsLast)
    (hDurable : w.durable = start) (hCommitted : committers w.trace = [])
    (hThreads : ∀ who, Continues answers programs who start (w.threads who) ∧
      ((∃ entry ∈ w.trace, entry.1 = who) ∨ w.threads who = ⟨programs who, id⟩))
    (hNext : (w.threads mover).next? (answers mover) w.durable = some (event, durable, thread)) :
    Serial answers programs start
      ⟨durable, Function.update w.threads mover thread, w.trace ++ [(mover, event)]⟩ := by
  rw [hDurable] at hNext
  have hUncommitted : ∀ who, (who, Event.commit) ∉ w.trace := by
    intro who hMem
    rw [← mem_committers, hCommitted] at hMem
    cases hMem
  have hNotLate : ∀ who, ¬ StartsLate who w.trace := by
    rintro who ⟨earlier, later, hTrace, hCommit, -⟩
    exact hUncommitted (!who) (hTrace ▸ List.mem_append_left _ hCommit)
  rcases (hThreads mover).1.next hNext with ⟨hEvent, rfl, hContinues⟩ | ⟨rfl, rfl, hFinished⟩
  · refine .neither rfl ((committers_quiet hEvent).trans hCommitted) fun who => ?_
    by_cases hWho : who = mover
    · subst hWho
      simp only [Function.update_self]
      exact ⟨hContinues, .inl ⟨_, List.mem_append_right _ (List.mem_singleton_self _), rfl⟩⟩
    · simp only [Function.update_of_ne hWho]
      refine ⟨(hThreads who).1, ?_⟩
      rcases (hThreads who).2 with ⟨entry, hEntry, hMoved⟩ | hUntouched
      · exact .inl ⟨entry, List.mem_append_left _ hEntry, hMoved⟩
      · exact .inr hUntouched
  · refine .one mover rfl (by rw [committers_commit, hCommitted]; rfl) ?_ ?_ ?_
    · simpa using hFinished
    · intro hLate
      rcases startsLate_append hLate with hOld | ⟨hEntry, -⟩
      · exact hNotLate mover hOld
      · simp at hEntry
    · rcases (hThreads !mover).2 with ⟨entry, hEntry, hMoved⟩ | hUntouched
      · refine .inr fun hLate => ?_
        rcases startsLate_append hLate with hOld | ⟨-, hOthers⟩
        · exact hNotLate _ hOld
        · have hSame := hOthers entry hEntry
          simp [hMoved] at hSame
      · have hKept : Function.update w.threads mover thread (!mover) = ⟨programs !mover, id⟩ := by
          rw [Function.update_of_ne (by simp), hUntouched]
        refine .inl ?_
        simp only [hKept]
        exact ⟨hPrograms _, rfl⟩

theorem startsLate_quiet (hEvent : event ≠ .commit) {other : Bool}
    (h : StartsLate other (trace ++ [(mover, event)])) : StartsLate other trace := by
  rcases startsLate_append h with hOld | ⟨hEntry, -⟩
  · exact hOld
  · exact absurd (Prod.mk.inj hEntry).2 hEvent

theorem not_apart_of_both (hCommitted : (who, Event.commit) ∈ trace) (hEarly : ¬ StartsLate who trace)
    (hStale : ¬ StartsLate (!who) trace) : ¬ Apart (trace ++ [(!who, Event.commit)]) := by
  rintro ⟨other, hOpen | hLate⟩
  · refine hOpen (List.mem_append.mpr ?_)
    by_cases hSame : other = who
    · exact .inl (hSame ▸ hCommitted)
    · obtain rfl := Bool.eq_not_of_ne hSame
      exact .inr (List.mem_singleton_self _)
  · rcases startsLate_append hLate with hOld | ⟨hEntry, hOthers⟩
    · by_cases hSame : other = who
      · exact hEarly (hSame ▸ hOld)
      · obtain rfl := Bool.eq_not_of_ne hSame
        exact hStale hOld
    · have hFirst := hOthers _ hCommitted
      have hLast := (Prod.mk.inj hEntry).1
      rw [← hLast] at hFirst
      simp at hFirst

/-- After one commit the other transaction runs alone, or its commit comes too soon. -/
theorem serial_of_one (hDurable : w.durable = alone answers programs who start)
    (hCommitted : committers w.trace = [who]) (hFinished : Finished (w.threads who))
    (hEarly : ¬ StartsLate who w.trace)
    (hOther : Continues answers programs (!who) (alone answers programs who start) (w.threads !who) ∨
      ¬ StartsLate (!who) w.trace)
    (hNext : (w.threads !who).next? (answers !who) w.durable = some (event, durable, thread)) :
    Serial answers programs start
        ⟨durable, Function.update w.threads (!who) thread, w.trace ++ [(!who, event)]⟩ ∨
      ¬ Apart (w.trace ++ [(!who, event)]) := by
  have hKept : Finished (Function.update w.threads (!who) thread who) := by
    rw [Function.update_of_ne (by simp)]
    exact hFinished
  by_cases hEvent : event = .commit
  · subst hEvent
    rcases hOther with hContinues | hStale
    · rw [hDurable] at hNext
      rcases hContinues.next hNext with ⟨hQuiet, -⟩ | ⟨-, rfl, hDone⟩
      · contradiction
      · refine .inl (.both who rfl (by rw [committers_commit, hCommitted]; rfl) fun other => ?_)
        by_cases hSame : other = who
        · rw [hSame]
          exact hKept
        · obtain rfl := Bool.eq_not_of_ne hSame
          simpa using hDone
    · have hWho : (who, Event.commit) ∈ w.trace := mem_committers.mp (by rw [hCommitted]; simp)
      exact .inr (not_apart_of_both hWho hEarly hStale)
  · have hSame := durable_of_next? hNext hEvent
    subst hSame
    refine .inl (.one who hDurable ((committers_quiet hEvent).trans hCommitted) hKept
      (fun hLate => hEarly (startsLate_quiet hEvent hLate)) ?_)
    rcases hOther with hContinues | hStale
    · rw [hDurable] at hNext
      rcases hContinues.next hNext with ⟨-, -, hGoesOn⟩ | ⟨hCommit, -⟩
      · exact .inl (by simpa using hGoesOn)
      · contradiction
    · exact .inr fun hLate => hStale (startsLate_quiet hEvent hLate)

end Step

theorem serial_step (hPrograms : ∀ who, (programs who).CommitsLast) (mover : Bool)
    (h : Serial answers programs start w ∨ ¬ Apart w.trace) :
    Serial answers programs start (w.step answers mover) ∨
      ¬ Apart (w.step answers mover).trace := by
  unfold World.step
  cases hNext : (w.threads mover).next? (answers mover) w.durable with
  | none => exact h
  | some stepped =>
    obtain ⟨event, durable, thread⟩ := stepped
    rcases h with hSerial | hNotApart
    · cases hSerial with
      | neither hDurable hCommitted hThreads =>
        exact .inl (serial_of_neither hPrograms hDurable hCommitted hThreads hNext)
      | one who hDurable hCommitted hFinished hEarly hOther =>
        by_cases hWho : mover = who
        · subst hWho
          rw [hFinished.next?_eq_none] at hNext
          contradiction
        · obtain rfl := Bool.eq_not_of_ne hWho
          exact serial_of_one hDurable hCommitted hFinished hEarly hOther hNext
      | both who hDurable hCommitted hFinished =>
        rw [(hFinished mover).next?_eq_none] at hNext
        contradiction
    · exact .inr fun hApart => hNotApart hApart.of_append

theorem serial_run (hPrograms : ∀ who, (programs who).CommitsLast) (start : σ)
    (schedule : List Bool)
    (hApart : Apart (run (World.step answers) schedule (.opened start programs)).trace) :
    Serial answers programs start (run (World.step answers) schedule (.opened start programs)) := by
  have hRun := run_invariant (fun w => Serial answers programs start w ∨ ¬ Apart w.trace)
    (fun mover _ h => serial_step hPrograms mover h) schedule
    (.inl (serial_opened hPrograms start))
  rcases hRun with hSerial | hNotApart
  · exact hSerial
  · exact absurd hApart hNotApart

/-- Any interleaving that keeps the two apart leaves what the committed ones leave, one after the
other. -/
theorem durable_run_of_apart (hPrograms : ∀ who, (programs who).CommitsLast) (start : σ)
    (schedule : List Bool)
    (hApart : Apart (run (World.step answers) schedule (.opened start programs)).trace) :
    (run (World.step answers) schedule (.opened start programs)).durable =
      run (alone answers programs)
        (committers (run (World.step answers) schedule (.opened start programs)).trace) start :=
  (serial_run hPrograms start schedule hApart).durable_eq

theorem trace_step (mover : Bool) (w : World σ κ ρ τ ε α) :
    (w.step answers mover).trace = w.trace ∨
      ∃ event, (w.step answers mover).trace = w.trace ++ [(mover, event)] := by
  unfold World.step
  cases (w.threads mover).next? (answers mover) w.durable with
  | none => exact .inl rfl
  | some stepped => exact .inr ⟨stepped.1, rfl⟩

/-- A schedule that keeps the two apart to its end keeps them apart all the way, and the store only
moves on by whole transactions. -/
theorem durable_run_append_of_apart (hPrograms : ∀ who, (programs who).CommitsLast) (start : σ)
    (first second : List Bool)
    (hApart : Apart (run (World.step answers) (first ++ second) (.opened start programs)).trace) :
    ∃ later, (run (World.step answers) (first ++ second) (.opened start programs)).durable =
      run (alone answers programs) later
        (run (World.step answers) first (.opened start programs)).durable := by
  have hTrace : ∀ (schedule : List Bool) (w : World σ κ ρ τ ε α),
      Apart (run (World.step answers) schedule w).trace → Apart w.trace ∧
        ∃ later, committers (run (World.step answers) schedule w).trace =
          committers w.trace ++ later := by
    intro schedule
    induction schedule with
    | nil => exact fun w hApart => ⟨hApart, [], (List.append_nil _).symm⟩
    | cons mover schedule ih =>
      intro w hApart
      obtain ⟨hNext, later, hLater⟩ := ih (w.step answers mover) hApart
      rcases trace_step mover w with hSame | ⟨event, hGrown⟩
      · rw [hSame] at hNext hLater
        exact ⟨hNext, later, hLater⟩
      · rw [hGrown] at hNext hLater
        refine ⟨hNext.of_append, committers [(mover, event)] ++ later, ?_⟩
        rw [← List.append_assoc, ← committers_append]
        exact hLater
  rw [run_append] at hApart
  obtain ⟨hFirst, later, hLater⟩ := hTrace second _ hApart
  refine ⟨later, ?_⟩
  rw [← run_append] at hApart hLater
  rw [durable_run_of_apart hPrograms start _ hApart, hLater, run_append,
    durable_run_of_apart hPrograms start first hFirst]

end Serial

end StockAiPlatform.Transaction
