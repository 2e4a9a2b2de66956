import Mathlib.Data.List.Induction
import StockAiPlatform.Transaction.Serial

/-! # Transactions behind a gate

Each of two transactions looks at a gate before anything else it does, asks at
most once, and asks nothing if it finds the gate shut. What it finds is what
is committed at that moment: between the look and the asking the other may
still shut the gate.
-/

namespace StockAiPlatform.Transaction
set_option autoImplicit false

variable {σ κ ρ : Type} {τ : ρ → Type} {ε α β : Type}

namespace Program

variable (gate : κ → Bool) (shut : σ → Prop)

/-- Asks nothing, and has done with the gate. -/
def Silent : Program σ κ ρ τ ε α → Prop
  | .done _ => True
  | .raise _ => True
  | .select statement next => gate statement = false ∧ ∀ s, (next s).Silent
  | .write _ next => next.Silent
  | .allocate _ next => ∀ n, (next n).Silent
  | .ask _ _ => False
  | .commit next => next.Silent
  | .rollback next => next.Silent

def AsksOnce : Program σ κ ρ τ ε α → Prop
  | .done _ => True
  | .raise _ => True
  | .select statement next => gate statement = false ∧ ∀ s, (next s).AsksOnce
  | .write _ next => next.AsksOnce
  | .allocate _ next => ∀ n, (next n).AsksOnce
  | .ask _ next => ∀ reply, (next reply).Silent gate
  | .commit next => next.AsksOnce
  | .rollback next => next.AsksOnce

/-- Looks at the gate first, and does no more than end if it finds it shut. -/
def Guarded : Program σ κ ρ τ ε α → Prop
  | .done _ => True
  | .raise _ => True
  | .select statement next => ∀ s,
    if gate statement then (next s).AsksOnce gate ∧ (shut s → (next s).Silent gate)
    else (next s).Guarded
  | .write _ _ => False
  | .allocate _ _ => False
  | .ask _ _ => False
  | .commit next => next.Silent gate
  | .rollback _ => False

variable {gate shut} {p : Program σ κ ρ τ ε α} {f : α → Program σ κ ρ τ ε β}

theorem Silent.asksOnce (hp : p.Silent gate) : p.AsksOnce gate := by
  induction p with
  | done value => trivial
  | raise error => trivial
  | select statement next ih => exact ⟨hp.1, fun s => ih s (hp.2 s)⟩
  | write change next ih => exact ih hp
  | allocate key next ih => exact fun n => ih n (hp n)
  | ask request next ih => exact hp.elim
  | commit next ih => exact ih hp
  | rollback next ih => exact ih hp

theorem Silent.bind (hp : p.Silent gate) (hf : ∀ value, (f value).Silent gate) :
    (p >>= f).Silent gate := by
  rw [bind_eq]
  induction p with
  | done value => exact hf value
  | raise error => trivial
  | select statement next ih => exact ⟨hp.1, fun s => ih s (hp.2 s)⟩
  | write change next ih => exact ih hp
  | allocate key next ih => exact fun n => ih n (hp n)
  | ask request next ih => exact hp.elim
  | commit next ih => exact ih hp
  | rollback next ih => exact ih hp

theorem Silent.bind_asksOnce (hp : p.Silent gate) (hf : ∀ value, (f value).AsksOnce gate) :
    (p >>= f).AsksOnce gate := by
  rw [bind_eq]
  induction p with
  | done value => exact hf value
  | raise error => trivial
  | select statement next ih => exact ⟨hp.1, fun s => ih s (hp.2 s)⟩
  | write change next ih => exact ih hp
  | allocate key next ih => exact fun n => ih n (hp n)
  | ask request next ih => exact hp.elim
  | commit next ih => exact ih hp
  | rollback next ih => exact ih hp

theorem AsksOnce.bind (hp : p.AsksOnce gate) (hf : ∀ value, (f value).Silent gate) :
    (p >>= f).AsksOnce gate := by
  rw [bind_eq]
  induction p with
  | done value => exact (hf value).asksOnce
  | raise error => trivial
  | select statement next ih => exact ⟨hp.1, fun s => ih s (hp.2 s)⟩
  | write change next ih => exact ih hp
  | allocate key next ih => exact fun n => ih n (hp n)
  | ask request next ih => exact fun reply => Silent.bind (hp reply) hf
  | commit next ih => exact ih hp
  | rollback next ih => exact ih hp

theorem Silent.ite {c : Prop} [Decidable c] {q : Program σ κ ρ τ ε α} (hp : p.Silent gate)
    (hq : q.Silent gate) : (if c then p else q).Silent gate := by
  split
  · exact hp
  · exact hq

theorem silent_query_bind {γ : Type} {statement : κ} {g : σ → γ} {f : γ → Program σ κ ρ τ ε β}
    (hGate : gate statement = false) (h : ∀ s, (f (g s)).Silent gate) :
    (query statement g >>= f).Silent gate := ⟨hGate, h⟩

theorem guarded_query_bind {γ : Type} {statement : κ} {g : σ → γ} {f : γ → Program σ κ ρ τ ε β}
    (hGate : gate statement = false) (h : ∀ s, (f (g s)).Guarded gate shut) :
    (query statement g >>= f).Guarded gate shut := by
  intro s
  rw [if_neg (by simp [hGate])]
  exact h s

theorem guarded_gate_bind {γ : Type} {statement : κ} {g : σ → γ} {f : γ → Program σ κ ρ τ ε β}
    (hGate : gate statement = true) (hOpen : ∀ s, (f (g s)).AsksOnce gate)
    (hShut : ∀ s, shut s → (f (g s)).Silent gate) :
    (query statement g >>= f).Guarded gate shut := by
  intro s
  rw [if_pos hGate]
  exact ⟨hOpen s, hShut s⟩

end Program

def Event.isAsk : Event κ → Bool
  | .ask => true
  | .select _ | .write | .allocate | .commit | .rollback => false

/-- How often `who` has asked. -/
def asksBy (who : Bool) (trace : List (Bool × Event κ)) : Nat :=
  trace.countP fun entry => entry.1 == who && entry.2.isAsk

theorem asksBy_append (who mover : Bool) (event : Event κ) (trace : List (Bool × Event κ)) :
    asksBy who (trace ++ [(mover, event)]) =
      asksBy who trace + if mover = who ∧ event.isAsk = true then 1 else 0 := by
  rw [asksBy, List.countP_append, List.countP_singleton]
  simp [asksBy]

theorem length_asks (trace : List (Bool × Event κ)) :
    trace.countP (fun entry => entry.2.isAsk) = asksBy true trace + asksBy false trace := by
  induction trace with
  | nil => rfl
  | cons entry trace ih =>
    obtain ⟨mover, event⟩ := entry
    rw [asksBy, asksBy, List.countP_cons, List.countP_cons, List.countP_cons, ih, asksBy, asksBy]
    cases mover <;> cases event.isAsk <;> simp <;> omega

section Gate

variable (gate : κ → Bool) (shut : σ → Prop)

/-- Before the gate with nothing staged, past it and yet to ask, or done with asking. -/
inductive Stage (asked : Nat) (thread : Thread σ κ ρ τ ε α) : Prop where
  | before (hProgram : thread.program.Guarded gate shut) (hOverlay : thread.overlay = id)
    (hAsked : asked = 0)
  | past (hProgram : thread.program.AsksOnce gate) (hAsked : asked = 0)
  | silent (hProgram : thread.program.Silent gate) (hAsked : asked ≤ 1)

variable {gate shut} {answer : (request : ρ) → τ request} {asked : Nat} {db durable : σ}
  {thread thread' : Thread σ κ ρ τ ε α} {event : Event κ}

theorem silent_next (h : thread.program.Silent gate)
    (hNext : thread.next? answer db = some (event, durable, thread')) :
    thread'.program.Silent gate ∧ event.isAsk = false := by
  obtain ⟨program, overlay⟩ := thread
  cases program with
  | done value => contradiction
  | raise error => contradiction
  | select statement next =>
    obtain ⟨rfl, rfl, rfl⟩ := hNext
    exact ⟨h.2 _, rfl⟩
  | write change next =>
    obtain ⟨rfl, rfl, rfl⟩ := hNext
    exact ⟨h, rfl⟩
  | allocate key next =>
    obtain ⟨rfl, rfl, rfl⟩ := hNext
    exact ⟨h _, rfl⟩
  | ask request next => exact h.elim
  | commit next =>
    obtain ⟨rfl, rfl, rfl⟩ := hNext
    exact ⟨h, rfl⟩
  | rollback next =>
    obtain ⟨rfl, rfl, rfl⟩ := hNext
    exact ⟨h, rfl⟩

theorem asksOnce_next (h : thread.program.AsksOnce gate)
    (hNext : thread.next? answer db = some (event, durable, thread')) :
    if event.isAsk then thread'.program.Silent gate else thread'.program.AsksOnce gate := by
  obtain ⟨program, overlay⟩ := thread
  cases program with
  | done value => contradiction
  | raise error => contradiction
  | select statement next =>
    obtain ⟨rfl, rfl, rfl⟩ := hNext
    exact h.2 _
  | write change next =>
    obtain ⟨rfl, rfl, rfl⟩ := hNext
    exact h
  | allocate key next =>
    obtain ⟨rfl, rfl, rfl⟩ := hNext
    exact h _
  | ask request next =>
    obtain ⟨rfl, rfl, rfl⟩ := hNext
    exact h _
  | commit next =>
    obtain ⟨rfl, rfl, rfl⟩ := hNext
    exact h
  | rollback next =>
    obtain ⟨rfl, rfl, rfl⟩ := hNext
    exact h

theorem Stage.next (h : Stage gate shut asked thread)
    (hNext : thread.next? answer db = some (event, durable, thread')) :
    Stage gate shut (asked + if event.isAsk then 1 else 0) thread' := by
  cases h with
  | silent hProgram hAsked =>
    obtain ⟨hSilent, hQuiet⟩ := silent_next hProgram hNext
    rw [hQuiet]
    exact .silent hSilent hAsked
  | past hProgram hAsked =>
    have hRest := asksOnce_next hProgram hNext
    cases hAsk : event.isAsk with
    | true =>
      rw [hAsk] at hRest
      exact .silent hRest (by rw [hAsked]; decide)
    | false =>
      rw [hAsk] at hRest
      exact .past hRest hAsked
  | before hProgram hOverlay hAsked =>
    obtain ⟨program, overlay⟩ := thread
    cases program with
    | done value => contradiction
    | raise error => contradiction
    | write change next => exact hProgram.elim
    | allocate key next => exact hProgram.elim
    | ask request next => exact hProgram.elim
    | rollback next => exact hProgram.elim
    | commit next =>
      obtain ⟨rfl, rfl, rfl⟩ := hNext
      exact .silent hProgram (by simp [hAsked, Event.isAsk])
    | select statement next =>
      obtain ⟨rfl, rfl, rfl⟩ := hNext
      have hRest := hProgram (overlay db)
      split at hRest
      · exact .past hRest.1 hAsked
      · exact .before hRest hOverlay hAsked

/-- A look at a shut gate is the end of it. -/
theorem Stage.next_of_shut (h : Stage gate shut asked thread) (hShut : shut db) {statement : κ}
    (hGate : gate statement = true)
    (hNext : thread.next? answer db = some (.select statement, durable, thread')) :
    asked = 0 ∧ thread'.program.Silent gate := by
  obtain ⟨program, overlay⟩ := thread
  cases program with
  | select asks next =>
    obtain ⟨rfl, rfl, rfl⟩ := hNext
    cases h with
    | silent hProgram hAsked =>
      rw [hProgram.1] at hGate
      cases hGate
    | past hProgram hAsked =>
      rw [hProgram.1] at hGate
      cases hGate
    | before hProgram hOverlay hAsked =>
      have hRest := hProgram db
      rw [if_pos hGate] at hRest
      obtain rfl := hOverlay
      exact ⟨hAsked, hRest.2 hShut⟩
  | done value | raise error | write change next | allocate key next | ask request next
  | commit next | rollback next => cases hNext

variable {answers : Bool → (request : ρ) → τ request} {programs : Bool → Program σ κ ρ τ ε α}
  {w : World σ κ ρ τ ε α} {start : σ}

theorem stage_step (h : ∀ who, Stage gate shut (asksBy who w.trace) (w.threads who)) (mover who : Bool) :
    Stage gate shut (asksBy who (w.step answers mover).trace) ((w.step answers mover).threads who) := by
  unfold World.step
  cases hNext : (w.threads mover).next? (answers mover) w.durable with
  | none => exact h who
  | some stepped =>
    obtain ⟨event, durable, thread⟩ := stepped
    simp only
    rw [asksBy_append]
    by_cases hWho : who = mover
    · subst hWho
      rw [Function.update_self]
      simpa using (h who).next hNext
    · rw [Function.update_of_ne hWho, if_neg fun hMoved => hWho hMoved.1.symm]
      exact h who

variable (answers start) in
theorem stage_run (hGuarded : ∀ who, (programs who).Guarded gate shut) (schedule : List Bool) :
    ∀ who, Stage gate shut
      (asksBy who (run (World.step answers) schedule (.opened start programs)).trace)
      ((run (World.step answers) schedule (.opened start programs)).threads who) :=
  run_invariant (fun w : World σ κ ρ τ ε α =>
      ∀ who, Stage gate shut (asksBy who w.trace) (w.threads who))
    (fun mover _ h who => stage_step h mover who) schedule
    fun who => .before (hGuarded who) rfl rfl

variable (answers start) in
theorem asksBy_le_one (hGuarded : ∀ who, (programs who).Guarded gate shut) (schedule : List Bool)
    (who : Bool) :
    asksBy who (run (World.step answers) schedule (.opened start programs)).trace ≤ 1 := by
  cases stage_run answers start hGuarded schedule who with
  | before hProgram hOverlay hAsked => omega
  | past hProgram hAsked => omega
  | silent hProgram hAsked => exact hAsked

/-- `who` has nothing more to ask, and has not asked. -/
def Quieted (gate : κ → Bool) (who : Bool) (w : World σ κ ρ τ ε α) : Prop :=
  (w.threads who).program.Silent gate ∧ asksBy who w.trace = 0

theorem quieted_step {who : Bool} (h : Quieted gate who w) (mover : Bool) :
    Quieted gate who (w.step answers mover) := by
  unfold World.step
  cases hNext : (w.threads mover).next? (answers mover) w.durable with
  | none => exact h
  | some stepped =>
    obtain ⟨event, durable, thread⟩ := stepped
    unfold Quieted
    simp only
    rw [asksBy_append, h.2]
    by_cases hWho : who = mover
    · subst hWho
      obtain ⟨hSilent, hQuiet⟩ := silent_next h.1 hNext
      rw [Function.update_self, hQuiet]
      exact ⟨hSilent, by simp⟩
    · rw [Function.update_of_ne hWho, if_neg fun hMoved => hWho hMoved.1.symm]
      exact ⟨h.1, rfl⟩

variable (answers programs)

/-- At some point of the schedule it is up to `who` to look at the gate, and what is committed
shuts it. -/
def FindsShut (gate : κ → Bool) (shut : σ → Prop) (start : σ) (schedule : List Bool) (who : Bool) :
    Prop :=
  ∃ first rest statement, schedule = first ++ who :: rest ∧
    (∃ next, ((run (World.step answers) first (.opened start programs)).threads who).program =
      .select statement next) ∧
    gate statement = true ∧ shut (run (World.step answers) first (.opened start programs)).durable

variable {answers programs} {schedule : List Bool} {who : Bool}

theorem asksBy_eq_zero_of_findsShut (hGuarded : ∀ who, (programs who).Guarded gate shut)
    (h : FindsShut answers programs gate shut start schedule who) :
    asksBy who (run (World.step answers) schedule (.opened start programs)).trace = 0 := by
  obtain ⟨first, rest, statement, rfl, ⟨next, hProgram⟩, hGate, hShut⟩ := h
  have hStage := stage_run answers start hGuarded first who
  rw [run_append, run]
  generalize run (World.step answers) first (.opened start programs) = w at hProgram hShut hStage
  have hNext : (w.threads who).next? (answers who) w.durable = some (.select statement, w.durable,
      ⟨next ((w.threads who).overlay w.durable), (w.threads who).overlay⟩) := by
    rw [Thread.next?, hProgram]
  obtain ⟨hAsked, hSilent⟩ := hStage.next_of_shut hShut hGate hNext
  have hLooked : Quieted gate who (w.step answers who) := by
    rw [World.step, hNext]
    refine ⟨?_, ?_⟩
    · simp only
      rw [Function.update_self]
      exact hSilent
    · simp only
      rw [asksBy_append, hAsked]
      simp [Event.isAsk]
  exact (run_invariant (Quieted gate who) (fun mover _ hQuiet => quieted_step hQuiet mover) rest
    hLooked).2

/-- One look at a shut gate, and the two have asked once at most. -/
theorem asks_le_one_of_findsShut (hGuarded : ∀ who, (programs who).Guarded gate shut)
    (h : FindsShut answers programs gate shut start schedule who) :
    (run (World.step answers) schedule (.opened start programs)).trace.countP
      (fun entry => entry.2.isAsk) ≤ 1 := by
  have hNone := asksBy_eq_zero_of_findsShut hGuarded h
  have hOther := asksBy_le_one answers start hGuarded schedule !who
  rw [length_asks]
  cases who
  · rw [Bool.not_false] at hOther
    omega
  · rw [Bool.not_true] at hOther
    omega

/-! ## A look after the other's commit -/

theorem program_of_select {statement : κ}
    (hNext : thread.next? answer db = some (.select statement, durable, thread')) :
    ∃ next, thread.program = .select statement next := by
  obtain ⟨program, overlay⟩ := thread
  cases program with
  | select asks next =>
    obtain ⟨rfl, rfl, rfl⟩ := hNext
    exact ⟨next, rfl⟩
  | done value | raise error | write change next | allocate key next | ask request next
  | commit next | rollback next => cases hNext

theorem look_of_readsLate (schedule : List Bool)
    (h : ReadsLate gate who (run (World.step answers) schedule (.opened start programs)).trace) :
    ∃ first rest statement, schedule = first ++ who :: rest ∧
      (∃ next, ((run (World.step answers) first (.opened start programs)).threads who).program =
        .select statement next) ∧
      gate statement = true ∧
      (!who, .commit) ∈ (run (World.step answers) first (.opened start programs)).trace := by
  induction schedule using List.reverseRecOn with
  | nil =>
    obtain ⟨earlier, statement, later, hTrace, -, -⟩ := h
    simp [run, World.opened] at hTrace
  | append_singleton schedule mover ih =>
    have hEarlier : ReadsLate gate who
        (run (World.step answers) schedule (.opened start programs)).trace →
        ∃ first rest statement, schedule ++ [mover] = first ++ who :: rest ∧
          (∃ next, ((run (World.step answers) first (.opened start programs)).threads who).program =
            .select statement next) ∧
          gate statement = true ∧
          (!who, .commit) ∈ (run (World.step answers) first (.opened start programs)).trace := by
      intro hOld
      obtain ⟨first, rest, statement, rfl, hLook⟩ := ih hOld
      exact ⟨first, rest ++ [mover], statement, by simp, hLook⟩
    rw [run_append, run, run, World.step] at h
    cases hNext : ((run (World.step answers) schedule (.opened start programs)).threads mover).next?
        (answers mover) (run (World.step answers) schedule (.opened start programs)).durable with
    | none =>
      rw [hNext] at h
      exact hEarlier h
    | some stepped =>
      obtain ⟨event, durable, thread⟩ := stepped
      rw [hNext] at h
      rcases readsLate_append h with hOld | ⟨rfl, ⟨statement, rfl, hGate⟩, hCommit⟩
      · exact hEarlier hOld
      · exact ⟨schedule, [], statement, rfl, program_of_select hNext, hGate, hCommit⟩

theorem commitsLast_next (h : thread.program.CommitsLast)
    (hNext : thread.next? answer db = some (event, durable, thread')) :
    thread'.program.CommitsLast ∧ (event = .commit → Finished thread') := by
  obtain ⟨program, overlay⟩ := thread
  cases program with
  | done value => contradiction
  | raise error => contradiction
  | select statement next =>
    obtain ⟨rfl, rfl, rfl⟩ := hNext
    exact ⟨h _, nofun⟩
  | write change next =>
    obtain ⟨rfl, rfl, rfl⟩ := hNext
    exact ⟨h, nofun⟩
  | allocate key next =>
    obtain ⟨rfl, rfl, rfl⟩ := hNext
    exact ⟨h _, nofun⟩
  | ask request next =>
    obtain ⟨rfl, rfl, rfl⟩ := hNext
    exact ⟨h _, nofun⟩
  | commit next =>
    obtain ⟨value, rfl⟩ := h
    obtain ⟨rfl, rfl, rfl⟩ := hNext
    exact ⟨trivial, fun _ => ⟨value, rfl⟩⟩
  | rollback next =>
    obtain ⟨rfl, rfl, rfl⟩ := hNext
    exact ⟨h, nofun⟩

/-- A transaction that has committed is over. -/
theorem finished_of_committed (hPrograms : ∀ who, (programs who).CommitsLast) (schedule : List Bool) :
    ∀ who, ((run (World.step answers) schedule (.opened start programs)).threads who).program.CommitsLast ∧
      ((who, .commit) ∈ (run (World.step answers) schedule (.opened start programs)).trace →
        Finished ((run (World.step answers) schedule (.opened start programs)).threads who)) := by
  refine run_invariant (s := .opened start programs) (fun w : World σ κ ρ τ ε α =>
    ∀ who, (w.threads who).program.CommitsLast ∧
      ((who, .commit) ∈ w.trace → Finished (w.threads who))) (fun mover w h who => ?_) schedule
    fun who => ⟨hPrograms who, fun hMem => absurd hMem List.not_mem_nil⟩
  unfold World.step
  cases hNext : (w.threads mover).next? (answers mover) w.durable with
  | none => exact h who
  | some stepped =>
    obtain ⟨event, durable, thread⟩ := stepped
    simp only
    by_cases hWho : who = mover
    · subst hWho
      rw [Function.update_self]
      obtain ⟨hLast, hDone⟩ := commitsLast_next (h who).1 hNext
      refine ⟨hLast, fun hMem => ?_⟩
      rcases List.mem_append.mp hMem with hOld | hNew
      · rw [((h who).2 hOld).next?_eq_none] at hNext
        cases hNext
      · exact hDone (Prod.mk.inj (List.mem_singleton.mp hNew)).2.symm
    · rw [Function.update_of_ne hWho]
      refine ⟨(h who).1, fun hMem => (h who).2 ?_⟩
      rcases List.mem_append.mp hMem with hOld | hNew
      · exact hOld
      · exact absurd (Prod.mk.inj (List.mem_singleton.mp hNew)).1 hWho

/-- To look after the other has committed what shuts the gate is to find it shut. -/
theorem findsShut_of_readsLate (hPrograms : ∀ who, (programs who).CommitsLast)
    (hLate : ReadsLate gate who (run (World.step answers) schedule (.opened start programs)).trace)
    (hShut : shut (alone answers programs (!who) start)) :
    FindsShut answers programs gate shut start schedule who := by
  obtain ⟨first, rest, statement, hSchedule, ⟨next, hProgram⟩, hGate, hCommit⟩ :=
    look_of_readsLate schedule hLate
  refine ⟨first, rest, statement, hSchedule, ⟨next, hProgram⟩, hGate, ?_⟩
  have hOpen : (who, .commit) ∉ (run (World.step answers) first (.opened start programs)).trace := by
    intro hMem
    obtain ⟨value, hDone⟩ := (finished_of_committed hPrograms first who).2 hMem
    rw [hProgram] at hDone
    cases hDone
  have hSerial : Serial answers programs start (run (World.step answers) first (.opened start programs)) :=
    serial_run hPrograms start first ⟨who, .inl hOpen⟩
  rw [← mem_committers] at hOpen hCommit
  cases hSerial with
  | neither hDurable hCommitted hThreads =>
    rw [hCommitted] at hCommit
    cases hCommit
  | one other hDurable hCommitted hFinished hEarly hOther =>
    rw [hCommitted, List.mem_singleton] at hCommit
    rw [hDurable, ← hCommit]
    exact hShut
  | both other hDurable hCommitted hFinished =>
    rw [hCommitted] at hOpen
    cases who <;> cases other <;> simp at hOpen

end Gate

end StockAiPlatform.Transaction
