import Mathlib.Algebra.Order.Ring.Int
import Mathlib.Logic.Function.Basic
import StockAiPlatform.Transaction.Run
import StockAiPlatform.Transaction.Trail

/-! # Two transactions on one store

Two programs in sessions of their own, step by step in any order. A statement
sees what is committed and its own session's writes; nothing is locked. The
second half bounds what two transactions add to a measure that each of them
reads once and tops up.
-/

namespace StockAiPlatform.Transaction
set_option autoImplicit false

inductive Event (κ : Type) where
  | select (statement : κ)
  | write
  | allocate
  | ask
  | commit
  | rollback
  deriving DecidableEq, Repr

/-- What is left of a program, and what its session has staged. -/
structure Thread (σ κ ρ : Type) (τ : ρ → Type) (ε α : Type) where
  program : Program σ κ ρ τ ε α
  overlay : σ → σ

structure World (σ κ ρ : Type) (τ : ρ → Type) (ε α : Type) where
  durable : σ
  threads : Bool → Thread σ κ ρ τ ε α
  trace : List (Bool × Event κ)

variable {σ κ ρ : Type} {τ : ρ → Type} {ε α β : Type}

namespace Thread

/-- The next step of a thread on the committed state, if it has one. -/
def next? (answer : (request : ρ) → τ request) (durable : σ) (thread : Thread σ κ ρ τ ε α) :
    Option (Event κ × σ × Thread σ κ ρ τ ε α) :=
  match thread.program with
  | .done _ => none
  | .raise _ => none
  | .select statement next =>
    some (.select statement, durable, ⟨next (thread.overlay durable), thread.overlay⟩)
  | .write change next => some (.write, durable, ⟨next, change ∘ thread.overlay⟩)
  | .allocate key next =>
    some (.allocate, durable, ⟨next (key (thread.overlay durable)), thread.overlay⟩)
  | .ask request next => some (.ask, durable, ⟨next (answer request), thread.overlay⟩)
  | .commit next => some (.commit, thread.overlay durable, ⟨next, id⟩)
  | .rollback next => some (.rollback, durable, ⟨next, id⟩)

def isFinished (thread : Thread σ κ ρ τ ε α) : Bool :=
  match thread.program with
  | .done _ | .raise _ => true
  | _ => false

end Thread

namespace World

def opened (durable : σ) (programs : Bool → Program σ κ ρ τ ε α) : World σ κ ρ τ ε α :=
  ⟨durable, fun who => ⟨programs who, id⟩, []⟩

def step (answers : Bool → (request : ρ) → τ request) (who : Bool) (w : World σ κ ρ τ ε α) :
    World σ κ ρ τ ε α :=
  match (w.threads who).next? (answers who) w.durable with
  | none => w
  | some (event, durable, thread) =>
    ⟨durable, Function.update w.threads who thread, w.trace ++ [(who, event)]⟩

end World

/-- One of the reads of `who` comes after the other's commit. -/
def ReadsLate (reads : κ → Bool) (who : Bool) (trace : List (Bool × Event κ)) : Prop :=
  ∃ earlier statement later, trace = earlier ++ (who, .select statement) :: later ∧
    reads statement = true ∧ (!who, .commit) ∈ earlier

theorem readsLate_append {reads : κ → Bool} {who mover : Bool} {event : Event κ}
    {trace : List (Bool × Event κ)} (h : ReadsLate reads who (trace ++ [(mover, event)])) :
    ReadsLate reads who trace ∨
      mover = who ∧ (∃ statement, event = .select statement ∧ reads statement = true) ∧
        (!who, .commit) ∈ trace := by
  obtain ⟨earlier, statement, later, hTrace, hReads, hCommit⟩ := h
  rcases List.eq_nil_or_concat later with rfl | ⟨later, last, rfl⟩
  · obtain ⟨rfl, hLast⟩ := List.append_inj' hTrace rfl
    obtain ⟨rfl, rfl⟩ := Prod.mk.inj (List.singleton_inj.mp hLast)
    exact .inr ⟨rfl, ⟨statement, rfl, hReads⟩, hCommit⟩
  · rw [List.concat_eq_append, ← List.cons_append, ← List.append_assoc] at hTrace
    obtain ⟨rfl, -⟩ := List.append_inj' hTrace rfl
    exact .inl ⟨earlier, statement, later, rfl, hReads, hCommit⟩

section Accumulator

variable (measure : σ → Int) (reads : κ → Bool) (Inv : σ → Prop)
  (answer : (request : ρ) → τ request)

/-- The change keeps the invariant and adds this much to the measure. -/
def Adds (amount : Int) (change : σ → σ) : Prop :=
  ∀ db, Inv db → Inv (change db) ∧ measure (change db) = measure db + amount

/-- The program neither reads nor moves the measure, and commits nothing. -/
def Neutral : Program σ κ ρ τ ε α → Prop
  | .done _ => True
  | .raise _ => True
  | .select statement next => reads statement = false ∧ ∀ db, Inv db → Neutral (next db)
  | .write change next => Adds measure Inv 0 change ∧ Neutral next
  | .allocate _ next => ∀ n, Neutral (next n)
  | .ask request next => Neutral (next (answer request))
  | .commit _ => False
  | .rollback _ => False

/-- The program adds at most what it owes, and then commits. -/
def Pays : Int → Program σ κ ρ τ ε α → Prop
  | _, .done _ => True
  | _, .raise _ => True
  | due, .select statement next => reads statement = false ∧ ∀ db, Inv db → Pays due (next db)
  | due, .write change next =>
    ∃ amount, 0 ≤ amount ∧ amount ≤ due ∧ Adds measure Inv amount change ∧
      Pays (due - amount) next
  | due, .allocate _ next => ∀ n, Pays due (next n)
  | due, .ask request next => Pays due (next (answer request))
  | _, .commit next => Neutral measure reads Inv answer next
  | _, .rollback _ => False

/-- The program reads the measure before it moves it, and then tops it up to the report. -/
def Reports (report : Int) : Program σ κ ρ τ ε α → Prop
  | .done _ => True
  | .raise _ => True
  | .select statement next => ∀ db, Inv db →
    if reads statement then Pays measure reads Inv answer (max 0 (report - measure db)) (next db)
    else Reports report (next db)
  | .write change next => Adds measure Inv 0 change ∧ Reports report next
  | .allocate _ next => ∀ n, Reports report (next n)
  | .ask request next => Reports report (next (answer request))
  | .commit next => Neutral measure reads Inv answer next
  | .rollback _ => False

variable {measure reads Inv answer}

theorem adds_id : Adds measure Inv 0 id := fun _ hInv => ⟨hInv, (add_zero _).symm⟩

theorem Adds.comp {first second : Int} {f g : σ → σ} (hf : Adds measure Inv first f)
    (hg : Adds measure Inv second g) : Adds measure Inv (first + second) (g ∘ f) := by
  intro db hInv
  obtain ⟨hInv', hFirst⟩ := hf db hInv
  obtain ⟨hInv'', hSecond⟩ := hg (f db) hInv'
  refine ⟨hInv'', ?_⟩
  rw [Function.comp_apply, hSecond, hFirst, add_assoc]

theorem Neutral.bind {p : Program σ κ ρ τ ε α} {f : α → Program σ κ ρ τ ε β}
    (hp : Neutral measure reads Inv answer p) (hf : ∀ value, Neutral measure reads Inv answer (f value)) :
    Neutral measure reads Inv answer (p >>= f) := by
  rw [Program.bind_eq]
  induction p with
  | done value => exact hf value
  | raise error => trivial
  | select statement next ih => exact ⟨hp.1, fun db hInv => ih db (hp.2 db hInv)⟩
  | write change next ih => exact ⟨hp.1, ih hp.2⟩
  | allocate key next ih => exact fun n => ih n (hp n)
  | ask request next ih => exact ih (answer request) hp
  | commit next ih => exact hp.elim
  | rollback next ih => exact hp.elim

theorem Neutral.bind_pays {p : Program σ κ ρ τ ε α} {f : α → Program σ κ ρ τ ε β} {due : Int}
    (hp : Neutral measure reads Inv answer p) (hDue : 0 ≤ due)
    (hf : ∀ value, Pays measure reads Inv answer due (f value)) :
    Pays measure reads Inv answer due (p >>= f) := by
  rw [Program.bind_eq]
  induction p with
  | done value => exact hf value
  | raise error => trivial
  | select statement next ih => exact ⟨hp.1, fun db hInv => ih db (hp.2 db hInv)⟩
  | write change next ih =>
    refine ⟨0, le_refl 0, hDue, hp.1, ?_⟩
    rw [sub_zero]
    exact ih hp.2
  | allocate key next ih => exact fun n => ih n (hp n)
  | ask request next ih => exact ih (answer request) hp
  | commit next ih => exact hp.elim
  | rollback next ih => exact hp.elim

theorem Neutral.bind_reports {p : Program σ κ ρ τ ε α} {f : α → Program σ κ ρ τ ε β} {report : Int}
    (hp : Neutral measure reads Inv answer p)
    (hf : ∀ value, Reports measure reads Inv answer report (f value)) :
    Reports measure reads Inv answer report (p >>= f) := by
  rw [Program.bind_eq]
  induction p with
  | done value => exact hf value
  | raise error => trivial
  | select statement next ih =>
    intro db hInv
    rw [if_neg (by simp [hp.1])]
    exact ih db (hp.2 db hInv)
  | write change next ih => exact ⟨hp.1, ih hp.2⟩
  | allocate key next ih => exact fun n => ih n (hp n)
  | ask request next ih => exact ih (answer request) hp
  | commit next ih => exact hp.elim
  | rollback next ih => exact hp.elim

variable {report seen : Int} {durable durable' : σ} {thread thread' : Thread σ κ ρ τ ε α}
  {event : Event κ}

variable (measure reads Inv answer)

/-- The transaction has not read the measure. -/
def Unread (report : Int) (thread : Thread σ κ ρ τ ε α) : Prop :=
  Reports measure reads Inv answer report thread.program ∧ Adds measure Inv 0 thread.overlay

/-- It has read `seen`, staged a part of what was missing, and may add the rest. -/
def Owing (report seen : Int) (thread : Thread σ κ ρ τ ε α) : Prop :=
  ∃ added, 0 ≤ added ∧ added ≤ max 0 (report - seen) ∧
    Pays measure reads Inv answer (max 0 (report - seen) - added) thread.program ∧
    Adds measure Inv added thread.overlay

def Settled (thread : Thread σ κ ρ τ ε α) : Prop :=
  Neutral measure reads Inv answer thread.program ∧ Adds measure Inv 0 thread.overlay

variable {measure reads Inv answer}

/-- Neither a commit nor a read of the measure. -/
def Quiet (reads : κ → Bool) : Event κ → Prop
  | .commit => False
  | .select statement => reads statement = false
  | .write | .allocate | .ask | .rollback => True

theorem Settled.next (h : Settled measure reads Inv answer thread) (hInv : Inv durable)
    (hNext : thread.next? answer durable = some (event, durable', thread')) :
    Quiet reads event ∧ durable' = durable ∧ Settled measure reads Inv answer thread' := by
  obtain ⟨program, overlay⟩ := thread
  obtain ⟨hProgram, hOverlay⟩ := h
  cases program with
  | done value => contradiction
  | raise error => contradiction
  | select statement next =>
    obtain ⟨rfl, rfl, rfl⟩ := hNext
    exact ⟨hProgram.1, rfl, hProgram.2 _ (hOverlay _ hInv).1, hOverlay⟩
  | write change next =>
    obtain ⟨rfl, rfl, rfl⟩ := hNext
    exact ⟨trivial, rfl, hProgram.2, hOverlay.comp hProgram.1⟩
  | allocate key next =>
    obtain ⟨rfl, rfl, rfl⟩ := hNext
    exact ⟨trivial, rfl, hProgram _, hOverlay⟩
  | ask request next =>
    obtain ⟨rfl, rfl, rfl⟩ := hNext
    exact ⟨trivial, rfl, hProgram, hOverlay⟩
  | commit next => exact hProgram.elim
  | rollback next => exact hProgram.elim

theorem Owing.next (h : Owing measure reads Inv answer report seen thread) (hInv : Inv durable)
    (hNext : thread.next? answer durable = some (event, durable', thread')) :
    (Quiet reads event ∧ durable' = durable ∧
      Owing measure reads Inv answer report seen thread') ∨
    (event = .commit ∧ Settled measure reads Inv answer thread' ∧ Inv durable' ∧
      ∃ added, 0 ≤ added ∧ added ≤ max 0 (report - seen) ∧
        measure durable' = measure durable + added) := by
  obtain ⟨program, overlay⟩ := thread
  obtain ⟨added, hNonneg, hLe, hProgram, hOverlay⟩ := h
  cases program with
  | done value => contradiction
  | raise error => contradiction
  | select statement next =>
    obtain ⟨rfl, rfl, rfl⟩ := hNext
    exact .inl ⟨hProgram.1, rfl, added, hNonneg, hLe, hProgram.2 _ (hOverlay _ hInv).1, hOverlay⟩
  | write change next =>
    obtain ⟨rfl, rfl, rfl⟩ := hNext
    obtain ⟨amount, hAmount, hDue, hChange, hRest⟩ := hProgram
    refine .inl ⟨trivial, rfl, added + amount, by omega, by omega, ?_, hOverlay.comp hChange⟩
    rw [← sub_sub]
    exact hRest
  | allocate key next =>
    obtain ⟨rfl, rfl, rfl⟩ := hNext
    exact .inl ⟨trivial, rfl, added, hNonneg, hLe, hProgram _, hOverlay⟩
  | ask request next =>
    obtain ⟨rfl, rfl, rfl⟩ := hNext
    exact .inl ⟨trivial, rfl, added, hNonneg, hLe, hProgram, hOverlay⟩
  | commit next =>
    obtain ⟨rfl, rfl, rfl⟩ := hNext
    obtain ⟨hInv', hAdded⟩ := hOverlay durable hInv
    exact .inr ⟨rfl, ⟨hProgram, adds_id⟩, hInv', added, hNonneg, hLe, hAdded⟩
  | rollback next => exact hProgram.elim

theorem Unread.next (h : Unread measure reads Inv answer report thread) (hInv : Inv durable)
    (hNext : thread.next? answer durable = some (event, durable', thread')) :
    (Quiet reads event ∧ durable' = durable ∧ Unread measure reads Inv answer report thread') ∨
    (event ≠ .commit ∧ durable' = durable ∧
      Owing measure reads Inv answer report (measure durable) thread') ∨
    (event = .commit ∧ Settled measure reads Inv answer thread' ∧ Inv durable' ∧
      measure durable' = measure durable) := by
  obtain ⟨program, overlay⟩ := thread
  obtain ⟨hProgram, hOverlay⟩ := h
  cases program with
  | done value => contradiction
  | raise error => contradiction
  | select statement next =>
    obtain ⟨rfl, rfl, rfl⟩ := hNext
    obtain ⟨hInv', hSame⟩ := hOverlay durable hInv
    have hRest := hProgram _ hInv'
    cases hReads : reads statement with
    | true =>
      rw [if_pos hReads, hSame, add_zero] at hRest
      refine .inr (.inl ⟨nofun, rfl, 0, le_refl 0, le_max_left _ _, ?_, hOverlay⟩)
      rw [sub_zero]
      exact hRest
    | false =>
      rw [if_neg (by simp [hReads])] at hRest
      exact .inl ⟨hReads, rfl, hRest, hOverlay⟩
  | write change next =>
    obtain ⟨rfl, rfl, rfl⟩ := hNext
    exact .inl ⟨trivial, rfl, hProgram.2, hOverlay.comp hProgram.1⟩
  | allocate key next =>
    obtain ⟨rfl, rfl, rfl⟩ := hNext
    exact .inl ⟨trivial, rfl, hProgram _, hOverlay⟩
  | ask request next =>
    obtain ⟨rfl, rfl, rfl⟩ := hNext
    exact .inl ⟨trivial, rfl, hProgram, hOverlay⟩
  | commit next =>
    obtain ⟨rfl, rfl, rfl⟩ := hNext
    obtain ⟨hInv', hSame⟩ := hOverlay durable hInv
    exact .inr (.inr ⟨rfl, ⟨hProgram, adds_id⟩, hInv', hSame.trans (add_zero _)⟩)
  | rollback next => exact hProgram.elim

variable (measure reads Inv answer)

/-- The books of one transaction: what it has paid in, and the total it had read by then. -/
structure Account (start report seen paid otherPaid : Int) (who : Bool)
    (thread : Thread σ κ ρ τ ε α) (trace : List (Bool × Event κ)) : Prop where
  paid_nonneg : 0 ≤ paid
  paid_le : paid ≤ max 0 (report - seen)
  start_le : start ≤ seen
  late : ReadsLate reads who trace → seen = start + otherPaid
  standing : (((who, .commit) ∉ trace ∧ paid = 0) ∧
      (Unread measure reads Inv answer report thread ∨
        Owing measure reads Inv answer report seen thread)) ∨
    Settled measure reads Inv answer thread

variable {measure reads Inv answer}

theorem not_quiet_of_read {event : Event κ}
    (h : ∃ statement, event = .select statement ∧ reads statement = true) : ¬ Quiet reads event := by
  obtain ⟨statement, rfl, hReads⟩ := h
  intro hQuiet
  rw [show reads statement = false from hQuiet] at hReads
  contradiction

theorem commit_mem_of_readsLate {who : Bool} {trace : List (Bool × Event κ)}
    (h : ReadsLate reads who trace) : (!who, .commit) ∈ trace := by
  obtain ⟨earlier, statement, later, rfl, -, hCommit⟩ := h
  exact List.mem_append_left _ hCommit

variable {start paid otherPaid : Int} {who : Bool} {trace : List (Bool × Event κ)}

theorem commit_not_mem_append (h : (who, .commit) ∉ trace) (hQuiet : event ≠ .commit) :
    (who, .commit) ∉ trace ++ [(who, event)] := by
  rw [List.mem_append, List.mem_singleton]
  rintro (hMem | hSame)
  · exact h hMem
  · exact hQuiet (Prod.mk.inj hSame).2.symm

theorem Account.next
    (h : Account measure reads Inv answer start report seen paid otherPaid who thread trace)
    (hOther : 0 ≤ otherPaid) (hInv : Inv durable)
    (hMeasure : measure durable = start + paid + otherPaid)
    (hNext : thread.next? answer durable = some (event, durable', thread')) :
    ∃ seen' paid', Inv durable' ∧ measure durable' = start + paid' + otherPaid ∧
      Account measure reads Inv answer start report seen' paid' otherPaid who thread'
        (trace ++ [(who, event)]) ∧
      (paid' = paid ∨ (who, .commit) ∉ trace) := by
  have hQuietLate : Quiet reads event → ReadsLate reads who (trace ++ [(who, event)]) →
      seen = start + otherPaid := by
    intro hQuiet hLate
    rcases readsLate_append hLate with hOld | ⟨-, hRead, -⟩
    · exact h.late hOld
    · exact absurd hQuiet (not_quiet_of_read hRead)
  have hNotCommit : Quiet reads event → event ≠ .commit := by
    rintro hQuiet rfl
    exact hQuiet
  have hCommitLate : event = .commit → ReadsLate reads who (trace ++ [(who, event)]) →
      seen = start + otherPaid := by
    rintro rfl hLate
    rcases readsLate_append hLate with hOld | ⟨-, ⟨statement, hSelect, -⟩, -⟩
    · exact h.late hOld
    · contradiction
  rcases h.standing with ⟨⟨hOpen, hZero⟩, hUnread | hOwing⟩ | hSettled
  · rcases hUnread.next hInv hNext with ⟨hQuiet, rfl, hUnread'⟩ | ⟨hEvent, rfl, hOwing⟩ |
      ⟨hEvent, hSettled, hInv', hSame⟩
    · exact ⟨seen, paid, hInv, hMeasure, ⟨h.paid_nonneg, h.paid_le, h.start_le, hQuietLate hQuiet,
        .inl ⟨⟨commit_not_mem_append hOpen (hNotCommit hQuiet), hZero⟩, .inl hUnread'⟩⟩, .inl rfl⟩
    · -- The read itself: what it sees is the start and whatever the other has paid in.
      subst hZero
      exact ⟨measure durable', 0, hInv, hMeasure, ⟨le_refl 0, le_max_left _ _, by omega,
        fun _ => by omega, .inl ⟨⟨commit_not_mem_append hOpen hEvent, rfl⟩, .inr hOwing⟩⟩, .inl rfl⟩
    · exact ⟨seen, paid, hInv', hSame.trans hMeasure, ⟨h.paid_nonneg, h.paid_le, h.start_le,
        hCommitLate hEvent, .inr hSettled⟩, .inl rfl⟩
  · rcases hOwing.next hInv hNext with ⟨hQuiet, rfl, hOwing'⟩ |
      ⟨hEvent, hSettled, hInv', added, hNonneg, hLe, hAdded⟩
    · exact ⟨seen, paid, hInv, hMeasure, ⟨h.paid_nonneg, h.paid_le, h.start_le, hQuietLate hQuiet,
        .inl ⟨⟨commit_not_mem_append hOpen (hNotCommit hQuiet), hZero⟩, .inr hOwing'⟩⟩, .inl rfl⟩
    · exact ⟨seen, added, hInv', by omega, ⟨hNonneg, hLe, h.start_le, hCommitLate hEvent,
        .inr hSettled⟩, .inr hOpen⟩
  · obtain ⟨hQuiet, rfl, hSettled'⟩ := hSettled.next hInv hNext
    exact ⟨seen, paid, hInv, hMeasure, ⟨h.paid_nonneg, h.paid_le, h.start_le, hQuietLate hQuiet,
      .inr hSettled'⟩, .inl rfl⟩

theorem Account.other (otherPaid' : Int)
    (h : Account measure reads Inv answer start report seen paid otherPaid who thread trace)
    (hOther : otherPaid' = otherPaid ∨ (!who, .commit) ∉ trace) (event : Event κ) :
    Account measure reads Inv answer start report seen paid otherPaid' who thread
      (trace ++ [(!who, event)]) where
  paid_nonneg := h.paid_nonneg
  paid_le := h.paid_le
  start_le := h.start_le
  late := by
    intro hLate
    rcases readsLate_append hLate with hOld | ⟨hSame, -⟩
    · rcases hOther with rfl | hNone
      · exact h.late hOld
      · exact absurd (commit_mem_of_readsLate hOld) hNone
    · exact absurd hSame (by simp)
  standing := by
    rcases h.standing with ⟨⟨hOpen, hZero⟩, hPhase⟩ | hSettled
    · refine .inl ⟨⟨?_, hZero⟩, hPhase⟩
      rw [List.mem_append, List.mem_singleton]
      rintro (hMem | hSame)
      · exact hOpen hMem
      · exact absurd (Prod.mk.inj hSame).1 (by simp)
    · exact .inr hSettled

variable (measure reads Inv)

/-- Both books are in order, and together they explain the committed measure. -/
def Balanced (answers : Bool → (request : ρ) → τ request) (start : Int) (report : Bool → Int)
    (w : World σ κ ρ τ ε α) : Prop :=
  ∃ seen paid : Bool → Int, Inv w.durable ∧
    measure w.durable = start + paid true + paid false ∧
    ∀ who, Account measure reads Inv (answers who) start (report who) (seen who) (paid who)
      (paid !who) who (w.threads who) w.trace

variable {measure reads Inv} {answers : Bool → (request : ρ) → τ request} {report : Bool → Int}
  {w : World σ κ ρ τ ε α}

theorem balanced_opened {programs : Bool → Program σ κ ρ τ ε α} (hInv : Inv durable)
    (hReports : ∀ who, Reports measure reads Inv (answers who) (report who) (programs who)) :
    Balanced measure reads Inv answers (measure durable) report (.opened durable programs) := by
  refine ⟨fun _ => measure durable, fun _ => 0, hInv, by simp [World.opened], fun who => ?_⟩
  refine ⟨le_refl 0, le_max_left _ _, le_refl _, fun _ => (add_zero _).symm, .inl ⟨⟨?_, rfl⟩, .inl ?_⟩⟩
  · exact List.not_mem_nil
  · exact ⟨hReports who, adds_id⟩

theorem balanced_step (mover : Bool) (h : Balanced measure reads Inv answers start report w) :
    Balanced measure reads Inv answers start report (w.step answers mover) := by
  obtain ⟨seen, paid, hInv, hMeasure, hAccounts⟩ := h
  unfold World.step
  cases hNext : (w.threads mover).next? (answers mover) w.durable with
  | none => exact ⟨seen, paid, hInv, hMeasure, hAccounts⟩
  | some stepped =>
    obtain ⟨event, durable', thread'⟩ := stepped
    have hSum : measure w.durable = start + paid mover + paid !mover := by
      cases mover with
      | true => simpa using hMeasure
      | false =>
        rw [Bool.not_false]
        omega
    obtain ⟨seen', paid', hInv', hMeasure', hMoved, hPaid⟩ :=
      (hAccounts mover).next (hAccounts !mover).paid_nonneg hInv hSum hNext
    refine ⟨Function.update seen mover seen', Function.update paid mover paid', hInv', ?_, ?_⟩
    · cases mover with
      | true => simpa using hMeasure'
      | false =>
        simp only [Bool.not_false] at hMeasure'
        simp only [Function.update_self, Function.update_of_ne, ne_eq, Bool.true_eq_false,
          not_false_eq_true]
        omega
    · intro who
      by_cases hWho : who = mover
      · subst hWho
        simpa using hMoved
      · obtain rfl : who = !mover := Bool.eq_not_of_ne hWho
        have hKept := (hAccounts !mover).other paid' (by simpa using hPaid) event
        simpa using hKept

/-- If one of the two reads after the other's commit, or has nothing new to report, the committed
measure is at most what it was at the start or what one of them reported. -/
theorem measure_run_le (measure : σ → Int) (schedule : List Bool) {programs : Bool → Program σ κ ρ τ ε α}
    (hInv : Inv durable)
    (hReports : ∀ who, Reports measure reads Inv (answers who) (report who) (programs who))
    (hApart : ∃ who, ReadsLate reads who
        (Transaction.run (World.step answers) schedule (.opened durable programs)).trace ∨
      report who ≤ measure durable) :
    measure (Transaction.run (World.step answers) schedule (.opened durable programs)).durable ≤
      max (measure durable) (max (report true) (report false)) := by
  obtain ⟨seen, paid, -, hMeasure, hAccounts⟩ := run_invariant _
    (fun mover _ => balanced_step mover) schedule (balanced_opened hInv hReports)
  rw [hMeasure]
  have hTrue := hAccounts true
  have hFalse := hAccounts false
  have hTrueLe := hTrue.paid_le
  have hFalseLe := hFalse.paid_le
  have hTrueSeen := hTrue.start_le
  have hFalseSeen := hFalse.start_le
  have hTruePaid := hTrue.paid_nonneg
  have hFalsePaid := hFalse.paid_nonneg
  obtain ⟨who, hLate | hNothing⟩ := hApart
  · have hSeen := (hAccounts who).late hLate
    cases who with
    | true =>
      rw [Bool.not_true] at hSeen
      omega
    | false =>
      rw [Bool.not_false] at hSeen
      omega
  · cases who <;> omega

end Accumulator

end StockAiPlatform.Transaction
