import StockAiPlatform.Transaction.Program

/-! # Where a program can be cut off

The trail of a run lists the sessions a process passes through, so that a
statement about every crash point is a statement about the trail. A program
that never commits leaves the durable state alone at all of them.
-/

namespace StockAiPlatform.Transaction.Program
set_option autoImplicit false

variable {σ κ ρ : Type} {τ : ρ → Type} {ε α β : Type}

/-- The session before each step of the run, and the one it ends in. -/
def trail (answer : (request : ρ) → τ request) :
    Program σ κ ρ τ ε α → Session σ ρ τ → List (Session σ ρ τ)
  | .done _, s => [s]
  | .raise _, s => [s]
  | .select _ next, s => s :: (next s.view).trail answer s
  | .write change next, s => s :: next.trail answer (s.write change)
  | .allocate key next, s => s :: (next (key s.view)).trail answer s
  | .ask request next, s =>
    s :: (next (answer request)).trail answer (s.record ⟨request, answer request⟩)
  | .commit next, s => s :: next.trail answer s.commit
  | .rollback next, s => s :: next.trail answer s.rollback

def CommitFree : Program σ κ ρ τ ε α → Prop
  | .done _ => True
  | .raise _ => True
  | .select _ next => ∀ s, (next s).CommitFree
  | .write _ next => next.CommitFree
  | .allocate _ next => ∀ n, (next n).CommitFree
  | .ask _ next => ∀ reply, (next reply).CommitFree
  | .commit _ => False
  | .rollback next => next.CommitFree

theorem exec_mem_trail (answer : (request : ρ) → τ request) (p : Program σ κ ρ τ ε α)
    (s : Session σ ρ τ) : (p.exec answer s).2 ∈ p.trail answer s := by
  induction p generalizing s with
  | done value => exact List.mem_singleton_self s
  | raise error => exact List.mem_singleton_self s
  | select statement next ih => exact List.mem_cons_of_mem _ (ih s.view s)
  | write change next ih => exact List.mem_cons_of_mem _ (ih (s.write change))
  | allocate key next ih => exact List.mem_cons_of_mem _ (ih (key s.view) s)
  | ask request next ih => exact List.mem_cons_of_mem _ (ih (answer request) _)
  | commit next ih => exact List.mem_cons_of_mem _ (ih s.commit)
  | rollback next ih => exact List.mem_cons_of_mem _ (ih s.rollback)

theorem log_prefix_exec (answer : (request : ρ) → τ request) (p : Program σ κ ρ τ ε α)
    (s : Session σ ρ τ) : s.log <+: (p.exec answer s).2.log := by
  induction p generalizing s with
  | done value => exact List.prefix_rfl
  | raise error => exact List.prefix_rfl
  | select statement next ih => exact ih s.view s
  | write change next ih => exact ih (s.write change)
  | allocate key next ih => exact ih (key s.view) s
  | ask request next ih =>
    exact (List.prefix_append s.log _).trans (ih (answer request) (s.record _))
  | commit next ih => exact ih s.commit
  | rollback next ih => exact ih s.rollback

/-- What was asked stays asked: the log at a crash point is a prefix of the final one. -/
theorem log_prefix_of_mem_trail (answer : (request : ρ) → τ request) (p : Program σ κ ρ τ ε α)
    (s t : Session σ ρ τ) (h : t ∈ p.trail answer s) :
    t.log <+: (p.exec answer s).2.log := by
  induction p generalizing s with
  | done value =>
    rw [List.mem_singleton.mp h]
    exact List.prefix_rfl
  | raise error =>
    rw [List.mem_singleton.mp h]
    exact List.prefix_rfl
  | select statement next ih =>
    rcases List.mem_cons.mp h with rfl | h
    · exact log_prefix_exec answer _ t
    · exact ih s.view s h
  | write change next ih =>
    rcases List.mem_cons.mp h with rfl | h
    · exact log_prefix_exec answer _ t
    · exact ih (s.write change) h
  | allocate key next ih =>
    rcases List.mem_cons.mp h with rfl | h
    · exact log_prefix_exec answer _ t
    · exact ih (key s.view) s h
  | ask request next ih =>
    rcases List.mem_cons.mp h with rfl | h
    · exact log_prefix_exec answer _ t
    · exact ih (answer request) _ h
  | commit next ih =>
    rcases List.mem_cons.mp h with rfl | h
    · exact log_prefix_exec answer _ t
    · exact ih s.commit h
  | rollback next ih =>
    rcases List.mem_cons.mp h with rfl | h
    · exact log_prefix_exec answer _ t
    · exact ih s.rollback h

theorem CommitFree.bind {p : Program σ κ ρ τ ε α} {f : α → Program σ κ ρ τ ε β}
    (hp : p.CommitFree) (hf : ∀ value, (f value).CommitFree) : (p >>= f).CommitFree := by
  rw [bind_eq]
  induction p with
  | done value => exact hf value
  | raise error => trivial
  | select statement next ih => exact fun s => ih s (hp s)
  | write change next ih => exact ih hp
  | allocate key next ih => exact fun n => ih n (hp n)
  | ask request next ih => exact fun reply => ih reply (hp reply)
  | commit next ih => exact hp.elim
  | rollback next ih => exact ih hp

theorem CommitFree.attempt {p : Program σ κ ρ τ ε α} (hp : p.CommitFree) : p.attempt.CommitFree := by
  induction p with
  | done value => trivial
  | raise error => trivial
  | select statement next ih => exact fun s => ih s (hp s)
  | write change next ih => exact ih hp
  | allocate key next ih => exact fun n => ih n (hp n)
  | ask request next ih => exact fun reply => ih reply (hp reply)
  | commit next ih => exact hp.elim
  | rollback next ih => exact ih hp

theorem CommitFree.ite {c : Prop} [Decidable c] {p q : Program σ κ ρ τ ε α} (hp : p.CommitFree)
    (hq : q.CommitFree) : (if c then p else q).CommitFree := by
  split
  · exact hp
  · exact hq

@[simp] theorem commitFree_pure (value : α) :
    (pure value : Program σ κ ρ τ ε α).CommitFree := trivial

@[simp] theorem commitFree_raise (error : ε) :
    (.raise error : Program σ κ ρ τ ε α).CommitFree := trivial

@[simp] theorem commitFree_query (statement : κ) (f : σ → α) :
    (query statement f : Program σ κ ρ τ ε α).CommitFree := fun _ => trivial

@[simp] theorem commitFree_modify (change : σ → σ) :
    (modify change : Program σ κ ρ τ ε Unit).CommitFree := trivial

@[simp] theorem commitFree_allocated (key : σ → Nat) :
    (allocated key : Program σ κ ρ τ ε Nat).CommitFree := fun _ => trivial

@[simp] theorem commitFree_asked (request : ρ) :
    (asked request : Program σ κ ρ τ ε (τ request)).CommitFree := fun _ => trivial

@[simp] theorem commitFree_ofExcept (outcome : Except ε α) :
    (ofExcept outcome : Program σ κ ρ τ ε α).CommitFree := by
  cases outcome <;> trivial

/-- Nothing is durable before the first commit, whatever was flushed. -/
theorem CommitFree.durable_eq (answer : (request : ρ) → τ request) {p : Program σ κ ρ τ ε α}
    (hp : p.CommitFree) {s t : Session σ ρ τ} (h : t ∈ p.trail answer s) :
    t.durable = s.durable := by
  induction p generalizing s with
  | done value => rw [List.mem_singleton.mp h]
  | raise error => rw [List.mem_singleton.mp h]
  | select statement next ih =>
    rcases List.mem_cons.mp h with rfl | h
    · rfl
    · exact ih s.view (hp s.view) h
  | write change next ih =>
    rcases List.mem_cons.mp h with rfl | h
    · rfl
    · exact (ih hp h).trans (Session.write_durable s change)
  | allocate key next ih =>
    rcases List.mem_cons.mp h with rfl | h
    · rfl
    · exact ih (key s.view) (hp (key s.view)) h
  | ask request next ih =>
    rcases List.mem_cons.mp h with rfl | h
    · rfl
    · exact (ih (answer request) (hp (answer request)) h).trans (Session.record_durable s _)
  | commit next ih => exact hp.elim
  | rollback next ih =>
    rcases List.mem_cons.mp h with rfl | h
    · rfl
    · exact (ih hp h).trans rfl

end StockAiPlatform.Transaction.Program
