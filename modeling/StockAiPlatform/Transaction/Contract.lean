import StockAiPlatform.Transaction.Atomic

/-! # What holds of everything that is committed

A precondition for a program alone on its session. Read from the state the
session sees: every state the program commits is one to keep, and it ends as
the two postconditions say. The rules follow the program's own structure.
-/

namespace StockAiPlatform.Transaction.Program
set_option autoImplicit false

variable {σ κ ρ : Type} {τ : ρ → Type} {ε α β : Type}

/-- `kept` holds of what is stored, before and after each commit; `post` and `raised` hold of the
ending and of the state seen then. -/
def wp (kept : σ → Prop) : Program σ κ ρ τ ε α → (α → σ → Prop) → (ε → σ → Prop) → σ → Prop
  | .done value, post, _, view => post value view
  | .raise error, _, raised, view => raised error view
  | .select _ next, post, raised, view => (next view).wp kept post raised view
  | .write change next, post, raised, view => next.wp kept post raised (change view)
  | .allocate key next, post, raised, view => (next (key view)).wp kept post raised view
  | .ask _ next, post, raised, view => ∀ reply, (next reply).wp kept post raised view
  | .commit next, post, raised, view => kept view ∧ next.wp kept post raised view
  | .rollback next, post, raised, _ => ∀ stored, kept stored → next.wp kept post raised stored

variable {kept : σ → Prop} {p : Program σ κ ρ τ ε α} {f : α → Program σ κ ρ τ ε β}

theorem wp_bind {post : β → σ → Prop} {raised : ε → σ → Prop} {view : σ} :
    (p >>= f).wp kept post raised view ↔
      p.wp kept (fun value => (f value).wp kept post raised) raised view := by
  rw [bind_eq]
  induction p generalizing view with
  | done value => exact Iff.rfl
  | raise error => exact Iff.rfl
  | select statement next ih => exact ih view
  | write change next ih => exact ih
  | allocate key next ih => exact ih (key view)
  | ask request next ih => exact forall_congr' fun reply => ih reply
  | commit next ih => exact and_congr_right fun _ => ih
  | rollback next ih => exact forall_congr' fun stored => imp_congr_right fun _ => ih

/-- `try`: either ending becomes a value. -/
theorem wp_attempt {post : Except ε α → σ → Prop} {raised : ε → σ → Prop} {view : σ} :
    p.attempt.wp kept post raised view ↔
      p.wp kept (fun value => post (.ok value)) (fun error => post (.error error)) view := by
  induction p generalizing view with
  | done value => exact Iff.rfl
  | raise error => exact Iff.rfl
  | select statement next ih => exact ih view
  | write change next ih => exact ih
  | allocate key next ih => exact ih (key view)
  | ask request next ih => exact forall_congr' fun reply => ih reply
  | commit next ih => exact and_congr_right fun _ => ih
  | rollback next ih => exact forall_congr' fun stored => imp_congr_right fun _ => ih

theorem wp_mono {post post' : α → σ → Prop} {raised raised' : ε → σ → Prop}
    (hPost : ∀ value view, post value view → post' value view)
    (hRaised : ∀ error view, raised error view → raised' error view) {view : σ}
    (h : p.wp kept post raised view) : p.wp kept post' raised' view := by
  induction p generalizing view with
  | done value => exact hPost value view h
  | raise error => exact hRaised error view h
  | select statement next ih => exact ih view h
  | write change next ih => exact ih h
  | allocate key next ih => exact ih (key view) h
  | ask request next ih => exact fun reply => ih reply (h reply)
  | commit next ih => exact ⟨h.1, ih h.2⟩
  | rollback next ih => exact fun stored hStored => ih (h stored hStored)

theorem wp_query {statement : κ} {g : σ → α} {post : α → σ → Prop} {raised : ε → σ → Prop}
    {view : σ} : (query statement g : Program σ κ ρ τ ε α).wp kept post raised view ↔
      post (g view) view := Iff.rfl

theorem wp_ofExcept {outcome : Except ε α} {post : α → σ → Prop} {raised : ε → σ → Prop} {view : σ}
    (hOk : ∀ value, outcome = .ok value → post value view)
    (hError : ∀ error, outcome = .error error → raised error view) :
    (ofExcept outcome : Program σ κ ρ τ ε α).wp kept post raised view := by
  cases outcome with
  | ok value => exact hOk value rfl
  | error error => exact hError error rfl

theorem wp_ite {c : Prop} [Decidable c] {q : Program σ κ ρ τ ε α} {post : α → σ → Prop}
    {raised : ε → σ → Prop} {view : σ} (hThen : c → p.wp kept post raised view)
    (hElse : ¬ c → q.wp kept post raised view) :
    (if c then p else q).wp kept post raised view := by
  split
  · exact hThen ‹_›
  · exact hElse ‹_›

/-- The precondition is enough, whatever the program asks and is answered. -/
theorem kept_exec (answer : (request : ρ) → τ request) {post : α → σ → Prop}
    {raised : ε → σ → Prop} {s : Session σ ρ τ} (hStored : kept s.durable)
    (h : p.wp kept post raised s.view) : kept (p.exec answer s).2.durable := by
  induction p generalizing s with
  | done value => exact hStored
  | raise error => exact hStored
  | select statement next ih => exact ih s.view hStored h
  | write change next ih => exact ih (s := s.write change) hStored h
  | allocate key next ih => exact ih (key s.view) hStored h
  | ask request next ih => exact ih (answer request) (s := s.record _) hStored (h (answer request))
  | commit next ih => exact ih (s := s.commit) h.1 h.2
  | rollback next ih => exact ih (s := s.rollback) hStored (h s.durable hStored)

theorem kept_served (answer : (request : ρ) → τ request) {db : σ} (hStored : kept db)
    (h : p.wp kept (fun _ _ => True) (fun _ _ => True) db) : kept (p.served answer db) :=
  kept_exec answer (s := .opened db) hStored h

end StockAiPlatform.Transaction.Program
