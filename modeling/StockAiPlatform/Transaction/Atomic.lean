import StockAiPlatform.Transaction.Trail

/-! # One transaction

A program that runs alone and is committed exactly when it returns. A caller
that catches the exception, and commits only after a normal return, comes to
the same.
-/

namespace StockAiPlatform.Transaction.Program
set_option autoImplicit false

variable {σ κ ρ : Type} {τ : ρ → Type} {ε α β : Type}

/-- The stored state once the program ran in a session of its own: committed if it returns,
rolled back if it raises. -/
def atomically (answer : (request : ρ) → τ request) (p : Program σ κ ρ τ ε α) (db : σ) : σ :=
  match p.exec answer (.opened db) with
  | (.ok _, s) => s.view
  | (.error _, _) => db

/-- What is stored once the program is over and its session closed. -/
def served (answer : (request : ρ) → τ request) (p : Program σ κ ρ τ ε α) (db : σ) : σ :=
  (p.exec answer (.opened db)).2.durable

variable {answer : (request : ρ) → τ request} {p : Program σ κ ρ τ ε α} {db : σ}

theorem atomically_of_ok {value : α} {s : Session σ ρ τ}
    (h : p.exec answer (.opened db) = (.ok value, s)) : p.atomically answer db = s.view := by
  rw [atomically, h]

theorem atomically_of_error {error : ε} {s : Session σ ρ τ}
    (h : p.exec answer (.opened db) = (.error error, s)) : p.atomically answer db = db := by
  rw [atomically, h]

theorem atomically_cases (answer : (request : ρ) → τ request) (p : Program σ κ ρ τ ε α) (db : σ) :
    (∃ value s, p.exec answer (.opened db) = (.ok value, s) ∧ p.atomically answer db = s.view) ∨
      p.atomically answer db = db := by
  cases h : p.exec answer (.opened db) with
  | mk outcome s =>
    cases outcome with
    | ok value => exact .inl ⟨value, s, rfl, atomically_of_ok h⟩
    | error error => exact .inr (atomically_of_error h)

theorem CommitFree.durable_exec (answer : (request : ρ) → τ request) (hp : p.CommitFree) (s : Session σ ρ τ) :
    (p.exec answer s).2.durable = s.durable :=
  hp.durable_eq answer (exec_mem_trail answer p s)

theorem served_bind_of_ok {q : Program σ κ ρ τ ε β} {value : β}
    (h : q.exec answer (.opened db) = (.ok value, .opened db)) (f : β → Program σ κ ρ τ ε α) :
    (q >>= f).served answer db = (f value).served answer db := by
  rw [served, exec_bind_ok answer _ h]
  rfl

theorem served_bind_of_error {q : Program σ κ ρ τ ε β} {error : ε}
    (h : q.exec answer (.opened db) = (.error error, .opened db)) (f : β → Program σ κ ρ τ ε α) :
    (q >>= f).served answer db = db := by
  rw [served, exec_bind_error answer _ h]
  rfl

/-- `try p`, then commit on a normal return and pass on any exception without a commit. -/
theorem served_attempt (hp : p.CommitFree) {f : Except ε α → Program σ κ ρ τ ε β}
    (hOk : ∀ value, ∃ result, f (.ok value) = committed >>= fun _ => pure result)
    (hError : ∀ error, (f (.error error)).CommitFree) :
    (p.attempt >>= f).served answer db = p.atomically answer db := by
  have hDurable := hp.durable_exec answer (.opened db)
  rw [served, exec_bind, exec_attempt, atomically]
  cases h : p.exec answer (.opened db) with
  | mk outcome s =>
    rw [h] at hDurable
    cases outcome with
    | ok value =>
      obtain ⟨result, hResult⟩ := hOk value
      simp only [hResult]
      rfl
    | error error =>
      simp only
      rw [(hError error).durable_exec answer s]
      exact hDurable

end StockAiPlatform.Transaction.Program
