import Mathlib.Data.List.Basic
import Mathlib.Tactic.Common

/-! # Programs over a transactional store

A program reads the state its session sees, stages writes, asks the outside
world, and commits or rolls back. Writes stay in the session's overlay until
a commit folds them into the durable state; what was asked is never undone.
-/

namespace StockAiPlatform.Transaction
set_option autoImplicit false

/-- `σ` is the stored state, `κ` names the statements that read it, `ρ` are the
requests sent outside with replies `τ`, and `ε` the exceptions. -/
inductive Program (σ κ ρ : Type) (τ : ρ → Type) (ε α : Type) : Type where
  | done (value : α)
  | raise (error : ε)
  | select (statement : κ) (next : σ → Program σ κ ρ τ ε α)
  | write (change : σ → σ) (next : Program σ κ ρ τ ε α)
  | allocate (key : σ → Nat) (next : Nat → Program σ κ ρ τ ε α)
  | ask (request : ρ) (next : τ request → Program σ κ ρ τ ε α)
  | commit (next : Program σ κ ρ τ ε α)
  | rollback (next : Program σ κ ρ τ ε α)

theorem except_bind_eq_ok {ε α β : Type} {x : Except ε α} {f : α → Except ε β} {value : β} :
    (x >>= f) = .ok value ↔ ∃ first, x = .ok first ∧ f first = .ok value := by
  cases x with
  | error error =>
    constructor
    · intro h
      cases h
    · rintro ⟨first, hFirst, -⟩
      cases hFirst
  | ok first =>
    constructor
    · exact fun h => ⟨first, rfl, h⟩
    · rintro ⟨other, hOther, hRest⟩
      cases hOther
      exact hRest

abbrev Exchange (ρ : Type) (τ : ρ → Type) := (request : ρ) × τ request

structure Session (σ ρ : Type) (τ : ρ → Type) where
  durable : σ
  overlay : σ → σ
  log : List (Exchange ρ τ)

variable {σ κ ρ : Type} {τ : ρ → Type} {ε α β : Type}

namespace Session

/-- A session with nothing staged and nothing asked. -/
def opened (durable : σ) : Session σ ρ τ := ⟨durable, id, []⟩

def view (s : Session σ ρ τ) : σ := s.overlay s.durable

def write (s : Session σ ρ τ) (change : σ → σ) : Session σ ρ τ :=
  { s with overlay := change ∘ s.overlay }

def record (s : Session σ ρ τ) (exchange : Exchange ρ τ) : Session σ ρ τ :=
  { s with log := s.log ++ [exchange] }

def commit (s : Session σ ρ τ) : Session σ ρ τ :=
  { s with durable := s.view, overlay := id }

def rollback (s : Session σ ρ τ) : Session σ ρ τ := { s with overlay := id }

@[simp] theorem opened_durable (db : σ) : (opened db : Session σ ρ τ).durable = db := rfl
@[simp] theorem opened_view (db : σ) : (opened db : Session σ ρ τ).view = db := rfl
@[simp] theorem opened_log (db : σ) : (opened db : Session σ ρ τ).log = [] := rfl

@[simp] theorem write_view (s : Session σ ρ τ) (change : σ → σ) :
    (s.write change).view = change s.view := rfl
@[simp] theorem write_durable (s : Session σ ρ τ) (change : σ → σ) :
    (s.write change).durable = s.durable := rfl
@[simp] theorem write_log (s : Session σ ρ τ) (change : σ → σ) :
    (s.write change).log = s.log := rfl

@[simp] theorem record_view (s : Session σ ρ τ) (e : Exchange ρ τ) :
    (s.record e).view = s.view := rfl
@[simp] theorem record_durable (s : Session σ ρ τ) (e : Exchange ρ τ) :
    (s.record e).durable = s.durable := rfl
@[simp] theorem record_log (s : Session σ ρ τ) (e : Exchange ρ τ) :
    (s.record e).log = s.log ++ [e] := rfl

@[simp] theorem commit_view (s : Session σ ρ τ) : s.commit.view = s.view := rfl
@[simp] theorem commit_durable (s : Session σ ρ τ) : s.commit.durable = s.view := rfl
@[simp] theorem commit_log (s : Session σ ρ τ) : s.commit.log = s.log := rfl

@[simp] theorem rollback_view (s : Session σ ρ τ) : s.rollback.view = s.durable := rfl
@[simp] theorem rollback_log (s : Session σ ρ τ) : s.rollback.log = s.log := rfl

end Session

namespace Program

def bind : Program σ κ ρ τ ε α → (α → Program σ κ ρ τ ε β) → Program σ κ ρ τ ε β
  | .done value, f => f value
  | .raise error, _ => .raise error
  | .select statement next, f => .select statement fun s => (next s).bind f
  | .write change next, f => .write change (next.bind f)
  | .allocate key next, f => .allocate key fun n => (next n).bind f
  | .ask request next, f => .ask request fun reply => (next reply).bind f
  | .commit next, f => .commit (next.bind f)
  | .rollback next, f => .rollback (next.bind f)

instance : Monad (Program σ κ ρ τ ε) where
  pure := .done
  bind := bind

theorem bind_eq (p : Program σ κ ρ τ ε α) (f : α → Program σ κ ρ τ ε β) :
    p >>= f = p.bind f := rfl

theorem bind_assoc {γ : Type} (p : Program σ κ ρ τ ε α) (f : α → Program σ κ ρ τ ε β)
    (g : β → Program σ κ ρ τ ε γ) : p >>= f >>= g = p >>= fun value => f value >>= g := by
  simp only [bind_eq]
  induction p with
  | done value => rfl
  | raise error => rfl
  | select statement next ih => exact congrArg (Program.select statement) (funext ih)
  | write change next ih => exact congrArg (Program.write change) ih
  | allocate key next ih => exact congrArg (Program.allocate key) (funext ih)
  | ask request next ih => exact congrArg (Program.ask request) (funext ih)
  | commit next ih => exact congrArg Program.commit ih
  | rollback next ih => exact congrArg Program.rollback ih

/-- One SELECT: the part of the visible state a statement returns. -/
def query (statement : κ) (f : σ → α) : Program σ κ ρ τ ε α :=
  .select statement fun s => .done (f s)

def modify (change : σ → σ) : Program σ κ ρ τ ε Unit := .write change (.done ())

def allocated (key : σ → Nat) : Program σ κ ρ τ ε Nat := .allocate key .done

def asked (request : ρ) : Program σ κ ρ τ ε (τ request) := .ask request .done

def committed : Program σ κ ρ τ ε Unit := .commit (.done ())

def ofExcept : Except ε α → Program σ κ ρ τ ε α
  | .ok value => .done value
  | .error error => .raise error

/-- `try`: an exception becomes a value, and what was flushed before it stays. -/
def attempt : Program σ κ ρ τ ε α → Program σ κ ρ τ ε (Except ε α)
  | .done value => .done (.ok value)
  | .raise error => .done (.error error)
  | .select statement next => .select statement fun s => (next s).attempt
  | .write change next => .write change next.attempt
  | .allocate key next => .allocate key fun n => (next n).attempt
  | .ask request next => .ask request fun reply => (next reply).attempt
  | .commit next => .commit next.attempt
  | .rollback next => .rollback next.attempt

/-- The program alone on its session, every request answered by `answer`. -/
def exec (answer : (request : ρ) → τ request) :
    Program σ κ ρ τ ε α → Session σ ρ τ → Except ε α × Session σ ρ τ
  | .done value, s => (.ok value, s)
  | .raise error, s => (.error error, s)
  | .select _ next, s => (next s.view).exec answer s
  | .write change next, s => next.exec answer (s.write change)
  | .allocate key next, s => (next (key s.view)).exec answer s
  | .ask request next, s =>
    (next (answer request)).exec answer (s.record ⟨request, answer request⟩)
  | .commit next, s => next.exec answer s.commit
  | .rollback next, s => next.exec answer s.rollback

variable (answer : (request : ρ) → τ request) (s : Session σ ρ τ)

@[simp] theorem exec_pure (value : α) :
    (pure value : Program σ κ ρ τ ε α).exec answer s = (.ok value, s) := rfl

@[simp] theorem exec_done (value : α) :
    (.done value : Program σ κ ρ τ ε α).exec answer s = (.ok value, s) := rfl

@[simp] theorem exec_raise (error : ε) :
    (.raise error : Program σ κ ρ τ ε α).exec answer s = (.error error, s) := rfl

@[simp] theorem exec_query (statement : κ) (f : σ → α) :
    (query statement f : Program σ κ ρ τ ε α).exec answer s = (.ok (f s.view), s) := rfl

@[simp] theorem exec_modify (change : σ → σ) :
    (modify change : Program σ κ ρ τ ε Unit).exec answer s = (.ok (), s.write change) := rfl

@[simp] theorem exec_allocated (key : σ → Nat) :
    (allocated key : Program σ κ ρ τ ε Nat).exec answer s = (.ok (key s.view), s) := rfl

@[simp] theorem exec_asked (request : ρ) :
    (asked request : Program σ κ ρ τ ε (τ request)).exec answer s =
      (.ok (answer request), s.record ⟨request, answer request⟩) := rfl

@[simp] theorem exec_committed :
    (committed : Program σ κ ρ τ ε Unit).exec answer s = (.ok (), s.commit) := rfl

@[simp] theorem exec_ofExcept (outcome : Except ε α) :
    (ofExcept outcome : Program σ κ ρ τ ε α).exec answer s = (outcome, s) := by
  cases outcome <;> rfl

theorem exec_bind (p : Program σ κ ρ τ ε α) (f : α → Program σ κ ρ τ ε β) :
    (p >>= f).exec answer s = match p.exec answer s with
      | (.ok value, t) => (f value).exec answer t
      | (.error error, t) => (.error error, t) := by
  rw [bind_eq]
  induction p generalizing s with
  | done value => rfl
  | raise error => rfl
  | select statement next ih => exact ih s.view s
  | write change next ih => exact ih (s.write change)
  | allocate key next ih => exact ih (key s.view) s
  | ask request next ih => exact ih (answer request) _
  | commit next ih => exact ih s.commit
  | rollback next ih => exact ih s.rollback

theorem exec_bind_ok {p : Program σ κ ρ τ ε α} {value : α} {t : Session σ ρ τ}
    (h : p.exec answer s = (.ok value, t)) (f : α → Program σ κ ρ τ ε β) :
    (p >>= f).exec answer s = (f value).exec answer t := by
  rw [exec_bind, h]

theorem exec_bind_error {p : Program σ κ ρ τ ε α} {error : ε} {t : Session σ ρ τ}
    (h : p.exec answer s = (.error error, t)) (f : α → Program σ κ ρ τ ε β) :
    (p >>= f).exec answer s = (.error error, t) := by
  rw [exec_bind, h]

@[simp] theorem exec_query_bind (statement : κ) (f : σ → α) (g : α → Program σ κ ρ τ ε β) :
    (query statement f >>= g).exec answer s = (g (f s.view)).exec answer s := rfl

/-- A sequence returns exactly when its first part does and the rest then returns. -/
theorem exec_bind_eq_ok {p : Program σ κ ρ τ ε α} {f : α → Program σ κ ρ τ ε β} {value : β}
    {t : Session σ ρ τ} : (p >>= f).exec answer s = (.ok value, t) ↔
      ∃ first u, p.exec answer s = (.ok first, u) ∧ (f first).exec answer u = (.ok value, t) := by
  rw [exec_bind]
  constructor
  · intro h
    cases hFirst : p.exec answer s with
    | mk outcome u =>
      rw [hFirst] at h
      cases outcome with
      | error error => cases h
      | ok first => exact ⟨first, u, rfl, h⟩
  · rintro ⟨first, u, hFirst, hRest⟩
    rw [hFirst]
    exact hRest

/-- A sequence raises exactly when one of its parts does. -/
theorem exec_bind_eq_error {p : Program σ κ ρ τ ε α} {f : α → Program σ κ ρ τ ε β} {error : ε}
    {t : Session σ ρ τ} : (p >>= f).exec answer s = (.error error, t) ↔
      p.exec answer s = (.error error, t) ∨
      ∃ first u, p.exec answer s = (.ok first, u) ∧ (f first).exec answer u = (.error error, t) := by
  rw [exec_bind]
  cases hFirst : p.exec answer s with
  | mk outcome u =>
    cases outcome with
    | error raised => simp
    | ok first => simp

theorem exec_attempt (p : Program σ κ ρ τ ε α) :
    p.attempt.exec answer s = (.ok (p.exec answer s).1, (p.exec answer s).2) := by
  induction p generalizing s with
  | done value => rfl
  | raise error => rfl
  | select statement next ih => exact ih s.view s
  | write change next ih => exact ih (s.write change)
  | allocate key next ih => exact ih (key s.view) s
  | ask request next ih => exact ih (answer request) _
  | commit next ih => exact ih s.commit
  | rollback next ih => exact ih s.rollback

end Program

end StockAiPlatform.Transaction
