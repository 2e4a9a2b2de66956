import StockAiPlatform.Transaction.Program

/-! # What a program raises, and what it writes

A program may raise errors of a kind only before its first effect: where it
ends with one of them, its session is as it was. And it may keep a part of the
store as it is, however it ends.
-/

namespace StockAiPlatform.Transaction.Program
set_option autoImplicit false

variable {σ κ ρ : Type} {τ : ρ → Type} {ε α β : Type}

/-- No error of the kind is ever raised. -/
def Avoids (kind : ε → Prop) : Program σ κ ρ τ ε α → Prop
  | .done _ => True
  | .raise error => ¬ kind error
  | .select _ next => ∀ s, (next s).Avoids kind
  | .write _ next => next.Avoids kind
  | .allocate _ next => ∀ n, (next n).Avoids kind
  | .ask _ next => ∀ reply, (next reply).Avoids kind
  | .commit next => next.Avoids kind
  | .rollback next => next.Avoids kind

/-- From its first effect on, the program avoids the kind. -/
def ChecksFirst (kind : ε → Prop) : Program σ κ ρ τ ε α → Prop
  | .done _ => True
  | .raise _ => True
  | .select _ next => ∀ s, (next s).ChecksFirst kind
  | .write _ next => next.Avoids kind
  | .allocate _ next => ∀ n, (next n).ChecksFirst kind
  | .ask _ next => ∀ reply, (next reply).Avoids kind
  | .commit next => next.Avoids kind
  | .rollback next => next.Avoids kind

variable {kind : ε → Prop} {p : Program σ κ ρ τ ε α} {f : α → Program σ κ ρ τ ε β}

theorem Avoids.bind (hp : p.Avoids kind) (hf : ∀ value, (f value).Avoids kind) :
    (p >>= f).Avoids kind := by
  rw [bind_eq]
  induction p with
  | done value => exact hf value
  | raise error => exact hp
  | select statement next ih => exact fun s => ih s (hp s)
  | write change next ih => exact ih hp
  | allocate key next ih => exact fun n => ih n (hp n)
  | ask request next ih => exact fun reply => ih reply (hp reply)
  | commit next ih => exact ih hp
  | rollback next ih => exact ih hp

theorem Avoids.checksFirst (hp : p.Avoids kind) : p.ChecksFirst kind := by
  induction p with
  | done value => trivial
  | raise error => trivial
  | select statement next ih => exact fun s => ih s (hp s)
  | write change next => exact hp
  | allocate key next ih => exact fun n => ih n (hp n)
  | ask request next => exact hp
  | commit next => exact hp
  | rollback next => exact hp

theorem ChecksFirst.bind (hp : p.ChecksFirst kind) (hf : ∀ value, (f value).Avoids kind) :
    (p >>= f).ChecksFirst kind := by
  have hRest : ∀ {next : Program σ κ ρ τ ε α}, next.Avoids kind → (next.bind f).Avoids kind :=
    fun h => h.bind hf
  rw [bind_eq]
  induction p with
  | done value => exact (hf value).checksFirst
  | raise error => trivial
  | select statement next ih => exact fun s => ih s (hp s)
  | write change next => exact hRest hp
  | allocate key next ih => exact fun n => ih n (hp n)
  | ask request next => exact fun reply => hRest (hp reply)
  | commit next => exact hRest hp
  | rollback next => exact hRest hp

theorem avoids_query_bind {γ : Type} {statement : κ} {g : σ → γ} {f : γ → Program σ κ ρ τ ε β}
    (h : ∀ s, (f (g s)).Avoids kind) : (query statement g >>= f).Avoids kind := h

/-- What is read before a check does not count. -/
theorem checksFirst_query_bind {γ : Type} {statement : κ} {g : σ → γ} {f : γ → Program σ κ ρ τ ε β}
    (h : ∀ s, (f (g s)).ChecksFirst kind) : (query statement g >>= f).ChecksFirst kind := h

theorem checksFirst_ofExcept_bind {outcome : Except ε α}
    (h : ∀ value, outcome = .ok value → (f value).ChecksFirst kind) :
    (ofExcept outcome >>= f).ChecksFirst kind := by
  cases outcome with
  | ok value => exact h value rfl
  | error error => trivial

variable {answer : (request : ρ) → τ request} {s t : Session σ ρ τ} {error : ε}

theorem Avoids.not_kind (hp : p.Avoids kind) (h : p.exec answer s = (.error error, t)) :
    ¬ kind error := by
  induction p generalizing s with
  | done value => cases h
  | raise raised =>
    cases h
    exact hp
  | select statement next ih => exact ih s.view (hp s.view) h
  | write change next ih => exact ih hp h
  | allocate key next ih => exact ih (key s.view) (hp _) h
  | ask request next ih => exact ih (answer request) (hp _) h
  | commit next ih => exact ih hp h
  | rollback next ih => exact ih hp h

theorem ChecksFirst.session_eq (hp : p.ChecksFirst kind) (hKind : kind error)
    (h : p.exec answer s = (.error error, t)) : t = s := by
  induction p generalizing s with
  | done value => cases h
  | raise raised =>
    cases h
    rfl
  | select statement next ih => exact ih s.view (hp s.view) h
  | write change next => exact absurd hKind (Avoids.not_kind (p := next) hp h)
  | allocate key next ih => exact ih (key s.view) (hp _) h
  | ask request next => exact absurd hKind ((hp _).not_kind h)
  | commit next => exact absurd hKind (Avoids.not_kind (p := next) hp h)
  | rollback next => exact absurd hKind (Avoids.not_kind (p := next) hp h)

/-! ## Parts a program leaves alone -/

/-- No write of the program changes what `part` shows of the store, and none is taken back. -/
def Keeps {γ : Type} (part : σ → γ) : Program σ κ ρ τ ε α → Prop
  | .done _ => True
  | .raise _ => True
  | .select _ next => ∀ s, (next s).Keeps part
  | .write change next => (∀ s, part (change s) = part s) ∧ next.Keeps part
  | .allocate _ next => ∀ n, (next n).Keeps part
  | .ask _ next => ∀ reply, (next reply).Keeps part
  | .commit next => next.Keeps part
  | .rollback _ => False

variable {γ : Type} {part : σ → γ}

theorem Keeps.bind (hp : p.Keeps part) (hf : ∀ value, (f value).Keeps part) :
    (p >>= f).Keeps part := by
  rw [bind_eq]
  induction p with
  | done value => exact hf value
  | raise error => trivial
  | select statement next ih => exact fun s => ih s (hp s)
  | write change next ih => exact ⟨hp.1, ih hp.2⟩
  | allocate key next ih => exact fun n => ih n (hp n)
  | ask request next ih => exact fun reply => ih reply (hp reply)
  | commit next ih => exact ih hp
  | rollback next => exact hp.elim

theorem Keeps.attempt (hp : p.Keeps part) : p.attempt.Keeps part := by
  induction p with
  | done value => trivial
  | raise error => trivial
  | select statement next ih => exact fun s => ih s (hp s)
  | write change next ih => exact ⟨hp.1, ih hp.2⟩
  | allocate key next ih => exact fun n => ih n (hp n)
  | ask request next ih => exact fun reply => ih reply (hp reply)
  | commit next ih => exact ih hp
  | rollback next => exact hp.elim

theorem keeps_query_bind {δ : Type} {statement : κ} {g : σ → δ} {f : δ → Program σ κ ρ τ ε β}
    (h : ∀ s, (f (g s)).Keeps part) : (query statement g >>= f).Keeps part := h

theorem Keeps.view_exec (answer : (request : ρ) → τ request) (hp : p.Keeps part)
    (s : Session σ ρ τ) : part (p.exec answer s).2.view = part s.view := by
  induction p generalizing s with
  | done value => rfl
  | raise error => rfl
  | select statement next ih => exact ih s.view (hp s.view) s
  | write change next ih => exact (ih hp.2 (s.write change)).trans (hp.1 s.view)
  | allocate key next ih => exact ih (key s.view) (hp _) s
  | ask request next ih => exact ih (answer request) (hp _) _
  | commit next ih => exact ih hp s.commit
  | rollback next => exact hp.elim

end StockAiPlatform.Transaction.Program
