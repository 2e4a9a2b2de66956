import StockAiPlatform.Transaction.Effects

/-! # Programs that work on a part of the store

What such a program reads, and what it makes of the part, follows from the
part alone. On two stores that agree there it ends the same way, and they
agree there afterwards.
-/

namespace StockAiPlatform.Transaction.Program
set_option autoImplicit false

variable {σ κ ρ : Type} {τ : ρ → Type} {ε α β γ : Type}

def Local (part : σ → γ) : Program σ κ ρ τ ε α → Prop
  | .done _ => True
  | .raise _ => True
  | .select _ next =>
    (∀ s t, part s = part t → next s = next t) ∧ ∀ s, (next s).Local part
  | .write change next =>
    (∀ s t, part s = part t → part (change s) = part (change t)) ∧ next.Local part
  | .allocate key next => (∀ s t, part s = part t → key s = key t) ∧ ∀ n, (next n).Local part
  | .ask _ next => ∀ reply, (next reply).Local part
  | .commit next => next.Local part
  | .rollback _ => False

variable {part : σ → γ} {p : Program σ κ ρ τ ε α} {f : α → Program σ κ ρ τ ε β}

theorem Local.bind (hp : p.Local part) (hf : ∀ value, (f value).Local part) :
    (p >>= f).Local part := by
  rw [bind_eq]
  induction p with
  | done value => exact hf value
  | raise error => trivial
  | select statement next ih =>
    exact ⟨fun s t h => congrArg (fun q => q.bind f) (hp.1 s t h), fun s => ih s (hp.2 s)⟩
  | write change next ih => exact ⟨hp.1, ih hp.2⟩
  | allocate key next ih => exact ⟨hp.1, fun n => ih n (hp.2 n)⟩
  | ask request next ih => exact fun reply => ih reply (hp reply)
  | commit next ih => exact ih hp
  | rollback next => exact hp.elim

theorem Local.attempt (hp : p.Local part) : p.attempt.Local part := by
  induction p with
  | done value => trivial
  | raise error => trivial
  | select statement next ih =>
    exact ⟨fun s t h => congrArg Program.attempt (hp.1 s t h), fun s => ih s (hp.2 s)⟩
  | write change next ih => exact ⟨hp.1, ih hp.2⟩
  | allocate key next ih => exact ⟨hp.1, fun n => ih n (hp.2 n)⟩
  | ask request next ih => exact fun reply => ih reply (hp reply)
  | commit next ih => exact ih hp
  | rollback next => exact hp.elim

theorem local_query_bind {δ : Type} {statement : κ} {g : σ → δ} {f : δ → Program σ κ ρ τ ε β}
    (hRead : ∀ s t, part s = part t → g s = g t) (h : ∀ s, (f (g s)).Local part) :
    (query statement g >>= f).Local part :=
  ⟨fun s t hPart => congrArg f (hRead s t hPart), h⟩

theorem local_query {statement : κ} {g : σ → α} (hRead : ∀ s t, part s = part t → g s = g t) :
    (query statement g : Program σ κ ρ τ ε α).Local part :=
  ⟨fun s t hPart => congrArg Program.done (hRead s t hPart), fun _ => trivial⟩

theorem local_modify {change : σ → σ}
    (h : ∀ s t, part s = part t → part (change s) = part (change t)) :
    (modify change : Program σ κ ρ τ ε Unit).Local part := ⟨h, trivial⟩

theorem local_ofExcept (outcome : Except ε α) :
    (ofExcept outcome : Program σ κ ρ τ ε α).Local part := by
  cases outcome <;> trivial

/-- A change that carries the part over to a change of it. -/
theorem local_modify_of {change : σ → σ} (g : γ → γ) (h : ∀ s, part (change s) = g (part s)) :
    (modify change : Program σ κ ρ τ ε Unit).Local part := by
  refine local_modify fun s t hPart => ?_
  rw [h, h, hPart]

variable {answer : (request : ρ) → τ request} {s t : Session σ ρ τ}

variable (answer) in
theorem Local.exec_eq (hp : p.Local part) (h : part s.view = part t.view) :
    (p.exec answer s).1 = (p.exec answer t).1 ∧
      part (p.exec answer s).2.view = part (p.exec answer t).2.view := by
  induction p generalizing s t with
  | done value => exact ⟨rfl, h⟩
  | raise error => exact ⟨rfl, h⟩
  | select statement next ih =>
    have hSame := hp.1 s.view t.view h
    rw [exec, exec, ← hSame]
    exact ih s.view (hp.2 s.view) h
  | write change next ih => exact ih hp.2 (hp.1 s.view t.view h)
  | allocate key next ih =>
    have hSame := hp.1 s.view t.view h
    rw [exec, exec, ← hSame]
    exact ih (key s.view) (hp.2 _) h
  | ask request next ih => exact ih (answer request) (hp _) h
  | commit next ih => exact ih hp h
  | rollback next => exact hp.elim

/-- What is returned on one store is returned on the other. -/
theorem Local.exec_ok (hp : p.Local part) (h : part s.view = part t.view) {value : α}
    {u : Session σ ρ τ} (hExec : p.exec answer s = (.ok value, u)) :
    ∃ v, p.exec answer t = (.ok value, v) ∧ part u.view = part v.view := by
  obtain ⟨hOutcome, hView⟩ := hp.exec_eq answer h
  rw [hExec] at hOutcome hView
  exact ⟨(p.exec answer t).2, Prod.ext hOutcome.symm rfl, hView⟩

end StockAiPlatform.Transaction.Program
