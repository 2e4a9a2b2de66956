import StockAiPlatform.Transaction.Program

/-! # Calls on a session, and what their caller does with it

A call that raises is rolled back. After any other its caller commits, rolls back,
or goes on. What is noted about the rows of a session is kept and undone with them.
-/

namespace StockAiPlatform.Transaction
set_option autoImplicit false

inductive Ending where
  | commits
  | rollsBack
  | goesOn
  deriving DecidableEq, Repr

/-- A session, a note on what it sees, and the note on what is durable. -/
structure Noted (σ ρ : Type) (τ : ρ → Type) (ν : Type) where
  session : Session σ ρ τ
  note : ν
  durableNote : ν

namespace Noted

variable {σ ρ ν ε α : Type} {τ : ρ → Type}

def opened (durable : σ) (note : ν) : Noted σ ρ τ ν := ⟨.opened durable, note, note⟩

def ended (w : Noted σ ρ τ ν) : Ending → Noted σ ρ τ ν
  | .commits => ⟨w.session.commit, w.note, w.note⟩
  | .rollsBack => ⟨w.session.rollback, w.durableNote, w.durableNote⟩
  | .goesOn => w

/-- After a call that left this outcome and this session. -/
def leave (w : Noted σ ρ τ ν) (left : Except ε α × Session σ ρ τ) (note : ν) (ending : Ending) :
    Noted σ ρ τ ν :=
  match left.1 with
  | .ok _ => ended ⟨left.2, note, w.durableNote⟩ ending
  | .error _ => ended ⟨left.2, note, w.durableNote⟩ .rollsBack

/-- What is seen and what is durable both meet a condition, each with its note. -/
structure Holds (P : σ → ν → Prop) (w : Noted σ ρ τ ν) : Prop where
  seen : P w.session.view w.note
  durable : P w.session.durable w.durableNote

variable {P : σ → ν → Prop} {w : Noted σ ρ τ ν}

theorem holds_opened {durable : σ} {note : ν} (h : P durable note) :
    Holds P (opened durable note : Noted σ ρ τ ν) := ⟨h, h⟩

theorem Holds.ended (h : Holds P w) (ending : Ending) : Holds P (w.ended ending) := by
  cases ending with
  | commits => exact ⟨h.seen, h.seen⟩
  | rollsBack => exact ⟨h.durable, h.durable⟩
  | goesOn => exact h

/-- A call that commits nothing itself has to keep the condition only if it returns. -/
theorem Holds.leave (h : Holds P w) {left : Except ε α × Session σ ρ τ} {note : ν}
    (hDurable : left.2.durable = w.session.durable)
    (hSeen : ∀ value, left.1 = .ok value → P left.2.view note) (ending : Ending) :
    Holds P (w.leave left note ending) := by
  have hStored : P left.2.durable w.durableNote := hDurable ▸ h.durable
  rw [Noted.leave]
  split
  next value hOk => exact Holds.ended (w := ⟨left.2, note, w.durableNote⟩) ⟨hSeen value hOk, hStored⟩ ending
  next => exact ⟨hStored, hStored⟩

end Noted

end StockAiPlatform.Transaction
