import Mathlib.Tactic.Common

/-! # Programs whose changes outlive an exception

A program that raises leaves the state as it was when it raised. What holds of
the state after each of its steps holds after the program, however it ends.
-/

namespace StockAiPlatform.Transaction
set_option autoImplicit false

section Raising

variable {ε σ α β : Type}

/-- The state a program leaves behind. -/
def left : EStateM.Result ε σ α → σ
  | .ok _ s => s
  | .error _ s => s

variable {p : EStateM ε σ α} {f : α → EStateM ε σ β} {s t : σ}

theorem run_bind_of_ok {value : α} (h : p.run s = .ok value t) :
    (p >>= f).run s = (f value).run t := by rw [EStateM.run_bind, h]

theorem run_bind_of_error {error : ε} (h : p.run s = .error error t) :
    (p >>= f).run s = .error error t := by rw [EStateM.run_bind, h]

/-- What leaves the state as it is can follow. -/
theorem left_bind (h : ∀ value t, left ((f value).run t) = t) :
    left ((p >>= f).run s) = left (p.run s) := by
  cases hFirst : p.run s with
  | ok value t => rw [run_bind_of_ok hFirst, h, left]
  | error error t => rw [run_bind_of_error hFirst, left, left]

theorem run_bind_eq_ok {value : β} {u : σ} : (p >>= f).run s = .ok value u ↔
    ∃ first t, p.run s = .ok first t ∧ (f first).run t = .ok value u := by
  cases h : p.run s with
  | ok first t =>
    rw [run_bind_of_ok h]
    constructor
    · exact fun hRest => ⟨first, t, rfl, hRest⟩
    · rintro ⟨other, t', hSame, hRest⟩
      cases hSame
      exact hRest
  | error error t =>
    rw [run_bind_of_error h]
    constructor
    · intro hOk
      cases hOk
    · rintro ⟨other, t', hSame, -⟩
      cases hSame

/-- However the program ends, the state it leaves is related to the one it began in. -/
def Moves (R : σ → σ → Prop) (p : EStateM ε σ α) (s : σ) : Prop := R s (left (p.run s))

namespace Moves

variable {R : σ → σ → Prop}

theorem of_ok (h : Moves R p s) {value : α} (hOk : p.run s = .ok value t) : R s t := by
  rw [Moves, hOk] at h
  exact h

theorem of_error (h : Moves R p s) {error : ε} (hError : p.run s = .error error t) : R s t := by
  rw [Moves, hError] at h
  exact h

theorem bind (hTrans : ∀ {s t u}, R s t → R t u → R s u) (h : Moves R p s)
    (hNext : ∀ value t, p.run s = .ok value t → Moves R (f value) t) : Moves R (p >>= f) s := by
  rw [Moves]
  cases hFirst : p.run s with
  | ok value t =>
    rw [run_bind_of_ok hFirst]
    exact hTrans (h.of_ok hFirst) (hNext value t hFirst)
  | error error t =>
    rw [run_bind_of_error hFirst]
    exact h.of_error hFirst

end Moves

end Raising

end StockAiPlatform.Transaction
