import Mathlib.Tactic.Common

/-! # Loops without a bound

`while True` over a body that goes on with another state, breaks off with a
result, or raises. With fuel the loop can be run. It ends if some fuel is
enough, and how much more there is makes no difference to what it ends with.
-/

namespace StockAiPlatform.Python
set_option autoImplicit false

section Loop

variable {σ ε α : Type}

def whileTrue (body : σ → Except ε (σ ⊕ α)) : Nat → σ → Option (Except ε α)
  | 0, _ => none
  | fuel + 1, s =>
    match body s with
    | .error error => some (.error error)
    | .ok (.inr result) => some (.ok result)
    | .ok (.inl next) => whileTrue body fuel next

variable (body : σ → Except ε (σ ⊕ α))

def EndsWith (s : σ) (outcome : Except ε α) : Prop :=
  ∃ fuel, whileTrue body fuel s = some outcome

def Ends (s : σ) : Prop := ∃ outcome, EndsWith body s outcome

/-- The pass that starts in this state is the last one. -/
def Breaks (s : σ) : Except ε α → Prop
  | .error error => body s = .error error
  | .ok result => body s = .ok (.inr result)

variable {body} {s next : σ} {outcome other : Except ε α}

theorem endsWith_of_breaks (h : Breaks body s outcome) : EndsWith body s outcome := by
  refine ⟨1, ?_⟩
  cases outcome with
  | error error => rw [whileTrue, show body s = .error error from h]
  | ok result => rw [whileTrue, show body s = .ok (.inr result) from h]

theorem endsWith_of_again (h : body s = .ok (.inl next)) :
    EndsWith body s outcome ↔ EndsWith body next outcome := by
  constructor
  · rintro ⟨fuel, hFuel⟩
    cases fuel with
    | zero => cases hFuel
    | succ fuel =>
      rw [whileTrue, h] at hFuel
      exact ⟨fuel, hFuel⟩
  · rintro ⟨fuel, hFuel⟩
    refine ⟨fuel + 1, ?_⟩
    rw [whileTrue, h]
    exact hFuel

/-- What survives every pass holds where the last pass starts. -/
theorem EndsWith.invariant (Inv : σ → Prop)
    (hAgain : ∀ s next, Inv s → body s = .ok (.inl next) → Inv next)
    (h : EndsWith body s outcome) (hInv : Inv s) : ∃ last, Inv last ∧ Breaks body last outcome := by
  obtain ⟨fuel, hFuel⟩ := h
  induction fuel generalizing s with
  | zero => cases hFuel
  | succ fuel ih =>
    rw [whileTrue] at hFuel
    split at hFuel
    · cases hFuel
      exact ⟨s, hInv, ‹_›⟩
    · cases hFuel
      exact ⟨s, hInv, ‹_›⟩
    · rename_i next hNext
      exact ih (hAgain s next hInv hNext) hFuel

/-- A loop ends if every pass that goes on lowers a measure. -/
theorem ends_of_measure (measure : σ → Nat)
    (h : ∀ s next, body s = .ok (.inl next) → measure next < measure s) (s : σ) : Ends body s := by
  induction hMeasure : measure s using Nat.strongRecOn generalizing s with
  | ind n ih =>
    cases hBody : body s with
    | error error => exact ⟨.error error, endsWith_of_breaks hBody⟩
    | ok turn =>
      cases turn with
      | inr result => exact ⟨.ok result, endsWith_of_breaks hBody⟩
      | inl next =>
        obtain ⟨outcome, hEnds⟩ := ih (measure next) (hMeasure ▸ h s next hBody) next rfl
        exact ⟨outcome, (endsWith_of_again hBody).mpr hEnds⟩

/-- A loop whose every pass goes on where an invariant holds never ends there. -/
theorem not_ends_of_forever (Inv : σ → Prop)
    (h : ∀ s, Inv s → ∃ next, body s = .ok (.inl next) ∧ Inv next) (hInv : Inv s) :
    ¬ Ends body s := by
  rintro ⟨outcome, hEnds⟩
  have hKeeps : ∀ s next, Inv s → body s = .ok (.inl next) → Inv next := by
    intro s next hInv hNext
    obtain ⟨other, hOther, hKept⟩ := h s hInv
    cases hNext.symm.trans hOther
    exact hKept
  obtain ⟨last, hLast, hBreaks⟩ := hEnds.invariant Inv hKeeps hInv
  obtain ⟨next, hNext, -⟩ := h last hLast
  cases outcome with
  | error error => cases hNext.symm.trans hBreaks
  | ok result => cases hNext.symm.trans hBreaks

end Loop

end StockAiPlatform.Python
