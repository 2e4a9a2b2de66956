import Mathlib.Order.Basic
import Mathlib.Tactic.Common

/-! # Runs of a deterministic step

A run applies one step after the other. `Along` says that every step of a run
meets a condition in the state it starts from.
-/

namespace StockAiPlatform.Transaction
set_option autoImplicit false

section Run

variable {ι S : Type}

def run (step : ι → S → S) : List ι → S → S
  | [], s => s
  | i :: is, s => run step is (step i s)

def Along (step : ι → S → S) (P : ι → S → Prop) : List ι → S → Prop
  | [], _ => True
  | i :: is, s => P i s ∧ Along step P is (step i s)

variable {step : ι → S → S} {P Q : ι → S → Prop}

theorem run_append (is js : List ι) (s : S) :
    run step (is ++ js) s = run step js (run step is s) := by
  induction is generalizing s with
  | nil => rfl
  | cons i is ih => exact ih (step i s)

/-- What holds at the start and survives every step that meets the condition holds at the end. -/
theorem Along.invariant (Inv : S → Prop) (hStep : ∀ i s, P i s → Inv s → Inv (step i s))
    {is : List ι} {s : S} (hP : Along step P is s) (hInv : Inv s) : Inv (run step is s) := by
  induction is generalizing s with
  | nil => exact hInv
  | cons i is ih => exact ih hP.2 (hStep i s hP.1 hInv)

theorem Along.of_forall {is : List ι} (h : ∀ i ∈ is, ∀ s, P i s) (s : S) : Along step P is s := by
  induction is generalizing s with
  | nil => trivial
  | cons i is ih =>
    rw [List.forall_mem_cons] at h
    exact ⟨h.1 s, ih h.2 (step i s)⟩

theorem run_invariant (Inv : S → Prop) (hStep : ∀ i s, Inv s → Inv (step i s))
    (is : List ι) {s : S} (hInv : Inv s) : Inv (run step is s) := by
  induction is generalizing s with
  | nil => exact hInv
  | cons i is ih => exact ih (hStep i s hInv)

/-- Conditions that agree on single steps under an invariant they keep agree along runs. -/
theorem along_congr (Inv : S → Prop) {is : List ι}
    (h : ∀ i ∈ is, ∀ s, Inv s → (P i s ↔ Q i s))
    (hInv : ∀ i ∈ is, ∀ s, P i s → Inv s → Inv (step i s)) {s : S} (hs : Inv s) :
    Along step P is s ↔ Along step Q is s := by
  induction is generalizing s with
  | nil => exact Iff.rfl
  | cons i is ih =>
    rw [List.forall_mem_cons] at h hInv
    constructor
    · rintro ⟨hP, hRest⟩
      exact ⟨(h.1 s hs).mp hP, (ih h.2 hInv.2 (hInv.1 s hP hs)).mp hRest⟩
    · rintro ⟨hQ, hRest⟩
      have hP := (h.1 s hs).mpr hQ
      exact ⟨hP, (ih h.2 hInv.2 (hInv.1 s hP hs)).mpr hRest⟩

theorem monotone_run {β : Type} [Preorder β] (measure : S → β)
    (hMono : ∀ i s, measure s ≤ measure (step i s)) (is : List ι) (s : S) :
    measure s ≤ measure (run step is s) := by
  induction is generalizing s with
  | nil => exact le_refl _
  | cons i is ih => exact (hMono i s).trans (ih (step i s))

/-- A measure that never decreases ends where it began only if no step moved it. -/
theorem measure_run_eq_iff {β : Type} [PartialOrder β] (measure : S → β)
    (hMono : ∀ i s, measure s ≤ measure (step i s)) (is : List ι) (s : S) :
    measure (run step is s) = measure s ↔
      Along step (fun i s => measure (step i s) = measure s) is s := by
  induction is generalizing s with
  | nil => exact ⟨fun _ => trivial, fun _ => rfl⟩
  | cons i is ih =>
    have hFirst := hMono i s
    have hRest := monotone_run measure hMono is (step i s)
    constructor
    · intro hEq
      have hStep : measure (step i s) = measure s :=
        le_antisymm (hRest.trans (le_of_eq hEq)) hFirst
      exact ⟨hStep, (ih (step i s)).mp (hEq.trans hStep.symm)⟩
    · rintro ⟨hStep, hAlong⟩
      exact ((ih (step i s)).mpr hAlong).trans hStep

end Run

end StockAiPlatform.Transaction
