import StockAiPlatform.Transaction.Program

/-! # Lists of computations that may raise

A pass over a list that raises where one of its elements does, and otherwise
returns or accumulates what the elements return.
-/

namespace StockAiPlatform.Transaction
set_option autoImplicit false

section Fallible

variable {ε α β γ : Type} {f : α → Except ε β}

theorem mapM_cons_eq_ok {a : α} {rows : List α} {out : List β} :
    (a :: rows).mapM f = .ok out ↔
      ∃ b rest, f a = .ok b ∧ rows.mapM f = .ok rest ∧ out = b :: rest := by
  rw [List.mapM_cons, except_bind_eq_ok]
  constructor
  · rintro ⟨b, hFirst, hThen⟩
    obtain ⟨rest, hRest, hOut⟩ := except_bind_eq_ok.mp hThen
    exact ⟨b, rest, hFirst, hRest, (Except.ok.inj hOut).symm⟩
  · rintro ⟨b, rest, hFirst, hRest, rfl⟩
    exact ⟨b, hFirst, except_bind_eq_ok.mpr ⟨rest, hRest, rfl⟩⟩

theorem map_of_mapM {g : β → γ} {h : α → γ} (hEach : ∀ a b, f a = .ok b → g b = h a)
    {rows : List α} {out : List β} (hOk : rows.mapM f = .ok out) : out.map g = rows.map h := by
  induction rows generalizing out with
  | nil =>
    cases hOk
    rfl
  | cons a rows ih =>
    obtain ⟨b, rest, hFirst, hRest, rfl⟩ := mapM_cons_eq_ok.mp hOk
    rw [List.map_cons, List.map_cons, ih hRest, hEach a b hFirst]

theorem mapM_ok_iff {rows : List α} :
    (∃ out, rows.mapM f = .ok out) ↔ ∀ a ∈ rows, ∃ b, f a = .ok b := by
  induction rows with
  | nil => exact ⟨fun _ _ h => absurd h List.not_mem_nil, fun _ => ⟨[], rfl⟩⟩
  | cons a rows ih =>
    rw [List.forall_mem_cons, ← ih]
    constructor
    · rintro ⟨out, hOk⟩
      obtain ⟨b, rest, hFirst, hRest, -⟩ := mapM_cons_eq_ok.mp hOk
      exact ⟨⟨b, hFirst⟩, rest, hRest⟩
    · rintro ⟨⟨b, hFirst⟩, rest, hRest⟩
      exact ⟨b :: rest, mapM_cons_eq_ok.mpr ⟨b, rest, hFirst, hRest, rfl⟩⟩

/-- Where an element returns something exactly if it is good, the pass does if all are. -/
theorem mapM_eq_ok_map {g : α → β} {good : α → Prop}
    (h : ∀ a b, f a = .ok b ↔ good a ∧ b = g a) {rows : List α} {out : List β} :
    rows.mapM f = .ok out ↔ (∀ a ∈ rows, good a) ∧ out = rows.map g := by
  induction rows generalizing out with
  | nil =>
    exact ⟨fun hOk => ⟨fun _ hNone => absurd hNone List.not_mem_nil, (Except.ok.inj hOk).symm⟩,
      fun hOk => congrArg Except.ok hOk.2.symm⟩
  | cons a rows ih =>
    simp only [mapM_cons_eq_ok, h, ih, List.forall_mem_cons, List.map_cons]
    constructor
    · rintro ⟨b, rest, ⟨hFirst, rfl⟩, ⟨hRest, rfl⟩, rfl⟩
      exact ⟨⟨hFirst, hRest⟩, rfl⟩
    · rintro ⟨⟨hFirst, hRest⟩, rfl⟩
      exact ⟨_, _, ⟨hFirst, rfl⟩, ⟨hRest, rfl⟩, rfl⟩

/-- A loop that adds to an accumulator what each element returns. -/
theorem foldlM_eq_ok {add : γ → β → γ} {rows : List α} {start out : γ} :
    rows.foldlM (fun acc a => do return add acc (← f a)) start = .ok out ↔
      ∃ values, rows.mapM f = .ok values ∧ values.foldl add start = out := by
  induction rows generalizing start with
  | nil =>
    constructor
    · intro hOk
      cases hOk
      exact ⟨[], rfl, rfl⟩
    · rintro ⟨values, hValues, hOut⟩
      cases hValues
      exact congrArg Except.ok hOut
  | cons a rows ih =>
    rw [List.foldlM_cons, except_bind_eq_ok]
    constructor
    · rintro ⟨next, hPass, hRest⟩
      obtain ⟨b, hFirst, hNext⟩ := except_bind_eq_ok.mp hPass
      obtain ⟨values, hValues, hOut⟩ := ih.mp hRest
      refine ⟨b :: values, mapM_cons_eq_ok.mpr ⟨b, values, hFirst, hValues, rfl⟩, ?_⟩
      rw [List.foldl_cons, Except.ok.inj hNext, hOut]
    · rintro ⟨values, hValues, hOut⟩
      obtain ⟨b, rest, hFirst, hRest, rfl⟩ := mapM_cons_eq_ok.mp hValues
      exact ⟨add start b, except_bind_eq_ok.mpr ⟨b, hFirst, rfl⟩, ih.mpr ⟨rest, hRest, hOut⟩⟩

end Fallible

end StockAiPlatform.Transaction
