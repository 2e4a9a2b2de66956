import Mathlib.Tactic.Linarith
import Mathlib.Tactic.Ring
import StockAiPlatform.Paper.FillOutcomes

/-! # Conservation of the paper ledger

What an account started with is its cash, plus what its positions cost, less
what they realized. Every fill keeps that, and cash and holdings are what the
recorded fills add up to.
-/

namespace StockAiPlatform
set_option autoImplicit false

open Transaction VirtualPositionRepository

section Positions

variable {accountId : Nat} {symbol : String} {before ensured : List VirtualPosition}
  {position moved : VirtualPosition} {keep : VirtualPosition → Bool}

theorem Ensured.isAt (h : Ensured accountId symbol before ensured position) :
    position.isAt accountId symbol = true := by
  obtain ⟨rfl, rfl⟩ := isAt_of_ensured h
  simp [VirtualPosition.isAt]

theorem Ensured.single (h : Ensured accountId symbol before ensured position)
    (hUnique : (before.filter (VirtualPosition.isAt accountId symbol)).length ≤ 1) :
    ensured.filter (VirtualPosition.isAt accountId symbol) = [position] := by
  have hAt := h.isAt
  cases h with
  | found h =>
    rw [← List.head?_filter, List.head?_eq_some_iff] at h
    obtain ⟨rest, hRest⟩ := h
    rw [hRest, List.length_cons] at hUnique
    have hNone : rest = [] := List.length_eq_zero_iff.mp (by omega)
    rw [hRest, hNone]
  | opened h =>
    rw [List.filter_append, List.filter_eq_nil_iff.mpr (List.find?_eq_none.mp h)]
    exact List.filter_cons_of_pos hAt

theorem Ensured.filter_of_disjoint (h : Ensured accountId symbol before ensured position)
    (hApart : ∀ row, VirtualPosition.isAt accountId symbol row = true → keep row = false) :
    ensured.filter keep = before.filter keep := by
  have hAt := h.isAt
  cases h with
  | found h => rfl
  | opened h =>
    rw [List.filter_append, List.filter_singleton, hApart _ hAt]
    exact List.append_nil _

theorem Ensured.quantity (h : Ensured accountId symbol before ensured position) :
    ((before.find? (VirtualPosition.isAt accountId symbol)).map VirtualPosition.quantity).getD 0 =
      position.quantity := by
  cases h with
  | found h =>
    rw [h]
    rfl
  | opened h =>
    rw [h]
    rfl

theorem mem_booked (h : Ensured accountId symbol before ensured position) {row : VirtualPosition}
    (hRow : row ∈ booked accountId symbol moved ensured) :
    row = moved ∨ row ∈ before := by
  obtain ⟨old, hOld, rfl⟩ := List.mem_map.mp hRow
  split
  · exact .inl rfl
  · rename_i hNot
    refine .inr ?_
    cases h with
    | found h => exact hOld
    | opened h =>
      rcases List.mem_append.mp hOld with hOld | hNew
      · exact hOld
      · rw [List.mem_singleton.mp hNew] at hNot
        exact absurd (by simp [VirtualPosition.isAt, VirtualPosition.opened]) hNot

section Booked

variable (h : Ensured accountId symbol before ensured position)
  (hMoved : moved.isAt accountId symbol = true)
include h hMoved

theorem filter_booked_of_disjoint
    (hApart : ∀ row, VirtualPosition.isAt accountId symbol row = true → keep row = false) :
    (booked accountId symbol moved ensured).filter keep = before.filter keep := by
  rw [booked, filter_updateWhere_of_disjoint, h.filter_of_disjoint hApart]
  · intro row hRow
    rw [hApart row hRow, hApart moved hMoved]
  · intro row hKeep
    by_contra hRow
    rw [hApart row (eq_true_of_ne_false hRow)] at hKeep
    cases hKeep

theorem filter_booked (hUnique : (before.filter (VirtualPosition.isAt accountId symbol)).length ≤ 1) :
    (booked accountId symbol moved ensured).filter (VirtualPosition.isAt accountId symbol) = [moved] :=
  filter_updateWhere_of_single (h.single hUnique) fun _ _ => hMoved

theorem sum_booked (hUnique : (before.filter (VirtualPosition.isAt accountId symbol)).length ≤ 1)
    (hKeep : ∀ row, VirtualPosition.isAt accountId symbol row = true → keep row = true)
    {g : VirtualPosition → ℚ} (hZero : g (.opened accountId symbol) = 0) :
    (((booked accountId symbol moved ensured).filter keep).map g).sum =
      ((before.filter keep).map g).sum + (g moved - g position) := by
  have hSingle : (ensured.filter keep).filter (VirtualPosition.isAt accountId symbol) = [position] := by
    rw [List.filter_filter, ← h.single hUnique]
    refine List.filter_congr fun row _ => ?_
    cases hRow : VirtualPosition.isAt accountId symbol row with
    | false => rw [Bool.false_and]
    | true => rw [hKeep row hRow, Bool.and_true]
  rw [booked, filter_updateWhere, sum_updateWhere g hSingle]
  · congr 1
    have hAt := h.isAt
    cases h with
    | found h => rfl
    | opened h =>
      rw [List.filter_append, List.filter_cons_of_pos (hKeep _ hAt), List.map_append, List.sum_append]
      simp [hZero]
  · intro row hRow
    rw [hKeep row hRow, hKeep moved hMoved]

end Booked

end Positions

namespace VirtualPosition

def costBasis (position : VirtualPosition) : ℚ := position.quantity * position.avgCost

/-- No short position, and no cost without shares. -/
structure Sound (position : VirtualPosition) : Prop where
  quantity : 0 ≤ position.quantity
  avgCost : position.quantity = 0 → position.avgCost = 0

variable {fill : VirtualFill} {position : VirtualPosition}

theorem isAt_after (fill : VirtualFill) (position : VirtualPosition) (accountId : Nat)
    (symbol : String) : (position.after fill).isAt accountId symbol = position.isAt accountId symbol := by
  unfold after
  cases fill.side <;> rfl

theorem quantity_after (fill : VirtualFill) (position : VirtualPosition) :
    (position.after fill).quantity = position.quantity + fill.signedQuantity := by
  unfold after VirtualFill.signedQuantity
  cases fill.side <;> rfl

/-- What a fill moves in cost and in realized profit is what it moves in cash. -/
theorem worth_after (fill : VirtualFill) (hSound : position.Sound) :
    (position.after fill).costBasis - (position.after fill).realizedPnl =
      position.costBasis - position.realizedPnl - fill.cashFlow := by
  have hPos : 0 < fill.quantity := fill.quantity_pos
  have hQuantity := hSound.quantity
  unfold after VirtualFill.cashFlow costBasis
  cases fill.side with
  | buy =>
    have hNonzero : ((position.quantity + fill.quantity : Int) : ℚ) ≠ 0 := by
      exact_mod_cast (by omega : position.quantity + fill.quantity ≠ 0)
    simp only [bought]
    rw [mul_div_cancel₀ _ hNonzero]
    ring
  | sell =>
    simp only [sold, realizedBy]
    split
    · rename_i hOut
      have hAll : position.quantity = fill.quantity := by omega
      rw [hAll]
      ring
    · push_cast
      ring

theorem sound_after (hSound : position.Sound)
    (hHeld : fill.side = .sell → fill.quantity ≤ position.quantity) : (position.after fill).Sound := by
  have hPos : 0 < fill.quantity := fill.quantity_pos
  have hQuantity := hSound.quantity
  unfold after
  cases hSide : fill.side with
  | buy =>
    constructor
    · simp only [bought]
      omega
    · simp only [bought]
      omega
  | sell =>
    have hEnough := hHeld hSide
    constructor
    · simp only [sold]
      omega
    · intro hOut
      exact if_pos hOut

end VirtualPosition

def netOf (side : Side) (fills : List VirtualFill) : ℚ :=
  ((fills.filter fun fill => fill.side == side).map VirtualFill.netAmount).sum

def sharesOf (side : Side) (fills : List VirtualFill) : Int :=
  ((fills.filter fun fill => fill.side == side).map VirtualFill.quantity).sum

theorem netOf_append (side : Side) (fills : List VirtualFill) (fill : VirtualFill) :
    netOf side (fills ++ [fill]) =
      netOf side fills + if fill.side = side then fill.netAmount else 0 := by
  rw [netOf, List.filter_append, List.map_append, List.sum_append]
  congr 1
  split
  · simp [‹fill.side = side›]
  · simp [‹¬ fill.side = side›]

theorem sharesOf_append (side : Side) (fills : List VirtualFill) (fill : VirtualFill) :
    sharesOf side (fills ++ [fill]) =
      sharesOf side fills + if fill.side = side then fill.quantity else 0 := by
  rw [sharesOf, List.filter_append, List.map_append, List.sum_append]
  congr 1
  split
  · simp [‹fill.side = side›]
  · simp [‹¬ fill.side = side›]

theorem cashFlow_append (fills : List VirtualFill) (fill : VirtualFill) :
    netOf .sell (fills ++ [fill]) - netOf .buy (fills ++ [fill]) =
      netOf .sell fills - netOf .buy fills + fill.cashFlow := by
  rw [netOf_append, netOf_append, VirtualFill.cashFlow]
  cases fill.side
  · rw [if_neg (by decide), if_pos rfl]
    ring
  · rw [if_pos rfl, if_neg (by decide)]
    ring

theorem signedQuantity_append (fills : List VirtualFill) (fill : VirtualFill) :
    sharesOf .buy (fills ++ [fill]) - sharesOf .sell (fills ++ [fill]) =
      sharesOf .buy fills - sharesOf .sell fills + fill.signedQuantity := by
  rw [sharesOf_append, sharesOf_append, VirtualFill.signedQuantity]
  cases fill.side
  · rw [if_pos rfl, if_neg (by decide)]
    ring
  · rw [if_neg (by decide), if_pos rfl]
    ring

namespace Database

def virtualFillsOf (db : Database) (accountId : Nat) : List VirtualFill :=
  db.virtualFills.filter fun fill => fill.accountId == accountId

def holding (db : Database) (accountId : Nat) (symbol : String) : Int :=
  ((findAt accountId symbol db).map VirtualPosition.quantity).getD 0

end Database

/-- The ledger of an account that started with this cash balances. -/
structure Conserved (initialCash : ℚ) (accountId : Nat) (db : Database) : Prop where
  cash : ∃ account, db.virtualAccounts.find? accountId = some account ∧
    account.initialCash = initialCash ∧ 0 ≤ account.cashBalance ∧
    initialCash = account.cashBalance
      + ((positionsOf accountId db).map VirtualPosition.costBasis).sum
      - ((positionsOf accountId db).map VirtualPosition.realizedPnl).sum ∧
    account.cashBalance = initialCash - netOf .buy (db.virtualFillsOf accountId)
      + netOf .sell (db.virtualFillsOf accountId)
  sound : ∀ position ∈ positionsOf accountId db, position.Sound
  holding : ∀ symbol, db.holding accountId symbol =
    sharesOf .buy ((db.virtualFillsOf accountId).filter fun fill => fill.symbol == symbol)
      - sharesOf .sell ((db.virtualFillsOf accountId).filter fun fill => fill.symbol == symbol)
  single : ∀ symbol,
    (db.virtualPositions.filter (VirtualPosition.isAt accountId symbol)).length ≤ 1

section Steps

variable {fill : PaperFill} {before after : Database} {row : VirtualFill} {initialCash : ℚ}
  {accountId : Nat}

theorem fillsOf_applied (h : Applied fill before after row) (accountId : Nat) :
    after.virtualFillsOf accountId =
      before.virtualFillsOf accountId ++ if fill.accountId = accountId then [row] else [] := by
  rw [Database.virtualFillsOf, h.fills, List.filter_append, List.filter_singleton, h.asAsked.2.1]
  simp [Database.virtualFillsOf]

theorem Applied.filter_of_disjoint (h : Applied fill before after row) {keep : VirtualPosition → Bool}
    (hApart : ∀ held, VirtualPosition.isAt fill.accountId fill.symbol held = true → keep held = false) :
    after.virtualPositions.filter keep = before.virtualPositions.filter keep := by
  obtain ⟨ensured, position, hEnsured, -, hPositions⟩ := h.position
  rw [hPositions]
  refine filter_booked_of_disjoint hEnsured ?_ hApart
  rw [VirtualPosition.isAt_after]
  exact hEnsured.isAt

/-- The rows of another account or of another symbol are as they were. -/
theorem Applied.filter_isAt (h : Applied fill before after row) {symbol : String}
    (hOther : fill.accountId ≠ accountId ∨ fill.symbol ≠ symbol) :
    after.virtualPositions.filter (VirtualPosition.isAt accountId symbol) =
      before.virtualPositions.filter (VirtualPosition.isAt accountId symbol) := by
  refine h.filter_of_disjoint fun held hHere => eq_false_of_ne_true fun hThere => ?_
  obtain ⟨hAccount, hSymbol⟩ := VirtualPosition.isAt_iff.mp hHere
  obtain ⟨rfl, rfl⟩ := VirtualPosition.isAt_iff.mp hThere
  rcases hOther with hOther | hOther
  · exact hOther hAccount.symm
  · exact hOther hSymbol.symm

theorem holding_eq_of_filter {symbol : String}
    (h : after.virtualPositions.filter (VirtualPosition.isAt accountId symbol) =
      before.virtualPositions.filter (VirtualPosition.isAt accountId symbol)) :
    after.holding accountId symbol = before.holding accountId symbol := by
  rw [Database.holding, Database.holding, findAt, findAt, ← List.head?_filter, ← List.head?_filter, h]

theorem Conserved.other (hLedger : Conserved initialCash accountId before)
    (h : Applied fill before after row) (hOther : fill.accountId ≠ accountId) :
    Conserved initialCash accountId after := by
  obtain ⟨account, hFound, hInitial, hNonneg, hIdentity, hReplay⟩ := hLedger.cash
  obtain ⟨paid, -, -, hAccounts⟩ := h.account
  have hFills := fillsOf_applied h accountId
  rw [if_neg hOther, List.append_nil] at hFills
  have hOwn : positionsOf accountId after = positionsOf accountId before := by
    refine h.filter_of_disjoint fun held hHere => ?_
    rw [beq_eq_false_iff_ne, (VirtualPosition.isAt_iff.mp hHere).1]
    exact hOther
  constructor
  · refine ⟨account, ?_, hInitial, hNonneg, ?_, ?_⟩
    · rw [hAccounts, Database.find?_setCashBalance, hFound, Option.map_some, if_neg (Ne.symm hOther)]
    · rw [hOwn]
      exact hIdentity
    · rw [hFills]
      exact hReplay
  · rw [hOwn]
    exact hLedger.sound
  · intro symbol
    rw [hFills, ← hLedger.holding symbol, holding_eq_of_filter (h.filter_isAt (.inl hOther))]
  · intro symbol
    rw [h.filter_isAt (.inl hOther)]
    exact hLedger.single symbol

theorem Conserved.sound_ensured (hLedger : Conserved initialCash accountId before) {symbol : String}
    {ensured : List VirtualPosition} {position : VirtualPosition}
    (h : Ensured accountId symbol before.virtualPositions ensured position) : position.Sound := by
  have hAt := h.isAt
  cases h with
  | found h =>
    exact hLedger.sound position (List.mem_filter.mpr ⟨List.mem_of_find?_eq_some h,
      (Bool.and_eq_true_iff.mp hAt).1⟩)
  | opened h => exact ⟨le_refl _, fun _ => rfl⟩

/-- A fill has moved one position of its account, which may have been opened for it. -/
structure PositionMoved (fill : PaperFill) (row : VirtualFill) (before after : Database)
    (position : VirtualPosition) : Prop where
  sound : position.Sound
  held : row.side = .sell → row.quantity ≤ position.quantity
  holding : before.holding fill.accountId fill.symbol = position.quantity
  moved : after.virtualPositions.filter (VirtualPosition.isAt fill.accountId fill.symbol) =
    [position.after row]
  sum : ∀ g : VirtualPosition → ℚ, g (.opened fill.accountId fill.symbol) = 0 →
    ((positionsOf fill.accountId after).map g).sum =
      ((positionsOf fill.accountId before).map g).sum + (g (position.after row) - g position)
  rows : ∀ held ∈ positionsOf fill.accountId after,
    held = position.after row ∨ held ∈ positionsOf fill.accountId before

theorem Conserved.positionMoved (hLedger : Conserved initialCash fill.accountId before)
    (h : Applied fill before after row) : ∃ position, PositionMoved fill row before after position := by
  obtain ⟨ensured, position, hEnsured, hHeld, hPositions⟩ := h.position
  have hUnique := hLedger.single fill.symbol
  have hMoved : (position.after row).isAt fill.accountId fill.symbol = true := by
    rw [VirtualPosition.isAt_after]
    exact hEnsured.isAt
  refine ⟨position, hLedger.sound_ensured hEnsured, hHeld, hEnsured.quantity, ?_, ?_, ?_⟩
  · rw [hPositions]
    exact filter_booked hEnsured hMoved hUnique
  · intro g hZero
    rw [positionsOf, hPositions]
    exact sum_booked hEnsured hMoved hUnique
      (fun held hHere => (Bool.and_eq_true_iff.mp hHere).1) hZero
  · intro held hMem
    obtain ⟨hRow, hOwn⟩ := List.mem_filter.mp hMem
    rw [hPositions] at hRow
    rcases mem_booked hEnsured hRow with hNew | hOld
    · exact .inl hNew
    · exact .inr (List.mem_filter.mpr ⟨hOld, hOwn⟩)

theorem PositionMoved.holding_after {position : VirtualPosition}
    (h : PositionMoved fill row before after position) :
    after.holding fill.accountId fill.symbol =
      before.holding fill.accountId fill.symbol + row.signedQuantity := by
  rw [Database.holding, findAt, ← List.head?_filter, h.moved, h.holding]
  exact VirtualPosition.quantity_after row position

theorem Conserved.own (hLedger : Conserved initialCash fill.accountId before)
    (h : Applied fill before after row) : Conserved initialCash fill.accountId after := by
  obtain ⟨account, hFound, hInitial, -, hIdentity, hReplay⟩ := hLedger.cash
  obtain ⟨paid, hPaid, hCash, hAccounts⟩ := h.account
  obtain rfl := Option.some.inj (hFound.symm.trans hPaid)
  obtain ⟨position, hMoved⟩ := hLedger.positionMoved h
  have hFills := fillsOf_applied h fill.accountId
  rw [if_pos rfl] at hFills
  constructor
  · refine ⟨{ account with cashBalance := account.cashBalance + row.cashFlow }, ?_, hInitial, hCash, ?_, ?_⟩
    · rw [hAccounts, Database.find?_setCashBalance, hFound, Option.map_some, if_pos rfl]
    · have hWorth := VirtualPosition.worth_after row hMoved.sound
      rw [hMoved.sum _ (by simp [VirtualPosition.costBasis, VirtualPosition.opened]), hMoved.sum _ rfl]
      linarith
    · have hFlow := cashFlow_append (before.virtualFillsOf fill.accountId) row
      rw [hFills]
      linarith
  · intro held hMem
    rcases hMoved.rows held hMem with rfl | hOld
    · exact VirtualPosition.sound_after hMoved.sound hMoved.held
    · exact hLedger.sound held hOld
  · intro symbol
    have hNew : [row].filter (fun other => other.symbol == symbol) =
        if fill.symbol = symbol then [row] else [] := by
      rw [List.filter_singleton, h.asAsked.2.2.1]
      simp
    rw [hFills, List.filter_append, hNew]
    by_cases hSymbol : fill.symbol = symbol
    · obtain rfl := hSymbol
      rw [if_pos rfl, signedQuantity_append, ← hLedger.holding fill.symbol, hMoved.holding_after]
    · rw [if_neg hSymbol, List.append_nil, ← hLedger.holding symbol,
        holding_eq_of_filter (h.filter_isAt (.inr hSymbol))]
  · intro symbol
    by_cases hSymbol : fill.symbol = symbol
    · obtain rfl := hSymbol
      rw [hMoved.moved]
      exact le_refl 1
    · rw [h.filter_isAt (.inr hSymbol)]
      exact hLedger.single symbol

end Steps

end StockAiPlatform
