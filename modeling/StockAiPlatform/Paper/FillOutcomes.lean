import StockAiPlatform.Paper.PnlTracker
import StockAiPlatform.Transaction.Effects

/-! # What a fill leaves

A fill that returns moved the cash of its account, one position and the list
of fills. One that is refused for want of cash or shares left all three alone.
-/

namespace StockAiPlatform
set_option autoImplicit false

open Transaction

/-- What the fill brought in, or took away. -/
def VirtualFill.cashFlow (fill : VirtualFill) : ℚ :=
  match fill.side with
  | .buy => -fill.netAmount
  | .sell => fill.netAmount

def VirtualFill.signedQuantity (fill : VirtualFill) : Int :=
  match fill.side with
  | .buy => fill.quantity
  | .sell => -fill.quantity

/-- The position a fill makes of the one it found. -/
def VirtualPosition.after (fill : VirtualFill) (position : VirtualPosition) : VirtualPosition :=
  match fill.side with
  | .buy => position.bought fill.quantity fill.netAmount
  | .sell => position.sold fill.quantity fill.netAmount

/-- The row a fill is booked on is there, or was opened for it. -/
inductive Ensured (accountId : Nat) (symbol : String) (before : List VirtualPosition) :
    List VirtualPosition → VirtualPosition → Prop where
  | found {position : VirtualPosition}
      (h : before.find? (VirtualPosition.isAt accountId symbol) = some position) :
      Ensured accountId symbol before before position
  | opened (h : before.find? (VirtualPosition.isAt accountId symbol) = none) :
      Ensured accountId symbol before (before ++ [.opened accountId symbol]) (.opened accountId symbol)

def booked (accountId : Nat) (symbol : String) (moved : VirtualPosition)
    (ensured : List VirtualPosition) : List VirtualPosition :=
  updateWhere (VirtualPosition.isAt accountId symbol) (fun _ => moved) ensured

structure Applied (fill : PaperFill) (before after : Database) (row : VirtualFill) : Prop where
  account : ∃ account, before.virtualAccounts.find? fill.accountId = some account ∧
    0 ≤ account.cashBalance + row.cashFlow ∧
    after.virtualAccounts = (before.setCashBalance fill.accountId
      (account.cashBalance + row.cashFlow)).virtualAccounts
  position : ∃ ensured position, Ensured fill.accountId fill.symbol before.virtualPositions ensured
      position ∧ (row.side = .sell → row.quantity ≤ position.quantity) ∧
    after.virtualPositions = booked fill.accountId fill.symbol (position.after row) ensured
  asAsked : row.orderId = fill.orderId ∧ row.accountId = fill.accountId ∧ row.symbol = fill.symbol ∧
    row.side = fill.side ∧ row.quantity = fill.quantity ∧ row.fillPrice = fill.fillPrice
  fills : after.virtualFills = before.virtualFills ++ [row]
  frame : after = { before with
    virtualAccounts := after.virtualAccounts
    virtualPositions := after.virtualPositions
    virtualFills := after.virtualFills }

namespace VirtualPositionRepository

variable {answer : Answer} {s t : DbSession} {accountId : Nat} {symbol : String}

theorem exec_getOrCreate_eq_ok {position : VirtualPosition}
    (h : (getOrCreate accountId symbol).exec answer s = (.ok position, t)) :
    ∃ ensured, Ensured accountId symbol s.view.virtualPositions ensured position ∧
      t.view = { s.view with virtualPositions := ensured } := by
  rw [getOrCreate, getByAccountSymbol, Program.exec_query_bind] at h
  cases hFound : findAt accountId symbol s.view with
  | some existing =>
    rw [hFound] at h
    cases h
    exact ⟨_, .found hFound, rfl⟩
  | none =>
    rw [hFound] at h
    cases h
    exact ⟨_, .opened hFound, rfl⟩

theorem isAt_of_ensured {before ensured : List VirtualPosition} {position : VirtualPosition}
    (h : Ensured accountId symbol before ensured position) :
    position.accountId = accountId ∧ position.symbol = symbol := by
  cases h with
  | found h =>
    have hAt := List.find?_some h
    exact VirtualPosition.isAt_iff.mp hAt
  | opened h => exact ⟨rfl, rfl⟩

theorem exec_applyBuy_eq_ok {quantity : Int} {price spent : ℚ} {bought : VirtualPosition}
    (h : (applyBuy accountId symbol quantity price spent).exec answer s = (.ok bought, t)) :
    ∃ ensured position, Ensured accountId symbol s.view.virtualPositions ensured position ∧
      t.view = { s.view with
        virtualPositions := booked accountId symbol (position.bought quantity spent) ensured } := by
  unfold applyBuy at h
  split at h
  · cases h
  split at h
  · cases h
  split at h
  · cases h
  rw [Program.exec_bind_eq_ok] at h
  obtain ⟨position, u, hEnsured, h⟩ := h
  obtain ⟨ensured, hRow, hView⟩ := exec_getOrCreate_eq_ok hEnsured
  obtain ⟨hAccount, hSymbol⟩ := isAt_of_ensured hRow
  cases h
  refine ⟨ensured, position, hRow, ?_⟩
  rw [Session.write_view, hView, Database.storeVirtualPosition]
  simp only [VirtualPosition.bought, booked, hAccount, hSymbol]

theorem exec_applySell_eq_ok {quantity : Int} {received realized : ℚ} {sold : VirtualPosition}
    (h : (applySell accountId symbol quantity received).exec answer s = (.ok (sold, realized), t)) :
    ∃ position, Ensured accountId symbol s.view.virtualPositions s.view.virtualPositions position ∧
      quantity ≤ position.quantity ∧
      t.view = { s.view with
        virtualPositions := booked accountId symbol (position.sold quantity received)
          s.view.virtualPositions } := by
  unfold applySell at h
  split at h
  · cases h
  split at h
  · cases h
  rw [getByAccountSymbol, Program.exec_query_bind] at h
  cases hFound : findAt accountId symbol s.view with
  | none =>
    rw [hFound] at h
    cases h
  | some position =>
    rw [hFound] at h
    simp only at h
    split at h
    · cases h
    · have hRow : Ensured accountId symbol s.view.virtualPositions s.view.virtualPositions position :=
        .found hFound
      obtain ⟨hAccount, hSymbol⟩ := isAt_of_ensured hRow
      cases h
      refine ⟨position, hRow, not_lt.mp ‹_›, ?_⟩
      rw [Session.write_view, Database.storeVirtualPosition]
      simp only [VirtualPosition.sold, booked, hAccount, hSymbol]

end VirtualPositionRepository

theorem VirtualAccountRepository.exec_updateCashBalance_eq_ok {account updated : VirtualAccount}
    {balance : ℚ} {answer : Answer} {s t : DbSession}
    (h : (updateCashBalance account balance).exec answer s = (.ok updated, t)) :
    0 ≤ balance ∧ t.view = s.view.setCashBalance account.id balance := by
  unfold updateCashBalance at h
  split at h
  · cases h
  · cases h
    exact ⟨not_lt.mp ‹_›, rfl⟩

namespace PnlTracker

variable {answer : Answer} {s t : DbSession} {fill : PaperFill} {account : VirtualAccount}
  {costs : PaperFillCosts}

theorem exec_buy_eq_ok {outcome : VirtualAccount × VirtualPosition}
    (h : (buy fill account costs).exec answer s = (.ok outcome, t)) :
    0 ≤ account.cashBalance - costs.netAmount ∧
      ∃ ensured position, Ensured fill.accountId fill.symbol s.view.virtualPositions ensured
          position ∧
        t.view = { s.view.setCashBalance account.id (account.cashBalance - costs.netAmount) with
          virtualPositions := booked fill.accountId fill.symbol
            (position.bought fill.quantity costs.netAmount) ensured } := by
  unfold buy at h
  split at h
  · cases h
  rw [Program.exec_bind_eq_ok] at h
  obtain ⟨updated, u, hCash, h⟩ := h
  obtain ⟨hNonneg, hPaid⟩ := VirtualAccountRepository.exec_updateCashBalance_eq_ok hCash
  rw [Program.exec_bind_eq_ok] at h
  obtain ⟨bought, v, hApply, h⟩ := h
  cases h
  obtain ⟨ensured, held, hRow, hView⟩ := VirtualPositionRepository.exec_applyBuy_eq_ok hApply
  rw [hPaid] at hRow hView
  exact ⟨hNonneg, ensured, held, hRow, hView⟩

theorem exec_sell_eq_ok {outcome : VirtualAccount × VirtualPosition × ℚ}
    (h : (sell fill account costs).exec answer s = (.ok outcome, t)) :
    0 ≤ account.cashBalance + costs.netAmount ∧
      ∃ position, Ensured fill.accountId fill.symbol s.view.virtualPositions s.view.virtualPositions
          position ∧ fill.quantity ≤ position.quantity ∧
        t.view = { s.view.setCashBalance account.id (account.cashBalance + costs.netAmount) with
          virtualPositions := booked fill.accountId fill.symbol
            (position.sold fill.quantity costs.netAmount) s.view.virtualPositions } := by
  unfold sell at h
  rw [Program.exec_bind_eq_ok] at h
  obtain ⟨⟨sold, realized⟩, u, hApply, h⟩ := h
  obtain ⟨held, hRow, hHeld, hView⟩ := VirtualPositionRepository.exec_applySell_eq_ok hApply
  simp only at h
  rw [Program.exec_bind_eq_ok] at h
  obtain ⟨updated, v, hCash, h⟩ := h
  obtain ⟨hNonneg, hPaid⟩ := VirtualAccountRepository.exec_updateCashBalance_eq_ok hCash
  cases h
  refine ⟨hNonneg, held, hRow, hHeld, ?_⟩
  rw [hPaid, hView]
  rfl

theorem exec_settle_eq_ok {outcome : VirtualAccount × VirtualPosition × ℚ} (row : VirtualFill)
    (hSide : row.side = fill.side) (hQuantity : row.quantity = fill.quantity)
    (hNet : row.netAmount = costs.netAmount)
    (h : (settle fill account costs).exec answer s = (.ok outcome, t)) :
    0 ≤ account.cashBalance + row.cashFlow ∧
      ∃ ensured position, Ensured fill.accountId fill.symbol s.view.virtualPositions ensured
          position ∧ (row.side = .sell → row.quantity ≤ position.quantity) ∧
        t.view = { s.view.setCashBalance account.id (account.cashBalance + row.cashFlow) with
          virtualPositions := booked fill.accountId fill.symbol (position.after row) ensured } := by
  unfold settle at h
  unfold VirtualFill.cashFlow VirtualPosition.after
  rw [hSide, hQuantity, hNet]
  cases hFill : fill.side with
  | buy =>
    rw [hFill] at h
    simp only at h ⊢
    rw [Program.exec_bind_eq_ok] at h
    obtain ⟨⟨paid, bought⟩, u, hBuy, h⟩ := h
    cases h
    obtain ⟨hNonneg, ensured, held, hRow, hView⟩ := exec_buy_eq_ok hBuy
    rw [← sub_eq_add_neg]
    refine ⟨hNonneg, ensured, held, hRow, ?_, hView⟩
    intro hSell
    cases hSell
  | sell =>
    rw [hFill] at h
    simp only at h ⊢
    obtain ⟨hNonneg, held, hRow, hHeld, hView⟩ := exec_sell_eq_ok h
    exact ⟨hNonneg, _, held, hRow, fun _ => hHeld, hView⟩

theorem exec_applyFill_eq_ok {tracker : PnlTracker} {result : FillResult}
    (h : (applyFill tracker fill).exec answer s = (.ok result, t)) :
    Applied fill s.view t.view result.fill := by
  unfold applyFill at h
  split at h
  · cases h
  split at h
  · cases h
  rw [VirtualAccountRepository.getById, Program.exec_query_bind] at h
  cases hFound : s.view.virtualAccounts.find? fill.accountId with
  | none =>
    rw [hFound] at h
    cases h
  | some account =>
    rw [hFound] at h
    simp only at h
    rw [Program.exec_bind_eq_ok] at h
    obtain ⟨costs, u, hCosts, h⟩ := h
    rw [Program.exec_ofExcept] at hCosts
    obtain ⟨-, rfl⟩ := Prod.mk.inj hCosts
    rw [Program.exec_bind_eq_ok] at h
    obtain ⟨outcome, v, hSettle, h⟩ := h
    rw [Program.exec_bind_eq_ok] at h
    obtain ⟨row, w, hCreate, h⟩ := h
    cases h
    obtain ⟨⟨hQuantity, hPrice, hCosts, hRow⟩, rfl⟩ := VirtualFillRepository.exec_create_eq_ok hCreate
    obtain ⟨hCash, ensured, position, hEnsured, hHeld, hView⟩ :=
      exec_settle_eq_ok row (by rw [hRow]; rfl) (by rw [hRow]; rfl) (by rw [hRow]; rfl) hSettle
    have hId : account.id = fill.accountId := Table.key_of_find? hFound
    rw [hId] at hView
    refine ⟨⟨account, hFound, hCash, ?_⟩, ⟨ensured, position, hEnsured, hHeld, ?_⟩, ?_, ?_, ?_⟩
    · rw [Session.write_view, hView]
      rfl
    · rw [Session.write_view, hView]
      rfl
    · rw [hRow]
      exact ⟨rfl, rfl, rfl, rfl, rfl, rfl⟩
    · rw [Session.write_view, hView]
      rfl
    · rw [Session.write_view, hView]
      rfl

/-- The two refusals that an order can survive its account with. -/
def Insufficient : PyError → Prop
  | .insufficientCash _ | .insufficientPosition _ => True
  | _ => False

theorem avoids_updateCashBalance (account : VirtualAccount) (balance : ℚ) :
    (VirtualAccountRepository.updateCashBalance account balance).Avoids Insufficient := by
  unfold VirtualAccountRepository.updateCashBalance
  split
  · exact id
  · trivial

theorem avoids_applyBuy (accountId : Nat) (symbol : String) (quantity : Int) (price spent : ℚ) :
    (VirtualPositionRepository.applyBuy accountId symbol quantity price spent).Avoids
      Insufficient := by
  unfold VirtualPositionRepository.applyBuy
  split
  · exact id
  split
  · exact id
  split
  · exact id
  refine Program.Avoids.bind ?_ fun position => trivial
  refine Program.avoids_query_bind fun db => ?_
  cases VirtualPositionRepository.findAt accountId symbol db <;> trivial

theorem checksFirst_applySell (accountId : Nat) (symbol : String) (quantity : Int) (received : ℚ) :
    (VirtualPositionRepository.applySell accountId symbol quantity received).ChecksFirst
      Insufficient := by
  unfold VirtualPositionRepository.applySell
  split
  · trivial
  split
  · trivial
  refine Program.checksFirst_query_bind fun db => ?_
  cases VirtualPositionRepository.findAt accountId symbol db with
  | none => trivial
  | some position =>
    simp only
    split <;> trivial

theorem checksFirst_settle (fill : PaperFill) (account : VirtualAccount) (costs : PaperFillCosts) :
    (settle fill account costs).ChecksFirst Insufficient := by
  unfold settle
  cases fill.side with
  | buy =>
    refine Program.ChecksFirst.bind ?_ fun outcome => trivial
    unfold buy
    split
    · trivial
    · refine Program.Avoids.checksFirst ((avoids_updateCashBalance _ _).bind fun updated => ?_)
      exact (avoids_applyBuy _ _ _ _ _).bind fun position => trivial
  | sell =>
    refine (checksFirst_applySell _ _ _ _).bind fun outcome => ?_
    exact (avoids_updateCashBalance _ _).bind fun updated => trivial

theorem avoids_create (fill : PaperFill) (costs : PaperFillCosts) :
    (VirtualFillRepository.create fill costs).Avoids Insufficient := by
  unfold VirtualFillRepository.create
  split
  · split
    · split
      · trivial
      · exact id
    · exact id
  · exact id

/-- Cash and shares are checked before anything is written. -/
theorem checksFirst_applyFill (tracker : PnlTracker) (fill : PaperFill) :
    (applyFill tracker fill).ChecksFirst Insufficient := by
  unfold applyFill
  split
  · trivial
  split
  · trivial
  refine Program.checksFirst_query_bind fun db => ?_
  cases db.virtualAccounts.find? fill.accountId with
  | none => trivial
  | some account =>
    refine Program.checksFirst_ofExcept_bind fun costs _ => ?_
    refine (checksFirst_settle fill account costs).bind fun outcome => ?_
    exact (avoids_create fill costs).bind fun row => trivial

theorem session_eq_of_insufficient {tracker : PnlTracker} {error : PyError}
    (hKind : Insufficient error) (h : (applyFill tracker fill).exec answer s = (.error error, t)) :
    t = s :=
  (checksFirst_applyFill tracker fill).session_eq hKind h

section Keeps

/-! What neither cash nor positions show is kept by a settlement. -/

variable {γ : Type} (part : Database → γ)
  (hAccounts : ∀ (db : Database) accounts, part { db with virtualAccounts := accounts } = part db)
  (hPositions : ∀ (db : Database) positions, part { db with virtualPositions := positions } = part db)

include hAccounts in
theorem keeps_updateCashBalance (account : VirtualAccount) (balance : ℚ) :
    (VirtualAccountRepository.updateCashBalance account balance).Keeps part := by
  unfold VirtualAccountRepository.updateCashBalance
  split
  · trivial
  · exact ⟨fun db => hAccounts db _, trivial⟩

include hPositions in
theorem keeps_applyBuy (accountId : Nat) (symbol : String) (quantity : Int) (price spent : ℚ) :
    (VirtualPositionRepository.applyBuy accountId symbol quantity price spent).Keeps part := by
  unfold VirtualPositionRepository.applyBuy
  split
  · trivial
  split
  · trivial
  split
  · trivial
  refine Program.Keeps.bind ?_ fun position => ⟨fun db => hPositions db _, trivial⟩
  refine Program.keeps_query_bind fun db => ?_
  cases VirtualPositionRepository.findAt accountId symbol db with
  | some existing => trivial
  | none => exact ⟨fun db => hPositions db _, trivial⟩

include hPositions in
theorem keeps_applySell (accountId : Nat) (symbol : String) (quantity : Int) (received : ℚ) :
    (VirtualPositionRepository.applySell accountId symbol quantity received).Keeps part := by
  unfold VirtualPositionRepository.applySell
  split
  · trivial
  split
  · trivial
  refine Program.keeps_query_bind fun db => ?_
  cases VirtualPositionRepository.findAt accountId symbol db with
  | none => trivial
  | some position =>
    simp only
    split
    · trivial
    · exact ⟨fun db => hPositions db _, trivial⟩

include hAccounts hPositions in
theorem keeps_settle (fill : PaperFill) (account : VirtualAccount) (costs : PaperFillCosts) :
    (settle fill account costs).Keeps part := by
  have hCash := keeps_updateCashBalance part hAccounts account
  unfold settle
  cases fill.side with
  | buy =>
    refine Program.Keeps.bind ?_ fun outcome => trivial
    unfold buy
    split
    · trivial
    · refine (hCash _).bind fun updated => ?_
      exact (keeps_applyBuy part hPositions _ _ _ _ _).bind fun position => trivial
  | sell =>
    refine (keeps_applySell part hPositions _ _ _ _).bind fun outcome => ?_
    exact (hCash _).bind fun updated => trivial

end Keeps

theorem session_eq_of_create_raised {error : PyError}
    (h : (VirtualFillRepository.create fill costs).exec answer s = (.error error, t)) : t = s := by
  have hChecks : (VirtualFillRepository.create fill costs).ChecksFirst fun _ : PyError => True := by
    unfold VirtualFillRepository.create
    split
    · split
      · split <;> trivial
      · trivial
    · trivial
  exact hChecks.session_eq trivial h

/-- A fill that raises has recorded nothing, and moved no order. -/
theorem recorded_of_raised {tracker : PnlTracker} {error : PyError}
    (h : (applyFill tracker fill).exec answer s = (.error error, t)) :
    t.view.virtualFills = s.view.virtualFills ∧ t.view.virtualOrders = s.view.virtualOrders := by
  unfold applyFill at h
  split at h
  · cases h
    exact ⟨rfl, rfl⟩
  split at h
  · cases h
    exact ⟨rfl, rfl⟩
  rw [VirtualAccountRepository.getById, Program.exec_query_bind] at h
  cases hFound : s.view.virtualAccounts.find? fill.accountId with
  | none =>
    rw [hFound] at h
    cases h
    exact ⟨rfl, rfl⟩
  | some account =>
    rw [hFound] at h
    simp only at h
    rcases (Program.exec_bind_eq_error ..).mp h with hCosts | ⟨costs, u, hCosts, h⟩
    · rw [Program.exec_ofExcept] at hCosts
      obtain ⟨-, rfl⟩ := Prod.mk.inj hCosts
      exact ⟨rfl, rfl⟩
    rw [Program.exec_ofExcept] at hCosts
    obtain ⟨-, rfl⟩ := Prod.mk.inj hCosts
    have hFills := (keeps_settle Database.virtualFills (fun _ _ => rfl) (fun _ _ => rfl) fill
      account costs).view_exec answer s
    have hOrders := (keeps_settle Database.virtualOrders (fun _ _ => rfl) (fun _ _ => rfl) fill
      account costs).view_exec answer s
    rcases (Program.exec_bind_eq_error ..).mp h with hSettle | ⟨outcome, v, hSettle, h⟩
    · rw [hSettle] at hFills hOrders
      exact ⟨hFills, hOrders⟩
    · rw [hSettle] at hFills hOrders
      rcases (Program.exec_bind_eq_error ..).mp h with hCreate | ⟨row, w, hCreate, h⟩
      · rw [session_eq_of_create_raised hCreate]
        exact ⟨hFills, hOrders⟩
      · cases h

end PnlTracker

end StockAiPlatform
