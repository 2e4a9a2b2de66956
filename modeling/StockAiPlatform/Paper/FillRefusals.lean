import Mathlib.Tactic.NormNum
import StockAiPlatform.Paper.FillOutcomes

/-! # When a fill is applied, refused, or raises

Cash and shares decide over a fill at a positive price on an account that is
there. Any other error leaves the caller with an exception it does not expect:
the price, the account, or a balance so far below zero that the sale does not
lift it.
-/

namespace StockAiPlatform
set_option autoImplicit false

open Transaction Python

namespace PaperTradingCostModel

/-- No rate gives money back. -/
structure Charges (model : PaperTradingCostModel) : Prop where
  buyFee : 0 ≤ model.buyFeeRate
  sellFee : 0 ≤ model.sellFeeRate
  sellTax : 0 ≤ model.sellTaxRate
  slippage : 0 ≤ model.slippageRate

theorem charges_default : Charges {} := by
  constructor
  all_goals norm_num

def costsOf (model : PaperTradingCostModel) (side : Side) (gross : ℚ) : PaperFillCosts :=
  match side with
  | .buy => model.buyCosts gross
  | .sell => model.sellCosts gross

variable {model : PaperTradingCostModel} {gross : ℚ}

theorem compute_eq_ok {fillPrice : ℚ} {quantity : Int} (side : Side) (hPrice : 0 < fillPrice)
    (hQuantity : 0 < quantity) :
    model.compute side fillPrice quantity = .ok (model.costsOf side (fillPrice * quantity)) := by
  unfold compute
  rw [if_neg (not_le.mpr hPrice), if_neg (not_le.mpr hQuantity)]
  cases side <;> rfl

theorem sellCosts_netAmount_nonneg (model : PaperTradingCostModel) (gross : ℚ) :
    0 ≤ (model.sellCosts gross).netAmount := by
  unfold sellCosts
  simp only
  split
  · exact le_refl 0
  · exact not_lt.mp ‹_›

theorem allNonneg_costsOf (hCharges : model.Charges) (side : Side) (hGross : 0 ≤ gross) :
    (model.costsOf side gross).allNonneg := by
  have hSlippage : 0 ≤ gross * model.slippageRate := mul_nonneg hGross hCharges.slippage
  cases side with
  | buy =>
    have hFee : 0 ≤ gross * model.buyFeeRate := mul_nonneg hGross hCharges.buyFee
    exact ⟨hFee, le_refl 0, hSlippage, hGross, add_nonneg (add_nonneg hGross hFee) hSlippage⟩
  | sell =>
    exact ⟨mul_nonneg hGross hCharges.sellFee, mul_nonneg hGross hCharges.sellTax, hSlippage,
      hGross, sellCosts_netAmount_nonneg model gross⟩

end PaperTradingCostModel

namespace VirtualPositionRepository

variable {accountId : Nat} {symbol : String} {quantity : Int} {s : DbSession}

/-- The account holds as much of the symbol. -/
def holds (accountId : Nat) (symbol : String) (quantity : Int) (db : Database) : Bool :=
  (findAt accountId symbol db).any fun position => quantity ≤ position.quantity

theorem exec_getOrCreate (accountId : Nat) (symbol : String) (answer : Answer) (s : DbSession) :
    ∃ position t, (getOrCreate accountId symbol).exec answer s = (.ok position, t) := by
  rw [getOrCreate, getByAccountSymbol, Program.exec_query_bind]
  cases findAt accountId symbol s.view with
  | some existing => exact ⟨existing, s, rfl⟩
  | none => exact ⟨_, _, rfl⟩

theorem exec_applyBuy {price spent : ℚ} (accountId : Nat) (symbol : String) (answer : Answer)
    (s : DbSession) (hQuantity : 0 < quantity) (hPrice : 0 < price) (hSpent : 0 ≤ spent) :
    ∃ position t, (applyBuy accountId symbol quantity price spent).exec answer s =
      (.ok position, t) := by
  rw [applyBuy, if_neg (not_le.mpr hQuantity), if_neg (not_le.mpr hPrice),
    if_neg (not_lt.mpr hSpent)]
  obtain ⟨position, t, hRow⟩ := exec_getOrCreate accountId symbol answer s
  rw [Program.exec_bind_ok answer s hRow]
  exact ⟨_, _, rfl⟩

theorem exec_applySell {received : ℚ} (answer : Answer) (hQuantity : 0 < quantity)
    (hReceived : 0 ≤ received) (hHolds : holds accountId symbol quantity s.view = true) :
    ∃ sold t, (applySell accountId symbol quantity received).exec answer s = (.ok sold, t) := by
  rw [applySell, if_neg (not_le.mpr hQuantity), if_neg (not_lt.mpr hReceived), getByAccountSymbol,
    Program.exec_query_bind]
  unfold holds at hHolds
  cases hFound : findAt accountId symbol s.view with
  | none =>
    rw [hFound] at hHolds
    cases hHolds
  | some position =>
    rw [hFound, Option.any_some, decide_eq_true_iff] at hHolds
    simp only
    rw [if_neg (not_lt.mpr hHolds)]
    exact ⟨_, _, rfl⟩

theorem exec_applySell_refused {received : ℚ} (answer : Answer) (hQuantity : 0 < quantity)
    (hReceived : 0 ≤ received) (hShort : holds accountId symbol quantity s.view = false) :
    ∃ message, (applySell accountId symbol quantity received).exec answer s =
      (.error (.insufficientPosition message), s) := by
  rw [applySell, if_neg (not_le.mpr hQuantity), if_neg (not_lt.mpr hReceived), getByAccountSymbol,
    Program.exec_query_bind]
  unfold holds at hShort
  cases hFound : findAt accountId symbol s.view with
  | none => exact ⟨_, rfl⟩
  | some position =>
    rw [hFound, Option.any_some, decide_eq_false_iff_not] at hShort
    simp only
    rw [if_pos (not_le.mp hShort)]
    exact ⟨_, rfl⟩

end VirtualPositionRepository

namespace VirtualAccountRepository

variable {balance : ℚ}

theorem exec_updateCashBalance (account : VirtualAccount) (answer : Answer) (s : DbSession)
    (hBalance : 0 ≤ balance) :
    ∃ updated t, (updateCashBalance account balance).exec answer s = (.ok updated, t) := by
  rw [updateCashBalance, if_neg (not_lt.mpr hBalance)]
  exact ⟨_, _, rfl⟩

theorem exec_updateCashBalance_raised (account : VirtualAccount) (answer : Answer) (s : DbSession)
    (hBalance : balance < 0) :
    (updateCashBalance account balance).exec answer s =
      (.error (.valueError "cash_balance must be >= 0"), s) := by
  rw [updateCashBalance, if_pos hBalance]
  rfl

end VirtualAccountRepository

theorem VirtualFillRepository.exec_create {fill : PaperFill} {costs : PaperFillCosts}
    (answer : Answer) (s : DbSession) (hQuantity : 0 < fill.quantity) (hPrice : 0 < fill.fillPrice)
    (hCosts : costs.allNonneg) : ∃ row t, (create fill costs).exec answer s = (.ok row, t) := by
  rw [create, dif_pos hQuantity, dif_pos hPrice, dif_pos hCosts]
  exact ⟨_, _, rfl⟩

namespace PnlTracker

open VirtualPositionRepository

variable {tracker : PnlTracker} {fill : PaperFill} {account : VirtualAccount} {answer : Answer}
  {s : DbSession}

def costsOf (tracker : PnlTracker) (fill : PaperFill) : PaperFillCosts :=
  tracker.costModel.costsOf fill.side (fill.fillPrice * fill.quantity)

theorem costsOf_allNonneg (hCharges : tracker.costModel.Charges) (hQuantity : 0 < fill.quantity)
    (hPrice : 0 < fill.fillPrice) : (tracker.costsOf fill).allNonneg := by
  have hShares : (0 : ℚ) ≤ fill.quantity := Int.cast_nonneg hQuantity.le
  exact PaperTradingCostModel.allNonneg_costsOf hCharges fill.side (mul_nonneg hPrice.le hShares)

/-- What is left to do once cash and position are moved. -/
def recordFill (fill : PaperFill) (costs : PaperFillCosts) :
    VirtualAccount × VirtualPosition × ℚ → App FillResult
  | (account, position, realized) => do
    let row ← VirtualFillRepository.create fill costs
    return {
      fill := row
      position := position
      account := account
      costs := costs
      realizedPnlDelta := realized }

theorem exec_applyFill_settle (hQuantity : 0 < fill.quantity) (hPrice : 0 < fill.fillPrice)
    (hAccount : s.view.virtualAccounts.find? fill.accountId = some account) :
    (tracker.applyFill fill).exec answer s =
      (settle fill account (tracker.costsOf fill) >>=
        recordFill fill (tracker.costsOf fill)).exec answer s := by
  unfold applyFill
  rw [if_neg (not_le.mpr hQuantity), if_neg (not_le.mpr hPrice), VirtualAccountRepository.getById,
    Program.exec_query_bind, hAccount]
  simp only
  rw [PaperTradingCostModel.compute_eq_ok fill.side hPrice hQuantity]
  rfl

theorem exec_recordFill {costs : PaperFillCosts} (hQuantity : 0 < fill.quantity)
    (hPrice : 0 < fill.fillPrice) (hCosts : costs.allNonneg)
    (moved : VirtualAccount × VirtualPosition × ℚ) (answer : Answer) (s : DbSession) :
    ∃ result t, (recordFill fill costs moved).exec answer s = (.ok result, t) := by
  obtain ⟨row, t, hRow⟩ := VirtualFillRepository.exec_create answer s hQuantity hPrice hCosts
  rw [recordFill, Program.exec_bind_ok answer s hRow]
  exact ⟨_, _, rfl⟩

section Settle

variable {costs : PaperFillCosts}

theorem exec_settle_buy (hSide : fill.side = .buy) (hQuantity : 0 < fill.quantity)
    (hPrice : 0 < fill.fillPrice) (hNet : 0 ≤ costs.netAmount)
    (hCash : costs.netAmount ≤ account.cashBalance) :
    ∃ moved t, (settle fill account costs).exec answer s = (.ok moved, t) := by
  obtain ⟨paid, u, hPaid⟩ := VirtualAccountRepository.exec_updateCashBalance account answer s
    (sub_nonneg.mpr hCash)
  obtain ⟨position, t, hBought⟩ := exec_applyBuy fill.accountId fill.symbol
    answer u hQuantity hPrice hNet
  simp only [settle, hSide]
  rw [buy, if_neg (not_lt.mpr hCash), Program.bind_assoc, Program.exec_bind_ok answer s hPaid,
    Program.bind_assoc, Program.exec_bind_ok answer u hBought]
  exact ⟨_, _, rfl⟩

theorem exec_settle_buy_refused (hSide : fill.side = .buy)
    (hCash : account.cashBalance < costs.netAmount) :
    ∃ error, Insufficient error ∧ (settle fill account costs).exec answer s = (.error error, s) := by
  simp only [settle, hSide]
  rw [buy, if_pos hCash]
  exact ⟨.insufficientCash _, trivial, rfl⟩

theorem exec_settle_sell (account : VirtualAccount) (answer : Answer) (hSide : fill.side = .sell)
    (hQuantity : 0 < fill.quantity) (hNet : 0 ≤ costs.netAmount)
    (hHolds : holds fill.accountId fill.symbol fill.quantity s.view = true)
    (hCash : 0 ≤ account.cashBalance + costs.netAmount) :
    ∃ moved t, (settle fill account costs).exec answer s = (.ok moved, t) := by
  obtain ⟨sold, u, hSold⟩ := exec_applySell answer hQuantity hNet hHolds
  obtain ⟨paid, t, hPaid⟩ := VirtualAccountRepository.exec_updateCashBalance account answer u hCash
  simp only [settle, hSide]
  rw [sell, Program.exec_bind_ok answer s hSold, Program.exec_bind_ok answer u hPaid]
  exact ⟨_, _, rfl⟩

theorem exec_settle_sell_refused (hSide : fill.side = .sell) (hQuantity : 0 < fill.quantity)
    (hNet : 0 ≤ costs.netAmount)
    (hShort : holds fill.accountId fill.symbol fill.quantity s.view = false) :
    ∃ error, Insufficient error ∧ (settle fill account costs).exec answer s = (.error error, s) := by
  obtain ⟨message, hRefused⟩ := exec_applySell_refused answer
    hQuantity hNet hShort
  simp only [settle, hSide]
  rw [sell, Program.exec_bind_error answer s hRefused]
  exact ⟨.insufficientPosition message, trivial, rfl⟩

theorem exec_settle_sell_raised (hSide : fill.side = .sell) (hQuantity : 0 < fill.quantity)
    (hNet : 0 ≤ costs.netAmount)
    (hHolds : holds fill.accountId fill.symbol fill.quantity s.view = true)
    (hCash : account.cashBalance + costs.netAmount < 0) :
    ∃ error t, ¬ Insufficient error ∧ (settle fill account costs).exec answer s = (.error error, t) := by
  obtain ⟨sold, u, hSold⟩ := exec_applySell answer hQuantity hNet hHolds
  simp only [settle, hSide]
  rw [sell, Program.exec_bind_ok answer s hSold, Program.exec_bind_error answer u
    (VirtualAccountRepository.exec_updateCashBalance_raised account answer u hCash)]
  exact ⟨_, _, id, rfl⟩

end Settle

/-! ## The verdict on a fill -/

/-- Cash and shares decide over the fill: the price is one, the account is there, and a sale that its
shares cover leaves it without debt. -/
structure Decides (tracker : PnlTracker) (fill : PaperFill) (db : Database) : Prop where
  price_pos : 0 < fill.fillPrice
  account : ∃ account, db.virtualAccounts.find? fill.accountId = some account ∧
    (fill.side = .sell →
      holds fill.accountId fill.symbol fill.quantity db = true →
      0 ≤ account.cashBalance + (tracker.costsOf fill).netAmount)

theorem exec_applyFill_decided (answer : Answer) (hCharges : tracker.costModel.Charges)
    (hQuantity : 0 < fill.quantity) (h : tracker.Decides fill s.view) :
    (∃ result t, (tracker.applyFill fill).exec answer s = (.ok result, t)) ∨
      ∃ error, Insufficient error ∧ (tracker.applyFill fill).exec answer s = (.error error, s) := by
  obtain ⟨account, hAccount, hDebt⟩ := h.account
  have hCosts := costsOf_allNonneg hCharges hQuantity h.price_pos
  rw [exec_applyFill_settle hQuantity h.price_pos hAccount]
  have hMoved : (∃ moved t, (settle fill account (tracker.costsOf fill)).exec answer s =
      (.ok moved, t)) ∨ ∃ error, Insufficient error ∧
        (settle fill account (tracker.costsOf fill)).exec answer s = (.error error, s) := by
    cases hSide : fill.side with
    | buy =>
      rcases le_or_gt (tracker.costsOf fill).netAmount account.cashBalance with hCash | hCash
      · exact .inl (exec_settle_buy hSide hQuantity h.price_pos hCosts.2.2.2.2 hCash)
      · exact .inr (exec_settle_buy_refused hSide hCash)
    | sell =>
      cases hHolds : holds fill.accountId fill.symbol fill.quantity
          s.view with
      | true => exact .inl (exec_settle_sell account answer hSide hQuantity hCosts.2.2.2.2 hHolds
          (hDebt hSide hHolds))
      | false => exact .inr (exec_settle_sell_refused hSide hQuantity hCosts.2.2.2.2 hHolds)
  rcases hMoved with ⟨moved, u, hMoved⟩ | ⟨error, hKind, hRefused⟩
  · left
    rw [Program.exec_bind_ok answer s hMoved]
    exact exec_recordFill hQuantity h.price_pos hCosts moved answer u
  · exact .inr ⟨error, hKind, Program.exec_bind_error answer s hRefused _⟩

theorem exec_applyFill_undecided (answer : Answer) (hQuantity : 0 < fill.quantity)
    (h : ¬ tracker.Decides fill s.view) :
    ∃ error t, ¬ Insufficient error ∧ (tracker.applyFill fill).exec answer s = (.error error, t) := by
  by_cases hPrice : 0 < fill.fillPrice
  · cases hAccount : s.view.virtualAccounts.find? fill.accountId with
    | none =>
      unfold applyFill
      rw [if_neg (not_le.mpr hQuantity), if_neg (not_le.mpr hPrice), VirtualAccountRepository.getById,
        Program.exec_query_bind, hAccount]
      exact ⟨_, _, id, rfl⟩
    | some account =>
      have hDebt : fill.side = .sell ∧
          holds fill.accountId fill.symbol fill.quantity s.view = true ∧
          account.cashBalance + (tracker.costsOf fill).netAmount < 0 := by
        by_contra hNone
        refine h ⟨hPrice, account, hAccount, fun hSide hHolds => ?_⟩
        by_contra hCash
        exact hNone ⟨hSide, hHolds, not_le.mp hCash⟩
      obtain ⟨hSide, hHolds, hCash⟩ := hDebt
      have hNet : 0 ≤ (tracker.costsOf fill).netAmount := by
        rw [costsOf, hSide]
        exact PaperTradingCostModel.sellCosts_netAmount_nonneg ..
      obtain ⟨error, t, hKind, hRaised⟩ := exec_settle_sell_raised hSide hQuantity hNet hHolds hCash
      rw [exec_applyFill_settle hQuantity hPrice hAccount]
      exact ⟨error, t, hKind, Program.exec_bind_error answer s hRaised _⟩
  · unfold applyFill
    rw [if_neg (not_le.mpr hQuantity), if_pos (not_lt.mp hPrice)]
    exact ⟨_, _, id, rfl⟩

/-- A sale is refused for want of shares only. -/
theorem not_holds_of_refused {error : PyError} {t : DbSession} (hQuantity : 0 < fill.quantity)
    (hKind : Insufficient error) (hSide : fill.side = .sell)
    (h : (tracker.applyFill fill).exec answer s = (.error error, t)) :
    holds fill.accountId fill.symbol fill.quantity s.view = false := by
  rw [Bool.eq_false_iff]
  intro hHolds
  by_cases hDecides : tracker.Decides fill s.view
  · obtain ⟨account, hAccount, hDebt⟩ := hDecides.account
    have hNet : 0 ≤ (tracker.costsOf fill).netAmount := by
      rw [costsOf, hSide]
      exact PaperTradingCostModel.sellCosts_netAmount_nonneg ..
    obtain ⟨moved, u, hMoved⟩ := exec_settle_sell account answer hSide hQuantity hNet hHolds
      (hDebt hSide hHolds)
    rw [exec_applyFill_settle hQuantity hDecides.price_pos hAccount,
      Program.exec_bind_ok answer s hMoved] at h
    have hAvoids : (recordFill fill (tracker.costsOf fill) moved).Avoids Insufficient :=
      (avoids_create fill _).bind fun row => trivial
    exact hAvoids.not_kind h hKind
  · obtain ⟨raised, u, hOther, hRaised⟩ := exec_applyFill_undecided answer hQuantity hDecides
    rw [hRaised] at h
    cases h
    exact hOther hKind

end PnlTracker

end StockAiPlatform
