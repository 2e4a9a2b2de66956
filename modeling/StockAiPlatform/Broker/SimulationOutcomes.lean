import StockAiPlatform.Broker.SimulationBroker
import StockAiPlatform.Transaction.Atomic

/-! # What a submit and a cancel leave

Each is inverted once: what holds if it returns, and the only write it can
have made. Whoever calls the broker argues from these.
-/

namespace StockAiPlatform
set_option autoImplicit false

open Transaction Python

namespace SimulationBroker

variable {broker : SimulationBroker} {order : PaperOrder} {answer : Answer} {s t : DbSession}

/-- The broker stores what it was asked for. -/
structure AsOrdered (order : PaperOrder) (draft : VirtualOrderDraft) : Prop where
  accountId : draft.accountId = order.accountId
  symbol : draft.symbol = order.symbol
  side : draft.side.value = order.side
  quantity : draft.quantity = order.quantity
  orderType : draft.orderType.value = order.orderType
  limitPrice : draft.limitPrice = order.limitPrice
  idempotencyKey : draft.idempotencyKey = order.idempotencyKey

theorem normalizeLimit_ok {orderType : OrderType} {limitPrice : Option ℚ}
    {kept : { price : Option ℚ // orderType.takesPositive price = true }}
    (h : normalizeLimit limitPrice orderType = .ok kept) : kept.val = limitPrice := by
  cases orderType with
  | limit => exact OrderChecks.checkLimitPrice_ok h
  | market =>
    cases limitPrice with
    | none =>
      cases h
      rfl
    | some price => cases h

theorem validate_ok {checked : CheckedOrder} (h : validate order = .ok checked) :
    AsOrdered order checked.draft := by
  unfold validate at h
  obtain ⟨side, hSide, h⟩ := except_bind_eq_ok.mp h
  obtain ⟨orderType, hType, h⟩ := except_bind_eq_ok.mp h
  obtain ⟨quantity, hQuantity, h⟩ := except_bind_eq_ok.mp h
  obtain ⟨-, -, h⟩ := except_bind_eq_ok.mp h
  obtain ⟨limitPrice, hLimit, h⟩ := except_bind_eq_ok.mp h
  cases h
  exact ⟨rfl, rfl, OrderChecks.checkSide_ok hSide, OrderChecks.checkQuantity_ok hQuantity,
    OrderChecks.checkOrderType_ok hType, normalizeLimit_ok hLimit, rfl⟩

theorem exec_checkAccount_eq_ok {accountId : Nat} {account : VirtualAccount}
    (h : (checkAccount broker accountId).exec answer s = (.ok account, t)) :
    t = s ∧ broker.settings.paperTradingEnabled = true ∧
      s.view.virtualAccounts.find? accountId = some account ∧
      account.paperTradingEnabled = true := by
  unfold checkAccount at h
  cases hSwitch : broker.settings.paperTradingEnabled with
  | false =>
    simp only [hSwitch, Bool.not_false, if_true] at h
    cases h
  | true =>
    simp only [hSwitch, Bool.not_true, Bool.false_eq_true, if_false] at h
    rw [VirtualAccountRepository.getById, Program.exec_query_bind] at h
    cases hAccount : s.view.virtualAccounts.find? accountId with
    | none =>
      rw [hAccount] at h
      cases h
    | some found =>
      rw [hAccount] at h
      simp only at h
      split at h
      · cases h
        exact ⟨rfl, rfl, rfl, ‹_›⟩
      · cases h

theorem exec_findExisting {accountId : Nat} {key : Option String} :
    (findExisting accountId key).exec answer s =
      (.ok (key.bind fun key => VirtualOrderRepository.findByKey accountId key s.view.virtualOrders), s) := by
  cases key <;> rfl

/-- A submit that returns: an order of the account under this key, found or now inserted. -/
structure Submitted (broker : SimulationBroker) (order : PaperOrder) (accounts : Table VirtualAccount)
    (before after : Table VirtualOrder) (stored : VirtualOrder) : Prop where
  switch : broker.settings.paperTradingEnabled = true
  account : ∃ account, accounts.find? order.accountId = some account ∧
    account.paperTradingEnabled = true
  wrote : (∃ key, order.idempotencyKey = some key ∧
      VirtualOrderRepository.findByKey order.accountId key before = some stored ∧
      after = before) ∨
    ((∀ key, order.idempotencyKey = some key →
        VirtualOrderRepository.findByKey order.accountId key before = none) ∧
      (∃ checked, validate order = .ok checked ∧ stored = VirtualOrderRepository.rowOf checked.draft
        before.nextKey checked.quantity_pos checked.limitPrice_ok) ∧
      after = before.insert stored)

theorem exec_submitOrder_eq_ok {result : SubmitResult}
    (h : (submitOrder broker order).exec answer s = (.ok result, t)) :
    Submitted broker order s.view.virtualAccounts s.view.virtualOrders t.view.virtualOrders
        result.order ∧
      t.view = { s.view with virtualOrders := t.view.virtualOrders } := by
  unfold submitOrder at h
  rw [Program.exec_bind_eq_ok] at h
  obtain ⟨account, u, hAccount, h⟩ := h
  obtain ⟨rfl, hSwitch, hFound, hEnabled⟩ := exec_checkAccount_eq_ok hAccount
  rw [Program.exec_bind_eq_ok] at h
  obtain ⟨checked, v, hChecked, h⟩ := h
  rw [Program.exec_ofExcept] at hChecked
  obtain ⟨hValid, rfl⟩ := Prod.mk.inj hChecked
  rw [Program.exec_bind_ok answer u exec_findExisting] at h
  cases hKey : order.idempotencyKey.bind fun key =>
      VirtualOrderRepository.findByKey order.accountId key u.view.virtualOrders with
  | some existing =>
    rw [hKey] at h
    cases h
    obtain ⟨key, hSome, hFind⟩ := Option.bind_eq_some_iff.mp hKey
    exact ⟨⟨hSwitch, ⟨account, hFound, hEnabled⟩, .inl ⟨key, hSome, hFind, rfl⟩⟩, rfl⟩
  | none =>
    rw [hKey] at h
    rw [Program.exec_bind_ok answer u (VirtualOrderRepository.exec_create answer u checked.draft
      checked.quantity_pos checked.limitPrice_ok)] at h
    cases h
    refine ⟨⟨hSwitch, ⟨account, hFound, hEnabled⟩, .inr ⟨?_, ⟨checked, hValid, rfl⟩, rfl⟩⟩, rfl⟩
    intro key hSome
    rw [hSome] at hKey
    exact hKey

theorem exec_cancelOrder_eq_ok {orderId : Nat} {reason : Option Formatted} {canceled : VirtualOrder}
    (h : (cancelOrder orderId reason).exec answer s = (.ok canceled, t)) :
    ∃ stored, s.view.virtualOrders.find? orderId = some stored ∧
      stored.status.isCancelable = true ∧
      t.view = s.view.updateVirtualOrder orderId
        (VirtualOrderRepository.settle .canceled reason) fun _ => rfl := by
  unfold cancelOrder at h
  rw [VirtualOrderRepository.getById, Program.exec_query_bind] at h
  cases hStored : s.view.virtualOrders.find? orderId with
  | none =>
    rw [hStored] at h
    cases h
  | some stored =>
    rw [hStored] at h
    have hId : stored.id = orderId := Table.key_of_find? hStored
    cases hOpen : stored.status.isCancelable with
    | false =>
      simp only [hOpen, Bool.false_eq_true, if_false] at h
      cases h
    | true =>
      simp only [hOpen, if_true, VirtualOrderRepository.cancel] at h
      cases h
      refine ⟨stored, rfl, hOpen, ?_⟩
      rw [Session.write_view, hId]

theorem commitFree_submitOrder (broker : SimulationBroker) (order : PaperOrder) :
    (submitOrder broker order).CommitFree := by
  unfold submitOrder
  refine Program.CommitFree.bind ?_ fun account => ?_
  · unfold checkAccount
    split
    · trivial
    · refine (Program.commitFree_query _ _).bind fun found => ?_
      cases found with
      | none => trivial
      | some account =>
        simp only
        split <;> trivial
  · refine (Program.commitFree_ofExcept _).bind fun checked => Program.CommitFree.bind ?_ ?_
    · cases order.idempotencyKey with
      | none => trivial
      | some key => exact Program.commitFree_query _ _
    · intro existing
      cases existing with
      | some existing => trivial
      | none => exact (VirtualOrderRepository.commitFree_create _).bind fun _ => trivial

theorem commitFree_cancelOrder (orderId : Nat) (reason : Option Formatted) :
    (cancelOrder orderId reason).CommitFree := by
  unfold cancelOrder
  refine (Program.commitFree_query _ _).bind fun found => ?_
  cases found with
  | none => trivial
  | some order =>
    simp only [VirtualOrderRepository.cancel]
    split <;> trivial

end SimulationBroker

end StockAiPlatform
