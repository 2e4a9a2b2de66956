import StockAiPlatform.Api.ApprovalRoutes

/-! # The paper order routes

`POST /api/paper/orders` and `DELETE /api/paper/orders/{order_id}`. The client
may choose an idempotency key of its own.
-/

namespace StockAiPlatform
set_option autoImplicit false

open Transaction Python

/-- A body past its validators, the strings stripped and upper-cased by them. -/
structure CreatePaperOrderRequest where
  symbol : String
  side : Side
  quantity : Int
  orderType : OrderType := .market
  limitPrice : Option ℚ := none
  idempotencyKey : Option String := none
  note : Option String := none
  accountId : Option Nat := none
  symbol_ok : symbol ≠ "" ∧ symbol.length ≤ 32
  quantity_pos : 0 < quantity
  limitPrice_pos : ∀ price ∈ limitPrice, 0 < price
  idempotencyKey_short : ∀ key ∈ idempotencyKey, key.length ≤ 64
  note_short : ∀ text ∈ note, text.length ≤ 256

theorem unkeyed : ∀ key ∈ (none : Option String), key.length ≤ 64 := by simp

theorem unnoted : ∀ text ∈ (none : Option String), text.length ≤ 256 := by simp

namespace PaperRoutes

def requirePaperTradingEnabled (settings : Settings) : App Unit :=
  if settings.paperTradingEnabled then pure ()
  else .raise (.http 503 ("paper trading is disabled — set PAPER_TRADING_ENABLED=true "
    ++ "in operator-private .env to opt in"))

def resolveAccount (requested : Option Nat) (userId : Nat) : App VirtualAccount :=
  VirtualAccountRepository.resolve "paper trading account not found"
    "no paper trading account exists for this user" requested (some userId)

def createError : PyError → PyError
  | .paperTradingDisabled message => .http 503 message
  | .simulationBroker message => .http 422 message
  | error => error

def cancelError : PyError → PyError
  | .simulationBroker message =>
    if ApprovalRoutes.saysNotFound message then .http 404 message else .http 422 message
  | error => error

def paperOrder (payload : CreatePaperOrderRequest) (accountId : Nat) : PaperOrder where
  accountId := accountId
  symbol := payload.symbol
  side := payload.side.value
  quantity := payload.quantity
  orderType := payload.orderType.value
  limitPrice := payload.limitPrice
  idempotencyKey := payload.idempotencyKey
  note := payload.note

def createPaperOrder (settings : Settings) (payload : CreatePaperOrderRequest) (userId : Nat) :
    App SubmitResult := do
  requirePaperTradingEnabled settings
  let account ← resolveAccount payload.accountId userId
  ApprovalRoutes.committing createError
    (SimulationBroker.submitOrder ⟨settings⟩ (paperOrder payload account.id))

def cancelPaperOrder (settings : Settings) (orderId : Nat) (reason : Option String) :
    App VirtualOrder := do
  requirePaperTradingEnabled settings
  ApprovalRoutes.committing cancelError
    (SimulationBroker.cancelOrder orderId (reason.map fun text => [.str text]))

theorem exec_requirePaperTradingEnabled (settings : Settings) (answer : Answer) (s : DbSession) :
    (requirePaperTradingEnabled settings).exec answer s =
      (if settings.paperTradingEnabled then .ok ()
        else .error (.http 503 ("paper trading is disabled — set PAPER_TRADING_ENABLED=true "
          ++ "in operator-private .env to opt in")), s) := by
  unfold requirePaperTradingEnabled
  split <;> rfl

end PaperRoutes

inductive PaperRequest where
  | create (payload : CreatePaperOrderRequest) (userId : Nat)
  | cancel (orderId : Nat) (reason : Option String)

namespace PaperRequest

open PaperRoutes

def step (settings : Settings) (request : PaperRequest) (db : Database) : Database :=
  match request with
  | create payload userId => (createPaperOrder settings payload userId).served unasked db
  | cancel orderId reason => (cancelPaperOrder settings orderId reason).served unasked db

/-- All that a request can do to the store: a new order of a client, or one settled as canceled. -/
inductive Moves (before : Database) : PaperRequest → Database → Prop where
  | stays (request : PaperRequest) : Moves before request before
  | created {payload : CreatePaperOrderRequest} {userId accountId : Nat}
      {checked : SimulationBroker.CheckedOrder}
      (hChecked : SimulationBroker.validate (paperOrder payload accountId) = .ok checked) :
      Moves before (create payload userId) (before.insertVirtualOrder
        (VirtualOrderRepository.rowOf checked.draft before.virtualOrders.nextKey
          checked.quantity_pos checked.limitPrice_ok))
  | canceled {orderId : Nat} {reason : Option String} {order : VirtualOrder}
      (hFound : before.virtualOrders.find? orderId = some order)
      (hCancelable : order.status.isCancelable = true) :
      Moves before (cancel orderId reason) (before.updateVirtualOrder orderId
        (VirtualOrderRepository.settle .canceled (reason.map fun text => [.str text])) fun _ => rfl)

theorem Moves.virtualAccounts {before after : Database} {request : PaperRequest}
    (h : Moves before request after) : after.virtualAccounts = before.virtualAccounts := by
  cases h <;> rfl

theorem moves_submit (settings : Settings) (payload : CreatePaperOrderRequest) (userId accountId : Nat)
    (db : Database) : Moves db (create payload userId)
      ((SimulationBroker.submitOrder ⟨settings⟩ (paperOrder payload accountId)).atomically unasked db) := by
  rcases Program.atomically_cases unasked
    (SimulationBroker.submitOrder ⟨settings⟩ (paperOrder payload accountId)) db with
    ⟨result, s, hExec, hView⟩ | hSame
  · obtain ⟨hSubmitted, hFrame⟩ := SimulationBroker.exec_submitOrder_eq_ok hExec
    rw [hView]
    rcases hSubmitted.wrote with ⟨-, -, -, hOrders⟩ | ⟨-, ⟨checked, hChecked, hStored⟩, hOrders⟩
    · rw [hOrders] at hFrame
      rw [hFrame]
      exact .stays _
    · rw [hOrders, hStored] at hFrame
      rw [hFrame]
      exact .created hChecked
  · rw [hSame]
    exact .stays _

theorem moves_cancel (orderId : Nat) (reason : Option String) (db : Database) :
    Moves db (cancel orderId reason) ((SimulationBroker.cancelOrder orderId
      (reason.map fun text => [.str text])).atomically unasked db) := by
  rcases Program.atomically_cases unasked
    (SimulationBroker.cancelOrder orderId (reason.map fun text => [.str text])) db with
    ⟨canceled, s, hExec, hView⟩ | hSame
  · obtain ⟨order, hFound, hCancelable, hAfter⟩ := SimulationBroker.exec_cancelOrder_eq_ok hExec
    rw [hView, hAfter]
    exact .canceled hFound hCancelable
  · rw [hSame]
    exact .stays _

theorem step_of_disabled {settings : Settings} (h : settings.paperTradingEnabled = false)
    (request : PaperRequest) (db : Database) : request.step settings db = db := by
  have hGate := exec_requirePaperTradingEnabled settings unasked (.opened db)
  rw [h] at hGate
  cases request <;> exact Program.served_bind_of_error hGate _

theorem step_create {settings : Settings} (h : settings.paperTradingEnabled = true)
    (payload : CreatePaperOrderRequest) (userId : Nat) (db : Database) :
    (create payload userId).step settings db =
      (VirtualAccountRepository.resolved? payload.accountId (some userId) db).elim db fun account =>
        (SimulationBroker.submitOrder ⟨settings⟩ (paperOrder payload account.id)).atomically
          unasked db := by
  have hGate := exec_requirePaperTradingEnabled settings unasked (.opened db)
  rw [h] at hGate
  have hResolve := VirtualAccountRepository.exec_resolve unasked (.opened db)
    "paper trading account not found" "no paper trading account exists for this user"
    payload.accountId (some userId)
  have hStep : (create payload userId).step settings db = (resolveAccount payload.accountId userId >>=
      fun account => ApprovalRoutes.committing createError
        (SimulationBroker.submitOrder ⟨settings⟩ (paperOrder payload account.id))).served
          unasked db := Program.served_bind_of_ok hGate _
  rw [hStep]
  cases hAccount : VirtualAccountRepository.resolved? payload.accountId (some userId) db with
  | none =>
    rw [Session.opened_view, hAccount] at hResolve
    exact Program.served_bind_of_error hResolve _
  | some account =>
    rw [Session.opened_view, hAccount] at hResolve
    rw [resolveAccount, Program.served_bind_of_ok hResolve,
      ApprovalRoutes.served_committing (SimulationBroker.commitFree_submitOrder _ _)]
    rfl

theorem step_cancel {settings : Settings} (h : settings.paperTradingEnabled = true) (orderId : Nat)
    (reason : Option String) (db : Database) :
    (cancel orderId reason).step settings db = (SimulationBroker.cancelOrder orderId
      (reason.map fun text => [.str text])).atomically unasked db := by
  have hGate := exec_requirePaperTradingEnabled settings unasked (.opened db)
  rw [h] at hGate
  have hStep : (cancel orderId reason).step settings db = (ApprovalRoutes.committing cancelError
      (SimulationBroker.cancelOrder orderId (reason.map fun text => [.str text]))).served
        unasked db := Program.served_bind_of_ok hGate _
  rw [hStep, ApprovalRoutes.served_committing (SimulationBroker.commitFree_cancelOrder _ _)]

theorem moves_step (settings : Settings) (request : PaperRequest) (db : Database) :
    Moves db request (request.step settings db) := by
  cases hSwitch : settings.paperTradingEnabled with
  | false =>
    rw [step_of_disabled hSwitch]
    exact .stays request
  | true =>
    cases request with
    | create payload userId =>
      rw [step_create hSwitch]
      cases VirtualAccountRepository.resolved? payload.accountId (some userId) db with
      | none => exact .stays _
      | some account => exact moves_submit settings payload userId account.id db
    | cancel orderId reason =>
      rw [step_cancel hSwitch]
      exact moves_cancel orderId reason db

end PaperRequest

end StockAiPlatform
