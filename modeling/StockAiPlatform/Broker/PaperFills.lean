import StockAiPlatform.Broker.OrderMoves
import StockAiPlatform.Transaction.Run

/-! # One fill per paper order

Every call of the paper broker is a sequence of moves, however it ends, and a
transaction is the moves of its calls if it commits. So the invariant of the
moves holds in every state a run of transactions reaches.
-/

namespace StockAiPlatform
set_option autoImplicit false

open Transaction Python

namespace SimulationBroker

variable {execution : PendingExecution} {order : VirtualOrder}

theorem Matched.move {before after : Database} (h : Matched execution order before after)
    (hFound : before.virtualOrders.find? order.id = some order) : OrderMove before after := by
  cases h with
  | left => exact .elsewhere rfl rfl
  | filled close hOpen hApplied =>
    obtain ⟨hId, hAccount, hSymbol, hSide, hQuantity, -⟩ := hApplied.asAsked
    have hOrders := congrArg Database.virtualOrders hApplied.frame
    exact .filled hFound hOpen ⟨hId, hAccount, hSymbol, hSide, hQuantity⟩ hOrders hApplied.fills
  | rejected hOpen reason => exact .closed _ hFound hOpen (by decide)
  | raised hOpen hOrders hFills => exact .elsewhere hOrders hFills

/-- Nobody's cash, positions or fills differ. -/
structure SameLedger (before after : Database) : Prop where
  accounts : after.virtualAccounts = before.virtualAccounts
  positions : after.virtualPositions = before.virtualPositions
  fills : after.virtualFills = before.virtualFills

/-- A round after which the order is REJECTED has changed nothing but the order. -/
theorem Matched.sameLedger_of_rejected {before after : Database}
    (h : Matched execution order before after)
    (hFound : before.virtualOrders.find? order.id = some order)
    (hRejected : after.orderStatus order.id = some .rejected) : SameLedger before after := by
  cases h with
  | left => exact ⟨rfl, rfl, rfl⟩
  | filled close hOpen hApplied =>
    rw [Database.orderStatus, find?_settled, congrArg Database.virtualOrders hApplied.frame] at hRejected
    simp only [hFound, Option.map_some, if_true] at hRejected
    cases hRejected
  | rejected hOpen reason => exact ⟨rfl, rfl, rfl⟩
  | raised hOpen hOrders hFills =>
    rw [Database.orderStatus, hOrders, hFound, Option.map_some] at hRejected
    rw [Option.some.inj hRejected] at hOpen
    cases hOpen

theorem moves_matchAll (execution : PendingExecution) (answer : Answer) {orders : List VirtualOrder}
    (hNodup : (orders.map VirtualOrder.id).Nodup) (result : ExecutePendingResult) {s : DbSession}
    (hStored : ∀ order ∈ orders, s.view.virtualOrders.find? order.id = some order) :
    Relation.ReflTransGen OrderMove s.view
      ((matchAll execution orders result).exec answer s).2.view := by
  induction orders generalizing result s with
  | nil => exact .refl
  | cons order orders ih =>
    rw [List.map_cons, List.nodup_cons] at hNodup
    rw [List.forall_mem_cons] at hStored
    have hRound := matched_matchOrder execution order answer s
    rw [matchAll, Program.exec_bind]
    cases hExec : (matchOrder execution order).exec answer s with
    | mk outcome u =>
      rw [hExec] at hRound
      have hMove : OrderMove s.view u.view := hRound.move hStored.1
      cases outcome with
      | error error => exact .single hMove
      | ok outcome =>
        refine .head hMove (ih hNodup.2 (result.add outcome) fun next hNext => ?_)
        have hOther : next.id ≠ order.id := by
          intro hSame
          exact hNodup.1 (hSame ▸ List.mem_map_of_mem hNext)
        rw [hRound.find?_of_ne hOther]
        exact hStored.2 next hNext

theorem nodup_candidates (accountId : Option Nat) (db : Database) :
    ((sortCandidates (pendingAt accountId .created db ++ pendingAt accountId .submitted db)).map
      VirtualOrder.id).Nodup := by
  have hApart : List.Disjoint ((pendingAt accountId .created db).map VirtualOrder.id)
      ((pendingAt accountId .submitted db).map VirtualOrder.id) := by
    intro id hCreated hSubmitted
    obtain ⟨first, hFirst, rfl⟩ := List.mem_map.mp hCreated
    obtain ⟨second, hSecond, hSame⟩ := List.mem_map.mp hSubmitted
    obtain ⟨hFirstRow, hFirstStatus⟩ := mem_of_pendingAt hFirst
    obtain ⟨hSecondRow, hSecondStatus⟩ := mem_of_pendingAt hSecond
    obtain rfl := List.inj_on_of_nodup_map db.virtualOrders.nodup hSecondRow hFirstRow hSame
    rw [hFirstStatus] at hSecondStatus
    cases hSecondStatus
  rw [sortCandidates, ((List.perm_insertionSort _ _).map VirtualOrder.id).nodup_iff, List.map_append]
  exact (nodup_pendingAt ..).append (nodup_pendingAt ..) hApart

theorem moves_executePendingOrders (execution : PendingExecution) (answer : Answer) (s : DbSession) :
    Relation.ReflTransGen OrderMove s.view ((executePendingOrders execution).exec answer s).2.view := by
  rw [executePendingOrders, Program.exec_bind_ok answer s (exec_listPending ..),
    Program.exec_bind_ok answer s (exec_listPending ..)]
  refine moves_matchAll execution answer (nodup_candidates ..) {} fun order hOrder => ?_
  rw [sortCandidates, List.mem_insertionSort, List.mem_append] at hOrder
  have hRow : order ∈ s.view.virtualOrders.rows := by
    rcases hOrder with hOrder | hOrder
    · exact (mem_of_pendingAt hOrder).1
    · exact (mem_of_pendingAt hOrder).1
  exact (Table.find?_eq_some_iff _ _ order).mpr ⟨hRow, rfl⟩

variable {broker : SimulationBroker} {answer : Answer} {s t : DbSession} {error : PyError}

theorem session_eq_of_checkAccount_raised {accountId : Nat}
    (h : (checkAccount broker accountId).exec answer s = (.error error, t)) : t = s := by
  have hChecks : (checkAccount broker accountId).ChecksFirst fun _ : PyError => True := by
    unfold checkAccount
    split
    · trivial
    · refine Program.checksFirst_query_bind fun db => ?_
      cases db.virtualAccounts.find? accountId with
      | none => trivial
      | some account =>
        simp only
        split <;> trivial
  exact hChecks.session_eq trivial h

theorem session_eq_of_submit_raised {order : PaperOrder}
    (h : (submitOrder broker order).exec answer s = (.error error, t)) : t = s := by
  unfold submitOrder at h
  rcases (Program.exec_bind_eq_error ..).mp h with hAccount | ⟨account, u, hAccount, hChecking⟩
  · exact session_eq_of_checkAccount_raised hAccount
  obtain ⟨rfl, -⟩ := exec_checkAccount_eq_ok hAccount
  rcases (Program.exec_bind_eq_error ..).mp hChecking with hChecked | ⟨checked, v, hChecked, hStoring⟩
  · rw [Program.exec_ofExcept] at hChecked
    exact (Prod.mk.inj hChecked).2.symm
  rw [Program.exec_ofExcept] at hChecked
  obtain ⟨-, rfl⟩ := Prod.mk.inj hChecked
  rw [Program.exec_bind_ok answer u exec_findExisting] at hStoring
  cases hKey : order.idempotencyKey.bind fun key =>
      VirtualOrderRepository.findByKey order.accountId key u.view.virtualOrders with
  | some existing =>
    rw [hKey] at hStoring
    cases hStoring
  | none =>
    rw [hKey] at hStoring
    rw [Program.exec_bind_ok answer u (VirtualOrderRepository.exec_create answer u checked.draft
      checked.quantity_pos checked.limitPrice_ok)] at hStoring
    cases hStoring

theorem move_submitOrder (broker : SimulationBroker) (order : PaperOrder) (answer : Answer)
    (s : DbSession) : OrderMove s.view ((submitOrder broker order).exec answer s).2.view := by
  cases hExec : (submitOrder broker order).exec answer s with
  | mk outcome t =>
    cases outcome with
    | error error =>
      rw [session_eq_of_submit_raised hExec]
      exact .elsewhere rfl rfl
    | ok result =>
      obtain ⟨hSubmitted, hFrame⟩ := exec_submitOrder_eq_ok hExec
      have hFills := congrArg Database.virtualFills hFrame
      rcases hSubmitted.wrote with ⟨key, -, -, hSame⟩ | ⟨-, ⟨checked, -, hRow⟩, hOrders⟩
      · exact .elsewhere hSame hFills
      · exact .submitted (by rw [hRow]; rfl) (by rw [hRow]; rfl) hOrders hFills

theorem session_eq_of_cancel_raised {orderId : Nat} {reason : Option Formatted}
    (h : (cancelOrder orderId reason).exec answer s = (.error error, t)) : t = s := by
  have hChecks : (cancelOrder orderId reason).ChecksFirst fun _ : PyError => True := by
    unfold cancelOrder
    refine Program.checksFirst_query_bind fun db => ?_
    cases db.virtualOrders.find? orderId with
    | none => trivial
    | some order =>
      simp only [VirtualOrderRepository.cancel]
      split <;> trivial
  exact hChecks.session_eq trivial h

theorem move_cancelOrder (orderId : Nat) (reason : Option Formatted) (answer : Answer)
    (s : DbSession) : OrderMove s.view ((cancelOrder orderId reason).exec answer s).2.view := by
  cases hExec : (cancelOrder orderId reason).exec answer s with
  | mk outcome t =>
    cases outcome with
    | error error =>
      rw [session_eq_of_cancel_raised hExec]
      exact .elsewhere rfl rfl
    | ok canceled =>
      obtain ⟨stored, hFound, hCancelable, hView⟩ := exec_cancelOrder_eq_ok hExec
      obtain rfl : stored.id = orderId := Table.key_of_find? hFound
      have hOpen : stored.status.isTerminal = false := by
        cases hStatus : stored.status <;> rw [hStatus] at hCancelable <;> first | rfl | cases hCancelable
      rw [hView]
      exact .closed reason hFound hOpen (by decide)

end SimulationBroker

/-- A call of the paper broker, or what else moves the prices and accounts it works on. -/
inductive PaperCall where
  | submit (broker : SimulationBroker) (order : PaperOrder)
  | cancel (orderId : Nat) (reason : Option Formatted)
  | execute (execution : PendingExecution)
  | openAccount (account : VirtualAccount)
  | loadPrices (bars : List DailyPrice)

/-- What the call leaves in the session, whether it returns or raises. -/
def PaperCall.perform : PaperCall → DbSession → DbSession
  | .submit broker order, s => ((broker.submitOrder order).exec unasked s).2
  | .cancel orderId reason, s => ((SimulationBroker.cancelOrder orderId reason).exec unasked s).2
  | .execute execution, s => ((SimulationBroker.executePendingOrders execution).exec unasked s).2
  | .openAccount account, s =>
    s.write fun db => { db with virtualAccounts := db.virtualAccounts.insert account }
  | .loadPrices bars, s => s.write fun db => { db with dailyPrices := bars }

theorem PaperCall.moves (call : PaperCall) (s : DbSession) :
    Relation.ReflTransGen OrderMove s.view (call.perform s).view := by
  cases call with
  | submit broker order => exact .single (SimulationBroker.move_submitOrder broker order unasked s)
  | cancel orderId reason => exact .single (SimulationBroker.move_cancelOrder orderId reason unasked s)
  | execute execution => exact SimulationBroker.moves_executePendingOrders execution unasked s
  | openAccount account => exact .single (.elsewhere rfl rfl)
  | loadPrices bars => exact .single (.elsewhere rfl rfl)

/-- Calls of one session, whose owner then commits or rolls back. -/
structure PaperTransaction where
  calls : List PaperCall
  commits : Bool

namespace PaperTransaction

def step (transaction : PaperTransaction) (db : Database) : Database :=
  let s := run PaperCall.perform transaction.calls (.opened db)
  if transaction.commits then s.view else db

theorem moves_step (transaction : PaperTransaction) (db : Database) :
    Relation.ReflTransGen OrderMove db (transaction.step db) := by
  unfold step
  cases transaction.commits with
  | false => exact .refl
  | true =>
    have hStart : Relation.ReflTransGen OrderMove db (Session.opened db : DbSession).view := .refl
    exact run_invariant (fun s => Relation.ReflTransGen OrderMove db s.view)
      (fun call s hMoves => hMoves.trans (call.moves s)) transaction.calls hStart

theorem moves_run (transactions : List PaperTransaction) (db : Database) :
    Relation.ReflTransGen OrderMove db (run step transactions db) :=
  run_invariant (Relation.ReflTransGen OrderMove db)
    (fun transaction db hMoves => hMoves.trans (transaction.moves_step db)) transactions .refl

/-- Whatever is submitted, canceled and executed at whatever prices: every order has its one fill
exactly when it is FILLED, a terminal status stays, and a round of the matching loop that leaves its
order REJECTED has touched no account. -/
theorem one_fill_per_order (transactions : List PaperTransaction) (db : Database)
    (hOrders : db.virtualOrders.rows = []) (hFills : db.virtualFills = []) :
    (∀ order ∈ (run step transactions db).virtualOrders.rows,
        FilledOnce (run step transactions db) order) ∧
      (∀ (later : List PaperTransaction) (orderId : Nat) (status : VirtualOrderStatus),
        status.isTerminal = true → (run step transactions db).orderStatus orderId = some status →
        (run step (transactions ++ later) db).orderStatus orderId = some status) ∧
      ∀ (execution : PendingExecution) (order : VirtualOrder) (s t : DbSession)
        (outcome : Except PyError MatchOutcome),
        s.view.virtualOrders.find? order.id = some order →
        (SimulationBroker.matchOrder execution order).exec unasked s = (outcome, t) →
        t.view.orderStatus order.id = some .rejected →
        SimulationBroker.SameLedger s.view t.view := by
  have hEmpty : OneFill db := by
    constructor
    · rw [hOrders]
      intro order hOrder
      cases hOrder
    · rw [hFills]
      intro fill hFill
      cases hFill
  refine ⟨(hEmpty.moves (moves_run transactions db)).orders, ?_, ?_⟩
  · intro later orderId status hTerminal hStatus
    rw [run_append]
    exact OrderMove.terminal_of_moves (moves_run later _) hTerminal hStatus
  · intro execution order s t outcome hFound hExec hRejected
    have hRound := SimulationBroker.matched_matchOrder execution order unasked s
    rw [hExec] at hRound
    exact hRound.sameLedger_of_rejected hFound hRejected

def marketBuy (quantity : Int) : PaperOrder where
  accountId := 1
  symbol := "005930"
  side := "BUY"
  quantity := quantity
  orderType := "MARKET"
  limitPrice := none
  idempotencyKey := none
  note := none

def paperBroker : SimulationBroker where
  settings := { Settings.paranoid with paperTradingEnabled := true }

/-- A million of cash at 70,000 a share: ten shares can be paid for, a hundred cannot. -/
def tradingDay : List PaperTransaction :=
  [{ calls := [
      .openAccount {
        id := 1
        initialCash := 1000000
        cashBalance := 1000000
        paperTradingEnabled := true },
      .loadPrices [.flat "005930" 0 70000],
      .submit paperBroker (marketBuy 100),
      .submit paperBroker (marketBuy 10)]
     commits := true },
   { calls := [.execute { asOfDate := 0, filledAt := fun _ => 0 }], commits := false },
   { calls := [.execute { asOfDate := 0, filledAt := fun _ => 0 }, .cancel 2 none]
     commits := true }]

theorem one_fill_per_order_tradingDay :
    (run step tradingDay Database.empty).orderStatus 1 = some .rejected ∧
      (run step tradingDay Database.empty).orderStatus 2 = some .filled ∧
      ∀ order ∈ (run step tradingDay Database.empty).virtualOrders.rows,
        FilledOnce (run step tradingDay Database.empty) order :=
  ⟨by decide +kernel, by decide +kernel, (one_fill_per_order tradingDay Database.empty rfl rfl).1⟩

end PaperTransaction

end StockAiPlatform
