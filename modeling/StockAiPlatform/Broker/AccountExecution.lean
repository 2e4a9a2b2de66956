import StockAiPlatform.Broker.AccountLocality

/-! # Executing the accounts one by one

The job calls `execute_pending_orders` for one account after the other. Each
account is left as one call over all of them leaves it, and its orders are
taken oldest first, exactly as long as none has more pending orders of one
status than the page of the account's query holds.
-/

namespace StockAiPlatform
set_option autoImplicit false

open Transaction Python VirtualPositionRepository

namespace Database

def pendingOrdersOf (db : Database) (accountId : Nat) : List VirtualOrder :=
  (db.virtualOrdersOf accountId).filter fun order => !order.status.isTerminal

/-- What is to be executed for an account: its open orders in the order of their creation. -/
def queueOf (db : Database) (accountId : Nat) : List VirtualOrder :=
  (db.pendingOrdersOf accountId).insertionSort fun a b => a.id ≤ b.id

def ordersAt (db : Database) (accountId : Nat) (status : VirtualOrderStatus) : List VirtualOrder :=
  (db.virtualOrdersOf accountId).filter fun order => order.status == status

/-- The page of the account's query holds the pending orders of each status. -/
def WithinPage (db : Database) (accountId : Nat) : Prop :=
  (db.ordersAt accountId .created).length ≤ 10000 ∧ (db.ordersAt accountId .submitted).length ≤ 10000

def paperAccountOf (db : Database) (orderId : Nat) : Option Nat :=
  (db.virtualOrders.find? orderId).map VirtualOrder.accountId

end Database

namespace SimulationBroker

def candidates (accountId : Option Nat) (db : Database) : List VirtualOrder :=
  sortCandidates (pendingAt accountId .created db ++ pendingAt accountId .submitted db)

/-- The loop of the paper execution job over the accounts. -/
def executeByAccount (execution : PendingExecution) : List Nat → App (List ExecutePendingResult)
  | [] => pure []
  | accountId :: accountIds => do
    let result ← executePendingOrders { execution with accountId := some accountId }
    let results ← executeByAccount execution accountIds
    pure (result :: results)

theorem exec_executePendingOrders (execution : PendingExecution) (answer : Answer) (s : DbSession) :
    (executePendingOrders execution).exec answer s =
      (matchAll execution (candidates execution.accountId s.view) {}).exec answer s := by
  rw [executePendingOrders, Program.exec_bind_ok answer s (exec_listPending ..),
    Program.exec_bind_ok answer s (exec_listPending ..)]
  rfl

theorem matchAll_withAccount (execution : PendingExecution) (accountId : Option Nat)
    (orders : List VirtualOrder) (result : ExecutePendingResult) :
    matchAll { execution with accountId := accountId } orders result =
      matchAll execution orders result := by
  induction orders generalizing result with
  | nil => rfl
  | cons order orders ih =>
    rw [matchAll, matchAll]
    exact congrArg (matchOrder execution order >>= ·) (funext fun outcome => ih (result.add outcome))

/-! ## Which orders a call takes, and in which order -/

section Candidates

variable {db : Database} {accountId : Nat} {orders : List VirtualOrder}

abbrev Earlier (a b : VirtualOrder) : Prop :=
  a.accountId < b.accountId ∨ a.accountId = b.accountId ∧ a.id ≤ b.id

theorem pairwise_sortCandidates (orders : List VirtualOrder) :
    (sortCandidates orders).Pairwise Earlier := by
  have hTotal : Std.Total Earlier := by
    constructor
    intro a b
    unfold Earlier
    omega
  have hTrans : IsTrans VirtualOrder Earlier := by
    constructor
    intro a b c hFirst hSecond
    unfold Earlier at *
    omega
  exact List.pairwise_insertionSort Earlier orders

theorem perm_queueOf (db : Database) (accountId : Nat) :
    (db.queueOf accountId).Perm (db.pendingOrdersOf accountId) :=
  List.perm_insertionSort _ _

theorem accountId_of_mem_queueOf {order : VirtualOrder} (h : order ∈ db.queueOf accountId) :
    order ∈ db.virtualOrders.rows ∧ order.accountId = accountId := by
  have hPending := (perm_queueOf db accountId).subset h
  obtain ⟨hRow, hAccount⟩ := List.mem_filter.mp (List.mem_of_mem_filter hPending)
  exact ⟨hRow, beq_iff_eq.mp hAccount⟩

/-- There is one way to queue the pending orders of an account. -/
theorem eq_queueOf (hPerm : orders.Perm (db.pendingOrdersOf accountId))
    (hSorted : orders.Pairwise Earlier) : orders = db.queueOf accountId := by
  have hMem : ∀ order ∈ orders, order ∈ db.virtualOrders.rows ∧ order.accountId = accountId := by
    intro order hOrder
    exact accountId_of_mem_queueOf ((hPerm.trans (perm_queueOf db accountId).symm).subset hOrder)
  have hIds : orders.Pairwise fun a b => a.id ≤ b.id := by
    refine hSorted.imp_of_mem fun {a b} ha hb hEarlier => ?_
    have hSame := (hMem a ha).2.trans (hMem b hb).2.symm
    unfold Earlier at hEarlier
    omega
  refine List.Perm.eq_of_pairwise ?_ hIds (List.pairwise_insertionSort _ _)
    (hPerm.trans (perm_queueOf db accountId).symm)
  intro a b ha hb hLe hGe
  exact List.inj_on_of_nodup_map db.virtualOrders.nodup (hMem a ha).1
    (accountId_of_mem_queueOf hb).1 (Nat.le_antisymm hLe hGe)

theorem perm_ordersAt (db : Database) (accountId : Nat) :
    (db.ordersAt accountId .created ++ db.ordersAt accountId .submitted).Perm
      (db.pendingOrdersOf accountId) := by
  have hApart := List.filter_append_perm (fun order : VirtualOrder => order.status == .created)
    (db.pendingOrdersOf accountId)
  rw [Database.pendingOrdersOf, List.filter_filter, List.filter_filter] at hApart
  refine List.Perm.trans (List.Perm.of_eq ?_) hApart
  congr 1
  · refine List.filter_congr fun order _ => ?_
    cases order.status <;> rfl
  · refine List.filter_congr fun order _ => ?_
    cases order.status <;> rfl

theorem withStatus_perm (accountId : Nat) (status : VirtualOrderStatus) (db : Database) :
    (VirtualOrderRepository.withStatus (some accountId) status db).Perm
      (db.ordersAt accountId status) := by
  refine (List.perm_insertionSort _ _).trans (List.Perm.of_eq ?_)
  rw [Database.ordersAt, Database.virtualOrdersOf, List.filter_filter]
  exact List.filter_congr fun order _ => Bool.and_comm ..

theorem candidates_global (db : Database) (accountId : Nat) :
    (candidates none db).filter (fun order => order.accountId == accountId) =
      db.queueOf accountId := by
  refine eq_queueOf ?_ ((pairwise_sortCandidates _).sublist List.filter_sublist)
  refine ((List.perm_insertionSort _ _).filter _).trans ?_
  rw [List.filter_append]
  refine List.Perm.trans (List.Perm.append ?_ ?_) (perm_ordersAt db accountId)
  · refine ((List.perm_insertionSort _ _).filter _).trans (List.Perm.of_eq ?_)
    rw [Database.ordersAt, Database.virtualOrdersOf, List.filter_filter, List.filter_filter]
    exact List.filter_congr fun order _ => Bool.and_comm ..
  · refine ((List.perm_insertionSort _ _).filter _).trans (List.Perm.of_eq ?_)
    rw [Database.ordersAt, Database.virtualOrdersOf, List.filter_filter, List.filter_filter]
    exact List.filter_congr fun order _ => Bool.and_comm ..

theorem length_pendingAt (accountId : Nat) (status : VirtualOrderStatus) (db : Database) :
    (pendingAt (some accountId) status db).length =
      min 10000 (db.ordersAt accountId status).length := by
  rw [pendingAt, List.length_take, (withStatus_perm accountId status db).length_eq]

theorem candidates_account (h : db.WithinPage accountId) :
    candidates (some accountId) db = db.queueOf accountId := by
  have hWhole : ∀ status, (db.ordersAt accountId status).length ≤ 10000 →
      (pendingAt (some accountId) status db).Perm (db.ordersAt accountId status) := by
    intro status hLength
    rw [← (withStatus_perm accountId status db).length_eq] at hLength
    rw [pendingAt, List.take_of_length_le hLength]
    exact withStatus_perm accountId status db
  refine eq_queueOf ?_ (pairwise_sortCandidates _)
  refine (List.perm_insertionSort _ _).trans ?_
  exact ((hWhole .created h.1).append (hWhole .submitted h.2)).trans (perm_ordersAt db accountId)

/-- The page is the only reason to leave an order out. -/
theorem candidates_account_iff :
    candidates (some accountId) db = db.queueOf accountId ↔ db.WithinPage accountId := by
  refine ⟨fun h => ?_, candidates_account⟩
  have hLength := congrArg List.length h
  rw [candidates, sortCandidates, List.length_insertionSort, List.length_append,
    length_pendingAt, length_pendingAt, (perm_queueOf db accountId).length_eq,
    ← (perm_ordersAt db accountId).length_eq, List.length_append] at hLength
  unfold Database.WithinPage
  omega

end Candidates

/-! ## What a round leaves alone -/

section Rounds

variable {execution : PendingExecution} {order : VirtualOrder} {orders : List VirtualOrder}
  {answer : Answer} {s t u : DbSession} {accountId : Nat}

theorem paperAccountOf_settled (order : VirtualOrder) (status : VirtualOrderStatus)
    (reason : Option Formatted) (db : Database) (k : Nat) :
    (settled order status reason db).paperAccountOf k = db.paperAccountOf k := by
  rw [Database.paperAccountOf, find?_settled, Option.map_map, Database.paperAccountOf]
  congr 1
  funext stored
  rw [Function.comp_apply]
  split <;> rfl

theorem Matched.paperAccountOf {before after : Database} (h : Matched execution order before after)
    (k : Nat) : after.paperAccountOf k = before.paperAccountOf k := by
  cases h with
  | left => rfl
  | filled close hOpen hApplied =>
    rw [paperAccountOf_settled, Database.paperAccountOf, hApplied.frame, Database.paperAccountOf]
  | rejected hOpen reason => exact paperAccountOf_settled ..
  | raised hOpen hOrders hFills => rw [Database.paperAccountOf, hOrders, Database.paperAccountOf]

theorem tradingView_settled {db : Database} (hOwner : db.paperAccountOf order.id = some order.accountId)
    (hOther : order.accountId ≠ accountId) (status : VirtualOrderStatus) (reason : Option Formatted) :
    (settled order status reason db).tradingView accountId = db.tradingView accountId := by
  have hOrders : (settled order status reason db).virtualOrdersOf accountId =
      db.virtualOrdersOf accountId := by
    have hKeeps : ∀ row, (VirtualOrderRepository.settle status reason row).accountId = row.accountId :=
      fun _ => rfl
    refine (Database.virtualOrdersOf_update hKeeps db).trans (updateWhere_eq_self ?_)
    intro row hRow
    obtain ⟨hMem, hAccount⟩ := List.mem_filter.mp hRow
    rw [beq_eq_false_iff_ne]
    intro hSame
    have hFound := (Table.find?_eq_some_iff _ order.id row).mpr ⟨hMem, hSame⟩
    rw [Database.paperAccountOf, hFound, Option.map_some, beq_iff_eq.mp hAccount] at hOwner
    exact hOther (Option.some.inj hOwner).symm
  exact congrArg (fun rows => ({ db.accountState accountId with orders := rows }, db.dailyPrices)) hOrders

theorem tradingView_applied {fill : PaperFill} {before after : Database} {row : VirtualFill}
    (h : Applied fill before after row) (hOther : fill.accountId ≠ accountId) :
    after.tradingView accountId = before.tradingView accountId := by
  obtain ⟨account, -, -, hAccounts⟩ := h.account
  have hAccount : after.virtualAccounts.find? accountId = before.virtualAccounts.find? accountId := by
    rw [hAccounts, Database.find?_setCashBalance]
    simp only [if_neg (Ne.symm hOther), Option.map_id']
  have hFills := fillsOf_applied h accountId
  rw [if_neg hOther, List.append_nil] at hFills
  have hPositions : positionsOf accountId after = positionsOf accountId before := by
    refine h.filter_of_disjoint fun held hHere => ?_
    rw [beq_eq_false_iff_ne, (VirtualPosition.isAt_iff.mp hHere).1]
    exact hOther
  have hOrders : after.virtualOrdersOf accountId = before.virtualOrdersOf accountId := by
    rw [Database.virtualOrdersOf, h.frame, Database.virtualOrdersOf]
  have hPrices : after.dailyPrices = before.dailyPrices := by rw [h.frame]
  rw [Database.tradingView, Database.accountState, hAccount, hOrders, hFills, hPositions, hPrices]
  rfl

/-- A round that returns leaves the other accounts as they were. -/
theorem tradingView_matchOrder {outcome : MatchOutcome}
    (hExec : (matchOrder execution order).exec answer s = (.ok outcome, t))
    (hOwner : s.view.paperAccountOf order.id = some order.accountId)
    (hOther : order.accountId ≠ accountId) :
    t.view.tradingView accountId = s.view.tradingView accountId := by
  have hRound := round_matchOrder hExec
  generalize t.view = left at hRound
  cases hRound with
  | skipped hSkipped hClose => rfl
  | rejected hClose hShort reason => exact tradingView_settled hOwner hOther .rejected _
  | @filled close after fill hClose hApplied =>
    have hPaid : after.paperAccountOf order.id = some order.accountId := by
      rw [Database.paperAccountOf, hApplied.frame]
      exact hOwner
    exact (tradingView_settled hPaid hOther .filled none).trans (tradingView_applied hApplied hOther)

/-- The orders are stored under the accounts they are read with. -/
def Owned (orders : List VirtualOrder) (db : Database) : Prop :=
  ∀ order ∈ orders, db.paperAccountOf order.id = some order.accountId

theorem Owned.tail {outcome : Except PyError MatchOutcome} (h : Owned (order :: orders) s.view)
    (hExec : (matchOrder execution order).exec answer s = (outcome, t)) : Owned orders t.view := by
  intro next hNext
  have hRound := matched_matchOrder execution order answer s
  rw [hExec] at hRound
  exact (hRound.paperAccountOf next.id).trans (h next (List.mem_cons_of_mem order hNext))

theorem owned_of_rows {db : Database} (h : ∀ order ∈ orders, order ∈ db.virtualOrders.rows) :
    Owned orders db := by
  intro order hOrder
  rw [Database.paperAccountOf, (Table.find?_eq_some_iff _ order.id order).mpr ⟨h order hOrder, rfl⟩]
  rfl

theorem tradingView_matchAll {result total : ExecutePendingResult}
    (hExec : (matchAll execution orders result).exec answer s = (.ok total, t))
    (hOwned : Owned orders s.view) (hOther : ∀ order ∈ orders, order.accountId ≠ accountId) :
    t.view.tradingView accountId = s.view.tradingView accountId := by
  induction orders generalizing result s with
  | nil =>
    cases hExec
    rfl
  | cons order orders ih =>
    rw [matchAll, Program.exec_bind_eq_ok] at hExec
    obtain ⟨outcome, u, hRound, hRest⟩ := hExec
    rw [List.forall_mem_cons] at hOther
    have hView := tradingView_matchOrder hRound (hOwned order List.mem_cons_self) hOther.1
    exact (ih hRest (hOwned.tail hRound) hOther.2).trans hView

/-- The loop over all orders does for an account what the loop over its own orders does. -/
theorem slice_matchAll {result total : ExecutePendingResult} (other : ExecutePendingResult)
    (hExec : (matchAll execution orders result).exec answer s = (.ok total, t))
    (hOwned : Owned orders s.view)
    (hSame : s.view.tradingView accountId = u.view.tradingView accountId) :
    ∃ own v, (matchAll execution (orders.filter fun order => order.accountId == accountId)
        other).exec answer u = (.ok own, v) ∧
      v.view.tradingView accountId = t.view.tradingView accountId := by
  induction orders generalizing result other s u with
  | nil =>
    cases hExec
    exact ⟨other, u, rfl, hSame.symm⟩
  | cons order orders ih =>
    rw [matchAll, Program.exec_bind_eq_ok] at hExec
    obtain ⟨outcome, mid, hRound, hRest⟩ := hExec
    have hTail := hOwned.tail hRound
    by_cases hAccount : order.accountId = accountId
    · obtain rfl := hAccount
      obtain ⟨v, hOwn, hView⟩ := (local_matchOrder_tradingView execution order).exec_ok hSame hRound
      rw [List.filter_cons, if_pos (beq_self_eq_true _), matchAll, Program.exec_bind_ok answer u hOwn]
      exact ih (other.add outcome) hRest hTail hView
    · have hView := tradingView_matchOrder hRound (hOwned order List.mem_cons_self) hAccount
      rw [List.filter_cons_of_neg (by rwa [beq_iff_eq])]
      exact ih other hRest hTail (hView.trans hSame)

end Rounds

/-! ## The two schedules -/

section Schedules

variable {execution : PendingExecution} {answer : Answer} {s t u : DbSession} {accountId : Nat}

theorem mem_rows_of_candidates {requested : Option Nat} {db : Database} {order : VirtualOrder}
    (h : order ∈ candidates requested db) : order ∈ db.virtualOrders.rows := by
  rw [candidates, sortCandidates, List.mem_insertionSort, List.mem_append] at h
  rcases h with h | h
  · exact (mem_of_pendingAt h).1
  · exact (mem_of_pendingAt h).1

theorem virtualOrdersOf_of_view {db other : Database}
    (h : db.tradingView accountId = other.tradingView accountId) :
    db.virtualOrdersOf accountId = other.virtualOrdersOf accountId :=
  congrArg (fun view => view.1.orders) h

theorem queueOf_of_view {db other : Database}
    (h : db.tradingView accountId = other.tradingView accountId) :
    db.queueOf accountId = other.queueOf accountId := by
  rw [Database.queueOf, Database.pendingOrdersOf, virtualOrdersOf_of_view h, Database.queueOf,
    Database.pendingOrdersOf]

theorem withinPage_of_view {db other : Database}
    (h : db.tradingView accountId = other.tradingView accountId) (hPage : db.WithinPage accountId) :
    other.WithinPage accountId := by
  rw [Database.WithinPage, Database.ordersAt, Database.ordersAt, virtualOrdersOf_of_view h] at hPage
  exact hPage

/-- A call for an account on a store that agrees with the one the global call found. -/
theorem exec_account {total : ExecutePendingResult}
    (hExec : (matchAll execution (candidates none s.view) {}).exec answer s = (.ok total, t))
    (hSame : u.view.tradingView accountId = s.view.tradingView accountId)
    (hPage : s.view.WithinPage accountId) :
    ∃ result v, (executePendingOrders { execution with accountId := some accountId }).exec answer u =
        (.ok result, v) ∧
      v.view.tradingView accountId = t.view.tradingView accountId ∧
      ∀ other ≠ accountId, v.view.tradingView other = u.view.tradingView other := by
  have hOwned : Owned (candidates none s.view) s.view :=
    owned_of_rows fun order => mem_rows_of_candidates
  obtain ⟨result, v, hOwn, hView⟩ := slice_matchAll {} hExec hOwned hSame.symm
  have hQueue : candidates (some accountId) u.view =
      (candidates none s.view).filter fun order => order.accountId == accountId := by
    rw [candidates_account (withinPage_of_view hSame.symm hPage), queueOf_of_view hSame,
      candidates_global]
  rw [← hQueue] at hOwn
  refine ⟨result, v, ?_, hView, fun other hOther => ?_⟩
  · rw [exec_executePendingOrders, matchAll_withAccount]
    exact hOwn
  · refine tradingView_matchAll hOwn (owned_of_rows fun order => mem_rows_of_candidates) ?_
    rw [candidates_account (withinPage_of_view hSame.symm hPage)]
    intro order hOrder
    rw [(accountId_of_mem_queueOf hOrder).2]
    exact Ne.symm hOther

theorem exec_executeByAccount {total : ExecutePendingResult} {accountIds : List Nat}
    (hExec : (matchAll execution (candidates none s.view) {}).exec answer s = (.ok total, t))
    (hNodup : accountIds.Nodup) (hPage : ∀ accountId ∈ accountIds, s.view.WithinPage accountId)
    (hSame : ∀ accountId ∈ accountIds, u.view.tradingView accountId = s.view.tradingView accountId) :
    ∃ results v, (executeByAccount execution accountIds).exec answer u = (.ok results, v) ∧
      (∀ accountId ∈ accountIds, v.view.tradingView accountId = t.view.tradingView accountId) ∧
      ∀ other ∉ accountIds, v.view.tradingView other = u.view.tradingView other := by
  induction accountIds generalizing u with
  | nil => exact ⟨[], u, rfl, by simp, fun other _ => rfl⟩
  | cons accountId accountIds ih =>
    rw [List.forall_mem_cons] at hPage hSame
    rw [List.nodup_cons] at hNodup
    obtain ⟨result, mid, hOwn, hView, hOthers⟩ := exec_account hExec hSame.1 hPage.1
    have hApart : ∀ other ∈ accountIds, other ≠ accountId := by
      rintro other hMem rfl
      exact hNodup.1 hMem
    obtain ⟨results, v, hRest, hListed, hUnlisted⟩ := ih hNodup.2 hPage.2
      fun other hMem => (hOthers other (hApart other hMem)).trans (hSame.2 other hMem)
    refine ⟨result :: results, v, ?_, ?_, ?_⟩
    · rw [executeByAccount, Program.exec_bind_ok answer u hOwn, Program.exec_bind_ok answer mid hRest]
      rfl
    · rw [List.forall_mem_cons]
      exact ⟨(hUnlisted accountId hNodup.1).trans hView, hListed⟩
    · intro other hOther
      rw [List.mem_cons, not_or] at hOther
      exact (hUnlisted other hOther.2).trans (hOthers other hOther.1)

/-- Both schedules take every pending order of the listed accounts, oldest first, and where the
global call returns, so do the calls account by account, and leave the accounts alike. -/
structure ExecutesApart (execution : PendingExecution) (answer : Answer) (accountIds : List Nat)
    (s : DbSession) : Prop where
  fifo : ∀ accountId ∈ accountIds, candidates (some accountId) s.view = s.view.queueOf accountId ∧
    (candidates none s.view).filter (fun order => order.accountId == accountId) =
      s.view.queueOf accountId
  same : ∀ total t,
    (executePendingOrders { execution with accountId := none }).exec answer s = (.ok total, t) →
    ∃ results u, (executeByAccount execution accountIds).exec answer s = (.ok results, u) ∧
      ∀ accountId ∈ accountIds, u.view.accountState accountId = t.view.accountState accountId

theorem executesApart_iff (execution : PendingExecution) (answer : Answer) (s : DbSession)
    {accountIds : List Nat} (hNodup : accountIds.Nodup) :
    ExecutesApart execution answer accountIds s ↔
      ∀ accountId ∈ accountIds, s.view.WithinPage accountId := by
  constructor
  · intro hApart accountId hMem
    exact candidates_account_iff.mp (hApart.fifo accountId hMem).1
  · intro hPage
    constructor
    · intro accountId hMem
      exact ⟨candidates_account (hPage accountId hMem), candidates_global ..⟩
    · intro total t hExec
      rw [exec_executePendingOrders, matchAll_withAccount] at hExec
      obtain ⟨results, u, hAccounts, hSame, -⟩ :=
        exec_executeByAccount hExec hNodup hPage fun accountId _ => rfl
      exact ⟨results, u, hAccounts, fun accountId hMem => congrArg Prod.fst (hSame accountId hMem)⟩

def queuedOrder (id : Nat) : VirtualOrder where
  id := id
  accountId := 1
  symbol := "005930"
  side := .buy
  quantity := 1
  orderType := .market
  limitPrice := none
  status := .created
  idempotencyKey := none
  reason := none
  note := none
  quantity_pos := Int.one_pos
  limitPrice_ok := OrderType.takes_market

theorem nodup_queuedOrders (count : Nat) :
    (((List.range' 1 count).map queuedOrder).map Keyed.key).Nodup := by
  have hKey : Keyed.key ∘ queuedOrder = id := rfl
  rw [List.map_map, hKey, List.map_id]
  exact List.nodup_range'

def fundedAccount : VirtualAccount :=
  { id := 1, initialCash := 10000000, cashBalance := 10000000, paperTradingEnabled := true }

theorem nodup_fundedAccount : ([fundedAccount].map Keyed.key).Nodup := by decide

/-- A funded account and the price of the day, with this many orders placed and none executed yet. -/
def crowdedDatabase (count : Nat) : Database :=
  { Database.empty with
    virtualAccounts := ⟨[fundedAccount], nodup_fundedAccount⟩
    dailyPrices := [.flat "005930" 0 100]
    virtualOrders := ⟨(List.range' 1 count).map queuedOrder, nodup_queuedOrders count⟩ }

theorem length_ordersAt_crowded (count : Nat) :
    ((crowdedDatabase count).ordersAt 1 .created).length = count := by
  have hAll : (crowdedDatabase count).ordersAt 1 .created = (List.range' 1 count).map queuedOrder := by
    rw [Database.ordersAt, Database.virtualOrdersOf, List.filter_filter]
    refine List.filter_eq_self.mpr fun order hOrder => ?_
    obtain ⟨id, -, rfl⟩ := List.mem_map.mp hOrder
    rfl
  rw [hAll, List.length_map, List.length_range']

theorem executesApart_of_three :
    [1, 2].Nodup ∧ ExecutesApart { asOfDate := 0, filledAt := fun _ => 0 } unasked [1, 2]
      (.opened (crowdedDatabase 3)) := by
  have hNodup : [1, 2].Nodup := by decide
  refine ⟨hNodup, (executesApart_iff _ unasked _ hNodup).mpr ?_⟩
  unfold Database.WithinPage
  decide

/-- The oldest of 10,001 orders is not on the page. -/
theorem oldest_of_crowd_skipped :
    ¬ ExecutesApart { asOfDate := 0, filledAt := fun _ => 0 } unasked [1]
      (.opened (crowdedDatabase 10001)) := by
  intro hApart
  have hPage := candidates_account_iff.mp (hApart.fifo 1 (List.mem_singleton_self 1)).1
  have hShort : ((crowdedDatabase 10001).ordersAt 1 .created).length ≤ 10000 := hPage.1
  rw [length_ordersAt_crowded] at hShort
  omega

end Schedules

end SimulationBroker

end StockAiPlatform
