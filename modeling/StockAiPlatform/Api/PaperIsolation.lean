import StockAiPlatform.Api.PaperRoutes
import StockAiPlatform.Transaction.Run

/-! # Paper orders of several users

The routes know who asks, and use it only to find an account when none is
named. A run in which everybody names what is their own leaves each user's
orders as the run of that user's requests alone does.
-/

namespace StockAiPlatform
set_option autoImplicit false

open Transaction Python

namespace SimulationBroker

/-- A submit that is going to store a new order. -/
structure Inserts (settings : Settings) (order : PaperOrder) (db : Database) (checked : CheckedOrder) :
    Prop where
  switch : settings.paperTradingEnabled = true
  account : ∃ account, db.virtualAccounts.find? order.accountId = some account ∧
    account.paperTradingEnabled = true
  valid : validate order = .ok checked
  fresh : order.idempotencyKey.bind (fun key =>
    VirtualOrderRepository.findByKey order.accountId key db.virtualOrders) = none

variable {settings : Settings} {order : PaperOrder} {db : Database} {checked : CheckedOrder}

def newOrder (checked : CheckedOrder) (db : Database) : VirtualOrder :=
  VirtualOrderRepository.rowOf checked.draft db.virtualOrders.nextKey checked.quantity_pos
    checked.limitPrice_ok

theorem submitOrder_of_inserts (h : Inserts settings order db checked) :
    (submitOrder ⟨settings⟩ order).atomically unasked db =
      db.insertVirtualOrder (newOrder checked db) := by
  obtain ⟨hSwitch, ⟨account, hFound, hEnabled⟩, hValid, hFresh⟩ := h
  have hAccount : (checkAccount ⟨settings⟩ order.accountId).exec unasked (.opened db) =
      (.ok account, .opened db) := by
    rw [checkAccount, hSwitch, VirtualAccountRepository.getById]
    rw [if_neg (by decide), Program.exec_query_bind, Session.opened_view, hFound]
    simp only [hEnabled, if_true]
    rfl
  have hExec : (submitOrder ⟨settings⟩ order).exec unasked (.opened db) =
      (.ok ⟨newOrder checked db, false⟩,
        Session.write (.opened db) fun db' => db'.insertVirtualOrder (newOrder checked db)) := by
    rw [submitOrder, Program.exec_bind_ok _ _ hAccount, hValid,
      Program.exec_bind_ok _ _ (Program.exec_ofExcept ..), Program.exec_bind_ok _ _ exec_findExisting,
      Session.opened_view, hFresh]
    exact Program.exec_bind_ok _ _ (VirtualOrderRepository.exec_create unasked (.opened db)
      checked.draft checked.quantity_pos checked.limitPrice_ok) _
  rw [Program.atomically_of_ok hExec]
  rfl

theorem submitOrder_of_not (h : ∀ checked, ¬ Inserts settings order db checked) :
    (submitOrder ⟨settings⟩ order).atomically unasked db = db := by
  rcases Program.atomically_cases unasked (submitOrder ⟨settings⟩ order) db with
    ⟨result, s, hExec, hView⟩ | hSame
  · obtain ⟨hSubmitted, hFrame⟩ := exec_submitOrder_eq_ok hExec
    rw [hView]
    rcases hSubmitted.wrote with ⟨-, -, -, hOrders⟩ | ⟨hFresh, ⟨checked, hValid, -⟩, -⟩
    · rw [hFrame, hOrders]
      rfl
    · refine absurd ⟨hSubmitted.switch, hSubmitted.account, hValid, ?_⟩ (h checked)
      rw [Option.bind_eq_none_iff]
      exact hFresh
  · exact hSame

theorem cancelOrder_of_open {orderId : Nat} {reason : Option Formatted} {stored : VirtualOrder}
    (hFound : db.virtualOrders.find? orderId = some stored)
    (hOpen : stored.status.isCancelable = true) :
    (cancelOrder orderId reason).atomically unasked db = db.updateVirtualOrder orderId
      (VirtualOrderRepository.settle .canceled reason)
      (VirtualOrderRepository.id_settle .canceled reason) := by
  obtain rfl := Table.key_of_find? hFound
  have hExec : (cancelOrder (Keyed.key stored) reason).exec unasked (.opened db) =
      (VirtualOrderRepository.updateStatus stored .canceled reason).exec unasked (.opened db) := by
    rw [cancelOrder, VirtualOrderRepository.getById, Program.exec_query_bind, Session.opened_view,
      hFound]
    simp only [hOpen, if_true, VirtualOrderRepository.cancel]
  rw [Program.atomically, hExec]
  rfl

theorem cancelOrder_of_not {orderId : Nat} {reason : Option Formatted}
    (h : ∀ stored, db.virtualOrders.find? orderId = some stored → stored.status.isCancelable = false) :
    (cancelOrder orderId reason).atomically unasked db = db := by
  rcases Program.atomically_cases unasked (cancelOrder orderId reason) db with
    ⟨canceled, s, hExec, -⟩ | hSame
  · obtain ⟨stored, hFound, hOpen, -⟩ := exec_cancelOrder_eq_ok hExec
    rw [Session.opened_view] at hFound
    rw [h stored hFound] at hOpen
    cases hOpen
  · exact hSame

end SimulationBroker

inductive PaperAction where
  | create (payload : CreatePaperOrderRequest)
  | cancel (orderId : Nat) (reason : Option String)

/-- A request and the user it was authenticated as. -/
structure UserRequest where
  userId : Nat
  action : PaperAction

namespace Database

def ownerOf (db : Database) (order : VirtualOrder) : Option Nat :=
  (db.virtualAccounts.find? order.accountId).bind VirtualAccount.userId

def ordersOfUser (userId : Nat) (db : Database) : List VirtualOrder :=
  db.virtualOrders.rows.filter fun order => db.ownerOf order == some userId

end Database

/-- An order but for its id, which counts the orders of all users. -/
def VirtualOrder.unnumbered (order : VirtualOrder) : VirtualOrder := { order with id := 0 }

namespace UserRequest

def request (request : UserRequest) : PaperRequest :=
  match request.action with
  | .create payload => .create payload request.userId
  | .cancel orderId reason => .cancel orderId reason

def step (settings : Settings) (request : UserRequest) (db : Database) : Database :=
  request.request.step settings db

/-- The order in the second list at the place of this order in the first. -/
def counterpart (orderId : Nat) : List VirtualOrder → List VirtualOrder → Option Nat
  | order :: orders, other :: others =>
    if order.id = orderId then some other.id else counterpart orderId orders others
  | _, _ => none

/-- The request of a user as made when the user is alone: the order to cancel goes by the id it has
there, and what is no order of the user's by an id that is not in use. -/
def alone (request : UserRequest) (db solo : Database) : UserRequest :=
  match request.action with
  | .create payload => { request with action := .create payload }
  | .cancel orderId reason =>
    let there := counterpart orderId (db.ordersOfUser request.userId) (solo.ordersOfUser request.userId)
    { request with action := .cancel (there.getD solo.virtualOrders.nextKey) reason }

/-- The run of the requests of one user, next to the run of all. -/
def runAlone (settings : Settings) (userId : Nat) :
    List UserRequest → Database → Database → Database
  | [], _, solo => solo
  | request :: requests, db, solo =>
    runAlone settings userId requests (request.step settings db)
      (if request.userId = userId then (request.alone db solo).step settings solo else solo)

/-- No request moves an order of another user, and everybody's orders come out as if alone. -/
structure Isolated (settings : Settings) (requests : List UserRequest) (db : Database) : Prop where
  apart : Along (step settings) (fun request before => ∀ userId ≠ request.userId,
    (request.step settings before).ordersOfUser userId = before.ordersOfUser userId) requests db
  alike : ∀ userId,
    ((run (step settings) requests db).ordersOfUser userId).map VirtualOrder.unnumbered =
      ((runAlone settings userId requests db db).ordersOfUser userId).map VirtualOrder.unnumbered

/-- The account a request names is the user's, and so is the order, if it is still open. -/
def NamesOwn (request : UserRequest) (db : Database) : Prop :=
  match request.action with
  | .create payload => ∀ accountId ∈ payload.accountId,
    ∀ account ∈ db.virtualAccounts.find? accountId, account.userId = some request.userId
  | .cancel orderId _ => ∀ order ∈ db.virtualOrders.find? orderId,
    order.status.isCancelable = true → db.ownerOf order = some request.userId

variable {settings : Settings} {db solo : Database} {userId : Nat} {request : UserRequest}

/-! ## What a request writes -/

theorem ordersOfUser_insert {order : VirtualOrder} (hKey : order.id = db.virtualOrders.nextKey) :
    (db.insertVirtualOrder order).ordersOfUser userId =
      db.ordersOfUser userId ++ [order].filter fun order => db.ownerOf order == some userId := by
  have hRows := Table.rows_insert_of_key_eq (t := db.virtualOrders) (a := order) hKey
  rw [Database.ordersOfUser, Database.insertVirtualOrder, hRows, List.filter_append]
  rfl

theorem ordersOfUser_settle (orderId : Nat) (reason : Option Formatted) :
    (db.updateVirtualOrder orderId (VirtualOrderRepository.settle .canceled reason)
        (VirtualOrderRepository.id_settle .canceled reason)).ordersOfUser userId =
      updateWhere (fun order => order.id == orderId)
        (VirtualOrderRepository.settle .canceled reason) (db.ordersOfUser userId) := by
  have hKeep : ∀ order, (db.ownerOf (VirtualOrderRepository.settle .canceled reason order) ==
      some userId) = (db.ownerOf order == some userId) := fun _ => rfl
  exact Database.filter_updateVirtualOrder hKeep db

theorem virtualAccounts_step (settings : Settings) (request : UserRequest) (db : Database) :
    (request.step settings db).virtualAccounts = db.virtualAccounts :=
  (PaperRequest.moves_step settings request.request db).virtualAccounts

/-- Every account has a user. -/
def Owned (db : Database) : Prop := ∀ account ∈ db.virtualAccounts.rows, account.userId ≠ none

theorem owner_of_resolved {requested : Option Nat} {account : VirtualAccount} (hOwned : Owned db)
    (hNamed : ∀ accountId ∈ requested, ∀ account ∈ db.virtualAccounts.find? accountId,
      account.userId = some userId)
    (h : VirtualAccountRepository.resolved? requested (some userId) db = some account) :
    ∀ order : VirtualOrder, order.accountId = account.id → db.ownerOf order = some userId := by
  have hMine : db.virtualAccounts.find? account.id = some account ∧ account.userId = some userId := by
    cases requested with
    | some accountId =>
      have hFound : db.virtualAccounts.find? accountId = some account := h
      obtain rfl : account.id = accountId := Table.key_of_find? hFound
      exact ⟨hFound, hNamed account.id rfl account hFound⟩
    | none =>
      have hMem : account ∈ db.virtualAccounts.rows ∧ account.userId = some userId := by
        rw [VirtualAccountRepository.resolved?] at h
        split at h
        · have hNobody := List.mem_of_mem_head? h
          rw [VirtualAccountRepository.accountsOf, List.mem_insertionSort, List.mem_filter] at hNobody
          exact absurd (beq_iff_eq.mp hNobody.2) (hOwned account hNobody.1)
        · have hOwn := List.mem_of_mem_head? h
          rw [VirtualAccountRepository.accountsOf, List.mem_insertionSort, List.mem_filter] at hOwn
          exact ⟨hOwn.1, beq_iff_eq.mp hOwn.2⟩
      exact ⟨(Table.find?_eq_some_iff _ account.id account).mpr ⟨hMem.1, rfl⟩, hMem.2⟩
  intro order hAccount
  rw [Database.ownerOf, hAccount, hMine.1]
  exact hMine.2

theorem accountId_newOrder {order : PaperOrder} {checked : SimulationBroker.CheckedOrder}
    (h : SimulationBroker.Inserts settings order db checked) (store : Database) :
    (SimulationBroker.newOrder checked store).accountId = order.accountId :=
  (SimulationBroker.validate_ok h.valid).accountId

theorem ordersOfUser_submitOrder_of_ne {order : PaperOrder} {actor : Nat}
    (hOwner : ∀ placed : VirtualOrder, placed.accountId = order.accountId →
      db.ownerOf placed = some actor) (hOther : userId ≠ actor) :
    ((SimulationBroker.submitOrder ⟨settings⟩ order).atomically unasked db).ordersOfUser userId =
      db.ordersOfUser userId := by
  by_cases hInserts : ∃ checked, SimulationBroker.Inserts settings order db checked
  · obtain ⟨checked, hInserts⟩ := hInserts
    have hPlaced := hOwner (SimulationBroker.newOrder checked db) (accountId_newOrder hInserts db)
    rw [SimulationBroker.submitOrder_of_inserts hInserts, ordersOfUser_insert rfl,
      List.filter_cons_of_neg, List.filter_nil, List.append_nil]
    rw [hPlaced, beq_iff_eq, Option.some_inj]
    exact Ne.symm hOther
  · rw [SimulationBroker.submitOrder_of_not (not_exists.mp hInserts)]

theorem ordersOfUser_cancelOrder_of_ne {orderId actor : Nat} {reason : Option Formatted}
    (hOwner : ∀ order ∈ db.virtualOrders.find? orderId, order.status.isCancelable = true →
      db.ownerOf order = some actor) (hOther : userId ≠ actor) :
    ((SimulationBroker.cancelOrder orderId reason).atomically unasked db).ordersOfUser userId =
      db.ordersOfUser userId := by
  by_cases hOpen : ∃ order, db.virtualOrders.find? orderId = some order ∧
      order.status.isCancelable = true
  · obtain ⟨order, hFound, hCancelable⟩ := hOpen
    rw [SimulationBroker.cancelOrder_of_open hFound hCancelable, ordersOfUser_settle]
    refine updateWhere_eq_self fun row hRow => ?_
    obtain ⟨hMem, hRowOwner⟩ := List.mem_filter.mp hRow
    rw [beq_eq_false_iff_ne]
    rintro rfl
    have hSame := (Table.find?_eq_some_iff db.virtualOrders row.id row).mpr ⟨hMem, rfl⟩
    rw [hFound] at hSame
    obtain rfl := Option.some.inj hSame
    rw [hOwner order hFound hCancelable, beq_iff_eq, Option.some_inj] at hRowOwner
    exact hOther hRowOwner.symm
  · rw [SimulationBroker.cancelOrder_of_not]
    intro stored hFound
    exact eq_false_of_ne_true fun hCancelable => hOpen ⟨stored, hFound, hCancelable⟩

theorem ordersOfUser_step_of_ne (hOwned : Owned db) (hOwn : request.NamesOwn db)
    (hOther : userId ≠ request.userId) :
    (request.step settings db).ordersOfUser userId = db.ordersOfUser userId := by
  obtain ⟨actor, action⟩ := request
  rw [step]
  cases hSwitch : settings.paperTradingEnabled with
  | false => rw [PaperRequest.step_of_disabled hSwitch]
  | true =>
    cases action with
    | create payload =>
      rw [UserRequest.request, PaperRequest.step_create hSwitch]
      cases hAccount : VirtualAccountRepository.resolved? payload.accountId (some actor) db with
      | none => rfl
      | some account =>
        rw [Option.elim_some]
        exact ordersOfUser_submitOrder_of_ne (owner_of_resolved hOwned hOwn hAccount) hOther
    | cancel orderId reason =>
      rw [UserRequest.request, PaperRequest.step_cancel hSwitch]
      exact ordersOfUser_cancelOrder_of_ne hOwn hOther

/-! ## A user's orders, with and without the others -/

/-- The same accounts, and the same orders of the user but for their ids. -/
structure Mirrors (userId : Nat) (db solo : Database) : Prop where
  accounts : solo.virtualAccounts = db.virtualAccounts
  orders : (db.ordersOfUser userId).map VirtualOrder.unnumbered =
    (solo.ordersOfUser userId).map VirtualOrder.unnumbered

section Counterpart

variable {orderId there : Nat} {orders others : List VirtualOrder}

theorem counterpart_mem (h : counterpart orderId orders others = some there)
    (hAlike : orders.map VirtualOrder.unnumbered = others.map VirtualOrder.unnumbered) :
    ∃ order ∈ orders, ∃ other ∈ others, order.id = orderId ∧ other.id = there ∧
      order.unnumbered = other.unnumbered := by
  induction orders generalizing others with
  | nil => cases h
  | cons order orders ih =>
    cases others with
    | nil => cases h
    | cons other others =>
      rw [List.map_cons, List.map_cons, List.cons_eq_cons] at hAlike
      rw [counterpart] at h
      split at h
      · exact ⟨order, List.mem_cons_self, other, List.mem_cons_self, ‹_›, Option.some.inj h, hAlike.1⟩
      · obtain ⟨here, hHere, same, hMatch, hFound⟩ := ih h hAlike.2
        exact ⟨here, List.mem_cons_of_mem _ hHere, same, List.mem_cons_of_mem _ hMatch, hFound⟩

theorem not_mem_of_counterpart (h : counterpart orderId orders others = none)
    (hAlike : orders.map VirtualOrder.unnumbered = others.map VirtualOrder.unnumbered) :
    ∀ order ∈ orders, order.id ≠ orderId := by
  induction orders generalizing others with
  | nil => simp
  | cons order orders ih =>
    cases others with
    | nil => cases hAlike
    | cons other others =>
      rw [List.map_cons, List.map_cons, List.cons_eq_cons] at hAlike
      rw [counterpart] at h
      split at h
      · cases h
      · rw [List.forall_mem_cons]
        exact ⟨‹_›, ih h hAlike.2⟩

/-- Settling an order and settling its counterpart come to the same. -/
theorem settle_counterpart {reason : Option Formatted}
    (h : counterpart orderId orders others = some there)
    (hAlike : orders.map VirtualOrder.unnumbered = others.map VirtualOrder.unnumbered)
    (hOrders : (orders.map VirtualOrder.id).Nodup) (hOthers : (others.map VirtualOrder.id).Nodup) :
    (updateWhere (fun order => order.id == orderId) (VirtualOrderRepository.settle .canceled reason)
        orders).map VirtualOrder.unnumbered =
      (updateWhere (fun order => order.id == there) (VirtualOrderRepository.settle .canceled reason)
        others).map VirtualOrder.unnumbered := by
  induction orders generalizing others with
  | nil => cases h
  | cons order orders ih =>
    cases others with
    | nil => cases h
    | cons other others =>
      rw [List.map_cons, List.map_cons, List.cons_eq_cons] at hAlike
      rw [List.map_cons, List.nodup_cons] at hOrders hOthers
      rw [updateWhere_cons, updateWhere_cons, List.map_cons, List.map_cons]
      rw [counterpart] at h
      split at h
      · obtain rfl := Option.some.inj h
        rename_i hHere
        rw [if_pos (beq_iff_eq.mpr hHere), if_pos (beq_iff_eq.mpr rfl), updateWhere_eq_self,
          updateWhere_eq_self, hAlike.2]
        · exact congrArg (· :: _)
            (congrArg (VirtualOrderRepository.settle .canceled reason) hAlike.1)
        · intro row hRow
          rw [beq_eq_false_iff_ne]
          exact fun hSame => hOthers.1 (hSame ▸ List.mem_map_of_mem hRow)
        · intro row hRow
          rw [beq_eq_false_iff_ne, ← hHere]
          exact fun hSame => hOrders.1 (hSame ▸ List.mem_map_of_mem hRow)
      · rename_i hOther
        obtain ⟨-, -, found, hFound, -, rfl, -⟩ := counterpart_mem h hAlike.2
        have hApart : other.id ≠ found.id := fun hSame =>
          hOthers.1 (hSame ▸ List.mem_map_of_mem hFound)
        rw [if_neg (by rwa [beq_iff_eq]), if_neg (by rwa [beq_iff_eq]), hAlike.1,
          ih h hAlike.2 hOrders.2 hOthers.2]

end Counterpart

theorem nodup_ordersOfUser (db : Database) (userId : Nat) :
    ((db.ordersOfUser userId).map VirtualOrder.id).Nodup :=
  db.virtualOrders.nodup.sublist (List.filter_sublist.map VirtualOrder.id)

theorem ownerOf_congr (h : solo.virtualAccounts = db.virtualAccounts) (order : VirtualOrder) :
    solo.ownerOf order = db.ownerOf order := by
  rw [Database.ownerOf, h, Database.ownerOf]

theorem fresh_iff (h : Mirrors userId db solo) {accountId : Nat} (key : String)
    (hOwner : ∀ order : VirtualOrder, order.accountId = accountId → db.ownerOf order = some userId) :
    VirtualOrderRepository.findByKey accountId key db.virtualOrders = none ↔
      VirtualOrderRepository.findByKey accountId key solo.virtualOrders = none := by
  have hMine : ∀ store : Database,
      (∀ order : VirtualOrder, order.accountId = accountId → store.ownerOf order = some userId) →
      (VirtualOrderRepository.findByKey accountId key store.virtualOrders = none ↔
        ((store.ordersOfUser userId).map VirtualOrder.unnumbered).find? (fun order =>
          order.accountId == accountId && order.idempotencyKey == some key) = none) := by
    intro store hStore
    rw [List.find?_map, Option.map_eq_none_iff, Database.ordersOfUser, List.find?_filter,
      VirtualOrderRepository.findByKey]
    rw [List.find?_eq_none, List.find?_eq_none]
    refine forall₂_congr fun order _ => not_congr ?_
    rw [Function.comp_apply, decide_eq_true_iff]
    constructor
    · intro hKey
      exact ⟨beq_iff_eq.mpr (hStore order (beq_iff_eq.mp (Bool.and_eq_true_iff.mp hKey).1)), hKey⟩
    · exact And.right
  rw [hMine db hOwner, hMine solo fun order hAccount => (ownerOf_congr h.accounts order).trans
    (hOwner order hAccount), h.orders]

theorem inserts_iff (h : Mirrors userId db solo) {order : PaperOrder}
    {checked : SimulationBroker.CheckedOrder} (hOwner : ∀ row : VirtualOrder,
      row.accountId = order.accountId → db.ownerOf row = some userId) :
    SimulationBroker.Inserts settings order db checked ↔
      SimulationBroker.Inserts settings order solo checked := by
  have hFresh : (order.idempotencyKey.bind fun key =>
        VirtualOrderRepository.findByKey order.accountId key db.virtualOrders) = none ↔
      (order.idempotencyKey.bind fun key =>
        VirtualOrderRepository.findByKey order.accountId key solo.virtualOrders) = none := by
    cases order.idempotencyKey with
    | none => exact Iff.rfl
    | some key => exact fresh_iff h key hOwner
  constructor
  · rintro ⟨hSwitch, hAccount, hValid, hNew⟩
    rw [← h.accounts] at hAccount
    exact ⟨hSwitch, hAccount, hValid, hFresh.mp hNew⟩
  · rintro ⟨hSwitch, hAccount, hValid, hNew⟩
    rw [h.accounts] at hAccount
    exact ⟨hSwitch, hAccount, hValid, hFresh.mpr hNew⟩

theorem resolved?_congr (h : solo.virtualAccounts = db.virtualAccounts) (requested user : Option Nat) :
    VirtualAccountRepository.resolved? requested user solo =
      VirtualAccountRepository.resolved? requested user db := by
  cases requested with
  | some accountId => exact congrArg (fun accounts => Table.find? accounts accountId) h
  | none =>
    have hAccounts : ∀ user, VirtualAccountRepository.accountsOf user solo =
        VirtualAccountRepository.accountsOf user db := by
      intro user
      rw [VirtualAccountRepository.accountsOf, h, VirtualAccountRepository.accountsOf]
    rw [VirtualAccountRepository.resolved?, VirtualAccountRepository.resolved?, hAccounts, hAccounts]

theorem Mirrors.inserted (h : Mirrors userId db solo) {checked : SimulationBroker.CheckedOrder}
    (hOwner : db.ownerOf (SimulationBroker.newOrder checked db) = some userId) :
    Mirrors userId (db.insertVirtualOrder (SimulationBroker.newOrder checked db))
      (solo.insertVirtualOrder (SimulationBroker.newOrder checked solo)) := by
  have hSolo : solo.ownerOf (SimulationBroker.newOrder checked solo) = some userId :=
    (ownerOf_congr h.accounts _).trans hOwner
  refine ⟨h.accounts, ?_⟩
  rw [ordersOfUser_insert rfl, ordersOfUser_insert rfl, List.map_append, List.map_append, h.orders,
    List.filter_cons, if_pos (beq_iff_eq.mpr hOwner), List.filter_cons, if_pos (beq_iff_eq.mpr hSolo)]
  rfl

theorem Mirrors.create (h : Mirrors userId db solo) (hOwned : Owned db)
    {payload : CreatePaperOrderRequest} (hOwn : NamesOwn ⟨userId, .create payload⟩ db)
    (hSwitch : settings.paperTradingEnabled = true) :
    Mirrors userId (step settings ⟨userId, .create payload⟩ db)
      (step settings ⟨userId, .create payload⟩ solo) := by
  rw [step, step, request, PaperRequest.step_create hSwitch, PaperRequest.step_create hSwitch,
    resolved?_congr h.accounts]
  cases hAccount : VirtualAccountRepository.resolved? payload.accountId (some userId) db with
  | none => exact h
  | some account =>
    rw [Option.elim_some, Option.elim_some]
    have hOwner := owner_of_resolved hOwned hOwn hAccount
    by_cases hInserts : ∃ checked, SimulationBroker.Inserts settings
        (PaperRoutes.paperOrder payload account.id) db checked
    · obtain ⟨checked, hHere⟩ := hInserts
      have hThere := (inserts_iff h hOwner).mp hHere
      rw [SimulationBroker.submitOrder_of_inserts hHere,
        SimulationBroker.submitOrder_of_inserts hThere]
      exact h.inserted (hOwner _ (accountId_newOrder hHere db))
    · rw [SimulationBroker.submitOrder_of_not (not_exists.mp hInserts),
        SimulationBroker.submitOrder_of_not]
      · exact h
      · exact fun checked hThere => hInserts ⟨checked, (inserts_iff h hOwner).mpr hThere⟩

theorem find?_ordersOfUser {order : VirtualOrder} (h : order ∈ db.ordersOfUser userId) :
    db.virtualOrders.find? order.id = some order :=
  (Table.find?_eq_some_iff _ order.id order).mpr ⟨List.mem_of_mem_filter h, rfl⟩

theorem Mirrors.settled (h : Mirrors userId db solo) {orderId there : Nat} {reason : Option Formatted}
    (hCounterpart : counterpart orderId (db.ordersOfUser userId) (solo.ordersOfUser userId) =
      some there) :
    Mirrors userId (db.updateVirtualOrder orderId (VirtualOrderRepository.settle .canceled reason)
        (VirtualOrderRepository.id_settle .canceled reason))
      (solo.updateVirtualOrder there (VirtualOrderRepository.settle .canceled reason)
        (VirtualOrderRepository.id_settle .canceled reason)) := by
  refine ⟨h.accounts, ?_⟩
  rw [ordersOfUser_settle, ordersOfUser_settle]
  exact settle_counterpart hCounterpart h.orders (nodup_ordersOfUser ..) (nodup_ordersOfUser ..)

theorem Mirrors.cancel (h : Mirrors userId db solo) {orderId : Nat} {reason : Option String}
    (hOwn : NamesOwn ⟨userId, .cancel orderId reason⟩ db)
    (hSwitch : settings.paperTradingEnabled = true) :
    Mirrors userId (step settings ⟨userId, .cancel orderId reason⟩ db)
      (step settings (alone ⟨userId, .cancel orderId reason⟩ db solo) solo) := by
  rw [step, step, alone, request, request]
  simp only
  rw [PaperRequest.step_cancel hSwitch, PaperRequest.step_cancel hSwitch]
  cases hCounterpart : counterpart orderId (db.ordersOfUser userId) (solo.ordersOfUser userId) with
  | none =>
    rw [Option.getD_none, SimulationBroker.cancelOrder_of_not, SimulationBroker.cancelOrder_of_not]
    · exact h
    · intro stored hFound
      rw [Table.find?_nextKey] at hFound
      cases hFound
    · intro stored hFound
      refine eq_false_of_ne_true fun hOpen => ?_
      have hMine : stored ∈ db.ordersOfUser userId :=
        List.mem_filter.mpr ⟨Table.mem_of_find? hFound, beq_iff_eq.mpr (hOwn stored hFound hOpen)⟩
      exact not_mem_of_counterpart hCounterpart h.orders stored hMine (Table.key_of_find? hFound)
  | some there =>
    rw [Option.getD_some]
    obtain ⟨order, hOrder, other, hOther, rfl, rfl, hSame⟩ := counterpart_mem hCounterpart h.orders
    have hHere := find?_ordersOfUser hOrder
    have hThere := find?_ordersOfUser hOther
    have hStatus : order.unnumbered.status = other.unnumbered.status :=
      congrArg VirtualOrder.status hSame
    cases hOpen : order.status.isCancelable with
    | true =>
      rw [SimulationBroker.cancelOrder_of_open hHere hOpen,
        SimulationBroker.cancelOrder_of_open hThere (hStatus ▸ hOpen)]
      exact h.settled hCounterpart
    | false =>
      rw [SimulationBroker.cancelOrder_of_not, SimulationBroker.cancelOrder_of_not]
      · exact h
      · intro stored hFound
        obtain rfl := Option.some.inj (hThere.symm.trans hFound)
        exact hStatus ▸ hOpen
      · intro stored hFound
        obtain rfl := Option.some.inj (hHere.symm.trans hFound)
        exact hOpen

theorem Mirrors.own (h : Mirrors request.userId db solo) (hOwned : Owned db)
    (hOwn : request.NamesOwn db) :
    Mirrors request.userId (request.step settings db)
      ((request.alone db solo).step settings solo) := by
  obtain ⟨actor, action⟩ := request
  cases hSwitch : settings.paperTradingEnabled with
  | false =>
    rw [step, step, PaperRequest.step_of_disabled hSwitch, PaperRequest.step_of_disabled hSwitch]
    exact h
  | true =>
    cases action with
    | create payload => exact h.create hOwned hOwn hSwitch
    | cancel orderId reason => exact h.cancel hOwn hSwitch

theorem Mirrors.other (h : Mirrors userId db solo) (hOwned : Owned db) (hOwn : request.NamesOwn db)
    (hOther : userId ≠ request.userId) : Mirrors userId (request.step settings db) solo := by
  refine ⟨h.accounts.trans (virtualAccounts_step settings request db).symm, ?_⟩
  rw [ordersOfUser_step_of_ne hOwned hOwn hOther]
  exact h.orders

theorem owned_step (hOwned : Owned db) : Owned (request.step settings db) := by
  rw [Owned, virtualAccounts_step]
  exact hOwned

theorem mirrors_run {requests : List UserRequest} (hOwned : Owned db)
    (hOwn : Along (step settings) NamesOwn requests db) (h : Mirrors userId db solo) :
    Mirrors userId (run (step settings) requests db)
      (runAlone settings userId requests db solo) := by
  induction requests generalizing db solo with
  | nil => exact h
  | cons request requests ih =>
    refine ih (owned_step hOwned) hOwn.2 ?_
    split
    · obtain rfl := ‹request.userId = userId›
      exact h.own hOwned hOwn.1
    · exact h.other hOwned hOwn.1 (Ne.symm ‹_›)

theorem apart_run {requests : List UserRequest} (hOwned : Owned db)
    (hOwn : Along (step settings) NamesOwn requests db) :
    Along (step settings) (fun request before => ∀ userId ≠ request.userId,
      (request.step settings before).ordersOfUser userId = before.ordersOfUser userId) requests db := by
  induction requests generalizing db with
  | nil => trivial
  | cons request requests ih =>
    exact ⟨fun userId hOther => ordersOfUser_step_of_ne hOwned hOwn.1 hOther,
      ih (owned_step hOwned) hOwn.2⟩

/-- Users who name only accounts and open orders of their own do not meet. -/
theorem isolated_of_namesOwn (settings : Settings) (requests : List UserRequest) (db : Database)
    (hOwned : Owned db) (hOwn : Along (step settings) NamesOwn requests db) :
    Isolated settings requests db :=
  ⟨apart_run hOwned hOwn, fun _ => (mirrors_run hOwned hOwn ⟨rfl, rfl⟩).orders⟩

theorem symbolFits : "005930" ≠ "" ∧ "005930".length ≤ 32 := by decide

def paperBuy (accountId : Option Nat) : PaperAction :=
  .create {
    symbol := "005930"
    side := .buy
    quantity := 1
    accountId := accountId
    symbol_ok := symbolFits
    quantity_pos := Int.one_pos
    limitPrice_pos := unpriced
    idempotencyKey_short := unkeyed
    note_short := unnoted }

def accountOfUser (userId : Nat) : VirtualAccount where
  id := userId
  userId := some userId
  initialCash := 1000000
  cashBalance := 1000000
  paperTradingEnabled := true

def twoUsers : Database :=
  { Database.empty with
    virtualAccounts := (Table.insert ∅ (accountOfUser 1)).insert (accountOfUser 2) }

def paperSettings : Settings := { Settings.paranoid with paperTradingEnabled := true }

theorem isolated_of_two :
    Owned twoUsers ∧ Isolated paperSettings
      [⟨1, paperBuy none⟩, ⟨2, paperBuy (some 2)⟩, ⟨2, .cancel 2 none⟩] twoUsers := by
  have hOwned : Owned twoUsers := by
    unfold Owned
    decide
  refine ⟨hOwned, isolated_of_namesOwn _ _ _ hOwned ⟨?_, ?_, ?_, trivial⟩⟩
  · intro accountId hNone
    cases hNone
  · unfold NamesOwn paperBuy
    decide
  · unfold NamesOwn
    decide

/-- The second user cancels the order of the first. -/
theorem cancel_across_users :
    ¬ Isolated paperSettings [⟨1, paperBuy none⟩, ⟨2, .cancel 1 none⟩] twoUsers := by
  intro hIsolated
  have hStatus := congrArg (List.map VirtualOrder.status) (hIsolated.alike 1)
  revert hStatus
  decide

end UserRequest

end StockAiPlatform
