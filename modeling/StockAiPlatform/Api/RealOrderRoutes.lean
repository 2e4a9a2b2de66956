import StockAiPlatform.Broker.FillAccumulation
import StockAiPlatform.Config.Settings

/-! # The manual sync route

`POST /api/real-orders/{order_id}/sync`, each request in a session of its own
that is closed at its end. The route builds the sync service without a
transport, so the fake one answers for every order.
-/

namespace StockAiPlatform
set_option autoImplicit false

open Transaction

structure RealOrderSyncResponse where
  realOrderId : Nat
  realOrderStatus : RealOrderStatus
  fillStatus : FillClassification
  fillsAdded : Nat
  fillsTotal : Int
  syncedAt : Int
  message : String
  deriving DecidableEq, Repr

namespace RealOrderRoutes

def requireTradingSafetyEnabled (settings : Settings) : App Unit :=
  if settings.tradingSafetyEnabled then pure ()
  else .raise (.http 503 ("real-order sync is disabled — set TRADING_SAFETY_ENABLED=true "
    ++ "in operator-private .env to opt in"))

def requireKillSwitchOff (settings : Settings) : App Unit :=
  if settings.killSwitchEnabled then
    .raise (.http 503 ("kill switch is ON — set KILL_SWITCH_ENABLED=false in "
      ++ "operator-private .env to opt out of the paranoid default"))
  else pure ()

def syncMessage (result : FillSyncResult) : String :=
  match result.fillStatus, result.skippedReason with
  | .failed, reason => "sync failed: " ++ (reason.map SkippedReason.value).getD "transport error"
  | _, some reason => s!"sync skipped: {reason.value}"
  | fillStatus, none =>
    if 0 < result.createdFillCount then
      s!"sync ok: {fillStatus.value} (delta={result.delta}, new fill recorded)"
    else s!"sync ok: {fillStatus.value} (idempotent — no new fill, delta={result.delta})"

/-- The body of the route, behind authentication. -/
def syncRealOrderFill (settings : Settings) (orderId : Nat) (kisOrderNo : Option String)
    (now : Int) : App RealOrderSyncResponse := do
  requireTradingSafetyEnabled settings
  requireKillSwitchOff settings
  let some order ← RealOrderRepository.getById orderId
    | .raise (.http 404 s!"real order {orderId} not found")
  let result ← FillSyncService.syncFills none orderId kisOrderNo now
  Program.committed
  let refreshed ← RealOrderRepository.getById orderId
  return {
    realOrderId := result.realOrderId
    realOrderStatus := (refreshed.map RealOrder.status).getD order.status
    fillStatus := result.fillStatus
    fillsAdded := result.createdFillCount
    fillsTotal := result.fillsTotal
    syncedAt := now
    message := syncMessage result }

end RealOrderRoutes

/-- A request that reached the route, and what live brokers would answer during it. -/
structure SyncRequest where
  settings : Settings
  orderId : Nat
  kisOrderNo : Option String
  now : Int
  answer : Answer
  orderId_pos : 1 ≤ orderId

namespace SyncRequest

open RealOrderRoutes FillSyncService

def serve (request : SyncRequest) (db : Database) :
    Except PyError RealOrderSyncResponse × DbSession :=
  (syncRealOrderFill request.settings request.orderId request.kisOrderNo request.now).exec
    request.answer (.opened db)

/-- The session is closed after the request, and what it did not commit is gone. -/
def step (request : SyncRequest) (db : Database) : Database := (request.serve db).2.durable

def gatesOpen (request : SyncRequest) : Bool :=
  request.settings.tradingSafetyEnabled && !request.settings.killSwitchEnabled

def sync (request : SyncRequest) : SyncCall where
  transport := none
  realOrderId := request.orderId
  kisOrderNoPlaintext := request.kisOrderNo
  now := request.now
  answer := request.answer

variable {request : SyncRequest} {db : Database} {order : RealOrder}

theorem serve_closed (db : Database) (h : request.gatesOpen = false) :
    ∃ detail, request.serve db = (.error (.http 503 detail), .opened db) := by
  unfold serve syncRealOrderFill requireTradingSafetyEnabled requireKillSwitchOff
  cases hSafety : request.settings.tradingSafetyEnabled with
  | false => exact ⟨_, rfl⟩
  | true =>
    cases hKill : request.settings.killSwitchEnabled with
    | false => simp [gatesOpen, hSafety, hKill] at h
    | true => exact ⟨_, rfl⟩

/-- Behind open gates the route commits what the sync makes of the order, if it is there. -/
theorem serve_open (h : request.gatesOpen = true) :
    (request.serve db).2 = match db.realOrders.find? request.orderId with
      | none => .opened db
      | some _ => (request.sync.step (.opened db)).commit := by
  obtain ⟨hSafety, hKill⟩ := Bool.and_eq_true_iff.mp h
  rw [Bool.not_eq_true'] at hKill
  have hGet : (RealOrderRepository.getById request.orderId).exec request.answer (.opened db) =
      (.ok (db.realOrders.find? request.orderId), .opened db) := Program.exec_query ..
  unfold serve syncRealOrderFill requireTradingSafetyEnabled requireKillSwitchOff
  rw [if_pos hSafety, hKill, Program.exec_bind_ok _ _ (Program.exec_pure ..)]
  simp only [Bool.false_eq_true, if_false]
  rw [Program.exec_bind_ok _ _ (Program.exec_pure ..), Program.exec_bind_ok _ _ hGet]
  cases db.realOrders.find? request.orderId with
  | none => rfl
  | some order =>
    obtain ⟨result, hResult⟩ := request.sync.run_returns (.opened db)
    have hSync : (syncFills none request.orderId request.kisOrderNo request.now).exec request.answer
        (.opened db) = (.ok result, request.sync.step (.opened db)) := Prod.ext hResult rfl
    simp only
    rw [Program.exec_bind_ok _ _ hSync, Program.exec_bind_ok _ _ (Program.exec_committed ..)]
    rfl

theorem log_serve : (request.serve db).2.log = [] := by
  cases hGates : request.gatesOpen with
  | false =>
    obtain ⟨detail, hServe⟩ := serve_closed db hGates
    rw [hServe]
    rfl
  | true =>
    rw [serve_open hGates]
    cases db.realOrders.find? request.orderId with
    | none => rfl
    | some order => exact SyncCall.log_of_fake rfl

def AskedLive (log : List Exchanged) : Prop :=
  ∃ transport orderNo response,
    (⟨.queryFillStatus transport orderNo, .ok response⟩ : Exchanged) ∈ log

def ReportedLive (log : List Exchanged) : Prop :=
  ∃ transport orderNo response,
    (⟨.queryFillStatus transport orderNo, .ok response⟩ : Exchanged) ∈ log ∧
    0 < response.filledQuantity

/-- What the request does to real orders comes from a live broker. -/
structure FillsAreLive (request : SyncRequest) (db : Database) : Prop where
  filled : ∀ order ∈ db.realOrders.rows, order.dryRun = false →
    order.status = .submitted ∨ order.status = .partiallyFilled →
    (request.step db).fillsOf order.id ≠ db.fillsOf order.id ∨
      ((request.step db).realOrders.find? order.id).map RealOrder.status = some .filled →
    request.orderId = order.id ∧ ReportedLive (request.serve db).2.log
  changed : ∀ order ∈ db.realOrders.rows, order.dryRun = false →
    (request.step db).fillsOf order.id ≠ db.fillsOf order.id ∨
      ((request.step db).realOrders.find? order.id).map RealOrder.status ≠ some order.status →
    request.orderId = order.id ∧ AskedLive (request.serve db).2.log

/-- The gates are shut, or the order is not an open one whose record fits into its quantity. -/
def NothingOpen (request : SyncRequest) (db : Database) : Prop :=
  request.gatesOpen = true → ∀ order, db.realOrders.find? request.orderId = some order →
    order.dryRun = false → order.status.isNonTerminal = true →
    order.quantity < db.totalFilled order.id

theorem dispatched?_sync (hFound : db.realOrders.find? request.orderId = some order)
    (hLive : order.dryRun = false) (hOpen : order.status.isNonTerminal = true) :
    request.sync.dispatched? db = some (order, FakeKisOrderTransport.queryFillStatus
      (orderRef request.kisOrderNo order)) :=
  SyncCall.dispatched?_eq_some_iff.mpr
    ⟨SyncCall.openOrder?_eq_some_iff.mpr ⟨hFound, hLive, hOpen⟩, rfl⟩

/-- The fake transport reports nothing executed, and the sync makes the whole quantity of it. -/
theorem deltaOf_fake (orderNo : String) :
    deltaOf db order (FakeKisOrderTransport.queryFillStatus orderNo) =
      order.quantity - db.totalFilled order.id := by
  have hQuantity := order.quantity_pos
  simp only [deltaOf, classifyFillResponse, effectiveKisTotal, FakeKisOrderTransport.queryFillStatus,
    max_self, if_pos hQuantity, max_eq_right hQuantity.le]

theorem tables_of_nothingOpen (h : NothingOpen request db) :
    (request.step db).realOrders = db.realOrders ∧ (request.step db).realFills = db.realFills := by
  cases hGates : request.gatesOpen with
  | false =>
    obtain ⟨detail, hServe⟩ := serve_closed db hGates
    rw [step, hServe]
    exact ⟨rfl, rfl⟩
  | true =>
    rw [step, serve_open hGates]
    cases hFound : db.realOrders.find? request.orderId with
    | none => exact ⟨rfl, rfl⟩
    | some found =>
      simp only [Session.commit_durable]
      have hNone : request.sync.accepted? (Session.opened db : DbSession).view = none := by
        cases hAccepted : request.sync.accepted? (Session.opened db : DbSession).view with
        | none => rfl
        | some pair =>
          obtain ⟨order, response⟩ := pair
          obtain ⟨hDispatched, hTaken⟩ := SyncCall.accepted?_eq_some_iff.mp hAccepted
          obtain ⟨hOpenOrder, hReply⟩ := SyncCall.dispatched?_eq_some_iff.mp hDispatched
          obtain ⟨hOrder, hLive, hOpen⟩ := SyncCall.openOrder?_eq_some_iff.mp hOpenOrder
          obtain rfl : FakeKisOrderTransport.queryFillStatus
            (orderRef request.kisOrderNo order) = response := Except.ok.inj hReply
          have hShort := h hGates order hOrder hLive hOpen
          have hDelta : 0 ≤ deltaOf db order (FakeKisOrderTransport.queryFillStatus
            (orderRef request.kisOrderNo order)) := of_decide_eq_true hTaken
          rw [deltaOf_fake] at hDelta
          omega
      exact SyncCall.tables_of_not_accepted hNone

theorem filled_of_open (hGates : request.gatesOpen = true)
    (hFound : db.realOrders.find? request.orderId = some order) (hLive : order.dryRun = false)
    (hOpen : order.status.isNonTerminal = true) (hFits : db.totalFilled order.id ≤ order.quantity) :
    ((request.step db).realOrders.find? order.id).map RealOrder.status = some .filled := by
  have hDispatched := dispatched?_sync hFound hLive hOpen
  obtain ⟨-, -, -, hSynced⟩ := SyncCall.run_dispatched (s := .opened db) hDispatched
  have hStatus : newStatus db order (FakeKisOrderTransport.queryFillStatus
      (orderRef request.kisOrderNo order)) = .filled := by
    have hTaken : accepted db order (FakeKisOrderTransport.queryFillStatus
        (orderRef request.kisOrderNo order)) = true := by
      refine decide_eq_true ?_
      rw [deltaOf_fake]
      omega
    rw [newStatus, hTaken]
    rfl
  have hId : order.id = request.orderId := Table.key_of_find? hFound
  rw [step, serve_open hGates, hFound]
  simp only [Session.commit_durable]
  rw [SyncCall.find?_of_synced hSynced, Session.opened_view, hStatus, hId, hFound]
  simp [hId]

theorem fillsAreLive_iff : FillsAreLive request db ↔ NothingOpen request db := by
  constructor
  · intro h hGates order hFound hLive hOpen
    by_contra hFits
    have hFilled := filled_of_open hGates hFound hLive hOpen (not_lt.mp hFits)
    have hChanged : some RealOrderStatus.filled ≠ some order.status := by
      intro hSame
      rw [← Option.some.inj hSame] at hOpen
      contradiction
    obtain ⟨-, transport, orderNo, response, hMem⟩ := h.changed order (Table.mem_of_find? hFound)
      hLive (.inr (by rw [hFilled]; exact hChanged))
    rw [log_serve] at hMem
    exact absurd hMem List.not_mem_nil
  · intro h
    obtain ⟨hOrders, hFills⟩ := tables_of_nothingOpen h
    have hSameFills : ∀ k, (request.step db).fillsOf k = db.fillsOf k := by
      intro k
      rw [Database.fillsOf, hFills]
      rfl
    have hSameStatus : ∀ order ∈ db.realOrders.rows,
        ((request.step db).realOrders.find? order.id).map RealOrder.status = some order.status := by
      intro order hMem
      rw [hOrders, (Table.find?_eq_some_iff db.realOrders order.id order).mpr ⟨hMem, rfl⟩]
      rfl
    constructor
    · rintro order hMem - hStatus (hAdded | hFilled)
      · exact absurd (hSameFills order.id) hAdded
      · rw [hSameStatus order hMem] at hFilled
        rcases hStatus with hStatus | hStatus <;> simp [hStatus] at hFilled
    · rintro order hMem - (hAdded | hMoved)
      · exact absurd (hSameFills order.id) hAdded
      · exact absurd (hSameStatus order hMem) hMoved

/-- In every run of sync requests, real orders change only on a live broker's word exactly when no
request behind open gates names an open real order whose record fits into its quantity. -/
theorem fillsAreLive_iff_nothingOpen (requests : List SyncRequest) (db : Database) :
    Along step FillsAreLive requests db ↔ Along step NothingOpen requests db :=
  along_congr (fun _ => True) (fun _ _ _ _ => fillsAreLive_iff) (fun _ _ _ _ _ => trivial)
    trivial

def manualSync : SyncRequest where
  settings := { Settings.paranoid with tradingSafetyEnabled := true, killSwitchEnabled := false }
  orderId := 1
  kisOrderNo := some "0000117057"
  now := 0
  answer
    | .placeOrder _ _ => .error (.transport "not asked")
    | .queryFillStatus _ _ => .error (.transport "not asked")
  orderId_pos := le_refl 1

/-- One request fills a submitted order of ten, and no broker was asked. -/
theorem manualSync_invents :
    ¬ Along step FillsAreLive [manualSync]
      (Database.empty.insertRealOrder (submittedOrder 1 10 (by decide))) := by
  rintro ⟨hLive, -⟩
  obtain ⟨-, transport, orderNo, response, hMem, -⟩ :=
    hLive.filled (submittedOrder 1 10 (by decide)) List.mem_cons_self rfl (.inl rfl)
      (.inr (by decide +kernel))
  rw [log_serve] at hMem
  exact absurd hMem List.not_mem_nil

end SyncRequest

end StockAiPlatform
