import StockAiPlatform.Broker.FillSyncOutcomes
import StockAiPlatform.Transaction.Extremes
import StockAiPlatform.Transaction.Run

/-! # Runs of the fill sync

A sync is data: its transport, its order and what the broker would answer.
Seen from one order, a run of syncs is a counter kept as increments: the fill
rows are the increments and the effective totals are the reports.
-/

namespace StockAiPlatform
set_option autoImplicit false

open Transaction Python

structure SyncCall where
  transport : Option KisOrderTransport
  realOrderId : Nat
  kisOrderNoPlaintext : Option String
  now : Int
  answer : Answer

namespace SyncCall

open FillSyncService

def run (call : SyncCall) (s : DbSession) : Except PyError FillSyncResult × DbSession :=
  (syncFills call.transport call.realOrderId call.kisOrderNoPlaintext call.now).exec call.answer s

def step (call : SyncCall) (s : DbSession) : DbSession := (call.run s).2

/-- The order the broker is asked about: live, and not terminal on our side. -/
def openOrder? (call : SyncCall) (db : Database) : Option RealOrder :=
  (db.realOrders.find? call.realOrderId).filter fun order =>
    !order.dryRun && order.status.isNonTerminal

def reply (call : SyncCall) (order : RealOrder) : Except PyError KisFillStatusResult :=
  fillReply (call.transport.getD .fake) call.answer (orderRef call.kisOrderNoPlaintext order)

def dispatched? (call : SyncCall) (db : Database) : Option (RealOrder × KisFillStatusResult) :=
  (call.openOrder? db).bind fun order => (call.reply order).toOption.map (order, ·)

section OneCall

variable {call : SyncCall} {s : DbSession} {db : Database} {order : RealOrder}
  {response : KisFillStatusResult}

theorem openOrder?_eq_some_iff :
    call.openOrder? db = some order ↔ db.realOrders.find? call.realOrderId = some order ∧
      order.dryRun = false ∧ order.status.isNonTerminal = true := by
  rw [openOrder?, Option.filter_eq_some_iff]
  simp

theorem toOption_eq_some_iff {ε α : Type} {outcome : Except ε α} {value : α} :
    outcome.toOption = some value ↔ outcome = .ok value := by
  cases outcome <;> simp [Except.toOption]

theorem dispatched?_eq_some_iff :
    call.dispatched? db = some (order, response) ↔
      call.openOrder? db = some order ∧ call.reply order = .ok response := by
  simp only [dispatched?, Option.bind_eq_some_iff, Option.map_eq_some_iff, Prod.mk.injEq,
    toOption_eq_some_iff]
  constructor
  · rintro ⟨found, hOpen, answered, hReply, rfl, rfl⟩
    exact ⟨hOpen, hReply⟩
  · rintro ⟨hOpen, hReply⟩
    exact ⟨order, hOpen, response, hReply, rfl, rfl⟩

/-- An open order is asked about once, and the answer decides what follows. -/
theorem run_of_openOrder (h : call.openOrder? s.view = some order) :
    call.run s = (match call.reply order with
      | .error _ => reportRaised order
      | .ok response => dispatchStatus order response call.now).exec call.answer
        (recordQuery (call.transport.getD .fake) call.answer
          (orderRef call.kisOrderNoPlaintext order) s) := by
  obtain ⟨hFound, hDry, hOpen⟩ := openOrder?_eq_some_iff.mp h
  have hGet : (RealOrderRepository.getById call.realOrderId).exec call.answer s =
      (.ok (some order), s) := by
    rw [RealOrderRepository.getById, Program.exec_query, hFound]
  have hNotDry : (order.dryRun || order.status == .dryRun) = false := by
    cases hStatus : order.status <;> simp_all [RealOrderStatus.isNonTerminal]
  have hNotSkipped : order.status.isSkipped = false := by
    cases hStatus : order.status <;> simp_all [RealOrderStatus.isNonTerminal, RealOrderStatus.isSkipped]
  have hAttempt := Program.exec_attempt call.answer s
    (queryFillStatus (call.transport.getD .fake) (orderRef call.kisOrderNoPlaintext order))
  rw [exec_queryFillStatus] at hAttempt
  rw [run, syncFills, Program.exec_bind_ok call.answer s hGet]
  simp only [hNotDry, hNotSkipped, Bool.false_eq_true, if_false]
  rw [Program.exec_bind_ok call.answer s hAttempt]
  cases hReply : call.reply order with
  | error error =>
    rw [reply] at hReply
    simp only [hReply]
  | ok response =>
    rw [reply] at hReply
    simp only [hReply]

theorem run_of_not_open (h : call.openOrder? s.view = none) :
    ∃ result, call.run s = (.ok result, s) ∧ result.skippedReason ≠ none ∧
      result.createdFillCount = 0 := by
  rw [run, syncFills]
  cases hFound : s.view.realOrders.find? call.realOrderId with
  | none =>
    have hGet : (RealOrderRepository.getById call.realOrderId).exec call.answer s =
        (.ok none, s) := by
      rw [RealOrderRepository.getById, Program.exec_query, hFound]
    rw [Program.exec_bind_ok call.answer s hGet]
    exact ⟨_, rfl, by simp, rfl⟩
  | some order =>
    have hGet : (RealOrderRepository.getById call.realOrderId).exec call.answer s =
        (.ok (some order), s) := by
      rw [RealOrderRepository.getById, Program.exec_query, hFound]
    rw [Program.exec_bind_ok call.answer s hGet]
    by_cases hDry : (order.dryRun || order.status == .dryRun) = true
    · simp only [hDry, if_true]
      exact ⟨_, rfl, by simp [skipped], rfl⟩
    · by_cases hSkipped : order.status.isSkipped = true
      · simp only [hDry, hSkipped, if_true]
        exact ⟨_, rfl, by simp [skipped], rfl⟩
      · -- Neither dry-run nor terminal: such an order is open.
        exfalso
        have hNotDry : order.dryRun = false ∧ order.status ≠ .dryRun := by simpa using hDry
        have hOpen := RealOrderStatus.isNonTerminal_of_not_skipped hNotDry.2 hSkipped
        rw [openOrder?_eq_some_iff.mpr ⟨hFound, hNotDry.1, hOpen⟩] at h
        contradiction

theorem exec_reportRaised (order : RealOrder) (answer : Answer) (s : DbSession) :
    ∃ row, (reportRaised order).exec answer s =
      (.ok (failed order .transportRaised 0 (s.view.totalFilled order.id)),
        s.write fun db => db.appendAuditLog row) := by
  obtain ⟨row, hAudit⟩ := exec_appendAudit answer s order .realOrderFillFailed
    "transport.query_fill_status raised" .failed [] (by simp)
  rw [List.append_nil] at hAudit
  refine ⟨row, ?_⟩
  rw [reportRaised, Program.exec_bind_ok answer s hAudit]
  rfl

theorem run_not_dispatched (h : call.dispatched? s.view = none) :
    ∃ result, (call.run s).1 = .ok result ∧ result.skippedReason ≠ none ∧
      result.createdFillCount = 0 ∧
      (call.step s).view.realOrders = s.view.realOrders ∧
      (call.step s).view.orderCandidates = s.view.orderCandidates ∧
      (call.step s).view.realFills = s.view.realFills := by
  cases hOpen : call.openOrder? s.view with
  | none =>
    obtain ⟨result, hRun, hSkipped, hCount⟩ := run_of_not_open hOpen
    rw [step, hRun]
    exact ⟨result, rfl, hSkipped, hCount, rfl, rfl, rfl⟩
  | some order =>
    cases hReply : call.reply order with
    | error error =>
      obtain ⟨row, hExec⟩ := exec_reportRaised order call.answer
        (recordQuery (call.transport.getD .fake) call.answer
          (orderRef call.kisOrderNoPlaintext order) s)
      have hRun := run_of_openOrder hOpen
      simp only [hReply] at hRun
      rw [step, hRun, hExec]
      refine ⟨_, rfl, by simp [failed], rfl, ?_, ?_, ?_⟩ <;>
        rw [Session.write_view, recordQuery_view] <;> rfl
    | ok response =>
      rw [dispatched?_eq_some_iff.mpr ⟨hOpen, hReply⟩] at h
      contradiction

/-- A call that dispatches on an answer returns, and this is all it does. -/
theorem run_dispatched (h : call.dispatched? s.view = some (order, response)) :
    ∃ result, (call.run s).1 = .ok result ∧ Reported s.view order response result ∧
      Synced s.view (call.step s).view order (newStatus s.view order response)
        (newFill s.view order response call.now) := by
  obtain ⟨hOpen, hReply⟩ := dispatched?_eq_some_iff.mp h
  obtain ⟨hFound, -, hNonTerminal⟩ := openOrder?_eq_some_iff.mp hOpen
  have hId : order.id = call.realOrderId := Table.key_of_find? hFound
  have hView := recordQuery_view (call.transport.getD .fake) call.answer
    (orderRef call.kisOrderNoPlaintext order) s
  obtain ⟨result, after, hExec, -, -, hSynced, hReported⟩ := exec_dispatchStatus call.answer
    (recordQuery (call.transport.getD .fake) call.answer
      (orderRef call.kisOrderNoPlaintext order) s)
    hNonTerminal (by rw [hView, hId]; exact hFound) response call.now
  rw [hView] at hSynced hReported
  have hRun := run_of_openOrder hOpen
  simp only [hReply] at hRun
  rw [step, hRun, hExec]
  exact ⟨result, rfl, hReported, hSynced⟩

theorem run_returns (call : SyncCall) (s : DbSession) : ∃ result, (call.run s).1 = .ok result := by
  cases hDispatched : call.dispatched? s.view with
  | none =>
    obtain ⟨result, hRun, -⟩ := run_not_dispatched hDispatched
    exact ⟨result, hRun⟩
  | some pair =>
    obtain ⟨result, hRun, -⟩ := run_dispatched hDispatched
    exact ⟨result, hRun⟩

/-- A sync commits nothing. -/
theorem durable_step (call : SyncCall) (s : DbSession) : (call.step s).durable = s.durable := by
  cases hOpen : call.openOrder? s.view with
  | none =>
    obtain ⟨result, hRun, -⟩ := run_of_not_open hOpen
    rw [step, hRun]
  | some order =>
    obtain ⟨hFound, -, hNonTerminal⟩ := openOrder?_eq_some_iff.mp hOpen
    have hId : order.id = call.realOrderId := Table.key_of_find? hFound
    have hRun := run_of_openOrder hOpen
    cases hReply : call.reply order with
    | error error =>
      obtain ⟨row, hExec⟩ := exec_reportRaised order call.answer (recordQuery
        (call.transport.getD .fake) call.answer (orderRef call.kisOrderNoPlaintext order) s)
      simp only [hReply] at hRun
      rw [step, hRun, hExec]
      exact recordQuery_durable _ _ _ _
    | ok response =>
      obtain ⟨result, after, hExec, -, hDurable, -⟩ := exec_dispatchStatus call.answer (recordQuery
          (call.transport.getD .fake) call.answer (orderRef call.kisOrderNoPlaintext order) s)
        hNonTerminal (by rw [recordQuery_view, hId]; exact hFound) response call.now
      simp only [hReply] at hRun
      rw [step, hRun, hExec]
      exact hDurable.trans (recordQuery_durable _ _ _ _)

theorem log_of_fake (hFake : call.transport = none) : (call.step s).log = s.log := by
  cases hOpen : call.openOrder? s.view with
  | none =>
    obtain ⟨result, hRun, -⟩ := run_of_not_open hOpen
    rw [step, hRun]
  | some order =>
    obtain ⟨hFound, -, hNonTerminal⟩ := openOrder?_eq_some_iff.mp hOpen
    have hId : order.id = call.realOrderId := Table.key_of_find? hFound
    rw [← hId] at hFound
    have hReply : call.reply order = .ok (FakeKisOrderTransport.queryFillStatus
        (orderRef call.kisOrderNoPlaintext order)) := by
      rw [reply, hFake]
      rfl
    have hRun := run_of_openOrder hOpen
    simp only [hReply, hFake, Option.getD_none, recordQuery] at hRun
    obtain ⟨result, after, hExec, hLog, -⟩ := exec_dispatchStatus call.answer s hNonTerminal hFound
      (FakeKisOrderTransport.queryFillStatus (orderRef call.kisOrderNoPlaintext order)) call.now
    rw [step, hRun, hExec]
    exact hLog

/-- A sync changes the status of the order it dispatched on and no other column. -/
theorem find?_of_synced {before after : Database} {status : RealOrderStatus}
    {fill : Option RealFill} (h : Synced before after order status fill) (k : Nat) :
    after.realOrders.find? k = (before.realOrders.find? k).map fun row =>
      if k = order.id then { row with status := status } else row := by
  have hTable : after.realOrders =
      before.realOrders.modify order.id (fun row => { row with status := status }) fun _ => rfl :=
    Table.ext_rows h.rows
  rw [hTable, Table.find?_modify]

theorem fillsOf_of_synced {before after : Database} {status : RealOrderStatus}
    {fill : Option RealFill} (h : Synced before after order status fill) (k : Nat) :
    after.fillsOf k = before.fillsOf k ++ fill.toList.filter fun fill => fill.realOrderId == k := by
  rw [Database.fillsOf, h.realFills, List.filter_append]
  rfl

theorem realOrderId_of_newFill {now : Int} {fill : RealFill}
    (h : newFill db order response now = some fill) : fill.realOrderId = order.id := by
  unfold newFill at h
  split at h
  · obtain rfl := Option.some.inj h
    rfl
  · contradiction

end OneCall

def increments (db : Database) (k : Nat) : List Int := (db.fillsOf k).map RealFill.quantity

theorem sum_increments (db : Database) (k : Nat) : (increments db k).sum = db.totalFilled k := rfl

/-- The effective total a FULL or PARTIAL answer for the open order `k` reports. -/
def report? (call : SyncCall) (k : Nat) (db : Database) : Option Int :=
  match call.dispatched? db with
  | none => none
  | some (order, response) =>
    let classification := classifyFillResponse response
    if order.id = k ∧ (classification = .full ∨ classification = .partialFill) then
      some (effectiveKisTotal classification response order.quantity)
    else none

def reports (k : Nat) : List SyncCall → DbSession → List Int
  | [], _ => []
  | call :: calls, s => (call.report? k s.view).toList ++ reports k calls (call.step s)

section Refinement

variable {call : SyncCall} {s : DbSession} {order : RealOrder} {response : KisFillStatusResult}

theorem effectiveKisTotal_eq_zero (response : KisFillStatusResult)
    {classification : FillClassification}
    (h : ¬(classification = .full ∨ classification = .partialFill)) (quantity : Int) :
    effectiveKisTotal classification response quantity = 0 := by
  cases classification <;> simp_all [effectiveKisTotal]

theorem filledQuantity_le_effectiveKisTotal {classification : FillClassification}
    (h : classification = .full ∨ classification = .partialFill) (quantity : Int) :
    response.filledQuantity ≤ effectiveKisTotal classification response quantity := by
  rcases h with rfl | rfl
  · exact (le_max_left _ _).trans (le_max_left _ _)
  · exact le_max_left _ _

/-- The fill rows of the order refine the counter, told the answer's effective total. -/
theorem increments_of_dispatched (h : call.dispatched? s.view = some (order, response)) :
    increments (call.step s).view order.id =
      HighWater.observe (increments s.view order.id)
        (effectiveKisTotal (classifyFillResponse response) response order.quantity) := by
  obtain ⟨-, -, -, hSynced⟩ := run_dispatched h
  rw [increments, fillsOf_of_synced hSynced, List.map_append]
  rcases lt_or_ge 0 (deltaOf s.view order response) with hDelta | hDelta
  · have hLt : (increments s.view order.id).sum <
        effectiveKisTotal (classifyFillResponse response) response order.quantity :=
      sub_pos.mp hDelta
    rw [HighWater.observe_of_lt hLt, newFill, dif_pos hDelta]
    simp [increments, fillRow, RealFillRepository.rowOf, fillDraft]
    rfl
  · have hLe : effectiveKisTotal (classifyFillResponse response) response order.quantity ≤
        (increments s.view order.id).sum := sub_nonpos.mp hDelta
    rw [HighWater.observe_of_le hLe, newFill_of_nonpos call.now hDelta]
    simp [increments]

theorem fillsOf_of_other (call : SyncCall) (s : DbSession) (k : Nat)
    (h : ∀ order response, call.dispatched? s.view = some (order, response) → order.id ≠ k) :
    (call.step s).view.fillsOf k = s.view.fillsOf k := by
  cases hDispatched : call.dispatched? s.view with
  | none =>
    obtain ⟨-, -, -, -, -, -, hFills⟩ := run_not_dispatched hDispatched
    rw [Database.fillsOf, hFills, Database.fillsOf]
  | some pair =>
    obtain ⟨order, response⟩ := pair
    obtain ⟨-, -, -, hSynced⟩ := run_dispatched hDispatched
    rw [fillsOf_of_synced hSynced]
    cases hFill : newFill s.view order response call.now with
    | none => simp
    | some fill =>
      have hId := realOrderId_of_newFill hFill
      have hOther := h order response hDispatched
      simp [hId, hOther]

/-- One sync refines one report to the counter of every order. -/
theorem increments_step (k : Nat) :
    increments (call.step s).view k =
      (call.report? k s.view).toList.foldl HighWater.observe (increments s.view k) := by
  cases hDispatched : call.dispatched? s.view with
  | none =>
    have hFills := fillsOf_of_other call s k (by simp [hDispatched])
    simp [increments, hFills, report?, hDispatched]
  | some pair =>
    obtain ⟨order, response⟩ := pair
    by_cases hId : order.id = k
    · subst hId
      rw [increments_of_dispatched hDispatched]
      by_cases hReport : classifyFillResponse response = .full ∨
          classifyFillResponse response = .partialFill
      · simp [report?, hDispatched, hReport]
      · have hNonneg : 0 ≤ (increments s.view order.id).sum := s.view.totalFilled_nonneg order.id
        rw [effectiveKisTotal_eq_zero response hReport, HighWater.observe_of_le hNonneg]
        simp [report?, hDispatched, hReport]
    · have hFills := fillsOf_of_other call s k (by
        intro order' response' h
        rw [hDispatched] at h
        obtain ⟨rfl, rfl⟩ := Prod.mk.inj (Option.some.inj h)
        exact hId)
      simp [increments, hFills, report?, hDispatched, hId]

theorem increments_run (k : Nat) (calls : List SyncCall) (s : DbSession) :
    increments (Transaction.run step calls s).view k =
      (reports k calls s).foldl HighWater.observe (increments s.view k) := by
  induction calls generalizing s with
  | nil => rfl
  | cons call calls ih =>
    rw [Transaction.run, ih, increments_step, reports, List.foldl_append]

theorem totalFilled_run (k : Nat) (calls : List SyncCall) (s : DbSession) :
    (Transaction.run step calls s).view.totalFilled k =
      (reports k calls s).foldl max (s.view.totalFilled k) := by
  rw [← sum_increments, increments_run, HighWater.sum_foldl_observe, sum_increments]

theorem totalFilled_of_dispatched (h : call.dispatched? s.view = some (order, response)) :
    (call.step s).view.totalFilled order.id = max (s.view.totalFilled order.id)
      (effectiveKisTotal (classifyFillResponse response) response order.quantity) := by
  rw [← sum_increments, increments_of_dispatched h, HighWater.sum_observe, sum_increments]

theorem totalFilled_mono (k : Nat) : s.view.totalFilled k ≤ (call.step s).view.totalFilled k := by
  rw [← sum_increments, ← sum_increments, increments_step, HighWater.sum_foldl_observe]
  cases call.report? k s.view with
  | none => exact le_refl _
  | some report => exact le_max_left _ _

end Refinement

def answering (realOrderId : Nat) (response : KisFillStatusResult) : SyncCall where
  transport := some (.live 0)
  realOrderId := realOrderId
  kisOrderNoPlaintext := none
  now := 0
  answer
    | .placeOrder _ _ => .error (.transport "not asked")
    | .queryFillStatus _ _ => .ok response

end SyncCall

def submittedOrder (id : Nat) (quantity : Int) (hQuantity : 0 < quantity) : RealOrder where
  id := id
  candidateId := 1
  symbol := "005930"
  side := .buy
  quantity := quantity
  orderType := .market
  limitPrice := none
  estimatedAmount := 700
  status := .submitted
  dryRun := false
  fakeOrderNo := none
  brokerOrderNoHash := none
  requestId := none
  errorCode := none
  errorMessage := none
  submittedAt := some 0
  createdAt := 0
  quantity_pos := hQuantity
  limitPrice_ok := rfl
  estimatedAmount_nonneg := by decide +kernel

def submittedSession : DbSession :=
  .opened (Database.empty.insertRealOrder (submittedOrder 1 10 (by decide)))

end StockAiPlatform
