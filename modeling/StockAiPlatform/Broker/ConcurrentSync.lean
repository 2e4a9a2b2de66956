import StockAiPlatform.Broker.FillSyncRuns
import StockAiPlatform.Transaction.Interleaving

/-! # Two syncs of one order at once

Each sync reads the recorded total, and inserts what its answer has above it.
Nothing locks the order or keys its fills, so two syncs that both read before
either commits insert the same executions twice.
-/

namespace StockAiPlatform
set_option autoImplicit false

open Transaction Python

namespace SyncCall

open FillSyncService

/-- One sync in a session of its own, committed at its end. -/
def transaction (call : SyncCall) : App FillSyncResult := do
  let result ← syncFills call.transport call.realOrderId call.kisOrderNoPlaintext call.now
  Program.committed
  pure result

def concurrently (calls : Bool → SyncCall) (schedule : List Bool) (db : Database) :
    World Database Query Request Reply PyError FillSyncResult :=
  Transaction.run (World.step fun who => (calls who).answer) schedule
    (.opened db fun who => (calls who).transaction)

/-- The effective total the broker reports to a call for an order that is open at the start. -/
def reported (call : SyncCall) (k : Nat) (db : Database) : Int := (call.report? k db).getD 0

/-- The statement that reads the recorded total of an order. -/
def readsTotal (k : Nat) : Query → Bool
  | .totalFilledQuantity orderId => orderId == k
  | _ => false

/-- The order is the one there was, except for a status that has not opened again. -/
def OrderKept (start : Database) (k : Nat) (db : Database) : Prop :=
  ∀ order, db.realOrders.find? k = some order → ∃ first, start.realOrders.find? k = some first ∧
    order = { first with status := order.status } ∧
    (order.status.isNonTerminal = true → first.status.isNonTerminal = true)

section Parts

variable {start : Database} {k : Nat} {answer : Answer} {order first : RealOrder}

theorem orderKept_refl : OrderKept start k start := fun order hFound => ⟨order, hFound, rfl, id⟩

theorem adds_appendAuditLog (row : ApprovalAuditLog) :
    Adds (fun db : Database => db.totalFilled k) (OrderKept start k) 0
      fun db => db.appendAuditLog row :=
  fun _ hKept => ⟨hKept, (add_zero _).symm⟩

theorem adds_insertRealFill {fill : RealFill} (h : fill.realOrderId = k) :
    Adds (fun db : Database => db.totalFilled k) (OrderKept start k) fill.quantity
      fun db => db.insertRealFill fill := by
  intro db hKept
  refine ⟨hKept, ?_⟩
  simp only [Database.totalFilled_insertRealFill, if_pos h]

theorem adds_setStatus (hFirst : start.realOrders.find? k = some first)
    (hOpen : first.status.isNonTerminal = true) (status : RealOrderStatus) :
    Adds (fun db : Database => db.totalFilled k) (OrderKept start k) 0
      (RealOrderRepository.setStatus k status) := by
  refine fun db hKept => ⟨?_, (add_zero _).symm⟩
  intro order hFound
  have hFind := Table.find?_modify db.realOrders k (fun row => { row with status := status })
    (fun _ => rfl) k
  rw [show (RealOrderRepository.setStatus k status db).realOrders.find? k = _ from hFind] at hFound
  obtain ⟨before, hBefore, rfl⟩ := Option.map_eq_some_iff.mp hFound
  obtain ⟨first', hFirst', hSame, -⟩ := hKept before hBefore
  obtain rfl : first = first' := Option.some.inj (hFirst.symm.trans hFirst')
  refine ⟨first, hFirst, ?_, fun _ => hOpen⟩
  rw [if_pos rfl, hSame]

theorem neutral_append (row : ApprovalAuditLog) :
    Neutral (fun db : Database => db.totalFilled k) (readsTotal k) (OrderKept start k) answer
      (ApprovalAuditLogRepository.append row) := by
  unfold ApprovalAuditLogRepository.append
  simp only
  split_ifs
  · trivial
  · trivial
  · trivial
  · exact ⟨adds_appendAuditLog _, trivial⟩

theorem neutral_appendAudit (order : RealOrder) (eventType : AuditEvent) (reason : String)
    (details : List (String × Json)) :
    Neutral (fun db : Database => db.totalFilled k) (readsTotal k) (OrderKept start k) answer
      (appendAudit order eventType reason details) :=
  (neutral_append _).bind fun _ => trivial

theorem neutral_updateStatus (hFirst : start.realOrders.find? k = some first)
    (hOpen : first.status.isNonTerminal = true) (hId : order.id = k) (status : RealOrderStatus) :
    Neutral (fun db : Database => db.totalFilled k) (readsTotal k) (OrderKept start k) answer
      (RealOrderRepository.updateStatus order status) := by
  unfold RealOrderRepository.updateStatus
  split_ifs
  · trivial
  · rw [hId]
    exact ⟨adds_setStatus hFirst hOpen status, trivial⟩

theorem neutral_advanceStatus (hFirst : start.realOrders.find? k = some first)
    (hOpen : first.status.isNonTerminal = true) (hId : order.id = k)
    (classification : FillClassification) :
    Neutral (fun db : Database => db.totalFilled k) (readsTotal k) (OrderKept start k) answer
      (advanceStatus order classification) := by
  unfold advanceStatus
  split
  · cases classification with
    | full => exact neutral_updateStatus hFirst hOpen hId _
    | partialFill =>
      simp only
      split
      · exact neutral_updateStatus hFirst hOpen hId _
      · trivial
    | none | rejected | canceled | failed => trivial
  · trivial

theorem pays_recordFill {α : Type} {f : Nat → App α} {total delta now due : Int} (hId : order.id = k)
    (hDue : delta ≤ due) (hNonneg : 0 ≤ due)
    (hRest : ∀ count rest, 0 ≤ rest → Pays (fun db : Database => db.totalFilled k) (readsTotal k)
      (OrderKept start k) answer rest (f count)) :
    Pays (fun db : Database => db.totalFilled k) (readsTotal k) (OrderKept start k) answer due
      (recordFill order total delta now >>= f) := by
  unfold recordFill
  by_cases hDelta : 0 < delta
  · rw [if_pos hDelta, RealFillRepository.create_eq (fillDraft order total delta now) hDelta
      (safeUnitPrice_pos order order.quantity) (grossAmount_nonneg order total delta now)
      (grossAmount_nonneg order total delta now)]
    exact ⟨delta, hDelta.le, hDue, adds_insertRealFill hId, hRest _ _ (by omega)⟩
  · rw [if_neg hDelta]
    exact hRest 0 due hNonneg

theorem pays_finish {result : FillSyncResult} {due : Int} :
    Pays (fun db : Database => db.totalFilled k) (readsTotal k) (OrderKept start k) answer due
      (Program.committed >>= fun _ => pure result : App FillSyncResult) := trivial

theorem reports_readTotal {α : Type} {f : Int → App α} {report : Int} (hId : order.id = k)
    (hRest : ∀ db : Database, Pays (fun db : Database => db.totalFilled k) (readsTotal k)
      (OrderKept start k) answer (max 0 (report - db.totalFilled k)) (f (db.totalFilled k))) :
    Reports (fun db : Database => db.totalFilled k) (readsTotal k) (OrderKept start k) answer report
      (RealFillRepository.totalFilledQuantity order.id >>= f) := by
  intro db _
  rw [hId, if_pos (by simp [readsTotal])]
  exact hRest db

theorem reports_query {α β : Type} {f : Database → β} {g : β → App α} {report : Int}
    {statement : Query} (hOther : readsTotal k statement = false)
    (hRest : ∀ db, OrderKept start k db → Reports (fun db : Database => db.totalFilled k)
      (readsTotal k) (OrderKept start k) answer report (g (f db))) :
    Reports (fun db : Database => db.totalFilled k) (readsTotal k) (OrderKept start k) answer report
      (Program.query statement f >>= g) := by
  intro db hKept
  rw [if_neg (by simp [hOther])]
  exact hRest db hKept

theorem reports_dispatchTotals (hFirst : start.realOrders.find? k = some first)
    (hOpen : first.status.isNonTerminal = true) (hId : order.id = k)
    (classification : FillClassification) (response : KisFillStatusResult) (now : Int) :
    Reports (fun db : Database => db.totalFilled k) (readsTotal k) (OrderKept start k) answer
      (effectiveKisTotal classification response order.quantity)
      (dispatchTotals order classification response now >>= fun result =>
        Program.committed >>= fun _ => pure result) := by
  rw [dispatchTotals, Program.bind_assoc]
  refine reports_readTotal hId fun db => ?_
  simp only
  split
  · rw [Program.bind_assoc]
    exact (neutral_appendAudit ..).bind_pays (le_max_left _ _) fun _ => pays_finish
  · rw [Program.bind_assoc]
    refine pays_recordFill hId (le_max_right _ _) (le_max_left _ _) fun count rest hRest => ?_
    rw [Program.bind_assoc]
    refine (neutral_advanceStatus hFirst hOpen hId classification).bind_pays hRest fun order' => ?_
    rw [Program.bind_assoc]
    exact (neutral_appendAudit ..).bind_pays hRest fun _ => pays_finish

theorem reports_updateStatus {α : Type} {f : RealOrder → App α} {report : Int}
    (hFirst : start.realOrders.find? k = some first) (hOpen : first.status.isNonTerminal = true)
    (hId : order.id = k) (status : RealOrderStatus)
    (hRest : Reports (fun db : Database => db.totalFilled k) (readsTotal k) (OrderKept start k)
      answer report (f { order with status := status })) :
    Reports (fun db : Database => db.totalFilled k) (readsTotal k) (OrderKept start k) answer report
      (RealOrderRepository.updateStatus order status >>= f) := by
  unfold RealOrderRepository.updateStatus
  split
  · trivial
  · refine ⟨?_, hRest⟩
    rw [hId]
    exact adds_setStatus hFirst hOpen status

theorem reports_dispatchClosed (hFirst : start.realOrders.find? k = some first)
    (hOpen : first.status.isNonTerminal = true) (hId : order.id = k)
    (hNonTerminal : order.status.isNonTerminal = true) (classification : FillClassification)
    (report : Int) :
    Reports (fun db : Database => db.totalFilled k) (readsTotal k) (OrderKept start k) answer report
      (dispatchClosed order classification >>= fun result =>
        Program.committed >>= fun _ => pure result) := by
  unfold dispatchClosed
  simp only [hNonTerminal, if_true]
  rw [Program.bind_assoc]
  refine reports_updateStatus hFirst hOpen hId _ ?_
  rw [Program.bind_assoc]
  refine (neutral_appendAudit ..).bind_reports fun _ => ?_
  rw [Program.bind_assoc]
  exact reports_readTotal hId fun db => pays_finish

theorem reports_dispatchStatus (hFirst : start.realOrders.find? k = some first)
    (hOpen : first.status.isNonTerminal = true) (hId : order.id = k)
    (hNonTerminal : order.status.isNonTerminal = true) (response : KisFillStatusResult) (now : Int) :
    Reports (fun db : Database => db.totalFilled k) (readsTotal k) (OrderKept start k) answer
      (effectiveKisTotal (classifyFillResponse response) response order.quantity)
      (dispatchStatus order response now >>= fun result =>
        Program.committed >>= fun _ => pure result) := by
  unfold dispatchStatus
  cases hClass : classifyFillResponse response with
  | failed =>
    simp only
    rw [dispatchFailed, Program.bind_assoc]
    refine (neutral_appendAudit ..).bind_reports fun _ => ?_
    rw [Program.bind_assoc]
    exact reports_readTotal hId fun db => pays_finish
  | rejected => exact reports_dispatchClosed hFirst hOpen hId hNonTerminal _ _
  | canceled => exact reports_dispatchClosed hFirst hOpen hId hNonTerminal _ _
  | full | partialFill | none => exact reports_dispatchTotals hFirst hOpen hId _ response now

theorem reports_reportRaised (hId : order.id = k) (report : Int) :
    Reports (fun db : Database => db.totalFilled k) (readsTotal k) (OrderKept start k) answer report
      (reportRaised order >>= fun result => Program.committed >>= fun _ => pure result) := by
  rw [reportRaised, Program.bind_assoc]
  refine (neutral_appendAudit ..).bind_reports fun _ => ?_
  rw [Program.bind_assoc]
  exact reports_readTotal hId fun db => pays_finish

theorem reports_queryFillStatus {α : Type} {f : Except PyError KisFillStatusResult → App α}
    {report : Int} (transport : KisOrderTransport) (orderNo : String)
    (hRest : Reports (fun db : Database => db.totalFilled k) (readsTotal k) (OrderKept start k)
      answer report (f (fillReply transport answer orderNo))) :
    Reports (fun db : Database => db.totalFilled k) (readsTotal k) (OrderKept start k) answer report
      ((queryFillStatus transport orderNo).attempt >>= f) := by
  cases transport with
  | fake => exact hRest
  | live n =>
    show Reports _ _ _ _ _ ((Program.ofExcept (answer (.queryFillStatus n orderNo))).attempt >>= f)
    simp only [fillReply] at hRest
    cases hAnswer : answer (.queryFillStatus n orderNo) <;> rw [hAnswer] at hRest <;> exact hRest

end Parts

theorem reported_of_open {call : SyncCall} {k : Nat} {start : Database} {first : RealOrder}
    {response : KisFillStatusResult} (hId : call.realOrderId = k)
    (hFirst : start.realOrders.find? k = some first) (hLive : first.dryRun = false)
    (hOpen : first.status.isNonTerminal = true) (hReply : call.reply first = .ok response) :
    call.reported k start =
      effectiveKisTotal (classifyFillResponse response) response first.quantity := by
  have hDispatched : call.dispatched? start = some (first, response) :=
    dispatched?_eq_some_iff.mpr ⟨openOrder?_eq_some_iff.mpr ⟨hId ▸ hFirst, hLive, hOpen⟩, hReply⟩
  have hKey : first.id = k := Table.key_of_find? hFirst
  by_cases hReport : classifyFillResponse response = .full ∨
      classifyFillResponse response = .partialFill
  · simp [reported, report?, hDispatched, hKey, hReport]
  · simp [reported, report?, hDispatched, hReport, effectiveKisTotal_eq_zero response hReport]

/-- A sync reads the recorded total once, and tops it up to the effective total reported to it. -/
theorem reports_transaction (call : SyncCall) {k : Nat} (start : Database)
    (hId : call.realOrderId = k) :
    Reports (fun db : Database => db.totalFilled k) (readsTotal k) (OrderKept start k) call.answer
      (call.reported k start) call.transaction := by
  rw [transaction, syncFills, Program.bind_assoc, hId]
  refine reports_query rfl fun db hKept => ?_
  cases hFound : db.realOrders.find? k with
  | none => trivial
  | some order =>
    obtain ⟨first, hFirst, hSame, hOpen⟩ := hKept order hFound
    have hKey : order.id = k := Table.key_of_find? hFound
    by_cases hDry : (order.dryRun || order.status == .dryRun) = true
    · simp only [hDry, if_true]
      rw [Program.bind_assoc]
      exact reports_readTotal hKey fun db => pays_finish
    by_cases hSkipped : order.status.isSkipped = true
    · simp only [hDry, hSkipped, Bool.false_eq_true, if_true, if_false]
      rw [Program.bind_assoc]
      exact reports_readTotal hKey fun db => pays_finish
    simp only [hDry, hSkipped, Bool.false_eq_true, if_false]
    rw [Program.bind_assoc]
    refine reports_queryFillStatus _ _ ?_
    have hReplySame : call.reply order = call.reply first := by
      rw [hSame]
      rfl
    have hQuantity : order.quantity = first.quantity := by rw [hSame]
    have hNotDry : order.dryRun = false ∧ order.status ≠ .dryRun := by simpa using hDry
    have hNonTerminal := RealOrderStatus.isNonTerminal_of_not_skipped hNotDry.2 hSkipped
    have hLive : first.dryRun = false := by
      rw [← hNotDry.1, hSame]
    rw [← reply, hReplySame]
    cases hReply : call.reply first with
    | error error => exact reports_reportRaised hKey _
    | ok response =>
      rw [reported_of_open hId hFirst hLive (hOpen hNonTerminal) hReply, ← hQuantity]
      exact reports_dispatchStatus hFirst (hOpen hNonTerminal) hKey hNonTerminal response call.now

/-- In every interleaving of two syncs of one order in which one reads the recorded total after
the other's commit, or is told nothing above the total at the start, no execution is recorded
twice. -/
theorem totalFilled_le_of_readsLate (calls : Bool → SyncCall) (k : Nat)
    (hOrder : ∀ who, (calls who).realOrderId = k) (db : Database) (schedule : List Bool)
    (hApart : ∃ who, ReadsLate (readsTotal k) who (concurrently calls schedule db).trace ∨
      (calls who).reported k db ≤ db.totalFilled k) :
    (concurrently calls schedule db).durable.totalFilled k ≤
      max (db.totalFilled k) (max ((calls true).reported k db) ((calls false).reported k db)) :=
  measure_run_le (fun db : Database => db.totalFilled k) schedule orderKept_refl
    (fun who => reports_transaction (calls who) db (hOrder who)) hApart

def toldPartial (first second : Int) (who : Bool) : SyncCall :=
  answering 1 ⟨true, "1", if who then first else second, 0, .partiallyFilled, ""⟩

/-- One after the other, four shares and then three more. -/
theorem totalFilled_serial :
    (concurrently (toldPartial 4 7) (List.replicate 8 true ++ List.replicate 8 false)
      submittedSession.view).durable.totalFilled 1 ≤
      max (submittedSession.view.totalFilled 1)
        (max ((toldPartial 4 7 true).reported 1 submittedSession.view)
          ((toldPartial 4 7 false).reported 1 submittedSession.view)) :=
  totalFilled_le_of_readsLate (toldPartial 4 7) 1 (by decide) submittedSession.view _
    ⟨false, .inl
      ⟨(concurrently (toldPartial 4 7) (List.replicate 8 true ++ List.replicate 8 false)
          submittedSession.view).trace.take 9, .totalFilledQuantity 1,
        (concurrently (toldPartial 4 7) (List.replicate 8 true ++ List.replicate 8 false)
          submittedSession.view).trace.drop 10,
        by decide +kernel, rfl, by decide +kernel⟩⟩

/-- Both read nothing on record before either commits, and the same four shares count twice. -/
theorem totalFilled_twice :
    let w := concurrently (toldPartial 4 4)
      ([true, true, true, false, false, false] ++ List.replicate 8 true ++ List.replicate 8 false)
      submittedSession.view
    ((w.threads true).isFinished = true ∧ (w.threads false).isFinished = true) ∧
    ¬ w.durable.totalFilled 1 ≤
      max ((toldPartial 4 4 true).reported 1 submittedSession.view)
        ((toldPartial 4 4 false).reported 1 submittedSession.view) := by
  decide +kernel

end SyncCall

end StockAiPlatform
