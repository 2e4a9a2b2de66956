import StockAiPlatform.Broker.FillSyncRuns

/-! # The recorded total is a monotone, idempotent accumulator

An answer that is not accepted moves nothing, an accepted one moves only its
own order, and being told the last accepted answer again moves nothing.
-/

namespace StockAiPlatform
set_option autoImplicit false

open Transaction Python

namespace SyncCall

open FillSyncService

/-- The order and the answer the call goes by: dispatched on and accepted. -/
def accepted? (call : SyncCall) (db : Database) : Option (RealOrder × KisFillStatusResult) :=
  (call.dispatched? db).filter fun pair => accepted db pair.1 pair.2

variable {call : SyncCall} {s : DbSession} {db : Database} {order : RealOrder}
  {response : KisFillStatusResult} {k : Nat}

theorem accepted?_eq_some_iff :
    call.accepted? db = some (order, response) ↔
      call.dispatched? db = some (order, response) ∧ accepted db order response = true := by
  rw [accepted?, Option.filter_eq_some_iff]

theorem newStatus_of_not_accepted (h : accepted db order response = false) :
    newStatus db order response = order.status := by
  rw [newStatus, h]
  rfl

theorem deltaOf_nonpos_of_not_accepted (h : accepted db order response = false) :
    deltaOf db order response ≤ 0 := by
  cases hClass : classifyFillResponse response with
  | full | partialFill | none =>
    rw [accepted, hClass] at h
    exact (not_le.mp (of_decide_eq_false h)).le
  | rejected | canceled =>
    rw [accepted, hClass] at h
    contradiction
  | failed => exact deltaOf_nonpos (by rw [hClass]; rfl)

theorem find?_of_dispatched (h : call.dispatched? db = some (order, response)) :
    db.realOrders.find? order.id = some order := by
  obtain ⟨hOpen, -⟩ := dispatched?_eq_some_iff.mp h
  obtain ⟨hFound, -, -⟩ := openOrder?_eq_some_iff.mp hOpen
  have hId : order.id = call.realOrderId := Table.key_of_find? hFound
  rw [hId]
  exact hFound

theorem tables_of_idle (hDispatched : call.dispatched? s.view = some (order, response))
    (hStatus : newStatus s.view order response = order.status)
    (hDelta : deltaOf s.view order response ≤ 0) :
    (call.step s).view.realOrders = s.view.realOrders ∧
      (call.step s).view.realFills = s.view.realFills := by
  obtain ⟨-, -, -, hSynced⟩ := run_dispatched hDispatched
  rw [hStatus, newFill_of_nonpos call.now hDelta] at hSynced
  refine ⟨Table.ext_rows ?_, ?_⟩
  · rw [hSynced.rows]
    exact Table.map_rows_eq_self (f := fun row => { row with status := order.status })
      (find?_of_dispatched hDispatched) rfl
  · rw [hSynced.realFills, Option.toList_none, List.append_nil]

/-- A call that accepts nothing leaves every order and every fill exactly as they were. -/
theorem tables_of_not_accepted (h : call.accepted? s.view = none) :
    (call.step s).view.realOrders = s.view.realOrders ∧
      (call.step s).view.realFills = s.view.realFills := by
  cases hDispatched : call.dispatched? s.view with
  | none =>
    obtain ⟨-, -, -, -, hOrders, -, hFills⟩ := run_not_dispatched hDispatched
    exact ⟨hOrders, hFills⟩
  | some pair =>
    obtain ⟨order, response⟩ := pair
    have hAccepted : accepted s.view order response = false := by
      cases hAccepted : accepted s.view order response with
      | false => rfl
      | true =>
        rw [accepted?_eq_some_iff.mpr ⟨hDispatched, hAccepted⟩] at h
        contradiction
    exact tables_of_idle hDispatched (newStatus_of_not_accepted hAccepted)
      (deltaOf_nonpos_of_not_accepted hAccepted)

theorem accepted?_eq_none_of_result {result : FillSyncResult} (hRun : (call.run s).1 = .ok result)
    (h : result.fillStatus = .failed ∨ result.skippedReason ≠ none) :
    call.accepted? s.view = none := by
  cases hAccepted : call.accepted? s.view with
  | none => rfl
  | some pair =>
    obtain ⟨order, response⟩ := pair
    obtain ⟨hDispatched, hTaken⟩ := accepted?_eq_some_iff.mp hAccepted
    obtain ⟨result', hRun', hReported, -⟩ := run_dispatched hDispatched
    obtain rfl : result = result' := Except.ok.inj (hRun.symm.trans hRun')
    rcases h with hFailed | hSkipped
    · have hStatus := hReported.fillStatus
      rw [hTaken, if_pos rfl, hFailed] at hStatus
      rw [accepted, ← hStatus] at hTaken
      contradiction
    · exact absurd (hReported.skippedReason.mpr hTaken) hSkipped

/-- A call moves the row and the fills of the one order it accepted an answer for. -/
theorem frame_of_accepted
    (h : ∀ order response, call.accepted? s.view = some (order, response) → order.id ≠ k) :
    (call.step s).view.realOrders.find? k = s.view.realOrders.find? k ∧
      (call.step s).view.fillsOf k = s.view.fillsOf k := by
  cases hAccepted : call.accepted? s.view with
  | none =>
    obtain ⟨hOrders, hFills⟩ := tables_of_not_accepted hAccepted
    rw [hOrders, Database.fillsOf, hFills]
    exact ⟨rfl, rfl⟩
  | some pair =>
    obtain ⟨order, response⟩ := pair
    have hOther := h order response hAccepted
    obtain ⟨hDispatched, -⟩ := accepted?_eq_some_iff.mp hAccepted
    obtain ⟨-, -, -, hSynced⟩ := run_dispatched hDispatched
    constructor
    · rw [find?_of_synced hSynced]
      cases s.view.realOrders.find? k with
      | none => rfl
      | some row => rw [Option.map_some, if_neg (Ne.symm hOther)]
    · apply fillsOf_of_other
      intro order' response' h'
      rw [hDispatched] at h'
      obtain ⟨rfl, rfl⟩ := Prod.mk.inj (Option.some.inj h')
      exact hOther

/-- The answer has nothing left to say about order `k`. -/
def Settled (k : Nat) (response : KisFillStatusResult) (db : Database) : Prop :=
  ∀ order, db.realOrders.find? k = some order → order.dryRun = false →
    order.status.isNonTerminal = true →
    deltaOf db order response ≤ 0 ∧ newStatus db order response = order.status

theorem settled_of_accepted (h : call.accepted? s.view = some (order, response)) :
    Settled order.id response (call.step s).view := by
  obtain ⟨hDispatched, hTaken⟩ := accepted?_eq_some_iff.mp h
  obtain ⟨-, -, -, hSynced⟩ := run_dispatched hDispatched
  intro row hRow hDry hOpen
  rw [find?_of_synced hSynced, find?_of_dispatched hDispatched, Option.map_some, if_pos rfl] at hRow
  obtain rfl := Option.some.inj hRow
  have hTotal := totalFilled_of_dispatched hDispatched
  have hDelta : deltaOf (call.step s).view
      { order with status := newStatus s.view order response } response ≤ 0 := by
    rw [deltaOf, sub_nonpos, hTotal]
    exact le_max_right _ _
  refine ⟨hDelta, ?_⟩
  -- An open order means that the answer was PARTIAL or NONE, whose status is now in place.
  cases hClass : classifyFillResponse response with
  | full | rejected | canceled =>
    simp [newStatus, hTaken, hClass, RealOrderStatus.isNonTerminal] at hOpen
  | failed => simp [accepted, hClass] at hTaken
  | partialFill =>
    have hStatus : newStatus s.view order response = .partiallyFilled := by
      rw [newStatus, hTaken, hClass]
      rfl
    rw [hStatus]
    simp only [newStatus, hClass]
    split <;> rfl
  | none =>
    have hStatus : newStatus s.view order response = order.status := by
      rw [newStatus, hTaken, hClass]
      rfl
    rw [hStatus]
    simp only [newStatus, hClass]
    split <;> rfl

theorem tables_of_settled (hSettled : Settled k response s.view) (hOrder : call.realOrderId = k)
    (hReply : ∀ order, s.view.realOrders.find? k = some order → call.reply order = .ok response) :
    (call.step s).view.realOrders = s.view.realOrders ∧
      (call.step s).view.realFills = s.view.realFills := by
  cases hDispatched : call.dispatched? s.view with
  | none =>
    obtain ⟨-, -, -, -, hOrders, -, hFills⟩ := run_not_dispatched hDispatched
    exact ⟨hOrders, hFills⟩
  | some pair =>
    obtain ⟨order, answered⟩ := pair
    obtain ⟨hOpen, hAnswered⟩ := dispatched?_eq_some_iff.mp hDispatched
    obtain ⟨hFound, hDry, hNonTerminal⟩ := openOrder?_eq_some_iff.mp hOpen
    rw [hOrder] at hFound
    obtain rfl : response = answered :=
      Except.ok.inj ((hReply order hFound).symm.trans hAnswered)
    obtain ⟨hDelta, hStatus⟩ := hSettled order hFound hDry hNonTerminal
    exact tables_of_idle hDispatched hStatus hDelta

theorem Settled.step (hSettled : Settled k response s.view)
    (h : ∀ order response, call.accepted? s.view = some (order, response) → order.id ≠ k) :
    Settled k response (call.step s).view := by
  obtain ⟨hFind, hFills⟩ := frame_of_accepted h
  intro order hFound hDry hOpen
  rw [hFind] at hFound
  have hId : order.id = k := Table.key_of_find? hFound
  obtain ⟨hDelta, hStatus⟩ := hSettled order hFound hDry hOpen
  have hSame : deltaOf (call.step s).view order response = deltaOf s.view order response := by
    rw [deltaOf, deltaOf, hId, Database.totalFilled, hFills, Database.totalFilled]
  refine ⟨hSame ▸ hDelta, ?_⟩
  rw [← hStatus, newStatus, newStatus, accepted, accepted, hSame]

theorem realFills_step (call : SyncCall) (s : DbSession) :
    ∃ fill : Option RealFill,
      (call.step s).view.realFills = s.view.realFills ++ fill.toList := by
  cases hDispatched : call.dispatched? s.view with
  | none =>
    obtain ⟨-, -, -, -, -, -, hFills⟩ := run_not_dispatched hDispatched
    exact ⟨none, by rw [hFills, Option.toList_none, List.append_nil]⟩
  | some pair =>
    obtain ⟨-, -, -, hSynced⟩ := run_dispatched hDispatched
    exact ⟨_, hSynced.realFills⟩

def Quiet (k : Nat) (calls : List SyncCall) (s : DbSession) : Prop :=
  Along step (fun call t => ∀ order response,
    call.accepted? t.view = some (order, response) → order.id ≠ k) calls s

/-- Over every run, for every order: the total never decreases, a call adds at most one row, the
total is the running maximum of the reports, the last accepted answer is idempotent, and a call
that fails, is skipped or falls short changes no order and no fill. -/
theorem sync_accumulates (calls : List SyncCall) (s : DbSession) (k : Nat) :
    (∀ pre post, calls = pre ++ post →
      (Transaction.run step pre s).view.totalFilled k ≤
        (Transaction.run step calls s).view.totalFilled k) ∧
    (∀ pre call post, calls = pre ++ call :: post → ∃ fill : Option RealFill,
      (call.step (Transaction.run step pre s)).view.realFills =
          (Transaction.run step pre s).view.realFills ++ fill.toList ∧
        ∀ row ∈ fill, 0 < row.quantity) ∧
    (Transaction.run step calls s).view.totalFilled k =
      (reports k calls s).foldl max (s.view.totalFilled k) ∧
    (∀ pre call post order response (again : SyncCall), calls = pre ++ call :: post →
      call.accepted? (Transaction.run step pre s).view = some (order, response) → order.id = k →
      Quiet k post (call.step (Transaction.run step pre s)) →
      again.realOrderId = k →
      (∀ row, (Transaction.run step calls s).view.realOrders.find? k = some row →
        again.reply row = .ok response) →
      (again.step (Transaction.run step calls s)).view.realOrders =
          (Transaction.run step calls s).view.realOrders ∧
        (again.step (Transaction.run step calls s)).view.realFills =
          (Transaction.run step calls s).view.realFills) ∧
    (∀ pre call post result, calls = pre ++ call :: post →
      (call.run (Transaction.run step pre s)).1 = .ok result →
      result.fillStatus = .failed ∨ result.skippedReason ≠ none →
      (call.step (Transaction.run step pre s)).view.realOrders =
          (Transaction.run step pre s).view.realOrders ∧
        (call.step (Transaction.run step pre s)).view.realFills =
          (Transaction.run step pre s).view.realFills) := by
  refine ⟨?_, ?_, totalFilled_run k calls s, ?_, ?_⟩
  · rintro pre post rfl
    rw [run_append]
    exact monotone_run (fun t : DbSession => t.view.totalFilled k)
      (fun call t => totalFilled_mono k) post _
  · rintro pre call post rfl
    obtain ⟨fill, hFills⟩ := realFills_step call (Transaction.run step pre s)
    exact ⟨fill, hFills, fun row _ => row.quantity_pos⟩
  · rintro pre call post order response again rfl hAccepted rfl hQuiet hOrder hReply
    rw [run_append, Transaction.run] at hReply ⊢
    have hSettled : Settled order.id response
        (Transaction.run step post (call.step (Transaction.run step pre s))).view :=
      Along.invariant (fun t : DbSession => Settled order.id response t.view)
        (fun call t hOther hSettled => hSettled.step hOther) hQuiet (settled_of_accepted hAccepted)
    exact tables_of_settled hSettled hOrder hReply
  · rintro pre call post result rfl hRun hIdle
    exact tables_of_not_accepted (accepted?_eq_none_of_result hRun hIdle)

end SyncCall

end StockAiPlatform
