import StockAiPlatform.Broker.FillAccumulation

/-! # Executions the broker confirmed are recorded

A run is watched for the largest filled quantity the broker reported for each
order. FULL and PARTIAL answers raise the recorded total to what they report.
The branch that closes an order on CANCELED or REJECTED reads no quantity.
-/

namespace StockAiPlatform
set_option autoImplicit false

open Transaction Python

namespace SyncCall

open FillSyncService

/-- The quantity an accepted FULL, PARTIAL, CANCELED or REJECTED answer reports. -/
def filled? (call : SyncCall) (db : Database) : Option (RealOrder × Int) :=
  match call.accepted? db with
  | none => none
  | some (order, response) =>
    if classifyFillResponse response = .none then none
    else some (order, response.filledQuantity)

/-- A session together with the largest quantity reported so far for each order. -/
structure Watched where
  session : DbSession
  largest : Nat → Int

def watched (s : DbSession) : Watched := ⟨s, fun _ => 0⟩

def watch (call : SyncCall) (w : Watched) : Watched where
  session := call.step w.session
  largest := match call.filled? w.session.view with
    | none => w.largest
    | some (order, filled) =>
      Function.update w.largest order.id (max (w.largest order.id) filled)

/-- A reported execution above the recorded total, and within the order, is on record afterwards. -/
def Lossless (call : SyncCall) (s : DbSession) : Prop :=
  ∀ order filled, call.filled? s.view = some (order, filled) →
    s.view.totalFilled order.id < filled → filled ≤ order.quantity →
    filled ≤ (call.step s).view.totalFilled order.id

/-- No terminal order records less than the broker reported for it. -/
def TerminalComplete (w : Watched) : Prop :=
  ∀ k order, w.session.view.realOrders.find? k = some order → order.status.isTerminal = true →
    w.largest k ≤ w.session.view.totalFilled k

def LosesNothing (call : SyncCall) (w : Watched) : Prop :=
  Lossless call w.session ∧ TerminalComplete (watch call w)

/-- An answer that closes an open order reports no more than is on record already. -/
def ClosesWithinRecord (call : SyncCall) (w : Watched) : Prop :=
  ∀ order response, call.dispatched? w.session.view = some (order, response) →
    classifyFillResponse response = .canceled ∨ classifyFillResponse response = .rejected →
    response.filledQuantity ≤ w.session.view.totalFilled order.id

def Complete (w : Watched) : Prop := ∀ k, w.largest k ≤ w.session.view.totalFilled k

variable {call : SyncCall} {s : DbSession} {w : Watched} {order : RealOrder}
  {response : KisFillStatusResult}

theorem filled?_eq_some {filled : Int} (h : call.filled? s.view = some (order, filled)) :
    ∃ response, call.accepted? s.view = some (order, response) ∧
      classifyFillResponse response ≠ .none ∧ response.filledQuantity = filled := by
  unfold filled? at h
  cases hAccepted : call.accepted? s.view with
  | none => simp [hAccepted] at h
  | some pair =>
    obtain ⟨order', response⟩ := pair
    simp only [hAccepted] at h
    split at h
    · contradiction
    · rename_i hClass
      obtain ⟨rfl, rfl⟩ := Prod.mk.inj (Option.some.inj h)
      exact ⟨response, rfl, hClass, rfl⟩

theorem filled_le_of_closesWithinRecord (h : ClosesWithinRecord call w) {filled : Int}
    (hFilled : call.filled? w.session.view = some (order, filled)) :
    filled ≤ (call.step w.session).view.totalFilled order.id := by
  obtain ⟨response, hAccepted, hClass, rfl⟩ := filled?_eq_some hFilled
  obtain ⟨hDispatched, hTaken⟩ := accepted?_eq_some_iff.mp hAccepted
  rw [totalFilled_of_dispatched hDispatched]
  cases hKind : classifyFillResponse response with
  | full | partialFill =>
    exact (filledQuantity_le_effectiveKisTotal (by simp) order.quantity).trans (le_max_right _ _)
  | canceled => exact (h order response hDispatched (.inl hKind)).trans (le_max_left _ _)
  | rejected => exact (h order response hDispatched (.inr hKind)).trans (le_max_left _ _)
  | none => exact absurd hKind hClass
  | failed => simp [accepted, hKind] at hTaken

theorem complete_watch (h : ClosesWithinRecord call w) (hComplete : Complete w) :
    Complete (watch call w) := by
  intro k
  have hKept : w.largest k ≤ (call.step w.session).view.totalFilled k :=
    (hComplete k).trans (totalFilled_mono k)
  unfold watch
  cases hFilled : call.filled? w.session.view with
  | none => simpa [hFilled] using hKept
  | some pair =>
    obtain ⟨order, filled⟩ := pair
    by_cases hId : k = order.id
    · subst hId
      simpa using ⟨hKept, filled_le_of_closesWithinRecord h hFilled⟩
    · simpa [Function.update_of_ne hId] using hKept

theorem closesWithinRecord_of_terminalComplete (h : TerminalComplete (watch call w)) :
    ClosesWithinRecord call w := by
  intro order response hDispatched hClosed
  have hTaken : accepted w.session.view order response = true := by
    rcases hClosed with hClass | hClass <;> rw [accepted, hClass]
  have hNotNone : classifyFillResponse response ≠ .none := by
    rcases hClosed with hClass | hClass <;> rw [hClass] <;> decide
  have hFilled : call.filled? w.session.view = some (order, response.filledQuantity) := by
    simp only [filled?, accepted?_eq_some_iff.mpr ⟨hDispatched, hTaken⟩, hNotNone, if_false]
  obtain ⟨-, -, -, hSynced⟩ := run_dispatched hDispatched
  have hRow := find?_of_synced hSynced order.id
  rw [find?_of_dispatched hDispatched, Option.map_some, if_pos rfl] at hRow
  have hTerminal : (newStatus w.session.view order response).isTerminal = true := by
    rcases hClosed with hClass | hClass <;> simp [newStatus, hTaken, hClass, RealOrderStatus.isTerminal]
  have hZero : effectiveKisTotal (classifyFillResponse response) response order.quantity = 0 := by
    rcases hClosed with hClass | hClass <;> rw [hClass] <;> rfl
  have hTotal := totalFilled_of_dispatched hDispatched
  rw [hZero, max_eq_left (w.session.view.totalFilled_nonneg order.id)] at hTotal
  have hLargest := h order.id _ hRow hTerminal
  simp only [watch, hFilled, Function.update_self, hTotal] at hLargest
  exact (le_max_right _ _).trans hLargest

/-- Over every run, no confirmed execution is lost exactly when every answer that closes an order
reports no more than was recorded for it before. -/
theorem losesNothing_iff_closesWithinRecord (calls : List SyncCall) (s : DbSession) :
    Along watch LosesNothing calls (watched s) ↔
      Along watch ClosesWithinRecord calls (watched s) := by
  have hStart : Complete (watched s) := fun k => s.view.totalFilled_nonneg k
  refine along_congr Complete ?_ ?_ hStart
  · intro call _ w hComplete
    constructor
    · exact fun h => closesWithinRecord_of_terminalComplete h.2
    · intro h
      refine ⟨fun order filled hFilled _ _ => filled_le_of_closesWithinRecord h hFilled, ?_⟩
      exact fun k order _ _ => complete_watch h hComplete k
  · intro call _ w h hComplete
    exact complete_watch (closesWithinRecord_of_terminalComplete h.2) hComplete

def canceledAfterFour : SyncCall := answering 1
  { success := false, orderNo := "1", filledQuantity := 4, remainingQuantity := 6
    status := .canceled, message := "CANCELED" }

theorem canceledAfterFour_loses :
    ¬ Along watch LosesNothing [canceledAfterFour] (watched submittedSession) := by
  intro h
  have hFour : 4 ≤ (canceledAfterFour.step submittedSession).view.totalFilled 1 :=
    h.1.1 (submittedOrder 1 10 (by decide)) 4 rfl (by decide) (by decide)
  revert hFour
  decide +kernel

end SyncCall

end StockAiPlatform
