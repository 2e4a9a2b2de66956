import StockAiPlatform.Broker.FillSyncRuns
import StockAiPlatform.Broker.PlacementSafety

/-! # The daily cap over both services

Gate 8 adds the amounts of the day's rows that are not failed, rejected or
canceled. The executor and the fill sync both move rows, and a row that leaves
these statuses leaves the sum, as does one that is rolled back, whatever the
broker holds of it.
-/

namespace StockAiPlatform
set_option autoImplicit false

open Transaction Python

inductive OrderCall where
  | execute (call : ExecuteCall)
  | sync (call : SyncCall)

/-- A call of either service, and what its caller does with the session if it returns. -/
structure OrderStep where
  call : OrderCall
  ending : Ending

/-- A session. The note is which of its order rows the broker may have accepted the placement of. -/
abbrev DayWatch := Noted Database Request Reply (List Nat)

def amountOf (counts : RealOrder → Bool) (orders : List RealOrder) : ℚ :=
  ((orders.filter counts).map RealOrder.estimatedAmount).sum

namespace Database

/-- Canceled or rejected, and nothing of it is recorded as executed. -/
def closedUnfilled (db : Database) (order : RealOrder) : Bool :=
  (order.status == .canceled || order.status == .rejected) && db.totalFilled order.id == 0

/-- What the broker may hold of an account's orders of the day. -/
def exposure (db : Database) (arrived : List Nat) (accountId : Nat) (now : Int) : ℚ :=
  amountOf (fun order => arrived.contains order.id && !db.closedUnfilled order)
    (db.ordersToday accountId now)

/-- The part of it whose rows are still counted by the cap. -/
def heldExposure (db : Database) (arrived : List Nat) (accountId : Nat) (now : Int) : ℚ :=
  amountOf (fun order => arrived.contains order.id && !order.status.isExcluded)
    (db.ordersToday accountId now)

end Database

namespace OrderCall

def run : OrderCall → DbSession → Except PyError Unit × DbSession
  | .execute call, s => ((call.run s).1.map fun _ => (), (call.run s).2)
  | .sync call, s => ((call.run s).1.map fun _ => (), (call.run s).2)

/-- The rows a call adds, if what it sent may have arrived. -/
def arrivals : OrderCall → DbSession → List Nat
  | .execute call, s =>
    if ((call.step s).log.drop s.log.length).any mayHaveArrived then
      ((call.step s).view.realOrders.rows.drop s.view.realOrders.rows.length).map RealOrder.id
    else []
  | .sync _, _ => []

/-- The call runs under these settings and reads its cap on the KST day of `now`. -/
def Within (settings : Settings) (now : Int) : OrderCall → Prop
  | .execute call => call.settings = settings ∧ kstDate call.ambient.capNow = kstDate now
  | .sync _ => True

end OrderCall

def OrderStep.next (step : OrderStep) (w : DayWatch) : DayWatch :=
  w.leave (step.call.run w.session) (w.note ++ step.call.arrivals w.session) step.ending

section Amounts

variable {counts counts' : RealOrder → Bool} {orders : List RealOrder}

theorem amountOf_le_of_imp (h : ∀ order ∈ orders, counts order = true → counts' order = true) :
    amountOf counts orders ≤ amountOf counts' orders := by
  have hSame : orders.filter counts = (orders.filter counts').filter counts := by
    rw [List.filter_filter]
    apply List.filter_congr
    intro order hMem
    cases hCounts : counts order with
    | false => rfl
    | true => rw [h order hMem hCounts]; rfl
  have hSub : (orders.filter counts).Sublist (orders.filter counts') := by
    rw [hSame]
    exact List.filter_sublist
  apply (hSub.map RealOrder.estimatedAmount).sum_le_sum
  intro amount hMem
  obtain ⟨order, -, rfl⟩ := List.mem_map.mp hMem
  exact order.estimatedAmount_nonneg

theorem amountOf_append (orders' : List RealOrder) :
    amountOf counts (orders ++ orders') = amountOf counts orders + amountOf counts orders' := by
  rw [amountOf, List.filter_append, List.map_append, List.sum_append]
  rfl

theorem amountOf_map {change : RealOrder → RealOrder}
    (h : ∀ order, (change order).estimatedAmount = order.estimatedAmount) :
    amountOf counts (orders.map change) = amountOf (counts ∘ change) orders := by
  rw [amountOf, List.filter_map, List.map_map]
  congr 1
  exact List.map_congr_left fun order _ => h order

theorem amountOf_filter (p : RealOrder → Bool) :
    amountOf counts (orders.filter p) = amountOf (fun order => counts order && p order) orders := by
  rw [amountOf, List.filter_filter]
  rfl

theorem amountOf_singleton_le (order : RealOrder) : amountOf counts [order] ≤ order.estimatedAmount := by
  unfold amountOf
  cases hCounts : counts order with
  | false => simpa [hCounts] using order.estimatedAmount_nonneg
  | true => simp [hCounts]

end Amounts

/-- The account and the day of gate 8, as one test on a row. -/
def Database.isToday (db : Database) (accountId : Nat) (now : Int) (order : RealOrder) : Bool :=
  db.accountOf order == some accountId
    && kstMidnight (kstDate now) ≤ order.createdAt
    && order.createdAt < kstMidnight (kstDate now) + microsPerDay

theorem heldExposure_eq (db : Database) (arrived : List Nat) (accountId : Nat) (now : Int) :
    db.heldExposure arrived accountId now = amountOf (fun order =>
      (arrived.contains order.id && !order.status.isExcluded) && db.isToday accountId now order)
        db.realOrders.rows :=
  amountOf_filter _

theorem isToday_congr {before after : Database} (h : after.orderCandidates = before.orderCandidates)
    (accountId : Nat) (now : Int) : after.isToday accountId now = before.isToday accountId now := by
  funext order
  rw [Database.isToday, Database.isToday, Database.accountOf, Database.accountOf, h]

theorem todayRealOrderTotal_eq (db : Database) (accountId : Nat) (now : Int) :
    db.todayRealOrderTotal accountId now =
      amountOf (fun order => !order.status.isExcluded && db.isToday accountId now order)
        db.realOrders.rows :=
  amountOf_filter _

theorem heldExposure_le_todayRealOrderTotal (db : Database) (arrived : List Nat) (accountId : Nat)
    (now : Int) : db.heldExposure arrived accountId now ≤ db.todayRealOrderTotal accountId now := by
  apply amountOf_le_of_imp
  intro order _ hCounts
  exact (Bool.and_eq_true_iff.mp hCounts).2

namespace OrderCall

open RealOrderExecutor ExecuteCall

variable {s : DbSession} {arrived : List Nat} {accountId : Nat} {now : Int}

theorem todayRealOrderTotal_recorded (accountId : Nat) (now : Int) {before after : Database}
    {row : RealOrder} (h : Recorded before after (some row)) :
    after.todayRealOrderTotal accountId now ≤
      before.todayRealOrderTotal accountId now + row.estimatedAmount := by
  rw [todayRealOrderTotal_eq, todayRealOrderTotal_eq, isToday_congr h.orderCandidates, h.rows,
    amountOf_append]
  exact add_le_add_right (amountOf_singleton_le row) _

section Execute

variable {call : ExecuteCall} {candidate : OrderCandidate} {row : RealOrder}

/-- A placing call for the account is let through only if its amount still fits. -/
theorem heldExposure_placed
    (hAdmitted : admitted call.ambient call.settings call.candidateId s.view = some candidate)
    (hRecorded : Recorded s.view (call.step s).view (some row))
    (hAmount : row.estimatedAmount = candidate.estimatedAmount)
    (hDay : kstDate call.ambient.capNow = kstDate now) (hAccount : candidate.accountId = accountId) :
    (call.step s).view.heldExposure arrived accountId now ≤
      call.settings.maxRealDailyOrderAmount := by
  have hGate := dailyCap_of_passesGates (admitted_eq_some_iff.mp hAdmitted).2
  have hTotal := todayRealOrderTotal_recorded accountId now hRecorded
  refine (heldExposure_le_todayRealOrderTotal _ arrived accountId now).trans (hTotal.trans ?_)
  have hSameDay : s.view.todayRealOrderTotal candidate.accountId now =
      s.view.todayRealOrderTotal candidate.accountId call.ambient.capNow := by
    rw [Database.todayRealOrderTotal, Database.ordersToday, ← hDay]
    rfl
  rw [← hAccount, hSameDay, hAmount]
  exact hGate

theorem mem_arrivals (hRecorded : Recorded s.view (call.step s).view (some row)) {id : Nat}
    (h : id ∈ (OrderCall.execute call).arrivals s) : id = row.id := by
  simp only [arrivals] at h
  split at h
  · rw [hRecorded.rows, List.drop_left] at h
    exact List.mem_singleton.mp h
  · contradiction

theorem heldExposure_other
    (hAdmitted : admitted call.ambient call.settings call.candidateId s.view = some candidate)
    (hRecorded : Recorded s.view (call.step s).view (some row))
    (hId : row.id = s.view.realOrders.nextKey) (hCandidate : row.candidateId = candidate.id)
    (hAccount : candidate.accountId ≠ accountId) :
    (call.step s).view.heldExposure (arrived ++ (OrderCall.execute call).arrivals s) accountId now ≤
      s.view.heldExposure arrived accountId now := by
  obtain ⟨hFound, -⟩ := admitted_eq_some_iff.mp hAdmitted
  rw [heldExposure_eq, heldExposure_eq, isToday_congr hRecorded.orderCandidates, hRecorded.rows,
    amountOf_append]
  -- The row added is another account's.
  have hNew : amountOf (fun order => ((arrived ++ (OrderCall.execute call).arrivals s).contains order.id
      && !order.status.isExcluded) && s.view.isToday accountId now order)
        (some row).toList = 0 := by
    rw [amountOf, List.filter_eq_nil_iff.mpr]
    · rfl
    · intro other hOther hCounts
      obtain rfl := List.mem_singleton.mp hOther
      have hToday := (Bool.and_eq_true_iff.mp hCounts).2
      simp only [Database.isToday, Database.accountOf, hCandidate, Bool.and_eq_true,
        beq_iff_eq] at hToday
      rw [id_of_admitted hAdmitted, hFound] at hToday
      exact hAccount (Option.some.inj hToday.1.1)
  rw [hNew, add_zero]
  -- The rows there were keep their keys below the one added.
  apply amountOf_le_of_imp
  intro order hMem hCounts
  simp only [Bool.and_eq_true, List.contains_iff_mem, List.mem_append] at hCounts ⊢
  refine ⟨⟨hCounts.1.1.resolve_right ?_, hCounts.1.2⟩, hCounts.2⟩
  intro hArrived
  have hLt : order.id < s.view.realOrders.nextKey := Table.key_lt_nextKey _ hMem
  have hKey := mem_arrivals hRecorded hArrived
  omega

end Execute

theorem heldExposure_sync (call : SyncCall) :
    (call.step s).view.heldExposure arrived accountId now ≤
      s.view.heldExposure arrived accountId now := by
  rw [heldExposure_eq, heldExposure_eq]
  cases hDispatched : call.dispatched? s.view with
  | none =>
    obtain ⟨-, -, -, -, hOrders, hCandidates, -⟩ := SyncCall.run_not_dispatched hDispatched
    rw [isToday_congr hCandidates, hOrders]
  | some pair =>
    obtain ⟨order, response⟩ := pair
    obtain ⟨-, -, -, hSynced⟩ := SyncCall.run_dispatched hDispatched
    obtain ⟨hOpen, -⟩ := SyncCall.dispatched?_eq_some_iff.mp hDispatched
    obtain ⟨hFound, -, hNonTerminal⟩ := SyncCall.openOrder?_eq_some_iff.mp hOpen
    rw [isToday_congr hSynced.orderCandidates, hSynced.rows,
      amountOf_map (by intro row; split <;> rfl)]
    apply amountOf_le_of_imp
    intro row hMem hCounts
    by_cases hKey : row.id = order.id
    · -- The order dispatched on was open, and so it was counted before.
      have hSame := (Table.find?_eq_some_iff _ row.id row).mpr ⟨hMem, rfl⟩
      rw [hKey, show order.id = call.realOrderId from Table.key_of_find? hFound, hFound] at hSame
      obtain rfl := Option.some.inj hSame
      have hCounted : order.status.isExcluded = false := by
        cases hStatus : order.status <;>
          simp_all [RealOrderStatus.isNonTerminal, RealOrderStatus.isExcluded]
      simp only [Function.comp_apply, if_true, Bool.and_eq_true] at hCounts
      rw [hCounted]
      simp only [Bool.and_eq_true]
      exact ⟨⟨hCounts.1.1, rfl⟩, hCounts.2⟩
    · simpa [hKey] using hCounts

theorem durable_run (call : OrderCall) (s : DbSession) : (call.run s).2.durable = s.durable := by
  cases call with
  | execute call => exact Attempt.durable_run call s
  | sync call => exact SyncCall.durable_step call s

theorem heldExposure_run {settings : Settings} {call : OrderCall} (hWithin : call.Within settings now)
    (hHeld : s.view.heldExposure arrived accountId now ≤ settings.maxRealDailyOrderAmount)
    {value : Unit} (hOk : (call.run s).1 = .ok value) :
    (call.run s).2.view.heldExposure (arrived ++ call.arrivals s) accountId now ≤
      settings.maxRealDailyOrderAmount := by
  cases call with
  | sync call =>
    rw [arrivals, List.append_nil]
    exact (heldExposure_sync call).trans hHeld
  | execute call =>
    obtain ⟨hSettings, hDay⟩ := hWithin
    cases hPlacement : call.placement s.view with
    | none =>
      have hSame : (OrderCall.run (.execute call) s).2 = s := step_refused hPlacement
      have hNone : (OrderCall.execute call).arrivals s = [] := by
        simp [arrivals, step_refused hPlacement]
      rw [hSame, hNone, List.append_nil]
      exact hHeld
    | some pair =>
      obtain ⟨candidate, transport⟩ := pair
      obtain ⟨result, hResult, -⟩ := map_eq_ok_iff.mp hOk
      obtain ⟨row, hRow, hRecorded⟩ := recorded_of_returned hPlacement hResult
      obtain ⟨hId, hCandidate, hAmount⟩ := settled_keeps hRow
      have hAdmitted := (placement_eq_some_iff.mp hPlacement).1
      by_cases hAccount : candidate.accountId = accountId
      · rw [← hSettings]
        exact heldExposure_placed hAdmitted hRecorded hAmount hDay hAccount
      · exact (heldExposure_other hAdmitted hRecorded hId hCandidate hAccount).trans hHeld

end OrderCall

namespace OrderStep

open OrderCall ExecuteCall

/-- What is still counted is within the cap. -/
def WithinCap (settings : Settings) (accountId : Nat) (now : Int) (db : Database)
    (arrived : List Nat) : Prop :=
  db.heldExposure arrived accountId now ≤ settings.maxRealDailyOrderAmount

/-- Over every run of both services inside one day, what the cap still counts of an account's
orders that the broker may have accepted, of the rows that are there, stays within the cap. -/
theorem heldExposure_run_le (settings : Settings) (accountId : Nat) (now : Int)
    (steps : List OrderStep) (db : Database) (arrived : List Nat)
    (hWithin : ∀ step ∈ steps, step.call.Within settings now)
    (hStart : WithinCap settings accountId now db arrived) :
    (Transaction.run next steps (.opened db arrived)).Holds (WithinCap settings accountId now) := by
  refine Along.invariant (fun w : DayWatch => w.Holds (WithinCap settings accountId now)) ?_
    (Along.of_forall (fun step hMem _ => hWithin step hMem) _) (Noted.holds_opened hStart)
  intro step w hStep hHolds
  exact hHolds.leave (durable_run step.call w.session)
    (fun _ hOk => heldExposure_run hStep hHolds.seen hOk) step.ending

def cappedSettings : Settings :=
  { openSettings false true with
    maxRealOrderAmount := 1000
    maxRealDailyOrderAmount := 1000
    maxRealOrderAmount_pos := by decide
    maxRealDailyOrderAmount_pos := by decide
    perOrder_le_daily := by decide }

def twoApproved : Database :=
  approvedDatabase [approvedCandidate 1 "005930" 700, approvedCandidate 2 "000660" 700]

theorem heldExposure_secondRefused :
    (Transaction.run next
      [⟨.execute (liveCall cappedSettings 1 (.ok ⟨true, "1", "SUBMITTED"⟩)), .commits⟩,
        ⟨.execute (liveCall cappedSettings 2 (.ok ⟨true, "2", "SUBMITTED"⟩)), .commits⟩]
      (.opened twoApproved [])).Holds (WithinCap cappedSettings 1 microsPerHour) :=
  heldExposure_run_le cappedSettings 1 microsPerHour _ twoApproved []
    (by simp [Within, liveCall, quietAmbient]) (by rw [WithinCap]; decide +kernel)

theorem exposure_exceeds_cap :
    let steps : List OrderStep :=
      [⟨.execute (liveCall cappedSettings 1 (.ok ⟨true, "1", "SUBMITTED"⟩)), .commits⟩,
        ⟨.sync (SyncCall.answering 1 ⟨true, "1", 4, 6, .partiallyFilled, ""⟩), .commits⟩,
        ⟨.sync (SyncCall.answering 1 ⟨false, "1", 4, 0, .canceled, ""⟩), .commits⟩,
        ⟨.execute (liveCall cappedSettings 2 (.ok ⟨true, "2", "SUBMITTED"⟩)), .commits⟩]
    let after := Transaction.run next steps (.opened twoApproved [])
    (∀ step ∈ steps, step.call.Within cappedSettings microsPerHour) ∧
    twoApproved.exposure [] 1 microsPerHour ≤ cappedSettings.maxRealDailyOrderAmount ∧
    ¬ after.session.durable.exposure after.durableNote 1 microsPerHour
      ≤ cappedSettings.maxRealDailyOrderAmount := by
  refine ⟨by simp [Within, liveCall, quietAmbient], by decide +kernel, by decide +kernel⟩

end OrderStep

end StockAiPlatform
