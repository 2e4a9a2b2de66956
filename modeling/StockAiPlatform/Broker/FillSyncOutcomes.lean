import StockAiPlatform.Broker.FillSyncService

/-! # What one sync can do

A sync either leaves orders and fills alone, or it reads one answer for an
open order and adds at most one fill and one status to it.
-/

namespace StockAiPlatform
set_option autoImplicit false

open Transaction Python

namespace FillSyncService

/-- What the answer adds to the recorded total, negative when it falls short. -/
def deltaOf (db : Database) (order : RealOrder) (response : KisFillStatusResult) : Int :=
  effectiveKisTotal (classifyFillResponse response) response order.quantity
    - db.totalFilled order.id

theorem grossAmount_nonneg (order : RealOrder) (existingTotal delta now : Int) :
    0 ≤ (fillDraft order existingTotal delta now).grossAmount := by
  simp only [fillDraft]
  split_ifs with h
  · exact zero_le_one
  · exact (not_le.mp h).le

def fillRow (order : RealOrder) (existingTotal delta now : Int) (h : 0 < delta) : RealFill :=
  RealFillRepository.rowOf (fillDraft order existingTotal delta now) h
    (safeUnitPrice_pos order order.quantity) (grossAmount_nonneg order existingTotal delta now)
    (grossAmount_nonneg order existingTotal delta now)

def newFill (db : Database) (order : RealOrder) (response : KisFillStatusResult) (now : Int) :
    Option RealFill :=
  if h : 0 < deltaOf db order response then
    some (fillRow order (db.totalFilled order.id) (deltaOf db order response) now h)
  else none

/-- The answer was taken: neither a transport failure nor below the recorded total. -/
def accepted (db : Database) (order : RealOrder) (response : KisFillStatusResult) : Bool :=
  match classifyFillResponse response with
  | .failed => false
  | .rejected | .canceled => true
  | .full | .partialFill | .none => decide (0 ≤ deltaOf db order response)

def newStatus (db : Database) (order : RealOrder) (response : KisFillStatusResult) :
    RealOrderStatus :=
  if accepted db order response then
    match classifyFillResponse response with
    | .rejected => .rejected
    | .canceled => .canceled
    | .full => .filled
    | .partialFill => .partiallyFilled
    | .none | .failed => order.status
  else order.status

/-- `after` is `before` with the order at `status` and at most one fill more. -/
structure Synced (before after : Database) (order : RealOrder) (status : RealOrderStatus)
    (fill : Option RealFill) : Prop where
  rows : after.realOrders.rows = before.realOrders.rows.map fun row =>
    if row.id = order.id then { row with status := status } else row
  orderCandidates : after.orderCandidates = before.orderCandidates
  realFills : after.realFills = before.realFills ++ fill.toList

structure Reported (db : Database) (order : RealOrder) (response : KisFillStatusResult)
    (result : FillSyncResult) : Prop where
  realOrderId : result.realOrderId = order.id
  fillStatus : result.fillStatus =
    if accepted db order response then classifyFillResponse response else .failed
  skippedReason : result.skippedReason = none ↔ accepted db order response = true
  createdFillCount : result.createdFillCount = if 0 < deltaOf db order response then 1 else 0
  fillsTotal : result.fillsTotal = db.totalFilled order.id + max (deltaOf db order response) 0
  realOrderStatus : result.realOrderStatus = some (newStatus db order response)

theorem leakedKeys_auditDetails (order : RealOrder) (classification : FillClassification)
    {details : List (String × Json)} (h : ∀ entry ∈ details, entry.1 ∉ forbiddenDetailsKeys) :
    leakedKeys (auditDetails order classification ++ details) = [] := by
  apply ApprovalAuditLogRepository.leakedKeys_eq_nil
  intro entry hMem
  rcases List.mem_append.mp hMem with hOwn | hDetails
  · have hNames : entry.1 ∈ ["classification", "dry_run", "symbol", "side"] := by
      simp only [auditDetails, List.mem_cons, List.not_mem_nil, or_false] at hOwn
      rcases hOwn with rfl | rfl | rfl | rfl <;> simp
    revert hNames
    generalize entry.1 = name
    simp only [List.mem_cons, List.not_mem_nil, or_false]
    rintro (rfl | rfl | rfl | rfl) <;> decide
  · exact h entry hDetails

section Runs

variable (answer : Answer) (s : DbSession) {order : RealOrder}

theorem exec_appendAudit (order : RealOrder) (eventType : AuditEvent) (reason : String)
    (classification : FillClassification) (details : List (String × Json))
    (h : ∀ entry ∈ details, entry.1 ∉ forbiddenDetailsKeys) :
    ∃ row, (appendAudit order eventType reason (auditDetails order classification ++ details)).exec
      answer s = (.ok (), s.write fun db => db.appendAuditLog row) := by
  have hAppend := ApprovalAuditLogRepository.exec_append_systemRow order.candidateId eventType
    reason (leakedKeys_auditDetails order classification h) answer s
  rw [appendAudit, Program.exec_bind_ok answer s hAppend]
  exact ⟨_, rfl⟩

theorem isTerminal_of_isNonTerminal (h : order.status.isNonTerminal = true) :
    order.status.isTerminal = false := by
  cases hStatus : order.status <;> simp_all [RealOrderStatus.isNonTerminal, RealOrderStatus.isTerminal]

theorem Synced.of_append {before after : Database} (hFound : before.realOrders.find? order.id = some order)
    (hOrders : after.realOrders = before.realOrders)
    (hCandidates : after.orderCandidates = before.orderCandidates)
    (hFills : after.realFills = before.realFills) :
    Synced before after order order.status none where
  rows := by
    rw [hOrders]
    exact (Table.map_rows_eq_self (f := fun row => { row with status := order.status }) hFound
      rfl).symm
  orderCandidates := hCandidates
  realFills := by rw [hFills, Option.toList_none, List.append_nil]

theorem exec_dispatchFailed (order : RealOrder) (response : KisFillStatusResult) :
    ∃ row, (dispatchFailed order response).exec answer s =
      (.ok (failed order (.unrecognisedStatus response.status) 0 (s.view.totalFilled order.id)),
        s.write fun db => db.appendAuditLog row) := by
  obtain ⟨row, hAudit⟩ := exec_appendAudit answer s order .realOrderFillFailed
    s!"unrecognised KIS status: {response.status.value}" .failed
    [("kis_status", .str response.status.value)] (by simp [forbiddenDetailsKeys])
  refine ⟨row, ?_⟩
  rw [dispatchFailed, Program.exec_bind_ok answer s hAudit]
  rfl

theorem exec_dispatchClosed (hOpen : order.status.isNonTerminal = true)
    (classification : FillClassification) :
    let status : RealOrderStatus := if classification = .rejected then .rejected else .canceled
    ∃ row, (dispatchClosed order classification).exec answer s =
      (.ok {
          realOrderId := order.id
          fillStatus := classification
          createdFillCount := 0
          skippedReason := none
          delta := 0
          fillsTotal := s.view.totalFilled order.id
          realOrderStatus := some status },
        (s.write (RealOrderRepository.setStatus order.id status)).write
          fun db => db.appendAuditLog row) := by
  intro status
  have hUpdate := RealOrderRepository.exec_updateStatus answer s
    (isTerminal_of_isNonTerminal hOpen) status
  obtain ⟨row, hAudit⟩ := exec_appendAudit answer
    (s.write (RealOrderRepository.setStatus order.id status)) { order with status := status }
    .realOrderFillSynced s!"KIS reported {classification.value}" classification
    [("delta", .int 0)] (by simp [forbiddenDetailsKeys])
  refine ⟨row, ?_⟩
  rw [dispatchClosed]
  simp only [hOpen, if_true]
  rw [Program.exec_bind_ok answer s hUpdate]
  rw [Program.exec_bind_ok answer _ hAudit]
  rfl

theorem exec_dispatchTotals_negative {classification : FillClassification}
    {response : KisFillStatusResult} (now : Int)
    (hNegative : effectiveKisTotal classification response order.quantity
      - s.view.totalFilled order.id < 0) :
    ∃ row, (dispatchTotals order classification response now).exec answer s =
      (.ok (failed order .negativeDelta (effectiveKisTotal classification response order.quantity
          - s.view.totalFilled order.id) (s.view.totalFilled order.id)),
        s.write fun db => db.appendAuditLog row) := by
  obtain ⟨row, hAudit⟩ := exec_appendAudit answer s order .fillSyncNegativeDelta
    "KIS reports filled_quantity below internal RealFill sum" classification
    [("delta", .int (effectiveKisTotal classification response order.quantity
        - s.view.totalFilled order.id)), ("existing_total", .int (s.view.totalFilled order.id)),
      ("kis_total", .int (effectiveKisTotal classification response order.quantity))]
    (by simp [forbiddenDetailsKeys])
  refine ⟨row, ?_⟩
  rw [dispatchTotals, RealFillRepository.totalFilledQuantity,
    Program.exec_bind_ok answer s (Program.exec_query answer s _ _)]
  simp only [hNegative, if_true]
  rw [Program.exec_bind_ok answer s hAudit]
  rfl

theorem Synced.trans {a b c : Database} {first second : RealOrderStatus} {fill : Option RealFill}
    (hFirst : Synced a b order first fill) (hSecond : Synced b c order second none) :
    Synced a c order second fill where
  rows := by
    rw [hSecond.rows, hFirst.rows, List.map_map]
    apply List.map_congr_left
    intro row _
    by_cases h : row.id = order.id <;> simp [h]
  orderCandidates := hSecond.orderCandidates.trans hFirst.orderCandidates
  realFills := by
    rw [hSecond.realFills, hFirst.realFills, Option.toList_none, List.append_nil]

theorem Synced.setStatus (db : Database) (order : RealOrder) (status : RealOrderStatus) :
    Synced db (RealOrderRepository.setStatus order.id status db) order status none :=
  ⟨rfl, rfl, (List.append_nil _).symm⟩

/-- The status an accepted answer about totals leads to. -/
def advancedStatus (order : RealOrder) : FillClassification → RealOrderStatus
  | .full => .filled
  | .partialFill => .partiallyFilled
  | .none | .rejected | .canceled | .failed => order.status

theorem exec_advanceStatus (hOpen : order.status.isNonTerminal = true)
    (hFound : s.view.realOrders.find? order.id = some order)
    (classification : FillClassification) :
    ∃ after, (advanceStatus order classification).exec answer s =
        (.ok { order with status := advancedStatus order classification }, after) ∧
      after.log = s.log ∧ after.durable = s.durable ∧
      Synced s.view after.view order (advancedStatus order classification) none := by
  have hTerminal := isTerminal_of_isNonTerminal hOpen
  have hSame : Synced s.view s.view order order.status none := .of_append hFound rfl rfl rfl
  unfold advanceStatus
  rw [if_pos hOpen]
  cases classification with
  | full =>
    exact ⟨_, RealOrderRepository.exec_updateStatus answer s hTerminal .filled, rfl, rfl,
      Synced.setStatus s.view order .filled⟩
  | partialFill =>
    by_cases hPartial : order.status = .partiallyFilled
    · simp only [hPartial, ne_eq, not_true_eq_false, if_false, advancedStatus]
      rw [hPartial] at hSame
      refine ⟨s, ?_, rfl, rfl, hSame⟩
      rw [← hPartial]
      rfl
    · simp only [ne_eq, hPartial, not_false_eq_true, if_true, advancedStatus]
      exact ⟨_, RealOrderRepository.exec_updateStatus answer s hTerminal .partiallyFilled, rfl,
        rfl, Synced.setStatus s.view order .partiallyFilled⟩
  | none | rejected | canceled | failed => exact ⟨s, rfl, rfl, rfl, hSame⟩

theorem exec_recordFill (hFound : s.view.realOrders.find? order.id = some order)
    (response : KisFillStatusResult) (now : Int) :
    ∃ t : DbSession, (recordFill order (s.view.totalFilled order.id)
        (deltaOf s.view order response) now).exec answer s =
        (.ok (if 0 < deltaOf s.view order response then 1 else 0), t) ∧
      t.log = s.log ∧ t.durable = s.durable ∧
      t.view.realOrders.find? order.id = some order ∧
      Synced s.view t.view order order.status (newFill s.view order response now) := by
  have hSame : Synced s.view s.view order order.status none := .of_append hFound rfl rfl rfl
  by_cases hPos : 0 < deltaOf s.view order response
  · have hInsert := RealFillRepository.exec_create
      (fillDraft order (s.view.totalFilled order.id) (deltaOf s.view order response) now)
      hPos (safeUnitPrice_pos order order.quantity)
      (grossAmount_nonneg order (s.view.totalFilled order.id) (deltaOf s.view order response) now)
      (grossAmount_nonneg order (s.view.totalFilled order.id) (deltaOf s.view order response) now)
      answer s
    rw [recordFill, newFill, dif_pos hPos, if_pos hPos, if_pos hPos,
      Program.exec_bind_ok answer s hInsert]
    exact ⟨_, rfl, rfl, rfl, hFound, hSame.rows, rfl, rfl⟩
  · rw [recordFill, newFill, dif_neg hPos, if_neg hPos, if_neg hPos]
    exact ⟨s, rfl, rfl, rfl, hFound, hSame⟩

theorem exec_dispatchTotals_advanced (hOpen : order.status.isNonTerminal = true)
    (hFound : s.view.realOrders.find? order.id = some order)
    {response : KisFillStatusResult} (now : Int)
    (hDelta : 0 ≤ deltaOf s.view order response) :
    let classification := classifyFillResponse response
    ∃ after, (dispatchTotals order classification response now).exec answer s =
        (.ok {
          realOrderId := order.id
          fillStatus := classification
          createdFillCount := if 0 < deltaOf s.view order response then 1 else 0
          skippedReason := none
          delta := deltaOf s.view order response
          fillsTotal := s.view.totalFilled order.id + deltaOf s.view order response
          realOrderStatus := some (advancedStatus order classification) }, after) ∧
      after.log = s.log ∧ after.durable = s.durable ∧
      Synced s.view after.view order (advancedStatus order classification)
        (newFill s.view order response now) := by
  intro classification
  obtain ⟨t, hCreate, hLog, hDurable, hFound', hSynced⟩ :=
    exec_recordFill answer s hFound response now
  obtain ⟨u, hAdvance, hLog', hDurable', hSynced'⟩ :=
    exec_advanceStatus answer t hOpen hFound' classification
  obtain ⟨row, hAudit⟩ := exec_appendAudit answer u
    { order with status := advancedStatus order classification } .realOrderFillSynced
    s!"KIS reported {classification.value} (delta={deltaOf s.view order response})" classification
    [("delta", .int (deltaOf s.view order response)),
      ("kis_total", .int (effectiveKisTotal classification response order.quantity))]
    (by simp [forbiddenDetailsKeys])
  have hNotNegative : ¬ effectiveKisTotal classification response order.quantity
      - s.view.totalFilled order.id < 0 := not_lt.mpr hDelta
  refine ⟨u.write fun db => db.appendAuditLog row, ?_, hLog'.trans hLog, hDurable'.trans hDurable,
    ?_⟩
  · rw [dispatchTotals, RealFillRepository.totalFilledQuantity,
      Program.exec_bind_ok answer s (Program.exec_query answer s _ _)]
    simp only [hNotNegative, if_false]
    refine (Program.exec_bind_ok answer s hCreate _).trans ?_
    refine (Program.exec_bind_ok answer t hAdvance _).trans ?_
    exact Program.exec_bind_ok answer u hAudit _
  · exact hSynced.trans ⟨hSynced'.rows, hSynced'.orderCandidates, hSynced'.realFills⟩

theorem newFill_of_nonpos {db : Database} {response : KisFillStatusResult} (now : Int)
    (h : deltaOf db order response ≤ 0) : newFill db order response now = none :=
  dif_neg (not_lt.mpr h)

theorem deltaOf_nonpos {db : Database} {response : KisFillStatusResult}
    (h : effectiveKisTotal (classifyFillResponse response) response order.quantity = 0) :
    deltaOf db order response ≤ 0 := by
  rw [deltaOf, h, zero_sub]
  exact neg_nonpos.mpr (db.totalFilled_nonneg order.id)

/-- The dispatch of the answer returns, and all it does is this sync and this report. -/
def Dispatches (order : RealOrder) (response : KisFillStatusResult) (now : Int) : Prop :=
  ∃ result after, (dispatchStatus order response now).exec answer s = (.ok result, after) ∧
    after.log = s.log ∧ after.durable = s.durable ∧
    Synced s.view after.view order (newStatus s.view order response)
      (newFill s.view order response now) ∧
    Reported s.view order response result

variable {response : KisFillStatusResult}

theorem dispatches_failed (hFound : s.view.realOrders.find? order.id = some order)
    (hClass : classifyFillResponse response = .failed) (now : Int) :
    Dispatches answer s order response now := by
  have hDelta : deltaOf s.view order response ≤ 0 := deltaOf_nonpos (by rw [hClass]; rfl)
  have hAccepted : accepted s.view order response = false := by rw [accepted, hClass]
  have hStatus : newStatus s.view order response = order.status := by
    rw [newStatus, hAccepted]
    rfl
  obtain ⟨row, hExec⟩ := exec_dispatchFailed answer s order response
  have hDispatch : dispatchStatus order response now = dispatchFailed order response := by
    rw [dispatchStatus, hClass]
  rw [← hDispatch] at hExec
  refine ⟨_, _, hExec, rfl, rfl, ?_, ?_⟩
  · rw [hStatus, newFill_of_nonpos now hDelta]
    exact .of_append hFound rfl rfl rfl
  · constructor <;> simp [failed, hAccepted, hStatus, hDelta, not_lt.mpr hDelta]

theorem dispatches_closed (hOpen : order.status.isNonTerminal = true)
    (hClass : classifyFillResponse response = .rejected ∨ classifyFillResponse response = .canceled)
    (now : Int) : Dispatches answer s order response now := by
  have hZero : effectiveKisTotal (classifyFillResponse response) response order.quantity = 0 := by
    rcases hClass with hClass | hClass <;> rw [hClass] <;> rfl
  have hDelta : deltaOf s.view order response ≤ 0 := deltaOf_nonpos hZero
  have hAccepted : accepted s.view order response = true := by
    rcases hClass with hClass | hClass <;> rw [accepted, hClass]
  have hStatus : newStatus s.view order response =
      if classifyFillResponse response = .rejected then .rejected else .canceled := by
    rcases hClass with hClass | hClass <;> rw [newStatus, hAccepted, hClass] <;> rfl
  obtain ⟨row, hExec⟩ := exec_dispatchClosed answer s hOpen (classifyFillResponse response)
  have hDispatch : dispatchStatus order response now =
      dispatchClosed order (classifyFillResponse response) := by
    rcases hClass with hClass | hClass <;> rw [dispatchStatus, hClass]
  rw [← hDispatch] at hExec
  refine ⟨_, _, hExec, rfl, rfl, ?_, ?_⟩
  · rw [hStatus, newFill_of_nonpos now hDelta]
    exact ⟨rfl, rfl, (List.append_nil _).symm⟩
  · constructor <;> simp [hAccepted, hStatus, hDelta, not_lt.mpr hDelta]

theorem dispatches_totals (hOpen : order.status.isNonTerminal = true)
    (hFound : s.view.realOrders.find? order.id = some order)
    (hDispatch : ∀ now, dispatchStatus order response now =
      dispatchTotals order (classifyFillResponse response) response now)
    (hTaken : accepted s.view order response = decide (0 ≤ deltaOf s.view order response))
    (hAdvanced : accepted s.view order response = true → newStatus s.view order response =
      advancedStatus order (classifyFillResponse response)) (now : Int) :
    Dispatches answer s order response now := by
  rcases lt_or_ge (deltaOf s.view order response) 0 with hDelta | hDelta
  · have hAccepted : accepted s.view order response = false :=
      hTaken.trans (decide_eq_false (not_le.mpr hDelta))
    have hStatus : newStatus s.view order response = order.status := by
      rw [newStatus, hAccepted]
      rfl
    obtain ⟨row, hExec⟩ := exec_dispatchTotals_negative answer s now hDelta
    rw [← hDispatch] at hExec
    refine ⟨_, _, hExec, rfl, rfl, ?_, ?_⟩
    · rw [hStatus, newFill_of_nonpos now hDelta.le]
      exact .of_append hFound rfl rfl rfl
    · constructor <;> simp [failed, hAccepted, hStatus, hDelta.le, not_lt.mpr hDelta.le]
  · have hAccepted : accepted s.view order response = true := hTaken.trans (decide_eq_true hDelta)
    have hStatus := hAdvanced hAccepted
    obtain ⟨after, hExec, hLog, hDurable, hSynced⟩ :=
      exec_dispatchTotals_advanced answer s hOpen hFound now hDelta
    rw [← hDispatch] at hExec
    refine ⟨_, after, hExec, hLog, hDurable, ?_, ?_⟩
    · rw [hStatus]
      exact hSynced
    · constructor <;> simp [hAccepted, hStatus, hDelta]

/-- Whatever the answer is, the dispatch of an open order returns. -/
theorem exec_dispatchStatus (hOpen : order.status.isNonTerminal = true)
    (hFound : s.view.realOrders.find? order.id = some order) (response : KisFillStatusResult)
    (now : Int) : Dispatches answer s order response now := by
  cases hClass : classifyFillResponse response with
  | failed => exact dispatches_failed answer s hFound hClass now
  | rejected => exact dispatches_closed answer s hOpen (.inl hClass) now
  | canceled => exact dispatches_closed answer s hOpen (.inr hClass) now
  | full | partialFill | none =>
    apply dispatches_totals answer s hOpen hFound
    · intro now
      rw [dispatchStatus, hClass]
    · rw [accepted, hClass]
    · intro hAccepted
      rw [newStatus, hAccepted, hClass]
      rfl

end Runs

end FillSyncService

end StockAiPlatform
