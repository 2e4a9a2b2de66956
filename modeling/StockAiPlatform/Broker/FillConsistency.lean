import StockAiPlatform.Broker.FillAccumulation
import StockAiPlatform.Broker.KisOrderTransportReal

/-! # Fills and status of one order agree

The broker's order quantity is never compared with ours. The two sides agree
as long as no FULL answer exceeds our quantity and no PARTIAL answer reaches it.
-/

namespace StockAiPlatform
set_option autoImplicit false

open Transaction Python

namespace SyncCall

open FillSyncService

def AnswersByHttp (call : SyncCall) : Prop :=
  ∃ transport settings outcomes, call.transport = some (.live transport) ∧
    ∀ orderNo, call.answer (.queryFillStatus transport orderNo) =
      .ok (HttpxKisOrderTransport.queryFillStatus settings orderNo outcomes)

/-- Fill rows, recorded total and status of order `k` tell one story. -/
structure Consistent (order : RealOrder) (fills : List RealFill) : Prop where
  total_le : (fills.map RealFill.quantity).sum ≤ order.quantity
  filled_iff : order.status = .filled ↔ (fills.map RealFill.quantity).sum = order.quantity
  partial_bounds : order.status = .partiallyFilled →
    0 < (fills.map RealFill.quantity).sum ∧
      (fills.map RealFill.quantity).sum < order.quantity
  full_iff : (∃ fill ∈ fills, fill.fillStatus = .full) ↔ order.status = .filled

def ConsistentAt (k : Nat) (db : Database) : Prop :=
  ∀ order, db.realOrders.find? k = some order → Consistent order (db.fillsOf k)

/-- The accepted answers for order `k` stay within the quantity we ordered. -/
def WithinOrder (k : Nat) (call : SyncCall) (s : DbSession) : Prop :=
  ∀ order response, call.accepted? s.view = some (order, response) → order.id = k →
    (classifyFillResponse response = .full → response.filledQuantity ≤ order.quantity) ∧
    (classifyFillResponse response = .partialFill → response.filledQuantity < order.quantity)

/-- A real order just submitted: open, and without a fill. -/
structure FreshlySubmitted (k : Nat) (db : Database) : Prop where
  status : ∀ order, db.realOrders.find? k = some order → order.status = .submitted
  noFills : db.fillsOf k = []

theorem consistentAt_of_freshlySubmitted {k : Nat} {db : Database} (h : FreshlySubmitted k db) :
    ConsistentAt k db := by
  intro order hFound
  have hStatus := h.status order hFound
  have hPos := order.quantity_pos
  rw [h.noFills]
  refine ⟨hPos.le, ?_, ?_, ?_⟩
  · simp only [hStatus, reduceCtorEq, List.map_nil, List.sum_nil, false_iff]
    omega
  · simp [hStatus]
  · simp [hStatus]

variable {call : SyncCall} {s : DbSession} {order : RealOrder} {response : KisFillStatusResult}
  {k : Nat}

theorem wellFormedFill_of_answersByHttp (h : call.AnswersByHttp)
    (hReply : call.reply order = .ok response) :
    HttpxKisOrderTransport.WellFormedFill response := by
  obtain ⟨transport, settings, outcomes, hTransport, hAnswer⟩ := h
  rw [reply, hTransport, Option.getD_some, fillReply, hAnswer] at hReply
  obtain rfl := Except.ok.inj hReply
  exact HttpxKisOrderTransport.wellFormedFill_queryFillStatus settings _ outcomes

/-- What an accepted answer does to the order it is about. -/
theorem order_after_accepted (h : call.accepted? s.view = some (order, response)) :
    (call.step s).view.realOrders.find? order.id =
        some { order with status := newStatus s.view order response } ∧
      (call.step s).view.fillsOf order.id =
        s.view.fillsOf order.id ++ (newFill s.view order response call.now).toList := by
  obtain ⟨hDispatched, -⟩ := accepted?_eq_some_iff.mp h
  obtain ⟨-, -, -, hSynced⟩ := run_dispatched hDispatched
  constructor
  · rw [find?_of_synced hSynced, find?_of_dispatched hDispatched, Option.map_some, if_pos rfl]
  · rw [fillsOf_of_synced hSynced]
    cases hFill : newFill s.view order response call.now with
    | none => rfl
    | some fill => simp [realOrderId_of_newFill hFill]

/-- The new row is marked FULL exactly when it brings the total to the ordered quantity. -/
theorem fillStatus_of_newFill {db : Database} {now : Int} {fill : RealFill}
    (h : newFill db order response now = some fill) :
    fill.fillStatus = .full ↔ order.quantity ≤
      effectiveKisTotal (classifyFillResponse response) response order.quantity := by
  have hPos := order.quantity_pos
  unfold newFill at h
  split at h
  · obtain rfl := Option.some.inj h
    simp only [fillRow, RealFillRepository.rowOf, fillDraft, deltaOf, add_sub_cancel]
    split_ifs with hMark <;> simp_all
  · contradiction

/-- An open order of a consistent store has room left and no FULL fill yet. -/
theorem open_of_consistent {fills : List RealFill} (h : Consistent order fills)
    (hOpen : order.status.isNonTerminal = true) :
    (fills.map RealFill.quantity).sum < order.quantity ∧ ∀ fill ∈ fills, fill.fillStatus ≠ .full := by
  have hNotFilled : order.status ≠ .filled := by
    intro hFilled
    rw [hFilled] at hOpen
    contradiction
  refine ⟨lt_of_le_of_ne h.total_le fun hTotal => hNotFilled (h.filled_iff.mpr hTotal), ?_⟩
  exact fun fill hMem hFull => hNotFilled (h.full_iff.mp ⟨fill, hMem, hFull⟩)

section AcceptedStep

variable (hAccepted : call.accepted? s.view = some (order, response))
include hAccepted

theorem open_of_accepted : order.status.isNonTerminal = true := by
  obtain ⟨hDispatched, -⟩ := accepted?_eq_some_iff.mp hAccepted
  exact (openOrder?_eq_some_iff.mp (dispatched?_eq_some_iff.mp hDispatched).1).2.2

theorem sum_after_accepted :
    (((call.step s).view.fillsOf order.id).map RealFill.quantity).sum =
      max ((s.view.fillsOf order.id).map RealFill.quantity).sum
        (effectiveKisTotal (classifyFillResponse response) response order.quantity) :=
  totalFilled_of_dispatched (accepted?_eq_some_iff.mp hAccepted).1

/-- After an answer that leaves the total below the ordered quantity, no row is marked FULL. -/
theorem no_full_after_accepted (hBelow : effectiveKisTotal (classifyFillResponse response)
      response order.quantity < order.quantity)
    (hBefore : ∀ fill ∈ s.view.fillsOf order.id, fill.fillStatus ≠ .full) :
    ∀ fill ∈ (call.step s).view.fillsOf order.id, fill.fillStatus ≠ .full := by
  rw [(order_after_accepted hAccepted).2]
  intro fill hMem hFull
  rcases List.mem_append.mp hMem with hOld | hNew
  · exact hBefore fill hOld hFull
  · have hFill := Option.mem_toList.mp hNew
    exact absurd ((fillStatus_of_newFill hFill).mp hFull) (not_le.mpr hBelow)

theorem consistent_of_full (hClass : classifyFillResponse response = .full)
    (hWithin : response.filledQuantity ≤ order.quantity)
    (h : Consistent order (s.view.fillsOf order.id)) :
    Consistent { order with status := newStatus s.view order response }
      ((call.step s).view.fillsOf order.id) := by
  obtain ⟨hRoom, -⟩ := open_of_consistent h (open_of_accepted hAccepted)
  have hTaken := (accepted?_eq_some_iff.mp hAccepted).2
  have hPos := order.quantity_pos
  have hEffective : effectiveKisTotal (classifyFillResponse response) response order.quantity =
      order.quantity := by
    simp only [hClass, effectiveKisTotal, hPos, if_true]
    omega
  have hStatus : newStatus s.view order response = .filled := by
    rw [newStatus, hTaken, hClass]
    rfl
  have hSum := sum_after_accepted hAccepted
  rw [hEffective, max_eq_right hRoom.le] at hSum
  have hDelta : 0 < deltaOf s.view order response := by
    rw [deltaOf, hEffective]
    exact sub_pos.mpr hRoom
  rw [hStatus]
  refine ⟨hSum.le, ?_, ?_, ?_⟩
  · exact ⟨fun _ => hSum, fun _ => rfl⟩
  · intro hPartial
    cases hPartial
  · refine ⟨fun _ => rfl, fun _ => ?_⟩
    have hFill : newFill s.view order response call.now =
        some (fillRow order (s.view.totalFilled order.id) (deltaOf s.view order response)
          call.now hDelta) := dif_pos hDelta
    refine ⟨_, ?_, (fillStatus_of_newFill hFill).mpr hEffective.ge⟩
    rw [(order_after_accepted hAccepted).2, hFill]
    exact List.mem_append_right _ (List.mem_singleton_self _)

theorem consistent_of_partial (hClass : classifyFillResponse response = .partialFill)
    (hPositive : 0 < response.filledQuantity)
    (hWithin : response.filledQuantity < order.quantity)
    (h : Consistent order (s.view.fillsOf order.id)) :
    Consistent { order with status := newStatus s.view order response }
      ((call.step s).view.fillsOf order.id) := by
  obtain ⟨hRoom, hMarks⟩ := open_of_consistent h (open_of_accepted hAccepted)
  have hTaken := (accepted?_eq_some_iff.mp hAccepted).2
  have hEffective : effectiveKisTotal (classifyFillResponse response) response order.quantity =
      response.filledQuantity := by
    simp only [hClass, effectiveKisTotal]
    omega
  have hStatus : newStatus s.view order response = .partiallyFilled := by
    rw [newStatus, hTaken, hClass]
    rfl
  have hSum := sum_after_accepted hAccepted
  rw [hEffective] at hSum
  have hNoFull := no_full_after_accepted hAccepted (hEffective ▸ hWithin) hMarks
  rw [hStatus]
  refine ⟨?_, ?_, fun _ => ⟨?_, ?_⟩, ?_⟩
  · rw [hSum]
    exact max_le hRoom.le hWithin.le
  · constructor
    · intro hFilled
      cases hFilled
    · intro hTotal
      rw [hSum] at hTotal
      exact absurd hTotal (max_lt hRoom hWithin).ne
  · rw [hSum]
    exact lt_max_of_lt_right hPositive
  · rw [hSum]
    exact max_lt hRoom hWithin
  · constructor
    · rintro ⟨fill, hMem, hFull⟩
      exact absurd hFull (hNoFull fill hMem)
    · intro hFilled
      cases hFilled

theorem consistent_of_unreported
    (hClass : ¬(classifyFillResponse response = .full ∨ classifyFillResponse response = .partialFill))
    (h : Consistent order (s.view.fillsOf order.id)) :
    Consistent { order with status := newStatus s.view order response }
      ((call.step s).view.fillsOf order.id) := by
  have hOpen := open_of_accepted hAccepted
  obtain ⟨hRoom, hMarks⟩ := open_of_consistent h hOpen
  have hTaken := (accepted?_eq_some_iff.mp hAccepted).2
  have hZero := effectiveKisTotal_eq_zero response hClass order.quantity
  have hFills : (call.step s).view.fillsOf order.id = s.view.fillsOf order.id := by
    rw [(order_after_accepted hAccepted).2, newFill_of_nonpos call.now (deltaOf_nonpos hZero)]
    exact List.append_nil _
  have hStatus : newStatus s.view order response = order.status ∨
      newStatus s.view order response = .canceled ∨
      newStatus s.view order response = .rejected := by
    rw [newStatus, hTaken]
    cases hKind : classifyFillResponse response <;> simp_all
  rw [hFills]
  rcases hStatus with hSame | hClosed
  · rw [hSame]
    exact ⟨h.total_le, h.filled_iff, h.partial_bounds, h.full_iff⟩
  · have hNotFilled : newStatus s.view order response ≠ .filled := by
      rcases hClosed with hKind | hKind <;> rw [hKind] <;> decide
    have hNotPartial : newStatus s.view order response ≠ .partiallyFilled := by
      rcases hClosed with hKind | hKind <;> rw [hKind] <;> decide
    refine ⟨h.total_le, ⟨fun hFilled => absurd hFilled hNotFilled, fun hTotal => ?_⟩,
      fun hPartial => absurd hPartial hNotPartial, ?_, fun hFilled => absurd hFilled hNotFilled⟩
    · exact absurd hTotal hRoom.ne
    · rintro ⟨fill, hMem, hFull⟩
      exact absurd hFull (hMarks fill hMem)

end AcceptedStep

/-- One sync keeps order `k` consistent if its answer stays within the order. -/
theorem consistentAt_step (hHttp : call.AnswersByHttp) (hWithin : WithinOrder k call s)
    (h : ConsistentAt k s.view) : ConsistentAt k (call.step s).view := by
  by_cases hAbout : ∃ order response, call.accepted? s.view = some (order, response) ∧ order.id = k
  · obtain ⟨order, response, hAccepted, rfl⟩ := hAbout
    obtain ⟨hDispatched, -⟩ := accepted?_eq_some_iff.mp hAccepted
    obtain ⟨-, hReply⟩ := dispatched?_eq_some_iff.mp hDispatched
    have hWell := wellFormedFill_of_answersByHttp hHttp hReply
    have hBefore := h order (find?_of_dispatched hDispatched)
    obtain ⟨hFullBound, hPartialBound⟩ := hWithin order response hAccepted rfl
    intro row hRow
    rw [(order_after_accepted hAccepted).1] at hRow
    obtain rfl := Option.some.inj hRow
    cases hClass : classifyFillResponse response with
    | full => exact consistent_of_full hAccepted hClass (hFullBound hClass) hBefore
    | partialFill =>
      have hStatus : response.status = .partiallyFilled := by
        unfold classifyFillResponse at hClass
        split at hClass <;> first | assumption | contradiction | (split at hClass <;> contradiction)
      exact consistent_of_partial hAccepted hClass (hWell.2.1 hStatus) (hPartialBound hClass) hBefore
    | none | rejected | canceled | failed =>
      exact consistent_of_unreported hAccepted (by rw [hClass]; decide) hBefore
  · have hOther : ∀ order response, call.accepted? s.view = some (order, response) → order.id ≠ k :=
      fun order response hAccepted hId => hAbout ⟨order, response, hAccepted, hId⟩
    obtain ⟨hFind, hFills⟩ := frame_of_accepted hOther
    intro order hFound
    rw [hFind] at hFound
    rw [hFills]
    exact h order hFound

theorem withinOrder_of_consistentAt (h : ConsistentAt k (call.step s).view) :
    WithinOrder k call s := by
  rintro order response hAccepted rfl
  obtain ⟨hRow, -⟩ := order_after_accepted hAccepted
  have hAfter := h _ hRow
  have hSum := sum_after_accepted hAccepted
  have hTaken := (accepted?_eq_some_iff.mp hAccepted).2
  have hReported : classifyFillResponse response = .full ∨
      classifyFillResponse response = .partialFill → response.filledQuantity ≤
        (((call.step s).view.fillsOf order.id).map RealFill.quantity).sum := by
    intro hClass
    rw [hSum]
    exact (filledQuantity_le_effectiveKisTotal hClass order.quantity).trans (le_max_right _ _)
  refine ⟨fun hClass => (hReported (.inl hClass)).trans hAfter.total_le, fun hClass => ?_⟩
  have hStatus : newStatus s.view order response = .partiallyFilled := by
    rw [newStatus, hTaken, hClass]
    rfl
  exact (hReported (.inr hClass)).trans_lt (hAfter.partial_bounds hStatus).2

/-- From a freshly submitted order on, and with answers that HTTP can produce, fills and status
agree after every call exactly when no accepted FULL answer exceeds the ordered quantity and no
accepted PARTIAL answer reaches it. -/
theorem consistent_iff_withinOrder (k : Nat) (calls : List SyncCall) (s : DbSession)
    (hHttp : ∀ call ∈ calls, call.AnswersByHttp) (hFresh : FreshlySubmitted k s.view) :
    Along step (fun call t => ConsistentAt k (call.step t).view) calls s ↔
      Along step (WithinOrder k) calls s := by
  refine along_congr (fun t => ConsistentAt k t.view) ?_ ?_
    (consistentAt_of_freshlySubmitted hFresh)
  · intro call hMem t hBefore
    exact ⟨withinOrder_of_consistentAt, fun hWithin =>
      consistentAt_step (hHttp call hMem) hWithin hBefore⟩
  · exact fun _ _ _ hAfter _ => hAfter

def fillBody (ordQty totCcldQty : String) : WireJson :=
  .dict [("rt_cd", .str "0"), ("msg1", .str []), ("output1", .list [.dict
    [("ord_qty", .str ordQty), ("tot_ccld_qty", .str totCcldQty), ("cncl_yn", .str "N"),
      ("rjct_yn", .str "N")]])]

def overHttp (realOrderId : Nat) (body : WireJson) : SyncCall where
  transport := some (.live 0)
  realOrderId := realOrderId
  kisOrderNoPlaintext := none
  now := 0
  answer
    | .placeOrder _ _ => .error (.transport "not asked")
    | .queryFillStatus _ orderNo => .ok (HttpxKisOrderTransport.queryFillStatus Settings.paranoid
        orderNo fun _ => .response 200 (some body))

theorem answersByHttp_overHttp (realOrderId : Nat) (body : WireJson) :
    (overHttp realOrderId body).AnswersByHttp :=
  ⟨0, Settings.paranoid, fun _ => .response 200 (some body), rfl, fun _ => rfl⟩

theorem freshlySubmitted_submittedSession : FreshlySubmitted 1 submittedSession.view where
  status := by
    intro order hFound
    obtain rfl : submittedOrder 1 10 (by decide) = order := Option.some.inj hFound
    rfl
  noFills := rfl

theorem consistent_fourThenTen :
    Along step (fun call t => ConsistentAt 1 (call.step t).view)
        [overHttp 1 (fillBody "10" "4"), overHttp 1 (fillBody "10" "10")] submittedSession ↔
      Along step (WithinOrder 1)
        [overHttp 1 (fillBody "10" "4"), overHttp 1 (fillBody "10" "10")] submittedSession :=
  consistent_iff_withinOrder 1 _ submittedSession
    (by
      intro call hMem
      simp only [List.mem_cons, List.not_mem_nil, or_false] at hMem
      rcases hMem with rfl | rfl <;> exact answersByHttp_overHttp _ _)
    freshlySubmitted_submittedSession

/-- The broker holds twenty where we ordered ten, and ten of them are executed: the order has a
FULL fill and all of its quantity, and is PARTIALLY_FILLED. -/
theorem partialBeyondOrder_inconsistent :
    (overHttp 1 (fillBody "20" "10")).AnswersByHttp ∧ FreshlySubmitted 1 submittedSession.view ∧
      ¬ ConsistentAt 1 ((overHttp 1 (fillBody "20" "10")).step submittedSession).view := by
  refine ⟨answersByHttp_overHttp _ _, freshlySubmitted_submittedSession, ?_⟩
  intro h
  have hPartial : ((((overHttp 1 (fillBody "20" "10")).step submittedSession).view.realOrders.find? 1).map
      RealOrder.status) = some .partiallyFilled := by decide +kernel
  have hTotal : (((overHttp 1 (fillBody "20" "10")).step submittedSession).view.totalFilled 1) =
      10 := by decide +kernel
  have hQuantity : ((((overHttp 1 (fillBody "20" "10")).step submittedSession).view.realOrders.find? 1).map
      RealOrder.quantity) = some 10 := by decide +kernel
  obtain ⟨order, hFound, hStatus⟩ := Option.map_eq_some_iff.mp hPartial
  rw [hFound, Option.map_some, Option.some.injEq] at hQuantity
  have hBounds := ((h order hFound).partial_bounds hStatus).2
  rw [hQuantity] at hBounds
  exact absurd hTotal hBounds.ne

end SyncCall

end StockAiPlatform
