import StockAiPlatform.Broker.DurableAnchor
import StockAiPlatform.Transaction.Gate

/-! # Two executions of one candidate at once

Gate 2 reads the committed orders of the candidate, and the order of a call is
committed after the broker was asked. Two calls that both read before either
commits both ask. A call that reads a non-failed order does not.
-/

namespace StockAiPlatform
set_option autoImplicit false

open Transaction Python

def readsGate (candidateId : Nat) : Query → Bool
  | .nonFailedForCandidate k => k == candidateId
  | _ => false

namespace RealOrderExecutor

open Program

variable {candidateId : Nat}

theorem silent_append (row : ApprovalAuditLog) :
    (ApprovalAuditLogRepository.append row).Silent (readsGate candidateId) := by
  unfold ApprovalAuditLogRepository.append
  simp only
  split_ifs <;> trivial

theorem silent_create (draft : RealOrderDraft) (now : Int) :
    (RealOrderRepository.create draft now).Silent (readsGate candidateId) := by
  unfold RealOrderRepository.create
  split
  · split
    · exact fun _ => trivial
    · cases draft.orderType <;> trivial
  · trivial

theorem silent_updateStatus (order : RealOrder) (status : RealOrderStatus) :
    (RealOrderRepository.updateStatus order status).Silent (readsGate candidateId) := by
  unfold RealOrderRepository.updateStatus
  split <;> trivial

theorem silent_ofExcept {α : Type} (outcome : Except PyError α) :
    (Program.ofExcept outcome : App α).Silent (readsGate candidateId) := by
  cases outcome <;> trivial

theorem silent_recordOutcome (ambient : Ambient) (candidate : OrderCandidate) (order : RealOrder)
    (kisResult : KisOrderResult) :
    (recordOutcome ambient candidate order kisResult).Silent (readsGate candidateId) := by
  have hMark : ∀ code message, (RealOrderRepository.markFailed ambient.onSqlite ambient.substrings
      order code message).Silent (readsGate candidateId) := by
    intro code message
    unfold RealOrderRepository.markFailed
    simp only
    split
    · trivial
    · refine (silent_updateStatus _ _).bind fun _ => ?_
      split <;> trivial
  have hFailed : ∀ classification, (recordFailed ambient candidate order classification
      kisResult).Silent (readsGate candidateId) :=
    fun classification => (hMark _ _).bind fun _ => (silent_append _).bind fun _ => trivial
  unfold recordOutcome
  split
  · refine (silent_ofExcept _).bind fun _ => Silent.bind ?_ fun _ =>
      (silent_append _).bind fun _ => trivial
    exact (silent_updateStatus _ _).bind fun _ => trivial
  · exact hFailed _

theorem asksOnce_placeOrder (transport : KisOrderTransport) (counter : Nat)
    (request : KisOrderRequest) :
    (placeOrder transport counter request).AsksOnce (readsGate candidateId) := by
  cases transport with
  | fake => trivial
  | live n =>
    intro reply
    cases reply <;> trivial

theorem asksOnce_executeReal (ambient : Ambient) (candidate : OrderCandidate) (settings : Settings)
    (transport : KisOrderTransport) :
    (executeReal ambient candidate settings transport).AsksOnce (readsGate candidateId) :=
  (silent_create _ _).bind_asksOnce fun _ =>
    (asksOnce_placeOrder _ _ _).bind fun _ => silent_recordOutcome ..

theorem asksOnce_executeDryRun (executor : RealOrderExecutor) (ambient : Ambient)
    (candidate : OrderCandidate) :
    (executeDryRun executor ambient candidate).AsksOnce (readsGate candidateId) :=
  (asksOnce_placeOrder _ _ _).bind fun _ => (silent_ofExcept _).bind fun _ =>
    (silent_create _ _).bind fun _ => trivial

end RealOrderExecutor

namespace ExecuteCall

open RealOrderExecutor Program

/-- One execution in a session of its own, committed at its end. -/
def transaction (call : ExecuteCall) : App ExecutorResult := do
  let result ← execute call.executor call.ambient call.settings call.candidateId
  Program.committed
  pure result

def concurrently (calls : Bool → ExecuteCall) (schedule : List Bool) (db : Database) :
    World Database Query Request Reply PyError ExecutorResult :=
  Transaction.run (World.step fun who => (calls who).answer) schedule
    (.opened db fun who => (calls who).transaction)

/-- All an execution asks is `place_order`. -/
def placements (calls : Bool → ExecuteCall) (schedule : List Bool) (db : Database) : Nat :=
  (concurrently calls schedule db).trace.countP fun entry => entry.2.isAsk

/-- What a call does with the outcome of the gates. -/
def proceed (call : ExecuteCall) : Except ExecutorResult OrderCandidate → App ExecutorResult
  | .error refusal => pure refusal
  | .ok candidate =>
    if call.settings.realOrderDryRun then executeDryRun call.executor call.ambient candidate
    else
      match resolveRealTransport call.executor call.settings with
      | none => pure transportUnavailable
      | some transport => executeReal call.ambient candidate call.settings transport

theorem asksOnce_proceed (call : ExecuteCall) {candidateId : Nat}
    (gates : Except ExecutorResult OrderCandidate) :
    (call.proceed gates).AsksOnce (readsGate candidateId) := by
  unfold proceed
  cases gates with
  | error refusal => trivial
  | ok candidate =>
    simp only
    split
    · exact asksOnce_executeDryRun ..
    · cases resolveRealTransport call.executor call.settings with
      | none => trivial
      | some transport => exact asksOnce_executeReal ..

theorem transaction_eq (call : ExecuteCall) :
    call.transaction = checkGates call.ambient call.settings call.candidateId >>= fun gates =>
      call.proceed gates >>= fun result => Program.committed >>= fun _ => pure result := by
  rw [transaction, execute, Program.bind_assoc]
  rfl

/-- The gates are passed before anything is asked, and a non-failed order ends the call. -/
theorem guarded_transaction (call : ExecuteCall) :
    call.transaction.Guarded (readsGate call.candidateId) fun db =>
      RealOrderRepository.hasNonFailed call.candidateId db = true := by
  have hRest : ∀ gates, (call.proceed gates >>= fun result =>
      Program.committed >>= fun _ => pure result).AsksOnce (readsGate call.candidateId) :=
    fun gates => (call.asksOnce_proceed gates).bind fun result => trivial
  rw [transaction_eq, checkGates, Program.bind_assoc]
  refine guarded_query_bind rfl fun db => ?_
  cases db.orderCandidates.find? call.candidateId with
  | none => trivial
  | some candidate =>
    simp only
    split
    · trivial
    rw [Program.bind_assoc]
    refine guarded_gate_bind (beq_self_eq_true _) (fun db => ?_) fun db hShut => ?_
    · refine Silent.bind_asksOnce ?_ hRest
      refine .ite (silent_query_bind rfl fun _ => trivial) ?_
      refine .ite trivial (.ite trivial (.ite trivial (.ite trivial (.ite trivial ?_))))
      refine silent_query_bind rfl fun _ => .ite trivial ?_
      exact silent_query_bind rfl fun _ => .ite trivial trivial
    · rw [hShut, if_pos rfl, Program.bind_assoc]
      exact silent_query_bind rfl fun db => trivial

theorem commitsLast_transaction (call : ExecuteCall) : call.transaction.CommitsLast :=
  (commitFree_execute call.executor call.ambient call.settings call.candidateId).commitsLast id

/-- On this store the call places its order on the real path, and is told SUBMITTED and a number
that can be hashed. -/
def Submits (call : ExecuteCall) (db : Database) : Prop :=
  call.settings.realOrderDryRun = false ∧ ∃ candidate transport kisResult,
    call.placement db = some (candidate, transport) ∧
    call.reply candidate transport = .ok kisResult ∧
    classifyPlaceMessage kisResult.message = .submitted ∧
    kisResult.orderNo.isEncodable = true

theorem hasNonFailed_of_submits {call : ExecuteCall} {db : Database} (h : call.Submits db) :
    RealOrderRepository.hasNonFailed call.candidateId
      (call.transaction.served call.answer db) = true := by
  obtain ⟨hReal, candidate, transport, kisResult, hPlacement, hReply, hSubmitted, hNumber⟩ := h
  have hAsked := hReply
  rw [reply, request, hReal, if_neg Bool.false_ne_true] at hAsked
  have hRecordable : isRecordable call.ambient kisResult = true := by
    rw [isRecordable, hSubmitted]
    exact hNumber
  obtain ⟨row, hRow⟩ : ∃ row, settledRow call.ambient
      (anchorRow call.ambient candidate db.realOrders.nextKey) kisResult = .ok row :=
    exists_settledRow_iff.mpr hRecordable
  obtain ⟨result, after, -, -, hExec, -, -, hRecorded⟩ := exec_executeReal_settled call.answer
    (.opened db) call.ambient call.settings candidate transport hAsked hRow
  have hRun : call.run (.opened db) = (.ok result, after) := by
    rw [run_eq_of_placement (s := .opened db) hPlacement, hReal, if_neg Bool.false_ne_true]
    exact hExec
  have hServed : call.transaction.served call.answer db = after.view :=
    (served_committed (commitFree_execute ..) id call.answer db).trans (atomically_of_ok hRun)
  have hId := (settledRow_keeps hRow).2.1.trans
    (id_of_admitted (placement_eq_some_iff.mp hPlacement).1)
  have hStatus : row.status = .submitted := by
    rcases settledRow_status hRow with ⟨-, hStatus⟩ | ⟨hOther, -⟩
    · exact hStatus
    · exact absurd hSubmitted hOther
  rw [hServed, RealOrderRepository.hasNonFailed, List.any_eq_true]
  refine ⟨row, hRecorded.rows ▸ List.mem_append_right _ (List.mem_singleton_self row), ?_⟩
  simp only [Bool.and_eq_true, beq_iff_eq, hStatus]
  exact ⟨hId, rfl⟩

/-- When a call comes to gate 2, a non-failed order of the candidate is committed. -/
def FindsActive (calls : Bool → ExecuteCall) (schedule : List Bool) (db : Database) (who : Bool) :
    Prop :=
  FindsShut (fun who => (calls who).answer) (fun who => (calls who).transaction)
    (readsGate (calls who).candidateId)
    (fun db => RealOrderRepository.hasNonFailed (calls who).candidateId db = true) db schedule who

/-- Each of two executions of a candidate places once at most, and the two together do if one of
them comes to gate 2 with a non-failed order committed, as it does after the commit of the other
if that was told SUBMITTED. -/
theorem exclusive_of_findsActive (calls : Bool → ExecuteCall)
    (hSame : (calls true).candidateId = (calls false).candidateId) (db : Database)
    (schedule : List Bool) :
    (∀ who, asksBy who (concurrently calls schedule db).trace ≤ 1) ∧
    (∀ who, FindsActive calls schedule db who → placements calls schedule db ≤ 1) ∧
    ∀ who, (calls !who).Submits db →
      ReadsLate (readsGate (calls who).candidateId) who (concurrently calls schedule db).trace →
      placements calls schedule db ≤ 1 := by
  have hAlike : ∀ who other, (calls who).candidateId = (calls other).candidateId := by
    intro who other
    cases who <;> cases other <;> simp [hSame]
  have hGuarded : ∀ who other, (calls other).transaction.Guarded (readsGate (calls who).candidateId)
      fun db => RealOrderRepository.hasNonFailed (calls who).candidateId db = true := by
    intro who other
    rw [hAlike who other]
    exact (calls other).guarded_transaction
  have hActive : ∀ who, FindsActive calls schedule db who → placements calls schedule db ≤ 1 :=
    fun who hFinds => asks_le_one_of_findsShut (hGuarded who) hFinds
  refine ⟨fun who => asksBy_le_one _ _ (hGuarded who) schedule who, hActive, ?_⟩
  intro who hSubmits hLate
  refine hActive who (findsShut_of_readsLate (fun other => (calls other).commitsLast_transaction) hLate ?_)
  rw [hAlike who !who]
  exact hasNonFailed_of_submits hSubmits

def submittedCalls : Bool → ExecuteCall :=
  fun _ => liveCall (openSettings false true) 1 (.ok ⟨true, "1", "SUBMITTED"⟩)

theorem submits_submittedCalls (who : Bool) :
    (submittedCalls who).Submits (approvedDatabase [approvedCandidate 1 "005930" 700]) := by
  have hAdmitted : admitted quietAmbient (openSettings false true) 1
      (approvedDatabase [approvedCandidate 1 "005930" 700]) =
        some (approvedCandidate 1 "005930" 700) :=
    admitted_eq_some_iff.mpr ⟨rfl, by decide +kernel⟩
  exact ⟨rfl, _, .live 0, ⟨true, "1", "SUBMITTED"⟩, placement_eq_some_iff.mpr ⟨hAdmitted, rfl⟩, rfl,
    by decide, by decide⟩

theorem placements_serial :
    (submittedCalls true).candidateId = (submittedCalls false).candidateId ∧
      placements submittedCalls (List.replicate 14 true ++ List.replicate 14 false)
        (approvedDatabase [approvedCandidate 1 "005930" 700]) ≤ 1 := by
  refine ⟨rfl, (exclusive_of_findsActive submittedCalls rfl _ _).2.2 false
    (submits_submittedCalls true) ⟨(concurrently submittedCalls (List.replicate 14 true ++
        List.replicate 14 false) (approvedDatabase [approvedCandidate 1 "005930" 700])).trace.take 12,
      .nonFailedForCandidate 1, (concurrently submittedCalls (List.replicate 14 true ++
        List.replicate 14 false) (approvedDatabase [approvedCandidate 1 "005930" 700])).trace.drop 13,
      ?_, rfl, ?_⟩⟩
  · decide +kernel
  · decide +kernel

theorem placements_twice :
    placements submittedCalls ([true, true, false, false] ++ List.replicate 12 true ++
        List.replicate 12 false) (approvedDatabase [approvedCandidate 1 "005930" 700]) = 2 ∧
      ¬ placements submittedCalls ([true, true, false, false] ++ List.replicate 12 true ++
        List.replicate 12 false) (approvedDatabase [approvedCandidate 1 "005930" 700]) ≤ 1 := by
  decide +kernel

end ExecuteCall

end StockAiPlatform
