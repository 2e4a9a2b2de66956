import StockAiPlatform.Approval.ApprovalService
import StockAiPlatform.Broker.SimulationOutcomes

/-! # What each decision leaves

A call that returns moved one candidate, wrote its audit rows and touched no
other table than the paper orders. Each of the four calls is inverted once.
-/

namespace StockAiPlatform
set_option autoImplicit false

open Transaction Python OrderCandidateRepository

/-- The log grew by rows of one candidate, with these events in this order. -/
def Logged (before after : List ApprovalAuditLog) (candidateId : Nat) (events : List AuditEvent) :
    Prop :=
  ∃ rows, after = before ++ rows ∧ (∀ row ∈ rows, row.candidateId = candidateId) ∧
    rows.map ApprovalAuditLog.eventType = events

/-- The tables a decision may write, and all the others as they were. -/
structure Wrote (before after : Database) (candidateId : Nat) (candidates : Table OrderCandidate)
    (orders : Table VirtualOrder) (events : List AuditEvent) : Prop where
  candidates : after.orderCandidates = candidates
  orders : after.virtualOrders = orders
  logged : Logged before.approvalAuditLogs after.approvalAuditLogs candidateId events
  frame : after = { before with
    orderCandidates := after.orderCandidates
    virtualOrders := after.virtualOrders
    approvalAuditLogs := after.approvalAuditLogs }

section Wrote

variable {before middle after : Database} {k : Nat} {candidates candidates' : Table OrderCandidate}
  {orders orders' : Table VirtualOrder} {events events' : List AuditEvent}

theorem logged_refl (log : List ApprovalAuditLog) (k : Nat) : Logged log log k [] :=
  ⟨[], (List.append_nil log).symm, fun _ h => absurd h List.not_mem_nil, rfl⟩

theorem Wrote.trans (first : Wrote before middle k candidates orders events)
    (second : Wrote middle after k candidates' orders' events') :
    Wrote before after k candidates' orders' (events ++ events') where
  candidates := second.candidates
  orders := second.orders
  logged := by
    obtain ⟨rows, hRows, hOwn, hEvents⟩ := first.logged
    obtain ⟨rows', hRows', hOwn', hEvents'⟩ := second.logged
    refine ⟨rows ++ rows', ?_, ?_, ?_⟩
    · rw [hRows', hRows, List.append_assoc]
    · intro row hRow
      rcases List.mem_append.mp hRow with hRow | hRow
      · exact hOwn row hRow
      · exact hOwn' row hRow
    · rw [List.map_append, hEvents, hEvents']
  frame := by
    rw [second.frame, first.frame]

/-- A step that leaves both tables as it found them adds to the log only. -/
theorem Wrote.keep (first : Wrote before middle k candidates orders events)
    (second : Wrote middle after k middle.orderCandidates middle.virtualOrders events') :
    Wrote before after k candidates orders (events ++ events') := by
  have h := first.trans second
  rw [first.candidates, first.orders] at h
  exact h

/-- A row just inserted under the next id, and changed before anyone else saw it. -/
theorem Wrote.thenInserted {candidate : OrderCandidate} {change : OrderCandidate → OrderCandidate}
    {hId : ∀ candidate, (change candidate).id = candidate.id}
    (first : Wrote before middle k (candidates.insert candidate) orders events)
    (hKey : candidate.id = candidates.nextKey)
    (second : Wrote middle after k (middle.orderCandidates.modify candidate.id change hId)
      middle.virtualOrders events') :
    Wrote before after k (candidates.insert (change candidate)) orders (events ++ events') := by
  have h := first.trans second
  rw [first.candidates, first.orders] at h
  rw [← Table.modify_insert hKey hId]
  exact h

theorem Wrote.thenChanged {f g : OrderCandidate → OrderCandidate}
    {hf : ∀ candidate, (f candidate).id = candidate.id}
    {hg : ∀ candidate, (g candidate).id = candidate.id}
    (first : Wrote before middle k (candidates.modify k f hf) orders events)
    (second : Wrote middle after k (middle.orderCandidates.modify k g hg) middle.virtualOrders events') :
    Wrote before after k (candidates.modify k (g ∘ f) fun c => (hg (f c)).trans (hf c)) orders
      (events ++ events') := by
  have h := first.trans second
  rw [first.candidates, first.orders, Table.modify_modify] at h
  exact h

theorem Wrote.thenOrders (first : Wrote before middle k candidates orders events)
    (second : after = { middle with virtualOrders := after.virtualOrders }) :
    Wrote before after k candidates after.virtualOrders events := by
  refine ⟨?_, rfl, ?_, ?_⟩
  · rw [second]
    exact first.candidates
  · rw [second]
    exact first.logged
  · rw [second, first.frame]

theorem Wrote.virtualAccounts (h : Wrote before after k candidates orders events) :
    after.virtualAccounts = before.virtualAccounts := by
  rw [h.frame]

theorem wrote_insertOrderCandidate (db : Database) (candidate : OrderCandidate) :
    Wrote db (db.insertOrderCandidate candidate) k (db.orderCandidates.insert candidate)
      db.virtualOrders [] :=
  ⟨rfl, rfl, logged_refl _ k, rfl⟩

theorem wrote_updateOrderCandidate (db : Database) (candidateId : Nat)
    (change : OrderCandidate → OrderCandidate) (hId : ∀ candidate, (change candidate).id = candidate.id) :
    Wrote db (db.updateOrderCandidate candidateId change hId) k
      (db.orderCandidates.modify candidateId change hId) db.virtualOrders [] :=
  ⟨rfl, rfl, logged_refl _ k, rfl⟩

theorem wrote_appendAuditLog (db : Database) {row : ApprovalAuditLog} (hRow : row.candidateId = k) :
    Wrote db (db.appendAuditLog row) k db.orderCandidates db.virtualOrders [row.eventType] where
  candidates := rfl
  orders := rfl
  logged := by
    refine ⟨[row], rfl, ?_, rfl⟩
    intro other hOther
    rw [List.mem_singleton.mp hOther, hRow]
  frame := rfl

end Wrote

namespace ApprovalService

variable {service : ApprovalService} {answer : Answer} {s t : DbSession}

section Parts

variable {candidate result : OrderCandidate} {actor : ApprovalActor}

theorem exec_assertWorkflowActive_eq_ok {value : Unit}
    (h : (assertWorkflowActive service).exec answer s = (.ok value, t)) :
    t = s ∧ service.settings.tradingSafetyEnabled = true := by
  unfold assertWorkflowActive at h
  split at h
  · cases h
    exact ⟨rfl, ‹_›⟩
  · cases h

theorem exec_assertKillSwitchOff_eq_ok {candidateId : Nat} {value : Unit}
    (h : (assertKillSwitchOff service candidateId actor).exec answer s = (.ok value, t)) :
    t = s ∧ service.settings.killSwitchEnabled = false := by
  unfold assertKillSwitchOff at h
  split at h
  · rw [Program.exec_bind_eq_ok] at h
    obtain ⟨row, u, -, hRaise⟩ := h
    cases hRaise
  · cases h
    exact ⟨rfl, eq_false_of_ne_true ‹_›⟩

theorem exec_loadPending_eq_ok {candidateId : Nat} {participle : String}
    (h : (loadPending candidateId participle).exec answer s = (.ok candidate, t)) :
    t = s ∧ s.view.orderCandidates.find? candidateId = some candidate ∧
      candidate.status = .pendingApproval := by
  rw [loadPending, getById, Program.exec_query_bind] at h
  cases hFound : s.view.orderCandidates.find? candidateId with
  | none =>
    rw [hFound] at h
    cases h
  | some found =>
    rw [hFound] at h
    simp only at h
    split at h
    · cases h
      exact ⟨rfl, rfl, ‹_›⟩
    · cases h

theorem exec_updateStatus_eq_ok {newStatus : CandidateStatus} {reason : Option String}
    {approver : Option Nat}
    (h : (updateStatus candidate newStatus reason approver).exec answer s = (.ok result, t)) :
    result = withStatus newStatus reason approver candidate ∧
      ∀ k, Wrote s.view t.view k (s.view.orderCandidates.modify candidate.id
        (withStatus newStatus reason approver) fun _ => rfl) s.view.virtualOrders [] := by
  obtain ⟨-, rfl, rfl⟩ := OrderCandidateRepository.exec_updateStatus_eq_ok.mp h
  exact ⟨rfl, fun k => wrote_updateOrderCandidate _ _ _ _⟩

theorem exec_append_eq_ok {k : Nat} {row stored : ApprovalAuditLog} (hRow : row.candidateId = k)
    (h : (ApprovalAuditLogRepository.append row).exec answer s = (.ok stored, t)) :
    Wrote s.view t.view k s.view.orderCandidates s.view.virtualOrders [row.eventType] := by
  obtain ⟨-, rfl, rfl⟩ := ApprovalAuditLogRepository.exec_append_eq_ok.mp h
  exact wrote_appendAuditLog s.view hRow

theorem exec_submitPaper_eq_ok {submitted : SubmitResult}
    (h : (submitPaper service candidate).exec answer s = (.ok submitted, t)) :
    SimulationBroker.Submitted service.broker (paperOrder candidate) s.view.virtualAccounts
        s.view.virtualOrders t.view.virtualOrders submitted.order ∧
      t.view = { s.view with virtualOrders := t.view.virtualOrders } := by
  unfold submitPaper at h
  rw [Program.exec_bind, Program.exec_attempt] at h
  cases hSubmit : (service.broker.submitOrder (paperOrder candidate)).exec answer s with
  | mk outcome u =>
    rw [hSubmit] at h
    cases outcome with
    | ok submitted =>
      cases h
      exact SimulationBroker.exec_submitOrder_eq_ok hSubmit
    | error error => cases error <;> cases h

end Parts

def routed (riskResult : RiskCheckResult) (candidate : OrderCandidate) : OrderCandidate :=
  if riskResult.passed then withStatus .pendingApproval none none candidate
  else withStatus .riskRejected (some (formatViolations riskResult)) none candidate

theorem routed_id (riskResult : RiskCheckResult) (candidate : OrderCandidate) :
    (routed riskResult candidate).id = candidate.id := by
  unfold routed
  split <;> rfl

def routedEvents (riskResult : RiskCheckResult) : List AuditEvent :=
  if riskResult.passed then [] else [.riskRejected]

theorem exec_routeByRisk_eq_ok {candidate result : OrderCandidate} {riskResult : RiskCheckResult}
    {actor : ApprovalActor}
    (h : (routeByRisk candidate riskResult actor).exec answer s = (.ok result, t)) :
    Wrote s.view t.view candidate.id (s.view.orderCandidates.modify candidate.id
      (routed riskResult) (routed_id riskResult)) s.view.virtualOrders (routedEvents riskResult) := by
  unfold routeByRisk at h
  unfold routedEvents
  by_cases hPassed : riskResult.passed = true
  · have hRouted : routed riskResult = withStatus .pendingApproval none none :=
      funext fun _ => if_pos hPassed
    rw [if_pos hPassed] at h ⊢
    simp only [hRouted]
    exact (exec_updateStatus_eq_ok h).2 _
  · have hRouted : routed riskResult =
        withStatus .riskRejected (some (formatViolations riskResult)) none :=
      funext fun _ => if_neg hPassed
    rw [if_neg hPassed, Program.exec_bind_eq_ok] at h
    obtain ⟨refused, u, hUpdate, h⟩ := h
    obtain ⟨rfl, hUpdated⟩ := exec_updateStatus_eq_ok hUpdate
    rw [Program.exec_bind_eq_ok] at h
    obtain ⟨row, v, hAppend, h⟩ := h
    cases h
    rw [if_neg hPassed]
    simp only [hRouted]
    exact (hUpdated _).keep (exec_append_eq_ok rfl hAppend)

def decided (riskResult : RiskCheckResult) (candidate : OrderCandidate) : OrderCandidate :=
  routed riskResult (withRiskResult riskResult candidate)

/-- A create that returns, with the row its draft became and the risk engine's word on it. -/
structure Created (service : ApprovalService) (call : CreateCall) (before after : Database)
    (candidate : OrderCandidate) (riskResult : RiskCheckResult) : Prop where
  tradingSafety : service.settings.tradingSafetyEnabled = true
  killSwitch : service.settings.killSwitchEnabled = false
  row : ∃ checked, validate call.upper { call.draft with expiresAt := some call.expiresAt } =
      .ok checked ∧
    candidate = withStatus .riskChecking none none
      (rowOf checked before.orderCandidates.nextKey call.createdAt)
  risk : ∃ seen, riskResult = service.riskEngine seen candidate call.now ∧
    Wrote before seen candidate.id (before.orderCandidates.insert candidate) before.virtualOrders
      [.created]
  wrote : Wrote before after candidate.id
    (before.orderCandidates.insert (decided riskResult candidate)) before.virtualOrders
    ([.created, .riskChecked] ++ routedEvents riskResult)

/-- A create that returns has inserted one row, already on the far side of the risk check. -/
theorem exec_createCandidate_eq_ok {call : CreateCall} {result : CreateCandidateResult}
    (h : (createCandidate service call).exec answer s = (.ok result, t)) :
    ∃ candidate, Created service call s.view t.view candidate result.riskResult := by
  unfold createCandidate at h
  rw [Program.exec_bind_eq_ok] at h
  obtain ⟨_, u, hActive, h⟩ := h
  obtain ⟨rfl, hSafety⟩ := exec_assertWorkflowActive_eq_ok hActive
  by_cases hKill : service.settings.killSwitchEnabled = true
  · rw [if_pos hKill] at h
    cases h
  rw [if_neg hKill, Program.exec_bind_eq_ok] at h
  obtain ⟨drafted, v, hCreate, h⟩ := h
  obtain ⟨checked, hChecked, hDrafted, rfl⟩ := exec_create_eq_ok.mp hCreate
  have hKey : drafted.id = u.view.orderCandidates.nextKey := by
    rw [hDrafted]
    rfl
  rw [Program.exec_bind_eq_ok] at h
  obtain ⟨row, v, hAppendCreated, h⟩ := h
  rw [Program.exec_bind_eq_ok] at h
  obtain ⟨candidate, w, hUpdate, h⟩ := h
  obtain ⟨hCandidate, hUpdated⟩ := exec_updateStatus_eq_ok hUpdate
  rw [evaluateRisk, Program.exec_query_bind, attachRiskResult, Program.exec_bind_eq_ok] at h
  obtain ⟨attached, x, hAttach, h⟩ := h
  cases hAttach
  rw [Program.exec_bind_eq_ok] at h
  obtain ⟨row, x, hAppendChecked, h⟩ := h
  rw [Program.exec_bind_eq_ok] at h
  obtain ⟨routed, y, hRoute, h⟩ := h
  cases h
  have hId : candidate.id = drafted.id := by
    rw [hCandidate]
    rfl
  have hCreated := (wrote_insertOrderCandidate (k := candidate.id) u.view drafted).keep
    (exec_append_eq_ok hId.symm hAppendCreated)
  have hChecking := hCreated.thenInserted hKey (hUpdated candidate.id)
  rw [← hCandidate] at hChecking
  have hAttached := hChecking.thenInserted (hId.trans hKey) (wrote_updateOrderCandidate w.view
    candidate.id (withRiskResult (service.riskEngine w.view candidate call.now)) fun _ => rfl)
  have hEvaluated := hAttached.keep (exec_append_eq_ok rfl hAppendChecked)
  have hRouted := exec_routeByRisk_eq_ok hRoute
  have hDone := hEvaluated.thenInserted (hId.trans hKey) hRouted
  refine ⟨candidate, hSafety, eq_false_of_ne_true hKill, ⟨checked, hChecked, ?_⟩,
    ⟨w.view, rfl, hChecking⟩, hDone⟩
  rw [hCandidate, hDrafted]

def executed (approver : Option Nat) (orderId : Nat) (candidate : OrderCandidate) : OrderCandidate :=
  { candidate with
    status := .executedPaper
    approverUserId := approver.or candidate.approverUserId
    virtualOrderId := some orderId }

structure Approved (service : ApprovalService) (actor : ApprovalActor) (now : Int)
    (before after : Database) (candidate : OrderCandidate) (order : VirtualOrder) : Prop where
  tradingSafety : service.settings.tradingSafetyEnabled = true
  killSwitch : service.settings.killSwitchEnabled = false
  found : before.orderCandidates.find? candidate.id = some candidate
  pending : candidate.status = .pendingApproval
  passed : (service.riskEngine before candidate now).passed = true
  submitted : SimulationBroker.Submitted service.broker (paperOrder candidate)
    before.virtualAccounts before.virtualOrders after.virtualOrders order
  unlinked : candidate.virtualOrderId.all (· == order.id) = true
  wrote : Wrote before after candidate.id
    (before.orderCandidates.modify candidate.id (executed actor.userId order.id) fun _ => rfl)
    after.virtualOrders [.approved, .executedPaper]

theorem exec_executePaper_eq_ok {candidate : OrderCandidate} {riskResult : RiskCheckResult}
    {actor : ApprovalActor} {result : ApproveResult}
    (h : (executePaper service candidate riskResult actor).exec answer s = (.ok result, t)) :
    ∃ order, SimulationBroker.Submitted service.broker (paperOrder candidate)
        s.view.virtualAccounts s.view.virtualOrders t.view.virtualOrders order ∧
      candidate.virtualOrderId.all (· == order.id) = true ∧
      Wrote s.view t.view candidate.id
        (s.view.orderCandidates.modify candidate.id (executed actor.userId order.id) fun _ => rfl)
        t.view.virtualOrders [.approved, .executedPaper] := by
  unfold executePaper at h
  rw [Program.exec_bind_eq_ok] at h
  obtain ⟨approved, u, hApprove, h⟩ := h
  rw [Program.exec_bind_eq_ok] at h
  obtain ⟨row, v, hAppendApproved, h⟩ := h
  rw [Program.exec_bind_eq_ok] at h
  obtain ⟨submitted, w, hSubmit, h⟩ := h
  rw [Program.exec_bind_eq_ok] at h
  obtain ⟨attached, x, hAttach, h⟩ := h
  rw [Program.exec_bind_eq_ok] at h
  obtain ⟨executed, y, hExecute, h⟩ := h
  rw [Program.exec_bind_eq_ok] at h
  obtain ⟨row, z, hAppendExecuted, h⟩ := h
  cases h
  obtain ⟨rfl, hApproved⟩ := exec_updateStatus_eq_ok hApprove
  obtain ⟨hSubmitted, hFrame⟩ := exec_submitPaper_eq_ok hSubmit
  obtain ⟨hFree, rfl, rfl⟩ := exec_attachVirtualOrder_eq_ok.mp hAttach
  obtain ⟨rfl, hExecuted⟩ := exec_updateStatus_eq_ok hExecute
  have hBefore := (hApproved candidate.id).keep (exec_append_eq_ok rfl hAppendApproved)
  have hPlaced := hBefore.thenOrders hFrame
  have hLinked := hPlaced.thenChanged (wrote_updateOrderCandidate w.view candidate.id
    (withVirtualOrder submitted.order.id) fun _ => rfl)
  have hDone := (hLinked.thenChanged (hExecuted candidate.id)).keep
    (exec_append_eq_ok rfl hAppendExecuted)
  rw [hBefore.orders, hBefore.virtualAccounts, ← hDone.orders] at hSubmitted
  rw [← hDone.orders] at hDone
  exact ⟨submitted.order, hSubmitted, hFree, hDone⟩

/-- An approve that returns found its candidate pending, and the risk engine passed it again. -/
theorem exec_approve_eq_ok {candidateId : Nat} {actor : ApprovalActor} {now : Int}
    {result : ApproveResult}
    (h : (approve service candidateId actor now).exec answer s = (.ok result, t)) :
    ∃ candidate order, candidate.id = candidateId ∧
      Approved service actor now s.view t.view candidate order := by
  unfold approve at h
  rw [Program.exec_bind_eq_ok] at h
  obtain ⟨_, u, hActive, h⟩ := h
  obtain ⟨rfl, hSafety⟩ := exec_assertWorkflowActive_eq_ok hActive
  rw [Program.exec_bind_eq_ok] at h
  obtain ⟨candidate, v, hLoad, h⟩ := h
  obtain ⟨rfl, hFound, hPending⟩ := exec_loadPending_eq_ok hLoad
  rw [Program.exec_bind_eq_ok] at h
  obtain ⟨_, w, hOff, h⟩ := h
  obtain ⟨rfl, hKill⟩ := exec_assertKillSwitchOff_eq_ok hOff
  rw [evaluateRisk, Program.exec_query_bind] at h
  split at h
  · rename_i hPassed
    obtain ⟨order, hSubmitted, hFree, hWrote⟩ := exec_executePaper_eq_ok h
    have hId : candidate.id = candidateId := Table.key_of_find? hFound
    exact ⟨candidate, order, hId, hSafety, hKill, hId ▸ hFound, hPending, hPassed, hSubmitted, hFree,
      hWrote⟩
  · unfold denyByRisk at h
    rw [Program.exec_bind_eq_ok] at h
    obtain ⟨_, x, -, h⟩ := h
    rw [Program.exec_bind_eq_ok] at h
    obtain ⟨_, y, -, h⟩ := h
    rw [Program.exec_bind_eq_ok] at h
    obtain ⟨_, z, -, h⟩ := h
    cases h

structure Rejected (service : ApprovalService) (actor : ApprovalActor) (reason : String)
    (before after : Database) (candidate : OrderCandidate) : Prop where
  tradingSafety : service.settings.tradingSafetyEnabled = true
  killSwitch : service.settings.killSwitchEnabled = false
  found : before.orderCandidates.find? candidate.id = some candidate
  pending : candidate.status = .pendingApproval
  wrote : Wrote before after candidate.id
    (before.orderCandidates.modify candidate.id (withStatus .rejected (cutRejectionReason reason)
      (some (actor.userId.getD 0))) fun _ => rfl) before.virtualOrders [.rejected]

theorem exec_reject_eq_ok {candidateId : Nat} {actor : ApprovalActor} {reason : String}
    {result : OrderCandidate}
    (h : (reject service candidateId actor reason).exec answer s = (.ok result, t)) :
    ∃ candidate, candidate.id = candidateId ∧
      Rejected service actor reason s.view t.view candidate := by
  unfold reject at h
  rw [Program.exec_bind_eq_ok] at h
  obtain ⟨_, u, hActive, h⟩ := h
  obtain ⟨rfl, hSafety⟩ := exec_assertWorkflowActive_eq_ok hActive
  rw [Program.exec_bind_eq_ok] at h
  obtain ⟨candidate, v, hLoad, h⟩ := h
  obtain ⟨rfl, hFound, hPending⟩ := exec_loadPending_eq_ok hLoad
  rw [Program.exec_bind_eq_ok] at h
  obtain ⟨_, w, hOff, h⟩ := h
  obtain ⟨rfl, hKill⟩ := exec_assertKillSwitchOff_eq_ok hOff
  rw [Program.exec_bind_eq_ok] at h
  obtain ⟨rejected, x, hReject, h⟩ := h
  obtain ⟨rfl, hRejected⟩ := exec_updateStatus_eq_ok hReject
  rw [Program.exec_bind_eq_ok] at h
  obtain ⟨row, y, hAppend, h⟩ := h
  cases h
  have hId : candidate.id = candidateId := Table.key_of_find? hFound
  exact ⟨candidate, hId, hSafety, hKill, hId ▸ hFound, hPending,
    (hRejected candidate.id).keep (exec_append_eq_ok rfl hAppend)⟩

structure Expired (before after : Database) (candidate : OrderCandidate) : Prop where
  found : before.orderCandidates.find? candidate.id = some candidate
  pending : candidate.status = .pendingApproval
  wrote : Wrote before after candidate.id
    (before.orderCandidates.modify candidate.id (withStatus .expired (some "ttl_expired") none)
      fun _ => rfl) before.virtualOrders [.expired]

theorem pending_of_expired_mem {status : CandidateStatus}
    (h : CandidateStatus.expired ∈ status.allowedTransitions) : status = .pendingApproval := by
  cases status <;> simp [CandidateStatus.allowedTransitions] at h ⊢

theorem exec_expireLoaded_eq_ok {candidate result : OrderCandidate} {actor : ApprovalActor}
    (h : (expireLoaded candidate actor).exec answer s = (.ok result, t)) :
    candidate.status = .pendingApproval ∧
      Wrote s.view t.view candidate.id (s.view.orderCandidates.modify candidate.id
        (withStatus .expired (some "ttl_expired") none) fun _ => rfl) s.view.virtualOrders
        [.expired] := by
  unfold expireLoaded at h
  rw [Program.exec_bind, Program.exec_attempt] at h
  cases hExpire : (OrderCandidateRepository.expire candidate).exec answer s with
  | mk outcome u =>
    rw [hExpire] at h
    cases outcome with
    | ok expired =>
      obtain ⟨hAllowed, rfl, rfl⟩ := OrderCandidateRepository.exec_updateStatus_eq_ok.mp hExpire
      simp only at h
      rw [Program.exec_bind_eq_ok] at h
      obtain ⟨row, v, hAppend, h⟩ := h
      cases h
      refine ⟨pending_of_expired_mem hAllowed, ?_⟩
      exact (wrote_updateOrderCandidate s.view candidate.id _ _).keep (exec_append_eq_ok rfl hAppend)
    | error error => cases error <;> cases h

theorem exec_expire_eq_ok {candidateId : Nat} {actor : ApprovalActor} {result : OrderCandidate}
    (h : (expire candidateId actor).exec answer s = (.ok result, t)) :
    ∃ candidate, candidate.id = candidateId ∧ Expired s.view t.view candidate := by
  rw [expire, getById, Program.exec_query_bind] at h
  cases hFound : s.view.orderCandidates.find? candidateId with
  | none =>
    rw [hFound] at h
    cases h
  | some candidate =>
    rw [hFound] at h
    obtain ⟨hPending, hWrote⟩ := exec_expireLoaded_eq_ok h
    have hId : candidate.id = candidateId := Table.key_of_find? hFound
    exact ⟨candidate, hId, hId ▸ hFound, hPending, hWrote⟩

section CommitFree

variable (service)

theorem commitFree_evaluateRisk (candidate : OrderCandidate) (now : Int) :
    (evaluateRisk service candidate now).CommitFree := Program.commitFree_query _ _

theorem commitFree_assertWorkflowActive : (assertWorkflowActive service).CommitFree := by
  unfold assertWorkflowActive
  split <;> trivial

theorem commitFree_assertKillSwitchOff (candidateId : Nat) (actor : ApprovalActor) :
    (assertKillSwitchOff service candidateId actor).CommitFree := by
  unfold assertKillSwitchOff
  split
  · exact (ApprovalAuditLogRepository.commitFree_append _).bind fun _ => trivial
  · trivial

theorem commitFree_loadPending (candidateId : Nat) (participle : String) :
    (loadPending candidateId participle).CommitFree := by
  refine (Program.commitFree_query _ _).bind fun found => ?_
  cases found with
  | none => trivial
  | some candidate =>
    simp only
    split <;> trivial

theorem commitFree_attachRiskResult (candidate : OrderCandidate) (riskResult : RiskCheckResult) :
    (attachRiskResult candidate riskResult).CommitFree :=
  (Program.commitFree_modify _).bind fun _ => trivial

theorem commitFree_routeByRisk (candidate : OrderCandidate) (riskResult : RiskCheckResult)
    (actor : ApprovalActor) : (routeByRisk candidate riskResult actor).CommitFree := by
  unfold routeByRisk
  refine Program.CommitFree.ite (commitFree_updateStatus _ _ _) ?_
  exact (commitFree_updateStatus _ _ _).bind fun _ =>
    (ApprovalAuditLogRepository.commitFree_append _).bind fun _ => trivial

theorem commitFree_createCandidate (call : CreateCall) :
    (createCandidate service call).CommitFree := by
  unfold createCandidate
  refine (commitFree_assertWorkflowActive service).bind fun _ => Program.CommitFree.ite trivial ?_
  refine (commitFree_create _ _ _).bind fun candidate => ?_
  refine (ApprovalAuditLogRepository.commitFree_append _).bind fun _ => ?_
  refine (commitFree_updateStatus _ _ _).bind fun candidate => ?_
  refine (commitFree_evaluateRisk service _ _).bind fun riskResult => ?_
  refine (commitFree_attachRiskResult _ _).bind fun candidate => ?_
  refine (ApprovalAuditLogRepository.commitFree_append _).bind fun _ => ?_
  exact (commitFree_routeByRisk _ _ _).bind fun _ => trivial

theorem commitFree_submitPaper (candidate : OrderCandidate) :
    (submitPaper service candidate).CommitFree := by
  refine (SimulationBroker.commitFree_submitOrder _ _).attempt.bind fun outcome => ?_
  cases outcome with
  | ok result => trivial
  | error error => cases error <;> trivial

theorem commitFree_executePaper (candidate : OrderCandidate) (riskResult : RiskCheckResult)
    (actor : ApprovalActor) : (executePaper service candidate riskResult actor).CommitFree := by
  unfold executePaper
  refine (commitFree_updateStatus _ _ _).bind fun candidate => ?_
  refine (ApprovalAuditLogRepository.commitFree_append _).bind fun _ => ?_
  refine (commitFree_submitPaper service _).bind fun submitted => ?_
  refine (commitFree_attachVirtualOrder _).bind fun candidate => ?_
  refine (commitFree_updateStatus _ _ _).bind fun candidate => ?_
  exact (ApprovalAuditLogRepository.commitFree_append _).bind fun _ => trivial

theorem commitFree_denyByRisk (candidate : OrderCandidate) (riskResult : RiskCheckResult)
    (actor : ApprovalActor) : (denyByRisk candidate riskResult actor).CommitFree := by
  unfold denyByRisk
  refine (commitFree_attachRiskResult _ _).bind fun candidate => ?_
  refine (commitFree_updateStatus _ _ _).bind fun candidate => ?_
  exact (ApprovalAuditLogRepository.commitFree_append _).bind fun _ => trivial

theorem commitFree_approve (candidateId : Nat) (actor : ApprovalActor) (now : Int) :
    (approve service candidateId actor now).CommitFree := by
  unfold approve
  refine (commitFree_assertWorkflowActive service).bind fun _ => ?_
  refine (commitFree_loadPending _ _).bind fun candidate => ?_
  refine (commitFree_assertKillSwitchOff service _ _).bind fun _ => ?_
  refine (commitFree_evaluateRisk service _ _).bind fun riskResult => ?_
  exact Program.CommitFree.ite (commitFree_executePaper service _ _ _) (commitFree_denyByRisk _ _ _)

theorem commitFree_reject (candidateId : Nat) (actor : ApprovalActor) (reason : String) :
    (reject service candidateId actor reason).CommitFree := by
  unfold reject
  refine (commitFree_assertWorkflowActive service).bind fun _ => ?_
  refine (commitFree_loadPending _ _).bind fun candidate => ?_
  refine (commitFree_assertKillSwitchOff service _ _).bind fun _ => ?_
  refine (commitFree_updateStatus _ _ _).bind fun candidate => ?_
  exact (ApprovalAuditLogRepository.commitFree_append _).bind fun _ => trivial

theorem commitFree_expireLoaded (candidate : OrderCandidate) (actor : ApprovalActor) :
    (expireLoaded candidate actor).CommitFree := by
  refine (commitFree_updateStatus _ _ _).attempt.bind fun outcome => ?_
  cases outcome with
  | ok expired => exact (ApprovalAuditLogRepository.commitFree_append _).bind fun _ => trivial
  | error error => cases error <;> trivial

theorem commitFree_expire (candidateId : Nat) (actor : ApprovalActor) :
    (expire candidateId actor).CommitFree := by
  refine (Program.commitFree_query _ _).bind fun found => ?_
  cases found with
  | none => trivial
  | some candidate => exact commitFree_expireLoaded candidate actor

end CommitFree

end ApprovalService

end StockAiPlatform
