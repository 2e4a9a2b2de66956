import StockAiPlatform.Api.ApprovalRoutes

/-! # Denied approvals

The service writes a refusal down and then raises it. The route answers with
the status code of the exception, so the session is closed before a commit
and the store never learns of the refusal.
-/

namespace StockAiPlatform
set_option autoImplicit false

open Transaction Python ApprovalService OrderCandidateRepository

/-- The two reasons for which an approve of a pending candidate is denied. -/
inductive Denial where
  | riskRecheck | killSwitch
  deriving DecidableEq, Repr

namespace Denial

structure Applies (denial : Denial) (settings : Settings) (db : Database) (candidate : OrderCandidate)
    (now : Int) : Prop where
  found : db.orderCandidates.find? candidate.id = some candidate
  pending : candidate.status = .pendingApproval
  tradingSafety : settings.tradingSafetyEnabled = true
  cause : match denial with
    | riskRecheck => settings.killSwitchEnabled = false ∧
        (PreTradeRiskEngine.evaluate settings db candidate now).passed = false
    | killSwitch => settings.killSwitchEnabled = true

/-- What the service writes on the denial is in the committed store. -/
def Durable (denial : Denial) (before after : Database) (candidateId : Nat) : Prop :=
  match denial with
  | riskRecheck => after.statusOf candidateId = some .rejected ∧
      eventsOf after.approvalAuditLogs candidateId =
        eventsOf before.approvalAuditLogs candidateId ++ [.riskRejected] ∧
      ∀ (settings : Settings) (caller : Caller) (now : Int),
        ((ApprovalRequest.approve candidateId caller now).step settings after).statusOf candidateId ≠
          some .executedPaper
  | killSwitch => eventsOf after.approvalAuditLogs candidateId =
      eventsOf before.approvalAuditLogs candidateId ++ [.killSwitchBlocked]

end Denial

theorem tooLong_hashForAudit (value : Option String) :
    ApprovalAuditLogRepository.tooLong (hashForAudit value) = false := by
  cases value with
  | none => rfl
  | some text =>
    rw [hashForAudit, Option.bind_some]
    simp only
    split
    · rfl
    · simp [ApprovalAuditLogRepository.tooLong, length_sha256Hexdigest]

section Service

variable {service : ApprovalService} {candidate : OrderCandidate} {answer : Answer} {s : DbSession}

theorem exec_loadPending_of_pending (hFound : s.view.orderCandidates.find? candidate.id = some candidate)
    (hPending : candidate.status = .pendingApproval) (participle : String) :
    (loadPending candidate.id participle).exec answer s = (.ok candidate, s) := by
  rw [loadPending, getById, Program.exec_query_bind, hFound]
  simp only [hPending, if_true]
  rfl

def denied (riskResult : RiskCheckResult) (approver : Option Nat) (candidate : OrderCandidate) :
    OrderCandidate :=
  withStatus .rejected (some (formatViolations riskResult)) approver
    (withRiskResult riskResult candidate)

theorem denied_id (riskResult : RiskCheckResult) (approver : Option Nat) (candidate : OrderCandidate) :
    (denied riskResult approver candidate).id = candidate.id := rfl

theorem exec_denyByRisk (answer : Answer) (s : DbSession)
    (hPending : candidate.status = .pendingApproval)
    (riskResult : RiskCheckResult) (caller : Caller) :
    ∃ t : DbSession, (denyByRisk candidate riskResult (ApprovalRoutes.buildActor caller)).exec answer s =
        (.error (.approvalDenied "risk re-check failed at approval time"
          (.violationRuleIds riskResult.ruleIds)), t) ∧
      Wrote s.view t.view candidate.id (s.view.orderCandidates.modify candidate.id
        (denied riskResult (some caller.userId)) (denied_id _ _)) s.view.virtualOrders [.riskRejected] := by
  let actor := ApprovalRoutes.buildActor caller
  let reason := some (formatViolations riskResult)
  let refused := withStatus .rejected reason actor.userId (withRiskResult riskResult candidate)
  let row := auditRow actor refused.id .riskRejected reason
    (some [("policy_version", .str riskResult.policyVersion),
      ("violation_rule_ids", ruleIdsJson riskResult), ("phase", .str "approve_recheck")])
  let attached := s.write fun db =>
    db.updateOrderCandidate candidate.id (withRiskResult riskResult) fun _ => rfl
  let updated := attached.write fun db =>
    db.updateOrderCandidate candidate.id (withStatus .rejected reason actor.userId) fun _ => rfl
  let stored := ApprovalAuditLogRepository.stored row
  have hAllowed : CandidateStatus.rejected ∈
      (withRiskResult riskResult candidate).status.allowedTransitions := by
    rw [withRiskResult, hPending]
    simp [CandidateStatus.allowedTransitions]
  have hUpdate : (updateStatus (withRiskResult riskResult candidate) .rejected reason
      actor.userId).exec answer attached = (.ok refused, updated) :=
    OrderCandidateRepository.exec_updateStatus_eq_ok.mpr ⟨hAllowed, rfl, rfl⟩
  have hAdmissible : ApprovalAuditLogRepository.Admissible row := by
    refine ⟨?_, tooLong_hashForAudit _, tooLong_hashForAudit _⟩
    apply ApprovalAuditLogRepository.leakedKeys_eq_nil
    simp [forbiddenDetailsKeys]
  have hAppend := ApprovalAuditLogRepository.exec_append_of_admissible hAdmissible answer updated
  refine ⟨updated.write fun db => db.appendAuditLog stored, ?_, ?_⟩
  · rw [denyByRisk, attachRiskResult, Program.exec_bind_ok answer s (t := attached) rfl,
      Program.exec_bind_ok answer attached hUpdate, Program.exec_bind_ok answer updated hAppend]
    rfl
  · have hAttached := wrote_updateOrderCandidate (k := candidate.id) s.view candidate.id
      (withRiskResult riskResult) fun _ => rfl
    have hUpdated := hAttached.thenChanged (wrote_updateOrderCandidate attached.view candidate.id
      (withStatus .rejected reason actor.userId) fun _ => rfl)
    exact hUpdated.keep (exec_append_eq_ok rfl hAppend)

/-- The service raises the denial with the refusal written in its session. -/
theorem exec_approve_of_failedRecheck (service : ApprovalService) (answer : Answer) (s : DbSession)
    (caller : Caller) {now : Int}
    (hFound : s.view.orderCandidates.find? candidate.id = some candidate)
    (hPending : candidate.status = .pendingApproval)
    (hSafety : service.settings.tradingSafetyEnabled = true)
    (hKill : service.settings.killSwitchEnabled = false)
    (hFailed : (service.riskEngine s.view candidate now).passed = false) :
    ∃ t : DbSession, (approve service candidate.id (ApprovalRoutes.buildActor caller) now).exec answer s =
        (.error (.approvalDenied "risk re-check failed at approval time"
          (.violationRuleIds (service.riskEngine s.view candidate now).ruleIds)), t) ∧
      t.view.statusOf candidate.id = some .rejected ∧
      eventsOf t.view.approvalAuditLogs candidate.id =
        eventsOf s.view.approvalAuditLogs candidate.id ++ [.riskRejected] := by
  obtain ⟨t, hDeny, hWrote⟩ := exec_denyByRisk answer s hPending
    (service.riskEngine s.view candidate now) caller
  refine ⟨t, ?_, ?_, ?_⟩
  · have hActive : (assertWorkflowActive service).exec answer s = (.ok (), s) := by
      rw [assertWorkflowActive, if_pos hSafety]
      rfl
    have hOff : (assertKillSwitchOff service candidate.id (ApprovalRoutes.buildActor caller)).exec
        answer s = (.ok (), s) := by
      rw [assertKillSwitchOff, hKill]
      rfl
    rw [approve, Program.exec_bind_ok answer s hActive, Program.exec_bind_ok answer s
      (exec_loadPending_of_pending hFound hPending _), Program.exec_bind_ok answer s hOff,
      evaluateRisk, Program.exec_query_bind, hFailed]
    exact hDeny
  · exact ApprovalCall.statusOf_modify_self hFound hWrote.candidates
  · rw [eventsOf_logged hWrote.logged, if_pos rfl]

end Service

namespace Denial

open ApprovalRoutes

/-- Each denial the route answers with an HTTP error and an unchanged store, so it is never
durable. -/
theorem not_durable {denial : Denial} {settings : Settings} {db : Database}
    {candidate : OrderCandidate} {now : Int} (h : denial.Applies settings db candidate now)
    (caller : Caller) :
    (∃ statusCode detail, ((approveCandidate settings candidate.id caller now).exec unasked
        (.opened db)).1 = .error (.http statusCode detail)) ∧
      (ApprovalRequest.approve candidate.id caller now).step settings db = db ∧
      ¬ denial.Durable db ((ApprovalRequest.approve candidate.id caller now).step settings db)
        candidate.id := by
  have hGate : (requireTradingSafetyEnabled settings).exec unasked (.opened db) =
      (.ok (), .opened db) := by
    rw [exec_requireTradingSafetyEnabled, if_pos h.tradingSafety]
  cases denial with
  | killSwitch =>
    obtain ⟨detail, hKill⟩ : ∃ detail, (requireKillSwitchOff settings).exec unasked (.opened db) =
        (.error (.http 503 detail), .opened db) := by
      rw [exec_requireKillSwitchOff, if_pos h.cause]
      exact ⟨_, rfl⟩
    have hSame : (ApprovalRequest.approve candidate.id caller now).step settings db = db :=
      (Program.served_bind_of_ok hGate _).trans (Program.served_bind_of_error hKill _)
    refine ⟨⟨503, detail, ?_⟩, hSame, ?_⟩
    · rw [approveCandidate, Program.exec_bind_ok _ _ hGate, Program.exec_bind_error _ _ hKill]
    · rw [hSame]
      simp [Durable]
  | riskRecheck =>
    obtain ⟨hOff, hFailed⟩ := h.cause
    have hKill : (requireKillSwitchOff settings).exec unasked (.opened db) = (.ok (), .opened db) := by
      rw [exec_requireKillSwitchOff, hOff]
      rfl
    obtain ⟨t, hDenied, -, -⟩ := exec_approve_of_failedRecheck (.ofSettings settings) unasked
      (.opened db) caller h.found h.pending h.tradingSafety hOff hFailed
    have hSame : (ApprovalRequest.approve candidate.id caller now).step settings db = db := by
      refine (Program.served_bind_of_ok hGate _).trans ((Program.served_bind_of_ok hKill _).trans ?_)
      rw [served_committing (commitFree_approve _ _ _ _)]
      exact Program.atomically_of_error hDenied
    refine ⟨⟨409, "risk re-check failed at approval time", ?_⟩, hSame, ?_⟩
    · rw [approveCandidate, Program.exec_bind_ok _ _ hGate, Program.exec_bind_ok _ _ hKill, committing,
        Program.exec_bind, Program.exec_attempt, hDenied]
      rfl
    · rw [hSame, Durable, Database.statusOf, h.found, Option.map_some, h.pending]
      simp

def loweredSettings : Settings :=
  { paperSettings with
    maxOrderAmount := 50000
    maxOrderAmount_pos := by decide }

theorem riskRecheck_applies : riskRecheck.Applies loweredSettings pendingDatabase pendingCandidate 0 where
  found := rfl
  pending := rfl
  tradingSafety := rfl
  cause := by decide +kernel

theorem not_durable_loweredSettings :
    (∃ statusCode detail, ((approveCandidate loweredSettings 1 { userId := 1 } 0).exec unasked
        (.opened pendingDatabase)).1 = .error (.http statusCode detail)) ∧
      (ApprovalRequest.approve 1 { userId := 1 } 0).step loweredSettings pendingDatabase =
        pendingDatabase ∧
      ¬ riskRecheck.Durable pendingDatabase
        ((ApprovalRequest.approve 1 { userId := 1 } 0).step loweredSettings pendingDatabase) 1 :=
  not_durable riskRecheck_applies { userId := 1 }

/-- After the denial the candidate is still pending, and the next approve executes it. -/
theorem riskRecheck_lost :
    let after := (ApprovalRequest.approve 1 { userId := 1 } 0).step loweredSettings pendingDatabase
    riskRecheck.Applies loweredSettings pendingDatabase pendingCandidate 0 ∧
      ((ApprovalRequest.approve 1 { userId := 1 } 0).step paperSettings after).statusOf 1 =
        some .executedPaper ∧
      ¬ riskRecheck.Durable pendingDatabase after 1 := by
  refine ⟨riskRecheck_applies, by decide +kernel, ?_⟩
  rintro ⟨hRejected, -, -⟩
  revert hRejected
  decide +kernel

end Denial

end StockAiPlatform
