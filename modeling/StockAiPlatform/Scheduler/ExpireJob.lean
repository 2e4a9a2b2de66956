import StockAiPlatform.Api.ApprovalRoutes

/-! # The expiry job

`expire_pending_approvals` moves what is overdue to EXPIRED, two hundred
candidates a run. Approvals never look at the deadline, so a candidate is
safe from a late approve only once the job has been there.
-/

namespace StockAiPlatform
set_option autoImplicit false

open Transaction

inductive JobStatus where
  | success | partially | failed
  deriving DecidableEq, Repr

/-- One entry of `failures`: the exception, of which the summary shows type and text. -/
structure JobFailure where
  candidateId : Nat
  error : PyError
  deriving DecidableEq, Repr

/-- The status, the summary and the error message of the job's result. -/
structure ExpireResult where
  status : JobStatus
  dataStatus : String
  reason : Option String
  expiredCount : Nat
  failures : List JobFailure
  errorMessage : Option String
  deriving DecidableEq, Repr

namespace ExpireJob

open ApprovalService OrderCandidateRepository

def skipped (reason : String) : ExpireResult := ⟨.success, "SKIPPED", some reason, 0, [], none⟩

def finished (expired : Nat) (failures : List JobFailure) : ExpireResult where
  status := if failures = [] then .success else if expired = 0 then .failed else .partially
  dataStatus := if failures = [] then "SUCCESS" else "PARTIAL"
  reason := none
  expiredCount := expired
  failures := failures
  errorMessage := if failures = [] then none else some s!"{failures.length} expirations failed"

/-- The loop over the loaded rows; the session has them by id, so `expire` reads nothing again. -/
def expireEach : List OrderCandidate → App (Nat × List JobFailure)
  | [] => pure (0, [])
  | candidate :: rest => do
    let outcome ← (expireLoaded candidate {}).attempt
    let (expired, failures) ← expireEach rest
    match outcome with
    | .ok _ => pure (expired + 1, failures)
    | .error error => pure (expired, ⟨candidate.id, error⟩ :: failures)

def expirePendingApprovals (settings : Settings) (now : Int) : App ExpireResult := do
  if !settings.tradingSafetyEnabled then pure (skipped "trading_safety_disabled")
  else if settings.killSwitchEnabled then pure (skipped "kill_switch_enabled")
  else
    let expiredTargets ← listExpiredPending now
    if expiredTargets = [] then pure ⟨.success, "SUCCESS", some "nothing_expired", 0, [], none⟩
    else
      let (expired, failures) ← expireEach expiredTargets
      pure (finished expired failures)

end ExpireJob

structure ExpireJob where
  settings : Settings
  now : Int

namespace ExpireJob

open ApprovalService OrderCandidateRepository

/-- `run_job`: the session is committed if the function returns and rolled back if it raises. -/
def step (job : ExpireJob) (db : Database) : Database :=
  (expirePendingApprovals job.settings job.now).atomically unasked db

def gatesOpen (job : ExpireJob) : Bool :=
  job.settings.tradingSafetyEnabled && !job.settings.killSwitchEnabled

theorem exec_expireLoaded {candidate : OrderCandidate} (hPending : candidate.status = .pendingApproval)
    (answer : Answer) (s : DbSession) :
    ∃ result t, (expireLoaded candidate {}).exec answer s = (.ok result, t) := by
  let expired := withStatus .expired (some "ttl_expired") none candidate
  let row := auditRow {} expired.id .expired (some "ttl_expired") none
  let updated := s.write fun db => db.updateOrderCandidate candidate.id
    (withStatus .expired (some "ttl_expired") none) fun _ => rfl
  have hAllowed : CandidateStatus.expired ∈ candidate.status.allowedTransitions := by
    rw [hPending]
    simp [CandidateStatus.allowedTransitions]
  have hExpire : (OrderCandidateRepository.expire candidate).exec answer s = (.ok expired, updated) :=
    OrderCandidateRepository.exec_updateStatus_eq_ok.mpr ⟨hAllowed, rfl, rfl⟩
  have hAdmissible : ApprovalAuditLogRepository.Admissible row := ⟨rfl, rfl, rfl⟩
  have hAppend := ApprovalAuditLogRepository.exec_append_of_admissible hAdmissible answer updated
  refine ⟨expired, updated.write fun db =>
    db.appendAuditLog (ApprovalAuditLogRepository.stored row), ?_⟩
  rw [expireLoaded, Program.exec_bind, Program.exec_attempt, hExpire]
  simp only
  rw [Program.exec_bind_ok answer updated hAppend]
  rfl

def expired (candidate : OrderCandidate) : OrderCandidate :=
  withStatus .expired (some "ttl_expired") none candidate

theorem find?_expired {before after : Database} {j : Nat} {change : OrderCandidate → OrderCandidate}
    {hId : ∀ candidate, (change candidate).id = candidate.id}
    (hAfter : after.orderCandidates = before.orderCandidates.modify j change hId)
    (hExpired : change = expired) (k : Nat) :
    after.orderCandidates.find? k = if k = j then (before.orderCandidates.find? k).map expired
      else before.orderCandidates.find? k := by
  rw [hAfter, Table.find?_modify, ← hExpired]
  split
  · rfl
  · exact Option.map_id'

/-- Every loaded row is pending for the session, so none of the expiries fails. -/
theorem exec_expireEach {candidates : List OrderCandidate}
    (hPending : ∀ candidate ∈ candidates, candidate.status = .pendingApproval) (answer : Answer)
    (s : DbSession) :
    ∃ t, (expireEach candidates).exec answer s = (.ok (candidates.length, []), t) ∧
      t.view.virtualOrders = s.view.virtualOrders ∧
      ∀ k, t.view.orderCandidates.find? k = if k ∈ candidates.map OrderCandidate.id then
        (s.view.orderCandidates.find? k).map expired else s.view.orderCandidates.find? k := by
  induction candidates generalizing s with
  | nil => exact ⟨s, rfl, rfl, fun k => by simp⟩
  | cons candidate rest ih =>
    rw [List.forall_mem_cons] at hPending
    obtain ⟨result, u, hFirst⟩ := exec_expireLoaded hPending.1 answer s
    obtain ⟨t, hRest, hOrders, hRows⟩ := ih hPending.2 u
    obtain ⟨-, hWrote⟩ := exec_expireLoaded_eq_ok hFirst
    refine ⟨t, ?_, hOrders.trans hWrote.orders, ?_⟩
    · rw [expireEach, Program.exec_bind, Program.exec_attempt, hFirst]
      simp only
      rw [Program.exec_bind_ok answer u hRest]
      rfl
    · intro k
      rw [hRows, find?_expired hWrote.candidates rfl]
      simp only [List.map_cons, List.mem_cons]
      by_cases hOwn : k = candidate.id
      · simp only [hOwn, true_or, if_true, Option.map_map]
        split
        · rfl
        · rfl
      · simp only [hOwn, false_or, if_false]

theorem step_closed {job : ExpireJob} (db : Database) (h : job.gatesOpen = false) : job.step db = db := by
  have hSkipped : ∃ result, (expirePendingApprovals job.settings job.now).exec unasked (.opened db) =
      (.ok result, .opened db) := by
    unfold expirePendingApprovals
    cases hSafety : job.settings.tradingSafetyEnabled with
    | false => exact ⟨_, rfl⟩
    | true =>
      cases hKill : job.settings.killSwitchEnabled with
      | true => exact ⟨_, rfl⟩
      | false => simp [gatesOpen, hSafety, hKill] at h
  obtain ⟨result, hExec⟩ := hSkipped
  exact Program.atomically_of_ok hExec

theorem commitFree_expireEach (candidates : List OrderCandidate) :
    (expireEach candidates).CommitFree := by
  induction candidates with
  | nil => trivial
  | cons candidate rest ih =>
    refine (ApprovalService.commitFree_expireLoaded _ _).attempt.bind fun outcome => ?_
    refine ih.bind fun counts => ?_
    cases outcome with
    | ok result => trivial
    | error error => trivial

theorem commitFree_expirePendingApprovals (settings : Settings) (now : Int) :
    (expirePendingApprovals settings now).CommitFree := by
  unfold expirePendingApprovals
  refine Program.CommitFree.ite trivial (Program.CommitFree.ite trivial ?_)
  refine (Program.commitFree_query _ _).bind fun targets => Program.CommitFree.ite trivial ?_
  exact (commitFree_expireEach targets).bind fun _ => trivial

def targets (job : ExpireJob) (db : Database) : List OrderCandidate :=
  (expiredPending job.now db).take 200

theorem mem_expiredPending {now : Int} {db : Database} {candidate : OrderCandidate} :
    candidate ∈ expiredPending now db ↔ candidate ∈ db.orderCandidates.rows ∧
      candidate.status = .pendingApproval ∧ ∃ deadline, candidate.expiresAt = some deadline ∧
        deadline ≤ now := by
  rw [expiredPending, List.mem_insertionSort, List.mem_filter]
  simp [Option.any_eq_true]

theorem step_open {job : ExpireJob} (db : Database) (h : job.gatesOpen = true) :
    (job.step db).virtualOrders = db.virtualOrders ∧
      ∀ k, (job.step db).orderCandidates.find? k =
        if k ∈ (job.targets db).map OrderCandidate.id then (db.orderCandidates.find? k).map expired
        else db.orderCandidates.find? k := by
  obtain ⟨hSafety, hKill⟩ := Bool.and_eq_true_iff.mp h
  rw [Bool.not_eq_true'] at hKill
  have hPending : ∀ candidate ∈ job.targets db, candidate.status = .pendingApproval :=
    fun candidate hMem => (mem_expiredPending.mp (List.mem_of_mem_take hMem)).2.1
  obtain ⟨t, hEach, hOrders, hRows⟩ := exec_expireEach hPending unasked (.opened db)
  have hTargets : (expiredPending job.now (Session.opened db : DbSession).view).take 200 =
      job.targets db := rfl
  have hExec : ∃ result u, (expirePendingApprovals job.settings job.now).exec unasked (.opened db) =
      (.ok result, u) ∧ u.view = if job.targets db = [] then db else t.view := by
    rw [expirePendingApprovals, hSafety, hKill]
    simp only [Bool.not_true, Bool.false_eq_true, if_false]
    rw [listExpiredPending, Program.exec_query_bind, hTargets]
    by_cases hNone : job.targets db = []
    · rw [if_pos hNone, if_pos hNone]
      exact ⟨_, _, rfl, rfl⟩
    · rw [if_neg hNone, if_neg hNone, Program.exec_bind_ok unasked _ hEach]
      exact ⟨_, _, rfl, rfl⟩
  obtain ⟨result, u, hRun, hView⟩ := hExec
  rw [step, Program.atomically_of_ok hRun, hView]
  by_cases hNone : job.targets db = []
  · rw [if_pos hNone, hNone]
    exact ⟨rfl, fun k => rfl⟩
  · rw [if_neg hNone]
    exact ⟨hOrders, hRows⟩

theorem find?_step_of_settled {job : ExpireJob} {db : Database} {candidate : OrderCandidate}
    (hFound : db.orderCandidates.find? candidate.id = some candidate)
    (hSettled : candidate.status ≠ .pendingApproval) :
    (job.step db).orderCandidates.find? candidate.id = some candidate := by
  cases hGates : job.gatesOpen with
  | false =>
    rw [step_closed db hGates]
    exact hFound
  | true =>
    obtain ⟨-, hRows⟩ := step_open db hGates
    rw [hRows, if_neg]
    · exact hFound
    · intro hTarget
      obtain ⟨target, hMem, hId⟩ := List.mem_map.mp hTarget
      obtain ⟨hRow, hPending, -⟩ := mem_expiredPending.mp (List.mem_of_mem_take hMem)
      have hSame := (Table.find?_eq_some_iff _ _ _).mpr ⟨hRow, hId⟩
      obtain rfl := Option.some.inj (hFound.symm.trans hSame)
      exact hSettled hPending

def overdue (now : Int) (candidate : OrderCandidate) : Bool :=
  candidate.status == .pendingApproval && candidate.expiresAt.any fun deadline => deadline ≤ now

/-- An overdue candidate is taken on if it is among the first two hundred by id. -/
theorem mem_targets {job : ExpireJob} {db : Database} {candidate : OrderCandidate}
    (hMem : candidate ∈ db.orderCandidates.rows) (hOverdue : overdue job.now candidate = true)
    (hAhead : (db.orderCandidates.rows.filter fun other =>
      overdue job.now other && other.id ≤ candidate.id).length ≤ 200) :
    candidate ∈ job.targets db := by
  have hSorted := List.pairwise_insertionSort (fun a b : OrderCandidate => a.id ≤ b.id)
    (db.orderCandidates.rows.filter (overdue job.now))
  have hPerm := List.perm_insertionSort (fun a b : OrderCandidate => a.id ≤ b.id)
    (db.orderCandidates.rows.filter (overdue job.now))
  have hListed := hPerm.mem_iff.mpr (List.mem_filter.mpr ⟨hMem, hOverdue⟩)
  have hCount := (hPerm.filter fun other => decide (other.id ≤ candidate.id)).length_eq
  obtain ⟨ahead, rest, hSplit⟩ := List.append_of_mem hListed
  have hTargets : job.targets db = (ahead ++ candidate :: rest).take 200 := by
    rw [← hSplit]
    rfl
  rw [hSplit, List.pairwise_append] at hSorted
  have hAll : ahead.filter (fun other => decide (other.id ≤ candidate.id)) = ahead :=
    List.filter_eq_self.mpr fun other hOther =>
      decide_eq_true (hSorted.2.2 other hOther candidate List.mem_cons_self)
  rw [hSplit, List.filter_append, hAll, List.filter_cons_of_pos (by simp), List.length_append,
    List.length_cons, List.filter_filter] at hCount
  have hLength : (db.orderCandidates.rows.filter fun other =>
      decide (other.id ≤ candidate.id) && overdue job.now other).length ≤ 200 := by
    simpa [Bool.and_comm] using hAhead
  have hIndex : ahead.length < 200 := by omega
  rw [hTargets, List.take_append]
  refine List.mem_append_right _ ?_
  obtain ⟨n, hn⟩ := Nat.exists_eq_succ_of_ne_zero (Nat.sub_ne_zero_of_lt hIndex)
  rw [hn]
  exact List.mem_cons_self

end ExpireJob

/-- What happens to the candidates: a request, or the scheduler runs the job. -/
inductive ApprovalEvent where
  | request (settings : Settings) (request : ApprovalRequest)
  | job (job : ExpireJob)

namespace ApprovalEvent

def step (event : ApprovalEvent) (db : Database) : Database :=
  match event with
  | request settings sent => sent.step settings db
  | job run => run.step db

/-- The candidate is there and waits for no decision. -/
def Settled (db : Database) (candidateId : Nat) : Prop :=
  ∃ status, db.statusOf candidateId = some status ∧ status ≠ .pendingApproval

theorem request_moves (settings : Settings) (request : ApprovalRequest) (db : Database) :
    request.step settings db = db ∨ ∃ call, request.call? db = some call ∧
      ApprovalCall.Moves (.ofSettings settings) db call (request.step settings db) := by
  cases hGates : request.gatesOpen settings with
  | false => exact .inl (ApprovalRequest.step_closed db hGates)
  | true =>
    rw [ApprovalRequest.step_open db hGates]
    cases hCall : request.call? db with
    | none => exact .inl rfl
    | some call => exact .inr ⟨call, rfl, ApprovalCall.moves_step _ call db⟩

theorem settled_step {db : Database} {k : Nat} (h : Settled db k) (event : ApprovalEvent) :
    Settled (event.step db) k := by
  obtain ⟨status, hStatus, hSettled⟩ := h
  cases event with
  | request settings sent =>
    rcases request_moves settings sent db with hSame | ⟨call, -, hMoves⟩
    · rw [step, hSame]
      exact ⟨status, hStatus, hSettled⟩
    · exact ⟨status, hMoves.statusOf_of_settled hStatus hSettled, hSettled⟩
  | job job =>
    obtain ⟨candidate, hFound, rfl⟩ := Option.map_eq_some_iff.mp hStatus
    obtain rfl : candidate.id = k := Table.key_of_find? hFound
    refine ⟨candidate.status, ?_, hSettled⟩
    rw [step, Database.statusOf, ExpireJob.find?_step_of_settled hFound hSettled]
    rfl

/-- An approve of a candidate that waits for no decision changes nothing. -/
theorem approve_of_settled {db : Database} {k : Nat} (h : Settled db k) (settings : Settings)
    (caller : Caller) (now : Int) : (ApprovalRequest.approve k caller now).step settings db = db := by
  obtain ⟨status, hStatus, hSettled⟩ := h
  rcases request_moves settings (.approve k caller now) db with hSame | ⟨call, hCall, hMoves⟩
  · exact hSame
  · cases hCall
    generalize (ApprovalRequest.approve k caller now).step settings db = after at hMoves ⊢
    cases hMoves with
    | stays call => rfl
    | approved hApproved =>
      rw [Database.statusOf, hApproved.found, Option.map_some, hApproved.pending] at hStatus
      exact absurd (Option.some.inj hStatus).symm hSettled

/-- Once the job has run past the deadline with both gates open, and the candidate was among the
first two hundred it found, no later approve does anything, whatever happens in between. -/
theorem approve_after_job (before after : List ApprovalEvent) (db : Database) (job : ExpireJob)
    (hGates : job.gatesOpen = true) (candidate : OrderCandidate)
    (hFound : (run step before db).orderCandidates.find? candidate.id = some candidate)
    {deadline : Int} (hDeadline : candidate.expiresAt = some deadline) (hDue : deadline ≤ job.now)
    (hAhead : ((run step before db).orderCandidates.rows.filter fun other =>
      ExpireJob.overdue job.now other && other.id ≤ candidate.id).length ≤ 200)
    (settings : Settings) (caller : Caller) (now : Int) :
    (ApprovalRequest.approve candidate.id caller now).step settings
        (run step (before ++ .job job :: after) db) =
      run step (before ++ .job job :: after) db := by
  apply approve_of_settled
  rw [run_append]
  refine run_invariant (fun db => Settled db candidate.id) (fun event db h => settled_step h event)
    after ?_
  have hStatus : (run step before db).statusOf candidate.id = some candidate.status := by
    rw [Database.statusOf, hFound]
    rfl
  by_cases hPending : candidate.status = .pendingApproval
  · have hOverdue : ExpireJob.overdue job.now candidate = true := by
      simp [ExpireJob.overdue, hPending, hDeadline, hDue]
    have hTarget := ExpireJob.mem_targets (Table.mem_of_find? hFound) hOverdue hAhead
    obtain ⟨-, hRows⟩ := ExpireJob.step_open (run step before db) hGates
    refine ⟨.expired, ?_, by simp⟩
    rw [step, Database.statusOf, hRows, if_pos (List.mem_map_of_mem hTarget), hFound]
    rfl
  · exact settled_step ⟨candidate.status, hStatus, hPending⟩ (.job job)

/-- The job of the deadline expires the candidate, and an approve that comes later is refused. -/
theorem approve_after_job_pendingCandidate :
    let later := run step ([] ++ .job ⟨paperSettings, defaultTtl⟩ :: []) pendingDatabase
    later.statusOf 1 = some .expired ∧
      (ApprovalRequest.approve 1 { userId := 1 } defaultTtl).step paperSettings later = later :=
  ⟨by decide +kernel, approve_after_job [] [] pendingDatabase ⟨paperSettings, defaultTtl⟩ rfl
    pendingCandidate rfl rfl (le_refl _) (by decide +kernel) paperSettings { userId := 1 } defaultTtl⟩

/-- As long as the job has not been there, a candidate past its deadline is approved like any
other. -/
theorem lateApprove_executed :
    let drafted := run step [.request paperSettings (.create candidateBody { userId := 1 } 0 0 id)]
      fundedDatabase
    let approved := (ApprovalRequest.approve 1 { userId := 1 } defaultTtl).step paperSettings drafted
    (drafted.orderCandidates.find? 1).bind OrderCandidate.expiresAt = some defaultTtl ∧
      drafted.statusOf 1 = some .pendingApproval ∧ drafted.virtualOrders.rows.length = 0 ∧
      approved.statusOf 1 = some .executedPaper ∧ approved.virtualOrders.rows.length = 1 := by
  refine ⟨?_, ?_, ?_, ?_, ?_⟩ <;> decide +kernel

end ApprovalEvent

end StockAiPlatform
