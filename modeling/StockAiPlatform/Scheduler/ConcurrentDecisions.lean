import StockAiPlatform.Scheduler.ExpireJob
import StockAiPlatform.Transaction.Serial

/-! # Two decisions on one candidate at once

An approve beside a reject, an expire or the expiry job, each in a session of
its own. Each begins with its read of the candidate and ends with a commit,
and nothing locks the row or checks its version.
-/

namespace StockAiPlatform
set_option autoImplicit false

open Transaction

inductive Rival where
  | reject (service : ApprovalService) (actor : ApprovalActor) (reason : String)
  | expire (actor : ApprovalActor)
  | job (job : ExpireJob)

namespace Rival

def transaction (candidateId : Nat) : Rival → App Unit
  | reject service actor reason => do
    let _ ← ApprovalService.reject service candidateId actor reason
    Program.committed
  | expire actor => do
    let _ ← ApprovalService.expire candidateId actor
    Program.committed
  | job expiry => do
    let _ ← ExpireJob.expirePendingApprovals expiry.settings expiry.now
    Program.committed

end Rival

structure Contest where
  service : ApprovalService
  candidateId : Nat
  actor : ApprovalActor
  now : Int
  rival : Rival

namespace Contest

def approval (contest : Contest) : App Unit := do
  let _ ← ApprovalService.approve contest.service contest.candidateId contest.actor contest.now
  Program.committed

def transactions (contest : Contest) : Bool → App Unit
  | true => contest.approval
  | false => contest.rival.transaction contest.candidateId

def concurrently (contest : Contest) (schedule : List Bool) (db : Database) :
    World Database Query Request Reply PyError Unit :=
  run (World.step fun _ => unasked) schedule (.opened db contest.transactions)

def step (contest : Contest) (who : Bool) (db : Database) : Database :=
  match who, contest.rival with
  | true, _ =>
    (ApprovalCall.approve contest.candidateId contest.actor contest.now).step contest.service db
  | false, .reject service actor reason =>
    (ApprovalCall.reject contest.candidateId actor reason).step service db
  | false, .expire actor => (ApprovalCall.expire contest.candidateId actor).step contest.service db
  | false, .job job => job.step db

theorem commitsLast (contest : Contest) (who : Bool) : (contest.transactions who).CommitsLast := by
  cases who with
  | true => exact (ApprovalService.commitFree_approve _ _ _ _).commitsLast fun _ => ()
  | false =>
    unfold transactions Rival.transaction
    cases contest.rival with
    | reject service actor reason =>
      exact (ApprovalService.commitFree_reject _ _ _ _).commitsLast fun _ => ()
    | expire actor => exact (ApprovalService.commitFree_expire _ _).commitsLast fun _ => ()
    | job job => exact (ExpireJob.commitFree_expirePendingApprovals _ _).commitsLast fun _ => ()

theorem alone_eq_step (contest : Contest) :
    alone (fun _ => unasked) contest.transactions = contest.step := by
  funext who db
  cases who with
  | true =>
    exact Program.served_committed (ApprovalService.commitFree_approve _ _ _ _) (fun _ => ()) unasked db
  | false =>
    unfold alone transactions Rival.transaction step
    cases contest.rival with
    | reject service actor reason =>
      exact Program.served_committed (ApprovalService.commitFree_reject _ _ _ _) (fun _ => ()) unasked db
    | expire actor =>
      exact Program.served_committed (ApprovalService.commitFree_expire _ _) (fun _ => ()) unasked db
    | job job =>
      exact Program.served_committed (ExpireJob.commitFree_expirePendingApprovals _ _) (fun _ => ()) unasked db

def readsRow (candidateId : Nat) : Query → Bool
  | .candidateById k => k == candidateId
  | .expiredPending _ => true
  | _ => false

/-- Each of the two begins with its read of the row, unless a switch keeps it from reading at all:
to begin late is to read late. -/
theorem begins_with_read (contest : Contest) (who : Bool) :
    (∃ statement next, contest.transactions who = .select statement next ∧
        readsRow contest.candidateId statement = true) ∨
      (∃ error, contest.transactions who = .raise error) ∨
      contest.transactions who = Program.committed := by
  cases who with
  | true =>
    rw [transactions, approval, ApprovalService.approve, ApprovalService.assertWorkflowActive]
    split
    · exact .inl ⟨_, _, rfl, beq_self_eq_true _⟩
    · exact .inr (.inl ⟨_, rfl⟩)
  | false =>
    unfold transactions Rival.transaction
    cases contest.rival with
    | reject service actor reason =>
      simp only
      rw [ApprovalService.reject, ApprovalService.assertWorkflowActive]
      split
      · exact .inl ⟨_, _, rfl, beq_self_eq_true _⟩
      · exact .inr (.inl ⟨_, rfl⟩)
    | expire actor => exact .inl ⟨_, _, rfl, beq_self_eq_true _⟩
    | job job =>
      simp only
      rw [ExpireJob.expirePendingApprovals]
      split
      · exact .inr (.inr rfl)
      · split
        · exact .inr (.inr rfl)
        · exact .inl ⟨_, _, rfl, rfl⟩

/-- The candidate is linked to an order that is stored under its own key. -/
def Linked (db : Database) (candidate : OrderCandidate) : Prop :=
  ∃ order ∈ db.virtualOrders.rows, candidate.virtualOrderId = some order.id ∧
    order.accountId = candidate.accountId ∧
    order.idempotencyKey = some (ApprovalService.idempotencyKey candidate.id)

/-- The status says whether there is a linked order, and without one no order was created. -/
structure Agrees (start db : Database) (candidate : OrderCandidate) : Prop where
  executed_iff : candidate.status = .executedPaper ↔ Linked db candidate
  unplaced : candidate.status ≠ .executedPaper →
    db.virtualOrders = start.virtualOrders ∧ candidate.virtualOrderId = none

def Decided (start : Database) (k : Nat) (db : Database) : Prop :=
  ∃ candidate, db.orderCandidates.find? k = some candidate ∧ Agrees start db candidate

theorem agrees_of_unplaced {start db : Database} {candidate : OrderCandidate}
    (hStatus : candidate.status ≠ .executedPaper)
    (hOrders : db.virtualOrders = start.virtualOrders) (hLink : candidate.virtualOrderId = none) :
    Agrees start db candidate where
  executed_iff := by
    refine iff_of_false hStatus ?_
    rintro ⟨order, -, hSome, -⟩
    rw [hLink] at hSome
    cases hSome
  unplaced := fun _ => ⟨hOrders, hLink⟩

section Steps

variable {start before after : Database} {candidate : OrderCandidate}

theorem Decided.moved (h : Decided start candidate.id before)
    (hFound : before.orderCandidates.find? candidate.id = some candidate)
    (hPending : candidate.status = .pendingApproval) {moved : OrderCandidate}
    (hMoved : after.orderCandidates.find? candidate.id = some moved)
    (hStatus : moved.status ≠ .executedPaper)
    (hLink : moved.virtualOrderId = candidate.virtualOrderId)
    (hOrders : after.virtualOrders = before.virtualOrders) : Decided start candidate.id after := by
  obtain ⟨same, hSame, hAgrees⟩ := h
  obtain rfl := Option.some.inj (hFound.symm.trans hSame)
  obtain ⟨hOld, hNone⟩ := hAgrees.unplaced (by simp [hPending])
  exact ⟨moved, hMoved, agrees_of_unplaced hStatus (hOrders.trans hOld) (hLink.trans hNone)⟩

theorem find?_modify_self {change : OrderCandidate → OrderCandidate}
    {hId : ∀ candidate, (change candidate).id = candidate.id}
    (hFound : before.orderCandidates.find? candidate.id = some candidate)
    (hAfter : after.orderCandidates = before.orderCandidates.modify candidate.id change hId) :
    after.orderCandidates.find? candidate.id = some (change candidate) := by
  rw [hAfter, Table.find?_modify, hFound, Option.map_some, if_pos rfl]

theorem Decided.approved {service : ApprovalService} {actor : ApprovalActor} {now : Int}
    {order : VirtualOrder}
    (h : ApprovalService.Approved service actor now before after candidate order) :
    Decided start candidate.id after := by
  have hMoved := find?_modify_self h.found h.wrote.candidates
  refine ⟨_, hMoved, iff_of_true rfl ?_, fun hNot => absurd rfl hNot⟩
  rcases h.submitted.wrote with ⟨key, hKey, hExisting, hSame⟩ |
    ⟨-, ⟨checked, hChecked, hStored⟩, hInserted⟩
  · cases hKey
    have hMatches := List.find?_some hExisting
    obtain ⟨hAccount, hOwn⟩ := Bool.and_eq_true_iff.mp hMatches
    exact ⟨order, hSame ▸ List.mem_of_find?_eq_some hExisting, rfl, beq_iff_eq.mp hAccount,
      beq_iff_eq.mp hOwn⟩
  · have hOrdered := SimulationBroker.validate_ok hChecked
    have hId := congrArg VirtualOrder.id hStored
    refine ⟨order, ?_, rfl, ?_, ?_⟩
    · rw [hInserted, Table.rows_insert_of_key_eq hId]
      exact List.mem_append_right _ (List.mem_singleton_self _)
    · rw [hStored]
      exact hOrdered.accountId
    · rw [hStored]
      exact hOrdered.idempotencyKey

theorem Decided.job {k : Nat} (h : Decided start k before) (job : ExpireJob) :
    Decided start k (job.step before) := by
  cases hGates : job.gatesOpen with
  | false =>
    rw [ExpireJob.step_closed before hGates]
    exact h
  | true =>
    obtain ⟨candidate, hFound, hAgrees⟩ := h
    obtain rfl : candidate.id = k := Table.key_of_find? hFound
    obtain ⟨hOrders, hRows⟩ := ExpireJob.step_open before hGates
    by_cases hPending : candidate.status = .pendingApproval
    · have hRow := hRows candidate.id
      split at hRow
      · rw [hFound, Option.map_some] at hRow
        exact Decided.moved ⟨candidate, hFound, hAgrees⟩ hFound hPending hRow
          (by simp [ExpireJob.expired, OrderCandidateRepository.withStatus]) rfl hOrders
      · exact Decided.moved ⟨candidate, hFound, hAgrees⟩ hFound hPending (hRow.trans hFound)
          (by simp [hPending]) rfl hOrders
    · refine ⟨candidate, ExpireJob.find?_step_of_settled hFound hPending, ?_, ?_⟩
      · rw [hAgrees.executed_iff, Linked, Linked, hOrders]
      · intro hNot
        rw [hOrders]
        exact hAgrees.unplaced hNot

end Steps

theorem decided_step (contest : Contest) (who : Bool) {start db : Database}
    (h : Decided start contest.candidateId db) :
    Decided start contest.candidateId (contest.step who db) := by
  obtain ⟨service, k, actor, now, rival⟩ := contest
  have hMoved : ∀ {service : ApprovalService} {call : ApprovalCall} {after : Database},
      ApprovalCall.Moves service db call after →
      (∃ actor now, call = .approve k actor now) ∨ (∃ actor reason, call = .reject k actor reason) ∨
        (∃ actor, call = .expire k actor) → Decided start k after := by
    intro service call after hMoves hCall
    cases hMoves with
    | stays call => exact h
    | created hCreated => simp at hCall
    | approved hApproved =>
      obtain rfl : _ = k := by simpa using hCall
      exact Decided.approved hApproved
    | rejected hRejected =>
      obtain rfl : _ = k := by simpa using hCall
      exact Decided.moved h hRejected.found hRejected.pending
        (find?_modify_self hRejected.found hRejected.wrote.candidates)
        (by simp [OrderCandidateRepository.withStatus]) rfl hRejected.wrote.orders
    | expired hExpired =>
      obtain rfl : _ = k := by simpa using hCall
      exact Decided.moved h hExpired.found hExpired.pending
        (find?_modify_self hExpired.found hExpired.wrote.candidates)
        (by simp [OrderCandidateRepository.withStatus]) rfl hExpired.wrote.orders
  cases who with
  | true => exact hMoved (ApprovalCall.moves_step _ _ db) (.inl ⟨actor, now, rfl⟩)
  | false =>
    cases rival with
    | reject service actor reason =>
      exact hMoved (ApprovalCall.moves_step _ _ db) (.inr (.inl ⟨actor, reason, rfl⟩))
    | expire actor => exact hMoved (ApprovalCall.moves_step service _ db) (.inr (.inr ⟨actor, rfl⟩))
    | job job => exact h.job job

theorem statusOf_step_of_settled (contest : Contest) (who : Bool) {db : Database} {k : Nat}
    {status : CandidateStatus} (hStatus : db.statusOf k = some status)
    (hSettled : status ≠ .pendingApproval) : (contest.step who db).statusOf k = some status := by
  have hJob : ∀ job : ExpireJob, (job.step db).statusOf k = some status := by
    intro job
    obtain ⟨candidate, hFound, rfl⟩ := Option.map_eq_some_iff.mp hStatus
    obtain rfl : candidate.id = k := Table.key_of_find? hFound
    rw [Database.statusOf, ExpireJob.find?_step_of_settled hFound hSettled]
    rfl
  obtain ⟨service, candidateId, actor, now, rival⟩ := contest
  cases who with
  | true => exact (ApprovalCall.moves_step _ _ db).statusOf_of_settled hStatus hSettled
  | false =>
    cases rival with
    | reject service actor reason =>
      exact (ApprovalCall.moves_step _ _ db).statusOf_of_settled hStatus hSettled
    | expire actor =>
      exact (ApprovalCall.moves_step service _ db).statusOf_of_settled hStatus hSettled
    | job job => exact hJob job

/-- If one of the two begins after the other has committed, or never commits, then the committed
status says whether an order was created and linked, and no terminal status committed on the way
is ever overwritten. -/
theorem decisions_agree (contest : Contest) (db : Database) (candidate : OrderCandidate)
    (hFound : db.orderCandidates.find? contest.candidateId = some candidate)
    (hPending : candidate.status = .pendingApproval) (hUnlinked : candidate.virtualOrderId = none)
    (first second : List Bool) (hApart : Apart (contest.concurrently (first ++ second) db).trace) :
    Decided db contest.candidateId (contest.concurrently (first ++ second) db).durable ∧
      ∀ status, (contest.concurrently first db).durable.statusOf contest.candidateId = some status →
        status.isTerminal = true →
        (contest.concurrently (first ++ second) db).durable.statusOf contest.candidateId =
          some status := by
  have hSerial := durable_run_of_apart contest.commitsLast db (first ++ second) hApart
  rw [alone_eq_step] at hSerial
  obtain ⟨later, hLater⟩ := durable_run_append_of_apart contest.commitsLast db first second hApart
  rw [alone_eq_step] at hLater
  constructor
  · rw [concurrently, hSerial]
    refine run_invariant (Decided db contest.candidateId)
      (fun who _ h => contest.decided_step who h) _ ⟨candidate, hFound, ?_⟩
    exact agrees_of_unplaced (by simp [hPending]) rfl hUnlinked
  · intro status hStatus hTerminal
    rw [concurrently, hLater]
    refine run_invariant (fun db : Database => db.statusOf contest.candidateId = some status)
      (fun who _ h => contest.statusOf_step_of_settled who h ?_) later hStatus
    rintro rfl
    cases hTerminal

def approveOrReject : Contest where
  service := .ofSettings paperSettings
  candidateId := 1
  actor := {}
  now := 0
  rival := .reject (.ofSettings paperSettings) {} "too early"

def approveFirst : List Bool := List.replicate 20 true

def rejectAfterwards : List Bool := List.replicate 10 false

/-- A reject that begins after the approve has committed finds the candidate executed. -/
theorem decisions_agree_oneByOne :
    Decided pendingDatabase 1
        (approveOrReject.concurrently (approveFirst ++ rejectAfterwards) pendingDatabase).durable ∧
      (approveOrReject.concurrently (approveFirst ++ rejectAfterwards) pendingDatabase).durable.statusOf
        1 = some .executedPaper := by
  have hAgree := decisions_agree approveOrReject pendingDatabase pendingCandidate rfl rfl
    rfl approveFirst rejectAfterwards ⟨false, .inl (by decide +kernel)⟩
  exact ⟨hAgree.1, hAgree.2 .executedPaper (by decide +kernel) rfl⟩

/-- If both read before either commits, the reject overwrites the executed candidate and leaves its
order behind. -/
theorem bothRead_overwritten :
    let bothRead := [true, false] ++ approveFirst
    (approveOrReject.concurrently bothRead pendingDatabase).durable.statusOf 1 = some .executedPaper ∧
      (approveOrReject.concurrently (bothRead ++ rejectAfterwards) pendingDatabase).durable.statusOf 1 =
        some .rejected ∧
      ¬ Decided pendingDatabase 1
        (approveOrReject.concurrently (bothRead ++ rejectAfterwards) pendingDatabase).durable := by
  refine ⟨by decide +kernel, by decide +kernel, ?_⟩
  rintro ⟨candidate, hFound, hAgrees⟩
  have hRow : ((approveOrReject.concurrently ([true, false] ++ approveFirst ++ rejectAfterwards)
      pendingDatabase).durable.orderCandidates.find? 1).map
        (fun candidate => (candidate.status, candidate.virtualOrderId)) =
      some (.rejected, some 1) := by
    decide +kernel
  rw [hFound, Option.map_some] at hRow
  obtain ⟨hStatus, hLink⟩ := Prod.mk.inj (Option.some.inj hRow)
  obtain ⟨-, hNone⟩ := hAgrees.unplaced (by simp [hStatus])
  rw [hLink] at hNone
  cases hNone

end Contest

end StockAiPlatform
