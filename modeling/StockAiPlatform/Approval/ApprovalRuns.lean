import StockAiPlatform.Approval.ApprovalOutcomes
import StockAiPlatform.Transaction.Run

/-! # Runs of the approval service

Calls one after the other, each in a transaction of its own that is committed
exactly if the call returns. Over any run the audit log of a candidate spells
out its status, and a terminal status stays.
-/

namespace StockAiPlatform
set_option autoImplicit false

open Transaction OrderCandidateRepository

inductive ApprovalCall where
  | create (call : ApprovalService.CreateCall)
  | approve (candidateId : Nat) (actor : ApprovalActor) (now : Int)
  | reject (candidateId : Nat) (actor : ApprovalActor) (reason : String)
  | expire (candidateId : Nat) (actor : ApprovalActor)

namespace ApprovalCall

open ApprovalService

def step (service : ApprovalService) (call : ApprovalCall) (db : Database) : Database :=
  match call with
  | create call => (createCandidate service call).atomically unasked db
  | approve candidateId actor now => (ApprovalService.approve service candidateId actor now).atomically unasked db
  | reject candidateId actor reason =>
    (ApprovalService.reject service candidateId actor reason).atomically unasked db
  | expire candidateId actor => (ApprovalService.expire candidateId actor).atomically unasked db

/-- All that a call can do to the store. -/
inductive Moves (service : ApprovalService) (before : Database) : ApprovalCall → Database → Prop where
  | stays (call : ApprovalCall) : Moves service before call before
  | created {call : CreateCall} {after : Database} {candidate : OrderCandidate}
      {riskResult : RiskCheckResult} (h : Created service call before after candidate riskResult) :
      Moves service before (.create call) after
  | approved {actor : ApprovalActor} {now : Int} {after : Database} {candidate : OrderCandidate}
      {order : VirtualOrder} (h : Approved service actor now before after candidate order) :
      Moves service before (.approve candidate.id actor now) after
  | rejected {actor : ApprovalActor} {reason : String} {after : Database}
      {candidate : OrderCandidate} (h : Rejected service actor reason before after candidate) :
      Moves service before (.reject candidate.id actor reason) after
  | expired {actor : ApprovalActor} {after : Database} {candidate : OrderCandidate}
      (h : Expired before after candidate) : Moves service before (.expire candidate.id actor) after

theorem moves_step (service : ApprovalService) (call : ApprovalCall) (db : Database) :
    Moves service db call (call.step service db) := by
  cases call with
  | create call =>
    rcases Program.atomically_cases unasked (createCandidate service call) db with
      ⟨result, s, hExec, hView⟩ | hSame
    · obtain ⟨candidate, hCreated⟩ := exec_createCandidate_eq_ok hExec
      rw [step, hView]
      exact .created hCreated
    · rw [step, hSame]
      exact .stays _
  | approve candidateId actor now =>
    rcases Program.atomically_cases unasked (ApprovalService.approve service candidateId actor now) db
      with ⟨result, s, hExec, hView⟩ | hSame
    · obtain ⟨candidate, order, rfl, hApproved⟩ := exec_approve_eq_ok hExec
      rw [step, hView]
      exact .approved hApproved
    · rw [step, hSame]
      exact .stays _
  | reject candidateId actor reason =>
    rcases Program.atomically_cases unasked (ApprovalService.reject service candidateId actor reason)
      db with ⟨result, s, hExec, hView⟩ | hSame
    · obtain ⟨candidate, rfl, hRejected⟩ := exec_reject_eq_ok hExec
      rw [step, hView]
      exact .rejected hRejected
    · rw [step, hSame]
      exact .stays _
  | expire candidateId actor =>
    rcases Program.atomically_cases unasked (ApprovalService.expire candidateId actor) db with
      ⟨result, s, hExec, hView⟩ | hSame
    · obtain ⟨candidate, rfl, hExpired⟩ := exec_expire_eq_ok hExec
      rw [step, hView]
      exact .expired hExpired
    · rw [step, hSame]
      exact .stays _

end ApprovalCall

def eventsOf (log : List ApprovalAuditLog) (candidateId : Nat) : List AuditEvent :=
  (log.filter fun row => row.candidateId == candidateId).map ApprovalAuditLog.eventType

theorem eventsOf_logged {before after : List ApprovalAuditLog} {k : Nat} {events : List AuditEvent}
    (h : Logged before after k events) (j : Nat) :
    eventsOf after j = eventsOf before j ++ if j = k then events else [] := by
  obtain ⟨rows, rfl, hOwn, rfl⟩ := h
  rw [eventsOf, List.filter_append, List.map_append]
  congr 1
  split
  · rename_i hSame
    rw [List.filter_eq_self.mpr]
    intro row hRow
    rw [hOwn row hRow, hSame, beq_self_eq_true]
  · rename_i hOther
    rw [List.filter_eq_nil_iff.mpr, List.map_nil]
    intro row hRow
    rw [hOwn row hRow, beq_iff_eq]
    exact fun hSame => hOther hSame.symm

namespace CandidateStatus

/-- The audit log a candidate of this status has: the past of a draft is not over. -/
def trail : CandidateStatus → Option (List AuditEvent)
  | pendingApproval => some [.created, .riskChecked]
  | riskRejected => some [.created, .riskChecked, .riskRejected]
  | rejected => some [.created, .riskChecked, .rejected]
  | executedPaper => some [.created, .riskChecked, .approved, .executedPaper]
  | expired => some [.created, .riskChecked, .expired]
  | draft | riskChecking | approved => none

end CandidateStatus

/-- The log spells out the status, and exactly the executed candidates have an order. -/
structure Trailed (log : List ApprovalAuditLog) (candidate : OrderCandidate) : Prop where
  trail : candidate.status.trail = some (eventsOf log candidate.id)
  linked : candidate.virtualOrderId.isSome = true ↔ candidate.status = .executedPaper

structure AllTrailed (db : Database) : Prop where
  candidates : ∀ candidate ∈ db.orderCandidates.rows, Trailed db.approvalAuditLogs candidate
  rows : ∀ row ∈ db.approvalAuditLogs, ∃ candidate ∈ db.orderCandidates.rows,
    candidate.id = row.candidateId

section Steps

variable {before after : Database} {k : Nat} {orders : Table VirtualOrder} {events : List AuditEvent}

theorem rows_logged {log log' : List ApprovalAuditLog} (h : Logged log log' k events)
    {row : ApprovalAuditLog} (hRow : row ∈ log') : row ∈ log ∨ row.candidateId = k := by
  obtain ⟨rows, rfl, hOwn, -⟩ := h
  rcases List.mem_append.mp hRow with hRow | hRow
  · exact .inl hRow
  · exact .inr (hOwn row hRow)

/-- One candidate moved on: its log has to grow by what its new status adds. -/
theorem AllTrailed.changed (h : AllTrailed before) {candidate : OrderCandidate}
    {change : OrderCandidate → OrderCandidate} {hId : ∀ candidate, (change candidate).id = candidate.id}
    (hFound : before.orderCandidates.find? candidate.id = some candidate)
    (hWrote : Wrote before after candidate.id
      (before.orderCandidates.modify candidate.id change hId) orders events)
    (hTrail : (change candidate).status.trail = candidate.status.trail.map (· ++ events))
    (hLinked : (change candidate).virtualOrderId.isSome = true ↔
      (change candidate).status = .executedPaper) : AllTrailed after := by
  constructor
  · intro moved hMoved
    rw [hWrote.candidates] at hMoved
    have hEvents := eventsOf_logged hWrote.logged
    rcases Table.mem_rows_modify.mp hMoved with ⟨row, hRow, hKey, rfl⟩ | ⟨hRow, hKey⟩
    · obtain rfl : candidate = row := Option.some.inj
        (hFound.symm.trans ((Table.find?_eq_some_iff _ _ _).mpr ⟨hRow, hKey⟩))
      refine ⟨?_, hLinked⟩
      rw [hTrail, (h.candidates candidate hRow).trail, hEvents, hId, if_pos rfl]
      rfl
    · have hOther : moved.id ≠ candidate.id := hKey
      have hOld := h.candidates moved hRow
      refine ⟨?_, hOld.linked⟩
      rw [hEvents, if_neg hOther, List.append_nil]
      exact hOld.trail
  · intro row hRow
    rw [hWrote.candidates]
    obtain ⟨kept, hKept, hSame⟩ : ∃ kept ∈ before.orderCandidates.rows, kept.id = row.candidateId := by
      rcases rows_logged hWrote.logged hRow with hOld | hNew
      · exact h.rows row hOld
      · exact ⟨candidate, Table.mem_of_find? hFound, hNew.symm⟩
    by_cases hKey : kept.id = candidate.id
    · exact ⟨change kept, Table.mem_rows_modify.mpr (.inl ⟨kept, hKept, hKey, rfl⟩),
        (hId kept).trans hSame⟩
    · exact ⟨kept, Table.mem_rows_modify.mpr (.inr ⟨hKept, hKey⟩), hSame⟩

theorem AllTrailed.inserted (h : AllTrailed before) {candidate : OrderCandidate}
    (hKey : candidate.id = before.orderCandidates.nextKey)
    (hWrote : Wrote before after candidate.id (before.orderCandidates.insert candidate) orders events)
    (hTrail : candidate.status.trail = some events)
    (hLinked : candidate.virtualOrderId.isSome = true ↔ candidate.status = .executedPaper) :
    AllTrailed after := by
  have hRows : after.orderCandidates.rows = before.orderCandidates.rows ++ [candidate] := by
    rw [hWrote.candidates]
    exact Table.rows_insert_of_key_eq hKey
  have hEvents := eventsOf_logged hWrote.logged
  have hFresh : ∀ old ∈ before.orderCandidates.rows, old.id ≠ candidate.id := by
    intro old hOld hSame
    have hLt : old.id < before.orderCandidates.nextKey := Table.key_lt_nextKey _ hOld
    omega
  constructor
  · intro row hRow
    rw [hRows] at hRow
    rcases List.mem_append.mp hRow with hOld | hNew
    · have hKept := h.candidates row hOld
      refine ⟨?_, hKept.linked⟩
      rw [hEvents, if_neg (hFresh row hOld), List.append_nil]
      exact hKept.trail
    · obtain rfl := List.mem_singleton.mp hNew
      refine ⟨?_, hLinked⟩
      have hNone : eventsOf before.approvalAuditLogs row.id = [] := by
        rw [eventsOf, List.filter_eq_nil_iff.mpr, List.map_nil]
        intro entry hEntry hSame
        obtain ⟨old, hOld, hOwner⟩ := h.rows entry hEntry
        exact hFresh old hOld (hOwner.trans (beq_iff_eq.mp hSame))
      rw [hEvents, if_pos rfl, hNone, hTrail]
      rfl
  · intro row hRow
    rw [hRows]
    rcases rows_logged hWrote.logged hRow with hOld | hNew
    · obtain ⟨old, hMem, hOwner⟩ := h.rows row hOld
      exact ⟨old, List.mem_append_left _ hMem, hOwner⟩
    · exact ⟨candidate, List.mem_append_right _ (List.mem_singleton_self _), hNew.symm⟩

end Steps

namespace Database

def statusOf (db : Database) (candidateId : Nat) : Option CandidateStatus :=
  (db.orderCandidates.find? candidateId).map OrderCandidate.status

end Database

namespace ApprovalCall

open ApprovalService

theorem decided_status (riskResult : RiskCheckResult) (candidate : OrderCandidate) :
    (decided riskResult candidate).status =
      if riskResult.passed then .pendingApproval else .riskRejected := by
  unfold decided routed
  split <;> rfl

theorem decided_virtualOrderId (riskResult : RiskCheckResult) (candidate : OrderCandidate) :
    (decided riskResult candidate).virtualOrderId = candidate.virtualOrderId := by
  unfold decided routed
  split <;> rfl

theorem decided_id (riskResult : RiskCheckResult) (candidate : OrderCandidate) :
    (decided riskResult candidate).id = candidate.id := routed_id riskResult _

theorem allTrailed_step (service : ApprovalService) (call : ApprovalCall) (db : Database)
    (h : AllTrailed db) : AllTrailed (call.step service db) := by
  have hMoves := moves_step service call db
  generalize call.step service db = after at hMoves ⊢
  cases hMoves with
  | stays call => exact h
  | created hCreated =>
    rename_i createCall candidate riskResult
    obtain ⟨checked, -, rfl⟩ := hCreated.row
    refine h.inserted (decided_id _ _) (decided_id riskResult _ ▸ hCreated.wrote) ?_ ?_
    · rw [decided_status, routedEvents]
      split <;> rfl
    · rw [decided_status, decided_virtualOrderId]
      split <;> simp [withStatus, rowOf]
  | approved hApproved =>
    refine h.changed hApproved.found hApproved.wrote ?_ ?_
    · rw [hApproved.pending]
      rfl
    · simp [executed]
  | rejected hRejected =>
    have hUnlinked := (h.candidates _ (Table.mem_of_find? hRejected.found)).linked
    refine h.changed hRejected.found hRejected.wrote ?_ ?_
    · rw [hRejected.pending]
      rfl
    · simpa [withStatus, hRejected.pending] using hUnlinked
  | expired hExpired =>
    have hUnlinked := (h.candidates _ (Table.mem_of_find? hExpired.found)).linked
    refine h.changed hExpired.found hExpired.wrote ?_ ?_
    · rw [hExpired.pending]
      rfl
    · simpa [withStatus, hExpired.pending] using hUnlinked

theorem statusOf_modify {before after : Database} {candidate : OrderCandidate}
    {change : OrderCandidate → OrderCandidate} {hId : ∀ candidate, (change candidate).id = candidate.id}
    (hFound : before.orderCandidates.find? candidate.id = some candidate)
    (hPending : candidate.status = .pendingApproval)
    (hAfter : after.orderCandidates = before.orderCandidates.modify candidate.id change hId)
    {k : Nat} {status : CandidateStatus} (hStatus : before.statusOf k = some status)
    (hSettled : status ≠ .pendingApproval) : after.statusOf k = some status := by
  have hOther : k ≠ candidate.id := by
    rintro rfl
    rw [Database.statusOf, hFound, Option.map_some, hPending] at hStatus
    exact hSettled (Option.some.inj hStatus).symm
  rw [Database.statusOf, hAfter, Table.find?_modify]
  simp only [hOther, if_false, Option.map_id']
  exact hStatus

theorem statusOf_modify_self {before after : Database} {candidate : OrderCandidate}
    {change : OrderCandidate → OrderCandidate} {hId : ∀ candidate, (change candidate).id = candidate.id}
    (hFound : before.orderCandidates.find? candidate.id = some candidate)
    (hAfter : after.orderCandidates = before.orderCandidates.modify candidate.id change hId) :
    after.statusOf candidate.id = some (change candidate).status := by
  rw [Database.statusOf, hAfter, Table.find?_modify, hFound, Option.map_some, Option.map_some,
    if_pos rfl]

/-- A candidate that is not pending keeps its status through every move. -/
theorem Moves.statusOf_of_settled {service : ApprovalService} {call : ApprovalCall}
    {before after : Database} (h : Moves service before call after) {k : Nat}
    {status : CandidateStatus} (hStatus : before.statusOf k = some status)
    (hSettled : status ≠ .pendingApproval) : after.statusOf k = some status := by
  cases h with
  | stays call => exact hStatus
  | created hCreated =>
    rw [Database.statusOf, hCreated.wrote.candidates]
    obtain ⟨candidate, hFound, rfl⟩ := Option.map_eq_some_iff.mp hStatus
    rw [Table.find?_insert_of_some hFound]
    rfl
  | approved h => exact statusOf_modify h.found h.pending h.wrote.candidates hStatus hSettled
  | rejected h => exact statusOf_modify h.found h.pending h.wrote.candidates hStatus hSettled
  | expired h => exact statusOf_modify h.found h.pending h.wrote.candidates hStatus hSettled

end ApprovalCall

/-- A call on a service of its own: the settings, the risk engine and the broker may change from
one call to the next. -/
structure ServiceCall where
  service : ApprovalService
  call : ApprovalCall

def paperSettings : Settings :=
  { Settings.paranoid with
    tradingSafetyEnabled := true
    killSwitchEnabled := false
    paperTradingEnabled := true }

def fundedDatabase : Database :=
  { Database.empty with
    virtualAccounts := Table.insert ∅ {
      id := 1
      initialCash := 1000000
      cashBalance := 1000000
      paperTradingEnabled := true } }

theorem tenShares_pos : (0 : Int) < 10 := by decide

def pendingCandidate : OrderCandidate where
  id := 1
  accountId := 1
  source := .manual
  symbol := "005930"
  side := .buy
  quantity := 10
  orderType := .market
  limitPrice := none
  estimatedAmount := 70000
  status := .pendingApproval
  expiresAt := some defaultTtl
  createdAt := 0
  quantity_pos := tenShares_pos
  limitPrice_ok := OrderType.takesPositive_market
  estimatedAmount_nonneg := by decide +kernel

def pendingDatabase : Database :=
  { fundedDatabase with
    orderCandidates := Table.insert ∅ pendingCandidate
    approvalAuditLogs := [ApprovalService.auditRow {} 1 .created none none,
      ApprovalService.auditRow {} 1 .riskChecked none none] }

/-- A market order drafted by hand, the risk engine asked at the time of the insert. -/
def marketCall (symbol : String) (quantity : Int) (estimatedAmount : ℚ) (now : Int) :
    ApprovalService.CreateCall where
  draft := {
    accountId := 1
    source := "MANUAL"
    symbol := symbol
    side := "BUY"
    quantity := quantity
    orderType := "MARKET"
    limitPrice := none
    estimatedAmount := estimatedAmount
    sourceRefId := none
    expiresAt := none }
  ttl := none
  actor := {}
  now := now
  createdAt := now
  upper := id

def paperCall (call : ApprovalCall) : ServiceCall where
  service := .ofSettings paperSettings
  call := call

namespace ServiceCall

def step (serviceCall : ServiceCall) (db : Database) : Database :=
  serviceCall.call.step serviceCall.service db

/-- From a store without candidates, after any run: the committed audit log of every candidate is
the trail of its status, exactly the executed ones have an order, and no call changes a terminal
status. -/
theorem trail_determines_status (calls : List ServiceCall) (db : Database)
    (hCandidates : db.orderCandidates.rows = []) (hLog : db.approvalAuditLogs = []) :
    (∀ candidate ∈ (run step calls db).orderCandidates.rows,
      candidate.status.trail =
        some (eventsOf (run step calls db).approvalAuditLogs candidate.id) ∧
      (candidate.virtualOrderId.isSome = true ↔ candidate.status = .executedPaper)) ∧
    ∀ (call : ServiceCall) (k : Nat) (status : CandidateStatus),
      (run step calls db).statusOf k = some status → status.isTerminal = true →
      (call.step (run step calls db)).statusOf k = some status := by
  have hStart : AllTrailed db := by
    constructor
    · rw [hCandidates]
      intro candidate hMem
      cases hMem
    · rw [hLog]
      intro row hMem
      cases hMem
  have hRun : AllTrailed (run step calls db) := run_invariant AllTrailed
    (fun call db h => ApprovalCall.allTrailed_step call.service call.call db h) calls hStart
  constructor
  · intro candidate hMem
    exact ⟨(hRun.candidates candidate hMem).trail, (hRun.candidates candidate hMem).linked⟩
  · intro call k status hStatus hTerminal
    refine (ApprovalCall.moves_step call.service call.call _).statusOf_of_settled hStatus ?_
    rintro rfl
    cases hTerminal

/-- One candidate approved, one rejected and one refused by the risk engine. -/
theorem trail_determines_status_fundedDatabase :
    let calls := [paperCall (.create (marketCall "005930" 10 70000 0)),
      paperCall (.create (marketCall "000660" 10 70000 0)),
      paperCall (.create (marketCall "035420" 10 170000 0)), paperCall (.approve 1 {} 0),
      paperCall (.reject 2 {} "too early")]
    (run step calls fundedDatabase).orderCandidates.rows.map OrderCandidate.status =
        [.executedPaper, .rejected, .riskRejected] ∧
      ∀ candidate ∈ (run step calls fundedDatabase).orderCandidates.rows,
        candidate.status.trail =
          some (eventsOf (run step calls fundedDatabase).approvalAuditLogs candidate.id) ∧
        (candidate.virtualOrderId.isSome = true ↔ candidate.status = .executedPaper) :=
  ⟨by decide +kernel, (trail_determines_status _ fundedDatabase rfl rfl).1⟩

end ServiceCall

end StockAiPlatform
