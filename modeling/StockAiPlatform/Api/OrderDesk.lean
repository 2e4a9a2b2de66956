import StockAiPlatform.Api.RealOrderRoutes
import StockAiPlatform.Broker.PlacementSafety
import StockAiPlatform.Scheduler.PaperJobs

/-! # The order desk

Everything that handles orders, in any order: the paper and the approval routes, the
paper jobs, the expire job, the executor and the fill sync. An approve hands its candidate on to the
simulation in the same transaction, so no candidate is ever left approved for the
executor to find; and one that was approved by other means keeps its terms and its
status whatever happens at the desk.
-/

namespace StockAiPlatform
set_option autoImplicit false

open Transaction

/-- What happens at the desk, each under settings of its own. The caller of the executor or of the
fill sync commits or not. -/
inductive DeskAction where
  | paper (event : PaperEvent)
  | expireJob (job : ExpireJob)
  | execute (call : ExecuteCall) (commits : Bool)
  | syncFills (call : SyncCall) (commits : Bool)
  | syncRoute (request : SyncRequest)

/-- The store, and what went to live brokers so far. -/
structure Desk where
  db : Database
  sent : List Exchanged

namespace Desk

/-- The desk after a session that was opened on its store. -/
def closed (desk : Desk) (commits : Bool) (s : DbSession) : Desk where
  db := if commits then s.view else s.durable
  sent := desk.sent ++ s.log

def step (action : DeskAction) (desk : Desk) : Desk :=
  match action with
  | .paper event => { desk with db := event.step desk.db }
  | .expireJob job => { desk with db := job.step desk.db }
  | .execute call commits => desk.closed commits (call.step (.opened desk.db))
  | .syncFills call commits => desk.closed commits (call.step (.opened desk.db))
  | .syncRoute request => desk.closed false (request.serve desk.db).2

end Desk

/-! ## Approved candidates -/

/-- The approved candidates of both stores are the same rows. -/
def SameApproved (before after : Database) : Prop :=
  ∀ candidate : OrderCandidate, candidate.status = .approved →
    (after.orderCandidates.find? candidate.id = some candidate ↔
      before.orderCandidates.find? candidate.id = some candidate)

section SameApproved

variable {before after : Database}

theorem sameApproved_of_eq (h : after.orderCandidates = before.orderCandidates) :
    SameApproved before after := by
  intro candidate _
  rw [h]

theorem SameApproved.trans {middle : Database} (first : SameApproved before middle)
    (second : SameApproved middle after) : SameApproved before after :=
  fun candidate hApproved => (second candidate hApproved).trans (first candidate hApproved)

/-- A pending candidate moved to another status was not approved and does not become so. -/
theorem sameApproved_modify {pending : OrderCandidate} {change : OrderCandidate → OrderCandidate}
    {hId : ∀ candidate, (change candidate).id = candidate.id}
    (hFound : before.orderCandidates.find? pending.id = some pending)
    (hPending : pending.status = .pendingApproval) (hOther : (change pending).status ≠ .approved)
    (hAfter : after.orderCandidates = before.orderCandidates.modify pending.id change hId) :
    SameApproved before after := by
  intro candidate hApproved
  rw [hAfter, Table.find?_modify]
  by_cases hSame : candidate.id = pending.id
  · rw [hSame, hFound, Option.map_some, if_pos rfl]
    constructor
    · intro h
      rw [Option.some.inj h] at hOther
      exact absurd hApproved hOther
    · intro h
      rw [Option.some.inj h, hApproved] at hPending
      cases hPending
  · simp only [hSame, if_false, Option.map_id']

theorem sameApproved_insert {row : OrderCandidate}
    (hId : row.id = before.orderCandidates.nextKey) (hOther : row.status ≠ .approved)
    (hAfter : after.orderCandidates = before.orderCandidates.insert row) :
    SameApproved before after := by
  intro candidate hApproved
  rw [hAfter, Table.find?_eq_some_iff, Table.find?_eq_some_iff, Table.rows_insert_of_key_eq hId,
    List.mem_append, List.mem_singleton]
  constructor
  · rintro ⟨hOld | rfl, hKey⟩
    · exact ⟨hOld, hKey⟩
    · exact absurd hApproved hOther
  · rintro ⟨hOld, hKey⟩
    exact ⟨.inl hOld, hKey⟩

theorem sameApproved_moves {service : ApprovalService} {call : ApprovalCall}
    (h : ApprovalCall.Moves service before call after) : SameApproved before after := by
  cases h with
  | stays call => exact sameApproved_of_eq rfl
  | created hCreated =>
    rename_i createCall candidate riskResult
    obtain ⟨checked, -, hRow⟩ := hCreated.row
    refine sameApproved_insert ?_ ?_ hCreated.wrote.candidates
    · rw [ApprovalCall.decided_id, hRow]
      rfl
    · rw [ApprovalCall.decided_status]
      split <;> simp
  | approved hApproved =>
    exact sameApproved_modify hApproved.found hApproved.pending (by simp [ApprovalService.executed])
      hApproved.wrote.candidates
  | rejected hRejected =>
    exact sameApproved_modify hRejected.found hRejected.pending
      (by simp [OrderCandidateRepository.withStatus]) hRejected.wrote.candidates
  | expired hExpired =>
    exact sameApproved_modify hExpired.found hExpired.pending
      (by simp [OrderCandidateRepository.withStatus]) hExpired.wrote.candidates

theorem sameApproved_expireJob (job : ExpireJob) (db : Database) : SameApproved db (job.step db) := by
  cases hGates : job.gatesOpen with
  | false =>
    rw [ExpireJob.step_closed db hGates]
    exact sameApproved_of_eq rfl
  | true =>
    obtain ⟨-, hRows⟩ := ExpireJob.step_open db hGates
    intro candidate hApproved
    rw [hRows]
    split
    · next hTarget =>
      obtain ⟨target, hMem, hId⟩ := List.mem_map.mp hTarget
      obtain ⟨hRow, hPending, -⟩ := ExpireJob.mem_expiredPending.mp (List.mem_of_mem_take hMem)
      have hFound := (Table.find?_eq_some_iff _ _ _).mpr ⟨hRow, hId⟩
      rw [hFound, Option.map_some]
      constructor
      · intro h
        rw [← Option.some.inj h] at hApproved
        cases hApproved
      · intro h
        rw [Option.some.inj h, hApproved] at hPending
        cases hPending
    · exact Iff.rfl

end SameApproved

/-! ## The tables of the executor -/

/-- What the executor and the fill sync write is left alone. -/
structure SameOrders (before after : Database) : Prop where
  realOrders : after.realOrders = before.realOrders
  realFills : after.realFills = before.realFills

section SameOrders

variable {before after : Database}

theorem SameOrders.trans {middle : Database} (first : SameOrders before middle)
    (second : SameOrders middle after) : SameOrders before after :=
  ⟨second.realOrders.trans first.realOrders, second.realFills.trans first.realFills⟩

theorem sameOrders_of_wrote {k : Nat} {candidates : Table OrderCandidate} {orders : Table VirtualOrder}
    {events : List AuditEvent} (h : Wrote before after k candidates orders events) :
    SameOrders before after := by
  constructor <;> rw [h.frame]

theorem sameOrders_moves {service : ApprovalService} {call : ApprovalCall}
    (h : ApprovalCall.Moves service before call after) : SameOrders before after := by
  cases h with
  | stays call => exact ⟨rfl, rfl⟩
  | created hCreated => exact sameOrders_of_wrote hCreated.wrote
  | approved hApproved => exact sameOrders_of_wrote hApproved.wrote
  | rejected hRejected => exact sameOrders_of_wrote hRejected.wrote
  | expired hExpired => exact sameOrders_of_wrote hExpired.wrote

def deskView (db : Database) : Table RealOrder × List RealFill := (db.realOrders, db.realFills)

theorem sameOrders_of_deskView (h : deskView after = deskView before) : SameOrders before after :=
  ⟨congrArg Prod.fst h, congrArg Prod.snd h⟩

theorem keeps_append (row : ApprovalAuditLog) :
    (ApprovalAuditLogRepository.append row).Keeps deskView := by
  unfold ApprovalAuditLogRepository.append
  simp only
  split
  · trivial
  · split
    · trivial
    · split
      · trivial
      · exact ⟨fun db => rfl, trivial⟩

theorem keeps_expireLoaded (candidate : OrderCandidate) (actor : ApprovalActor) :
    (ApprovalService.expireLoaded candidate actor).Keeps deskView := by
  have hExpire : (OrderCandidateRepository.expire candidate).Keeps deskView := by
    unfold OrderCandidateRepository.expire OrderCandidateRepository.updateStatus
    split
    · exact ⟨fun db => rfl, trivial⟩
    · trivial
  refine hExpire.attempt.bind fun outcome => ?_
  cases outcome with
  | ok expired => exact (keeps_append _).bind fun _ => trivial
  | error error => cases error <;> trivial

theorem keeps_expireEach (candidates : List OrderCandidate) :
    (ExpireJob.expireEach candidates).Keeps deskView := by
  induction candidates with
  | nil => trivial
  | cons candidate rest ih =>
    refine (keeps_expireLoaded candidate {}).attempt.bind fun outcome => ih.bind fun counts => ?_
    cases outcome with
    | ok expired => trivial
    | error error => trivial

theorem sameOrders_expireJob (job : ExpireJob) (db : Database) : SameOrders db (job.step db) := by
  have hKeeps : (ExpireJob.expirePendingApprovals job.settings job.now).Keeps deskView := by
    unfold ExpireJob.expirePendingApprovals
    split
    · trivial
    · split
      · trivial
      · refine Program.keeps_query_bind fun db => ?_
        split
        · trivial
        · exact (keeps_expireEach _).bind fun counts => trivial
  apply sameOrders_of_deskView
  rcases Program.atomically_cases unasked (ExpireJob.expirePendingApprovals job.settings job.now) db with
    ⟨result, s, hExec, hView⟩ | hSame
  · have hView' := hKeeps.view_exec unasked (.opened db)
    rw [hExec] at hView'
    rw [ExpireJob.step, hView]
    exact hView'
  · rw [ExpireJob.step, hSame]

theorem sameOrders_api (call : ApiCall) (db : Database) : SameOrders db (call.step db) := by
  have hMoves := call.moves_step db
  generalize call.step db = after at hMoves ⊢
  cases hMoves with
  | stays => exact ⟨rfl, rfl⟩
  | paper hRequest hPaper => cases hPaper <;> exact ⟨rfl, rfl⟩
  | approval hRequest hCall hApproval => exact sameOrders_moves hApproval

theorem sameApproved_api (call : ApiCall) (db : Database) : SameApproved db (call.step db) := by
  have hMoves := call.moves_step db
  generalize call.step db = after at hMoves ⊢
  cases hMoves with
  | stays => exact sameApproved_of_eq rfl
  | paper hRequest hPaper => cases hPaper <;> exact sameApproved_of_eq rfl
  | approval hRequest hCall hApproval => exact sameApproved_moves hApproval

/-- The paper jobs have no business with candidates or real orders. -/
theorem executed_frame (job : PaperJob) (db : Database) :
    (job.executed db).orderCandidates = db.orderCandidates ∧ SameOrders db (job.executed db) := by
  have hRounds := (job.executed_cases db).1
  generalize job.executed db = after at hRounds
  induction hRounds with
  | refl => exact ⟨rfl, rfl, rfl⟩
  | tail rounds round ih =>
    obtain ⟨execution, order, outcome, hRound⟩ := round
    cases hRound with
    | skipped hSkipped hClose => exact ih
    | rejected hClose hShort reason => exact ⟨ih.1, ih.2.trans ⟨rfl, rfl⟩⟩
    | filled hClose hApplied =>
      have hCandidates := congrArg Database.orderCandidates hApplied.frame
      have hOrders := congrArg Database.realOrders hApplied.frame
      have hFills := congrArg Database.realFills hApplied.frame
      exact ⟨hCandidates.trans ih.1, ih.2.trans ⟨hOrders, hFills⟩⟩

theorem paper_frame (event : PaperEvent) (db : Database) :
    SameApproved db (event.step db) ∧ SameOrders db (event.step db) := by
  cases event with
  | api call => exact ⟨sameApproved_api call db, sameOrders_api call db⟩
  | executeJob job =>
    obtain ⟨hCandidates, hOrders⟩ := executed_frame job db
    exact ⟨sameApproved_of_eq hCandidates, hOrders⟩
  | snapshotJob job =>
    have hBare := job.bare_valued db
    have hCandidates := congrArg Database.orderCandidates hBare
    have hOrders := congrArg Database.realOrders hBare
    have hFills := congrArg Database.realFills hBare
    exact ⟨sameApproved_of_eq hCandidates, hOrders, hFills⟩

end SameOrders

/-! ## Provenance -/

def IsApproved (db : Database) (candidate : OrderCandidate) : Prop :=
  candidate.status = .approved ∧ db.orderCandidates.find? candidate.id = some candidate

/-- A real order on the terms of a candidate. -/
structure OnTermsOf (candidate : OrderCandidate) (order : RealOrder) : Prop where
  candidateId : order.candidateId = candidate.id
  symbol : order.symbol = candidate.symbol
  side : order.side = candidate.side
  quantity : order.quantity = candidate.quantity
  orderType : order.orderType = candidate.orderType
  limitPrice : order.limitPrice = candidate.limitPrice
  estimatedAmount : order.estimatedAmount = candidate.estimatedAmount

/-- A fill of a stored live order. -/
def OfLiveOrder (db : Database) (fill : RealFill) : Prop :=
  ∃ order, db.realOrders.find? fill.realOrderId = some order ∧ order.dryRun = false ∧
    fill.symbol = order.symbol ∧ fill.side = order.side

/-- The order request of an approved candidate, or no order request at all. -/
def Authorized (db : Database) (exchange : Exchanged) : Prop :=
  isPlacement exchange = true → ∃ candidate transport accountNo, IsApproved db candidate ∧
    exchange.1 = .placeOrder transport (RealOrderExecutor.orderRequest candidate accountNo)

/-- Where everything at the desk comes from. -/
structure Provenance (start now : Desk) : Prop where
  approved : SameApproved start.db now.db
  kept : ∀ k order, start.db.realOrders.find? k = some order →
    ∃ status, now.db.realOrders.find? k = some { order with status := status }
  orders : ∀ k order, now.db.realOrders.find? k = some order →
    (∃ old status, start.db.realOrders.find? k = some old ∧ order = { old with status := status }) ∨
      start.db.realOrders.find? k = none ∧
        ∃ candidate, IsApproved start.db candidate ∧ OnTermsOf candidate order
  fills : ∃ added, now.db.realFills = start.db.realFills ++ added ∧
    ∀ fill ∈ added, OfLiveOrder now.db fill
  sent : ∃ added, now.sent = start.sent ++ added ∧ ∀ exchange ∈ added, Authorized start.db exchange

namespace Provenance

variable {start middle now : Desk}

theorem isApproved_iff (h : SameApproved start.db now.db) (candidate : OrderCandidate) :
    IsApproved now.db candidate ↔ IsApproved start.db candidate :=
  and_congr_right fun hApproved => h candidate hApproved

/-- A step that leaves candidates, real orders and brokers alone. -/
theorem of_same (hApproved : SameApproved start.db now.db) (hOrders : SameOrders start.db now.db)
    (hSent : now.sent = start.sent) : Provenance start now where
  approved := hApproved
  kept k order hFound := by
    rw [hOrders.realOrders]
    exact ⟨order.status, hFound⟩
  orders k order hFound := by
    rw [hOrders.realOrders] at hFound
    exact .inl ⟨order, order.status, hFound, rfl⟩
  fills := ⟨[], by rw [hOrders.realFills, List.append_nil], fun _ hMem => absurd hMem List.not_mem_nil⟩
  sent := ⟨[], by rw [hSent, List.append_nil], fun _ hMem => absurd hMem List.not_mem_nil⟩

theorem refl (desk : Desk) : Provenance desk desk :=
  of_same (sameApproved_of_eq rfl) ⟨rfl, rfl⟩ rfl

theorem trans (first : Provenance start middle) (second : Provenance middle now) :
    Provenance start now where
  approved := first.approved.trans second.approved
  kept k order hFound := by
    obtain ⟨status, hMiddle⟩ := first.kept k order hFound
    obtain ⟨status', hNow⟩ := second.kept k _ hMiddle
    exact ⟨status', hNow⟩
  orders k order hFound := by
    rcases second.orders k order hFound with ⟨old, status, hOld, rfl⟩ | ⟨hNew, candidate, hFrom, hTerms⟩
    · rcases first.orders k old hOld with ⟨older, status', hOlder, rfl⟩ |
        ⟨hNew, candidate, hFrom, hTerms⟩
      · exact .inl ⟨older, status, hOlder, rfl⟩
      · exact .inr ⟨hNew, candidate, hFrom, hTerms.candidateId, hTerms.symbol, hTerms.side,
          hTerms.quantity, hTerms.orderType, hTerms.limitPrice, hTerms.estimatedAmount⟩
    · refine .inr ⟨?_, candidate, (isApproved_iff first.approved candidate).mp hFrom, hTerms⟩
      cases hStart : start.db.realOrders.find? k with
      | none => rfl
      | some older =>
        obtain ⟨status, hMiddle⟩ := first.kept k older hStart
        rw [hNew] at hMiddle
        cases hMiddle
  fills := by
    obtain ⟨early, hEarly, hEarlyLive⟩ := first.fills
    obtain ⟨late, hLate, hLateLive⟩ := second.fills
    refine ⟨early ++ late, by rw [hLate, hEarly, List.append_assoc], fun fill hMem => ?_⟩
    rcases List.mem_append.mp hMem with hMem | hMem
    · obtain ⟨order, hFound, hLive, hSymbol, hSide⟩ := hEarlyLive fill hMem
      obtain ⟨status, hNow⟩ := second.kept _ order hFound
      exact ⟨_, hNow, hLive, hSymbol, hSide⟩
    · exact hLateLive fill hMem
  sent := by
    obtain ⟨early, hEarly, hEarlySent⟩ := first.sent
    obtain ⟨late, hLate, hLateSent⟩ := second.sent
    refine ⟨early ++ late, by rw [hLate, hEarly, List.append_assoc], fun exchange hMem => ?_⟩
    rcases List.mem_append.mp hMem with hMem | hMem
    · exact hEarlySent exchange hMem
    · intro hPlacement
      obtain ⟨candidate, transport, accountNo, hFrom, hRequest⟩ := hLateSent exchange hMem hPlacement
      exact ⟨candidate, transport, accountNo, (isApproved_iff first.approved candidate).mp hFrom,
        hRequest⟩

/-- A session of the desk, whether its caller commits it or not. -/
theorem closed {desk : Desk} {t : DbSession} (hDurable : t.durable = desk.db)
    (hView : Provenance desk { desk with db := t.view })
    (hLog : ∀ exchange ∈ t.log, Authorized desk.db exchange) (commits : Bool) :
    Provenance desk (desk.closed commits t) := by
  cases commits with
  | true =>
    exact ⟨hView.approved, hView.kept, hView.orders, hView.fills, t.log, rfl, hLog⟩
  | false =>
    have hSame : Provenance desk { desk with db := t.durable } := by
      rw [hDurable]
      exact refl desk
    exact ⟨hSame.approved, hSame.kept, hSame.orders, hSame.fills, t.log, rfl, hLog⟩

end Provenance

/-! ## The executor at the desk -/

section Execute

open RealOrderExecutor

theorem onTermsOf_settled {call : ExecuteCall} {candidate : OrderCandidate} {id : Nat}
    {reply : Except PyError KisOrderResult} {row : RealOrder}
    (h : call.settled candidate id reply = .ok row) : OnTermsOf candidate row := by
  cases reply with
  | error error => cases h
  | ok kisResult =>
    rw [ExecuteCall.settled] at h
    simp only [Except.bind] at h
    split at h
    · obtain ⟨fakeOrderNo, -, rfl⟩ := map_eq_ok_iff.mp h
      exact ⟨rfl, rfl, rfl, rfl, rfl, rfl, rfl⟩
    · unfold settledRow at h
      split at h <;>
        · obtain ⟨_, -, rfl⟩ := map_eq_ok_iff.mp h
          exact ⟨rfl, rfl, rfl, rfl, rfl, rfl, rfl⟩

theorem onTermsOf_rowAfter {call : ExecuteCall} {candidate : OrderCandidate} {id : Nat}
    {reply : Except PyError KisOrderResult} {row : RealOrder}
    (h : row ∈ call.rowAfter candidate id reply) : OnTermsOf candidate row := by
  unfold ExecuteCall.rowAfter at h
  split at h
  next settledOn hSettled =>
    obtain rfl := Option.some.inj h
    exact onTermsOf_settled hSettled
  next =>
    split at h
    · cases h
    · obtain rfl := Option.some.inj h
      exact ⟨rfl, rfl, rfl, rfl, rfl, rfl, rfl⟩

theorem isApproved_of_placement {call : ExecuteCall} {db : Database} {candidate : OrderCandidate}
    {transport : KisOrderTransport} (h : call.placement db = some (candidate, transport)) :
    IsApproved db candidate := by
  obtain ⟨hAdmitted, -⟩ := ExecuteCall.placement_eq_some_iff.mp h
  obtain ⟨hFound, hGates⟩ := admitted_eq_some_iff.mp hAdmitted
  have hId := id_of_admitted hAdmitted
  simp only [passesGates, Bool.and_eq_true, beq_iff_eq] at hGates
  refine ⟨hGates.1.1.1.1.1.1.1.1, ?_⟩
  rw [hId]
  exact hFound

/-- One row more, on the terms of an approved candidate, or none. -/
theorem provenance_recorded {desk : Desk} {after : Database} {row : Option RealOrder}
    {candidate : OrderCandidate} (hFrom : IsApproved desk.db candidate)
    (hRecorded : Recorded desk.db after row)
    (hRow : ∀ order ∈ row, order.id = desk.db.realOrders.nextKey ∧ OnTermsOf candidate order) :
    Provenance desk { desk with db := after } where
  approved := sameApproved_of_eq hRecorded.orderCandidates
  kept k order hFound := by
    obtain ⟨hMem, hKey⟩ := (Table.find?_eq_some_iff _ _ _).mp hFound
    refine ⟨order.status, (Table.find?_eq_some_iff _ _ _).mpr ⟨?_, hKey⟩⟩
    rw [hRecorded.rows]
    exact List.mem_append_left _ hMem
  orders k order hFound := by
    obtain ⟨hMem, hKey⟩ := (Table.find?_eq_some_iff _ _ _).mp hFound
    rw [hRecorded.rows, List.mem_append, Option.mem_toList] at hMem
    rcases hMem with hOld | hNew
    · exact .inl ⟨order, order.status, (Table.find?_eq_some_iff _ _ _).mpr ⟨hOld, hKey⟩, rfl⟩
    · obtain ⟨hId, hTerms⟩ := hRow order hNew
      have hNext : k = desk.db.realOrders.nextKey := hKey.symm.trans hId
      refine .inr ⟨?_, candidate, hFrom, hTerms⟩
      rw [hNext]
      exact Table.find?_nextKey _
  fills := ⟨[], by rw [hRecorded.realFills, List.append_nil], fun _ hMem => absurd hMem List.not_mem_nil⟩
  sent := ⟨[], (List.append_nil _).symm, fun _ hMem => absurd hMem List.not_mem_nil⟩

theorem provenance_execute (call : ExecuteCall) (commits : Bool) (desk : Desk) :
    Provenance desk (desk.closed commits (call.step (.opened desk.db))) := by
  cases hPlacement : call.placement desk.db with
  | none =>
    have hSame : call.step (.opened desk.db) = .opened desk.db :=
      ExecuteCall.step_refused (s := .opened desk.db) hPlacement
    rw [hSame]
    exact Provenance.closed rfl (Provenance.refl desk)
      (fun _ hMem => absurd hMem List.not_mem_nil) commits
  | some pair =>
    obtain ⟨candidate, transport⟩ := pair
    have hFrom := isApproved_of_placement hPlacement
    have hPlaced := ExecuteCall.run_placed (s := .opened desk.db) hPlacement
    have hRecorded := hPlaced.recorded
    rw [ExecuteCall.base_opened] at hRecorded
    refine Provenance.closed hPlaced.durable
      (provenance_recorded hFrom hRecorded fun order hRow => ?_) ?_ commits
    · exact ⟨(ExecuteCall.rowAfter_keeps hRow).1, onTermsOf_rowAfter hRow⟩
    · intro exchange hMem hPlacement
      have hMem : exchange ∈ (recordPlace transport call.answer (call.request candidate)
          (.opened desk.db)).log := hPlaced.log ▸ hMem
      cases transport with
      | fake => exact absurd hMem List.not_mem_nil
      | live n =>
        obtain rfl := List.mem_singleton.mp hMem
        exact ⟨candidate, n, _, hFrom, rfl⟩

end Execute

/-! ## The fill sync at the desk -/

section Sync

open FillSyncService

theorem not_placement_of_recordQuery {transport : KisOrderTransport} {answer : Answer}
    {orderNo : String} {db : Database} {exchange : Exchanged}
    (h : exchange ∈ (recordQuery transport answer orderNo (.opened db)).log) :
    isPlacement exchange = false := by
  cases transport with
  | fake => exact absurd h List.not_mem_nil
  | live n =>
    obtain rfl := List.mem_singleton.mp h
    rfl

theorem not_placement_of_sync (call : SyncCall) (db : Database) :
    ∀ exchange ∈ (call.step (.opened db)).log, isPlacement exchange = false := by
  cases hOpen : call.openOrder? db with
  | none =>
    obtain ⟨result, hRun, -⟩ := SyncCall.run_of_not_open (s := .opened db) hOpen
    rw [SyncCall.step, hRun]
    exact fun _ hMem => absurd hMem List.not_mem_nil
  | some order =>
    have hRun := SyncCall.run_of_openOrder (s := .opened db) hOpen
    obtain ⟨hFound, -, hNonTerminal⟩ := SyncCall.openOrder?_eq_some_iff.mp hOpen
    cases hReply : call.reply order with
    | error error =>
      obtain ⟨row, hExec⟩ := SyncCall.exec_reportRaised order call.answer (recordQuery
        (call.transport.getD .fake) call.answer (orderRef call.kisOrderNoPlaintext order) (.opened db))
      simp only [hReply] at hRun
      rw [SyncCall.step, hRun, hExec]
      exact fun _ hMem => not_placement_of_recordQuery hMem
    | ok response =>
      have hId : order.id = call.realOrderId := Table.key_of_find? hFound
      obtain ⟨result, after, hExec, hLog, -⟩ := exec_dispatchStatus call.answer (recordQuery
          (call.transport.getD .fake) call.answer (orderRef call.kisOrderNoPlaintext order)
          (.opened db)) hNonTerminal (by rw [recordQuery_view, hId]; exact hFound) response call.now
      simp only [hReply] at hRun
      rw [SyncCall.step, hRun, hExec, hLog]
      exact fun _ hMem => not_placement_of_recordQuery hMem

/-- The status of one open live order, and a fill of it. -/
theorem provenance_synced {desk : Desk} {after : Database} {order : RealOrder}
    {status : RealOrderStatus} {response : KisFillStatusResult} {now : Int}
    (hFound : desk.db.realOrders.find? order.id = some order) (hLive : order.dryRun = false)
    (hSynced : Synced desk.db after order status (newFill desk.db order response now)) :
    Provenance desk { desk with db := after } where
  approved := sameApproved_of_eq hSynced.orderCandidates
  kept k stored hStored := by
    have hAfter := SyncCall.find?_of_synced hSynced k
    rw [hStored, Option.map_some] at hAfter
    by_cases hKey : k = order.id
    · rw [if_pos hKey] at hAfter
      exact ⟨status, hAfter⟩
    · rw [if_neg hKey] at hAfter
      exact ⟨stored.status, hAfter⟩
  orders k stored hStored := by
    have hAfter := SyncCall.find?_of_synced hSynced k
    rw [hAfter, Option.map_eq_some_iff] at hStored
    obtain ⟨old, hOld, rfl⟩ := hStored
    split
    · exact .inl ⟨old, status, hOld, rfl⟩
    · exact .inl ⟨old, old.status, hOld, rfl⟩
  fills := by
    refine ⟨_, hSynced.realFills, fun fill hMem => ?_⟩
    rw [Option.mem_toList, newFill] at hMem
    split at hMem
    · obtain rfl := Option.some.inj hMem
      have hAfter := SyncCall.find?_of_synced hSynced order.id
      rw [hFound, Option.map_some, if_pos rfl] at hAfter
      exact ⟨_, hAfter, hLive, rfl, rfl⟩
    · cases hMem
  sent := ⟨[], (List.append_nil _).symm, fun _ hMem => absurd hMem List.not_mem_nil⟩

theorem provenance_sync (call : SyncCall) (commits : Bool) (desk : Desk) :
    Provenance desk (desk.closed commits (call.step (.opened desk.db))) := by
  have hDurable := SyncCall.durable_step call (.opened desk.db)
  have hLog := not_placement_of_sync call desk.db
  refine Provenance.closed hDurable ?_ (fun exchange hMem hPlacement => ?_) commits
  · cases hDispatched : call.dispatched? desk.db with
    | none =>
      obtain ⟨result, -, -, -, hOrders, hCandidates, hFills⟩ :=
        SyncCall.run_not_dispatched (s := .opened desk.db) hDispatched
      exact Provenance.of_same (sameApproved_of_eq hCandidates) ⟨hOrders, hFills⟩ rfl
    | some pair =>
      obtain ⟨order, response⟩ := pair
      obtain ⟨result, -, -, hSynced⟩ := SyncCall.run_dispatched (s := .opened desk.db) hDispatched
      obtain ⟨hOpen, -⟩ := SyncCall.dispatched?_eq_some_iff.mp hDispatched
      obtain ⟨hFound, hLive, -⟩ := SyncCall.openOrder?_eq_some_iff.mp hOpen
      have hId : order.id = call.realOrderId := Table.key_of_find? hFound
      rw [← hId] at hFound
      exact provenance_synced hFound hLive hSynced
  · rw [hLog exchange hMem] at hPlacement
    cases hPlacement

theorem provenance_syncRoute (request : SyncRequest) (desk : Desk) :
    Provenance desk (desk.closed false (request.serve desk.db).2) := by
  have hStays : Provenance desk (desk.closed false (.opened desk.db)) :=
    Provenance.closed rfl (Provenance.refl desk) (fun _ hMem => absurd hMem List.not_mem_nil) false
  cases hGates : request.gatesOpen with
  | false =>
    obtain ⟨detail, hServe⟩ := SyncRequest.serve_closed desk.db hGates
    rw [hServe]
    exact hStays
  | true =>
    rw [SyncRequest.serve_open hGates]
    cases desk.db.realOrders.find? request.orderId with
    | none => exact hStays
    | some order => exact provenance_sync request.sync true desk

end Sync

/-! ## Runs of the desk -/

namespace Desk

theorem provenance_step (action : DeskAction) (desk : Desk) :
    Provenance desk (step action desk) := by
  cases action with
  | paper event =>
    obtain ⟨hApproved, hOrders⟩ := paper_frame event desk.db
    exact Provenance.of_same hApproved hOrders rfl
  | expireJob job =>
    exact Provenance.of_same (sameApproved_expireJob job desk.db) (sameOrders_expireJob job desk.db) rfl
  | execute call commits => exact provenance_execute call commits desk
  | syncFills call commits => exact provenance_sync call commits desk
  | syncRoute request => exact provenance_syncRoute request desk

/-- Whatever happens at the desk in whatever order: the approved candidates stay as they are and
none is added, no real order is lost or changes but in its status, each new one is on the terms of
a candidate that was approved at the start, each new fill is of a live order, and live brokers are
asked for nothing but orders of such candidates. -/
theorem provenance_run (actions : List DeskAction) (desk : Desk) :
    Provenance desk (run step actions desk) :=
  run_invariant (Provenance desk) (fun action _ h => h.trans (provenance_step action _)) actions
    (Provenance.refl desk)

/-- What the routes and the jobs make of an empty desk never reaches a broker: an approve hands its
candidate to the simulation and leaves none for the executor. -/
theorem nothing_real_run (actions : List DeskAction) (desk : Desk)
    (hCandidates : ∀ candidate ∈ desk.db.orderCandidates.rows, candidate.status ≠ .approved)
    (hOrders : desk.db.realOrders.rows = []) :
    (run step actions desk).db.realOrders.rows = [] ∧
      (run step actions desk).db.realFills = desk.db.realFills ∧
      placements (run step actions desk).sent = placements desk.sent := by
  have hProvenance := run_invariant (Provenance desk)
    (fun action _ h => h.trans (provenance_step action _)) actions (Provenance.refl desk)
  generalize run step actions desk = now at hProvenance ⊢
  have hNone : ∀ candidate, ¬ IsApproved desk.db candidate :=
    fun candidate h => hCandidates candidate (Table.mem_of_find? h.2) h.1
  have hEmpty : ∀ k, now.db.realOrders.find? k = none := by
    intro k
    cases hFound : now.db.realOrders.find? k with
    | none => rfl
    | some order =>
      rcases hProvenance.orders k order hFound with ⟨old, status, hOld, -⟩ | ⟨-, candidate, hFrom, -⟩
      · have hMem := Table.mem_of_find? hOld
        rw [hOrders] at hMem
        cases hMem
      · exact absurd hFrom (hNone candidate)
  refine ⟨?_, ?_, ?_⟩
  · refine List.eq_nil_iff_forall_not_mem.mpr fun order hMem => ?_
    have hFound := (Table.find?_eq_some_iff _ order.id order).mpr ⟨hMem, rfl⟩
    rw [hEmpty] at hFound
    cases hFound
  · obtain ⟨added, hFills, hLive⟩ := hProvenance.fills
    have hNil : added = [] := by
      refine List.eq_nil_iff_forall_not_mem.mpr fun fill hMem => ?_
      obtain ⟨order, hFound, -⟩ := hLive fill hMem
      rw [hEmpty] at hFound
      cases hFound
    rw [hFills, hNil, List.append_nil]
  · obtain ⟨added, hSent, hAuthorized⟩ := hProvenance.sent
    have hNil : placements added = [] := by
      refine List.filter_eq_nil_iff.mpr fun exchange hMem hPlacement => ?_
      obtain ⟨candidate, -, -, hFrom, -⟩ := hAuthorized exchange hMem hPlacement
      exact hNone candidate hFrom
    rw [hSent, placements, List.filter_append]
    exact (congrArg (_ ++ ·) hNil).trans (List.append_nil _)

def approveThenExecute : List DeskAction :=
  [.paper (.api ⟨paperSettings, .inr (.create candidateBody { userId := 1 } 0 0 id)⟩),
    .paper (.api ⟨paperSettings, .inr (.approve 1 { userId := 1 } 0)⟩),
    .execute (liveCall (openSettings false true) 1 (.ok ⟨true, "1", "SUBMITTED"⟩)) true]

theorem nothing_real_run_approved :
    (run step approveThenExecute ⟨fundedDatabase, []⟩).db.statusOf 1 = some .executedPaper ∧
      placements (run step approveThenExecute ⟨fundedDatabase, []⟩).sent = [] := by
  refine ⟨by decide +kernel, ?_⟩
  have hCandidates : ∀ candidate ∈ fundedDatabase.orderCandidates.rows, candidate.status ≠ .approved :=
    fun candidate hMem => absurd hMem List.not_mem_nil
  exact (nothing_real_run approveThenExecute ⟨fundedDatabase, []⟩ hCandidates rfl).2.2

end Desk

end StockAiPlatform
