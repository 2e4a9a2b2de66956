import Mathlib.Data.Nat.Cast.Order.Ring
import StockAiPlatform.Broker.ExecutorOutcomes
import StockAiPlatform.Transaction.Run

/-! # Runs of the executor

A call is data: the executor it is made on, its settings, its candidate and
what every transport would answer. It commits nothing: that is for its caller.
-/

namespace StockAiPlatform
set_option autoImplicit false

open Transaction Python

structure ExecuteCall where
  executor : RealOrderExecutor
  ambient : Ambient
  settings : Settings
  candidateId : Nat
  answer : Answer

namespace ExecuteCall

open RealOrderExecutor

def run (call : ExecuteCall) (s : DbSession) : Except PyError ExecutorResult × DbSession :=
  (execute call.executor call.ambient call.settings call.candidateId).exec call.answer s

def step (call : ExecuteCall) (s : DbSession) : DbSession := (call.run s).2

def transport? (call : ExecuteCall) : Option KisOrderTransport :=
  if call.settings.realOrderDryRun then some call.executor.injected
  else resolveRealTransport call.executor call.settings

def placement (call : ExecuteCall) (db : Database) : Option (OrderCandidate × KisOrderTransport) :=
  match admitted call.ambient call.settings call.candidateId db, call.transport? with
  | some candidate, some transport => some (candidate, transport)
  | _, _ => none

def request (call : ExecuteCall) (candidate : OrderCandidate) : KisOrderRequest :=
  orderRequest candidate
    (if call.settings.realOrderDryRun then "DRY_RUN" else call.settings.kisAccountNo)

def reply (call : ExecuteCall) (candidate : OrderCandidate) (transport : KisOrderTransport) :
    Except PyError KisOrderResult :=
  placeReply transport call.ambient.fakeOrderCounter call.answer (call.request candidate)

/-- The row that a placing call settles on, or the error it ends with. -/
def settled (call : ExecuteCall) (candidate : OrderCandidate) (id : Nat)
    (reply : Except PyError KisOrderResult) : Except PyError RealOrder :=
  reply.bind fun kisResult =>
    if call.settings.realOrderDryRun then
      (encoded kisResult.orderNo).map (dryRunRow call.ambient candidate id)
    else settledRow call.ambient (anchorRow call.ambient candidate id) kisResult

/-- The flush of the error message fails, and the transaction of the call with it. -/
def flushFails (call : ExecuteCall) : Except PyError KisOrderResult → Bool
  | .error _ => false
  | .ok kisResult => !call.settings.realOrderDryRun
    && classifyPlaceMessage kisResult.message != .submitted
    && !isRecordable call.ambient kisResult

/-- What a placing call does not undo. -/
def base (call : ExecuteCall) (s : DbSession) (reply : Except PyError KisOrderResult) : Database :=
  if call.flushFails reply then s.durable else s.view

/-- The row a placing call leaves. One that raises leaves its anchor, if it had one and no flush
failed. -/
def rowAfter (call : ExecuteCall) (candidate : OrderCandidate) (id : Nat)
    (reply : Except PyError KisOrderResult) : Option RealOrder :=
  match call.settled candidate id reply with
  | .ok row => some row
  | .error _ =>
    if call.settings.realOrderDryRun || call.flushFails reply then none
    else some (anchorRow call.ambient candidate id)

theorem placement_eq_some_iff {call : ExecuteCall} {db : Database} {candidate : OrderCandidate}
    {transport : KisOrderTransport} :
    call.placement db = some (candidate, transport) ↔
      admitted call.ambient call.settings call.candidateId db = some candidate ∧
      call.transport? = some transport := by
  unfold placement
  cases admitted call.ambient call.settings call.candidateId db <;>
    cases call.transport? <;> simp

/-- A call that places nothing reports that it is blocked and leaves the session as it was. -/
theorem run_refused {call : ExecuteCall} {s : DbSession} (h : call.placement s.view = none) :
    ∃ result, result.status = .blocked ∧ call.run s = (.ok result, s) := by
  rcases decides_checkGates call.answer s call.ambient call.settings call.candidateId with
    ⟨refusal, hBlocked, -, hExec⟩ | ⟨candidate, hAdmitted, hExec⟩
  · refine ⟨refusal, hBlocked, ?_⟩
    rw [run, execute, Program.exec_bind_ok call.answer s hExec]
    rfl
  · have hTransport : call.transport? = none := by
      cases hTransport : call.transport? with
      | none => rfl
      | some transport =>
        rw [placement_eq_some_iff.mpr ⟨hAdmitted, hTransport⟩] at h
        contradiction
    cases hDry : call.settings.realOrderDryRun with
    | true => simp [transport?, hDry] at hTransport
    | false =>
      simp only [transport?, hDry, Bool.false_eq_true, if_false] at hTransport
      refine ⟨transportUnavailable, rfl, ?_⟩
      rw [run, execute, Program.exec_bind_ok call.answer s hExec]
      simp only [hDry, Bool.false_eq_true, if_false, hTransport]
      rfl

theorem run_eq_of_placement {call : ExecuteCall} {s : DbSession} {candidate : OrderCandidate}
    {transport : KisOrderTransport} (h : call.placement s.view = some (candidate, transport)) :
    call.run s = (if call.settings.realOrderDryRun
      then executeDryRun call.executor call.ambient candidate
      else executeReal call.ambient candidate call.settings transport).exec call.answer s := by
  obtain ⟨hAdmitted, hTransport⟩ := placement_eq_some_iff.mp h
  rcases decides_checkGates call.answer s call.ambient call.settings call.candidateId with
    ⟨-, -, hNone, -⟩ | ⟨candidate', hSome, hExec⟩
  · rw [hAdmitted] at hNone
    contradiction
  · obtain rfl : candidate = candidate' := Option.some.inj (hAdmitted.symm.trans hSome)
    rw [run, execute, Program.exec_bind_ok call.answer s hExec]
    cases hDry : call.settings.realOrderDryRun with
    | true => rfl
    | false =>
      simp only [transport?, hDry, Bool.false_eq_true, if_false] at hTransport
      simp only [Bool.false_eq_true, if_false, hTransport]

theorem base_opened (call : ExecuteCall) (db : Database) (reply : Except PyError KisOrderResult) :
    call.base (.opened db) reply = db := ite_self db

/-- What a call past the gates leaves, whatever the transport replies. -/
structure Placed (call : ExecuteCall) (s : DbSession) (candidate : OrderCandidate)
    (transport : KisOrderTransport) (left : Except PyError ExecutorResult × DbSession) : Prop where
  log : left.2.log = (recordPlace transport call.answer (call.request candidate) s).log
  durable : left.2.durable = s.durable
  recorded : Recorded (call.base s (call.reply candidate transport)) left.2.view
    (call.rowAfter candidate s.view.realOrders.nextKey (call.reply candidate transport))
  returned : ∀ result, left.1 = .ok result → ∃ row, call.settled candidate
    s.view.realOrders.nextKey (call.reply candidate transport) = .ok row

/-- An error before anything was written leaves the session as it was, but for the request. -/
theorem placed_of_raised {call : ExecuteCall} {s : DbSession} {candidate : OrderCandidate}
    {transport : KisOrderTransport} {error : PyError}
    (hDry : call.settings.realOrderDryRun = true)
    (hError : call.settled candidate s.view.realOrders.nextKey (call.reply candidate transport) =
      .error error) :
    Placed call s candidate transport
      (.error error, recordPlace transport call.answer (call.request candidate) s) where
  log := rfl
  durable := recordPlace_durable _ _ _ _
  recorded := by
    have hFlush : call.flushFails (call.reply candidate transport) = false := by
      cases call.reply candidate transport <;> simp [flushFails, hDry]
    rw [base, hFlush, rowAfter, hError, recordPlace_view]
    simp only [hDry]
    exact Recorded.none s.view
  returned := nofun

theorem placed_executeDryRun (call : ExecuteCall) (s : DbSession) (candidate : OrderCandidate)
    (hDry : call.settings.realOrderDryRun = true) :
    Placed call s candidate call.executor.injected
      ((executeDryRun call.executor call.ambient candidate).exec call.answer s) := by
  have hRequest : call.request candidate = orderRequest candidate "DRY_RUN" := by
    rw [request, hDry, if_pos rfl]
  cases hReply : call.reply candidate call.executor.injected with
  | error error =>
    have hAsked := hReply
    rw [reply, hRequest] at hAsked
    rw [exec_executeDryRun_raised call.answer s call.ambient call.executor candidate hAsked,
      ← hRequest]
    exact placed_of_raised hDry (by rw [hReply, settled]; rfl)
  | ok kisResult =>
    have hAsked := hReply
    rw [reply, hRequest] at hAsked
    cases hNumber : encoded kisResult.orderNo with
    | error error =>
      rw [exec_executeDryRun_refused call.answer s call.ambient call.executor candidate hAsked
        hNumber, ← hRequest]
      refine placed_of_raised hDry ?_
      rw [hReply, settled]
      simp only [Except.bind, hDry, if_true, hNumber]
      rfl
    | ok fakeOrderNo =>
      have hSettled : call.settled candidate s.view.realOrders.nextKey (.ok kisResult) =
          .ok (dryRunRow call.ambient candidate s.view.realOrders.nextKey fakeOrderNo) := by
        rw [settled]
        simp only [Except.bind, hDry, if_true, hNumber]
        rfl
      obtain ⟨result, -, -, hExec⟩ := exec_executeDryRun_settled call.answer s call.ambient
        call.executor candidate hAsked hNumber
      rw [hExec]
      refine ⟨by rw [hRequest]; rfl, recordPlace_durable _ _ _ _, ?_, fun _ _ => ⟨_, hReply ▸ hSettled⟩⟩
      have hFlush : call.flushFails (.ok kisResult) = false := by simp [flushFails, hDry]
      rw [hReply, base, hFlush, rowAfter, hSettled, Session.write_view, recordPlace_view]
      exact ⟨Table.rows_insert_of_key_eq rfl, rfl, rfl⟩

section Real

variable {call : ExecuteCall} {s : DbSession} {candidate : OrderCandidate}
  {transport : KisOrderTransport}

theorem reply_of_real (hReal : call.settings.realOrderDryRun = false) :
    call.reply candidate transport = placeReply transport call.ambient.fakeOrderCounter call.answer
      (orderRequest candidate call.settings.kisAccountNo) := by
  rw [reply, request, hReal, if_neg Bool.false_ne_true]

theorem settled_of_real (hReal : call.settings.realOrderDryRun = false) (id : Nat)
    (kisResult : KisOrderResult) : call.settled candidate id (.ok kisResult) =
      settledRow call.ambient (anchorRow call.ambient candidate id) kisResult := by
  rw [settled]
  simp only [Except.bind, hReal, Bool.false_eq_true, if_false]

theorem log_asked (hReal : call.settings.realOrderDryRun = false) :
    (askedSession call.answer s call.ambient call.settings candidate transport).log =
      (recordPlace transport call.answer (call.request candidate) s).log := by
  rw [request, hReal, if_neg Bool.false_ne_true]
  cases transport <;> rfl

/-- Where the transport raises, the anchor row is left in the session. -/
theorem placed_executeReal_raised (hReal : call.settings.realOrderDryRun = false) {error : PyError}
    (hReply : call.reply candidate transport = .error error) :
    Placed call s candidate transport
      ((executeReal call.ambient candidate call.settings transport).exec call.answer s) := by
  rw [exec_executeReal_raised call.answer s call.ambient call.settings candidate transport
    ((reply_of_real hReal).symm.trans hReply)]
  refine ⟨log_asked hReal,
    durable_askedSession call.answer s call.ambient call.settings candidate transport, ?_, nofun⟩
  rw [hReply, base, rowAfter, settled]
  simp only [Except.bind, flushFails, hReal]
  exact recorded_anchor call.answer s call.ambient call.settings candidate transport rfl

theorem placed_executeReal_settled (hReal : call.settings.realOrderDryRun = false)
    {kisResult : KisOrderResult} (hReply : call.reply candidate transport = .ok kisResult)
    {row : RealOrder} (hRow : settledRow call.ambient
      (anchorRow call.ambient candidate s.view.realOrders.nextKey) kisResult = .ok row) :
    Placed call s candidate transport
      ((executeReal call.ambient candidate call.settings transport).exec call.answer s) := by
  obtain ⟨result, after, -, -, hExec, hLogged, hAfter, hRecorded⟩ := exec_executeReal_settled
    call.answer s call.ambient call.settings candidate transport
    ((reply_of_real hReal).symm.trans hReply) hRow
  have hSettled := (settled_of_real hReal s.view.realOrders.nextKey kisResult).trans hRow
  have hFlush : call.flushFails (.ok kisResult) = false := by
    simp [flushFails, exists_settledRow_iff.mp ⟨row, hRow⟩]
  rw [hExec]
  refine ⟨hLogged.trans (log_asked hReal), hAfter, ?_, fun _ _ => ⟨row, hReply ▸ hSettled⟩⟩
  rw [hReply, base, hFlush, rowAfter, hSettled]
  exact hRecorded

/-- An order number that cannot be hashed leaves the anchor row; a message that cannot be stored
leaves what was durable. -/
theorem placed_executeReal_refused (hReal : call.settings.realOrderDryRun = false)
    {kisResult : KisOrderResult} (hReply : call.reply candidate transport = .ok kisResult)
    {error : PyError} (hRow : settledRow call.ambient
      (anchorRow call.ambient candidate s.view.realOrders.nextKey) kisResult = .error error) :
    Placed call s candidate transport
      ((executeReal call.ambient candidate call.settings transport).exec call.answer s) := by
  have hSettled := (settled_of_real hReal s.view.realOrders.nextKey kisResult).trans hRow
  have hDurable := durable_askedSession call.answer s call.ambient call.settings candidate transport
  rw [exec_executeReal_refused call.answer s call.ambient call.settings candidate transport
    ((reply_of_real hReal).symm.trans hReply) hRow]
  by_cases hClass : classifyPlaceMessage kisResult.message = .submitted
  · rw [if_pos hClass]
    refine ⟨log_asked hReal, hDurable, ?_, nofun⟩
    rw [hReply, base, rowAfter, hSettled]
    simp only [flushFails, hReal, hClass]
    exact recorded_anchor call.answer s call.ambient call.settings candidate transport rfl
  · rw [if_neg hClass]
    refine ⟨log_asked hReal, hDurable, ?_, nofun⟩
    have hFlush : call.flushFails (.ok kisResult) = true := by
      simp [flushFails, hReal, hClass, not_isRecordable_of_error hRow]
    rw [hReply, base, hFlush, rowAfter, hSettled, Session.rollback_view, hDurable]
    simp only [hFlush, Bool.or_true, if_true]
    exact Recorded.none s.durable

theorem placed_executeReal (call : ExecuteCall) (s : DbSession) (candidate : OrderCandidate)
    (transport : KisOrderTransport) (hReal : call.settings.realOrderDryRun = false) :
    Placed call s candidate transport
      ((executeReal call.ambient candidate call.settings transport).exec call.answer s) := by
  cases hReply : call.reply candidate transport with
  | error error => exact placed_executeReal_raised hReal hReply
  | ok kisResult =>
    cases hRow : settledRow call.ambient
        (anchorRow call.ambient candidate s.view.realOrders.nextKey) kisResult with
    | ok row => exact placed_executeReal_settled hReal hReply hRow
    | error error => exact placed_executeReal_refused hReal hReply hRow

end Real

/-- A call that places an order asks its transport once and adds at most one row. -/
theorem run_placed {call : ExecuteCall} {s : DbSession} {candidate : OrderCandidate}
    {transport : KisOrderTransport} (h : call.placement s.view = some (candidate, transport)) :
    Placed call s candidate transport (call.run s) := by
  have hTransport := (placement_eq_some_iff.mp h).2
  rw [run_eq_of_placement h]
  cases hDry : call.settings.realOrderDryRun with
  | true =>
    obtain rfl : call.executor.injected = transport := by
      simpa [transport?, hDry] using hTransport
    exact placed_executeDryRun call s candidate hDry
  | false => exact placed_executeReal call s candidate transport hDry

theorem settled_keeps {call : ExecuteCall} {candidate : OrderCandidate} {id : Nat}
    {reply : Except PyError KisOrderResult} {row : RealOrder}
    (h : call.settled candidate id reply = .ok row) :
    row.id = id ∧ row.candidateId = candidate.id ∧
      row.estimatedAmount = candidate.estimatedAmount := by
  cases reply with
  | error error => cases h
  | ok kisResult =>
    rw [settled] at h
    simp only [Except.bind] at h
    split at h
    · obtain ⟨fakeOrderNo, -, rfl⟩ := map_eq_ok_iff.mp h
      exact ⟨rfl, rfl, rfl⟩
    · obtain ⟨hId, hCandidate, hAmount, -⟩ := settledRow_keeps h
      exact ⟨hId, hCandidate, hAmount⟩

theorem rowAfter_keeps {call : ExecuteCall} {candidate : OrderCandidate} {id : Nat}
    {reply : Except PyError KisOrderResult} {row : RealOrder}
    (h : row ∈ call.rowAfter candidate id reply) :
    row.id = id ∧ row.candidateId = candidate.id ∧
      row.estimatedAmount = candidate.estimatedAmount := by
  unfold rowAfter at h
  split at h
  next settledOn hSettled =>
    obtain rfl := Option.some.inj h
    exact settled_keeps hSettled
  next =>
    split at h
    · cases h
    · obtain rfl := Option.some.inj h
      exact ⟨rfl, rfl, rfl⟩

/-- A placing call that returns has added the row it settled on. -/
theorem recorded_of_returned {call : ExecuteCall} {s : DbSession} {candidate : OrderCandidate}
    {transport : KisOrderTransport} (h : call.placement s.view = some (candidate, transport))
    {result : ExecutorResult} (hOk : (call.run s).1 = .ok result) :
    ∃ row, call.settled candidate s.view.realOrders.nextKey (call.reply candidate transport) =
      .ok row ∧ Recorded s.view (call.step s).view (some row) := by
  have hPlaced := run_placed h
  obtain ⟨row, hRow⟩ := hPlaced.returned result hOk
  refine ⟨row, hRow, ?_⟩
  have hRecorded := hPlaced.recorded
  have hFlush : call.flushFails (call.reply candidate transport) = false := by
    cases hReply : call.reply candidate transport with
    | error error => rfl
    | ok kisResult =>
      rw [hReply, settled] at hRow
      simp only [Except.bind] at hRow
      rw [flushFails]
      split at hRow
      next hDry => simp [hDry]
      next => simp [exists_settledRow_iff.mp ⟨row, hRow⟩]
  rw [base, hFlush, rowAfter, hRow] at hRecorded
  exact hRecorded

theorem step_refused {call : ExecuteCall} {s : DbSession} (h : call.placement s.view = none) :
    call.step s = s := by
  obtain ⟨result, -, hRun⟩ := run_refused h
  rw [step, hRun]

end ExecuteCall

def approvedCandidate (id : Nat) (symbol : String) (amount : Nat) : OrderCandidate where
  id := id
  accountId := 1
  source := .manual
  symbol := symbol
  side := .buy
  quantity := 7
  orderType := .market
  limitPrice := none
  estimatedAmount := amount
  status := .approved
  createdAt := 0
  quantity_pos := by decide
  limitPrice_ok := rfl
  estimatedAmount_nonneg := Nat.cast_nonneg amount

def approvedDatabase (candidates : List OrderCandidate) : Database :=
  { Database.empty with
    orderCandidates := candidates.foldl Table.insert ∅
    virtualAccounts := Table.insert ∅ { id := 1, initialCash := 1000000, cashBalance := 1000000, paperTradingEnabled := true } }

def openSettings (realOrderDryRun approvalRequired : Bool) : Settings :=
  { Settings.paranoid with
    tradingSafetyEnabled := true
    killSwitchEnabled := false
    approvalRequired := approvalRequired
    realTradingEnabled := true
    kisOrderEnabled := true
    realOrderDryRun := realOrderDryRun }

def quietAmbient : Ambient where
  capNow := microsPerHour
  riskNow := microsPerHour
  createdNow := microsPerHour
  submittedNow := microsPerHour
  fakeOrderCounter := 0
  substrings := ⟨sensitiveSubstrings, .refl _⟩

/-- A call on an executor with an injected live transport that gives this one answer. -/
def liveCall (settings : Settings) (candidateId : Nat) (reply : Except PyError KisOrderResult) :
    ExecuteCall where
  executor := { transport := some (.live 0), realTransportFactory := none }
  ambient := quietAmbient
  settings := settings
  candidateId := candidateId
  answer
    | .placeOrder _ _ => reply
    | .queryFillStatus _ _ => .error (.transport "not asked")

end StockAiPlatform
