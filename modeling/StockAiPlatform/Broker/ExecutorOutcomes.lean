import StockAiPlatform.Broker.RealOrderExecutor

/-! # What one call of the executor can do

The nine gates as one predicate on the database, and each branch of the call
as the session it leaves. Later arguments use these and never unfold the call.
-/

namespace StockAiPlatform
set_option autoImplicit false

open Transaction Python

namespace RealOrderExecutor

/-- Gates 1 to 9 on a candidate that was found. -/
def passesGates (ambient : Ambient) (settings : Settings) (db : Database)
    (candidate : OrderCandidate) : Bool :=
  candidate.status == .approved
    && !RealOrderRepository.hasNonFailed candidate.id db
    && !settings.killSwitchEnabled
    && settings.tradingSafetyEnabled
    && settings.realTradingEnabled
    && settings.kisOrderEnabled
    && decide (candidate.estimatedAmount ≤ settings.maxRealOrderAmount)
    && decide (db.todayRealOrderTotal candidate.accountId ambient.capNow
        + candidate.estimatedAmount ≤ settings.maxRealDailyOrderAmount)
    && (PreTradeRiskEngine.evaluate settings db candidate ambient.riskNow).passed

/-- The candidate the gates let through, if they do. -/
def admitted (ambient : Ambient) (settings : Settings) (candidateId : Nat) (db : Database) :
    Option OrderCandidate :=
  (db.orderCandidates.find? candidateId).filter (passesGates ambient settings db)

theorem admitted_eq_some_iff {ambient : Ambient} {settings : Settings} {candidateId : Nat}
    {db : Database} {candidate : OrderCandidate} :
    admitted ambient settings candidateId db = some candidate ↔
      db.orderCandidates.find? candidateId = some candidate ∧
      passesGates ambient settings db candidate = true := by
  rw [admitted, Option.filter_eq_some_iff]

theorem id_of_admitted {ambient : Ambient} {settings : Settings} {candidateId : Nat}
    {db : Database} {candidate : OrderCandidate}
    (h : admitted ambient settings candidateId db = some candidate) :
    candidate.id = candidateId :=
  Table.key_of_find? (admitted_eq_some_iff.mp h).1

section Gates

variable {ambient : Ambient} {settings : Settings} {db : Database} {candidate : OrderCandidate}

theorem hasNonFailed_of_passesGates (h : passesGates ambient settings db candidate = true) :
    RealOrderRepository.hasNonFailed candidate.id db = false := by
  simp only [passesGates, Bool.and_eq_true, Bool.not_eq_true'] at h
  exact h.1.1.1.1.1.1.1.2

theorem orderCap_of_passesGates (h : passesGates ambient settings db candidate = true) :
    candidate.estimatedAmount ≤ settings.maxRealOrderAmount := by
  simp only [passesGates, Bool.and_eq_true, decide_eq_true_eq] at h
  exact h.1.1.2

theorem dailyCap_of_passesGates (h : passesGates ambient settings db candidate = true) :
    db.todayRealOrderTotal candidate.accountId ambient.capNow + candidate.estimatedAmount
      ≤ settings.maxRealDailyOrderAmount := by
  simp only [passesGates, Bool.and_eq_true, decide_eq_true_eq] at h
  exact h.1.2

end Gates

/-- A chain of gates that reads only and agrees with `verdict` on who gets through. -/
def Decides (answer : Answer) (s : DbSession) (verdict : Option OrderCandidate)
    (gates : App (Except ExecutorResult OrderCandidate)) : Prop :=
  (∃ refusal, refusal.status = .blocked ∧ verdict = none ∧
    gates.exec answer s = (.ok (.error refusal), s)) ∨
  (∃ candidate, verdict = some candidate ∧ gates.exec answer s = (.ok (.ok candidate), s))

namespace Decides

variable {answer : Answer} {s : DbSession} {verdict : Option OrderCandidate}

theorem refuse {refusal : ExecutorResult} (hBlocked : refusal.status = .blocked)
    (hVerdict : verdict = none) : Decides answer s verdict (pure (.error refusal)) :=
  .inl ⟨refusal, hBlocked, hVerdict, rfl⟩

theorem pass {candidate : OrderCandidate} (hVerdict : verdict = some candidate) :
    Decides answer s verdict (pure (.ok candidate)) :=
  .inr ⟨candidate, hVerdict, rfl⟩

theorem query {α : Type} (statement : Query) (f : Database → α)
    {rest : α → App (Except ExecutorResult OrderCandidate)}
    (h : Decides answer s verdict (rest (f s.view))) :
    Decides answer s verdict (Program.query statement f >>= rest) := by
  rw [Decides, Program.exec_bind_ok answer s (Program.exec_query answer s statement f)]
  exact h

theorem gate {refuses : Prop} [Decidable refuses]
    {p rest : App (Except ExecutorResult OrderCandidate)}
    (hRefuse : refuses → Decides answer s verdict p)
    (hPass : ¬refuses → Decides answer s verdict rest) :
    Decides answer s verdict (if refuses then p else rest) := by
  by_cases h : refuses
  · rw [if_pos h]
    exact hRefuse h
  · rw [if_neg h]
    exact hPass h

end Decides

variable (answer : Answer) (s : DbSession) (ambient : Ambient) (settings : Settings)
  (candidateId : Nat)

theorem decides_checkGates :
    Decides answer s (admitted ambient settings candidateId s.view)
      (checkGates ambient settings candidateId) := by
  unfold checkGates
  refine .query _ _ ?_
  cases hFind : s.view.orderCandidates.find? candidateId with
  | none => exact .refuse rfl (by rw [admitted, hFind]; rfl)
  | some candidate =>
    have hId : candidate.id = candidateId := Table.key_of_find? hFind
    have hVerdict : admitted ambient settings candidateId s.view =
        if passesGates ambient settings s.view candidate then some candidate else none := by
      rw [admitted, hFind, Option.filter_some]
    refine .gate (fun h => .refuse rfl ?_) fun hApproved => ?_
    · rw [hVerdict]; simp [passesGates, h]
    refine .query _ _ (.gate (fun h => .query _ _ (.refuse rfl ?_)) fun hActive => ?_)
    · rw [hVerdict]; simp [passesGates, hId, h]
    refine .gate (fun h => .refuse rfl ?_) fun hKill => ?_
    · rw [hVerdict]; simp [passesGates, h]
    refine .gate (fun h => .refuse rfl ?_) fun hSafety => ?_
    · rw [hVerdict]; simp_all [passesGates]
    refine .gate (fun h => .refuse rfl ?_) fun hTrading => ?_
    · rw [hVerdict]; simp_all [passesGates]
    refine .gate (fun h => .refuse rfl ?_) fun hKis => ?_
    · rw [hVerdict]; simp_all [passesGates]
    refine .gate (fun h => .refuse rfl ?_) fun hPerOrder => ?_
    · rw [hVerdict]; simp [passesGates, not_le.mpr h]
    refine .query _ _ (.gate (fun h => .refuse rfl ?_) fun hDaily => ?_)
    · rw [hVerdict]; simp [passesGates, not_le.mpr h]
    refine .query _ _ (.gate (fun h => .refuse rfl ?_) fun hRisk => ?_)
    · rw [hVerdict]; simp_all [passesGates]
    refine .pass ?_
    rw [hVerdict, if_pos]
    simp_all [passesGates]

/-- `after` is `before` with at most one order row more; candidates and fills are kept. -/
structure Recorded (before after : Database) (row : Option RealOrder) : Prop where
  rows : after.realOrders.rows = before.realOrders.rows ++ row.toList
  orderCandidates : after.orderCandidates = before.orderCandidates
  realFills : after.realFills = before.realFills

theorem Recorded.none (db : Database) : Recorded db db none := ⟨by simp, rfl, rfl⟩

/-- What the failure path makes of the anchor row. -/
def failedOrder (order : RealOrder) (classification : PlaceClassification) (message : String) :
    RealOrder :=
  { order with
    status := .failed
    errorCode := some classification.value
    errorMessage := some message }

/-- What the real path makes of the anchor row once the broker has answered, if it can write the
texts of the answer. -/
def settledRow (ambient : Ambient) (order : RealOrder) (kisResult : KisOrderResult) :
    Except PyError RealOrder :=
  match classifyPlaceMessage kisResult.message with
  | .submitted => (brokerHash kisResult.orderNo).map fun hash =>
    { order with
      status := .submitted
      brokerOrderNoHash := hash
      submittedAt := some ambient.submittedNow }
  | classification =>
    (bindText ambient.onSqlite (sanitizedMessage ambient kisResult.message)).map
      (failedOrder order classification)

/-- The text that the answer leaves in the row can be written. -/
def isRecordable (ambient : Ambient) (kisResult : KisOrderResult) : Bool :=
  match classifyPlaceMessage kisResult.message with
  | .submitted => kisResult.orderNo.isEncodable
  | _ => isStorable ambient.onSqlite (sanitizedMessage ambient kisResult.message)

section SettledRow

variable {ambient : Ambient} {order row : RealOrder} {kisResult : KisOrderResult}

theorem map_eq_ok_iff {ε α β : Type} {f : α → β} {outcome : Except ε α} {b : β} :
    outcome.map f = .ok b ↔ ∃ a, outcome = .ok a ∧ f a = b := by
  cases outcome <;> simp [Except.map]

theorem exists_map_eq_ok_iff {ε α β : Type} {f : α → β} {outcome : Except ε α} :
    (∃ b, outcome.map f = .ok b) ↔ ∃ a, outcome = .ok a := by
  cases outcome <;> simp [Except.map]

theorem map_eq_error_iff {ε α β : Type} {f : α → β} {outcome : Except ε α} {error : ε} :
    outcome.map f = .error error ↔ outcome = .error error := by
  cases outcome <;> simp [Except.map]

theorem settledRow_of_submitted (h : classifyPlaceMessage kisResult.message = .submitted) :
    settledRow ambient order kisResult = (brokerHash kisResult.orderNo).map fun hash =>
      { order with
        status := .submitted
        brokerOrderNoHash := hash
        submittedAt := some ambient.submittedNow } := by
  rw [settledRow, h]

theorem settledRow_of_not_submitted (h : classifyPlaceMessage kisResult.message ≠ .submitted) :
    settledRow ambient order kisResult =
      (bindText ambient.onSqlite (sanitizedMessage ambient kisResult.message)).map
        (failedOrder order (classifyPlaceMessage kisResult.message)) := by
  unfold settledRow
  split
  · contradiction
  · rfl

theorem exists_brokerHash_iff {orderNo : Str} :
    (∃ hash, brokerHash orderNo = .ok hash) ↔ orderNo.isEncodable = true := by
  rw [brokerHash]
  split
  case isTrue hNil => exact iff_of_true ⟨none, rfl⟩ (hNil ▸ rfl)
  case isFalse => exact exists_map_eq_ok_iff.trans exists_encoded_iff

theorem exists_settledRow_iff :
    (∃ row, settledRow ambient order kisResult = .ok row) ↔
      isRecordable ambient kisResult = true := by
  unfold settledRow isRecordable
  split
  · exact exists_map_eq_ok_iff.trans exists_brokerHash_iff
  · exact exists_map_eq_ok_iff.trans exists_bindText_iff

theorem not_isRecordable_of_error {error : PyError}
    (h : settledRow ambient order kisResult = .error error) :
    isRecordable ambient kisResult = false := by
  cases hText : isRecordable ambient kisResult with
  | false => rfl
  | true =>
    obtain ⟨row, hRow⟩ : ∃ row, settledRow ambient order kisResult = .ok row :=
      exists_settledRow_iff.mpr hText
    rw [hRow] at h
    cases h

theorem settledRow_keeps (h : settledRow ambient order kisResult = .ok row) :
    row.id = order.id ∧ row.candidateId = order.candidateId ∧
      row.estimatedAmount = order.estimatedAmount ∧ row.createdAt = order.createdAt := by
  unfold settledRow at h
  split at h <;>
    · obtain ⟨_, -, rfl⟩ := map_eq_ok_iff.mp h
      exact ⟨rfl, rfl, rfl, rfl⟩

theorem settledRow_status (h : settledRow ambient order kisResult = .ok row) :
    (classifyPlaceMessage kisResult.message = .submitted ∧ row.status = .submitted) ∨
    (classifyPlaceMessage kisResult.message ≠ .submitted ∧ row.status = .failed ∧
      row.errorCode = some (classifyPlaceMessage kisResult.message).value) := by
  by_cases hClass : classifyPlaceMessage kisResult.message = .submitted
  · rw [settledRow_of_submitted hClass] at h
    obtain ⟨hash, -, rfl⟩ := map_eq_ok_iff.mp h
    exact .inl ⟨hClass, rfl⟩
  · rw [settledRow_of_not_submitted hClass] at h
    obtain ⟨stored, -, rfl⟩ := map_eq_ok_iff.mp h
    exact .inr ⟨hClass, rfl, rfl⟩

end SettledRow

def anchorRow (ambient : Ambient) (candidate : OrderCandidate) (id : Nat) : RealOrder :=
  RealOrderRepository.rowOf (draftOf candidate false none none .created) id ambient.createdNow
    candidate.quantity_pos (OrderType.takes_of_takesPositive candidate.limitPrice_ok)

def dryRunRow (ambient : Ambient) (candidate : OrderCandidate) (id : Nat) (fakeOrderNo : String) :
    RealOrder :=
  RealOrderRepository.rowOf
    (draftOf candidate true (some fakeOrderNo) (some (hashPrefix (sha256Hexdigest fakeOrderNo)))
      .dryRun)
    id ambient.createdNow candidate.quantity_pos
    (OrderType.takes_of_takesPositive candidate.limitPrice_ok)

section Scrubbing

theorem isMarks_stars : Str.IsMarks (.scalar '*') "***" where
  ne_nil := by decide
  only := by decide
  fixed := rfl

theorem sensitive_ne_nil {substr : String} (h : substr ∈ sensitiveSubstrings) :
    (substr : Str) ≠ [] ∧ CodePoint.scalar '*' ∉ (substr : Str) := by
  have hAll : ∀ substr ∈ sensitiveSubstrings,
      (substr : Str) ≠ [] ∧ CodePoint.scalar '*' ∉ (substr : Str) := by decide
  exact hAll substr h

theorem not_infix_redact {q substr : String} (hq : q ∈ sensitiveSubstrings) {t : Str}
    (h : ¬ (q : Str) <:+: Str.lower t) : ¬ (q : Str) <:+: Str.lower (redact t substr) := by
  obtain ⟨hNil, hStar⟩ := sensitive_ne_nil hq
  unfold redact
  split
  · exact fun hIn => h (Str.infix_of_infix_subScan isMarks_stars _ hNil hStar hIn)
  · exact h

theorem not_infix_redact_self {q : String} (hq : q ∈ sensitiveSubstrings) (t : Str) :
    ¬ (q : Str) <:+: Str.lower (redact t q) := by
  obtain ⟨hNil, hStar⟩ := sensitive_ne_nil hq
  unfold redact
  split
  · exact Str.not_infix_subScan isMarks_stars hNil hStar 0 t
  · rename_i hOut
    exact mt isIn_iff.mpr hOut

theorem not_infix_foldl_redact {q : String} (hq : q ∈ sensitiveSubstrings) {t : Str}
    {substrings : List String} (h : ¬ (q : Str) <:+: Str.lower t ∨ q ∈ substrings) :
    ¬ (q : Str) <:+: Str.lower (substrings.foldl redact t) := by
  induction substrings generalizing t with
  | nil => simpa using h
  | cons substr substrings ih =>
    apply ih
    rcases h with hOut | hMem
    · exact .inl (not_infix_redact hq hOut)
    · rcases List.mem_cons.mp hMem with rfl | hMem
      · exact .inl (not_infix_redact_self hq t)
      · exact .inr hMem

/-- The repository never refuses a message the executor has scrubbed and cut. -/
theorem checkErrorMessage_sanitized (ambient : Ambient) (message : Str) :
    checkErrorMessage ambient.substrings (sanitizedMessage ambient message) = none := by
  apply List.find?_eq_none.mpr
  intro q hMem hIn
  have hq : q ∈ sensitiveSubstrings := ambient.substrings.property.subset hMem
  have hIn : (q : Str) <:+: Str.lower ((scrub ambient.substrings message).take 500) :=
    isIn_iff.mp hIn
  have hScrubbed : (q : Str) <:+: Str.lower (scrub ambient.substrings message) := by
    rw [Str.lower, List.map_take] at hIn
    exact hIn.trans (List.take_prefix 500 _).isInfix
  by_cases hEmpty : message = []
  · rw [scrub, if_pos hEmpty, hEmpty] at hScrubbed
    exact (sensitive_ne_nil hq).1 (List.eq_nil_of_infix_nil hScrubbed)
  · rw [scrub, if_neg hEmpty] at hScrubbed
    exact not_infix_foldl_redact hq (.inr hMem) hScrubbed

theorem length_sanitizedMessage_le (ambient : Ambient) (message : Str) :
    (sanitizedMessage ambient message).length ≤ 500 := List.length_take_le 500 _

end Scrubbing

section Branches

variable (executor : RealOrderExecutor) (candidate : OrderCandidate)

theorem exec_ofExcept_ok {α : Type} {outcome : Except PyError α} {value : α}
    (h : outcome = .ok value) (s : DbSession) :
    (Program.ofExcept outcome : App α).exec answer s = (.ok value, s) := by
  rw [h]
  rfl

theorem exec_executeDryRun_raised {error : PyError}
    (hReply : placeReply executor.injected ambient.fakeOrderCounter answer
      (orderRequest candidate "DRY_RUN") = .error error) :
    (executeDryRun executor ambient candidate).exec answer s =
      (.error error,
        recordPlace executor.injected answer (orderRequest candidate "DRY_RUN") s) := by
  apply Program.exec_bind_error
  rw [exec_placeOrder, hReply]

theorem exec_executeDryRun_refused {kisResult : KisOrderResult} {error : PyError}
    (hReply : placeReply executor.injected ambient.fakeOrderCounter answer
      (orderRequest candidate "DRY_RUN") = .ok kisResult)
    (hNumber : encoded kisResult.orderNo = .error error) :
    (executeDryRun executor ambient candidate).exec answer s =
      (.error error,
        recordPlace executor.injected answer (orderRequest candidate "DRY_RUN") s) := by
  have hPlace := exec_placeOrder executor.injected ambient.fakeOrderCounter
    (orderRequest candidate "DRY_RUN") answer s
  rw [hReply] at hPlace
  rw [executeDryRun, Program.exec_bind_ok answer s hPlace]
  apply Program.exec_bind_error
  rw [Program.exec_ofExcept, hNumber]

theorem exec_executeDryRun_settled {kisResult : KisOrderResult} {fakeOrderNo : String}
    (hReply : placeReply executor.injected ambient.fakeOrderCounter answer
      (orderRequest candidate "DRY_RUN") = .ok kisResult)
    (hNumber : encoded kisResult.orderNo = .ok fakeOrderNo) :
    let row := dryRunRow ambient candidate s.view.realOrders.nextKey fakeOrderNo
    ∃ result, result.status = .dryRun ∧ result.realOrderId = some row.id ∧
      (executeDryRun executor ambient candidate).exec answer s =
        (.ok result, (recordPlace executor.injected answer (orderRequest candidate "DRY_RUN") s).write
          fun db => db.insertRealOrder row) := by
  intro row
  have hPlace := exec_placeOrder executor.injected ambient.fakeOrderCounter
    (orderRequest candidate "DRY_RUN") answer s
  rw [hReply] at hPlace
  have hEncode := exec_ofExcept_ok answer hNumber
    (recordPlace executor.injected answer (orderRequest candidate "DRY_RUN") s)
  have hCreate := RealOrderRepository.exec_create answer
    (recordPlace executor.injected answer (orderRequest candidate "DRY_RUN") s)
    (draftOf candidate true (some fakeOrderNo)
      (some (hashPrefix (sha256Hexdigest fakeOrderNo))) .dryRun) ambient.createdNow
    candidate.quantity_pos (OrderType.takes_of_takesPositive candidate.limitPrice_ok)
  rw [executeDryRun, Program.exec_bind_ok answer s hPlace, Program.exec_bind_ok answer _ hEncode,
    Program.exec_bind_ok answer _ hCreate]
  rw [recordPlace_view]
  exact ⟨_, rfl, rfl, rfl⟩

theorem leakedKeys_auditDetails (classification : PlaceClassification) :
    leakedKeys (auditDetails candidate classification) = [] := by
  apply ApprovalAuditLogRepository.leakedKeys_eq_nil
  simp [auditDetails, forbiddenDetailsKeys]

theorem leakedKeys_submittedDetails (hash : Json) :
    leakedKeys (auditDetails candidate .submitted ++ [("broker_order_no_hash_prefix", hash)]) = [] := by
  apply ApprovalAuditLogRepository.leakedKeys_eq_nil
  simp [auditDetails, forbiddenDetailsKeys]

theorem exec_recordSubmitted (order : RealOrder) (hOpen : order.status.isTerminal = false)
    {kisResult : KisOrderResult} {hash : Option String}
    (hHash : brokerHash kisResult.orderNo = .ok hash) :
    ∃ result row, result.status = .submitted ∧ result.realOrderId = some order.id ∧
      (recordSubmitted ambient candidate order kisResult).exec answer s =
        (.ok result, ((s.write (RealOrderRepository.setStatus order.id .submitted)).write
          (RealOrderRepository.setSubmitted order.id hash ambient.submittedNow)).write
            fun db => db.appendAuditLog row) := by
  have hEncode := exec_ofExcept_ok answer hHash s
  have hMark := RealOrderRepository.exec_markSubmitted answer s hOpen hash ambient.submittedNow
  have hAppend := ApprovalAuditLogRepository.exec_append_systemRow candidate.id
    .realOrderSubmitted "real-path place_order succeeded"
    (leakedKeys_submittedDetails candidate ((hash.map fun h => Json.str (hashPrefix h)).getD .null))
    answer
  rw [recordSubmitted, Program.exec_bind_ok answer s hEncode, Program.exec_bind_ok answer s hMark,
    Program.exec_bind_ok answer _ (hAppend _)]
  exact ⟨_, _, rfl, rfl, rfl⟩

/-- An order number that cannot be hashed ends the call before the anchor row is settled. -/
theorem exec_recordSubmitted_refused (order : RealOrder) {kisResult : KisOrderResult}
    {error : PyError} (hHash : brokerHash kisResult.orderNo = .error error) :
    (recordSubmitted ambient candidate order kisResult).exec answer s = (.error error, s) := by
  apply Program.exec_bind_error
  rw [Program.exec_ofExcept, hHash]

/-- The audit row of an order that was not submitted, as it is stored. -/
def failureRow (candidate : OrderCandidate) (classification : PlaceClassification) :
    ApprovalAuditLog :=
  ApprovalAuditLogRepository.stored (ApprovalAuditLogRepository.systemRow candidate.id
    .realOrderFailed s!"real-path place_order returned {classification.value}"
    (auditDetails candidate classification))

/-- The failure path meets neither of its two checks and writes three times. -/
theorem exec_recordFailed_eq (order : RealOrder) (hOpen : order.status.isTerminal = false)
    (classification : PlaceClassification) {kisResult : KisOrderResult} {stored : String}
    (hStored : bindText ambient.onSqlite (sanitizedMessage ambient kisResult.message) =
      .ok stored) :
    (recordFailed ambient candidate order classification kisResult).exec answer s =
      (.ok {
        success := false
        dryRun := false
        blockedReason := some (.placed classification)
        realOrderId := some order.id
        status := .failed
        message := [.str s!"Real order rejected/failed at KIS: classification={classification.value}"] },
        ((s.write (RealOrderRepository.setStatus order.id .failed)).write
          (RealOrderRepository.setError order.id (some classification.value) (some stored))).write
          fun db => db.appendAuditLog (failureRow candidate classification)) := by
  have hMark := RealOrderRepository.exec_markFailed answer s (some classification.value) hOpen
    (length_sanitizedMessage_le ambient kisResult.message)
    (checkErrorMessage_sanitized ambient kisResult.message) hStored
  have hAppend := ApprovalAuditLogRepository.exec_append_systemRow candidate.id .realOrderFailed
    s!"real-path place_order returned {classification.value}"
    (leakedKeys_auditDetails candidate classification) answer
  rw [recordFailed, Program.exec_bind_ok answer s hMark, Program.exec_bind_ok answer _ (hAppend _)]
  rfl

/-- A message that the database cannot store undoes the anchor row, too. -/
theorem exec_recordFailed_refused (order : RealOrder) (hOpen : order.status.isTerminal = false)
    (classification : PlaceClassification) {kisResult : KisOrderResult} {error : PyError}
    (hRefused : bindText ambient.onSqlite (sanitizedMessage ambient kisResult.message) =
      .error error) :
    (recordFailed ambient candidate order classification kisResult).exec answer s =
      (.error error, s.rollback) := by
  have hMark := RealOrderRepository.exec_markFailed_refused answer s (some classification.value)
    hOpen (length_sanitizedMessage_le ambient kisResult.message)
    (checkErrorMessage_sanitized ambient kisResult.message) hRefused
  exact Program.exec_bind_error answer s hMark _

section Real

variable (transport : KisOrderTransport)

/-- The session of the real path right after the anchor row and the request went out. -/
def askedSession : DbSession :=
  recordPlace transport answer (orderRequest candidate settings.kisAccountNo)
    (s.write fun db => db.insertRealOrder (anchorRow ambient candidate s.view.realOrders.nextKey))

theorem view_askedSession : (askedSession answer s ambient settings candidate transport).view =
    s.view.insertRealOrder (anchorRow ambient candidate s.view.realOrders.nextKey) := by
  rw [askedSession, recordPlace_view]
  rfl

theorem rows_askedSession :
    (askedSession answer s ambient settings candidate transport).view.realOrders.rows =
      s.view.realOrders.rows ++ [anchorRow ambient candidate s.view.realOrders.nextKey] := by
  rw [view_askedSession]
  exact Table.rows_insert_of_key_eq rfl

theorem exec_executeReal_raised {error : PyError}
    (hReply : placeReply transport ambient.fakeOrderCounter answer
      (orderRequest candidate settings.kisAccountNo) = .error error) :
    (executeReal ambient candidate settings transport).exec answer s =
      (.error error, askedSession answer s ambient settings candidate transport) := by
  have hCreate := RealOrderRepository.exec_create answer s
    (draftOf candidate false none none .created) ambient.createdNow
    candidate.quantity_pos (OrderType.takes_of_takesPositive candidate.limitPrice_ok)
  rw [executeReal, Program.exec_bind_ok answer s hCreate]
  apply Program.exec_bind_error
  rw [exec_placeOrder, hReply]
  rfl

/-- What the outcome reported by the real path has to be for a given row status. -/
def reportedStatus (kisResult : KisOrderResult) : ExecutorStatus :=
  if classifyPlaceMessage kisResult.message = .submitted then .submitted else .failed

theorem recorded_of_two_updates {before : Database} {order : RealOrder} {after : DbSession}
    (hKey : order.id = before.realOrders.nextKey)
    (hRows : after.view.realOrders.rows = before.realOrders.rows ++ [order])
    (hCandidates : after.view.orderCandidates = before.orderCandidates)
    (hFills : after.view.realFills = before.realFills)
    (f g : RealOrder → RealOrder) (hf : ∀ order, (f order).id = order.id)
    (hg : ∀ order, (g order).id = order.id) (row : ApprovalAuditLog) :
    Recorded before
      (((after.write fun db => db.updateRealOrder order.id f hf).write
        fun db => db.updateRealOrder order.id g hg).write fun db => db.appendAuditLog row).view
      (some (g (f order))) where
  rows := by
    have hFirst := Table.rows_modify_of_rows_append (f := f) hKey hRows hf
    have hSecond := Table.rows_modify_of_rows_append (f := g) ((hf order).trans hKey) hFirst hg
    simp only [key_realOrder, hf] at hSecond
    exact hSecond
  orderCandidates := hCandidates
  realFills := hFills

theorem exec_executeReal_asked {kisResult : KisOrderResult}
    (hReply : placeReply transport ambient.fakeOrderCounter answer
      (orderRequest candidate settings.kisAccountNo) = .ok kisResult) :
    (executeReal ambient candidate settings transport).exec answer s =
      (recordOutcome ambient candidate (anchorRow ambient candidate s.view.realOrders.nextKey)
        kisResult).exec answer (askedSession answer s ambient settings candidate transport) := by
  have hCreate := RealOrderRepository.exec_create answer s
    (draftOf candidate false none none .created) ambient.createdNow
    candidate.quantity_pos (OrderType.takes_of_takesPositive candidate.limitPrice_ok)
  have hPlace := exec_placeOrder transport ambient.fakeOrderCounter
    (orderRequest candidate settings.kisAccountNo) answer (s.write fun db =>
      db.insertRealOrder (anchorRow ambient candidate s.view.realOrders.nextKey))
  rw [hReply] at hPlace
  rw [executeReal, Program.exec_bind_ok answer s hCreate]
  exact Program.exec_bind_ok answer _ hPlace _

theorem recordOutcome_of_submitted (order : RealOrder) {kisResult : KisOrderResult}
    (h : classifyPlaceMessage kisResult.message = .submitted) :
    recordOutcome ambient candidate order kisResult =
      recordSubmitted ambient candidate order kisResult := by
  rw [recordOutcome, h]

theorem recordOutcome_of_not_submitted (order : RealOrder) {kisResult : KisOrderResult}
    (h : classifyPlaceMessage kisResult.message ≠ .submitted) :
    recordOutcome ambient candidate order kisResult = recordFailed ambient candidate order
      (classifyPlaceMessage kisResult.message) kisResult := by
  unfold recordOutcome
  split
  · contradiction
  · rfl

theorem recorded_anchor {after : DbSession}
    (h : after.view = (askedSession answer s ambient settings candidate transport).view) :
    Recorded s.view after.view (some (anchorRow ambient candidate s.view.realOrders.nextKey)) where
  rows := by
    rw [h]
    exact rows_askedSession answer s ambient settings candidate transport
  orderCandidates := by
    rw [h, view_askedSession]
    rfl
  realFills := by
    rw [h, view_askedSession]
    rfl

theorem durable_askedSession :
    (askedSession answer s ambient settings candidate transport).durable = s.durable := by
  rw [askedSession, recordPlace_durable, Session.write_durable]

theorem exec_executeReal_settled {kisResult : KisOrderResult} {row : RealOrder}
    (hReply : placeReply transport ambient.fakeOrderCounter answer
      (orderRequest candidate settings.kisAccountNo) = .ok kisResult)
    (hRow : settledRow ambient (anchorRow ambient candidate s.view.realOrders.nextKey) kisResult =
      .ok row) :
    ∃ result after, result.status = reportedStatus kisResult ∧ result.realOrderId = some row.id ∧
      (executeReal ambient candidate settings transport).exec answer s = (.ok result, after) ∧
      after.log = (askedSession answer s ambient settings candidate transport).log ∧
      after.durable = s.durable ∧ Recorded s.view after.view (some row) := by
  have hDurable := durable_askedSession answer s ambient settings candidate transport
  have hAsked := recorded_anchor answer s ambient settings candidate transport rfl
  rw [exec_executeReal_asked answer s ambient settings candidate transport hReply]
  by_cases hClass : classifyPlaceMessage kisResult.message = .submitted
  · rw [settledRow_of_submitted hClass] at hRow
    obtain ⟨hash, hHash, rfl⟩ := map_eq_ok_iff.mp hRow
    obtain ⟨result, log, hStatus, hId, hRun⟩ := exec_recordSubmitted answer
      (askedSession answer s ambient settings candidate transport) ambient candidate
      (anchorRow ambient candidate s.view.realOrders.nextKey) rfl hHash
    rw [← recordOutcome_of_submitted ambient candidate _ hClass] at hRun
    refine ⟨result, _, ?_, hId, hRun, rfl, hDurable, ?_⟩
    · rw [hStatus, reportedStatus, if_pos hClass]
    · exact recorded_of_two_updates rfl hAsked.rows hAsked.orderCandidates hAsked.realFills
        _ _ _ _ _
  · rw [settledRow_of_not_submitted hClass] at hRow
    obtain ⟨stored, hStored, rfl⟩ := map_eq_ok_iff.mp hRow
    have hRun := exec_recordFailed_eq answer
      (askedSession answer s ambient settings candidate transport) ambient candidate
      (anchorRow ambient candidate s.view.realOrders.nextKey) rfl
      (classifyPlaceMessage kisResult.message) hStored
    rw [← recordOutcome_of_not_submitted ambient candidate _ hClass] at hRun
    refine ⟨_, _, ?_, rfl, hRun, rfl, hDurable, ?_⟩
    · rw [reportedStatus, if_neg hClass]
    · exact recorded_of_two_updates rfl hAsked.rows hAsked.orderCandidates hAsked.realFills
        _ _ _ _ _

/-- What an answer that cannot be written leaves: the anchor row if it was SUBMITTED, and else
nothing, not even what the session held before. -/
theorem exec_executeReal_refused {kisResult : KisOrderResult} {error : PyError}
    (hReply : placeReply transport ambient.fakeOrderCounter answer
      (orderRequest candidate settings.kisAccountNo) = .ok kisResult)
    (hRow : settledRow ambient (anchorRow ambient candidate s.view.realOrders.nextKey) kisResult =
      .error error) :
    (executeReal ambient candidate settings transport).exec answer s =
      (.error error, if classifyPlaceMessage kisResult.message = .submitted
        then askedSession answer s ambient settings candidate transport
        else (askedSession answer s ambient settings candidate transport).rollback) := by
  rw [exec_executeReal_asked answer s ambient settings candidate transport hReply]
  by_cases hClass : classifyPlaceMessage kisResult.message = .submitted
  · rw [settledRow_of_submitted hClass, map_eq_error_iff] at hRow
    rw [recordOutcome_of_submitted ambient candidate _ hClass, if_pos hClass]
    exact exec_recordSubmitted_refused answer _ ambient candidate _ hRow
  · rw [settledRow_of_not_submitted hClass, map_eq_error_iff] at hRow
    rw [recordOutcome_of_not_submitted ambient candidate _ hClass, if_neg hClass]
    exact exec_recordFailed_refused answer _ ambient candidate _ rfl _ hRow

end Real

end Branches

end RealOrderExecutor

end StockAiPlatform
