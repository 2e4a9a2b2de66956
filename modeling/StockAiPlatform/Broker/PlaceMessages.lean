import StockAiPlatform.Broker.ExecutorRuns
import StockAiPlatform.Broker.KisOrderTransportReal
import Mathlib.Data.List.TakeWhile

/-! # The texts of a placement

The transport classifies an HTTP outcome and sends its token on as the start of
a text, and the executor reads the token back from there. What follows the
token is the broker's own text. It changes nothing, unless a surrogate stands
alone where the text is hashed or stored.
-/

namespace StockAiPlatform
set_option autoImplicit false

open Transaction Python

section Reading

theorem notColon_of_mem_value {c : PlaceClassification} :
    ∀ x ∈ (c.value : Str), decide (x ≠ .scalar ':') = true := by
  rw [← List.all_eq_true]
  cases c <;> decide

theorem classifyPlaceMessage_value (c : PlaceClassification) :
    classifyPlaceMessage c.value = c := by
  cases c <;> decide

theorem classifyPlaceMessage_of_prefix {c : PlaceClassification} {message : Str}
    (h : (c.value : Str) ++ (":" : Str) <+: message) : classifyPlaceMessage message = c := by
  obtain ⟨rest, rfl⟩ := h
  have hNonempty : (c.value : Str) ++ (":" : Str) ++ rest ≠ [] := by
    cases c <;> exact List.cons_ne_nil _ _
  have hHead : splitHead (.scalar ':') ((c.value : Str) ++ (":" : Str) ++ rest) =
      splitHead (.scalar ':') (c.value : Str) := by
    rw [splitHead, splitHead, List.append_assoc, List.takeWhile_append_of_pos notColon_of_mem_value,
      List.takeWhile_eq_self_iff.mpr notColon_of_mem_value]
    exact List.append_nil _
  have hValue : (c.value : Str) ≠ [] := by cases c <;> decide
  have hRead := classifyPlaceMessage_value c
  rw [classifyPlaceMessage, if_neg hValue] at hRead
  rw [classifyPlaceMessage, if_neg hNonempty, hHead]
  exact hRead

theorem starts_append {start a : Str} (h : start <+: a) (b : Str) : start <+: a ++ b :=
  h.trans (List.prefix_append a b)

theorem prefix_ofText_append {start : Str} {a b : String}
    (h : start <+: (a : Str)) : start <+: ((a ++ b : String) : Str) := by
  rw [String.toList_append, Str.ofText_append]
  exact starts_append h _

end Reading

section Codes

theorem toString_eq_zero {n : Int} (h : toString n = "0") : n = 0 := by
  cases n with
  | ofNat k =>
    have hDigits : Nat.toDigits 10 k = ['0'] := by
      rw [← Nat.toList_repr]
      exact congrArg String.toList h
    have hValue := Nat.ofDigitChars_ten_toDigits (n := k)
    rw [hDigits] at hValue
    exact congrArg Int.ofNat hValue.symm
  | negSucc k =>
    have hHead := congrArg (fun text : String => text.toList.head?) h
    simp [toString, Int.repr] at hHead

theorem eq_of_ofText_toList {a b : String} (h : (a : Str) = (b : Str)) : a = b :=
  String.toList_inj.mp (Str.ofText_injective h)

/-- Of the truthy values only the string itself is written `"0"`. -/
theorem eq_str_of_text_eq_zero {value : WireJson} (hTruthy : value.truthy = true)
    (h : value.text = ("0" : Str)) : value = .str "0" := by
  cases value with
  | str value => exact congrArg WireJson.str h
  | null => exact absurd (eq_of_ofText_toList h) (by simp [WireJson.repr])
  | bool value =>
    cases value <;> exact absurd (eq_of_ofText_toList h) (by simp [WireJson.repr])
  | int value =>
    have hZero : value = 0 := toString_eq_zero (eq_of_ofText_toList h)
    simp [WireJson.truthy, hZero] at hTruthy
  | float repr =>
    have hRepr : repr.val = "0" := eq_of_ofText_toList h
    have hFloat := repr.property
    rw [hRepr] at hFloat
    exact absurd hFloat (by decide)
  | list items =>
    have hHead := congrArg (fun text : String => text.toList.head?) (eq_of_ofText_toList h)
    simp [WireJson.repr] at hHead
  | dict entries =>
    have hHead := congrArg (fun text : String => text.toList.head?) (eq_of_ofText_toList h)
    simp [WireJson.repr] at hHead

theorem textOr_eq_zero_iff (key : String) (payload : List (Str × WireJson)) :
    WireJson.textOr "" key payload = ("0" : Str) ↔
      WireJson.get? key payload = some (.str "0") := by
  rw [WireJson.textOr]
  cases hGet : WireJson.get? key payload with
  | none => simp [Str.ofText]
  | some value =>
    constructor
    · intro h
      by_cases hTruthy : value.truthy = true
      · rw [eq_str_of_text_eq_zero hTruthy (by simpa [hTruthy] using h)]
      · simp [hTruthy, Str.ofText] at h
    · intro h
      rw [Option.some.inj h]
      rfl

end Codes

namespace HttpxKisOrderTransport

/-- The classification of each branch of `_classify_place_response`. -/
def responseClassification (statusCode : Nat) (body : Option WireJson) : PlaceClassification :=
  if 500 ≤ statusCode then .unknown
  else if 400 ≤ statusCode then .rejected
  else if statusCode ≠ 200 then .unknown
  else match body with
    | none => .unknown
    | some (.dict payload) =>
      if WireJson.textOr "" "rt_cd" payload = ("0" : Str) then .submitted else .rejected
    | some _ => .unknown

def placeClassification : HttpOutcome WireJson → PlaceClassification
  | .timeout => .timeout
  | .httpError _ => .networkError
  | .response statusCode body => responseClassification statusCode body

def Accepted (outcome : HttpOutcome WireJson) : Prop :=
  ∃ payload, outcome = .response 200 (some (.dict payload)) ∧
    WireJson.get? "rt_cd" payload = some (.str "0")

/-- The accepted order has a number in which no surrogate stands alone, or none. -/
def HasPlainNumber (outcome : HttpOutcome WireJson) : Prop :=
  ∀ payload output number, outcome = .response 200 (some (.dict payload)) →
    WireJson.get? "rt_cd" payload = some (.str "0") →
    WireJson.get? "output" payload = some (.dict output) →
    WireJson.get? "ODNO" output = some (.str number) → number.isEncodable = true

theorem prefix_labelled (token : String) {msg1 : Str} (h : msg1 ≠ []) :
    (token : Str) ++ (":" : Str) <+: labelled token msg1 := by
  rw [labelled, if_neg h]
  apply starts_append
  exact (List.prefix_append_right_inj _).mpr (by decide)

theorem prefix_strip {start message : Str} (hNil : start ≠ [])
    (hSpace : start.any CodePoint.isSpace = false) (h : start <+: message) :
    start <+: Str.strip message := by
  obtain ⟨rest, rfl⟩ := h
  exact prefix_stripBy hNil fun c hc => eq_false_of_ne_true (List.any_eq_false.mp hSpace c hc)

/-- The executor reads back the branch the transport took. -/
theorem classifyPlaceMessage_response (statusCode : Nat) (body : Option WireJson) :
    classifyPlaceMessage (classifyPlaceResponse statusCode body).message =
      responseClassification statusCode body := by
  have hNoObject : classifyPlaceMessage
      "UNKNOWN: KIS HTTP 200 but body is not a JSON object" = .unknown := by decide
  unfold classifyPlaceResponse responseClassification
  split
  · exact classifyPlaceMessage_of_prefix (prefix_ofText_append (prefix_ofText_append (by decide)))
  · split
    · exact classifyPlaceMessage_of_prefix (prefix_ofText_append (by decide))
    · split
      · exact classifyPlaceMessage_of_prefix (prefix_ofText_append (by decide))
      · cases body with
        | none => decide
        | some body =>
          cases body with
          | dict payload =>
            simp only
            split
            · by_cases hMsg : cutMessage (WireJson.textOr "" "msg1" payload) = []
              · rw [hMsg]
                exact classifyPlaceMessage_value .submitted
              · exact classifyPlaceMessage_of_prefix (prefix_labelled _ hMsg)
            · apply classifyPlaceMessage_of_prefix
              apply prefix_strip (by decide) (by decide)
              exact starts_append (starts_append
                (starts_append (by decide) _) _) _
          | null | bool _ | int _ | float _ | str _ | list _ => exact hNoObject

theorem placeOrder_eq (settings : Settings) (outcomes : Nat → HttpOutcome WireJson) :
    placeOrder settings outcomes = (placeAttempt settings (outcomes 0)).result := rfl

theorem classifyPlaceMessage_placeOrder (settings : Settings)
    (outcomes : Nat → HttpOutcome WireJson) :
    classifyPlaceMessage (placeOrder settings outcomes).message =
      placeClassification (outcomes 0) := by
  rw [placeOrder_eq]
  cases outcomes 0 with
  | timeout =>
    exact classifyPlaceMessage_of_prefix (c := .timeout)
      (prefix_ofText_append (prefix_ofText_append (by decide)))
  | httpError typeName =>
    exact classifyPlaceMessage_of_prefix (c := .networkError) (prefix_ofText_append (by decide))
  | response statusCode body => exact classifyPlaceMessage_response statusCode body

theorem success_classifyPlaceResponse_iff (statusCode : Nat) (body : Option WireJson) :
    (classifyPlaceResponse statusCode body).success = true ↔
      responseClassification statusCode body = .submitted := by
  unfold classifyPlaceResponse responseClassification
  split_ifs
  · simp [refusedPlace]
  · simp [refusedPlace]
  · simp [refusedPlace]
  · cases body with
    | none => simp [refusedPlace]
    | some body =>
      cases body with
      | dict payload =>
        simp only
        split_ifs <;> simp [refusedPlace]
      | null | bool _ | int _ | float _ | str _ | list _ => simp [refusedPlace]

theorem success_placeOrder_iff (settings : Settings) (outcomes : Nat → HttpOutcome WireJson) :
    (placeOrder settings outcomes).success = true ↔
      placeClassification (outcomes 0) = .submitted := by
  rw [placeOrder_eq]
  cases outcomes 0 with
  | timeout => simp [placeAttempt, placeClassification, refusedPlace]
  | httpError typeName => simp [placeAttempt, placeClassification, refusedPlace]
  | response statusCode body => exact success_classifyPlaceResponse_iff statusCode body

theorem responseClassification_submitted_iff (statusCode : Nat) (body : Option WireJson) :
    responseClassification statusCode body = .submitted ↔
      Accepted (.response statusCode body) := by
  constructor
  · intro h
    unfold responseClassification at h
    split_ifs at h with _ _ hOk
    split at h
    · cases h
    · rename_i payload
      split_ifs at h with hCode
      have hStatus : statusCode = 200 := not_not.mp hOk
      rw [hStatus]
      exact ⟨payload, rfl, (textOr_eq_zero_iff _ _).mp hCode⟩
    · cases h
  · rintro ⟨payload, hOutcome, hCode⟩
    obtain ⟨rfl, rfl⟩ := HttpOutcome.response.inj hOutcome
    exact if_pos ((textOr_eq_zero_iff _ _).mpr hCode)

theorem placeClassification_submitted_iff (outcome : HttpOutcome WireJson) :
    placeClassification outcome = .submitted ↔ Accepted outcome := by
  cases outcome with
  | timeout => simp [placeClassification, Accepted]
  | httpError typeName => simp [placeClassification, Accepted]
  | response statusCode body => exact responseClassification_submitted_iff statusCode body

/-- All that is written of a value but a string can be encoded. -/
theorem isEncodable_text_iff (value : WireJson) :
    value.text.isEncodable = true ↔ ∀ text, value = .str text → text.isEncodable = true := by
  cases value with
  | str text => exact ⟨fun h _ hSame => WireJson.str.inj hSame ▸ h, fun h => h text rfl⟩
  | null | bool _ | int _ | float _ | list _ | dict _ =>
    exact iff_of_true (Str.isEncodable_ofText _) nofun

theorem isEncodable_textOr_iff (key : String) (record : List (Str × WireJson)) :
    (WireJson.textOr "" key record).isEncodable = true ↔
      ∀ text, WireJson.get? key record = some (.str text) → text.isEncodable = true := by
  rw [WireJson.textOr]
  cases WireJson.get? key record with
  | none => exact iff_of_true rfl nofun
  | some value =>
    simp only [Option.some.injEq]
    cases hTruthy : value.truthy with
    | true => exact isEncodable_text_iff value
    | false =>
      refine iff_of_true rfl ?_
      rintro text rfl
      simp only [WireJson.truthy, Bool.not_eq_false', List.isEmpty_iff] at hTruthy
      rw [hTruthy]
      rfl

theorem isEncodable_orderNo_iff (settings : Settings) {outcomes : Nat → HttpOutcome WireJson}
    (h : Accepted (outcomes 0)) :
    (placeOrder settings outcomes).orderNo.isEncodable = true ↔ HasPlainNumber (outcomes 0) := by
  obtain ⟨payload, hOutcome, hCode⟩ := h
  rw [placeOrder_eq, hOutcome, HasPlainNumber]
  simp only [placeAttempt, classifyPlaceResponse, Nat.reduceLeDiff, if_false, ne_eq, not_true,
    if_pos ((textOr_eq_zero_iff "rt_cd" payload).mpr hCode)]
  constructor
  · intro hText payload' output number hSame _ hOutput hNumber
    cases hSame
    simp only [hOutput] at hText
    exact (isEncodable_textOr_iff "ODNO" output).mp hText number hNumber
  · intro hPlain
    split
    next output hOutput =>
      exact (isEncodable_textOr_iff "ODNO" output).mpr fun number hNumber =>
        hPlain payload output number rfl hCode hOutput hNumber
    next => rfl

def answering (settings : Settings) (outcomes : Nat → HttpOutcome WireJson) : Answer
  | .placeOrder _ _ => .ok (placeOrder settings outcomes)
  | .queryFillStatus _ _ => .error (.transport "not asked")

end HttpxKisOrderTransport

/-- The order in which the forbidden substrings are tried decides nothing. -/
theorem checkErrorMessage_eq_none_congr {substrings : SubstringOrder} {message : Str}
    (h : checkErrorMessage substrings message = none) (others : SubstringOrder) :
    checkErrorMessage others message = none := by
  rw [checkErrorMessage, List.find?_eq_none] at h ⊢
  intro substr hMem
  exact h substr (substrings.property.mem_iff.mpr (others.property.mem_iff.mp hMem))

namespace RealOrderExecutor

section FailureRecording

variable (answer : Answer) (s : DbSession) (ambient : Ambient) (settings : Settings)
  (candidate : OrderCandidate) (transport : KisOrderTransport)

/-- The message passes the repository's check, the order ends as a failed row with its
classification, and one audit row says so. -/
structure RecordsFailure (kisResult : KisOrderResult) : Prop where
  passes : ∀ substrings, checkErrorMessage substrings
    (sanitizedMessage ambient kisResult.message) = none
  recorded : ∃ result after order row,
    (executeReal ambient candidate settings transport).exec answer s = (.ok result, after) ∧
    result.status = .failed ∧ result.realOrderId = some order.id ∧
    after.view.realOrders.rows = s.view.realOrders.rows ++ [order] ∧
    order.candidateId = candidate.id ∧ order.status = .failed ∧
    order.errorCode = some (classifyPlaceMessage kisResult.message).value ∧
    order.errorMessage = (sanitizedMessage ambient kisResult.message).encode? ∧
    after.view.approvalAuditLogs = s.view.approvalAuditLogs ++ [row] ∧
    row.eventType = .realOrderFailed ∧ row.candidateId = candidate.id

variable {kisResult : KisOrderResult}

theorem recordsFailure_of_encoded
    (hReply : placeReply transport ambient.fakeOrderCounter answer
      (orderRequest candidate settings.kisAccountNo) = .ok kisResult)
    (hFailed : classifyPlaceMessage kisResult.message ≠ .submitted) {stored : String}
    (hStored : bindText ambient.onSqlite (sanitizedMessage ambient kisResult.message) =
      .ok stored) :
    RecordsFailure answer s ambient settings candidate transport kisResult where
  passes := checkErrorMessage_eq_none_congr (checkErrorMessage_sanitized ambient kisResult.message)
  recorded := by
    have hRow : settledRow ambient (anchorRow ambient candidate s.view.realOrders.nextKey) kisResult =
        .ok (failedOrder (anchorRow ambient candidate s.view.realOrders.nextKey)
          (classifyPlaceMessage kisResult.message) stored) := by
      rw [settledRow_of_not_submitted hFailed, hStored]
      rfl
    obtain ⟨result, after, hStatus, hId, hExec, -, -, hRecorded⟩ :=
      exec_executeReal_settled answer s ambient settings candidate transport hReply hRow
    have hRun := exec_executeReal_asked answer s ambient settings candidate transport hReply
    rw [recordOutcome_of_not_submitted ambient candidate _ hFailed,
      exec_recordFailed_eq answer _ ambient candidate _ rfl _ hStored] at hRun
    have hLogs : after.view.approvalAuditLogs = s.view.approvalAuditLogs ++
        [failureRow candidate (classifyPlaceMessage kisResult.message)] := by
      obtain rfl := (Prod.mk.inj (hExec.symm.trans hRun)).2
      have hAsked : (askedSession answer s ambient settings candidate
          transport).view.approvalAuditLogs = s.view.approvalAuditLogs := by
        rw [view_askedSession]
        rfl
      exact congrArg (· ++ _) hAsked
    rw [reportedStatus, if_neg hFailed] at hStatus
    exact ⟨result, after, _, _, hExec, hStatus, hId, hRecorded.rows, rfl, rfl, rfl,
      (encode?_of_bindText hStored).symm, hLogs, rfl, rfl⟩

/-- An order that is not submitted is recorded exactly if its message, scrubbed and cut, can be
written to the store. -/
theorem recordsFailure_iff
    (hReply : placeReply transport ambient.fakeOrderCounter answer
      (orderRequest candidate settings.kisAccountNo) = .ok kisResult)
    (hFailed : classifyPlaceMessage kisResult.message ≠ .submitted) :
    RecordsFailure answer s ambient settings candidate transport kisResult ↔
      isStorable ambient.onSqlite (sanitizedMessage ambient kisResult.message) = true := by
  constructor
  · rintro ⟨-, result, after, order, row, hExec, -⟩
    rw [← exists_bindText_iff]
    cases hBound : bindText ambient.onSqlite (sanitizedMessage ambient kisResult.message) with
    | ok stored => exact ⟨stored, rfl⟩
    | error error =>
      have hRefused := exec_executeReal_refused answer s ambient settings candidate transport hReply
        ((settledRow_of_not_submitted hFailed).trans (map_eq_error_iff.mpr hBound))
      rw [hRefused] at hExec
      cases hExec
  · intro hText
    obtain ⟨stored, hStored⟩ := exists_bindText_iff.mpr hText
    exact recordsFailure_of_encoded answer s ambient settings candidate transport hReply hFailed hStored

end FailureRecording

theorem recordsFailure_scrubbed :
    RecordsFailure (liveCall (openSettings false true) 1
        (.ok ⟨false, "", "REJECTED: Account_No 12"⟩)).answer
      (.opened (approvedDatabase [approvedCandidate 1 "005930" 700])) quietAmbient
      (openSettings false true) (approvedCandidate 1 "005930" 700) (.live 0)
      ⟨false, "", "REJECTED: Account_No 12"⟩ :=
  (recordsFailure_iff _ _ quietAmbient (openSettings false true) _ _ rfl (by decide)).mpr (by decide)

end RealOrderExecutor

open HttpxKisOrderTransport RealOrderExecutor

/-- The body of an answer whose `msg1` is the escape of a surrogate. -/
def brokenRefusal : Nat → HttpOutcome WireJson := fun _ => .response 200 (some (.dict
  [("rt_cd", .str "1"), ("msg1", .str [.surrogate 0])]))

theorem not_recordsFailure_brokenRefusal :
    classifyPlaceMessage
        (HttpxKisOrderTransport.placeOrder Settings.paranoid brokenRefusal).message = .rejected ∧
    ¬ RecordsFailure (answering Settings.paranoid brokenRefusal)
      (.opened (approvedDatabase [approvedCandidate 1 "005930" 700])) quietAmbient
      (openSettings false true) (approvedCandidate 1 "005930" 700) (.live 0)
      (HttpxKisOrderTransport.placeOrder Settings.paranoid brokenRefusal) := by
  refine ⟨by decide, ?_⟩
  rw [recordsFailure_iff _ _ quietAmbient (openSettings false true) _ _ rfl (by decide)]
  decide

section Classification

variable (transportSettings settings : Settings) (outcomes : Nat → HttpOutcome WireJson)
  (ambient : Ambient) (candidate : OrderCandidate) (transport : Nat) (s : DbSession)

def EndsSubmitted : Prop :=
  ∃ result after row,
    (executeReal ambient candidate settings (.live transport)).exec
      (answering transportSettings outcomes) s = (.ok result, after) ∧
    after.view.realOrders.rows = s.view.realOrders.rows ++ [row] ∧
    result.realOrderId = some row.id ∧ row.candidateId = candidate.id ∧ row.status = .submitted

/-- The executor reads the transport's own classification, and its row ends as that says. -/
structure SurvivesChannel : Prop where
  token : classifyPlaceMessage (HttpxKisOrderTransport.placeOrder transportSettings outcomes).message =
    placeClassification (outcomes 0)
  success : (HttpxKisOrderTransport.placeOrder transportSettings outcomes).success = true ↔
    Accepted (outcomes 0)
  ends : EndsSubmitted transportSettings settings outcomes ambient candidate transport s ↔
    Accepted (outcomes 0)

theorem endsSubmitted_iff :
    EndsSubmitted transportSettings settings outcomes ambient candidate transport s ↔
      Accepted (outcomes 0) ∧ HasPlainNumber (outcomes 0) := by
  set kisResult := HttpxKisOrderTransport.placeOrder transportSettings outcomes with hResult
  have hRead : classifyPlaceMessage kisResult.message = .submitted ↔ Accepted (outcomes 0) := by
    rw [classifyPlaceMessage_placeOrder]
    exact placeClassification_submitted_iff (outcomes 0)
  have hReply : placeReply (.live transport) ambient.fakeOrderCounter
      (answering transportSettings outcomes) (orderRequest candidate settings.kisAccountNo) =
        .ok kisResult := rfl
  cases hRow : settledRow ambient (anchorRow ambient candidate s.view.realOrders.nextKey)
      kisResult with
  | error error =>
    refine iff_of_false ?_ ?_
    · rintro ⟨result, after, row, hExec, -⟩
      rw [exec_executeReal_refused _ s ambient settings candidate _ hReply hRow] at hExec
      cases hExec
    · rintro ⟨hAccepted, hPlain⟩
      have hRefused := not_isRecordable_of_error hRow
      rw [isRecordable, hRead.mpr hAccepted] at hRefused
      rw [(isEncodable_orderNo_iff transportSettings hAccepted).mpr hPlain] at hRefused
      cases hRefused
  | ok row =>
    obtain ⟨result, after, -, hId, hExec, -, -, hRecorded⟩ :=
      exec_executeReal_settled _ s ambient settings candidate _ hReply hRow
    have hStatus := settledRow_status hRow
    constructor
    · rintro ⟨result', after', row', hExec', hRows, -, -, hSubmitted⟩
      obtain ⟨-, rfl⟩ := Prod.mk.inj (hExec.symm.trans hExec')
      have hSame : row = row' := by
        rw [hRecorded.rows] at hRows
        exact List.singleton_inj.mp (List.append_cancel_left hRows)
      rw [← hSame] at hSubmitted
      rcases hStatus with ⟨hClass, -⟩ | ⟨-, hFailed, -⟩
      · have hText := exists_settledRow_iff.mp ⟨row, hRow⟩
        rw [isRecordable, hClass] at hText
        have hAccepted := hRead.mp hClass
        exact ⟨hAccepted, (isEncodable_orderNo_iff transportSettings hAccepted).mp hText⟩
      · rw [hFailed] at hSubmitted
        cases hSubmitted
    · rintro ⟨hAccepted, -⟩
      refine ⟨result, after, row, hExec, hRecorded.rows, hId, (settledRow_keeps hRow).2.1, ?_⟩
      rcases hStatus with ⟨-, hSubmitted⟩ | ⟨hClass, -⟩
      · exact hSubmitted
      · exact absurd (hRead.mpr hAccepted) hClass

/-- Whatever HTTP does and whatever text KIS sends, the classification survives exactly if an
accepted order has no number in which a surrogate stands alone. -/
theorem survivesChannel_iff :
    SurvivesChannel transportSettings settings outcomes ambient candidate transport s ↔
      HasPlainNumber (outcomes 0) := by
  have hEnds := endsSubmitted_iff transportSettings settings outcomes ambient candidate transport s
  constructor
  · intro h payload output number hOutcome hCode
    exact (hEnds.mp (h.ends.mpr ⟨payload, hOutcome, hCode⟩)).2 payload output number hOutcome hCode
  · intro hPlain
    exact ⟨classifyPlaceMessage_placeOrder transportSettings outcomes,
      (success_placeOrder_iff _ _).trans (placeClassification_submitted_iff _),
      hEnds.trans (and_iff_left hPlain)⟩

end Classification

/-- The body of an answer with an order number that is the escape of a surrogate. -/
def brokenNumber : Nat → HttpOutcome WireJson := fun _ => .response 200 (some (.dict
  [("rt_cd", .str "0"), ("output", .dict [("ODNO", .str [.surrogate 0])])]))

theorem not_survivesChannel_brokenNumber :
    ¬ SurvivesChannel Settings.paranoid (openSettings false true) brokenNumber quietAmbient
      (approvedCandidate 1 "005930" 700) 0
      (.opened (approvedDatabase [approvedCandidate 1 "005930" 700])) := by
  rw [survivesChannel_iff]
  intro h
  exact absurd (h _ _ [.surrogate 0] rfl rfl rfl rfl) (by decide)

end StockAiPlatform
