import StockAiPlatform.Broker.KisOrderClient
import StockAiPlatform.Config.Settings

/-! # The HTTP transport

What the broker's HTTP answers are mapped to. An attempt that timed out or
lost its connection is retried for a query and never for a placement.
-/

namespace StockAiPlatform
set_option autoImplicit false

open Python

/-- What one HTTP attempt comes to. The body is `none` when it is not valid JSON. -/
inductive HttpOutcome (Body : Type) where
  | timeout
  | httpError (typeName : String)
  | response (statusCode : Nat) (body : Option Body)

structure RetryAttempt (α : Type) where
  result : α
  shouldRetry : Bool

/-- `_run_with_retries`: `operation n` is what its call number `n` yields. -/
def runWithRetries {α : Type} (operation : Nat → RetryAttempt α) (maxRetries : Nat) :
    RetryAttempt α :=
  go maxRetries (operation 0) 1
where
  go : Nat → RetryAttempt α → Nat → RetryAttempt α
    | 0, last, _ => last
    | retries + 1, last, used => if last.shouldRetry then go retries (operation used) (used + 1) else last

theorem exists_runWithRetries_eq {α : Type} (operation : Nat → RetryAttempt α) (maxRetries : Nat) :
    ∃ n ≤ maxRetries, runWithRetries operation maxRetries = operation n := by
  have hGo : ∀ retries used last, (∃ n ≤ used, last = operation n) →
      ∃ n ≤ used + retries, runWithRetries.go operation retries last (used + 1) = operation n := by
    intro retries
    induction retries with
    | zero => exact fun used last hLast => hLast
    | succ retries ih =>
      intro used last hLast
      obtain ⟨n, hn, rfl⟩ := hLast
      rw [runWithRetries.go]
      split
      · obtain ⟨m, hm, hEq⟩ := ih (used + 1) (operation (used + 1)) ⟨used + 1, le_refl _, rfl⟩
        exact ⟨m, by omega, hEq⟩
      · exact ⟨n, by omega, rfl⟩
  obtain ⟨n, hn, hEq⟩ := hGo maxRetries 0 (operation 0) ⟨0, le_refl _, rfl⟩
  exact ⟨n, by omega, hEq⟩

/-- The transport's own classification of a fill answer. -/
inductive BrokerFillClass where
  | full | partialFill | none | rejected | canceled | unknown
  deriving DecidableEq, Repr

namespace BrokerFillClass

def value : BrokerFillClass → String
  | full => "FULL"
  | partialFill => "PARTIAL"
  | none => "NONE"
  | rejected => "REJECTED"
  | canceled => "CANCELED"
  | unknown => "UNKNOWN"

/-- `_FILL_STATUS_MAP`. -/
def status : BrokerFillClass → KisFillStatus
  | full => .filled
  | partialFill => .partiallyFilled
  | none => .pending
  | rejected => .rejected
  | canceled => .canceled
  | unknown => .pending

/-- `_FILL_SUCCESS_MAP`. -/
def success : BrokerFillClass → Bool
  | full | partialFill | none => true
  | rejected | canceled | unknown => false

end BrokerFillClass

/-- What the constructor is given; an account number goes before the one of the settings. -/
structure HttpxKisOrderTransport where
  settings : Settings
  accountNo : Option String

/-- What is posted for a placement, apart from the credentials. -/
structure PlaceHttpRequest where
  trId : String
  body : List (String × String)
  deriving DecidableEq, Repr

namespace HttpxKisOrderTransport

def trIdBuy : String := "VTTC0802U"

def trIdSell : String := "VTTC0801U"

/-- `self._account_no`. -/
def heldAccountNo (transport : HttpxKisOrderTransport) : String :=
  transport.accountNo.getD transport.settings.kisAccountNo

def accountSplit (transport : HttpxKisOrderTransport) : Text × Text :=
  let acct := transport.heldAccountNo.toList
  if 10 ≤ acct.length then (acct.take 8, (acct.take 10).drop 8)
  else if 8 ≤ acct.length then (acct.take 8, ['0', '1'])
  else (acct, ['0', '1'])

/-- The body and the transaction id `place_order` posts. The account number of the request is
not among what it reads. -/
def placeHttpRequest (transport : HttpxKisOrderTransport) (request : KisOrderRequest) :
    PlaceHttpRequest where
  trId := if request.side = .buy then trIdBuy else trIdSell
  body :=
    [("CANO", String.ofList transport.accountSplit.1),
      ("ACNT_PRDT_CD", String.ofList transport.accountSplit.2),
      ("PDNO", request.symbol),
      ("ORD_DVSN", if request.orderType = .market then "01" else "00"),
      ("ORD_QTY", toString request.quantity),
      ("ORD_UNPR", if request.orderType = .limit then toString request.price else "0")]

def placeOrderMaxRetries : Nat := 0

def queryFillMaxRetries : Nat := 2

def cutMessage (text : Str) : Str := text.take 120

def orMark (code : Str) : Str := if code = [] then "?" else code

def labelled (token : String) (msg1 : Str) : Str :=
  if msg1 = [] then token else (token : Str) ++ (": " : Str) ++ msg1

def refusedPlace (message : Str) : KisOrderResult := ⟨false, "", message⟩

def classifyPlaceResponse (statusCode : Nat) (body : Option WireJson) : KisOrderResult :=
  if 500 ≤ statusCode then refusedPlace s!"UNKNOWN: KIS HTTP {statusCode} (server error)"
  else if 400 ≤ statusCode then refusedPlace s!"REJECTED: KIS HTTP {statusCode}"
  else if statusCode ≠ 200 then refusedPlace s!"UNKNOWN: KIS HTTP {statusCode}"
  else match body with
    | none => refusedPlace "UNKNOWN: KIS HTTP 200 but body is not valid JSON"
    | some (.dict payload) =>
      let rtCd := WireJson.textOr "" "rt_cd" payload
      let msg1 := cutMessage (WireJson.textOr "" "msg1" payload)
      if rtCd = ("0" : Str) then
        let orderNo := match WireJson.get? "output" payload with
          | some (.dict output) => WireJson.textOr "" "ODNO" output
          | _ => []
        ⟨true, orderNo, labelled "SUBMITTED" msg1⟩
      else refusedPlace (Str.strip (("REJECTED: rt_cd=" : Str) ++ orMark rtCd ++ (" " : Str) ++ msg1))
    | some _ => refusedPlace "UNKNOWN: KIS HTTP 200 but body is not a JSON object"

def placeAttempt (settings : Settings) : HttpOutcome WireJson → RetryAttempt KisOrderResult
  | .timeout =>
    ⟨refusedPlace s!"TIMEOUT: KIS place_order exceeded {settings.kisOrderPlaceTimeoutS}s", true⟩
  | .httpError typeName => ⟨refusedPlace s!"NETWORK_ERROR: {typeName}", true⟩
  | .response statusCode body => ⟨classifyPlaceResponse statusCode body, false⟩

def placeOrder (settings : Settings) (outcomes : Nat → HttpOutcome WireJson) : KisOrderResult :=
  (runWithRetries (fun n => placeAttempt settings (outcomes n)) placeOrderMaxRetries).result

def unknownFill (orderNo : String) (message : Str) : KisFillStatusResult where
  success := false
  orderNo := orderNo
  filledQuantity := 0
  remainingQuantity := 0
  status := .pending
  message := message

/-- `int(str(record.get(key) or "0"))`, zero when that is no number. -/
def quantityOf (key : String) (record : List (Str × WireJson)) : Int :=
  (((WireJson.textOr "0" key record).encode?).bind fun digits => int? digits.toList).getD 0

/-- `str(record.get(key) or "N").upper() == "Y"`. -/
def flagged (key : String) (record : List (Str × WireJson)) : Bool :=
  Str.upper (WireJson.textOr "N" key record) == ("Y" : Str)

/-- REJECTED before CANCELED before FULL before PARTIAL before NONE. -/
def fillClass (ordered filled : Int) (canceled rejected : Bool) : BrokerFillClass :=
  if rejected then .rejected
  else if canceled then .canceled
  else if 0 < filled ∧ ordered ≤ filled ∧ 0 < ordered then .full
  else if 0 < filled ∧ filled < ordered then .partialFill
  else if filled = 0 then .none
  else .unknown

/-- The order record: the first of a list, or the object itself. -/
def recordOf (payload : List (Str × WireJson)) :
    Option (List (Str × WireJson)) :=
  match WireJson.get? "output1" payload with
  | some (.list (.dict record :: _)) => some record
  | some (.dict record) => some record
  | _ => none

def readRecord (orderNo : String) (msg1 : Str) (record : List (Str × WireJson)) : KisFillStatusResult :=
  let ordered := quantityOf "ord_qty" record
  let filled := quantityOf "tot_ccld_qty" record
  let cls := fillClass ordered filled (flagged "cncl_yn" record) (flagged "rjct_yn" record)
  { success := cls.success
    orderNo := orderNo
    filledQuantity := filled
    remainingQuantity := max 0 (ordered - filled)
    status := cls.status
    message := labelled cls.value msg1 }

def classifyFillResponse (statusCode : Nat) (body : Option WireJson) (orderNo : String) :
    KisFillStatusResult :=
  if 400 ≤ statusCode ∨ statusCode ≠ 200 then
    unknownFill orderNo s!"UNKNOWN: KIS HTTP {statusCode}"
  else match body with
    | none => unknownFill orderNo "UNKNOWN: KIS HTTP 200 but body is not valid JSON"
    | some (.dict payload) =>
      let rtCd := WireJson.textOr "" "rt_cd" payload
      let msg1 := cutMessage (WireJson.textOr "" "msg1" payload)
      if rtCd ≠ ("0" : Str) then
        unknownFill orderNo (Str.strip (("UNKNOWN: rt_cd=" : Str) ++ orMark rtCd ++ (" " : Str) ++ msg1))
      else match recordOf payload with
        | none =>
          { success := true
            orderNo := orderNo
            filledQuantity := 0
            remainingQuantity := 0
            status := BrokerFillClass.none.status
            message := labelled "NONE" msg1 }
        | some record => readRecord orderNo msg1 record
    | some _ => unknownFill orderNo "UNKNOWN: KIS HTTP 200 but body is not a JSON object"

def queryAttempt (settings : Settings) (orderNo : String) :
    HttpOutcome WireJson → RetryAttempt KisFillStatusResult
  | .timeout =>
    ⟨unknownFill orderNo s!"UNKNOWN: TIMEOUT after {settings.kisOrderQueryTimeoutS}s", true⟩
  | .httpError typeName => ⟨unknownFill orderNo s!"UNKNOWN: NETWORK_ERROR: {typeName}", true⟩
  | .response statusCode body => ⟨classifyFillResponse statusCode body orderNo, false⟩

def queryFillStatus (settings : Settings) (orderNo : String) (outcomes : Nat → HttpOutcome WireJson) :
    KisFillStatusResult :=
  (runWithRetries (fun n => queryAttempt settings orderNo (outcomes n)) queryFillMaxRetries).result

/-- What the mapping promises about the filled quantity of each state. -/
def WellFormedFill (response : KisFillStatusResult) : Prop :=
  (response.status = .filled → 0 < response.filledQuantity) ∧
  (response.status = .partiallyFilled → 0 < response.filledQuantity) ∧
  (response.status = .pending → response.success = true → response.filledQuantity = 0)

theorem wellFormedFill_unknownFill (orderNo : String) (message : Str) :
    WellFormedFill (unknownFill orderNo message) := by
  refine ⟨?_, ?_, ?_⟩ <;> simp [unknownFill]

theorem wellFormedFill_readRecord (orderNo : String) (msg1 : Str) (record : List (Str × WireJson)) :
    WellFormedFill (readRecord orderNo msg1 record) := by
  simp only [WellFormedFill, readRecord, fillClass]
  split_ifs with hRejected hCanceled hFull hPartial hNone
  · simp [BrokerFillClass.status]
  · simp [BrokerFillClass.status]
  · simp [BrokerFillClass.status, hFull.1]
  · simp [BrokerFillClass.status, hPartial.1]
  · simp [BrokerFillClass.status, hNone]
  · simp [BrokerFillClass.status, BrokerFillClass.success]

theorem wellFormedFill_classifyFillResponse (statusCode : Nat) (body : Option WireJson)
    (orderNo : String) : WellFormedFill (classifyFillResponse statusCode body orderNo) := by
  unfold classifyFillResponse
  split
  · exact wellFormedFill_unknownFill _ _
  · split
    · exact wellFormedFill_unknownFill _ _
    · simp only
      split
      · exact wellFormedFill_unknownFill _ _
      · split
        · refine ⟨?_, ?_, ?_⟩ <;> simp [BrokerFillClass.status]
        · exact wellFormedFill_readRecord _ _ _
    · exact wellFormedFill_unknownFill _ _

/-- Every answer of the transport is well formed, whatever HTTP does. -/
theorem wellFormedFill_queryFillStatus (settings : Settings) (orderNo : String)
    (outcomes : Nat → HttpOutcome WireJson) : WellFormedFill (queryFillStatus settings orderNo outcomes) := by
  obtain ⟨n, -, hEq⟩ := exists_runWithRetries_eq
    (fun n => queryAttempt settings orderNo (outcomes n)) queryFillMaxRetries
  rw [queryFillStatus, hEq]
  cases hOutcome : outcomes n with
  | timeout => simpa [queryAttempt, hOutcome] using wellFormedFill_unknownFill _ _
  | httpError typeName => simpa [queryAttempt, hOutcome] using wellFormedFill_unknownFill _ _
  | response statusCode body =>
    simpa [queryAttempt, hOutcome] using wellFormedFill_classifyFillResponse statusCode body orderNo

end HttpxKisOrderTransport

end StockAiPlatform
