import StockAiPlatform.Broker.KisOrderTransportReal
import StockAiPlatform.Python.Date
import StockAiPlatform.Transaction.Raising
import StockAiPlatform.Transaction.Run
import StockAiPlatform.Transaction.Upsert

/-! # The client of the quotations

A client holds one access token and the time it expires at, and asks for a new
one where it has none, the held one has expired, or it is told to. What it
sends and logs is kept in order, each request with the number of times the
clock was read before it.
-/

namespace StockAiPlatform.Quotations
set_option autoImplicit false

open Python Transaction

/-- `KisClientError` and its kinds, and the `OverflowError` of a date that does not exist. -/
inductive KisError where
  | configuration (message : String)
  | api (message : String)
  | timeout (message : String)
  | client (message : String)
  | responseFormat (message : String)
  | overflow

structure KisRequest where
  method : String
  path : String
  params : List (String × String)
  jsonBody : List (String × String)
  headers : List (String × String)
  deriving DecidableEq

/-- The arguments of the debug line of a request. -/
structure KisLogLine where
  method : String
  path : String
  headers : List (String × String)
  params : List (String × String)
  deriving DecidableEq

/-- The credentials, what the clock shows, and what the service answers to a request for a path. -/
structure KisWorld where
  appKey : String
  appSecret : String
  clock : Nat → Int
  answer : String → Nat → HttpOutcome Json

structure KisClient where
  accessToken : Option String
  accessTokenExpiresAt : Option Int
  /-- each with the readings of the clock before it -/
  sent : List (KisRequest × Nat)
  logged : List KisLogLine
  readings : Nat

def KisClient.opened (accessToken : Option String) : KisClient := ⟨accessToken, none, [], [], 0⟩

abbrev KisProgram := EStateM KisError KisClient

def maskSensitiveValue (value : String) : String :=
  let t := value.toList
  if t = [] then ""
  else if t.length ≤ 8 then "****"
  else String.ofList (t.take 4 ++ ['*', '*', '*', '*'] ++ t.drop (t.length - 4))

def sensitiveNames : List Text :=
  ["authorization".toList, "appkey".toList, "appsecret".toList, "personalseckey".toList]

def maskHeader (header : String × String) : String × String :=
  if sensitiveNames.contains (lower header.1.toList) then (header.1, maskSensitiveValue header.2)
  else header

def maskHeaders (headers : List (String × String)) : List (String × String) := headers.map maskHeader

/-! ## What `int()` makes of a decoded value -/

inductive IntResult where
  | value (n : Int)
  /-- `TypeError` or `ValueError` -/
  | refused
  | overflow
  deriving DecidableEq

/-- The digits and the exponent of the `repr` of a finite float. -/
def truncated (t : Text) : Option Nat :=
  let mantissa := splitHead 'e' t
  let exponent : Option Int :=
    if t.contains 'e' then int? (t.drop (mantissa.length + 1)) else some 0
  let whole := splitHead '.' mantissa
  let fraction := mantissa.drop (whole.length + 1)
  match digits? false (whole ++ fraction), exponent with
  | some ds, some e =>
    let n := ds.foldl (fun n d => 10 * n + d) 0
    some (if (fraction.length : Int) ≤ e then n * 10 ^ (e - fraction.length).toNat
      else n / 10 ^ (fraction.length - e).toNat)
  | _, _ => none

/-- A float that is too large for a `timedelta` is cut to an integer that is, too. -/
def floatInt (t : Text) : IntResult :=
  if t.contains 'n' then (if t.contains 'a' then .refused else .overflow)
  else
    match t with
    | '-' :: body => ((truncated body).map fun n => IntResult.value (-n)).getD .refused
    | body => ((truncated body).map fun n => IntResult.value n).getD .refused

def jsonInt : Json → IntResult
  | .int n => .value n
  | .bool b => .value (if b then 1 else 0)
  | .float repr => floatInt repr.val.toList
  | .str text => ((int? text.toList).map IntResult.value).getD .refused
  | .null | .list _ | .dict _ => .refused

example : floatInt "3600.5".toList = .value 3600 ∧ floatInt "-1e+22".toList = .value (-10 ^ 22) ∧
    floatInt "7.5e-05".toList = .value 0 ∧ floatInt "inf".toList = .overflow := by decide

/-- Microseconds of `timedelta(seconds=n)`, up to `timedelta.max`. -/
def timedeltaSeconds (n : Int) : Option Int :=
  if n < 86400 * 1000000000 then some (n * 1000000) else none

/-- `datetime.max`, in microseconds. -/
def datetimeMax : Int := 253402300799999999

/-- `timedelta(seconds=max(int(expires_in) - 60, 0))`, or none of it. -/
def expiresDelta (data : List (String × Json)) : Option Int :=
  match jsonInt ((Json.get? "expires_in" data).getD (.int 0)) with
  | .value n => timedeltaSeconds (max (n - 60) 0)
  | .refused => some 0
  | .overflow => none

/-- A `str` that is not empty. -/
def tokenOf (data : List (String × Json)) : Option String :=
  match Json.get? "access_token" data with
  | some (.str token) => if token = "" then none else some token
  | _ => none

def errorCode (data : List (String × Json)) : String :=
  ((Json.get? "msg_cd" data).getD (.str "UNKNOWN")).text

/-- `data.get("msg1") or data.get("msg")` -/
def errorText (data : List (String × Json)) : String :=
  match (Json.get? "msg1" data).filter Json.truthy with
  | some message => message.text
  | none => match (Json.get? "msg" data).filter Json.truthy with
    | some message => message.text
    | none => "no message"

/-- `data.get("rt_cd") not in (None, "0")` -/
def refusedCode (data : List (String × Json)) : Bool :=
  match Json.get? "rt_cd" data with
  | none | some .null => false
  | some (.str code) => code != "0"
  | some _ => true

/-- What `_request` makes of an answer. -/
def decoded (request : KisRequest) (validateApiCode : Bool) :
    HttpOutcome Json → Except KisError (List (String × Json))
  | .timeout => .error (.timeout s!"KIS request timed out: {request.method} {request.path}")
  | .httpError _ => .error (.client s!"KIS request failed: {request.method} {request.path}")
  | .response statusCode body =>
    if 400 ≤ statusCode then
      .error (.api s!"KIS HTTP error {statusCode}: {request.method} {request.path}")
    else
      match body with
      | none => .error (.responseFormat "KIS response is not valid JSON.")
      | some (.dict data) =>
        if validateApiCode && refusedCode data then
          .error (.api s!"KIS API error {errorCode data}: {errorText data}")
        else .ok data
      | some _ => .error (.responseFormat "KIS response JSON must be an object.")

namespace KisClient

def logLine (request : KisRequest) : KisLogLine where
  method := request.method
  path := request.path
  headers := maskHeaders request.headers
  params := request.params

def recorded (request : KisRequest) (client : KisClient) : KisClient :=
  { client with
    sent := client.sent ++ [(request, client.readings)]
    logged := client.logged ++ [logLine request] }

variable (world : KisWorld)

/-- `datetime.now(timezone.utc)` -/
def now : KisProgram Int := do
  let client ← get
  set { client with readings := client.readings + 1 }
  return world.clock client.readings

def requireCredentials : KisProgram Unit :=
  if world.appKey = "" ∨ world.appSecret = "" then
    throw (.configuration "KIS_APP_KEY and KIS_APP_SECRET are required.")
  else pure ()

def isAccessTokenExpired : KisProgram Bool := do
  match (← get).accessTokenExpiresAt with
  | none => return false
  | some expiresAt => return decide (expiresAt ≤ (← now world))

/-- The rest of `_request` once the headers are there. -/
def exchange (request : KisRequest) (validateApiCode : Bool) :
    KisProgram (List (String × Json)) := do
  let client ← get
  set (client.recorded request)
  match decoded request validateApiCode (world.answer request.path client.sent.length) with
  | .ok data => return data
  | .error error => throw error

def baseHeaders : List (String × String) :=
  [("content-type", "application/json; charset=utf-8"), ("appkey", world.appKey),
    ("appsecret", world.appSecret)]

def tokenPath : String := "/oauth2/tokenP"

def tokenRequest : KisRequest where
  method := "POST"
  path := tokenPath
  params := []
  jsonBody := [("grant_type", "client_credentials"), ("appkey", world.appKey),
    ("appsecret", world.appSecret)]
  headers := baseHeaders world

/-- The end of `issue_access_token`: the token is kept before the time it expires at is. -/
def keepAccessToken (token : String) (delta : Int) : KisProgram String := do
  modify fun client => { client with accessToken := some token }
  let expiresAt := (← now world) + delta
  if datetimeMax < expiresAt then throw .overflow
  else
    modify fun client => { client with accessTokenExpiresAt := some expiresAt }
    return token

/-- The part of `issue_access_token` that asks for a token. -/
def reissueAccessToken : KisProgram String := do
  requireCredentials world
  let data ← exchange world (tokenRequest world) false
  match tokenOf data with
  | none => throw (.responseFormat "KIS token response is missing access_token.")
  | some token =>
    match expiresDelta data with
    | none => throw .overflow
    | some delta => keepAccessToken world token delta

def issueAccessToken (force : Bool) : KisProgram String := do
  match (← get).accessToken.filter fun token => !force && token != "" with
  | none => reissueAccessToken world
  | some token =>
    if ← isAccessTokenExpired world then reissueAccessToken world else return token

def dataRequest (path trId token : String) (params : List (String × String)) : KisRequest where
  method := "GET"
  path := path
  params := params
  jsonBody := []
  headers := [("tr_id", trId)].foldl (upsertBy Prod.fst)
    (baseHeaders world ++ [("authorization", "Bearer " ++ token)])

/-- `_request` for one of the paths that need a token. -/
def request (path trId : String) (params : List (String × String)) :
    KisProgram (List (String × Json)) := do
  requireCredentials world
  let token ← issueAccessToken world false
  exchange world (dataRequest world path trId token params) true

def fetchCurrentPrice (symbol : String) : KisProgram Json := do
  let data ← request world "/uapi/domestic-stock/v1/quotations/inquire-price" "FHKST01010100"
    [("FID_COND_MRKT_DIV_CODE", "J"), ("FID_INPUT_ISCD", symbol)]
  match Json.get? "output" data with
  | some (.dict _) => return .dict data
  | _ => throw (.responseFormat "KIS current price response is missing output object.")

/-- `strftime("%Y%m%d")` -/
def compactDate (date : Date) : String :=
  toString date.year ++ String.ofList (twoDigits date.month ++ twoDigits date.day)

def fetchDailyPrices (symbol : String) (startDate endDate : Date) : KisProgram Json := do
  let data ← request world "/uapi/domestic-stock/v1/quotations/inquire-daily-itemchartprice"
    "FHKST03010100"
    [("FID_COND_MRKT_DIV_CODE", "J"), ("FID_INPUT_ISCD", symbol),
      ("FID_INPUT_DATE_1", compactDate startDate), ("FID_INPUT_DATE_2", compactDate endDate),
      ("FID_PERIOD_DIV_CODE", "D"), ("FID_ORG_ADJ_PRC", "0")]
  match Json.get? "output2" data with
  | some (.list rows) => return .list rows
  | _ => throw (.responseFormat "KIS daily price response is missing output2 list.")

/-- `market.strip().upper()` is what the parameter `upper` makes of the stripped text. -/
def marketDivisionCode (upper : String → String) (market : String) : String :=
  let normalized := upper (String.ofList (strip market.toList))
  if ["KOSPI", "J"].contains normalized then "J"
  else if ["KOSDAQ", "Q"].contains normalized then "Q"
  else if normalized = "" then "J" else normalized

/-- `rows[:limit]` -/
def sliced (rows : List Json) (limit : Int) : List Json :=
  if 0 ≤ limit then rows.take limit.toNat else rows.take (rows.length - limit.natAbs)

def fetchMarketCapRankings (upper : String → String) (market : String) (limit : Int) :
    KisProgram Json := do
  let data ← request world "/uapi/domestic-stock/v1/ranking/market-cap" "FHPST01740000"
    [("FID_COND_MRKT_DIV_CODE", marketDivisionCode upper market),
      ("FID_COND_SCR_DIV_CODE", "20174"), ("FID_INPUT_ISCD", "0000"), ("FID_DIV_CLS_CODE", "0"),
      ("FID_BLNG_CLS_CODE", "0"), ("FID_TRGT_CLS_CODE", "0"), ("FID_TRGT_EXLS_CLS_CODE", "0"),
      ("FID_INPUT_PRICE_1", ""), ("FID_INPUT_PRICE_2", ""), ("FID_VOL_CNT", "")]
  match Json.get? "output" data with
  | some (.list rows) => return .list (sliced rows limit)
  | _ => throw (.responseFormat "KIS market cap response is missing output list.")

end KisClient

inductive KisCall where
  | issueAccessToken (force : Bool)
  | fetchCurrentPrice (symbol : String)
  | fetchDailyPrices (symbol : String) (startDate endDate : Date)
  | fetchMarketCapRankings (market : String) (limit : Int)

namespace KisCall

/-- `refresh_access_token` is a forced issue. -/
def forces : KisCall → Bool
  | issueAccessToken force => force
  | fetchCurrentPrice _ | fetchDailyPrices _ _ _ | fetchMarketCapRankings _ _ => false

variable (world : KisWorld) (upper : String → String)

def program : KisCall → KisProgram Json
  | issueAccessToken force => .str <$> KisClient.issueAccessToken world force
  | fetchCurrentPrice symbol => KisClient.fetchCurrentPrice world symbol
  | fetchDailyPrices symbol startDate endDate =>
    KisClient.fetchDailyPrices world symbol startDate endDate
  | fetchMarketCapRankings market limit =>
    KisClient.fetchMarketCapRankings world upper market limit

def step (call : KisCall) (client : KisClient) : KisClient :=
  left ((call.program world upper).run client)

end KisCall

/-! ## The token that is held -/

/-- A token, and the time it expires at. -/
abbrev Held : Type := Option String × Option Int

/-- What is held after the exchange of this number. A token whose expiry is past the calendar is
held until the expiry of the one before it. -/
def afterExchange (world : KisWorld) (number : Nat) (entry : KisRequest × Nat) (held : Held) : Held :=
  if entry.1.path = KisClient.tokenPath then
    match decoded entry.1 false (world.answer entry.1.path number) with
    | .error _ => held
    | .ok data =>
      match tokenOf data, expiresDelta data with
      | some token, some delta =>
        let expiresAt := world.clock entry.2 + delta
        (some token, if datetimeMax < expiresAt then held.2 else some expiresAt)
      | _, _ => held
  else held

def heldFrom (world : KisWorld) : Nat → Held → List (KisRequest × Nat) → Held
  | _, held, [] => held
  | number, held, entry :: entries =>
    heldFrom world (number + 1) (afterExchange world number entry held) entries

/-- What a client that began with a token holds after these exchanges. -/
def heldAfter (world : KisWorld) (accessToken : Option String) (sent : List (KisRequest × Nat)) : Held :=
  heldFrom world 0 (accessToken, none) sent

/-- No token is held, or it was seen to be expired at the last reading of the clock. -/
def Due (world : KisWorld) (held : Held) (readings : Nat) : Prop :=
  held.1 = none ∨ held.1 = some "" ∨
    ∃ expiresAt, held.2 = some expiresAt ∧ 0 < readings ∧ expiresAt ≤ world.clock (readings - 1)

/-- The token has no expiry, or was seen not to be expired at the last reading of the clock. -/
def Unexpired (world : KisWorld) (held : Held) (readings : Nat) : Prop :=
  ∀ expiresAt, held.2 = some expiresAt → 0 < readings ∧ world.clock (readings - 1) < expiresAt

/-- The last exchange granted the token, with an expiry that is kept. -/
def JustGranted (world : KisWorld) (before : List (KisRequest × Nat)) (readings : Nat)
    (token : String) : Prop :=
  ∃ earlier data delta,
    before = earlier ++ [(KisClient.tokenRequest world, readings - 1)] ∧ 0 < readings ∧
      decoded (KisClient.tokenRequest world) false
        (world.answer KisClient.tokenPath earlier.length) = .ok data ∧
      tokenOf data = some token ∧ expiresDelta data = some delta ∧
      world.clock (readings - 1) + delta ≤ datetimeMax

/-- Why a request is sent: a token is due, or asked for by force; or there is a token for it. -/
inductive Justified (world : KisWorld) (forced : Bool) (held : Held)
    (before : List (KisRequest × Nat)) : KisRequest × Nat → Prop where
  | token (readings : Nat) (h : forced = true ∨ Due world held readings) :
      Justified world forced held before (KisClient.tokenRequest world, readings)
  | data (path trId token : String) (params : List (String × String)) (readings : Nat)
      (hPath : path ≠ KisClient.tokenPath) (hHeld : held.1 = some token)
      (hToken : token ≠ "") (h : JustGranted world before readings token ∨ Unexpired world held readings) :
      Justified world forced held before (KisClient.dataRequest world path trId token params, readings)

/-- The client holds what its exchanges granted, and each of them is justified by those before. -/
structure Follows (world : KisWorld) (accessToken : Option String) (forced : Bool)
    (client : KisClient) : Prop where
  held : (client.accessToken, client.accessTokenExpiresAt) = heldAfter world accessToken client.sent
  justified : ∀ before entry after, client.sent = before ++ entry :: after →
    Justified world forced (heldAfter world accessToken before) before entry
  configured : client.sent ≠ [] → world.appKey ≠ "" ∧ world.appSecret ≠ ""

section Held

variable {world : KisWorld} {accessToken : Option String} {held : Held}
  {entries others before : List (KisRequest × Nat)} {entry : KisRequest × Nat}

theorem heldFrom_append (number : Nat) : heldFrom world number held (entries ++ others) =
    heldFrom world (number + entries.length) (heldFrom world number held entries) others := by
  induction entries generalizing number held with
  | nil => rfl
  | cons entry entries ih =>
    rw [List.cons_append, heldFrom, heldFrom, ih, List.length_cons]
    congr 1
    omega

theorem heldAfter_snoc : heldAfter world accessToken (before ++ [entry]) =
    afterExchange world before.length entry (heldAfter world accessToken before) := by
  rw [heldAfter, heldFrom_append, Nat.zero_add]
  rfl

end Held

section Follows

variable {world : KisWorld} {accessToken : Option String} {forced : Bool} {s t : KisClient}
  {entry : KisRequest × Nat}

theorem Follows.opened (world : KisWorld) (accessToken : Option String) (forced : Bool) :
    Follows world accessToken forced (.opened accessToken) where
  held := rfl
  justified before entry after hSent := by
    cases before <;> cases hSent
  configured hSent := absurd rfl hSent

theorem Follows.congr (h : Follows world accessToken forced s) (hSent : t.sent = s.sent)
    (hHeld : (t.accessToken, t.accessTokenExpiresAt) = (s.accessToken, s.accessTokenExpiresAt)) :
    Follows world accessToken forced t where
  held := by rw [hHeld, h.held, hSent]
  justified := by
    rw [hSent]
    exact h.justified
  configured := by
    rw [hSent]
    exact h.configured

theorem Follows.snoc (h : Follows world accessToken forced s)
    (hConfigured : world.appKey ≠ "" ∧ world.appSecret ≠ "")
    (hJustified : Justified world forced (s.accessToken, s.accessTokenExpiresAt) s.sent entry)
    (hSent : t.sent = s.sent ++ [entry])
    (hHeld : (t.accessToken, t.accessTokenExpiresAt) =
      afterExchange world s.sent.length entry (s.accessToken, s.accessTokenExpiresAt)) :
    Follows world accessToken forced t where
  held := by rw [hHeld, hSent, heldAfter_snoc, h.held]
  justified before other after hSplit := by
    rw [hSent] at hSplit
    rcases List.eq_nil_or_concat after with rfl | ⟨rest, last, rfl⟩
    · obtain ⟨rfl, hEntry⟩ := List.append_inj' hSplit rfl
      cases hEntry
      rw [← h.held]
      exact hJustified
    · rw [List.concat_eq_append, ← List.cons_append, ← List.append_assoc] at hSplit
      obtain ⟨hOld, -⟩ := List.append_inj' hSplit rfl
      exact h.justified before other rest hOld
  configured _ := hConfigured

variable {request : KisRequest} {validateApiCode : Bool} {data : List (String × Json)} {error : KisError}

namespace KisClient

theorem run_exchange_ok
    (h : decoded request validateApiCode (world.answer request.path s.sent.length) = .ok data) :
    (exchange world request validateApiCode).run s = .ok data (s.recorded request) := by
  rw [exchange]
  simp only [EStateM.run_bind, EStateM.run_get, EStateM.run_set, h]
  rfl

theorem run_exchange_error
    (h : decoded request validateApiCode (world.answer request.path s.sent.length) = .error error) :
    (exchange world request validateApiCode).run s = .error error (s.recorded request) := by
  rw [exchange]
  simp only [EStateM.run_bind, EStateM.run_get, EStateM.run_set, h]
  rfl

theorem run_keepAccessToken_ok {token : String} {delta : Int}
    (h : world.clock s.readings + delta ≤ datetimeMax) :
    (keepAccessToken world token delta).run s = .ok token { s with
      accessToken := some token
      accessTokenExpiresAt := some (world.clock s.readings + delta)
      readings := s.readings + 1 } := by
  simp only [keepAccessToken, now, EStateM.run_bind, EStateM.run_modify, EStateM.run_get,
    EStateM.run_set, EStateM.run_pure, if_neg (not_lt_of_ge h)]

theorem run_keepAccessToken_error {token : String} {delta : Int}
    (h : datetimeMax < world.clock s.readings + delta) :
    (keepAccessToken world token delta).run s = .error .overflow { s with
      accessToken := some token
      readings := s.readings + 1 } := by
  simp only [keepAccessToken, now, EStateM.run_bind, EStateM.run_modify, EStateM.run_get,
    EStateM.run_set, EStateM.run_pure, if_pos h]
  rfl

theorem run_requireCredentials_ok (h : world.appKey ≠ "" ∧ world.appSecret ≠ "") :
    (requireCredentials world).run s = .ok () s := by
  rw [requireCredentials, if_neg (by tauto)]
  rfl

theorem run_requireCredentials_error (h : ¬(world.appKey ≠ "" ∧ world.appSecret ≠ "")) :
    (requireCredentials world).run s =
      .error (.configuration "KIS_APP_KEY and KIS_APP_SECRET are required.") s := by
  rw [requireCredentials, if_pos (by tauto)]
  rfl

theorem afterExchange_token {number readings : Nat} {held : Held} :
    afterExchange world number (tokenRequest world, readings) held =
      match decoded (tokenRequest world) false (world.answer tokenPath number) with
      | .error _ => held
      | .ok data =>
        match tokenOf data, expiresDelta data with
        | some token, some delta => (some token,
            if datetimeMax < world.clock readings + delta then held.2
            else some (world.clock readings + delta))
        | _, _ => held := by
  rw [afterExchange]
  exact if_pos rfl

theorem afterExchange_error {number readings : Nat} {held : Held}
    (h : decoded (tokenRequest world) false (world.answer tokenPath number) = .error error) :
    afterExchange world number (tokenRequest world, readings) held = held := by
  simp only [afterExchange_token, h]

theorem afterExchange_refused {number readings : Nat} {held : Held}
    (h : decoded (tokenRequest world) false (world.answer tokenPath number) = .ok data)
    (hRefused : tokenOf data = none ∨ expiresDelta data = none) :
    afterExchange world number (tokenRequest world, readings) held = held := by
  simp only [afterExchange_token, h]
  rcases hRefused with hToken | hDelta
  · simp only [hToken]
  · cases tokenOf data with
    | none => rfl
    | some token => simp only [hDelta]

theorem afterExchange_granted {number readings : Nat} {held : Held} {token : String} {delta : Int}
    (h : decoded (tokenRequest world) false (world.answer tokenPath number) = .ok data)
    (hToken : tokenOf data = some token) (hDelta : expiresDelta data = some delta) :
    afterExchange world number (tokenRequest world, readings) held = (some token,
      if datetimeMax < world.clock readings + delta then held.2
      else some (world.clock readings + delta)) := by
  simp only [afterExchange_token, h, hToken, hDelta]

theorem tokenOf_ne_empty {token : String} (h : tokenOf data = some token) : token ≠ "" := by
  rw [tokenOf] at h
  split at h
  · split at h
    · cases h
    · cases h
      assumption
  · cases h

/-- A program ends in an error or with a value that meets the condition, and the client follows. -/
def Ends {α : Type} (world : KisWorld) (accessToken : Option String) (forced : Bool)
    (post : α → KisClient → Prop) (p : KisProgram α) (s : KisClient) : Prop :=
  Follows world accessToken forced (left (p.run s)) ∧ ∀ value t, p.run s = .ok value t → post value t

section Ends

variable {α β : Type} {post mid : α → KisClient → Prop} {last : β → KisClient → Prop}
  {p : KisProgram α} {f : α → KisProgram β} {value : α}

theorem Ends.returned (hRun : p.run s = .ok value t) (h : Follows world accessToken forced t)
    (hPost : post value t) : Ends world accessToken forced post p s := by
  rw [Ends, hRun]
  refine ⟨h, ?_⟩
  intro other u hOk
  cases hOk
  exact hPost

theorem Ends.raised (hRun : p.run s = .error error t) (h : Follows world accessToken forced t) :
    Ends world accessToken forced post p s := by
  rw [Ends, hRun]
  refine ⟨h, ?_⟩
  intro value u hOk
  cases hOk

theorem Ends.mono (h : Ends world accessToken forced mid p s)
    (hPost : ∀ value t, mid value t → post value t) : Ends world accessToken forced post p s :=
  ⟨h.1, fun value t hOk => hPost value t (h.2 value t hOk)⟩

theorem Ends.next (hRun : p.run s = .ok value t)
    (h : Ends world accessToken forced last (f value) t) :
    Ends world accessToken forced last (p >>= f) s := by
  rw [Ends, run_bind_of_ok hRun]
  exact h

theorem Ends.bind (h : Ends world accessToken forced mid p s)
    (hNext : ∀ value t, Follows world accessToken forced t → mid value t →
      Ends world accessToken forced last (f value) t) :
    Ends world accessToken forced last (p >>= f) s := by
  obtain ⟨hFollows, hMid⟩ := h
  cases hRun : p.run s with
  | ok value t =>
    rw [hRun] at hFollows
    exact .next hRun (hNext value t hFollows (hMid value t hRun))
  | error error t =>
    rw [hRun] at hFollows
    exact .raised (run_bind_of_error hRun) hFollows

end Ends

theorem requireCredentials_ends (h : Follows world accessToken forced s) :
    Ends world accessToken forced
      (fun _ t => s = t ∧ world.appKey ≠ "" ∧ world.appSecret ≠ "") (requireCredentials world) s := by
  by_cases hConfigured : world.appKey ≠ "" ∧ world.appSecret ≠ ""
  · exact .returned (run_requireCredentials_ok hConfigured) h ⟨rfl, hConfigured⟩
  · exact .raised (run_requireCredentials_error hConfigured) h

theorem keepAccessToken_ends {held : Held} {token : String} {delta : Int}
    (hHeld : held = (some token,
      if datetimeMax < world.clock s.readings + delta then s.accessTokenExpiresAt
      else some (world.clock s.readings + delta)))
    (hFollows : ∀ t : KisClient, t.sent = s.sent →
      (t.accessToken, t.accessTokenExpiresAt) = held → Follows world accessToken forced t) :
    Ends world accessToken forced (fun kept t => kept = token ∧ t.accessToken = some token ∧
      t.sent = s.sent ∧ t.readings = s.readings + 1 ∧ world.clock s.readings + delta ≤ datetimeMax)
      (keepAccessToken world token delta) s := by
  by_cases hLate : datetimeMax < world.clock s.readings + delta
  · rw [if_pos hLate] at hHeld
    exact .raised (run_keepAccessToken_error hLate) (hFollows _ rfl hHeld.symm)
  · rw [if_neg hLate] at hHeld
    exact .returned (run_keepAccessToken_ok (not_lt.mp hLate)) (hFollows _ rfl hHeld.symm)
      ⟨rfl, rfl, rfl, rfl, not_lt.mp hLate⟩

theorem reissueAccessToken_ends (h : Follows world accessToken forced s)
    (hDue : forced = true ∨ Due world (s.accessToken, s.accessTokenExpiresAt) s.readings) :
    Ends world accessToken forced (fun token t => t.accessToken = some token ∧ token ≠ "" ∧
      JustGranted world t.sent t.readings token) (reissueAccessToken world) s := by
  rw [reissueAccessToken]
  refine (requireCredentials_ends h).bind ?_
  rintro - t - ⟨rfl, hConfigured⟩
  -- whatever the answer to it is, the request that is sent is one that was due
  have hSnoc : ∀ t : KisClient, t.sent = s.sent ++ [(tokenRequest world, s.readings)] →
      (t.accessToken, t.accessTokenExpiresAt) = afterExchange world s.sent.length
        (tokenRequest world, s.readings) (s.accessToken, s.accessTokenExpiresAt) →
      Follows world accessToken forced t :=
    fun t hSent hHeld => h.snoc hConfigured (.token s.readings hDue) hSent hHeld
  cases hData : decoded (tokenRequest world) false (world.answer tokenPath s.sent.length) with
  | error error =>
    exact .raised (run_bind_of_error (run_exchange_error hData))
      (hSnoc _ rfl (afterExchange_error hData).symm)
  | ok data =>
    refine .next (run_exchange_ok hData) ?_
    cases hToken : tokenOf data with
    | none => exact .raised rfl (hSnoc _ rfl (afterExchange_refused hData (.inl hToken)).symm)
    | some token =>
      cases hDelta : expiresDelta data with
      | none => exact .raised rfl (hSnoc _ rfl (afterExchange_refused hData (.inr hDelta)).symm)
      | some delta =>
        refine (keepAccessToken_ends (afterExchange_granted hData hToken hDelta) hSnoc).mono ?_
        rintro _ t ⟨rfl, hHeld, hSent, hReadings, hKept⟩
        rw [hSent, hReadings]
        exact ⟨hHeld, tokenOf_ne_empty hToken, s.sent, data, delta, rfl, Nat.succ_pos _, hData, hToken,
          hDelta, hKept⟩

theorem run_isAccessTokenExpired_none (h : s.accessTokenExpiresAt = none) :
    (isAccessTokenExpired world).run s = .ok false s := by
  rw [isAccessTokenExpired]
  simp only [EStateM.run_bind, EStateM.run_get, h, EStateM.run_pure]

theorem run_isAccessTokenExpired_some {expiresAt : Int} (h : s.accessTokenExpiresAt = some expiresAt) :
    (isAccessTokenExpired world).run s =
      .ok (decide (expiresAt ≤ world.clock s.readings)) { s with readings := s.readings + 1 } := by
  rw [isAccessTokenExpired]
  simp only [now, EStateM.run_bind, EStateM.run_get, EStateM.run_set, h, EStateM.run_pure]

theorem isAccessTokenExpired_ends (h : Follows world accessToken forced s) :
    Ends world accessToken forced (fun expired t => t.accessToken = s.accessToken ∧
      (expired = true → Due world (t.accessToken, t.accessTokenExpiresAt) t.readings) ∧
      (expired = false → Unexpired world (t.accessToken, t.accessTokenExpiresAt) t.readings))
      (isAccessTokenExpired world) s := by
  cases hExpires : s.accessTokenExpiresAt with
  | none =>
    refine .returned (run_isAccessTokenExpired_none hExpires) h ⟨rfl, nofun, ?_⟩
    intro _ expiresAt hSome
    cases hExpires.symm.trans hSome
  | some expiresAt =>
    refine .returned (run_isAccessTokenExpired_some hExpires) (h.congr rfl rfl) ⟨rfl, ?_, ?_⟩
    · intro hExpired
      exact .inr (.inr ⟨expiresAt, hExpires, Nat.succ_pos _, of_decide_eq_true hExpired⟩)
    · intro hFresh other hSome
      cases hExpires.symm.trans hSome
      exact ⟨Nat.succ_pos _, not_le.mp (of_decide_eq_false hFresh)⟩

theorem due_of_unused {force : Bool} {held : Held} (hForce : force = true → forced = true)
    (hUnused : (held.1.filter fun token => !force && token != "") = none) (readings : Nat) :
    forced = true ∨ Due world held readings := by
  obtain ⟨_ | token, expiresAt⟩ := held
  · exact .inr (.inl rfl)
  · have hToken := Option.filter_eq_none_iff.mp hUnused token rfl
    rw [Bool.and_eq_true, bne_iff_ne, not_and_or, not_not] at hToken
    rcases hToken with hForced | rfl
    · exact .inl (hForce (by simpa using hForced))
    · exact .inr (.inr (.inl rfl))

/-- The token is held, and it was just granted or not seen to be expired. -/
def Usable (world : KisWorld) (token : String) (t : KisClient) : Prop :=
  t.accessToken = some token ∧ token ≠ "" ∧
    (JustGranted world t.sent t.readings token ∨
      Unexpired world (t.accessToken, t.accessTokenExpiresAt) t.readings)

theorem reissueAccessToken_usable (h : Follows world accessToken forced s)
    (hDue : forced = true ∨ Due world (s.accessToken, s.accessTokenExpiresAt) s.readings) :
    Ends world accessToken forced (Usable world) (reissueAccessToken world) s := by
  refine (reissueAccessToken_ends h hDue).mono ?_
  rintro token t ⟨hHeld, hToken, hGranted⟩
  exact ⟨hHeld, hToken, .inl hGranted⟩

theorem issueAccessToken_ends (force : Bool) (h : Follows world accessToken forced s)
    (hForce : force = true → forced = true) :
    Ends world accessToken forced (Usable world) (issueAccessToken world force) s := by
  rw [issueAccessToken]
  refine .next (EStateM.run_get s) ?_
  cases hKept : s.accessToken.filter fun token => !force && token != "" with
  | none => exact reissueAccessToken_usable h (due_of_unused hForce hKept s.readings)
  | some token =>
    obtain ⟨hHeld, hUsed⟩ := Option.filter_eq_some_iff.mp hKept
    rw [Bool.and_eq_true, bne_iff_ne] at hUsed
    refine (isAccessTokenExpired_ends h).bind ?_
    rintro expired t hFollows ⟨hSame, hDue, hUnexpired⟩
    cases expired with
    | true => exact reissueAccessToken_usable hFollows (.inr (hDue rfl))
    | false => exact .returned rfl hFollows ⟨hSame.trans hHeld, hUsed.2, .inr (hUnexpired rfl)⟩

theorem left_exchange : left ((exchange world request validateApiCode).run s) = s.recorded request := by
  cases hData : decoded request validateApiCode (world.answer request.path s.sent.length) with
  | error error => rw [run_exchange_error hData, left]
  | ok data => rw [run_exchange_ok hData, left]

theorem exchange_ends (h : Follows world accessToken forced (s.recorded request)) :
    Ends world accessToken forced (fun _ _ => True) (exchange world request validateApiCode) s := by
  rw [Ends, left_exchange]
  exact ⟨h, fun _ _ _ => trivial⟩

theorem afterExchange_of_ne {number : Nat} {held : Held} (h : entry.1.path ≠ tokenPath) :
    afterExchange world number entry held = held := by rw [afterExchange, if_neg h]

theorem request_ends {path trId : String} {params : List (String × String)} (hPath : path ≠ tokenPath)
    (h : Follows world accessToken forced s) :
    Ends world accessToken forced (fun _ _ => True) (KisClient.request world path trId params) s := by
  rw [KisClient.request]
  refine (requireCredentials_ends h).bind ?_
  rintro - t - ⟨rfl, hConfigured⟩
  refine (issueAccessToken_ends false h nofun).bind ?_
  rintro token t hFollows ⟨hHeld, hUsed, hReason⟩
  refine exchange_ends (hFollows.snoc hConfigured
    (.data path trId token params t.readings hPath hHeld hUsed hReason) rfl ?_)
  exact (afterExchange_of_ne hPath).symm

end KisClient

namespace KisCall

/-- Nothing is sent but what the exchanges before it justify. -/
theorem follows_step {upper : String → String} (call : KisCall)
    (hForces : call.forces = true → forced = true) (h : Follows world accessToken forced s) :
    Follows world accessToken forced (call.step world upper s) := by
  rw [step]
  cases call with
  | issueAccessToken force =>
    rw [program, map_eq_pure_bind, left_bind]
    · exact (KisClient.issueAccessToken_ends force h hForces).1
    · exact fun token t => rfl
  | fetchCurrentPrice symbol =>
    rw [program, KisClient.fetchCurrentPrice, left_bind]
    · exact (KisClient.request_ends (by decide) h).1
    · intro data t
      split <;> rfl
  | fetchDailyPrices symbol startDate endDate =>
    rw [program, KisClient.fetchDailyPrices, left_bind]
    · exact (KisClient.request_ends (by decide) h).1
    · intro data t
      split <;> rfl
  | fetchMarketCapRankings market limit =>
    rw [program, KisClient.fetchMarketCapRankings, left_bind]
    · exact (KisClient.request_ends (by decide) h).1
    · intro data t
      split <;> rfl

theorem follows_steps {upper : String → String} {calls : List KisCall}
    (hForces : ∀ call ∈ calls, call.forces = true → forced = true)
    (h : Follows world accessToken forced s) :
    Follows world accessToken forced (Transaction.run (step world upper) calls s) := by
  induction calls generalizing s with
  | nil => exact h
  | cons call calls ih =>
    rw [List.forall_mem_cons] at hForces
    exact ih hForces.2 (follows_step call hForces.1 h)

/-- A client holds what was granted to it, and sends nothing that its exchanges do not justify. -/
theorem follows_run (world : KisWorld) (upper : String → String) (accessToken : Option String)
    (calls : List KisCall) : Follows world accessToken (calls.any forces)
      (Transaction.run (step world upper) calls (.opened accessToken)) :=
  follows_steps (fun call hCall hForces => List.any_eq_true.mpr ⟨call, hCall, hForces⟩)
    (.opened world accessToken _)

end KisCall

end Follows

end StockAiPlatform.Quotations
