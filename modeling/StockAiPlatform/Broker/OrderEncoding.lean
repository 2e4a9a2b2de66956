import StockAiPlatform.Broker.ExecutorRuns
import StockAiPlatform.Broker.KisOrderTransportReal
import Mathlib.Data.List.TakeWhile

/-! # What a placement says to KIS

An approved order is written out twice: into the request of the executor, which
cuts its limit price to a whole number, and into the body of the transport,
which sends an account number of its own.
-/

namespace StockAiPlatform
set_option autoImplicit false

open Transaction Python

structure BrokerOrder where
  side : Side
  symbol : String
  quantity : Int
  orderType : OrderType
  price : Int
  account : Text × Text
  deriving DecidableEq

namespace BrokerOrder

def sideOf? : String → Option Side
  | "VTTC0802U" => some .buy
  | "VTTC0801U" => some .sell
  | _ => none

def orderTypeOf? : String → Option OrderType
  | "00" => some .limit
  | "01" => some .market
  | _ => none

def decimal? (text : String) : Option Int :=
  let natural? (digits : Text) : Option Nat :=
    if digits ≠ [] ∧ digits.all Char.isDigit then some (Nat.ofDigitChars 10 digits 0) else none
  match text.toList with
  | '-' :: digits => (natural? digits).map fun n => -n
  | digits => (natural? digits).map Int.ofNat

theorem decimal?_repr (n : Int) : decimal? n.repr = some n := by
  have hDigits : ∀ k, Nat.toDigits 10 k ≠ [] ∧ (Nat.toDigits 10 k).all Char.isDigit = true :=
    fun k => ⟨Nat.toDigits_ne_nil, List.all_eq_true.mpr fun c hc =>
      Nat.isDigit_of_mem_toDigits (by decide) (by decide) hc⟩
  cases n with
  | ofNat k =>
    have hText : (Int.ofNat k).repr.toList = Nat.toDigits 10 k := Nat.toList_repr
    rw [decimal?, hText]
    split
    next digits hMinus =>
      have hAll := (hDigits k).2
      rw [hMinus] at hAll
      simp at hAll
    next => simp only [if_pos (hDigits k), Nat.ofDigitChars_ten_toDigits, Option.map_some]
  | negSucc k =>
    have hText : (Int.negSucc k).repr.toList = '-' :: Nat.toDigits 10 (k + 1) := by
      rw [show (Int.negSucc k).repr = "-" ++ Nat.repr (k + 1) from rfl, String.toList_append,
        Nat.toList_repr]
      rfl
    rw [decimal?, hText]
    simp only [if_pos (hDigits (k + 1)), Nat.ofDigitChars_ten_toDigits]
    rfl

def read? (http : PlaceHttpRequest) : Option BrokerOrder := do
  let side ← sideOf? http.trId
  let symbol ← http.body.lookup "PDNO"
  let quantity ← decimal? (← http.body.lookup "ORD_QTY")
  let orderType ← orderTypeOf? (← http.body.lookup "ORD_DVSN")
  let price ← decimal? (← http.body.lookup "ORD_UNPR")
  let cano ← http.body.lookup "CANO"
  let productCode ← http.body.lookup "ACNT_PRDT_CD"
  return ⟨side, symbol, quantity, orderType, price, (cano.toList, productCode.toList)⟩

/-- KIS reads back every field of the request but its account number. -/
theorem read?_placeHttpRequest (transport : HttpxKisOrderTransport) (request : KisOrderRequest) :
    read? (transport.placeHttpRequest request) = some {
      side := request.side
      symbol := request.symbol
      quantity := request.quantity
      orderType := request.orderType
      price := if request.orderType = .limit then request.price else 0
      account := transport.accountSplit } := by
  have hSide : sideOf? (transport.placeHttpRequest request).trId = some request.side := by
    cases hCase : request.side <;>
      simp [HttpxKisOrderTransport.placeHttpRequest, hCase, HttpxKisOrderTransport.trIdBuy,
        HttpxKisOrderTransport.trIdSell, sideOf?]
  have hType : orderTypeOf? (if request.orderType = .market then "01" else "00") =
      some request.orderType := by
    cases request.orderType <;> simp [orderTypeOf?]
  have hPrice : decimal? (if request.orderType = .limit then request.price.repr else "0") =
      some (if request.orderType = .limit then request.price else 0) := by
    split_ifs
    · exact decimal?_repr _
    · exact decimal?_repr 0
  rw [read?, hSide]
  simp [HttpxKisOrderTransport.placeHttpRequest, List.lookup_cons, hType, hPrice, decimal?_repr]

end BrokerOrder

section Account

/-- An account number is eight characters and a product code, with or without a hyphen before
it; `productCode` is the one that holds where the number has none. -/
def accountOf (productCode acct : Text) : Text × Text :=
  (acct.take 8, (if acct.length ≤ 8 then productCode else acct.drop 8).dropWhile (· = '-'))

def configuredAccount (settings : Settings) : Text × Text :=
  accountOf settings.kisAccountProductCode.toList settings.kisAccountNo.toList

/-- What a body keeps of an account number: ten characters, or eight where it has fewer. -/
def keptOf (acct : Text) : Text := if 10 ≤ acct.length then acct.take 10 else acct.take 8

theorem not_hyphen_of_dropWhile {t u : Text} (h : t = u.dropWhile (· = '-')) :
    t.head? ≠ some '-' := by
  intro hHead
  have hNot := List.head?_dropWhile_not (fun c => decide (c = '-')) u
  rw [← h, hHead] at hNot
  simp at hNot

theorem dropWhile_hyphen {t : Text} (h : t.head? ≠ some '-') : t.dropWhile (· = '-') = t := by
  apply dropWhile_eq_self
  intro c hc
  rw [Option.mem_def] at hc
  simp only [decide_eq_false_iff_not]
  rintro rfl
  exact h hc

theorem accountOf_short {productCode acct : Text} (h : acct.length ≤ 8) :
    accountOf productCode acct = (acct, productCode.dropWhile (· = '-')) := by
  rw [accountOf, if_pos h, List.take_of_length_le h]

theorem accountOf_long {productCode acct : Text} (h : ¬ acct.length ≤ 8)
    (hNinth : acct[8]? ≠ some '-') :
    accountOf productCode acct = (acct.take 8, acct.drop 8) := by
  rw [accountOf, if_neg h, dropWhile_hyphen (List.head?_drop ▸ hNinth)]

variable (transport : HttpxKisOrderTransport)

theorem accountSplit_eq :
    let kept := keptOf transport.heldAccountNo.toList
    transport.accountSplit =
      (kept.take 8, if kept.length ≤ 8 then ['0', '1'] else kept.drop 8) := by
  intro kept
  have hKept : kept = keptOf transport.heldAccountNo.toList := rfl
  rw [HttpxKisOrderTransport.accountSplit]
  generalize transport.heldAccountNo.toList = acct at hKept ⊢
  by_cases hTen : 10 ≤ acct.length
  · rw [keptOf, if_pos hTen] at hKept
    have hLong : ¬ kept.length ≤ 8 := by
      rw [hKept, List.length_take]
      omega
    rw [if_neg hLong, hKept, List.take_take]
    simp [hTen]
  · rw [keptOf, if_neg hTen] at hKept
    have hShort : kept.length ≤ 8 := hKept ▸ List.length_take_le 8 acct
    rw [if_pos hShort, hKept, List.take_take]
    by_cases hEight : 8 ≤ acct.length
    · simp [hTen, hEight]
    · simp [hTen, hEight, List.take_of_length_le (Nat.le_of_lt (not_le.mp hEight))]

/-- The body carries an account exactly when what is kept of the number does, read as a number
without a hyphen. -/
theorem accountSplit_eq_accountOf_iff (productCode acct : Text) :
    let kept := keptOf transport.heldAccountNo.toList
    transport.accountSplit = accountOf productCode acct ↔
      kept[8]? ≠ some '-' ∧ accountOf ['0', '1'] kept = accountOf productCode acct := by
  intro kept
  have hSplit : transport.accountSplit =
      (kept.take 8, if kept.length ≤ 8 then ['0', '1'] else kept.drop 8) := accountSplit_eq transport
  have hRead : kept[8]? ≠ some '-' → accountOf ['0', '1'] kept = transport.accountSplit := by
    intro hNinth
    rw [hSplit]
    by_cases hShort : kept.length ≤ 8
    · rw [if_pos hShort, accountOf_short hShort, List.take_of_length_le hShort]
      rfl
    · rw [if_neg hShort, accountOf_long hShort hNinth]
  constructor
  · intro h
    have hNinth : kept[8]? ≠ some '-' := by
      by_cases hShort : kept.length ≤ 8
      · rw [List.getElem?_eq_none hShort]
        simp
      · rw [hSplit, if_neg hShort] at h
        rw [← List.head?_drop]
        exact not_hyphen_of_dropWhile (Prod.mk.inj h).2
    exact ⟨hNinth, (hRead hNinth).trans h⟩
  · rintro ⟨hNinth, hSame⟩
    exact (hRead hNinth).symm.trans hSame

/-- Of its own number a transport keeps all that names the account if it has at most eight
characters, or ten without a hyphen before the product code. -/
theorem kept_own_iff (productCode acct : Text) :
    ((keptOf acct)[8]? ≠ some '-' ∧ accountOf ['0', '1'] (keptOf acct) = accountOf productCode acct) ↔
      (acct.length ≤ 8 ∧ productCode.dropWhile (· = '-') = ['0', '1']) ∨
      (acct.length = 10 ∧ acct[8]? ≠ some '-') := by
  rcases (by omega : acct.length ≤ 8 ∨ acct.length = 9 ∨ acct.length = 10 ∨ 10 < acct.length) with
    hShort | hNine | hTen | hLong
  · have hKept : keptOf acct = acct := by
      rw [keptOf, if_neg (by omega), List.take_of_length_le hShort]
    have hTen : acct.length ≠ 10 := by omega
    rw [hKept, List.getElem?_eq_none hShort, accountOf_short hShort, accountOf_short hShort]
    simp [hShort, hTen, eq_comm]
  · have hKept : keptOf acct = acct.take 8 := by rw [keptOf, if_neg (by omega)]
    have hTail : ((acct.drop 8).dropWhile (· = '-')).length ≤ 1 := by
      refine (List.length_dropWhile_le _ _).trans ?_
      rw [List.length_drop]
      omega
    refine iff_of_false ?_ (by omega)
    rintro ⟨-, hSame⟩
    rw [hKept, accountOf_short (List.length_take_le 8 acct), accountOf, if_neg (by omega)] at hSame
    rw [← (Prod.mk.inj hSame).2] at hTail
    exact absurd hTail (by decide)
  · have hKept : keptOf acct = acct := by
      rw [keptOf, if_pos (by omega), List.take_of_length_le (by omega)]
    rw [hKept, accountOf, accountOf, if_neg (by omega), if_neg (by omega)]
    simp [hTen]
  · have hKept : keptOf acct = acct.take 10 := by rw [keptOf, if_pos (by omega)]
    have hLength : (acct.take 10).length = 10 := List.length_take_of_le (by omega)
    refine iff_of_false ?_ (by omega)
    rintro ⟨hNinth, hSame⟩
    have hWhole : acct[8]? ≠ some '-' := by
      rwa [hKept, List.getElem?_take_of_lt (by decide)] at hNinth
    rw [hKept] at hNinth hSame
    rw [accountOf_long (by omega) hNinth, accountOf_long (by omega) hWhole] at hSame
    have hTails := congrArg List.length (Prod.mk.inj hSame).2
    rw [List.length_drop, List.length_drop, hLength] at hTails
    omega

end Account

namespace RealOrderExecutor

/-- The order says what was approved, on the account these settings configure. -/
structure Encodes (settings : Settings) (candidate : OrderCandidate) (order : BrokerOrder) :
    Prop where
  side : order.side = candidate.side
  symbol : order.symbol = candidate.symbol
  quantity : order.quantity = candidate.quantity
  orderType : order.orderType = candidate.orderType
  limitPrice : candidate.orderType = .limit →
    0 < order.price ∧ candidate.limitPrice = some (order.price : ℚ)
  marketPrice : candidate.orderType = .market → order.price = 0
  account : order.account = configuredAccount settings

def Faithful (settings : Settings) (candidate : OrderCandidate) (http : PlaceHttpRequest) : Prop :=
  ∃ order, BrokerOrder.read? http = some order ∧ Encodes settings candidate order

def WholeLimit (candidate : OrderCandidate) : Prop := ∀ price ∈ candidate.limitPrice, price.den = 1

/-- What the transport keeps of its account number names the account of these settings. -/
def KeepsAccount (transport : HttpxKisOrderTransport) (settings : Settings) : Prop :=
  let kept := keptOf transport.heldAccountNo.toList
  kept[8]? ≠ some '-' ∧ accountOf ['0', '1'] kept = configuredAccount settings

theorem wholePrice_eq_iff (price : ℚ) : (wholePrice (some price) : ℚ) = price ↔ price.den = 1 := by
  constructor
  · intro h
    rw [← h]
    exact Rat.den_intCast _
  · intro h
    rw [wholePrice, h, Nat.cast_one, Int.tdiv_one]
    exact (Rat.den_eq_one_iff price).mp h

theorem limitPrice_wholePrice_iff (candidate : OrderCandidate) :
    (candidate.orderType = .limit → 0 < wholePrice candidate.limitPrice ∧
        candidate.limitPrice = some (wholePrice candidate.limitPrice : ℚ)) ↔
      WholeLimit candidate := by
  have hOk := candidate.limitPrice_ok
  rw [WholeLimit]
  cases hType : candidate.orderType with
  | market =>
    rw [hType] at hOk
    cases hPrice : candidate.limitPrice with
    | none => simp
    | some price => simp [hPrice, OrderType.takesPositive] at hOk
  | limit =>
    rw [hType] at hOk
    cases hPrice : candidate.limitPrice with
    | none => simp [hPrice, OrderType.takesPositive] at hOk
    | some price =>
      rw [hPrice] at hOk
      have hPos : 0 < price := OrderType.pos_of_takesPositive hOk
      have hWhole := wholePrice_eq_iff price
      constructor
      · intro h other hOther
        obtain rfl := Option.some.inj hOther
        exact hWhole.mp (Option.some.inj (h rfl).2).symm
      · intro h _
        have hEq := hWhole.mpr (h price rfl)
        refine ⟨?_, congrArg some hEq.symm⟩
        rw [← hEq] at hPos
        exact_mod_cast hPos

/-- The body is faithful but for the cut price and the account of the transport's own. -/
theorem faithful_iff (transport : HttpxKisOrderTransport) (settings : Settings)
    (candidate : OrderCandidate) (accountNo : String) :
    Faithful settings candidate
        (transport.placeHttpRequest (orderRequest candidate accountNo)) ↔
      WholeLimit candidate ∧ transport.accountSplit = configuredAccount settings := by
  have hRead := BrokerOrder.read?_placeHttpRequest transport (orderRequest candidate accountNo)
  rw [← limitPrice_wholePrice_iff]
  constructor
  · rintro ⟨order, hOrder, hEncodes⟩
    obtain rfl := Option.some.inj (hRead.symm.trans hOrder)
    refine ⟨fun hLimit => ?_, hEncodes.account⟩
    have hPrice := hEncodes.limitPrice hLimit
    simp only [orderRequest, hLimit, if_true] at hPrice
    exact hPrice
  · rintro ⟨hPrice, hAccount⟩
    refine ⟨_, hRead, rfl, rfl, rfl, rfl, fun hLimit => ?_, fun hMarket => ?_, hAccount⟩
    · simp only [orderRequest, hLimit, if_true]
      exact hPrice hLimit
    · simp [orderRequest, hMarket]

/-- The one request of the real path, answered or not. -/
theorem log_executeReal (ambient : Ambient) (candidate : OrderCandidate) (settings : Settings)
    (n : Nat) (answer : Answer) (s : DbSession) :
    let request := orderRequest candidate settings.kisAccountNo
    ((executeReal ambient candidate settings (.live n)).exec answer s).2.log =
      s.log ++ [⟨.placeOrder n request, answer (.placeOrder n request)⟩] := by
  intro request
  cases hReply : placeReply (.live n) ambient.fakeOrderCounter answer request with
  | error error =>
    rw [exec_executeReal_raised answer s ambient settings candidate (.live n) hReply]
    rfl
  | ok kisResult =>
    cases hRow : settledRow ambient (anchorRow ambient candidate s.view.realOrders.nextKey)
        kisResult with
    | ok row =>
      obtain ⟨result, after, -, -, hExec, hLog, -, -⟩ :=
        exec_executeReal_settled answer s ambient settings candidate (.live n) hReply hRow
      rw [hExec, hLog]
      rfl
    | error error =>
      rw [exec_executeReal_refused answer s ambient settings candidate (.live n) hReply hRow]
      split <;> rfl

/-- What the transport posts for the request of the real path says what was approved exactly
when nothing was cut off the limit price and the account it names is the configured one. -/
theorem executeReal_faithful_iff (transport : HttpxKisOrderTransport) (settings : Settings)
    (ambient : Ambient) (candidate : OrderCandidate) (n : Nat) (answer : Answer) (s : DbSession) :
    ∃ request,
      ((executeReal ambient candidate settings (.live n)).exec answer s).2.log =
        s.log ++ [⟨.placeOrder n request, answer (.placeOrder n request)⟩] ∧
      (Faithful settings candidate (transport.placeHttpRequest request) ↔
        WholeLimit candidate ∧ KeepsAccount transport settings) ∧
      (Faithful settings candidate
          ((HttpxKisOrderTransport.mk settings none).placeHttpRequest request) ↔
        WholeLimit candidate ∧
          ((settings.kisAccountNo.toList.length ≤ 8 ∧
              settings.kisAccountProductCode.toList.dropWhile (· = '-') = ['0', '1']) ∨
            (settings.kisAccountNo.toList.length = 10 ∧
              settings.kisAccountNo.toList[8]? ≠ some '-'))) := by
  refine ⟨orderRequest candidate settings.kisAccountNo,
    log_executeReal ambient candidate settings n answer s, ?_, ?_⟩
  · rw [faithful_iff]
    exact and_congr_right fun _ => accountSplit_eq_accountOf_iff transport _ _
  · rw [faithful_iff]
    exact and_congr_right fun _ =>
      (accountSplit_eq_accountOf_iff ⟨settings, none⟩ _ _).trans (kept_own_iff _ _)

theorem takesPositive_limit {price : ℚ} (h : 0 < price) :
    OrderType.limit.takesPositive (some price) = true := decide_eq_true h

def sellCandidate (price : ℚ) (hPrice : 0 < price) : OrderCandidate :=
  { approvedCandidate 1 "005930" 700 with
    side := .sell
    orderType := .limit
    limitPrice := some price
    limitPrice_ok := takesPositive_limit hPrice }

def accountSettings (kisAccountNo : String) : Settings :=
  { openSettings false true with kisAccountNo := kisAccountNo }

/-- A limit of half a won goes out as a price of zero, and a number written with a hyphen as
another account. -/
theorem executeReal_misstates :
    let posted (candidate : OrderCandidate) (settings : Settings) : PlaceHttpRequest :=
      (HttpxKisOrderTransport.mk settings none).placeHttpRequest
        (orderRequest candidate settings.kisAccountNo)
    let half := sellCandidate (1 / 2) (by decide +kernel)
    let whole := sellCandidate 70000 (by decide +kernel)
    ((posted half (accountSettings "1234567801")).body.lookup "ORD_UNPR" = some "0" ∧
      ¬ Faithful (accountSettings "1234567801") half
        (posted half (accountSettings "1234567801"))) ∧
    ((posted whole (accountSettings "12345678-01")).body.lookup "ACNT_PRDT_CD" = some "-0" ∧
      ¬ Faithful (accountSettings "12345678-01") whole
        (posted whole (accountSettings "12345678-01"))) := by
  intro posted half whole
  refine ⟨⟨by decide +kernel, ?_⟩, ⟨by decide +kernel, ?_⟩⟩
  · rw [faithful_iff]
    rintro ⟨hWhole, -⟩
    exact absurd (hWhole (1 / 2) rfl) (by decide +kernel)
  · rw [faithful_iff]
    rintro ⟨-, hAccount⟩
    exact absurd hAccount (by decide)

end RealOrderExecutor

end StockAiPlatform
