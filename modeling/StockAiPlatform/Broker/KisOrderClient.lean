import StockAiPlatform.Db.Models
import StockAiPlatform.Transaction.Trail

/-! # The broker interface and its fake transport

What is sent to a transport, what comes back, and the transport that answers
without any HTTP call. A request or result that its constructor refuses
cannot be built here.
-/

namespace StockAiPlatform
set_option autoImplicit false

open Transaction Python

/-- The `details` of an `ApprovalDeniedError`. -/
inductive DenialDetail where
  | currentStatus (status : CandidateStatus)
  | violationRuleIds (ruleIds : List String)
  | errorType (name : String)
  deriving DecidableEq, Repr

/-- The exceptions the order path raises or lets through. -/
inductive PyError where
  | valueError (message : String)
  | auditValidation (message : String)
  | candidateValidation (message : String)
  | invalidTransition (message : String)
  | approvalService (message : String)
  | approvalDenied (message : String) (detail : DenialDetail)
  | tradingSafetyDisabled (message : String)
  | killSwitchBlocked (message : String)
  | paperTradingDisabled (message : String)
  | simulationBroker (message : String)
  | insufficientCash (message : Formatted)
  | insufficientPosition (message : String)
  | transport (name : String)
  | unicodeEncode
  | http (statusCode : Nat) (detail : String)
  deriving DecidableEq, Repr

structure KisOrderRequest where
  symbol : String
  side : Side
  orderType : OrderType
  quantity : Int
  price : Int
  accountNo : String
  quantity_pos : 0 < quantity
  price_nonneg : 0 ≤ price
  deriving DecidableEq

structure KisOrderResult where
  success : Bool
  orderNo : Str
  message : Str
  deriving DecidableEq, Repr

/-- `KisFillStatusResult.VALID_STATUSES`. -/
inductive KisFillStatus where
  | pending | partiallyFilled | filled | canceled | rejected
  deriving DecidableEq, Repr

namespace KisFillStatus

def value : KisFillStatus → String
  | pending => "PENDING"
  | partiallyFilled => "PARTIALLY_FILLED"
  | filled => "FILLED"
  | canceled => "CANCELED"
  | rejected => "REJECTED"

end KisFillStatus

structure KisFillStatusResult where
  success : Bool
  orderNo : String
  filledQuantity : Int
  remainingQuantity : Int
  status : KisFillStatus
  message : Str
  deriving DecidableEq, Repr

/-- A transport is the fake one or one of the live ones, told apart by number. -/
inductive KisOrderTransport where
  | fake
  | live (transport : Nat)
  deriving DecidableEq, Repr

namespace KisOrderTransport

def isFake : KisOrderTransport → Bool
  | fake => true
  | live _ => false

end KisOrderTransport

/-- What leaves the process: a call on a live transport. -/
inductive Request where
  | placeOrder (transport : Nat) (request : KisOrderRequest)
  | queryFillStatus (transport : Nat) (orderNo : String)
  deriving DecidableEq

abbrev Reply : Request → Type
  | .placeOrder _ _ => Except PyError KisOrderResult
  | .queryFillStatus _ _ => Except PyError KisFillStatusResult

abbrev Answer := (request : Request) → Reply request

/-- What paper calls, which ask no transport, are run with. -/
def unasked : Answer
  | .placeOrder _ _ => .error (.transport "not asked")
  | .queryFillStatus _ _ => .error (.transport "not asked")

abbrev Exchanged := Exchange Request Reply

/-- The SELECT statements of the order path. -/
inductive Query where
  | candidateById (candidateId : Nat)
  | nonFailedForCandidate (candidateId : Nat)
  | ordersByCandidate (candidateId : Nat)
  | todayRealOrderTotal (accountId : Nat)
  | riskEvaluation (candidateId : Nat)
  | orderById (orderId : Nat)
  | totalFilledQuantity (orderId : Nat)
  | expiredPending (now : Int)
  | accountById (accountId : Nat)
  | accountsByUser (userId : Option Nat)
  | virtualOrderById (orderId : Nat)
  | virtualOrderByKey (accountId : Nat) (idempotencyKey : String)
  | virtualOrdersByStatus (accountId : Option Nat) (status : VirtualOrderStatus)
  | positionByAccountSymbol (accountId : Nat) (symbol : String)
  | positionsByAccount (accountId : Nat)
  | priceByDate (symbol : String) (date : Int)
  | latestPrice (symbol : String) (targetDate : Int) (lookbackDays : Int)
  | snapshotByDate (accountId : Nat) (snapshotDate : Int)
  | snapshotsByAccount (accountId : Nat)
  | recentOrders (limit : Nat)
  | ordersByStatus (status : RealOrderStatus) (limit : Nat)
  | virtualOrdersByAccount (accountId : Nat) (status : Option String) (limit : Nat)
  deriving DecidableEq, Repr

abbrev App := Program Database Query Request Reply PyError

abbrev DbSession := Session Database Request Reply

/-- Six digits at least, as `:06d` writes them. -/
def sixDigits (n : Nat) : String :=
  let digits := (toString n).toList
  String.ofList (List.replicate (6 - digits.length) '0' ++ digits)

namespace FakeKisOrderTransport

/-- `counter` is the module's order counter before the call. -/
def placeOrder (counter : Nat) (_request : KisOrderRequest) : KisOrderResult where
  success := true
  orderNo := Str.ofText ("FAKE-" ++ sixDigits (counter + 1)).toList
  message := "fake order accepted"

def queryFillStatus (orderNo : String) : KisFillStatusResult where
  success := true
  orderNo := orderNo
  filledQuantity := 0
  remainingQuantity := 0
  status := .filled
  message := "fake fill complete"

end FakeKisOrderTransport

/-- `KisOrderClientInterface.place_order` on either kind of transport. -/
def placeOrder (transport : KisOrderTransport) (counter : Nat) (request : KisOrderRequest) :
    App KisOrderResult :=
  match transport with
  | .fake => pure (FakeKisOrderTransport.placeOrder counter request)
  | .live n => do
    let reply ← Program.asked (.placeOrder n request)
    .ofExcept reply

/-- `KisOrderClientInterface.query_fill_status` on either kind of transport. -/
def queryFillStatus (transport : KisOrderTransport) (orderNo : String) : App KisFillStatusResult :=
  match transport with
  | .fake => pure (FakeKisOrderTransport.queryFillStatus orderNo)
  | .live n => do
    let reply ← Program.asked (.queryFillStatus n orderNo)
    .ofExcept reply

/-- What a transport answers, with the fake one answering for itself. -/
def placeReply (transport : KisOrderTransport) (counter : Nat) (answer : Answer)
    (request : KisOrderRequest) : Except PyError KisOrderResult :=
  match transport with
  | .fake => .ok (FakeKisOrderTransport.placeOrder counter request)
  | .live n => answer (.placeOrder n request)

def fillReply (transport : KisOrderTransport) (answer : Answer) (orderNo : String) :
    Except PyError KisFillStatusResult :=
  match transport with
  | .fake => .ok (FakeKisOrderTransport.queryFillStatus orderNo)
  | .live n => answer (.queryFillStatus n orderNo)

/-- The exchange a call leaves in the log: none for the fake transport. -/
def recordPlace (transport : KisOrderTransport) (answer : Answer) (request : KisOrderRequest)
    (s : DbSession) : DbSession :=
  match transport with
  | .fake => s
  | .live n => s.record ⟨.placeOrder n request, answer (.placeOrder n request)⟩

def recordQuery (transport : KisOrderTransport) (answer : Answer) (orderNo : String)
    (s : DbSession) : DbSession :=
  match transport with
  | .fake => s
  | .live n => s.record ⟨.queryFillStatus n orderNo, answer (.queryFillStatus n orderNo)⟩

theorem exec_placeOrder (transport : KisOrderTransport) (counter : Nat) (request : KisOrderRequest)
    (answer : Answer) (s : DbSession) :
    (placeOrder transport counter request).exec answer s =
      (placeReply transport counter answer request, recordPlace transport answer request s) := by
  cases transport with
  | fake => rfl
  | live n =>
    rw [placeOrder, Program.exec_bind_ok answer s (Program.exec_asked answer s _)]
    exact Program.exec_ofExcept answer _ _

theorem exec_queryFillStatus (transport : KisOrderTransport) (orderNo : String)
    (answer : Answer) (s : DbSession) :
    (queryFillStatus transport orderNo).exec answer s =
      (fillReply transport answer orderNo, recordQuery transport answer orderNo s) := by
  cases transport with
  | fake => rfl
  | live n =>
    rw [queryFillStatus, Program.exec_bind_ok answer s (Program.exec_asked answer s _)]
    exact Program.exec_ofExcept answer _ _

@[simp] theorem recordPlace_view (transport : KisOrderTransport) (answer : Answer)
    (request : KisOrderRequest) (s : DbSession) :
    (recordPlace transport answer request s).view = s.view := by
  cases transport <;> rfl

@[simp] theorem recordPlace_durable (transport : KisOrderTransport) (answer : Answer)
    (request : KisOrderRequest) (s : DbSession) :
    (recordPlace transport answer request s).durable = s.durable := by
  cases transport <;> rfl

@[simp] theorem recordQuery_view (transport : KisOrderTransport) (answer : Answer)
    (orderNo : String) (s : DbSession) :
    (recordQuery transport answer orderNo s).view = s.view := by
  cases transport <;> rfl

@[simp] theorem recordQuery_durable (transport : KisOrderTransport) (answer : Answer)
    (orderNo : String) (s : DbSession) :
    (recordQuery transport answer orderNo s).durable = s.durable := by
  cases transport <;> rfl

@[simp] theorem commitFree_placeOrder (transport : KisOrderTransport) (counter : Nat)
    (request : KisOrderRequest) : (placeOrder transport counter request).CommitFree := by
  cases transport with
  | fake => trivial
  | live n =>
    exact Program.CommitFree.bind (Program.commitFree_asked _) Program.commitFree_ofExcept

end StockAiPlatform
