import Mathlib.Data.Rat.Defs
import Mathlib.Algebra.Order.Ring.Rat
import StockAiPlatform.Python.Json
import StockAiPlatform.Risk.RiskCheckResult
import StockAiPlatform.Transaction.Table

/-! # The stored rows

Amounts are exact decimals, instants are microseconds of UTC, days are counted
from the Unix epoch, and a row type carries the checks its repository makes
before it inserts the row. Columns no modelled function reads are left out.
-/

namespace StockAiPlatform
set_option autoImplicit false

open Transaction Python

def microsPerHour : Int := 3600 * 1000000

def microsPerDay : Int := 24 * microsPerHour

/-- Asia/Seoul is UTC+9 all year. -/
def kstDate (t : Int) : Int := (t + 9 * microsPerHour) / microsPerDay

/-- Midnight in Seoul at the start of `day`, as an instant of UTC. -/
def kstMidnight (day : Int) : Int := day * microsPerDay - 9 * microsPerHour

theorem kstDate_eq_iff (t : Int) (day : Int) :
    kstDate t = day ↔ kstMidnight day ≤ t ∧ t < kstMidnight day + microsPerDay := by
  have hDay : (0 : Int) < microsPerDay := by decide
  rw [kstDate, kstMidnight, Int.ediv_eq_iff_of_pos hDay]
  constructor
  · rintro ⟨hLow, hHigh⟩
    omega
  · rintro ⟨hLow, hHigh⟩
    omega

inductive Side where
  | buy | sell
  deriving DecidableEq, Repr

namespace Side

def value : Side → String
  | buy => "BUY"
  | sell => "SELL"

def ofValue? : String → Option Side
  | "BUY" => some buy
  | "SELL" => some sell
  | _ => none

theorem ofValue?_value (side : Side) : ofValue? side.value = some side := by
  cases side <;> rfl

theorem value_injective : Function.Injective value := by
  intro a b h
  have hValue := ofValue?_value a
  rw [h, ofValue?_value] at hValue
  exact (Option.some.inj hValue).symm

end Side

inductive OrderType where
  | market | limit
  deriving DecidableEq, Repr

namespace OrderType

def value : OrderType → String
  | market => "MARKET"
  | limit => "LIMIT"

def ofValue? : String → Option OrderType
  | "MARKET" => some market
  | "LIMIT" => some limit
  | _ => none

theorem ofValue?_value (orderType : OrderType) : ofValue? orderType.value = some orderType := by
  cases orderType <;> rfl

theorem value_injective : Function.Injective value := by
  intro a b h
  have hValue := ofValue?_value a
  rw [h, ofValue?_value] at hValue
  exact (Option.some.inj hValue).symm

/-- A limit order has a limit price, a market order has none. -/
def takes : OrderType → Option ℚ → Bool
  | market, none => true
  | limit, some _ => true
  | _, _ => false

/-- The candidate repository also wants the limit price positive. -/
def takesPositive : OrderType → Option ℚ → Bool
  | market, none => true
  | limit, some price => decide (0 < price)
  | _, _ => false

theorem takes_market : market.takes none = true := rfl

theorem takesPositive_market : market.takesPositive none = true := rfl

theorem takes_of_takesPositive {t : OrderType} {price : Option ℚ} (h : t.takesPositive price = true) :
    t.takes price = true := by
  cases t <;> cases price <;> simp_all [takes, takesPositive]

theorem pos_of_takesPositive {t : OrderType} {price : ℚ} (h : t.takesPositive (some price) = true) :
    0 < price := by
  cases t with
  | market => simp [takesPositive] at h
  | limit => simpa [takesPositive] using h

end OrderType

inductive CandidateSource where
  | recommendation | strategy | paper | manual
  deriving DecidableEq, Repr

namespace CandidateSource

def value : CandidateSource → String
  | recommendation => "RECOMMENDATION"
  | strategy => "STRATEGY"
  | paper => "PAPER"
  | manual => "MANUAL"

def ofValue? : String → Option CandidateSource
  | "RECOMMENDATION" => some recommendation
  | "STRATEGY" => some strategy
  | "PAPER" => some paper
  | "MANUAL" => some manual
  | _ => none

end CandidateSource

inductive CandidateStatus where
  | draft | riskChecking | riskRejected | pendingApproval
  | approved | executedPaper | rejected | expired
  deriving DecidableEq, Repr

namespace CandidateStatus

def value : CandidateStatus → String
  | draft => "DRAFT"
  | riskChecking => "RISK_CHECKING"
  | riskRejected => "RISK_REJECTED"
  | pendingApproval => "PENDING_APPROVAL"
  | approved => "APPROVED"
  | executedPaper => "EXECUTED_PAPER"
  | rejected => "REJECTED"
  | expired => "EXPIRED"

/-- `TERMINAL_STATUSES` of the candidate repository. -/
def isTerminal : CandidateStatus → Bool
  | riskRejected | executedPaper | rejected | expired => true
  | draft | riskChecking | pendingApproval | approved => false

end CandidateStatus

inductive VirtualOrderStatus where
  | created | submitted | partiallyFilled | filled | canceled | rejected
  deriving DecidableEq, Repr

namespace VirtualOrderStatus

def value : VirtualOrderStatus → String
  | created => "CREATED"
  | submitted => "SUBMITTED"
  | partiallyFilled => "PARTIALLY_FILLED"
  | filled => "FILLED"
  | canceled => "CANCELED"
  | rejected => "REJECTED"

/-- `TERMINAL_STATUSES` of the virtual order repository. -/
def isTerminal : VirtualOrderStatus → Bool
  | filled | partiallyFilled | canceled | rejected => true
  | created | submitted => false

/-- `CANCELABLE_STATUSES`. -/
def isCancelable : VirtualOrderStatus → Bool
  | created | submitted => true
  | partiallyFilled | filled | canceled | rejected => false

end VirtualOrderStatus

inductive RealOrderStatus where
  | dryRun | created | submitted | partiallyFilled | filled | canceled | rejected | failed
  deriving DecidableEq, Repr

namespace RealOrderStatus

def value : RealOrderStatus → String
  | dryRun => "DRY_RUN"
  | created => "CREATED"
  | submitted => "SUBMITTED"
  | partiallyFilled => "PARTIALLY_FILLED"
  | filled => "FILLED"
  | canceled => "CANCELED"
  | rejected => "REJECTED"
  | failed => "FAILED"

def all : List RealOrderStatus :=
  [dryRun, created, submitted, partiallyFilled, filled, canceled, rejected, failed]

/-- The member of `VALID_STATUSES` that a text is, if it is one. -/
def ofValue? (text : String) : Option RealOrderStatus := all.find? fun status => status.value == text

/-- `TERMINAL_STATUSES` of the real order repository. -/
def isTerminal : RealOrderStatus → Bool
  | dryRun | filled | canceled | rejected | failed => true
  | created | submitted | partiallyFilled => false

/-- `_NON_FAILED_STATUSES`: what keeps a candidate from being executed again. -/
def isNonFailed : RealOrderStatus → Bool
  | dryRun | created | submitted | partiallyFilled | filled => true
  | canceled | rejected | failed => false

end RealOrderStatus

/-- `RealFill.fill_status`. -/
inductive FillMark where
  | full | partialFill
  deriving DecidableEq, Repr

namespace FillMark

def value : FillMark → String
  | full => "FULL"
  | partialFill => "PARTIAL"

end FillMark

/-- `VALID_EVENT_TYPES` of the approval audit log. -/
inductive AuditEvent where
  | created | riskChecked | riskRejected | approved | rejected | expired | executedPaper
  | killSwitchBlocked | realOrderSubmitted | realOrderFailed
  | realOrderFillSynced | realOrderFillFailed | fillSyncNegativeDelta
  deriving DecidableEq, Repr

structure OrderCandidate where
  id : Nat
  accountId : Nat
  source : CandidateSource
  sourceRefId : Option Int := none
  symbol : String
  side : Side
  quantity : Int
  orderType : OrderType
  limitPrice : Option ℚ
  estimatedAmount : ℚ
  status : CandidateStatus
  riskCheckResult : Option RiskCheckResult := none
  approverUserId : Option Nat := none
  rejectionReason : Option String := none
  expiresAt : Option Int := none
  virtualOrderId : Option Nat := none
  createdAt : Int
  quantity_pos : 0 < quantity
  limitPrice_ok : orderType.takesPositive limitPrice = true
  estimatedAmount_nonneg : 0 ≤ estimatedAmount

structure RealOrder where
  id : Nat
  candidateId : Nat
  symbol : String
  side : Side
  quantity : Int
  orderType : OrderType
  limitPrice : Option ℚ
  estimatedAmount : ℚ
  status : RealOrderStatus
  dryRun : Bool
  fakeOrderNo : Option String
  brokerOrderNoHash : Option String
  requestId : Option String
  errorCode : Option String
  errorMessage : Option String
  submittedAt : Option Int
  createdAt : Int
  quantity_pos : 0 < quantity
  limitPrice_ok : orderType.takes limitPrice = true
  estimatedAmount_nonneg : 0 ≤ estimatedAmount

structure RealFill where
  realOrderId : Nat
  symbol : String
  side : Side
  quantity : Int
  fillPrice : ℚ
  fee : ℚ
  tax : ℚ
  grossAmount : ℚ
  netAmount : ℚ
  fillStatus : FillMark
  filledAt : Int
  quantity_pos : 0 < quantity
  fillPrice_pos : 0 < fillPrice
  grossAmount_nonneg : 0 ≤ grossAmount
  netAmount_nonneg : 0 ≤ netAmount

structure ApprovalAuditLog where
  candidateId : Nat
  eventType : AuditEvent
  userId : Option Nat
  reason : Option String
  detailsJson : Option (List (String × Json))
  ipHash : Option String
  userAgentHash : Option String

structure VirtualAccount where
  id : Nat
  userId : Option Nat := none
  initialCash : ℚ
  cashBalance : ℚ
  paperTradingEnabled : Bool

structure VirtualOrder where
  id : Nat
  accountId : Nat
  symbol : String
  side : Side
  quantity : Int
  orderType : OrderType
  limitPrice : Option ℚ
  status : VirtualOrderStatus
  idempotencyKey : Option String
  reason : Option Formatted
  note : Option String
  quantity_pos : 0 < quantity
  limitPrice_ok : orderType.takes limitPrice = true

structure VirtualPosition where
  accountId : Nat
  symbol : String
  quantity : Int
  avgCost : ℚ
  realizedPnl : ℚ

structure VirtualFill where
  orderId : Nat
  accountId : Nat
  symbol : String
  side : Side
  quantity : Int
  fillPrice : ℚ
  fee : ℚ
  stampTax : ℚ
  slippage : ℚ
  grossAmount : ℚ
  netAmount : ℚ
  filledAt : Int
  quantity_pos : 0 < quantity
  fillPrice_pos : 0 < fillPrice
  fee_nonneg : 0 ≤ fee
  stampTax_nonneg : 0 ≤ stampTax
  slippage_nonneg : 0 ≤ slippage
  grossAmount_nonneg : 0 ≤ grossAmount
  netAmount_nonneg : 0 ≤ netAmount

structure VirtualPnlSnapshot where
  accountId : Nat
  snapshotDate : Int
  cashBalance : ℚ
  marketValue : ℚ
  totalValue : ℚ
  realizedPnl : ℚ
  unrealizedPnl : ℚ

/-- A bar of a symbol. Its day is a number, or a date where one is computed with. -/
structure DailyPrice (day : Type := Int) where
  symbol : String
  date : day
  openPrice : ℚ
  high : ℚ
  low : ℚ
  close : ℚ
  deriving DecidableEq

namespace DailyPrice

variable {day : Type}

def key (bar : DailyPrice day) : String × day := (bar.symbol, bar.date)

/-- A day on which everything was traded at one price. -/
def flat (symbol : String) (date : day) (price : ℚ) : DailyPrice day :=
  ⟨symbol, date, price, price, price, price⟩

end DailyPrice

instance : Keyed OrderCandidate := ⟨OrderCandidate.id⟩
instance : Keyed RealOrder := ⟨RealOrder.id⟩
instance : Keyed VirtualAccount := ⟨VirtualAccount.id⟩
instance : Keyed VirtualOrder := ⟨VirtualOrder.id⟩

@[simp] theorem key_realOrder (o : RealOrder) : Keyed.key o = o.id := rfl
@[simp] theorem key_orderCandidate (c : OrderCandidate) : Keyed.key c = c.id := rfl
@[simp] theorem key_virtualAccount (a : VirtualAccount) : Keyed.key a = a.id := rfl
@[simp] theorem key_virtualOrder (o : VirtualOrder) : Keyed.key o = o.id := rfl

structure Database where
  orderCandidates : Table OrderCandidate
  realOrders : Table RealOrder
  realFills : List RealFill
  approvalAuditLogs : List ApprovalAuditLog
  virtualAccounts : Table VirtualAccount
  virtualPositions : List VirtualPosition
  virtualPnlSnapshots : List VirtualPnlSnapshot
  dailyPrices : List DailyPrice
  virtualOrders : Table VirtualOrder
  virtualFills : List VirtualFill

def Database.empty : Database := ⟨∅, ∅, [], [], ∅, [], [], [], ∅, []⟩

end StockAiPlatform
