import StockAiPlatform.Notification.TelegramNotifier
import StockAiPlatform.Python.Date
import Mathlib.Data.List.Sort

/-! # Holding checks, their snapshots and the notification log

The rows the alert dispatcher reads and the log it appends to. Of a snapshot
only the risk summary is read.
-/

namespace StockAiPlatform
set_option autoImplicit false

open Python

/-- `_VALID_HOLDING_CHECK_TYPES`. -/
inductive CheckType where
  | preMarket | postMarket
  deriving DecidableEq, Repr

namespace CheckType

def value : CheckType → String
  | preMarket => "PRE_MARKET"
  | postMarket => "POST_MARKET"

def ofValue? (text : String) : Option CheckType :=
  [preMarket, postMarket].find? fun checkType => checkType.value == text

end CheckType

structure HoldingCheck where
  checkDate : Date
  checkType : CheckType
  symbol : String
  currentPrice : Option ℚ := none
  avgBuyPrice : Option ℚ := none
  returnRate : Option ℚ := none
  technicalScore : Option ℚ := none
  newsScore : Option ℚ := none
  earningsScore : Option ℚ := none
  aiScore : Option ℚ := none
  riskScore : Option ℚ := none
  totalScore : Option ℚ := none
  grade : Option String := none
  decision : Option String := none
  reason : Option String := none
  alert : Bool := false
  snapshotId : Option Nat := none
  deriving DecidableEq

/-- `market_context_json["risk_summary"]`. -/
structure RiskSummary where
  level : Option String
  flags : Option (List String)
  deriving DecidableEq, Repr

structure DataSnapshot where
  snapshotId : Nat
  riskSummary : Option RiskSummary
  deriving DecidableEq, Repr

inductive MessageType where
  | report | alert
  deriving DecidableEq, Repr

structure NotificationLog where
  channel : String
  messageType : MessageType
  target : Option String
  sentAt : Option Int
  status : NotificationStatus
  errorMessage : Option String
  relatedJobId : Option Nat
  deriving DecidableEq, Repr

structure NotificationDatabase where
  holdingChecks : List HoldingCheck
  dataSnapshots : List DataSnapshot
  notificationLogs : List NotificationLog

/-- `BaseRepository.list`: without an order of its own the log is read as it was written. -/
def listRows {α : Type} (rows : List α) (limit : Nat := 100) (offset : Nat := 0) : List α :=
  (rows.drop offset).take limit

namespace NotificationDatabase

def snapshotById (db : NotificationDatabase) (snapshotId : Nat) : Option DataSnapshot :=
  db.dataSnapshots.find? fun snapshot => snapshot.snapshotId == snapshotId

/-- `list_by_date_type`, ordered by symbol. -/
def checksByDateType (db : NotificationDatabase) (checkDate : Date) (checkType : CheckType) :
    List HoldingCheck :=
  (db.holdingChecks.filter fun check =>
    check.checkDate == checkDate && check.checkType == checkType).insertionSort
    fun a b => a.symbol ≤ b.symbol

end NotificationDatabase

end StockAiPlatform
