import StockAiPlatform.Db.NotificationModels
import StockAiPlatform.Transaction.FirstSeen
import StockAiPlatform.Transaction.Run

/-! # The alert dispatcher

The text of a risk alert as the pieces it is put together from, where a rate or
a score stays the number it is; and one pass over the holding checks of a day.
An alert whose target stands in the part of the log that was read, or was
offered earlier in the pass, is skipped.
-/

namespace StockAiPlatform
set_option autoImplicit false

open Transaction Python

inductive MessagePiece where
  | text (value : String)
  /-- `:+.2f` with a percent sign, `N/A` where there is none -/
  | returnRate (value : Option ℚ)
  /-- `:.2f`, `N/A` where there is none -/
  | score (value : Option ℚ)
  deriving DecidableEq

abbrev Message := List (List MessagePiece)

structure HoldingLine where
  check : HoldingCheck
  riskLevel : String
  riskFlags : List String

/-- `_RISK_FLAG_LABEL_KR.get(flag, flag)`. -/
def riskFlagLabel (flag : String) : String :=
  match flag with
  | "LOW_TECHNICAL_SCORE" => "기술 점수 낮음"
  | "BEARISH_MA_ALIGNMENT" => "역배열 추세"
  | "VOLUME_RATIO_MISSING" => "거래량비 미산출"
  | "VOLUME_RATIO_EXTREME" => "거래량 과열"
  | "SCORE_DROP" => "점수 급락"
  | "MA20_BREAKDOWN" => "20일선 이탈"
  | "STOP_LOSS_NEAR" => "손절 근접"
  | other => other

def formatRiskText (level : String) (flags : List String) : String :=
  if flags = [] then level
  else level ++ " (" ++ String.intercalate ", " (flags.map riskFlagLabel) ++ ")"

/-- `text or default`. -/
def orText (default : String) (text : Option String) : String :=
  (text.filter (· ≠ "")).getD default

def extractRiskSummary (snapshot : Option DataSnapshot) : String × List String :=
  match snapshot.bind DataSnapshot.riskSummary with
  | none => ("LOW", [])
  | some summary => (orText "LOW" summary.level, summary.flags.getD [])

namespace ReportGenerator

def riskAlert (line : HoldingLine) : Message :=
  [ [.text ("⚠ [위험 경고] " ++ line.check.symbol)],
    [],
    [.text "· 수익률: ", .returnRate line.check.returnRate],
    [.text "· 종합점수: ", .score line.check.totalScore],
    [.text ("· 판단: " ++ orText "-" line.check.decision)],
    [.text ("· 위험: " ++ formatRiskText line.riskLevel line.riskFlags)],
    [],
    [.text "PC 대시보드에서 즉시 확인 필요."] ]

end ReportGenerator

inductive AlertType where
  | highRisk | checkAlert
  deriving DecidableEq, Repr

namespace AlertType

def value : AlertType → String
  | highRisk => "HIGH_RISK"
  | checkAlert => "CHECK_ALERT"

end AlertType

/-- What one alert is about. -/
structure AlertKey where
  symbol : String
  checkDate : Date
  checkType : CheckType
  alertType : AlertType
  deriving DecidableEq

/-- `_holding_alert_target`. -/
def AlertKey.target (key : AlertKey) : String :=
  String.ofList ("ALERT_HOLDING:".toList ++ (key.symbol.toList ++ ':' :: key.checkDate.isoformat
    ++ ':' :: key.checkType.value.toList ++ ':' :: key.alertType.value.toList))

/-- `POST` number `n` of a dispatch, of this message to this chat. -/
abbrev TelegramPost := Nat → String → Message → HttpOutcome Json

namespace NotificationService

/-- The row one send leaves in the log. -/
def logRow (result : NotificationResult) (messageType : MessageType) (target : Option String)
    (relatedJobId : Option Nat) (now : Int) : NotificationLog where
  channel := result.channel
  messageType := messageType
  target := some (orText result.target target)
  sentAt := if result.sent then some now else none
  status := result.status
  errorMessage := result.errorMessage
  relatedJobId := relatedJobId

end NotificationService

structure AlertDispatch where
  checkDate : Date
  checkType : String
  relatedJobId : Option Nat
  settings : TelegramSettings
  post : TelegramPost
  now : Int

namespace HoldingRiskAlertDispatcher

def resolveAlertType (alert : Bool) (riskLevel : String) : Option AlertType :=
  if riskLevel = "HIGH" then some .highRisk
  else if alert then some .checkAlert
  else none

def lineOf (db : NotificationDatabase) (check : HoldingCheck) : HoldingLine :=
  let snapshot := (check.snapshotId.filter (· ≠ 0)).bind db.snapshotById
  { check := check
    riskLevel := (extractRiskSummary snapshot).1
    riskFlags := (extractRiskSummary snapshot).2 }

def sentTargets (db : NotificationDatabase) : List String :=
  ((listRows db.notificationLogs).filter fun log => log.messageType == .alert).filterMap
    NotificationLog.target

/-- Where a pass stands: the targets it skips, what it has sent, and the log. -/
structure Pass where
  sentTargets : List String
  dispatchedCount : Nat
  logs : List NotificationLog

def keyOf (call : AlertDispatch) (checkType : CheckType) (line : HoldingLine) : Option AlertKey :=
  (resolveAlertType line.check.alert line.riskLevel).map fun alertType =>
    { symbol := line.check.symbol
      checkDate := call.checkDate
      checkType := checkType
      alertType := alertType }

def alertRow (call : AlertDispatch) (line : HoldingLine) (target : String) (dispatchedCount : Nat) :
    NotificationLog :=
  let result := TelegramNotifier.send call.settings
    (call.post dispatchedCount call.settings.telegramChatId (ReportGenerator.riskAlert line))
  NotificationService.logRow result .alert (some target) call.relatedJobId call.now

def sendAlert (call : AlertDispatch) (line : HoldingLine) (target : String) (pass : Pass) :
    Pass where
  sentTargets := target :: pass.sentTargets
  dispatchedCount := pass.dispatchedCount + 1
  logs := pass.logs ++ [alertRow call line target pass.dispatchedCount]

def offer (call : AlertDispatch) (checkType : CheckType) (pass : Pass) (line : HoldingLine) : Pass :=
  match keyOf call checkType line with
  | none => pass
  | some key =>
    if key.target ∈ pass.sentTargets then pass else sendAlert call line key.target pass

def passOver (call : AlertDispatch) (checkType : CheckType) (db : NotificationDatabase) : Pass :=
  ((db.checksByDateType call.checkDate checkType).map (lineOf db)).foldl (offer call checkType)
    { sentTargets := sentTargets db
      dispatchedCount := 0
      logs := db.notificationLogs }

/-- The number of alerts dispatched, and the log they are written to. -/
def dispatch (call : AlertDispatch) (db : NotificationDatabase) :
    Except PyError Nat × NotificationDatabase :=
  match CheckType.ofValue? call.checkType with
  | none => (.error (.valueError s!"invalid check_type: {call.checkType}"), db)
  | some checkType =>
    let pass := passOver call checkType db
    (.ok pass.dispatchedCount, { db with notificationLogs := pass.logs })

end HoldingRiskAlertDispatcher

end StockAiPlatform
