import StockAiPlatform.Broker.KisOrderTransportReal

/-! # The Telegram notifier

One message is one HTTP attempt at most. What came of it is one of four
statuses, and only SUCCESS counts as sent.
-/

namespace StockAiPlatform
set_option autoImplicit false

open Python

inductive NotificationStatus where
  | success | dryRun | disabled | failed
  deriving DecidableEq, Repr

namespace NotificationStatus

def value : NotificationStatus → String
  | success => "SUCCESS"
  | dryRun => "DRY_RUN"
  | disabled => "DISABLED"
  | failed => "FAILED"

end NotificationStatus

structure NotificationResult where
  channel : String
  sent : Bool
  target : String
  status : NotificationStatus
  errorMessage : Option String
  deriving DecidableEq, Repr

structure TelegramSettings where
  telegramEnabled : Bool
  telegramBotToken : String
  telegramChatId : String
  deriving DecidableEq, Repr

def maskChatId (chatId : String) : String :=
  let chars := chatId.toList
  if chars = [] then ""
  else if chars.length ≤ 4 then "****"
  else String.ofList (chars.take 2 ++ "****".toList ++ chars.drop (chars.length - 2))

namespace TelegramNotifier

variable (settings : TelegramSettings)

def unsent (status : NotificationStatus) (errorMessage : Option String) : NotificationResult where
  channel := "TELEGRAM"
  sent := false
  target := maskChatId settings.telegramChatId
  status := status
  errorMessage := errorMessage

def delivered : NotificationResult where
  channel := "TELEGRAM"
  sent := true
  target := maskChatId settings.telegramChatId
  status := .success
  errorMessage := none

/-- A body without a true `ok` is a failure, described by itself where it is an object. -/
def classifySendResponse (statusCode : Nat) (body : Option Json) : NotificationResult :=
  if 400 ≤ statusCode then unsent settings .failed (some s!"HTTP {statusCode}")
  else match body with
    | none => unsent settings .failed (some "invalid telegram response (not JSON)")
    | some (.dict payload) =>
      if ((Json.get? "ok" payload).getD (.bool false)).truthy then delivered settings
      else unsent settings .failed (some (Json.textOr "telegram api error" "description" payload))
    | some _ => unsent settings .failed (some "telegram api error")

/-- `outcome` is what the POST comes to, if it is made. -/
def send (outcome : HttpOutcome Json) : NotificationResult :=
  if !settings.telegramEnabled then unsent settings .dryRun none
  else if settings.telegramBotToken = "" ∨ settings.telegramChatId = "" then
    unsent settings .disabled (some "missing telegram credentials")
  else match outcome with
    | .timeout => unsent settings .failed (some "timeout")
    | .httpError typeName => unsent settings .failed (some s!"http error: {typeName}")
    | .response statusCode body => classifySendResponse settings statusCode body

end TelegramNotifier

end StockAiPlatform
