import Mathlib.Data.Rat.Defs
import Mathlib.Algebra.Order.Ring.Rat

/-! # The trading settings

The switches and caps the order path reads. The fields that end in a proof are
the checks of `__post_init__`, so settings that fail them cannot be built.
-/

namespace StockAiPlatform
set_option autoImplicit false

structure Settings where
  tradingSafetyEnabled : Bool
  killSwitchEnabled : Bool
  approvalRequired : Bool
  maxOrderAmount : Int
  maxDailyOrderAmount : Int
  maxPositionRatio : ℚ
  maxDailyLossAmount : Int
  realTradingEnabled : Bool
  kisOrderEnabled : Bool
  realOrderDryRun : Bool
  maxRealOrderAmount : Int
  maxRealDailyOrderAmount : Int
  kisAccountNo : String
  kisOrderPlaceTimeoutS : String
  kisOrderQueryTimeoutS : String
  paperTradingEnabled : Bool := false
  kisAccountProductCode : String := "01"
  databaseUrl : String := ""
  sqliteDatabaseUrl : String := "sqlite:///./stock_ai.db"
  maxOrderAmount_pos : 0 < maxOrderAmount
  maxDailyOrderAmount_pos : 0 < maxDailyOrderAmount
  maxPositionRatio_pos : 0 < maxPositionRatio
  maxPositionRatio_le_one : maxPositionRatio ≤ 1
  maxDailyLossAmount_nonneg : 0 ≤ maxDailyLossAmount
  maxRealOrderAmount_pos : 0 < maxRealOrderAmount
  maxRealDailyOrderAmount_pos : 0 < maxRealDailyOrderAmount
  perOrder_le_daily : maxRealOrderAmount ≤ maxRealDailyOrderAmount

/-- True only when all six settings gates allow real-order execution. -/
def canAttemptRealOrderSettings (settings : Settings) : Bool :=
  settings.tradingSafetyEnabled
    && !settings.killSwitchEnabled
    && settings.approvalRequired
    && settings.realTradingEnabled
    && settings.kisOrderEnabled
    && !settings.realOrderDryRun

def Settings.effectiveDatabaseUrl (settings : Settings) : String :=
  if settings.databaseUrl = "" then settings.sqliteDatabaseUrl else settings.databaseUrl

/-- SQLite keeps the wall clock of a time and drops its offset, so that a bound with
another offset than the stored times is compared by its wall clock. -/
def Settings.onSqlite (settings : Settings) : Bool :=
  "sqlite".toList.isPrefixOf settings.effectiveDatabaseUrl.toList

def Settings.paranoid : Settings where
  tradingSafetyEnabled := false
  killSwitchEnabled := true
  approvalRequired := true
  maxOrderAmount := 100000
  maxDailyOrderAmount := 1000000
  maxPositionRatio := 1 / 5
  maxDailyLossAmount := 500000
  realTradingEnabled := false
  kisOrderEnabled := false
  realOrderDryRun := true
  maxRealOrderAmount := 100000
  maxRealDailyOrderAmount := 1000000
  kisAccountNo := ""
  kisOrderPlaceTimeoutS := "5.0"
  kisOrderQueryTimeoutS := "10.0"
  maxOrderAmount_pos := by decide
  maxDailyOrderAmount_pos := by decide
  maxPositionRatio_pos := by decide +kernel
  maxPositionRatio_le_one := by decide +kernel
  maxDailyLossAmount_nonneg := by decide
  maxRealOrderAmount_pos := by decide
  maxRealDailyOrderAmount_pos := by decide
  perOrder_le_daily := by decide

theorem canAttemptRealOrderSettings_iff (settings : Settings) :
    canAttemptRealOrderSettings settings = true ↔
      settings.tradingSafetyEnabled = true ∧ settings.killSwitchEnabled = false ∧
      settings.approvalRequired = true ∧ settings.realTradingEnabled = true ∧
      settings.kisOrderEnabled = true ∧ settings.realOrderDryRun = false := by
  simp [canAttemptRealOrderSettings, and_assoc]

example : canAttemptRealOrderSettings Settings.paranoid = false := rfl

end StockAiPlatform
