import Mathlib.Data.List.Sort
import StockAiPlatform.Config.Settings
import StockAiPlatform.Db.Models

/-! # The pre-trade risk engine

Seven hard rules over the rows a session sees. Every violation is collected,
none stops the evaluation, and nothing is written.
-/

namespace StockAiPlatform
set_option autoImplicit false

open Transaction Python

def CandidateStatus.isActive : CandidateStatus → Bool
  | .draft | .riskChecking | .pendingApproval | .approved => true
  | .riskRejected | .executedPaper | .rejected | .expired => false

namespace PreTradeRiskEngine

def policyVersion : String := "pre-trade-v1"

/-- Five minutes, in microseconds. -/
def duplicateRecentWindow : Int := 5 * 60 * 1000000

def violation (ruleId : String) (message : Formatted) (details : List (String × Piece)) :
    RiskViolation := ⟨ruleId, message, details, "HARD"⟩

/-- Midnight in Seoul as the filter of a query meets it. The bound goes in with its
offset of nine hours, not converted to UTC as the stored times are. -/
def kstStart (settings : Settings) (day : Int) : Int :=
  if settings.onSqlite then day * microsPerDay else kstMidnight day

def sumActiveCandidateAmount (settings : Settings) (db : Database) (accountId : Nat)
    (symbol : Option String) (day : Option Int) (excludeId : Nat) : ℚ :=
  ((db.orderCandidates.rows.filter fun c =>
    c.accountId == accountId && c.status.isActive
      && symbol.all (c.symbol == ·)
      && day.all (fun d =>
        kstStart settings d ≤ c.createdAt && c.createdAt < kstStart settings d + microsPerDay)
      && c.id != excludeId).map OrderCandidate.estimatedAmount).sum

def latestPnlSnapshot (db : Database) (accountId : Nat) : Option VirtualPnlSnapshot :=
  ((db.virtualPnlSnapshots.filter fun snap => snap.accountId == accountId).insertionSort
    fun a b => b.snapshotDate ≤ a.snapshotDate).head?

def latestPrice (db : Database) (symbol : String) : Option DailyPrice :=
  ((db.dailyPrices.filter fun bar => bar.symbol == symbol).insertionSort
    fun a b => b.date ≤ a.date).head?

def estimatePositionMarketValue (db : Database) (accountId : Nat) (symbol : String) : ℚ :=
  match db.virtualPositions.find? fun p => p.accountId == accountId && p.symbol == symbol with
  | none => 0
  | some position =>
    if position.quantity ≤ 0 then 0
    else match latestPrice db symbol with
      | some bar => bar.close * position.quantity
      | none => position.avgCost * position.quantity

def estimateTotalAccountValue (db : Database) (account : VirtualAccount) : ℚ :=
  match latestPnlSnapshot db account.id with
  | some snap => snap.totalValue
  | none => account.cashBalance

section Rules

variable (settings : Settings) (db : Database) (candidate : OrderCandidate) (now : Int)

def checkAccountPaperEnabled (account : Option VirtualAccount) : List RiskViolation :=
  match account with
  | none =>
    [violation "account_paper_enabled" [.str "virtual account not found"] [("account_id", .null)]]
  | some account =>
    if account.paperTradingEnabled then []
    else [violation "account_paper_enabled"
      [.str ("VirtualAccount.paper_trading_enabled is False; "
        ++ "enable paper trading on the account before submitting candidates.")]
      [("account_id", .int account.id)]]

def checkKillSwitchOff : List RiskViolation :=
  if settings.killSwitchEnabled then
    [violation "kill_switch_off"
      [.str ("kill switch is ON; operator must explicitly set "
        ++ "KILL_SWITCH_ENABLED=false before any candidate can pass.")]
      [("kill_switch_enabled", .bool true)]]
  else []

def checkPerSymbolLimit : List RiskViolation :=
  let existing :=
    sumActiveCandidateAmount settings db candidate.accountId (some candidate.symbol) none candidate.id
  let total := existing + candidate.estimatedAmount
  let cap : ℚ := settings.maxOrderAmount
  if cap < total then
    [violation "per_symbol_limit"
      [.str "per-symbol active total ", .decimal total, .str " would exceed cap ", .decimal cap,
        .str " for ", .str candidate.symbol]
      [("symbol", .str candidate.symbol), ("active_existing", .decimal existing),
        ("new_estimated", .decimal candidate.estimatedAmount), ("total", .decimal total),
        ("max_order_amount", .decimal cap)]]
  else []

def checkDailyTotalLimit : List RiskViolation :=
  let kstToday := kstDate now
  let existing :=
    sumActiveCandidateAmount settings db candidate.accountId none (some kstToday) candidate.id
  let total := existing + candidate.estimatedAmount
  let cap : ℚ := settings.maxDailyOrderAmount
  if cap < total then
    [violation "daily_total_limit"
      [.str "daily total ", .decimal total, .str " would exceed cap ", .decimal cap, .str " on ",
        .isoDate kstToday, .str " (KST)"]
      [("kst_date", .isoDate kstToday), ("active_existing", .decimal existing),
        ("new_estimated", .decimal candidate.estimatedAmount), ("total", .decimal total),
        ("max_daily_order_amount", .decimal cap)]]
  else []

def checkPositionRatioLimit (account : Option VirtualAccount) : List RiskViolation :=
  match candidate.side, account with
  | .sell, _ => []
  | .buy, none => []
  | .buy, some account =>
    let positionValue := estimatePositionMarketValue db account.id candidate.symbol
    let totalValue := estimateTotalAccountValue db account
    let capRatio := settings.maxPositionRatio
    if totalValue ≤ 0 then
      [violation "position_ratio_limit"
        [.str "cannot evaluate position ratio: account total_value is non-positive"]
        [("total_value", .decimal totalValue), ("max_position_ratio", .decimal capRatio)]]
    else
      let projected := positionValue + candidate.estimatedAmount
      let ratio := projected / totalValue
      if capRatio < ratio then
        [violation "position_ratio_limit"
          [.str "projected position ratio ", .sixPlaces ratio, .str " exceeds cap ",
            .decimal capRatio, .str " for ", .str candidate.symbol]
          [("symbol", .str candidate.symbol), ("current_position_value", .decimal positionValue),
            ("new_estimated", .decimal candidate.estimatedAmount),
            ("projected_value", .decimal projected), ("total_value", .decimal totalValue),
            ("ratio", .decimal ratio), ("max_position_ratio", .decimal capRatio)]]
      else []

def checkDailyLossLimit : List RiskViolation :=
  match latestPnlSnapshot db candidate.accountId with
  | none => []
  | some snap =>
    let cap : ℚ := settings.maxDailyLossAmount
    let floor := -cap
    if snap.realizedPnl < floor then
      [violation "daily_loss_limit"
        [.str "realized PnL ", .decimal snap.realizedPnl, .str " below floor ", .decimal floor,
          .str " (cap=", .decimal cap, .str ")"]
        [("realized_pnl", .decimal snap.realizedPnl), ("max_daily_loss_amount", .decimal cap),
          ("floor", .decimal floor), ("snapshot_date", .isoDate snap.snapshotDate)]]
    else []

def checkDuplicateRecent : List RiskViolation :=
  let threshold := now - duplicateRecentWindow
  let duplicates := (db.orderCandidates.rows.filter fun c =>
    c.accountId == candidate.accountId && c.symbol == candidate.symbol
      && c.side == candidate.side && c.quantity == candidate.quantity
      && threshold < c.createdAt && c.status.isActive && c.id != candidate.id).insertionSort
    fun a b => b.id ≤ a.id
  match duplicates.head? with
  | none => []
  | some duplicate =>
    [violation "duplicate_recent"
      [.str "another active candidate with same (account, symbol, side, quantity) was created ",
        .str "within the last ", .int 300, .str " seconds"]
      [("duplicate_candidate_id", .int duplicate.id), ("window_seconds", .int 300)]]

def evaluate : RiskCheckResult :=
  let account := db.virtualAccounts.find? candidate.accountId
  let violations := checkAccountPaperEnabled account
    ++ checkKillSwitchOff settings
    ++ checkPerSymbolLimit settings db candidate
    ++ checkDailyTotalLimit settings db candidate now
    ++ checkPositionRatioLimit settings db candidate account
    ++ checkDailyLossLimit settings db candidate
    ++ checkDuplicateRecent db candidate now
  { policyVersion := policyVersion
    passed := violations.isEmpty
    violations := violations
    checkedAt := now }

/-- A passing candidate violates no rule, whichever rules come before it. -/
theorem evaluate_passed_iff :
    (evaluate settings db candidate now).passed = true ↔
      checkAccountPaperEnabled (db.virtualAccounts.find? candidate.accountId) = [] ∧
      checkKillSwitchOff settings = [] ∧
      checkPerSymbolLimit settings db candidate = [] ∧
      checkDailyTotalLimit settings db candidate now = [] ∧
      checkPositionRatioLimit settings db candidate
        (db.virtualAccounts.find? candidate.accountId) = [] ∧
      checkDailyLossLimit settings db candidate = [] ∧
      checkDuplicateRecent db candidate now = [] := by
  simp only [evaluate, List.isEmpty_iff, List.append_eq_nil_iff, and_assoc]

end Rules

end PreTradeRiskEngine

end StockAiPlatform
