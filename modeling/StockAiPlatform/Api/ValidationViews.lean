import StockAiPlatform.Api.ValidationRoutes
import StockAiPlatform.Transaction.Fallible

/-! # How the views of the validation report agree

Each call adds as many BUYs to the runs as to the results, but for a
walk-forward run, which keeps its totals and no results. So the report and the
strategies agree, the regimes and the sectors agree, and the two pairs differ by
what walk-forward runs bought out of sample.
-/

namespace StockAiPlatform.ValidationRoutes
set_option autoImplicit false

open Backtest Transaction Python

section Commit

variable {call : BacktestCall} {now : Moment} {tables : BacktestTables}

/-- The BUYs in the counts of the runs. -/
def runBuys (tables : BacktestTables) : Nat := (tables.runs.map BacktestRun.buyCount).sum

/-- The BUY rows among the results. -/
def resultBuys (tables : BacktestTables) : Nat := tables.results.countP isBuyResult

theorem runBuys_addRun (run : BacktestRun) (results : List BacktestResult) :
    runBuys (tables.addRun run results) = runBuys tables + run.buyCount := by
  rw [runBuys, BacktestTables.addRun, List.map_append, List.sum_append, List.map_singleton,
    List.sum_singleton]
  rfl

theorem resultBuys_addRun (run : BacktestRun) (results : List BacktestResult) :
    resultBuys (tables.addRun run results) = resultBuys tables + results.countP isBuyResult :=
  List.countP_append

/-- The BUYs a call counts in its row without a result for them: those of the validate windows. -/
def buysWithoutResults (call : BacktestCall) (now : Moment) : Nat :=
  match call with
  | .walkForward walker calendar strategy startDate endDate runDate today fuel =>
    ((walker.stored calendar now.db strategy startDate endDate runDate today fuel).map
      BacktestRunRecord.buyCount).getD 0
  | _ => 0

theorem commit_buys (call : BacktestCall) (now : Moment) (tables : BacktestTables) :
    ∃ bought, resultBuys (call.commit now tables) = resultBuys tables + bought ∧
      runBuys (call.commit now tables) =
        runBuys tables + bought + buysWithoutResults call now := by
  cases call with
  | plain engine strategy startDate endDate limit runDate =>
    refine ⟨(aggregate (engine.evaluateAll now.db strategy startDate endDate limit)).buyCount, ?_,
      runBuys_addRun _ _⟩
    refine (resultBuys_addRun _ _).trans ?_
    rw [List.countP_map]
    rfl
  | walkForward walker calendar strategy startDate endDate runDate today fuel =>
    simp only [BacktestCall.commit, WalkForwardBacktestEngine.commit, buysWithoutResults]
    cases walker.stored calendar now.db strategy startDate endDate runDate today fuel with
    | none => exact ⟨0, rfl, rfl⟩
    | some record => exact ⟨0, resultBuys_addRun _ _, runBuys_addRun _ _⟩
  | multi runner strategies startDate endDate limit runDate today =>
    simp only [BacktestCall.commit, MultiStrategyRunner.commit]
    split
    · exact ⟨0, rfl, rfl⟩
    · exact ⟨0, resultBuys_addRun _ _, runBuys_addRun _ _⟩

/-- The out-of-sample BUYs of the walk-forward runs of a sequence. -/
def walkForwardBuys (calls : List (BacktestCall × Moment)) : Nat :=
  (calls.map fun call => buysWithoutResults call.1 call.2).sum

theorem runBuys_commitAll (calls : List (BacktestCall × Moment)) :
    runBuys (BacktestCall.commitAll calls) =
      resultBuys (BacktestCall.commitAll calls) + walkForwardBuys calls := by
  induction calls using List.reverseRecOn with
  | nil => rfl
  | append_singleton calls call ih =>
    obtain ⟨bought, hResults, hRuns⟩ :=
      commit_buys call.1 call.2 (BacktestCall.commitAll calls)
    have hStep : BacktestCall.commitAll (calls ++ [call]) =
        call.1.commit call.2 (BacktestCall.commitAll calls) := by
      rw [BacktestCall.commitAll, List.foldl_append]
      rfl
    rw [hStep, hRuns, hResults, ih, walkForwardBuys, walkForwardBuys, List.map_append,
      List.sum_append, List.map_singleton, List.sum_singleton]
    omega

end Commit

section Views

variable {decimal : String → Option DecimalValue} {tables : BacktestTables} {stocks : StockTable}

theorem sum_sortedKeys (weight : String → Nat) (keys : List String) :
    ((sortedKeys keys).map weight).sum = (keys.map weight).sum :=
  ((List.perm_insertionSort _ keys).map weight).sum_eq

theorem buyCount_of_report {report : ValidationReport}
    (h : getValidationReport decimal tables = .ok report) : report.buyCount = runBuys tables := by
  obtain ⟨winRate, -, hThen⟩ := except_bind_eq_ok.mp h
  obtain ⟨avgReturn, -, hRest⟩ := except_bind_eq_ok.mp hThen
  obtain ⟨scoreDelta, -, hReport⟩ := except_bind_eq_ok.mp hRest
  rw [← Except.ok.inj hReport]
  rfl

theorem buyCount_of_strategySummary (name : String) (summary : StrategySummary)
    (h : strategySummary tables name = .ok summary) :
    summary.buyCount =
      ((group BacktestRun.strategyName tables.runs name).map BacktestRun.buyCount).sum := by
  obtain ⟨winRate, -, hThen⟩ := except_bind_eq_ok.mp h
  obtain ⟨avgReturn, -, hMore⟩ := except_bind_eq_ok.mp hThen
  obtain ⟨costAdjusted, -, hRest⟩ := except_bind_eq_ok.mp hMore
  obtain ⟨maxDrawdown, -, hSummary⟩ := except_bind_eq_ok.mp hRest
  rw [← Except.ok.inj hSummary]

theorem sum_strategies {strategies : List StrategySummary}
    (h : getValidationByStrategy tables = .ok strategies) :
    (strategies.map StrategySummary.buyCount).sum = runBuys tables := by
  rw [map_of_mapM buyCount_of_strategySummary h, sum_sortedKeys, sum_map_group, runBuys]

theorem buyCount_of_groupSummary (item : String × ReturnGroup) (summary : GroupSummary)
    (h : groupSummary item = .ok summary) : summary.buyCount = item.2.buyCount := by
  obtain ⟨avgReturn, -, hSummary⟩ := except_bind_eq_ok.mp h
  rw [← Except.ok.inj hSummary]

/-- However the rows are grouped, the groups count each row once. -/
theorem sum_groupsBy {α : Type} (key : α → String) (result : α → BacktestResult) (rows : List α) :
    ((groupsBy key result rows).map fun item => item.2.buyCount).sum = rows.length ∧
      ((groupsBy key result rows).map fun item => item.2.returns.length).sum =
        (rows.map result).countP fun row => (row.returnAt .d5).isSome := by
  rw [groupsBy, List.map_map, List.map_map, sum_sortedKeys, sum_sortedKeys]
  constructor
  · have hEach : ((fun item : String × ReturnGroup => item.2.buyCount) ∘ fun name =>
        (name, returnGroup ((group key rows name).map result))) =
        fun name => (group key rows name).length :=
      funext fun name => List.length_map result
    rw [hEach, sum_length_group]
  · have hEach : ((fun item : String × ReturnGroup => item.2.returns.length) ∘ fun name =>
        (name, returnGroup ((group key rows name).map result))) =
        fun name => (group key rows name).countP fun row => ((result row).returnAt .d5).isSome := by
      funext name
      exact List.length_filterMap_eq_countP.trans List.countP_map
    rw [hEach, sum_countP_group, List.countP_map]
    rfl

theorem map_fst_sectorRows (tables : BacktestTables) (stocks : StockTable) :
    (sectorRows tables stocks).map Prod.fst = tables.results.filter isBuyResult := by
  have hOne : ∀ result : BacktestResult,
      (stocks.rows.filter fun stock => result.symbol == stock.symbol).length ≤ 1 :=
    fun result => length_filter_key_le_one stocks.symbol_unique result.symbol
  rw [sectorRows, outerJoin_eq_map hOne, List.filter_map, List.map_map, List.map_map]
  exact List.map_id _

theorem regimeGroups_sums (tables : BacktestTables) (stocks : StockTable) :
    ((regimeGroups tables).map fun item => item.2.buyCount).sum =
        ((sectorGroups tables stocks).map fun item => item.2.buyCount).sum ∧
      ((regimeGroups tables).map fun item => item.2.returns.length).sum =
        ((sectorGroups tables stocks).map fun item => item.2.returns.length).sum := by
  obtain ⟨hRegimes, hRegimeReturns⟩ := sum_groupsBy
    (fun result : BacktestResult => textOr "UNCLASSIFIED" result.regime) id
    (tables.results.filter isBuyResult)
  obtain ⟨hSectors, hSectorReturns⟩ := sum_groupsBy
    (fun row : BacktestResult × Option String => textOr "UNKNOWN" row.2) Prod.fst
    (sectorRows tables stocks)
  have hRows := congrArg List.length (map_fst_sectorRows tables stocks)
  rw [List.length_map] at hRows
  rw [map_fst_sectorRows] at hSectorReturns
  rw [List.map_id] at hRegimeReturns
  exact ⟨hRegimes.trans (hRows.symm.trans hSectors.symm), hRegimeReturns.trans hSectorReturns.symm⟩

theorem sum_regimes {regimes : List GroupSummary} (h : getValidationByRegime tables = .ok regimes) :
    (regimes.map GroupSummary.buyCount).sum = resultBuys tables := by
  obtain ⟨hRegimes, -⟩ := sum_groupsBy
    (fun result : BacktestResult => textOr "UNCLASSIFIED" result.regime) id
    (tables.results.filter isBuyResult)
  rw [map_of_mapM buyCount_of_groupSummary h, resultBuys, List.countP_eq_length_filter, ← hRegimes]
  rfl

theorem sum_sectors {sectors : List GroupSummary}
    (h : getValidationBySector tables stocks = .ok sectors) :
    (sectors.map GroupSummary.buyCount).sum = resultBuys tables := by
  obtain ⟨hSectors, -⟩ := sum_groupsBy
    (fun row : BacktestResult × Option String => textOr "UNKNOWN" row.2) Prod.fst
    (sectorRows tables stocks)
  have hRows := congrArg List.length (map_fst_sectorRows tables stocks)
  rw [List.length_map] at hRows
  rw [map_of_mapM buyCount_of_groupSummary h, resultBuys, List.countP_eq_length_filter, ← hRows,
    ← hSectors]
  rfl

/-- How the views answer on the tables of a sequence of committed calls. -/
structure ViewsAgree (decimal : String → Option DecimalValue)
    (calls : List (BacktestCall × Moment)) (stocks : StockTable) : Prop where
  strategies : ∀ report strategies,
    getValidationReport decimal (BacktestCall.commitAll calls) = .ok report →
    getValidationByStrategy (BacktestCall.commitAll calls) = .ok strategies →
    (strategies.map StrategySummary.buyCount).sum = report.buyCount
  sectors : ∀ regimes sectors,
    getValidationByRegime (BacktestCall.commitAll calls) = .ok regimes →
    getValidationBySector (BacktestCall.commitAll calls) stocks = .ok sectors →
    (regimes.map GroupSummary.buyCount).sum = (sectors.map GroupSummary.buyCount).sum
  regimes : ∀ report regimes,
    getValidationReport decimal (BacktestCall.commitAll calls) = .ok report →
    getValidationByRegime (BacktestCall.commitAll calls) = .ok regimes →
    report.buyCount = (regimes.map GroupSummary.buyCount).sum + walkForwardBuys calls
  returns : ((regimeGroups (BacktestCall.commitAll calls)).map
      fun item => item.2.returns.length).sum =
    ((sectorGroups (BacktestCall.commitAll calls) stocks).map fun item => item.2.returns.length).sum

theorem viewsAgree (decimal : String → Option DecimalValue) (calls : List (BacktestCall × Moment))
    (stocks : StockTable) : ViewsAgree decimal calls stocks where
  strategies _ _ hReport hStrategies :=
    (sum_strategies hStrategies).trans (buyCount_of_report hReport).symm
  sectors _ _ hRegimes hSectors := (sum_regimes hRegimes).trans (sum_sectors hSectors).symm
  regimes report regimes hReport hRegimes := by
    rw [buyCount_of_report hReport, runBuys_commitAll, sum_regimes hRegimes]
  returns := (regimeGroups_sums _ stocks).2

end Views

section Example

theorem confidence_half : (0 : ℚ) ≤ 1 / 2 ∧ (1 / 2 : ℚ) ≤ 1 := by decide +kernel

def buyAlways : Strategy where
  name := "buy"
  version := "v1"
  evaluate _ := ⟨.buy, 1 / 2, "", none, confidence_half⟩

/-- One recommendation, made on the last day of the validate window. -/
def oneRecommendation : Backtest.Database where
  recommendationRuns := [⟨1, 3⟩]
  recommendations := [⟨⟨1, 1, 1, "005930"⟩, none, none, none, none, none, none, none, none⟩]
  recommendationResults := []
  dataSnapshots := []
  marketRegimes := []

def noStocks : StockTable := ⟨[], List.nodup_nil⟩

/-- A walk-forward run with a train window of two days and a validate window of one. -/
def walkForwardCall : BacktestCall :=
  .walkForward { windows := ⟨2, 1, 0⟩ } .unbounded buyAlways 1 3 none 9 2

theorem views_differ_walkForwardCall :
    let tables := BacktestCall.commitAll [(walkForwardCall, ⟨oneRecommendation, noStocks⟩)]
    (getValidationReport (fun _ => none) tables).map ValidationReport.buyCount = .ok 1 ∧
      (getValidationByRegime tables).map
        (fun regimes => (regimes.map GroupSummary.buyCount).sum) = .ok 0 := by
  decide +kernel

end Example

end StockAiPlatform.ValidationRoutes
