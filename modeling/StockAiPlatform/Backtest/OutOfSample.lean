import StockAiPlatform.Backtest.Folds
import StockAiPlatform.Transaction.Tiling
import Mathlib.Data.List.ReduceOption

/-! # Out-of-sample totals

Every count of a run is a count of evaluated rows, and what a row evaluates to
does not depend on the range it was fetched for. The validate windows stand
back to back, so their counts add up to those of one run over all of them.
-/

namespace StockAiPlatform.Backtest
set_option autoImplicit false

open Transaction

section Statistics

variable {rows : List EvaluatedRow}

def isBuy (row : EvaluatedRow) : Bool := row.signalAction == .buy

def isMissing (horizon : Horizon) (row : EvaluatedRow) : Bool :=
  (row.returnAt horizon).isNone && isBuy row

def isBuyIn (regime : String) (row : EvaluatedRow) : Bool := row.bucket == regime && isBuy row

theorem missingPerHorizon_aggregate (horizon : Horizon) :
    (aggregate rows).missingPerHorizon horizon = rows.countP (isMissing horizon) := by
  have hSplit := List.length_eq_reduceOption_length_add_filter_none
    (l := (buyRows rows).map fun row => row.returnAt horizon)
  have hNone : (((buyRows rows).map fun row => row.returnAt horizon).filter Option.isNone).length =
      rows.countP (isMissing horizon) := by
    rw [← List.countP_eq_length_filter, List.countP_map, buyRows, List.countP_filter]
    rfl
  rw [hNone] at hSplit
  exact Nat.sub_eq_of_eq_add' hSplit

theorem regimeEntry_buyCount (bucket : String) :
    (regimeEntry rows bucket).buyCount = rows.countP (isBuyIn bucket) := by
  rw [regimeEntry, ← List.countP_eq_length_filter, buyRows, List.countP_filter]
  rfl

/-- The BUY count a breakdown gives a regime: none if it has no entry for it. -/
def regimeBuyCount (regime : String) (summary : BacktestRunSummary) : Nat :=
  ((summary.regimeBreakdown.filter fun entry => entry.regime == regime).map
    RegimeBreakdownEntry.buyCount).sum

theorem bucket_mem_of_isBuyIn {regime : String} {row : EvaluatedRow} (hRow : row ∈ rows)
    (h : isBuyIn regime row = true) :
    regime ∈ firstSeen [] ((buyRows rows).map EvaluatedRow.bucket) := by
  rw [isBuyIn, Bool.and_eq_true, beq_iff_eq] at h
  rw [mem_firstSeen]
  refine ⟨?_, List.not_mem_nil⟩
  rw [← h.1]
  exact List.mem_map_of_mem (List.mem_filter.mpr ⟨hRow, h.2⟩)

theorem regimeBuyCount_buildRegimeBreakdown (regime : String) {summary : BacktestRunSummary}
    (h : summary.regimeBreakdown = buildRegimeBreakdown rows) :
    regimeBuyCount regime summary = rows.countP (isBuyIn regime) := by
  have hSorted := List.perm_insertionSort
    (fun a b : RegimeBreakdownEntry =>
      b.buyCount < a.buyCount ∨ (a.buyCount = b.buyCount ∧ a.regime ≤ b.regime))
    ((firstSeen [] ((buyRows rows).map EvaluatedRow.bucket)).map (regimeEntry rows))
  have hBuckets := nodup_firstSeen [] ((buyRows rows).map EvaluatedRow.bucket)
  rw [regimeBuyCount, h, buildRegimeBreakdown,
    ((hSorted.filter fun entry => entry.regime == regime).map _).sum_eq, List.filter_map,
    List.map_map]
  change (((firstSeen [] _).filter fun bucket => bucket == regime).map _).sum = _
  rw [List.filter_beq, List.map_replicate, hBuckets.count]
  split
  · rw [List.replicate_one, List.sum_singleton]
    exact regimeEntry_buyCount regime
  · rename_i hAbsent
    refine (List.countP_eq_zero.mpr fun row hRow hBuy => ?_).symm
    exact hAbsent (bucket_mem_of_isBuyIn hRow hBuy)

end Statistics

section Runs

variable (engine : BacktestEngine) (db : Database) (strategy : Strategy)

/-- The recommendations run on the days of a window whose evaluated rows are kept. -/
def tallyRows (keep : EvaluatedRow → Bool) : Window → Nat :=
  Window.tally (fun row : BacktestEngine.FetchedRow => row.2.1.runDate)
    (fun row => keep (engine.evaluateRow db strategy row)) (BacktestEngine.joined db)

/-- A number a run reports that counts the rows of one kind. -/
def CountsRows (statistic : BacktestRunSummary → Nat) (keep : EvaluatedRow → Bool) : Prop :=
  ∀ engine db strategy startDate endDate runDate,
    statistic (BacktestEngine.run engine db strategy startDate endDate none runDate) =
      (BacktestEngine.evaluateAll engine db strategy startDate endDate none).countP keep

variable {engine db strategy}

theorem countP_evaluateAll (keep : EvaluatedRow → Bool) (first last : Int) :
    (engine.evaluateAll db strategy (some first) (some last) none).countP keep =
      tallyRows engine db strategy keep ⟨first, last⟩ := by
  rw [BacktestEngine.evaluateAll, List.countP_map, BacktestEngine.fetchRecommendations,
    (List.perm_insertionSort _ _).countP_eq, List.countP_filter]
  rfl

theorem CountsRows.run_eq {statistic : BacktestRunSummary → Nat} {keep : EvaluatedRow → Bool}
    (h : CountsRows statistic keep) (first last runDate : Int) :
    statistic (engine.run db strategy (some first) (some last) none runDate) =
      tallyRows engine db strategy keep ⟨first, last⟩ :=
  (h engine db strategy _ _ runDate).trans (countP_evaluateAll keep first last)

theorem countsRows_signalCount :
    CountsRows (fun summary => summary.stats.signalCount) fun _ => true :=
  fun _ _ _ _ _ _ => (congrFun List.countP_true _).symm

theorem countsRows_buyCount : CountsRows (fun summary => summary.stats.buyCount) isBuy :=
  fun _ _ _ _ _ _ => rfl

theorem countsRows_passCount :
    CountsRows (fun summary => summary.stats.passCount) fun row => row.signalAction == .pass :=
  fun _ _ _ _ _ _ => rfl

theorem countsRows_avoidCount :
    CountsRows (fun summary => summary.stats.avoidCount) fun row => row.signalAction == .avoid :=
  fun _ _ _ _ _ _ => rfl

theorem countsRows_missing (horizon : Horizon) :
    CountsRows (fun summary => summary.stats.missingPerHorizon horizon) (isMissing horizon) :=
  fun _ _ _ _ _ _ => missingPerHorizon_aggregate horizon

theorem countsRows_regime (regime : String) :
    CountsRows (regimeBuyCount regime) (isBuyIn regime) :=
  fun _ _ _ _ _ _ => regimeBuyCount_buildRegimeBreakdown regime rfl

end Runs

section WalkForward

variable {walkForward : WalkForwardBacktestEngine} {db : Database} {strategy : Strategy}
  {startDate endDate today : Int} {folds : List Fold} {first last : Fold}

def Fold.validateWindow (fold : Fold) : Window := ⟨fold.validateStart, fold.validateEnd⟩

theorem ExactFolds.backToBack {windows : Windows}
    (h : ExactFolds windows startDate endDate folds) :
    Window.BackToBack (folds.map Fold.validateWindow) := by
  rw [Window.BackToBack, List.isChain_map]
  exact h.contiguous

theorem sum_outOfSample {statistic : BacktestRunSummary → Nat} {keep : EvaluatedRow → Bool}
    (hCounts : CountsRows statistic keep)
    (hExact : ExactFolds walkForward.windows startDate endDate folds)
    (hFirst : folds.head? = some first) (hLast : folds.getLast? = some last) :
    ((folds.map (walkForward.foldResult db strategy today)).map
        fun result => statistic result.oosMetrics).sum =
      statistic (walkForward.engine.run db strategy (some first.validateStart)
        (some last.validateEnd) none today) := by
  obtain ⟨rest, rfl⟩ := List.head?_eq_some_iff.mp hFirst
  have hEach : ((first :: rest).map (walkForward.foldResult db strategy today)).map
        (fun result => statistic result.oosMetrics) =
      ((first :: rest).map Fold.validateWindow).map
        (tallyRows walkForward.engine db strategy keep) := by
    rw [List.map_map, List.map_map]
    apply List.map_congr_left
    intro fold _
    exact hCounts.run_eq fold.validateStart fold.validateEnd today
  have hSpan : ∀ window ∈ (first :: rest).map Fold.validateWindow, window.first ≤ window.last := by
    intro window hWindow
    obtain ⟨fold, hFold, rfl⟩ := List.mem_map.mp hWindow
    exact (hExact.inside fold hFold).2.2.2.1
  have hLastWindow : ((first :: rest).map Fold.validateWindow).getLast? = some last.validateWindow := by
    rw [List.getLast?_map, hLast]
    rfl
  rw [hEach, hCounts.run_eq]
  exact Window.sum_tally hExact.backToBack hSpan hLastWindow

/-- What the folds count out of sample is what one run over all of it counts. -/
structure SameCounts (results : List FoldResult) (whole : BacktestRunSummary) : Prop where
  signals : WalkForwardBacktestEngine.total AggregateStats.signalCount results =
    whole.stats.signalCount
  buys : WalkForwardBacktestEngine.total AggregateStats.buyCount results = whole.stats.buyCount
  passes : WalkForwardBacktestEngine.total AggregateStats.passCount results =
    whole.stats.passCount
  avoids : WalkForwardBacktestEngine.total AggregateStats.avoidCount results =
    whole.stats.avoidCount
  missing : ∀ horizon, WalkForwardBacktestEngine.total
    (fun stats => stats.missingPerHorizon horizon) results = whole.stats.missingPerHorizon horizon
  regimes : ∀ regime, (results.map fun result => regimeBuyCount regime result.oosMetrics).sum =
    regimeBuyCount regime whole

variable (db strategy today) in
theorem sameCounts_of_exactFolds
    (hExact : ExactFolds walkForward.windows startDate endDate folds)
    (hFirst : folds.head? = some first) (hLast : folds.getLast? = some last) :
    SameCounts (folds.map (walkForward.foldResult db strategy today))
      (walkForward.engine.run db strategy (some first.validateStart) (some last.validateEnd)
        none today) where
  signals := sum_outOfSample countsRows_signalCount hExact hFirst hLast
  buys := sum_outOfSample countsRows_buyCount hExact hFirst hLast
  passes := sum_outOfSample countsRows_passCount hExact hFirst hLast
  avoids := sum_outOfSample countsRows_avoidCount hExact hFirst hLast
  missing horizon := sum_outOfSample (countsRows_missing horizon) hExact hFirst hLast
  regimes regime := sum_outOfSample (countsRows_regime regime) hExact hFirst hLast

/-- The counts kept of a walk-forward run are those of the whole. -/
structure StoredCounts (stored : BacktestRunRecord) (whole : BacktestRunSummary) : Prop where
  signals : stored.signalCount = whole.stats.signalCount
  buys : stored.buyCount = whole.stats.buyCount
  passes : stored.passCount = whole.stats.passCount
  avoids : stored.avoidCount = whole.stats.avoidCount

theorem counts_of_summarize {dryRun : Bool} {runDate : Int} {results : List FoldResult}
    {whole : BacktestRunSummary} {outcome : WalkForwardSummary × Option BacktestRunRecord}
    (hOutcome : walkForward.summarize strategy startDate endDate dryRun runDate results = outcome)
    (h : SameCounts results whole) :
    SameCounts outcome.1.foldResults whole ∧ ∀ stored ∈ outcome.2, StoredCounts stored whole := by
  rw [← hOutcome]
  refine ⟨h, fun stored hStored => ?_⟩
  cases dryRun with
  | true => cases hStored
  | false =>
    cases hStored
    exact ⟨h.signals, h.buys, h.passes, h.avoids⟩

theorem run_outOfSample (walkForward : WalkForwardBacktestEngine) (calendar : Python.Calendar)
    (db : Database) (strategy : Strategy) (startDate endDate : Int) (dryRun : Bool)
    (runDate : Option Int) (today : Int) (fuel : Nat) (folds : List Fold) (first last : Fold)
    (hTrain : 1 ≤ walkForward.windows.train) (hValidate : 1 ≤ walkForward.windows.validate)
    (hGap : 0 ≤ walkForward.windows.gap)
    (hFolds : generateFolds calendar walkForward.windows startDate endDate fuel = some (.ok folds))
    (hFirst : folds.head? = some first) (hLast : folds.getLast? = some last) :
    ∃ summary record whole,
      walkForward.run calendar db strategy startDate endDate dryRun runDate today fuel =
        some (.ok (summary, record)) ∧
      walkForward.engine.run db strategy (some first.validateStart) (some last.validateEnd) none
        today = whole ∧
      SameCounts summary.foldResults whole ∧ ∀ stored ∈ record, StoredCounts stored whole := by
  have hExact := exactFolds_of_endsWith hTrain hValidate hGap ⟨fuel, hFolds⟩
  have hSame := sameCounts_of_exactFolds db strategy today hExact hFirst hLast
  obtain ⟨outcome, hOutcome⟩ : ∃ outcome, walkForward.summarize strategy startDate endDate dryRun
      (runDate.getD today) (folds.map (walkForward.foldResult db strategy today)) = outcome :=
    ⟨_, rfl⟩
  refine ⟨outcome.1, outcome.2, _, ?_, rfl, counts_of_summarize hOutcome hSame⟩
  rw [WalkForwardBacktestEngine.run, hFolds, ← hOutcome]
  rfl

theorem confidence_one : (0 : ℚ) ≤ 1 ∧ (1 : ℚ) ≤ 1 := ⟨zero_le_one, le_refl 1⟩

/-- A strategy that buys what scored at least fifty and avoids the rest. -/
def thresholdSignal (snapshot : ScoreSnapshot) : StrategySignal where
  action := if 50 ≤ snapshot.totalScore.getD 0 then .buy else .avoid
  confidence := 1
  reason := "threshold"
  evidence := none
  confidence_ok := confidence_one

def thresholdStrategy : Strategy := ⟨"threshold", "1", thresholdSignal⟩

def ranked (id runId : Nat) (totalScore : ℚ) : Recommendation where
  id := id
  runId := runId
  rank := 1
  symbol := "005930"
  grade := none
  totalScore := some totalScore
  technicalScore := none
  newsScore := none
  supplyScore := none
  fundamentalScore := none
  aiScore := none
  snapshotId := none

/-- Runs on the last day of one validate window and on the first of the next. -/
def boundaryRuns : Database where
  recommendationRuns := [⟨1, 45⟩, ⟨2, 46⟩]
  recommendations := [ranked 1 1 70, ranked 2 2 30]
  recommendationResults := []
  dataSnapshots := []
  marketRegimes := []

theorem run_outOfSample_boundaryRuns :
    (1 ≤ (30 : Int) ∧ 1 ≤ (10 : Int) ∧ 0 ≤ (5 : Int)) ∧
      generateFolds .unbounded ⟨30, 10, 5⟩ 1 55 3 =
        some (.ok [⟨0, 1, 30, 36, 45⟩, ⟨1, 11, 40, 46, 55⟩]) ∧
      ∃ summary record whole,
        (WalkForwardBacktestEngine.mk {} "KOSPI" ⟨30, 10, 5⟩).run .unbounded boundaryRuns
          thresholdStrategy 1 55 false none 60 3 = some (.ok (summary, record)) ∧
        (BacktestEngine.mk {} "KOSPI").run boundaryRuns thresholdStrategy (some 36) (some 55) none
          60 = whole ∧
        SameCounts summary.foldResults whole ∧ ∀ stored ∈ record, StoredCounts stored whole :=
  ⟨by decide, by decide, run_outOfSample (WalkForwardBacktestEngine.mk {} "KOSPI" ⟨30, 10, 5⟩)
    .unbounded boundaryRuns thresholdStrategy 1 55 false none 60 3
    [⟨0, 1, 30, 36, 45⟩, ⟨1, 11, 40, 46, 55⟩] ⟨0, 1, 30, 36, 45⟩ ⟨1, 11, 40, 46, 55⟩
    (by decide) (by decide) (by decide) (by decide) rfl rfl⟩

end WalkForward

end StockAiPlatform.Backtest
