import StockAiPlatform.Backtest.OutOfSample
import StockAiPlatform.Backtest.Persistence

/-! # The aggregation paths of a backtest

The engine's totals, its regimes and the separately fetched sectors of the
multi-strategy runner count the same evaluated rows. The second fetch finds the
rows of the first in the same order, whatever order the tables are scanned in,
since no two recommendations of a run share a rank.
-/

namespace StockAiPlatform.Backtest
set_option autoImplicit false

open Transaction BacktestEngine MultiStrategyRunner

section Fetch

variable {db : Database} {scan : List Recommendation} {a b c : FetchedRow}

theorem comesBefore_iff : comesBefore a b = true ↔
    b.2.1.runDate < a.2.1.runDate ∨ a.2.1.runDate = b.2.1.runDate ∧
      (b.2.1.runId < a.2.1.runId ∨ a.2.1.runId = b.2.1.runId ∧ a.1.rank ≤ b.1.rank) := by
  simp only [comesBefore, Bool.or_eq_true, Bool.and_eq_true, decide_eq_true_iff, beq_iff_eq]

instance : Std.Total fun a b : FetchedRow => comesBefore a b = true where
  total a b := by
    rw [comesBefore_iff, comesBefore_iff]
    omega

instance : IsTrans FetchedRow fun a b => comesBefore a b = true where
  trans a b c hab hbc := by
    rw [comesBefore_iff] at hab hbc ⊢
    omega

/-- Within a run a rank is given once. -/
def RankedOnce (db : Database) : Prop :=
  ∀ a ∈ db.recommendations, ∀ b ∈ db.recommendations, a.runId = b.runId → a.rank = b.rank → a = b

/-- The database with the recommendations in the order another query scans them in. -/
def scannedAs (db : Database) (scan : List Recommendation) : Database :=
  { db with recommendations := scan }

theorem joined_scannedAs_perm (hScan : scan.Perm db.recommendations) :
    (joined (scannedAs db scan)).Perm (joined db) := hScan.filterMap _

theorem mem_joined (h : a ∈ joined db) : a.1 ∈ db.recommendations ∧ a.1.runId = a.2.1.runId ∧
    ∀ b ∈ joined db, b.1 = a.1 → b = a := by
  obtain ⟨recommendation, hMem, hRow⟩ := List.mem_filterMap.mp h
  obtain ⟨run, hRun, rfl⟩ := Option.map_eq_some_iff.mp hRow
  have hFound := List.find?_some hRun
  change (run.runId == recommendation.runId) = true at hFound
  refine ⟨hMem, (beq_iff_eq.mp hFound).symm, ?_⟩
  intro b hb hSame
  obtain ⟨other, -, hOther⟩ := List.mem_filterMap.mp hb
  obtain ⟨otherRun, hOtherRun, rfl⟩ := Option.map_eq_some_iff.mp hOther
  cases hSame
  cases hOtherRun.symm.trans hRun
  rfl

theorem joined_antisymm (hOnce : RankedOnce db) (ha : a ∈ joined db) (hb : b ∈ joined db)
    (hab : comesBefore a b = true) (hba : comesBefore b a = true) : a = b := by
  obtain ⟨hMemA, hRunA, -⟩ := mem_joined ha
  obtain ⟨hMemB, hRunB, hUnique⟩ := mem_joined hb
  rw [comesBefore_iff] at hab hba
  refine hUnique a ha (hOnce a.1 hMemA b.1 hMemB ?_ ?_)
  · rw [hRunA, hRunB]
    omega
  · omega

/-- Both queries find the same recommendations in the same order. -/
theorem fetch_scannedAs (hOnce : RankedOnce db) (hScan : scan.Perm db.recommendations)
    (startDate endDate limit : Option Int) :
    fetchRecommendations (scannedAs db scan) startDate endDate limit =
      fetchRecommendations db startDate endDate limit := by
  have hPerm := (joined_scannedAs_perm hScan).filter (inRange startDate endDate)
  have hSorted : ((joined (scannedAs db scan)).filter (inRange startDate endDate)).insertionSort
        (fun a b => comesBefore a b) =
      ((joined db).filter (inRange startDate endDate)).insertionSort fun a b => comesBefore a b := by
    refine insertionSort_eq_of_perm (fun a b => comesBefore a b = true) hPerm fun a ha b hb => ?_
    exact joined_antisymm hOnce (List.mem_of_mem_filter (hPerm.mem_iff.mp ha))
      (List.mem_of_mem_filter (hPerm.mem_iff.mp hb))
  simp only [fetchRecommendations, hSorted]

/-- The sector of a symbol, where a stock has it. -/
def sectorOf (stocks : StockTable) (symbol : String) : Option String :=
  (stocks.rows.find? fun stock => symbol == stock.symbol).bind Stock.sector

theorem joinedWithSector_eq (db : Database) (stocks : StockTable) :
    joinedWithSector db stocks = (joined db).map fun row => (row, sectorOf stocks row.1.symbol) := by
  have hOne : ∀ row : FetchedRow,
      (stocks.rows.filter fun stock => row.1.symbol == stock.symbol).length ≤ 1 :=
    fun row => length_filter_key_le_one stocks.symbol_unique row.1.symbol
  rw [joinedWithSector, outerJoin_eq_map hOne, List.map_map]
  rfl

theorem fetchRecsWithSector_eq (db : Database) (stocks : StockTable)
    (startDate endDate limit : Option Int) :
    fetchRecsWithSector db stocks startDate endDate limit =
      (fetchRecommendations db startDate endDate limit).map fun row =>
        (row, sectorOf stocks row.1.symbol) := by
  have hSorted : ((joinedWithSector db stocks).filter fun row =>
        inRange startDate endDate row.1).insertionSort (fun a b => comesBefore a.1 b.1) =
      (((joined db).filter (inRange startDate endDate)).insertionSort
        fun a b => comesBefore a b).map fun row => (row, sectorOf stocks row.1.symbol) := by
    rw [joinedWithSector_eq, List.filter_map,
      List.map_insertionSort (fun a b => comesBefore a b = true)
        (fun a b : SectorRow => comesBefore a.1 b.1 = true) _ _ fun _ _ _ _ => Iff.rfl]
    rfl
  simp only [fetchRecsWithSector, hSorted, fetchRecommendations]
  cases limit with
  | none => rfl
  | some n =>
    simp only
    split
    · rw [List.map_take]
    · rfl

/-- The bulk query finds the 5-day return the engine finds. -/
theorem getReturn_fetchReturnsMap {recIds : List Nat} {recId : Nat} (h : recId ∈ recIds) :
    getReturn (fetchReturnsMap db recIds) recId =
      ((fetchHorizonReturns db recId .d5).getD {}).close := by
  have hRows : (fetchReturnsMap db recIds).filter (fun entry => entry.1 == recId) =
      (db.recommendationResults.filter fun row =>
        row.recommendationId == recId && row.daysAfter == Horizon.d5.days).map fun row =>
          (row.recommendationId, row.closeReturn) := by
    rw [fetchReturnsMap, List.filter_map, List.filter_filter]
    refine congrArg (List.map _) (List.filter_congr fun row _ => ?_)
    simp only [Function.comp_apply]
    cases hSame : row.recommendationId == recId with
    | false => rfl
    | true =>
      rw [beq_iff_eq.mp hSame, List.contains_iff_mem.mpr h]
      rfl
  rw [getReturn, hRows, List.getLast?_map, fetchHorizonReturns]
  cases (db.recommendationResults.filter fun row =>
      row.recommendationId == recId && row.daysAfter == Horizon.d5.days).getLast? with
  | none => rfl
  | some row => rfl

/-- What the sector breakdown makes of an evaluated row. -/
def signalOf (stocks : StockTable) (row : EvaluatedRow) : SectorSignal :=
  ⟨sectorOf stocks row.recommendation.symbol, row.signalAction, row.returnAt .d5⟩

/-- The second evaluation sees every row as the engine does. -/
theorem sectorSignals_scannedAs (engine : BacktestEngine) (stocks : StockTable)
    (strategy : Strategy) (hOnce : RankedOnce db) (hScan : scan.Perm db.recommendations)
    (startDate endDate limit : Option Int) :
    sectorSignals (scannedAs db scan) stocks strategy startDate endDate limit =
      (engine.evaluateAll db strategy startDate endDate limit).map (signalOf stocks) := by
  rw [sectorSignals, fetchRecsWithSector_eq, fetch_scannedAs hOnce hScan, evaluateAll, List.map_map,
    List.map_map, List.map_map]
  apply List.map_congr_left
  intro row hRow
  have hListed := List.mem_map_of_mem (f := fun row : FetchedRow => row.1.id) hRow
  exact congrArg (SectorSignal.mk _ _) (getReturn_fetchReturnsMap hListed)

end Fetch

section Totals

variable {rows : List EvaluatedRow}

def hasReturn (horizon : Horizon) (row : EvaluatedRow) : Bool :=
  (row.returnAt horizon).isSome && isBuy row

def fiveDayReturns (rows : List EvaluatedRow) : List ℚ :=
  (buyRows rows).filterMap fun row => row.returnAt .d5

/-- The BUY rows of a regime with a return after five days. -/
def regimeReturns (rows : List EvaluatedRow) (regime : String) : List ℚ :=
  (group EvaluatedRow.bucket (buyRows rows) regime).filterMap fun row => row.returnAt .d5

def sectorReturns (signals : List SectorSignal) (sector : String) : List ℚ :=
  buyReturns (group SectorSignal.bucket signals sector)

def wins (returns : List ℚ) : Nat := returns.countP fun value => 0 < value

theorem actions_aggregate : (aggregate rows).buyCount + (aggregate rows).passCount +
    (aggregate rows).avoidCount = (aggregate rows).signalCount := by
  change rows.countP _ + rows.countP _ + rows.countP _ = rows.length
  induction rows with
  | nil => rfl
  | cons row rows ih =>
    rw [List.countP_cons, List.countP_cons, List.countP_cons, List.length_cons]
    cases row.signalAction <;> simp <;> omega

theorem missing_aggregate (horizon : Horizon) :
    (aggregate rows).missingPerHorizon horizon + rows.countP (hasReturn horizon) =
      (aggregate rows).buyCount := by
  rw [missingPerHorizon_aggregate]
  change _ = rows.countP isBuy
  induction rows with
  | nil => rfl
  | cons row rows ih =>
    rw [List.countP_cons, List.countP_cons, List.countP_cons]
    cases hBuy : isBuy row <;> cases hReturn : row.returnAt horizon <;>
      simp [isMissing, hasReturn, hBuy, hReturn] <;> omega

/-- The sum of a count over the entries of a breakdown is its sum over the groups. -/
theorem sum_sorted {α : Type} {keys : List String} {entry : String → α} {r : α → α → Prop}
    [DecidableRel r] (count : α → Nat) :
    ((((keys.map entry).insertionSort r).map count).sum) =
      (keys.map fun k => count (entry k)).sum := by
  rw [((List.perm_insertionSort _ _).map count).sum_eq, List.map_map]
  rfl

theorem wins_filterMap {α : Type} (value : α → Option ℚ) (rows : List α) :
    wins (rows.filterMap value) = rows.countP fun row => (value row).any fun v => 0 < v := by
  rw [wins, List.countP_filterMap]
  apply List.countP_congr
  intro row _
  cases value row <;> exact Iff.rfl

theorem nonNull_returns :
    ((buyRows rows).map fun row => row.returnAt .d5).reduceOption = fiveDayReturns rows := by
  rw [List.reduceOption, List.filterMap_map]
  rfl

theorem buyReturns_signalOf (stocks : StockTable) :
    buyReturns (rows.map (signalOf stocks)) = fiveDayReturns rows := by
  rw [buyReturns, List.filter_map, List.filterMap_map]
  rfl

theorem wins_buyReturns (signals : List SectorSignal) : wins (buyReturns signals) =
    signals.countP fun signal => (signal.return5d.any fun v => 0 < v) && signal.isBuy := by
  rw [buyReturns, wins_filterMap, List.countP_filter]

theorem mem_regimeBreakdown {entry : RegimeBreakdownEntry} :
    entry ∈ buildRegimeBreakdown rows ↔
      ∃ regime ∈ keysOf EvaluatedRow.bucket (buyRows rows), entry = regimeEntry rows regime := by
  rw [buildRegimeBreakdown, List.mem_insertionSort, List.mem_map]
  simp only [eq_comm]
  rfl

theorem mem_sectorBreakdown {signals : List SectorSignal} {entry : SectorBreakdownEntry} :
    entry ∈ aggregateSectorBreakdown signals ↔
      ∃ sector ∈ keysOf SectorSignal.bucket signals, entry = sectorEntry signals sector := by
  rw [aggregateSectorBreakdown, List.mem_insertionSort, List.mem_map]
  simp only [eq_comm]

/-- The engine's totals and its regimes count the same rows. -/
structure EngineAgrees (rows : List EvaluatedRow) (stats : AggregateStats)
    (regimes : List RegimeBreakdownEntry) : Prop where
  actions : stats.buyCount + stats.passCount + stats.avoidCount = stats.signalCount
  missing : ∀ horizon, stats.missingPerHorizon horizon + rows.countP (hasReturn horizon) =
    stats.buyCount
  winRate : stats.winRate .d5 = winRateOf (fiveDayReturns rows)
  regimesApart : (regimes.map RegimeBreakdownEntry.regime).Nodup
  regimeRows : ∀ entry ∈ regimes, entry.buyCount = rows.countP (isBuyIn entry.regime)
  noneEmpty : ∀ entry ∈ regimes, 0 < entry.buyCount
  regimeBuys : (regimes.map RegimeBreakdownEntry.buyCount).sum = stats.buyCount
  regimeWinRates : ∀ entry ∈ regimes, entry.winRate5d = winRateOf (regimeReturns rows entry.regime)
  regimeWins : (regimes.map fun entry => wins (regimeReturns rows entry.regime)).sum =
    wins (fiveDayReturns rows)

/-- The sectors of the signals count what the engine counts of the rows. -/
structure SectorsAgree (rows : List EvaluatedRow) (stats : AggregateStats)
    (signals : List SectorSignal) (sectors : List SectorBreakdownEntry) : Prop where
  sectorSignals : (sectors.map SectorBreakdownEntry.signalCount).sum = stats.signalCount
  sectorBuys : (sectors.map SectorBreakdownEntry.buyCount).sum = stats.buyCount
  sectorWinRates : ∀ entry ∈ sectors,
    entry.winRate5d = winRateOf (sectorReturns signals entry.sector)
  sectorWins : (sectors.map fun entry => wins (sectorReturns signals entry.sector)).sum =
    wins (fiveDayReturns rows)
  single : ∀ only, sectors = [only] →
    only.winRate5d = stats.winRate .d5 ∧ only.avgReturn5d = stats.avgReturn .d5

theorem engineAgrees (rows : List EvaluatedRow) :
    EngineAgrees rows (aggregate rows) (buildRegimeBreakdown rows) where
  actions := actions_aggregate
  missing := missing_aggregate
  winRate := congrArg winRateOf nonNull_returns
  regimesApart := by
    rw [buildRegimeBreakdown, ((List.perm_insertionSort _ _).map _).nodup_iff, List.map_map]
    change (List.map id _).Nodup
    rw [List.map_id]
    exact nodup_firstSeen [] ((buyRows rows).map EvaluatedRow.bucket)
  regimeRows := by
    intro entry hEntry
    obtain ⟨regime, -, rfl⟩ := mem_regimeBreakdown.mp hEntry
    exact regimeEntry_buyCount regime
  noneEmpty := by
    intro entry hEntry
    obtain ⟨regime, hRegime, rfl⟩ := mem_regimeBreakdown.mp hEntry
    exact List.length_pos_of_ne_nil (group_ne_nil hRegime)
  regimeBuys := by
    rw [buildRegimeBreakdown, sum_sorted]
    change ((keysOf EvaluatedRow.bucket (buyRows rows)).map fun regime =>
      (group EvaluatedRow.bucket (buyRows rows) regime).length).sum = _
    rw [sum_length_group, buyRows, ← List.countP_eq_length_filter]
    rfl
  regimeWinRates := by
    intro entry hEntry
    obtain ⟨regime, -, rfl⟩ := mem_regimeBreakdown.mp hEntry
    rfl
  regimeWins := by
    rw [buildRegimeBreakdown, sum_sorted, fiveDayReturns, wins_filterMap]
    simp only [regimeReturns, wins_filterMap]
    exact sum_countP_group _

theorem sectorsAgree (stocks : StockTable) (rows : List EvaluatedRow) :
    SectorsAgree rows (aggregate rows) (rows.map (signalOf stocks))
      (aggregateSectorBreakdown (rows.map (signalOf stocks))) where
  sectorSignals := by
    rw [aggregateSectorBreakdown, sum_sorted]
    change ((keysOf SectorSignal.bucket (rows.map (signalOf stocks))).map fun sector =>
      (group SectorSignal.bucket (rows.map (signalOf stocks)) sector).length).sum = _
    rw [sum_length_group, List.length_map]
    rfl
  sectorBuys := by
    rw [aggregateSectorBreakdown, sum_sorted]
    change ((keysOf SectorSignal.bucket (rows.map (signalOf stocks))).map fun sector =>
      (group SectorSignal.bucket (rows.map (signalOf stocks)) sector).countP
        SectorSignal.isBuy).sum = _
    rw [sum_countP_group, List.countP_map]
    rfl
  sectorWinRates := by
    intro entry hEntry
    obtain ⟨sector, -, rfl⟩ := mem_sectorBreakdown.mp hEntry
    rfl
  sectorWins := by
    rw [aggregateSectorBreakdown, sum_sorted, ← buyReturns_signalOf stocks, wins_buyReturns]
    simp only [sectorReturns, wins_buyReturns]
    exact sum_countP_group _
  single := by
    intro only hOnly
    have hLength := congrArg List.length hOnly
    rw [aggregateSectorBreakdown, List.length_insertionSort, List.length_map,
      List.length_singleton, List.length_eq_one_iff] at hLength
    obtain ⟨sector, hKeys⟩ := hLength
    obtain ⟨found, hFound, hEntry⟩ := mem_sectorBreakdown.mp (hOnly ▸ List.mem_singleton_self only)
    rw [hKeys, List.mem_singleton] at hFound
    -- the one sector holds all rows, so its returns are those of the engine
    have hReturns : buyReturns (group SectorSignal.bucket (rows.map (signalOf stocks)) found) =
        ((buyRows rows).map fun row => row.returnAt .d5).reduceOption := by
      rw [hFound, group_eq_self hKeys, buyReturns_signalOf, nonNull_returns]
    rw [hEntry]
    exact ⟨congrArg winRateOf hReturns, congrArg average hReturns⟩

end Totals

section Runner

/-- What the runner reports of a strategy agrees with the engine's run of it. -/
structure StrategyAgrees (runner : MultiStrategyRunner) (db : Database) (stocks : StockTable)
    (startDate endDate : Int) (limit : Option Int) (today : Int) (strategy : Strategy)
    (result : StrategyResult) : Prop where
  stats : result.stats =
    (runner.engine.run db strategy (some startDate) (some endDate) limit today).stats
  sectors : let rows := runner.engine.evaluateAll db strategy (some startDate) (some endDate) limit
    SectorsAgree rows result.stats (rows.map (signalOf stocks)) result.sectorBreakdown

/-- The second fetch is of `scan`, the recommendations in whatever order it comes upon them. -/
theorem pathsAgree (db : Database) (stocks : StockTable) (scan : List Recommendation)
    (hOnce : RankedOnce db) (hScan : scan.Perm db.recommendations) :
    (∀ (engine : BacktestEngine) (strategy : Strategy) (startDate endDate limit : Option Int)
      (runDate : Int), let summary := engine.run db strategy startDate endDate limit runDate
      EngineAgrees (engine.evaluateAll db strategy startDate endDate limit) summary.stats
        summary.regimeBreakdown) ∧
    ∀ (runner : MultiStrategyRunner) (strategies : List Strategy) (startDate endDate : Int)
      (dryRun : Bool) (limit runDate : Option Int) (today : Int),
      runner.withSectorBreakdown = true →
      List.Forall₂ (StrategyAgrees runner db stocks startDate endDate limit today) strategies
        (runner.run db (scannedAs db scan) stocks strategies startDate endDate dryRun limit runDate
          today).strategyResults := by
  constructor
  · intro engine strategy startDate endDate limit runDate
    exact engineAgrees _
  · intro runner strategies startDate endDate dryRun limit runDate today hSectors
    refine List.forall₂_map_right_iff.mpr (List.forall₂_same.mpr fun strategy _ => ⟨rfl, ?_⟩)
    rw [strategyResult, hSectors, if_pos rfl,
      sectorSignals_scannedAs runner.engine stocks strategy hOnce hScan]
    exact sectorsAgree stocks _

def rankedSecond : Recommendation := { ranked 2 1 30 with rank := 2, symbol := "000660" }

/-- A run with two recommendations. -/
def twoRanks : Database where
  recommendationRuns := [⟨1, 45⟩]
  recommendations := [ranked 1 1 70, rankedSecond]
  recommendationResults := [⟨1, 1, 5, some 2, none, some "SUCCESS"⟩, ⟨2, 2, 5, none, none, none⟩]
  dataSnapshots := []
  marketRegimes := []

theorem symbols_nodup : (["005930"] : List String).Nodup := List.nodup_singleton _

def oneStock : StockTable := ⟨[⟨"005930", some "Semiconductors"⟩], symbols_nodup⟩

theorem rankedOnce_twoRanks : RankedOnce twoRanks := by
  intro a ha b hb _ hRank
  rw [twoRanks, List.mem_pair] at ha hb
  rcases ha with rfl | rfl <;> rcases hb with rfl | rfl
  · rfl
  · exact absurd hRank (by decide)
  · exact absurd hRank (by decide)
  · rfl

theorem pathsAgree_twoRanks :
    (∀ (engine : BacktestEngine) (strategy : Strategy) (startDate endDate limit : Option Int)
      (runDate : Int), let summary := engine.run twoRanks strategy startDate endDate limit runDate
      EngineAgrees (engine.evaluateAll twoRanks strategy startDate endDate limit) summary.stats
        summary.regimeBreakdown) ∧
    List.Forall₂ (StrategyAgrees {} twoRanks oneStock 1 60 none 60) [thresholdStrategy]
      (MultiStrategyRunner.run {} twoRanks (scannedAs twoRanks [rankedSecond, ranked 1 1 70]) oneStock
        [thresholdStrategy] 1 60 true none none 60).strategyResults :=
  have h := pathsAgree twoRanks oneStock [rankedSecond, ranked 1 1 70] rankedOnce_twoRanks
    (List.Perm.swap _ _ _)
  ⟨h.1, h.2 {} [thresholdStrategy] 1 60 true none none 60 rfl⟩

end Runner

end StockAiPlatform.Backtest
