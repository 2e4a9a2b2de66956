import StockAiPlatform.Scheduler.MarketCloseJob

/-! # Symbols on one session

The daily prices of all symbols are staged on the session the rankings were
saved on, and each symbol has its handler. A fetch or a check that fails leaves
the session usable; a refused flush takes along all that was staged.
-/

namespace StockAiPlatform.MarketClose
set_option autoImplicit false

open Transaction MarketCapRankingRepository UnitOfWork Python

section Sessions

variable {env : Environment} {config : MarketCloseConfig} {store saved : MarketStore}

theorem eq_of_write {row : NewRow} {next : MarketStore}
    (h : write env row next = .ok saved) : saved = next := by
  rw [write] at h
  split at h
  · exact (Except.ok.inj h).symm
  · cases h

/-! What the repositories may change. -/

theorem getOrCreate_spec {name : String} {found : StockUniverse}
    (h : StockUniverseRepository.getOrCreate env name store = .ok (found, saved)) :
    (StockUniverseRepository.getByName name store = some found ∧ saved = store) ∨
      (StockUniverseRepository.getByName name store = none ∧
        found = ⟨store.universes.nextKey, name⟩ ∧
        saved = { store with universes := store.universes.insert found }) := by
  rw [StockUniverseRepository.getOrCreate] at h
  split at h
  case h_1 existing hExisting =>
    cases h
    exact .inl ⟨hExisting, rfl⟩
  case h_2 hNone =>
    obtain ⟨next, hWrite, hRest⟩ := except_bind_eq_ok.mp h
    cases hRest
    exact .inr ⟨hNone, rfl, eq_of_write hWrite⟩

theorem stockUpsert_spec {item : MarketCapRanking} {created : Bool}
    (h : StockRepository.upsert env item store = .ok (created, saved)) :
    ∃ stocks, saved = { store with stocks := stocks } := by
  rw [StockRepository.upsert] at h
  split at h <;>
  · obtain ⟨next, hWrite, hRest⟩ := except_bind_eq_ok.mp h
    cases hRest
    exact ⟨_, eq_of_write hWrite⟩

theorem addIfMissing_spec {universeId : Nat} {symbol : String} {created : Bool}
    (h : StockUniverseMemberRepository.addIfMissing env universeId symbol store =
      .ok (created, saved)) :
    saved = { store with members := saved.members } ∧
      ∀ row, row ∈ saved.members ↔
        row ∈ store.members ∨ row.universeId = universeId ∧ row.symbol = symbol := by
  rw [StockUniverseMemberRepository.addIfMissing] at h
  split at h
  case isTrue hAny =>
    cases h
    refine ⟨rfl, fun row => ⟨.inl, ?_⟩⟩
    rintro (hOld | ⟨rfl, rfl⟩)
    · exact hOld
    · obtain ⟨there, hThere, hSame⟩ := List.any_eq_true.mp hAny
      obtain ⟨hId, hSymbol⟩ := Bool.and_eq_true_iff.mp hSame
      have hRow : there = row :=
        (StockUniverseMember.mk.injEq ..).mpr ⟨eq_of_beq hId, eq_of_beq hSymbol⟩
      exact hRow ▸ hThere
  case isFalse =>
    obtain ⟨next, hWrite, hRest⟩ := except_bind_eq_ok.mp h
    cases hRest
    rw [eq_of_write hWrite]
    refine ⟨rfl, fun row => ?_⟩
    obtain ⟨_, _⟩ := row
    simp only [List.mem_append, List.mem_singleton, StockUniverseMember.mk.injEq]

theorem populate_spec {universeId : Nat} {items : List MarketCapRanking} {counts : Nat × Nat}
    (h : MarketCapRankingCollector.populate env universeId items store = .ok (counts, saved)) :
    (∃ stocks, saved = { store with stocks := stocks, members := saved.members }) ∧
      ∀ row, row ∈ saved.members ↔
        row ∈ store.members ∨ row.universeId = universeId ∧ ∃ item ∈ items, row.symbol = item.symbol := by
  induction items generalizing store counts with
  | nil =>
    cases h
    refine ⟨⟨_, rfl⟩, fun row => ⟨.inl, ?_⟩⟩
    rintro (hOld | ⟨-, item, hItem, -⟩)
    · exact hOld
    · exact absurd hItem List.not_mem_nil
  | cons item items ih =>
    rw [MarketCapRankingCollector.populate] at h
    obtain ⟨⟨stockCreated, withStock⟩, hStock, hAfterStock⟩ := except_bind_eq_ok.mp h
    obtain ⟨⟨memberCreated, withMember⟩, hMember, hAfterMember⟩ :=
      except_bind_eq_ok.mp hAfterStock
    obtain ⟨⟨rest, last⟩, hRest, hDone⟩ := except_bind_eq_ok.mp hAfterMember
    cases hDone
    obtain ⟨stocks, rfl⟩ := stockUpsert_spec hStock
    obtain ⟨⟨laterStocks, hSaved⟩, hMembers⟩ := ih hRest
    obtain ⟨hSame, hAdded⟩ := addIfMissing_spec hMember
    rw [hSame] at hSaved
    refine ⟨⟨laterStocks, hSaved⟩, fun row => ?_⟩
    rw [hMembers, hAdded, List.exists_mem_cons_iff, and_or_left, or_assoc]

theorem foldlM_insert {rankings : List MarketCapRanking}
    (h : rankings.foldlM (insert env) store = .ok saved) :
    saved = { store with rankings := store.rankings ++ rankings } := by
  induction rankings generalizing store with
  | nil =>
    cases h
    rw [List.append_nil]
  | cons row rankings ih =>
    rw [List.foldlM_cons] at h
    obtain ⟨next, hInsert, hRest⟩ := except_bind_eq_ok.mp h
    rw [MarketCapRankingRepository.insert] at hInsert
    split at hInsert
    · cases hInsert
    · rw [ih hRest, eq_of_write hInsert, List.append_assoc, List.singleton_append]

section Rankings

variable {rankings : List MarketCapRanking} {issues : List RankingIssue}
  {ranking : MarketCapRankingCollectorResult}

/-- The steps of a collection that is saved. -/
theorem save_steps
    (h : MarketCapRankingCollector.save env config rankings issues store = .ok (ranking, saved)) :
    ∃ found withUniverse counts,
      StockUniverseRepository.getOrCreate env config.universeName
        { store with
          rankings := (deleted config.targetDate config.market store).rankings ++ rankings } =
            .ok (found, withUniverse) ∧
      MarketCapRankingCollector.populate env found.universeId rankings withUniverse =
        .ok (counts, saved) := by
  rw [MarketCapRankingCollector.save] at h
  obtain ⟨⟨count, replaced⟩, hReplace, hAfterReplace⟩ := except_bind_eq_ok.mp h
  obtain ⟨⟨found, withUniverse⟩, hUniverse, hAfterUniverse⟩ :=
    except_bind_eq_ok.mp hAfterReplace
  obtain ⟨⟨counts, populated⟩, hPopulate, hDone⟩ := except_bind_eq_ok.mp hAfterUniverse
  cases hDone
  obtain ⟨inserted, hInsert, hCount⟩ := except_bind_eq_ok.mp hReplace
  cases hCount
  rw [foldlM_insert hInsert] at hUniverse
  exact ⟨found, withUniverse, counts, hUniverse, hPopulate⟩

theorem save_spec
    (h : MarketCapRankingCollector.save env config rankings issues store = .ok (ranking, saved)) :
    saved.rankings = (deleted config.targetDate config.market store).rankings ++ rankings ∧
      saved.dailyPrices = store.dailyPrices := by
  obtain ⟨found, withUniverse, counts, hUniverse, hPopulate⟩ := save_steps h
  obtain ⟨⟨stocks, hSaved⟩, -⟩ := populate_spec hPopulate
  rw [hSaved]
  obtain ⟨-, rfl⟩ | ⟨-, -, rfl⟩ := getOrCreate_spec hUniverse
  · exact ⟨rfl, rfl⟩
  · exact ⟨rfl, rfl⟩

theorem ofDateMarket_of_plan
    (h : MarketCapRankingCollector.plan env config = .ok (rankings, issues)) :
    ∀ row ∈ rankings, ofDateMarket config.targetDate config.market row = true := by
  rw [MarketCapRankingCollector.plan] at h
  obtain ⟨rows, -, hAfterFetch⟩ := except_bind_eq_ok.mp h
  obtain ⟨found, -, hDone⟩ := except_bind_eq_ok.mp hAfterFetch
  cases hDone
  intro row hRow
  obtain ⟨vendorRow, -, rfl⟩ := List.mem_map.mp hRow
  simp [ofDateMarket, MarketCapRankingCollector.normalized]

/-- The rankings of the date and market are the saved ones. -/
def HoldsRankings (config : MarketCloseConfig) (rankings : List MarketCapRanking)
    (store : MarketStore) : Prop :=
  ∀ row, row ∈ store.rankings ∧ ofDateMarket config.targetDate config.market row = true ↔
    row ∈ rankings

theorem holdsRankings_saved
    (hPlan : MarketCapRankingCollector.plan env config = .ok (rankings, issues))
    (hSave : MarketCapRankingCollector.save env config rankings issues store =
      .ok (ranking, saved)) : HoldsRankings config rankings saved := by
  intro row
  rw [(save_spec hSave).1, List.mem_append, deleted, List.mem_filter]
  constructor
  · rintro ⟨⟨-, hOther⟩ | hNew, hOf⟩
    · rw [hOf] at hOther
      cases hOther
    · exact hNew
  · intro hNew
    exact ⟨.inr hNew, ofDateMarket_of_plan hPlan row hNew⟩

end Rankings

section Prices

theorem flatten_slices (values : List String) (size count : Nat) :
    ((List.range count).map fun index => (values.drop (index * size)).take size).flatten =
      values.take (count * size) := by
  induction count with
  | zero =>
    rw [Nat.zero_mul, List.take_zero]
    rfl
  | succ count ih =>
    rw [List.range_succ, List.map_append, List.flatten_append, ih, List.map_singleton,
      List.flatten_singleton, Nat.succ_mul, List.take_add]

theorem flatten_chunks {size : Nat} (h : 0 < size) (values : List String) :
    (chunks values size).flatten = values := by
  rw [chunks, flatten_slices]
  apply List.take_of_length_le
  have hCeil := Nat.lt_div_mul_add (a := values.length + size - 1) h
  omega

/-- The symbol's own fetch, normalization, check or store fails. -/
def failsItself (env : Environment) (config : MarketCloseConfig) (symbol : String) : Bool :=
  ownFailure (DailyPriceCollector.acceptsPrice env) (DailyPriceCollector.plan env config) symbol

/-- The rows of the symbol pass all but the database. -/
def isRefused (env : Environment) (config : MarketCloseConfig) (symbol : String) : Bool :=
  UnitOfWork.isRefused (DailyPriceCollector.acceptsPrice env)
    (DailyPriceCollector.plan env config) symbol

def rowsOf (env : Environment) (config : MarketCloseConfig) (symbol : String) : List DailyPrice :=
  UnitOfWork.rowsOf (DailyPriceCollector.plan env config) symbol

/-- The price of the symbol at the date once its rows were stored over `prices`. -/
def priceAfter (env : Environment) (config : MarketCloseConfig) (symbol : String) (date : Int)
    (prices : List DailyPrice) : Option DailyPrice :=
  (lookup DailyPriceRepository.keyOf (symbol, date) (rowsOf env config symbol).reverse).or
    (lookup DailyPriceRepository.keyOf (symbol, date) prices)

theorem symbol_of_mem_rowsOf {symbol : String} {row : DailyPrice}
    (h : row ∈ rowsOf env config symbol) : row.symbol = symbol := by
  rw [rowsOf, UnitOfWork.rowsOf] at h
  split at h
  · cases h
  · rename_i rows value hPlan
    rw [DailyPriceCollector.plan] at hPlan
    obtain ⟨vendorRows, -, hAfterFetch⟩ := except_bind_eq_ok.mp hPlan
    obtain ⟨issues, -, hDone⟩ := except_bind_eq_ok.mp hAfterFetch
    cases hDone
    obtain ⟨price, hPrice, rfl⟩ := List.mem_map.mp h
    obtain ⟨vendorRow, -, rfl⟩ := List.mem_map.mp hPrice
    rfl

theorem foldl_upsert (rows : List DailyPrice) : rows.foldl DailyPriceRepository.upsert store =
    { store with
      dailyPrices := rows.foldl (upsertBy DailyPriceRepository.keyOf) store.dailyPrices } := by
  induction rows generalizing store with
  | nil => rfl
  | cons row rows ih => exact ih

theorem foldl_symbols (symbols : List String) :
    symbols.foldl (fun view symbol => (rowsOf env config symbol).foldl
        DailyPriceRepository.upsert view) store =
      { store with
        dailyPrices := symbols.foldl (fun prices symbol => (rowsOf env config symbol).foldl
          (upsertBy DailyPriceRepository.keyOf) prices) store.dailyPrices } := by
  induction symbols generalizing store with
  | nil => rfl
  | cons symbol symbols ih =>
    rw [List.foldl_cons, foldl_upsert, ih]
    rfl

theorem lookup_foldl_symbols {symbols : List String} {symbol : String} (h : symbol ∈ symbols)
    (date : Int) (prices : List DailyPrice) :
    lookup DailyPriceRepository.keyOf (symbol, date)
        (symbols.foldl (fun prices symbol => (rowsOf env config symbol).foldl
          (upsertBy DailyPriceRepository.keyOf) prices) prices) =
      priceAfter env config symbol date prices := by
  rw [lookup_foldl_owners symbol ?_, if_pos h, priceAfter]
  intro other hOther hKey
  obtain ⟨row, hRow, hSame⟩ := List.mem_map.mp hKey
  exact hOther ((symbol_of_mem_rowsOf hRow).symm.trans (congrArg Prod.fst hSame))

end Prices

/-- Every symbol that does not fail of itself has its rows, the rankings that were saved are there,
and the failures are the symbols that failed of themselves. -/
structure Isolated (env : Environment) (config : MarketCloseConfig)
    (rankings : List MarketCapRanking) (symbols : List String) (store after : MarketStore)
    (result : MarketCloseResult) : Prop where
  rankings : HoldsRankings config rankings after
  prices : ∀ symbol ∈ symbols, failsItself env config symbol = false → ∀ date,
    lookup DailyPriceRepository.keyOf (symbol, date) after.dailyPrices =
      priceAfter env config symbol date store.dailyPrices
  failures : result.failedSymbols = symbols.filter (failsItself env config)

/-- Once the rankings are saved, the job returns and its symbols are isolated. -/
def IsolatesSymbols (env : Environment) (config : MarketCloseConfig) (store : MarketStore) : Prop :=
  ∀ rankings issues ranking saved,
    MarketCapRankingCollector.plan env config = .ok (rankings, issues) →
    MarketCapRankingCollector.save env config rankings issues store = .ok (ranking, saved) →
    ∃ result session,
      (collectMarketCloseData env config).run (.opened store) = .ok result session ∧
        Isolated env config rankings (symbolsOf ranking.universeId saved) store session.stored result

/-- Losing what was staged makes no difference: the rankings and the rows of the symbols before were
stored already, and the symbols after have no rows unless they fail of themselves. -/
structure NothingLost (env : Environment) (config : MarketCloseConfig)
    (rankings : List MarketCapRanking) (store : MarketStore) (before after : List String) : Prop where
  rankings : HoldsRankings config rankings store
  before : ∀ symbol ∈ before, failsItself env config symbol = false → ∀ date,
    lookup DailyPriceRepository.keyOf (symbol, date) store.dailyPrices =
      priceAfter env config symbol date store.dailyPrices
  after : ∀ symbol ∈ after, failsItself env config symbol = false → rowsOf env config symbol = []

/-- No symbol has rows that only the database refuses, or nothing is lost at the first that has. -/
def SurvivesRefusals (env : Environment) (config : MarketCloseConfig)
    (rankings : List MarketCapRanking) (store : MarketStore) (symbols : List String) : Prop :=
  (∀ symbol ∈ symbols, isRefused env config symbol = false) ∨
    ∃ before key after, symbols = before ++ key :: after ∧ isRefused env config key = true ∧
      (∀ other ∈ before, isRefused env config other = false) ∧
      NothingLost env config rankings store before after

section Runs

variable {rankings : List MarketCapRanking} {issues : List RankingIssue}
  {ranking : MarketCapRankingCollectorResult} {symbols before after : List String} {key : String}
  {result : MarketCloseResult}

theorem run_rankings
    (hPlan : MarketCapRankingCollector.plan env config = .ok (rankings, issues))
    (hSave : MarketCapRankingCollector.save env config rankings issues store =
      .ok (ranking, saved)) :
    (MarketCapRankingCollector.collect env config).run (.opened store) =
      .ok ranking ⟨store, some saved⟩ := by
  rw [MarketCapRankingCollector.collect, hPlan]
  simp only [transact, EStateM.run, opened, hSave]

theorem run_rankings_unplanned {error : CollectError}
    (hPlan : MarketCapRankingCollector.plan env config = .error error) :
    (MarketCapRankingCollector.collect env config).run (.opened store) =
      .error error (.opened store) := by
  rw [MarketCapRankingCollector.collect, hPlan]
  rfl

theorem run_rankings_refused {error : CollectError}
    (hPlan : MarketCapRankingCollector.plan env config = .ok (rankings, issues))
    (hSave : MarketCapRankingCollector.save env config rankings issues store = .error error) :
    (MarketCapRankingCollector.collect env config).run (.opened store) =
      .error error ⟨store, none⟩ := by
  rw [MarketCapRankingCollector.collect, hPlan]
  simp only [transact, EStateM.run, opened, hSave]

/-- A first stage that fails is the end of the job, and leaves its session. -/
theorem run_marketCapFailed {error : CollectError} {session : UnitOfWork MarketStore}
    (h : (MarketCapRankingCollector.collect env config).run (.opened store) = .error error session) :
    (collectMarketCloseData env config).run (.opened store) =
      .ok (.marketCapFailed error) session := by
  rw [collectMarketCloseData, run_bind_of_ok (run_attempt_error h)]
  rfl

theorem run_collectMarketCloseData {session : UnitOfWork MarketStore}
    {outcomes : List (String × Except CollectError DailyPriceCollectorResult)}
    (hPlan : MarketCapRankingCollector.plan env config = .ok (rankings, issues))
    (hSave : MarketCapRankingCollector.save env config rankings issues store =
      .ok (ranking, saved))
    (hEach : (attemptEach (DailyPriceCollector.collect env config)
      (symbolsOf ranking.universeId saved)).run ⟨store, some saved⟩ = .ok outcomes session) :
    (collectMarketCloseData env config).run (.opened store) =
      .ok (.ofOutcomes ranking (symbolsOf ranking.universeId saved) outcomes) session := by
  have hSymbols : (transact env.pendingRollback fun view =>
      .ok (symbolsOf ranking.universeId view, view)).run ⟨store, some saved⟩ =
        .ok (symbolsOf ranking.universeId saved) ⟨store, some saved⟩ := rfl
  rw [collectMarketCloseData, run_bind_of_ok (run_attempt_ok (run_rankings hPlan hSave))]
  simp only
  rw [run_bind_of_ok hSymbols, attemptBatches_eq, flatten_chunks config.batchSize_pos,
    run_bind_of_ok hEach]
  rfl

/-- A session that stayed usable holds the rows of all symbols. -/
theorem isolated_of_accepted
    (hPlan : MarketCapRankingCollector.plan env config = .ok (rankings, issues))
    (hSave : MarketCapRankingCollector.save env config rankings issues store =
      .ok (ranking, saved))
    (hFailed : result.failedSymbols = symbols.filter (failsItself env config)) :
    Isolated env config rankings symbols store
      (symbols.foldl (fun view symbol => (rowsOf env config symbol).foldl
        DailyPriceRepository.upsert view) saved) result where
  rankings := by
    have hSaved := holdsRankings_saved hPlan hSave
    rw [foldl_symbols]
    exact hSaved
  prices symbol hSymbol _ date := by
    rw [foldl_symbols, ← (save_spec hSave).2]
    exact lookup_foldl_symbols hSymbol date saved.dailyPrices
  failures := hFailed

/-- A session that has ended leaves the store as it was. -/
theorem isolated_ended_iff (hKey : isRefused env config key = true)
    (hFailed : result.failedSymbols = before.filter (failsItself env config) ++
      key :: after.filter (failsEnded (DailyPriceCollector.plan env config))) :
    Isolated env config rankings (before ++ key :: after) store store result ↔
      NothingLost env config rankings store before after := by
  have hKeyFails : failsItself env config key = true := ownFailure_of_isRefused hKey
  have hSplit : (before ++ key :: after).filter (failsItself env config) =
      before.filter (failsItself env config) ++ key :: after.filter (failsItself env config) := by
    rw [List.filter_append, List.filter_cons_of_pos hKeyFails]
  constructor
  · intro h
    have hSame := h.failures
    rw [hFailed, hSplit] at hSame
    have hAfter := List.tail_eq_of_cons_eq (List.append_cancel_left hSame)
    exact ⟨h.rankings, fun symbol hSymbol => h.prices symbol (List.mem_append_left _ hSymbol),
      (filter_failsEnded_iff _ after).mp hAfter⟩
  · intro h
    refine ⟨h.rankings, fun symbol hSymbol hOwn date => ?_, ?_⟩
    · obtain hBefore | hRest := List.mem_append.mp hSymbol
      · exact h.before symbol hBefore hOwn date
      · obtain rfl | hAfter := List.mem_cons.mp hRest
        · rw [hKeyFails] at hOwn
          cases hOwn
        · rw [priceAfter, h.after symbol hAfter hOwn]
          rfl
    · have hAfter := (filter_failsEnded_iff (DailyPriceCollector.acceptsPrice env) after).mpr h.after
      rw [hFailed, hSplit, hAfter]
      rfl

/-- At the first refusal the job still returns, and leaves the store as it was. -/
theorem run_refused
    (hPlan : MarketCapRankingCollector.plan env config = .ok (rankings, issues))
    (hSave : MarketCapRankingCollector.save env config rankings issues store =
      .ok (ranking, saved))
    (hSymbols : symbolsOf ranking.universeId saved = before ++ key :: after)
    (hBefore : ∀ other ∈ before, isRefused env config other = false)
    (hKey : isRefused env config key = true) : ∃ result,
    (collectMarketCloseData env config).run (.opened store) = .ok result ⟨store, none⟩ ∧
      (Isolated env config rankings (symbolsOf ranking.universeId saved) store store result ↔
        NothingLost env config rankings store before after) := by
  obtain ⟨outcomes, hEach, hFailed⟩ := attemptEach_of_refused env.pendingRollback
    (DailyPriceCollector.refusalOfPrice env) (DailyPriceCollector.acceptsPrice env)
    DailyPriceRepository.upsert (DailyPriceCollector.plan env config) store after saved
    hBefore hKey
  rw [← hSymbols] at hEach
  refine ⟨_, run_collectMarketCloseData hPlan hSave hEach, ?_⟩
  rw [hSymbols]
  apply isolated_ended_iff hKey
  rw [MarketCloseResult.failedSymbols_ofOutcomes]
  exact hFailed

end Runs

/-- The symbols are isolated exactly if no refusal of the database costs anything. -/
theorem isolatesSymbols_iff (env : Environment) (config : MarketCloseConfig) (store : MarketStore) :
    IsolatesSymbols env config store ↔ ∀ rankings issues ranking saved,
      MarketCapRankingCollector.plan env config = .ok (rankings, issues) →
      MarketCapRankingCollector.save env config rankings issues store = .ok (ranking, saved) →
      SurvivesRefusals env config rankings store (symbolsOf ranking.universeId saved) := by
  refine forall_congr' fun rankings => forall_congr' fun issues => forall_congr' fun ranking =>
    forall_congr' fun saved => forall_congr' fun hPlan => forall_congr' fun hSave => ?_
  constructor
  · rintro ⟨result, session, hRun, hIsolated⟩
    obtain hNone | ⟨before, key, after, hSymbols, hKey, hBefore⟩ :=
      exists_first_refused (DailyPriceCollector.acceptsPrice env)
        (DailyPriceCollector.plan env config) (symbolsOf ranking.universeId saved)
    · exact .inl hNone
    · obtain ⟨result', hRun', hIff⟩ := run_refused hPlan hSave hSymbols hBefore hKey
      rw [hRun] at hRun'
      cases hRun'
      exact .inr ⟨before, key, after, hSymbols, hKey, hBefore, hIff.mp hIsolated⟩
  · rintro (hNone | ⟨before, key, after, hSymbols, hKey, hBefore, hLost⟩)
    · obtain ⟨outcomes, hEach, hFailed⟩ := attemptEach_of_accepted env.pendingRollback
        (DailyPriceCollector.refusalOfPrice env) (DailyPriceCollector.acceptsPrice env)
        DailyPriceRepository.upsert (DailyPriceCollector.plan env config) store saved hNone
      refine ⟨_, _, run_collectMarketCloseData hPlan hSave hEach,
        isolated_of_accepted hPlan hSave ?_⟩
      rw [MarketCloseResult.failedSymbols_ofOutcomes]
      exact hFailed
    · obtain ⟨result, hRun, hIff⟩ := run_refused hPlan hSave hSymbols hBefore hKey
      exact ⟨result, _, hRun, hIff.mpr hLost⟩

end Sessions

namespace OneRefused

def ranked (rank : Int) (symbol : String) : VendorRanking where
  rank := rank
  symbol := symbol
  name := symbol
  marketCap := none
  closePrice := none
  listedShares := none
  sector := none
  tradingValue := none

def priced (price : ℚ) : VendorPrice where
  date := 20260105
  openPrice := .finite price
  high := .finite price
  low := .finite price
  close := .finite price
  volume := 1
  tradingValue := none

def fits : DecimalValue → Bool
  | .finite value => decide (|value| < 10 ^ 16)
  | .infinite _ => false
  | .nan => true

/-- The vendor sends a price of the second symbol that no column holds. -/
def env : Environment where
  fetchMarketCapRankings _ _ _ := .ok [ranked 1 "000660", ranked 2 "005930"]
  fetchDailyPrices symbol _ _ :=
    .ok [priced (if symbol == "000660" then 100 else 10 ^ 16)]
  accepts
    | .price row => fits row.close
    | _ => true
  refusal _ := ⟨"DataError", "numeric field overflow"⟩
  pendingRollback := ⟨"PendingRollbackError", "This Session's transaction has been rolled back"⟩

def config : MarketCloseConfig where
  targetDate := 20260105
  market := "KOSPI"
  limit := 2
  universeName := "MARKET_CAP_TOP_500"
  startDate := 20260105
  endDate := 20260105
  batchSize := 50
  batchSize_pos := Nat.succ_pos 49

def store : MarketStore := ⟨[], [], ∅, [], []⟩

end OneRefused

theorem not_isolatesSymbols_oneRefused :
    ¬ IsolatesSymbols OneRefused.env OneRefused.config OneRefused.store := by
  intro h
  have hLost : (left ((collectMarketCloseData OneRefused.env OneRefused.config).run
      (.opened OneRefused.store))).stored.rankings.length = 0 := by decide +kernel
  obtain ⟨result, session, hRun, hIsolated⟩ := h _ _ _ _ rfl rfl
  rw [hRun, left, List.length_eq_zero_iff] at hLost
  have hSaved := (hIsolated.rankings _).mpr List.mem_cons_self
  rw [hLost] at hSaved
  cases hSaved.1

end StockAiPlatform.MarketClose
