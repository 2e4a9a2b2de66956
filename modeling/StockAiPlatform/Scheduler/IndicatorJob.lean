import StockAiPlatform.Analysis.TechnicalAnalyzer
import StockAiPlatform.Scheduler.SymbolIsolation
import StockAiPlatform.Transaction.AsOf
import StockAiPlatform.Transaction.Run

/-! # The technical indicator job

`calculate_technical_indicators` stores, for every member of a universe, what the
analyzer makes of the newest bars of the symbol, in batches on one session. The
indicators are a view of the prices: current for a member right after a job, and
settled as long as no bar is written behind the newest one of its symbol.
-/

namespace StockAiPlatform.Analysis
set_option autoImplicit false

open Transaction
open MarketClose (CollectError StockUniverse StockUniverseMember chunks flatten_chunks)

/-- The row of an indicator has the columns of the snapshot it is written from. -/
structure IndicatorStore where
  universes : List StockUniverse
  members : List StockUniverseMember
  dailyPrices : List KisDailyPrice
  stockIndicators : List IndicatorSnapshot

def barKey (bar : KisDailyPrice) : String × Int := (bar.symbol, bar.date)

def indicatorKey (row : IndicatorSnapshot) : String × Int := (row.symbol, row.date)

/-- What the columns of the database can hold, and what it says otherwise. -/
structure IndicatorEnvironment where
  accepts : IndicatorSnapshot → Bool
  refusal : IndicatorSnapshot → CollectError
  pendingRollback : CollectError

namespace DailyPriceRepository

def barsOf (symbol : String) (store : IndicatorStore) : List KisDailyPrice :=
  store.dailyPrices.filter fun bar => bar.symbol == symbol

/-- The newest bars, in ascending order. -/
def newestBars (limit : Nat) (bars : List KisDailyPrice) : List KisDailyPrice :=
  ((bars.insertionSort fun a b => b.date ≤ a.date).take limit).reverse

def listBySymbol (symbol : String) (limit : Nat) (store : IndicatorStore) : List KisDailyPrice :=
  newestBars limit (barsOf symbol store)

def upsert (bar : KisDailyPrice) (store : IndicatorStore) : IndicatorStore :=
  { store with dailyPrices := upsertBy barKey store.dailyPrices bar }

end DailyPriceRepository

namespace StockIndicatorRepository

def getLatestBySymbol (symbol : String) (store : IndicatorStore) : Option IndicatorSnapshot :=
  latest IndicatorSnapshot.date (store.stockIndicators.filter fun row => row.symbol == symbol)

def upsert (row : IndicatorSnapshot) (store : IndicatorStore) : IndicatorStore :=
  { store with stockIndicators := upsertBy indicatorKey store.stockIndicators row }

end StockIndicatorRepository

/-- `get_by_name` -/
def universeNamed (name : String) (store : IndicatorStore) : Option StockUniverse :=
  store.universes.find? fun row => row.name == name

/-- The symbols of `list_by_universe`. -/
def symbolsOf (universeId : Nat) (store : IndicatorStore) : List String :=
  ((store.members.filter fun row => row.universeId == universeId).insertionSort
    fun a b => a.symbol ≤ b.symbol).map StockUniverseMember.symbol

namespace TechnicalIndicatorService

/-- What the analyzer makes of the newest bars of a symbol. -/
def analysis (lookbackDays : Nat) (store : IndicatorStore) (symbol : String) :
    Option IndicatorSnapshot :=
  TechnicalAnalyzer.analyzeLatest (DailyPriceRepository.listBySymbol symbol lookbackDays store)

/-- The select, the analysis, and the upsert with its flush. -/
def analyzeAndStore (env : IndicatorEnvironment) (lookbackDays : Nat) (symbol : String) :
    EStateM CollectError (UnitOfWork IndicatorStore) (Option IndicatorSnapshot) :=
  UnitOfWork.transact env.pendingRollback fun store =>
    match analysis lookbackDays store symbol with
    | none => .ok (none, store)
    | some snapshot =>
      if env.accepts snapshot then .ok (some snapshot, StockIndicatorRepository.upsert snapshot store)
      else .error (env.refusal snapshot)

end TechnicalIndicatorService

/-- The status, the summary and the error message of the job's result. -/
structure IndicatorJobResult where
  status : JobStatus
  reason : Option String
  universeName : String
  universeId : Option Nat
  lookbackDays : Nat
  batchSize : Nat
  membersCount : Nat
  successes : List IndicatorSnapshot
  skipped : List String
  failures : List (String × CollectError)
  errorMessage : Option String

/-- `_indicator_job_config`, before its lower bounds. -/
structure IndicatorJob where
  universeName : String
  lookbackDays : Int
  batchSize : Int

namespace IndicatorJob

open TechnicalIndicatorService

variable (job : IndicatorJob)

def lookback : Nat := (max job.lookbackDays 1).toNat

def batch : Nat := (max job.batchSize 1).toNat

def universeMissing : IndicatorJobResult where
  status := .success
  reason := some s!"{job.universeName} universe missing"
  universeName := job.universeName
  universeId := none
  lookbackDays := job.lookback
  batchSize := job.batch
  membersCount := 0
  successes := []
  skipped := []
  failures := []
  errorMessage := none

abbrev Outcomes : Type := List (String × Except CollectError (Option IndicatorSnapshot))

def successesOf (outcomes : Outcomes) : List IndicatorSnapshot :=
  outcomes.filterMap fun
    | (_, .ok snapshot) => snapshot
    | (_, .error _) => none

def skippedOf (outcomes : Outcomes) : List String :=
  outcomes.filterMap fun
    | (symbol, .ok none) => some symbol
    | (_, .ok (some _)) | (_, .error _) => none

def failuresOf (outcomes : Outcomes) : List (String × CollectError) :=
  outcomes.filterMap fun
    | (symbol, .error error) => some (symbol, error)
    | (_, .ok _) => none

def finished (stockUniverse : StockUniverse) (symbols : List String) (outcomes : Outcomes) :
    IndicatorJobResult :=
  let failures := failuresOf outcomes
  let failed := decide (0 < failures.length)
  let allFailed := failed && (successesOf outcomes).isEmpty
  { status :=
      if allFailed then .failed
      else if failed || decide (0 < (skippedOf outcomes).length) then .partially
      else .success
    reason := none
    universeName := job.universeName
    universeId := some stockUniverse.universeId
    lookbackDays := job.lookback
    batchSize := job.batch
    membersCount := symbols.length
    successes := successesOf outcomes
    skipped := skippedOf outcomes
    failures := failures
    errorMessage :=
      if allFailed then some "all technical indicator calculations failed"
      else if failed then some s!"{failures.length} technical indicator calculations failed"
      else none }

def calculateTechnicalIndicators (env : IndicatorEnvironment) :
    EStateM CollectError (UnitOfWork IndicatorStore) IndicatorJobResult := do
  match ← UnitOfWork.transact env.pendingRollback fun store =>
      .ok (universeNamed job.universeName store, store) with
  | none => return job.universeMissing
  | some stockUniverse =>
    let symbols ← UnitOfWork.transact env.pendingRollback fun store =>
      .ok (symbolsOf stockUniverse.universeId store, store)
    let outcomes ← UnitOfWork.attemptBatches (analyzeAndStore env job.lookback)
      (chunks symbols job.batch)
    return job.finished stockUniverse symbols outcomes

/-- `run_job`: a session that a refused flush has ended cannot be committed. -/
def step (env : IndicatorEnvironment) (commits : Bool) (store : IndicatorStore) : IndicatorStore :=
  match (job.calculateTechnicalIndicators env).run (.opened store) with
  | .ok _ s => if commits then s.stored else store
  | .error _ _ => store

end IndicatorJob

/-- What happens to the tables: a row of the collector, a change of the universes, or the job. -/
inductive IndicatorEvent where
  | price (bar : KisDailyPrice)
  | universes (named : List StockUniverse) (listed : List StockUniverseMember)
  | calculate (job : IndicatorJob) (commits : Bool)

def IndicatorEvent.step (env : IndicatorEnvironment) (event : IndicatorEvent) (store : IndicatorStore) :
    IndicatorStore :=
  match event with
  | .price bar => DailyPriceRepository.upsert bar store
  | .universes named listed => { store with universes := named, members := listed }
  | .calculate job commits => job.step env commits store

/-! ## What the analyzer makes of bars -/

section Analyzer

variable {bars : List KisDailyPrice} {snapshot : IndicatorSnapshot} {limit : Nat}

theorem analyzeLatest_eq_none_iff : TechnicalAnalyzer.analyzeLatest bars = none ↔ bars = [] := by
  rw [TechnicalAnalyzer.analyzeLatest, TechnicalAnalyzer.measureLatest, Option.map_eq_none_iff,
    Option.map_eq_none_iff, List.getLast?_eq_none_iff]
  have hLength : (byDate bars).length = bars.length := List.length_insertionSort ..
  rw [← List.length_eq_zero_iff, hLength, List.length_eq_zero_iff]

/-- A snapshot is that of a newest bar. -/
theorem exists_newest_of_analyzeLatest (h : TechnicalAnalyzer.analyzeLatest bars = some snapshot) :
    ∃ last ∈ bars, snapshot.symbol = last.symbol ∧ snapshot.date = last.date ∧
      ∀ bar ∈ bars, bar.date ≤ last.date := by
  rw [TechnicalAnalyzer.analyzeLatest, TechnicalAnalyzer.measureLatest, Option.map_map,
    Option.map_eq_some_iff] at h
  obtain ⟨last, hLast, rfl⟩ := h
  have hSorted : (byDate bars).Pairwise fun a b => a.date ≤ b.date := List.pairwise_insertionSort _ _
  obtain ⟨before, hSplit⟩ := List.getLast?_eq_some_iff.mp hLast
  have hMem : ∀ bar, bar ∈ bars ↔ bar ∈ before ++ [last] := by
    intro bar
    rw [← hSplit, byDate, List.mem_insertionSort]
  refine ⟨last, (hMem last).mpr (List.mem_append_right _ (List.mem_singleton_self _)), rfl, rfl, ?_⟩
  intro bar hBar
  rw [hSplit, List.pairwise_append] at hSorted
  rcases List.mem_append.mp ((hMem bar).mp hBar) with hOld | hOwn
  · exact hSorted.2.2 bar hOld last (List.mem_singleton_self _)
  · rw [List.mem_singleton.mp hOwn]

open Analysis.DailyPriceRepository

theorem mem_of_mem_newestBars {bar : KisDailyPrice} (h : bar ∈ newestBars limit bars) : bar ∈ bars := by
  rw [newestBars, List.mem_reverse] at h
  exact (List.mem_insertionSort _).mp (List.mem_of_mem_take h)

/-- A newest bar is among the newest ones, if any is. -/
theorem exists_newest_of_mem (hLimit : 0 < limit) {bar : KisDailyPrice} (h : bar ∈ bars) :
    ∃ top ∈ newestBars limit bars, ∀ other ∈ bars, other.date ≤ top.date := by
  cases hLatest : latest (·.date) bars with
  | none =>
    rw [latest_eq_none hLatest] at h
    cases h
  | some top =>
    refine ⟨top, ?_, dated_le_of_latest hLatest⟩
    rw [newestBars, List.mem_reverse]
    rw [latest] at hLatest
    obtain ⟨rest, hRest⟩ := List.head?_eq_some_iff.mp hLatest
    rw [hRest, ← Nat.succ_pred_eq_of_pos hLimit, List.take_succ_cons]
    exact List.mem_cons_self

end Analyzer

/-! ## One analysis -/

namespace TechnicalIndicatorService

variable {lookbackDays : Nat} {store : IndicatorStore} {symbol : String} {snapshot : IndicatorSnapshot}

theorem mem_barsOf {bar : KisDailyPrice} :
    bar ∈ DailyPriceRepository.barsOf symbol store ↔ bar ∈ store.dailyPrices ∧ bar.symbol = symbol := by
  rw [DailyPriceRepository.barsOf, List.mem_filter, beq_iff_eq]

/-- An analysis is one of a newest bar, under its key. -/
theorem newest_of_analysis (hLookback : 0 < lookbackDays)
    (h : analysis lookbackDays store symbol = some snapshot) : snapshot.symbol = symbol ∧
      ∃ last ∈ store.dailyPrices, indicatorKey snapshot = barKey last ∧
        ∀ bar ∈ store.dailyPrices, bar.symbol = symbol → bar.date ≤ snapshot.date := by
  obtain ⟨last, hLast, hSymbol, hDate, hNewest⟩ := exists_newest_of_analyzeLatest h
  obtain ⟨hMem, hOwn⟩ := mem_barsOf.mp (mem_of_mem_newestBars hLast)
  refine ⟨hSymbol.trans hOwn, last, hMem, ?_, ?_⟩
  · rw [indicatorKey, barKey, hSymbol, hDate]
  · intro bar hBar hBarSymbol
    obtain ⟨top, hTop, hAll⟩ := exists_newest_of_mem hLookback (mem_barsOf.mpr ⟨hBar, hBarSymbol⟩)
    rw [hDate]
    exact (hAll bar (mem_barsOf.mpr ⟨hBar, hBarSymbol⟩)).trans (hNewest top hTop)

theorem symbol_of_analysis (h : analysis lookbackDays store symbol = some snapshot) :
    snapshot.symbol = symbol := by
  obtain ⟨last, hLast, hSymbol, -⟩ := exists_newest_of_analyzeLatest h
  exact hSymbol.trans (mem_barsOf.mp (mem_of_mem_newestBars hLast)).2

theorem analysis_eq_none_iff (hLookback : 0 < lookbackDays) : analysis lookbackDays store symbol = none ↔
    ∀ bar ∈ store.dailyPrices, bar.symbol ≠ symbol := by
  rw [analysis, analyzeLatest_eq_none_iff]
  constructor
  · intro hNone bar hBar hSymbol
    obtain ⟨top, hTop, -⟩ := exists_newest_of_mem hLookback (mem_barsOf.mpr ⟨hBar, hSymbol⟩)
    rw [DailyPriceRepository.listBySymbol] at hNone
    rw [hNone] at hTop
    cases hTop
  · intro hApart
    rw [List.eq_nil_iff_forall_not_mem]
    intro bar hBar
    obtain ⟨hMem, hSymbol⟩ := mem_barsOf.mp (mem_of_mem_newestBars hBar)
    exact hApart bar hMem hSymbol

/-- An analysis reads the bars of its symbol alone. -/
theorem analysis_congr {store' : IndicatorStore}
    (h : DailyPriceRepository.barsOf symbol store' = DailyPriceRepository.barsOf symbol store) :
    analysis lookbackDays store' symbol = analysis lookbackDays store symbol := by
  rw [analysis, analysis, DailyPriceRepository.listBySymbol, DailyPriceRepository.listBySymbol, h]

end TechnicalIndicatorService

/-! ## One run of the job -/

namespace IndicatorJob

open TechnicalIndicatorService UnitOfWork

/-- What the upserts of a list of symbols leave if none is refused. -/
def refreshed (lookbackDays : Nat) (symbols : List String) (store : IndicatorStore) : IndicatorStore :=
  { store with
    stockIndicators := (symbols.filterMap (analysis lookbackDays store)).foldl
      (upsertBy indicatorKey) store.stockIndicators }

/-- No analysis of the symbols is refused by the database. -/
def Accepted (env : IndicatorEnvironment) (lookbackDays : Nat) (symbols : List String)
    (store : IndicatorStore) : Prop :=
  ∀ symbol ∈ symbols, ∀ snapshot, analysis lookbackDays store symbol = some snapshot →
    env.accepts snapshot = true

section Run

variable {env : IndicatorEnvironment} {lookbackDays : Nat} {symbols : List String} {symbol : String}
  {store view : IndicatorStore} {snapshot : IndicatorSnapshot}

theorem refreshed_cons_of_none (h : analysis lookbackDays view symbol = none) :
    refreshed lookbackDays (symbol :: symbols) view = refreshed lookbackDays symbols view := by
  rw [refreshed, refreshed, List.filterMap_cons_none h]

theorem refreshed_cons_of_some (h : analysis lookbackDays view symbol = some snapshot) :
    refreshed lookbackDays (symbol :: symbols) view =
      refreshed lookbackDays symbols (StockIndicatorRepository.upsert snapshot view) := by
  rw [refreshed, List.filterMap_cons_some h]
  rfl

theorem run_analyzeAndStore_none (h : analysis lookbackDays view symbol = none) :
    (analyzeAndStore env lookbackDays symbol).run ⟨store, some view⟩ = .ok none ⟨store, some view⟩ := by
  simp only [analyzeAndStore, transact, EStateM.run, h]

theorem run_analyzeAndStore_accepted (h : analysis lookbackDays view symbol = some snapshot)
    (hAccepts : env.accepts snapshot = true) :
    (analyzeAndStore env lookbackDays symbol).run ⟨store, some view⟩ =
      .ok (some snapshot) ⟨store, some (StockIndicatorRepository.upsert snapshot view)⟩ := by
  simp only [analyzeAndStore, transact, EStateM.run, h, hAccepts, if_true]

theorem run_analyzeAndStore_refused (h : analysis lookbackDays view symbol = some snapshot)
    (hRefused : env.accepts snapshot = false) :
    (analyzeAndStore env lookbackDays symbol).run ⟨store, some view⟩ =
      .error (env.refusal snapshot) ⟨store, none⟩ := by
  simp only [analyzeAndStore, transact, EStateM.run, h, hRefused, Bool.false_eq_true, if_false]

theorem attemptEach_of_accepted (h : Accepted env lookbackDays symbols view) :
    (attemptEach (analyzeAndStore env lookbackDays) symbols).run ⟨store, some view⟩ =
      .ok (symbols.map fun symbol => (symbol, .ok (analysis lookbackDays view symbol)))
        ⟨store, some (refreshed lookbackDays symbols view)⟩ := by
  induction symbols generalizing view with
  | nil => rfl
  | cons symbol symbols ih =>
    rw [Accepted, List.forall_mem_cons] at h
    cases hAnalysis : analysis lookbackDays view symbol with
    | none =>
      rw [refreshed_cons_of_none hAnalysis, List.map_cons, hAnalysis]
      exact run_attemptEach_cons (run_attempt_ok (run_analyzeAndStore_none hAnalysis)) (ih h.2)
    | some snapshot =>
      rw [refreshed_cons_of_some hAnalysis, List.map_cons, hAnalysis]
      have hRest : Accepted env lookbackDays symbols (StockIndicatorRepository.upsert snapshot view) :=
        h.2
      exact run_attemptEach_cons
        (run_attempt_ok (run_analyzeAndStore_accepted hAnalysis (h.1 snapshot hAnalysis))) (ih hRest)

theorem attemptEach_ended (symbols : List String) :
    (attemptEach (analyzeAndStore env lookbackDays) symbols).run ⟨store, none⟩ =
      .ok (symbols.map fun symbol => (symbol, .error env.pendingRollback)) ⟨store, none⟩ := by
  induction symbols with
  | nil => rfl
  | cons symbol symbols ih => exact run_attemptEach_cons (run_attempt_error rfl) ih

variable (store) in
/-- One refused row leaves nothing to commit. -/
theorem attemptEach_of_refused (h : ¬Accepted env lookbackDays symbols view) : ∃ outcomes,
    (attemptEach (analyzeAndStore env lookbackDays) symbols).run ⟨store, some view⟩ =
      .ok outcomes ⟨store, none⟩ := by
  induction symbols generalizing view with
  | nil => exact absurd (fun _ hMem => nomatch hMem) h
  | cons symbol symbols ih =>
    cases hAnalysis : analysis lookbackDays view symbol with
    | none =>
      have hRest : ¬Accepted env lookbackDays symbols view := by
        intro hRest
        refine h (List.forall_mem_cons.mpr ⟨?_, hRest⟩)
        intro snapshot hSome
        rw [hAnalysis] at hSome
        cases hSome
      obtain ⟨outcomes, hOutcomes⟩ := ih hRest
      exact ⟨_, run_attemptEach_cons (run_attempt_ok (run_analyzeAndStore_none hAnalysis)) hOutcomes⟩
    | some snapshot =>
      cases hAccepts : env.accepts snapshot with
      | false =>
        exact ⟨_, run_attemptEach_cons
          (run_attempt_error (run_analyzeAndStore_refused hAnalysis hAccepts)) (attemptEach_ended symbols)⟩
      | true =>
        have hRest : ¬Accepted env lookbackDays symbols (StockIndicatorRepository.upsert snapshot view) := by
          intro hRest
          refine h (List.forall_mem_cons.mpr ⟨?_, hRest⟩)
          intro other hSome
          rw [hAnalysis] at hSome
          cases hSome
          exact hAccepts
        obtain ⟨outcomes, hOutcomes⟩ := ih hRest
        exact ⟨_, run_attemptEach_cons
          (run_attempt_ok (run_analyzeAndStore_accepted hAnalysis hAccepts)) hOutcomes⟩

end Run

section Step

variable {env : IndicatorEnvironment} {job : IndicatorJob} {store : IndicatorStore}
  {stockUniverse : StockUniverse}

theorem lookback_pos : 0 < job.lookback := by
  rw [lookback]
  omega

theorem batch_pos : 0 < job.batch := by
  rw [batch]
  omega

theorem run_eq (hUniverse : universeNamed job.universeName store = some stockUniverse) :
    (job.calculateTechnicalIndicators env).run (.opened store) =
      (do
        let outcomes ← attemptEach (analyzeAndStore env job.lookback)
          (symbolsOf stockUniverse.universeId store)
        return job.finished stockUniverse (symbolsOf stockUniverse.universeId store) outcomes :
        EStateM CollectError (UnitOfWork IndicatorStore) IndicatorJobResult).run ⟨store, some store⟩ := by
  rw [calculateTechnicalIndicators]
  have hFind : (transact env.pendingRollback fun store =>
      .ok (universeNamed job.universeName store, store)).run (opened store) =
        .ok (some stockUniverse) ⟨store, some store⟩ := by
    simp only [transact, EStateM.run, opened, hUniverse]
  rw [run_bind_of_ok hFind]
  have hSymbols : (transact env.pendingRollback fun store =>
      .ok (symbolsOf stockUniverse.universeId store, store)).run ⟨store, some store⟩ =
        .ok (symbolsOf stockUniverse.universeId store) ⟨store, some store⟩ := rfl
  rw [run_bind_of_ok hSymbols, attemptBatches_eq, flatten_chunks batch_pos]

/-- Each member is analysed by what was there at the start, whatever the size of the batches. -/
theorem run_of_accepted (hUniverse : universeNamed job.universeName store = some stockUniverse)
    (h : Accepted env job.lookback (symbolsOf stockUniverse.universeId store) store) :
    (job.calculateTechnicalIndicators env).run (.opened store) =
      .ok (job.finished stockUniverse (symbolsOf stockUniverse.universeId store)
          ((symbolsOf stockUniverse.universeId store).map fun symbol =>
            (symbol, .ok (analysis job.lookback store symbol))))
        ⟨store, some (refreshed job.lookback (symbolsOf stockUniverse.universeId store) store)⟩ := by
  rw [run_eq hUniverse, run_bind_of_ok (attemptEach_of_accepted h)]
  rfl

/-- A run of the job stores all of it or nothing. -/
theorem step_cases (env : IndicatorEnvironment) (job : IndicatorJob) (commits : Bool)
    (store : IndicatorStore) : job.step env commits store = store ∨
      ∃ stockUniverse, universeNamed job.universeName store = some stockUniverse ∧
        job.step env commits store =
          refreshed job.lookback (symbolsOf stockUniverse.universeId store) store := by
  cases hUniverse : universeNamed job.universeName store with
  | none =>
    left
    have hRun : (job.calculateTechnicalIndicators env).run (.opened store) =
        .ok job.universeMissing ⟨store, some store⟩ := by
      have hFind : (transact env.pendingRollback fun store =>
          .ok (universeNamed job.universeName store, store)).run (opened store) =
            .ok none ⟨store, some store⟩ := by
        simp only [transact, EStateM.run, opened, hUniverse]
      rw [calculateTechnicalIndicators, run_bind_of_ok hFind]
      rfl
    rw [step, hRun]
    exact ite_self store
  | some stockUniverse =>
    by_cases hAccepted : Accepted env job.lookback (symbolsOf stockUniverse.universeId store) store
    · rw [step, run_of_accepted hUniverse hAccepted]
      cases commits with
      | false => exact .inl rfl
      | true => exact .inr ⟨stockUniverse, rfl, rfl⟩
    · left
      obtain ⟨outcomes, hOutcomes⟩ := attemptEach_of_refused store hAccepted
      rw [step, run_eq hUniverse, run_bind_of_ok hOutcomes]
      exact ite_self store

theorem step_of_accepted (hUniverse : universeNamed job.universeName store = some stockUniverse)
    (h : Accepted env job.lookback (symbolsOf stockUniverse.universeId store) store) :
    job.step env true store =
      refreshed job.lookback (symbolsOf stockUniverse.universeId store) store := by
  rw [step, run_of_accepted hUniverse h]
  rfl

end Step

end IndicatorJob

/-! ## Runs -/

/-- Bars and indicators are unique under their keys, and every indicator has its bar. -/
structure Mirrors (store : IndicatorStore) : Prop where
  bars : (store.dailyPrices.map barKey).Nodup
  rows : (store.stockIndicators.map indicatorKey).Nodup
  kept : ∀ row ∈ store.stockIndicators, ∃ bar ∈ store.dailyPrices, barKey bar = indicatorKey row

/-- The newest indicator of the symbol is what the analyzer makes of its newest bars. -/
def Current (lookbackDays : Nat) (symbol : String) (store : IndicatorStore) : Prop :=
  StockIndicatorRepository.getLatestBySymbol symbol store =
    TechnicalIndicatorService.analysis lookbackDays store symbol

/-- Each indicator is what the analyzer makes of the bars up to its date. -/
def Settled (lookbackDays : Nat) (store : IndicatorStore) : Prop :=
  ∀ row ∈ store.stockIndicators,
    TechnicalAnalyzer.analyzeLatest (DailyPriceRepository.newestBars lookbackDays
      (upTo (·.date) row.date (DailyPriceRepository.barsOf row.symbol store))) = some row

namespace IndicatorJob

open TechnicalIndicatorService

section Refreshed

variable {lookbackDays : Nat} {symbols : List String} {symbol : String} {store : IndicatorStore}
  {row snapshot : IndicatorSnapshot}

theorem mem_of_mem_refreshed (h : row ∈ (refreshed lookbackDays symbols store).stockIndicators) :
    (∃ symbol ∈ symbols, analysis lookbackDays store symbol = some row) ∨
      row ∈ store.stockIndicators :=
  (mem_of_mem_foldl_upsertBy h).imp_left List.mem_filterMap.mp

theorem mem_refreshed (hMem : symbol ∈ symbols)
    (h : analysis lookbackDays store symbol = some snapshot) :
    snapshot ∈ (refreshed lookbackDays symbols store).stockIndicators := by
  have hWrite : snapshot ∈ (symbols.filterMap (analysis lookbackDays store)).reverse :=
    List.mem_reverse.mpr (List.mem_filterMap.mpr ⟨symbol, hMem, h⟩)
  cases hFound : lookup indicatorKey (indicatorKey snapshot)
      (symbols.filterMap (analysis lookbackDays store)).reverse with
  | none => exact absurd (List.mem_map_of_mem hWrite) (lookup_eq_none.mp hFound)
  | some found =>
    -- Writes under one key are the analyses of one symbol.
    have hKey := hasKey_iff.mp (List.find?_some hFound)
    obtain ⟨other, -, hOther⟩ :=
      List.mem_filterMap.mp (List.mem_reverse.mp (List.mem_of_find?_eq_some hFound))
    have hSymbol : other = symbol := by
      rw [← symbol_of_analysis hOther, ← symbol_of_analysis h]
      exact congrArg Prod.fst hKey
    rw [hSymbol, h] at hOther
    have hLookup : lookup indicatorKey (indicatorKey snapshot)
        (refreshed lookbackDays symbols store).stockIndicators = some snapshot := by
      rw [refreshed, lookup_foldl_upsertBy, hFound, ← Option.some.inj hOther]
      rfl
    exact List.mem_of_find?_eq_some hLookup

theorem mirrors_refreshed (hLookback : 0 < lookbackDays) (h : Mirrors store) :
    Mirrors (refreshed lookbackDays symbols store) where
  bars := h.bars
  rows := nodup_foldl_upsertBy h.rows
  kept row hRow := by
    rcases mem_of_mem_refreshed hRow with ⟨symbol, -, hAnalysis⟩ | hOld
    · obtain ⟨-, last, hLast, hKey, -⟩ := newest_of_analysis hLookback hAnalysis
      exact ⟨last, hLast, hKey.symm⟩
    · exact h.kept row hOld

theorem latest_refreshed_of_mem (hLookback : 0 < lookbackDays) (h : Mirrors store)
    (hMem : symbol ∈ symbols) :
    StockIndicatorRepository.getLatestBySymbol symbol (refreshed lookbackDays symbols store) =
      analysis lookbackDays store symbol := by
  have hMirrors : Mirrors (refreshed lookbackDays symbols store) := mirrors_refreshed hLookback h
  cases hAnalysis : analysis lookbackDays store symbol with
  | none =>
    have hNoRow : (refreshed lookbackDays symbols store).stockIndicators.filter
        (fun row => row.symbol == symbol) = [] := by
      rw [List.filter_eq_nil_iff]
      intro row hRow hSymbol
      obtain ⟨bar, hBar, hKey⟩ := hMirrors.kept row hRow
      exact (analysis_eq_none_iff hLookback).mp hAnalysis bar hBar
        ((congrArg Prod.fst hKey).trans (beq_iff_eq.mp hSymbol))
    rw [StockIndicatorRepository.getLatestBySymbol, hNoRow]
    rfl
  | some snapshot =>
    obtain ⟨hSymbol, -, -, -, hNewest⟩ := newest_of_analysis hLookback hAnalysis
    have hOwn := mem_refreshed hMem hAnalysis
    refine latest_eq_some (List.mem_filter.mpr ⟨hOwn, beq_iff_eq.mpr hSymbol⟩) ?_
    intro other hOther hDifferent
    obtain ⟨hRow, hOtherSymbol⟩ := List.mem_filter.mp hOther
    rw [beq_iff_eq] at hOtherSymbol
    obtain ⟨bar, hBar, hKey⟩ := hMirrors.kept other hRow
    have hLe : other.date ≤ snapshot.date := by
      have hDate : bar.date = other.date := congrArg Prod.snd hKey
      rw [← hDate]
      exact hNewest bar hBar ((congrArg Prod.fst hKey).trans hOtherSymbol)
    refine lt_of_le_of_ne hLe fun hDate => hDifferent ?_
    refine List.inj_on_of_nodup_map hMirrors.rows hRow hOwn ?_
    rw [indicatorKey, indicatorKey, hOtherSymbol, hSymbol, hDate]

theorem latest_refreshed_of_not_mem (hMem : symbol ∉ symbols) :
    StockIndicatorRepository.getLatestBySymbol symbol (refreshed lookbackDays symbols store) =
      StockIndicatorRepository.getLatestBySymbol symbol store := by
  rw [StockIndicatorRepository.getLatestBySymbol, StockIndicatorRepository.getLatestBySymbol]
  refine congrArg _ (filter_foldl_upsertBy_of_apart fun write hWrite other hKey => ?_)
  obtain ⟨writer, hWriter, hAnalysis⟩ := List.mem_filterMap.mp hWrite
  rw [beq_eq_false_iff_ne]
  rintro rfl
  have hSymbol : other.symbol = write.symbol := congrArg Prod.fst hKey
  rw [hSymbol, symbol_of_analysis hAnalysis] at hMem
  exact hMem hWriter

theorem current_refreshed (hLookback : 0 < lookbackDays) (hMirrors : Mirrors store)
    (h : symbol ∈ symbols ∨ Current lookbackDays symbol store) :
    Current lookbackDays symbol (refreshed lookbackDays symbols store) := by
  by_cases hMem : symbol ∈ symbols
  · exact latest_refreshed_of_mem hLookback hMirrors hMem
  · exact (latest_refreshed_of_not_mem hMem).trans (h.resolve_left hMem)

theorem settled_refreshed (hLookback : 0 < lookbackDays) (h : Settled lookbackDays store) :
    Settled lookbackDays (refreshed lookbackDays symbols store) := by
  intro row hRow
  rcases mem_of_mem_refreshed hRow with ⟨symbol, -, hAnalysis⟩ | hOld
  · obtain ⟨rfl, -, -, -, hNewest⟩ := newest_of_analysis hLookback hAnalysis
    have hAll : upTo (·.date) row.date (DailyPriceRepository.barsOf row.symbol store) =
        DailyPriceRepository.barsOf row.symbol store := by
      rw [upTo, List.filter_eq_self]
      intro bar hBar
      obtain ⟨hMem, hSymbol⟩ := mem_barsOf.mp hBar
      exact decide_eq_true (hNewest bar hMem hSymbol)
    exact (congrArg _ (congrArg _ hAll)).trans hAnalysis
  · exact h row hOld

end Refreshed

end IndicatorJob

namespace IndicatorEvent

open TechnicalIndicatorService IndicatorJob

variable {env : IndicatorEnvironment} {lookbackDays : Nat} {symbol : String} {store : IndicatorStore}
  {bar : KisDailyPrice} {events before after : List IndicatorEvent}

/-- The event is no bar of the symbol, and no job of another lookback. -/
def Leaves (lookbackDays : Nat) (symbol : String) : IndicatorEvent → Prop
  | price bar => bar.symbol ≠ symbol
  | universes _ _ => True
  | calculate job _ => job.lookback = lookbackDays

/-- A bar is stored already or is newer than all of its symbol, and jobs share a lookback. -/
def Appends (lookbackDays : Nat) : IndicatorEvent → IndicatorStore → Prop
  | price bar, store => bar ∈ store.dailyPrices ∨
      ∀ other ∈ store.dailyPrices, other.symbol = bar.symbol → other.date < bar.date
  | universes _ _, _ => True
  | calculate job _, _ => job.lookback = lookbackDays

theorem mirrors_upsert (h : Mirrors store) : Mirrors (DailyPriceRepository.upsert bar store) where
  bars := nodup_upsertBy h.bars
  rows := h.rows
  kept row hRow := by
    obtain ⟨other, hOther, hKey⟩ := h.kept row hRow
    have hKeys : indicatorKey row ∈ (upsertBy barKey store.dailyPrices bar).map barKey :=
      mem_keys_upsertBy.mpr (.inr (hKey ▸ List.mem_map_of_mem hOther))
    obtain ⟨found, hFound, hFoundKey⟩ := List.mem_map.mp hKeys
    exact ⟨found, hFound, hFoundKey⟩

variable (env) in
theorem mirrors_step (event : IndicatorEvent) (h : Mirrors store) : Mirrors (event.step env store) := by
  cases event with
  | price bar => exact mirrors_upsert h
  | universes named listed => exact ⟨h.bars, h.rows, h.kept⟩
  | calculate job commits =>
    rcases step_cases env job commits store with hSame | ⟨stockUniverse, -, hNew⟩
    · rw [IndicatorEvent.step, hSame]
      exact h
    · rw [IndicatorEvent.step, hNew]
      exact mirrors_refreshed job.lookback_pos h

theorem barsOf_upsert_of_ne (h : bar.symbol ≠ symbol) :
    DailyPriceRepository.barsOf symbol (DailyPriceRepository.upsert bar store) =
      DailyPriceRepository.barsOf symbol store := by
  refine filter_upsertBy_of_apart fun other hKey => beq_eq_false_iff_ne.mpr ?_
  rw [show other.symbol = bar.symbol from congrArg Prod.fst hKey]
  exact h

variable (env) in
theorem current_step {event : IndicatorEvent} (hLeaves : event.Leaves lookbackDays symbol)
    (hMirrors : Mirrors store) (h : Current lookbackDays symbol store) :
    Current lookbackDays symbol (event.step env store) ∧
      analysis lookbackDays (event.step env store) symbol = analysis lookbackDays store symbol := by
  cases event with
  | price bar =>
    have hSame : analysis lookbackDays (DailyPriceRepository.upsert bar store) symbol =
        analysis lookbackDays store symbol := analysis_congr (barsOf_upsert_of_ne hLeaves)
    exact ⟨h.trans hSame.symm, hSame⟩
  | universes named listed => exact ⟨h, rfl⟩
  | calculate job commits =>
    obtain rfl : job.lookback = lookbackDays := hLeaves
    rcases step_cases env job commits store with hSame | ⟨stockUniverse, -, hNew⟩
    · rw [IndicatorEvent.step, hSame]
      exact ⟨h, rfl⟩
    · rw [IndicatorEvent.step, hNew]
      exact ⟨current_refreshed job.lookback_pos hMirrors (.inr h), rfl⟩

variable (env) in
theorem current_steps (hAfter : ∀ event ∈ after, event.Leaves lookbackDays symbol)
    (hMirrors : Mirrors store) (h : Current lookbackDays symbol store) :
    Current lookbackDays symbol (run (IndicatorEvent.step env) after store) ∧
      analysis lookbackDays (run (IndicatorEvent.step env) after store) symbol =
        analysis lookbackDays store symbol := by
  induction after generalizing store with
  | nil => exact ⟨h, rfl⟩
  | cons event after ih =>
    rw [List.forall_mem_cons] at hAfter
    obtain ⟨hFirst, hSame⟩ := current_step env hAfter.1 hMirrors h
    obtain ⟨hRest, hSames⟩ := ih hAfter.2 (mirrors_step env event hMirrors) hFirst
    exact ⟨hRest, hSames.trans hSame⟩

/-- A job that nothing refuses makes the newest indicators of its members current, and they stay
so until the next bar of the symbol. -/
theorem current_run {job : IndicatorJob} {stockUniverse : StockUniverse} (hStore : Mirrors store)
    (hUniverse : universeNamed job.universeName (run (IndicatorEvent.step env) before store) =
      some stockUniverse)
    (hAccepted : IndicatorJob.Accepted env job.lookback (symbolsOf stockUniverse.universeId
      (run (IndicatorEvent.step env) before store)) (run (IndicatorEvent.step env) before store))
    (hMember : symbol ∈ symbolsOf stockUniverse.universeId
      (run (IndicatorEvent.step env) before store))
    (hAfter : ∀ event ∈ after, event.Leaves job.lookback symbol) :
    Current job.lookback symbol
        (run (IndicatorEvent.step env) (before ++ calculate job true :: after) store) ∧
      StockIndicatorRepository.getLatestBySymbol symbol
          (run (IndicatorEvent.step env) (before ++ calculate job true :: after) store) =
        analysis job.lookback (run (IndicatorEvent.step env) before store) symbol := by
  have hMirrors : Mirrors (run (IndicatorEvent.step env) before store) :=
    run_invariant Mirrors (fun event _ => mirrors_step env event) before hStore
  rw [run_append, run]
  have hJob : Current job.lookback symbol
      ((calculate job true).step env (run (IndicatorEvent.step env) before store)) := by
    rw [IndicatorEvent.step, step_of_accepted hUniverse hAccepted]
    exact current_refreshed job.lookback_pos hMirrors (.inl hMember)
  obtain ⟨hCurrent, hSame⟩ :=
    current_steps env hAfter (mirrors_step env (calculate job true) hMirrors) hJob
  refine ⟨hCurrent, hCurrent.trans (hSame.trans ?_)⟩
  rw [IndicatorEvent.step, step_of_accepted hUniverse hAccepted]
  rfl

theorem upTo_barsOf_upsert {date : Int} (hBars : (store.dailyPrices.map barKey).Nodup)
    (hAppends : (price bar).Appends lookbackDays store)
    (hDate : ∃ other ∈ store.dailyPrices, barKey other = (symbol, date)) :
    upTo (·.date) date (DailyPriceRepository.barsOf symbol
        (DailyPriceRepository.upsert bar store)) =
      upTo (·.date) date (DailyPriceRepository.barsOf symbol store) := by
  rcases hAppends with hStored | hNewer
  · have hSame : upsertBy barKey store.dailyPrices bar = store.dailyPrices := by
      refine upsertBy_eq_self (List.mem_map_of_mem hStored) fun other hOther hKey => ?_
      exact List.inj_on_of_nodup_map hBars hOther hStored hKey
    rw [DailyPriceRepository.upsert, hSame]
  · by_cases hSymbol : bar.symbol = symbol
    · obtain ⟨other, hOther, hKey⟩ := hDate
      have hLater : date < bar.date := by
        rw [← show other.date = date from congrArg Prod.snd hKey]
        exact hNewer other hOther ((congrArg Prod.fst hKey).trans hSymbol.symm)
      rw [DailyPriceRepository.barsOf, DailyPriceRepository.barsOf, upTo_filter, upTo_filter]
      refine congrArg _ (filter_upsertBy_of_apart fun row hRow => ?_)
      have hSameDate : row.date = bar.date := congrArg Prod.snd hRow
      exact decide_eq_false (not_le_of_gt (hLater.trans_eq hSameDate.symm))
    · rw [barsOf_upsert_of_ne hSymbol]

theorem settled_step {event : IndicatorEvent} (hAppends : event.Appends lookbackDays store)
    (hMirrors : Mirrors store) (h : Settled lookbackDays store) :
    Settled lookbackDays (event.step env store) := by
  cases event with
  | price bar =>
    intro row hRow
    rw [IndicatorEvent.step, upTo_barsOf_upsert hMirrors.bars hAppends (hMirrors.kept row hRow)]
    exact h row hRow
  | universes named listed => exact h
  | calculate job commits =>
    obtain rfl : job.lookback = lookbackDays := hAppends
    rcases step_cases env job commits store with hSame | ⟨stockUniverse, -, hNew⟩
    · rw [IndicatorEvent.step, hSame]
      exact h
    · rw [IndicatorEvent.step, hNew]
      exact settled_refreshed job.lookback_pos h

def acceptsAll : IndicatorEnvironment := ⟨fun _ => true, fun _ => ⟨"", ""⟩, ⟨"", ""⟩⟩

def kospi : IndicatorStore := ⟨[⟨1, "KOSPI_TOP_500"⟩], [⟨1, "005930"⟩], [], []⟩

def dayOf (symbol : String) (date : Int) : KisDailyPrice := ⟨⟨symbol, date, 70, 72, 69, 71⟩, 1000⟩

def topJob : IndicatorJob := ⟨"KOSPI_TOP_500", 250, 50⟩

theorem kospi_mirrors : Mirrors kospi :=
  ⟨List.nodup_nil, List.nodup_nil, fun _ hRow => nomatch hRow⟩

theorem current_run_kospi :
    Current topJob.lookback "005930" (run (step acceptsAll) ([price (dayOf "005930" 1),
        price (dayOf "005930" 2)] ++ calculate topJob true :: [price (dayOf "000660" 3)]) kospi) ∧
      StockIndicatorRepository.getLatestBySymbol "005930" (run (step acceptsAll)
          ([price (dayOf "005930" 1), price (dayOf "005930" 2)] ++
            calculate topJob true :: [price (dayOf "000660" 3)]) kospi) =
        analysis topJob.lookback (run (step acceptsAll) [price (dayOf "005930" 1),
          price (dayOf "005930" 2)] kospi) "005930" := by
  have hUniverse : universeNamed topJob.universeName (run (step acceptsAll)
      [price (dayOf "005930" 1), price (dayOf "005930" 2)] kospi) = some ⟨1, "KOSPI_TOP_500"⟩ := rfl
  refine current_run kospi_mirrors hUniverse (fun _ _ _ _ => rfl) (List.mem_singleton.mpr rfl) ?_
  intro event hEvent
  rw [List.mem_singleton.mp hEvent]
  exact (by decide : "000660" ≠ "005930")

/-- Where no bar is written behind a newer one, each indicator stays what the analyzer makes of the
bars up to its date, whichever jobs stored it. -/
theorem settled_run (hStore : Mirrors store) (hSettled : Settled lookbackDays store)
    (hEvents : Along (IndicatorEvent.step env) (Appends lookbackDays) events store) :
    Settled lookbackDays (run (IndicatorEvent.step env) events store) := by
  have hBoth := hEvents.invariant (fun store => Mirrors store ∧ Settled lookbackDays store)
    (fun event _ hAppends h => ⟨mirrors_step env event h.1, settled_step hAppends h.1 h.2⟩)
    ⟨hStore, hSettled⟩
  exact hBoth.2

theorem settled_run_kospi :
    Settled topJob.lookback (run (step acceptsAll) [price (dayOf "005930" 1), calculate topJob true,
      price (dayOf "005930" 2), price (dayOf "005930" 2), calculate topJob true] kospi) := by
  refine settled_run kospi_mirrors (fun _ hRow => nomatch hRow)
    ⟨.inr fun _ hRow => (nomatch hRow), rfl, .inr ?_, .inl ?_, rfl, trivial⟩
  · intro other hOther _
    rw [List.mem_singleton.mp hOther]
    exact (by decide : (1 : Int) < 2)
  · exact List.mem_cons_of_mem _ (List.mem_singleton.mpr rfl)

end IndicatorEvent

end StockAiPlatform.Analysis
