import StockAiPlatform.Decision.HoldingCheckEngine
import StockAiPlatform.Decision.RecommendationEngine

/-! # Decisions and later rows

Two databases that agree up to a date lead to the same recommendations and the
same checks for it, where no look-up finds a later row. The bounded look-ups
never do; those of the newest row do once a later row of the symbol is stored.
-/

namespace StockAiPlatform.Decision
set_option autoImplicit false

open Transaction Python

/-- The databases hold the same stocks, universes and holdings, and the same rows dated on or before
the date. Later rows, and what earlier runs stored, may differ. -/
structure AgreeUpTo (d : Date) (db db' : Database) : Prop where
  stocks : db.stocks = db'.stocks
  universes : db.universes = db'.universes
  members : db.members = db'.members
  holdings : db.holdings = db'.holdings
  indicators : upTo StockIndicator.date d db.indicators = upTo StockIndicator.date d db'.indicators
  dailyPrices : upTo DailyPrice.date d db.dailyPrices = upTo DailyPrice.date d db'.dailyPrices
  consensusSnapshots : upTo ReportConsensusSnapshot.snapshotDate d db.consensusSnapshots =
    upTo ReportConsensusSnapshot.snapshotDate d db'.consensusSnapshots
  themeMappings : upTo ThemeStockMapping.publishedAt d db.themeMappings =
    upTo ThemeStockMapping.publishedAt d db'.themeMappings
  signalEvents : upTo ReportSignalEvent.publishedAt d db.signalEvents =
    upTo ReportSignalEvent.publishedAt d db'.signalEvents
  holdingChecks : upTo HoldingCheck.checkDate d db.holdingChecks =
    upTo HoldingCheck.checkDate d db'.holdingChecks

/-- No report row that is looked up for a symbol is dated after the date. -/
structure ReportsNotLater (d : Date) (symbol : String) (db : Database) : Prop where
  consensus : ∀ row, ReportConsensusSnapshotRepository.getLatestBySymbol symbol db = some row →
    row.snapshotDate ≤ d
  mappings : ∀ row ∈ ThemeStockMappingRepository.listBySymbol symbol db, row.publishedAt ≤ d
  events : ∀ row ∈ ReportSignalEventRepository.listBySymbol symbol db, row.publishedAt ≤ d

namespace RecommendationEngine

variable {engine : RecommendationEngine} {d : Date} {db db' : Database}

/-- What the engine looks up for the members of the universe is not dated after the date. -/
def ReadsNoLater (engine : RecommendationEngine) (d : Date) (universeName : String)
    (db : Database) : Prop :=
  ∀ member ∈ membersOf universeName db, ∀ stock,
    StockRepository.getBySymbol member.symbol db = some stock → ∀ indicator,
      StockIndicatorRepository.getLatestBySymbol member.symbol db = some indicator →
        indicator.date ≤ d ∧ (engine.readsReports = true → ReportsNotLater d stock.symbol db)

theorem membersOf_congr (h : AgreeUpTo d db db') (universeName : String) :
    membersOf universeName db = membersOf universeName db' := by
  simp only [membersOf, StockUniverseRepository.getByName,
    StockUniverseMemberRepository.listByUniverse, h.universes, h.members]

theorem getLatestOnOrBefore_congr (h : AgreeUpTo d db db') (symbol : String) :
    DailyPriceRepository.getLatestOnOrBefore symbol d db =
      DailyPriceRepository.getLatestOnOrBefore symbol d db' := by
  refine congrArg (latest DailyPrice.date) (filter_congr_of_upTo h.dailyPrices fun bar hBar => ?_)
  simp only [DailyPriceRepository.inLookback, Bool.and_eq_true, decide_eq_true_eq] at hBar
  exact hBar.1.2

theorem reportScores_congr (h : AgreeUpTo d db db') {symbol : String}
    (hDb : engine.readsReports = true → ReportsNotLater d symbol db)
    (hDb' : engine.readsReports = true → ReportsNotLater d symbol db') (baseTotalScore : ℚ) :
    engine.calculateReportIntelligenceScores symbol d baseTotalScore db =
      engine.calculateReportIntelligenceScores symbol d baseTotalScore db' := by
  simp only [calculateReportIntelligenceScores]
  split
  · rename_i hReads
    have hConsensus : ReportConsensusSnapshotRepository.getLatestBySymbol symbol db =
        ReportConsensusSnapshotRepository.getLatestBySymbol symbol db' :=
      latest_congr h.consensusSnapshots (hDb hReads).consensus (hDb' hReads).consensus
    have hMappings : ThemeStockMappingRepository.listBySymbol symbol db =
        ThemeStockMappingRepository.listBySymbol symbol db' :=
      newest_congr h.themeMappings (hDb hReads).mappings (hDb' hReads).mappings
    have hEvents : ReportSignalEventRepository.listBySymbol symbol db =
        ReportSignalEventRepository.listBySymbol symbol db' :=
      newest_congr h.signalEvents (hDb hReads).events (hDb' hReads).events
    rw [getLatestOnOrBefore_congr h symbol, hConsensus, hMappings, hEvents]
  · rfl

theorem evaluate_congr (h : AgreeUpTo d db db') {universeName : String}
    (hDb : engine.ReadsNoLater d universeName db) (hDb' : engine.ReadsNoLater d universeName db')
    {member : StockUniverseMember} (hMember : member ∈ membersOf universeName db) :
    engine.evaluate d db member = engine.evaluate d db' member := by
  have hMember' : member ∈ membersOf universeName db' := membersOf_congr h universeName ▸ hMember
  have hStock : StockRepository.getBySymbol member.symbol db =
      StockRepository.getBySymbol member.symbol db' := by
    simp only [StockRepository.getBySymbol, h.stocks]
  rw [evaluate, evaluate, ← hStock]
  cases hFound : StockRepository.getBySymbol member.symbol db with
  | none => rfl
  | some stock =>
    have hReads := hDb member hMember stock hFound
    have hReads' := hDb' member hMember' stock (hStock ▸ hFound)
    have hIndicator : StockIndicatorRepository.getLatestBySymbol member.symbol db =
        StockIndicatorRepository.getLatestBySymbol member.symbol db' :=
      latest_congr h.indicators (fun row hRow => (hReads row hRow).1)
        fun row hRow => (hReads' row hRow).1
    rw [← hIndicator]
    cases hLatest : StockIndicatorRepository.getLatestBySymbol member.symbol db with
    | none => rfl
    | some indicator =>
      have hScores := reportScores_congr h (hReads indicator hLatest).2
        (hReads' indicator (hIndicator ▸ hLatest)).2
      simp only [candidateOf, hScores]

/-- The surrogate keys are the only columns that depend on what else is stored. -/
def content (row : Recommendation) : Recommendation := { row with runId := 0, snapshotId := 0 }

def logContent (row : ReportScoreLog) : ReportScoreLog := { row with recommendationRunId := 0 }

def runContent (run : RecommendationRun) : RecommendationRun := { run with runId := 0 }

/-- What a run adds for ranked candidates, without the surrogate keys. -/
def rankedRows : Nat → List Candidate → List Recommendation
  | _, [] => []
  | rank, candidate :: rest => recommendationOf 0 rank 0 candidate :: rankedRows (rank + 1) rest

def scoreRows (engine : RecommendationEngine) (runDate : Date) (candidates : List Candidate) :
    List ReportScoreLog :=
  if engine.logsReportScores then candidates.map (reportScoreLogOf 0 runDate) else []

theorem persistFrom_rows (runId : Nat) (runDate : Date) (rank : Nat) (candidates : List Candidate)
    (db : Database) : ∃ added logs,
      (engine.persistFrom runId runDate rank candidates db).recommendations =
        db.recommendations ++ added ∧
      (engine.persistFrom runId runDate rank candidates db).reportScoreLogs =
        db.reportScoreLogs ++ logs ∧
      added.map content = rankedRows rank candidates ∧
      logs.map logContent = engine.scoreRows runDate candidates := by
  induction candidates generalizing rank db with
  | nil =>
    refine ⟨[], [], (List.append_nil _).symm, (List.append_nil _).symm, rfl, ?_⟩
    simp [scoreRows]
  | cons candidate rest ih =>
    obtain ⟨added, logs, hAdded, hLogs, hContent, hLogContent⟩ :=
      ih (rank + 1) (engine.persistCandidate runId runDate rank candidate db)
    rw [persistFrom, hAdded, hLogs]
    refine ⟨_ :: added, _ ++ logs, (List.append_assoc _ _ _).trans rfl, List.append_assoc _ _ _,
      ?_, ?_⟩
    · rw [List.map_cons, hContent]
      rfl
    · rw [List.map_append, hLogContent]
      simp only [scoreRows]
      split
      · rfl
      · rfl

def addedRows {α : Type} (before after : List α) : List α := after.drop before.length

/-- Both runs end alike and store the same ranked recommendations and report scores. -/
def RecommendsAlike (engine : RecommendationEngine) (d : Date) (universeName : String) (topN : Int)
    (db db' : Database) : Prop :=
  let after := engine.generate d universeName topN db
  let after' := engine.generate d universeName topN db'
  runContent after.1 = runContent after'.1 ∧
    (addedRows db.recommendations after.2.recommendations).map content =
      (addedRows db'.recommendations after'.2.recommendations).map content ∧
    (addedRows db.reportScoreLogs after.2.reportScoreLogs).map logContent =
      (addedRows db'.reportScoreLogs after'.2.reportScoreLogs).map logContent

theorem generate_rows (engine : RecommendationEngine) (d : Date) (db : Database)
    (universeName : String) (topN : Int) :
    let top := (ranked (candidates ((membersOf universeName db).map (engine.evaluate d db)))).take
      topN.toNat
    (addedRows db.recommendations (engine.generate d universeName topN db).2.recommendations).map
        content = rankedRows 1 top ∧
      (addedRows db.reportScoreLogs (engine.generate d universeName topN db).2.reportScoreLogs).map
        logContent = engine.scoreRows d top := by
  intro top
  obtain ⟨added, logs, hAdded, hLogs, hContent, hLogContent⟩ :=
    engine.persistFrom_rows (nextId (db.recommendationRuns.map RecommendationRun.runId)) d 1 top
      { db with recommendationRuns :=
          db.recommendationRuns ++ [(engine.generate d universeName topN db).1] }
  constructor
  · rw [← hContent]
    exact congrArg (List.map content)
      ((congrArg (addedRows db.recommendations) hAdded).trans (List.drop_left))
  · rw [← hLogContent]
    exact congrArg (List.map logContent)
      ((congrArg (addedRows db.reportScoreLogs) hLogs).trans (List.drop_left))

theorem recommendsAlike_of_readsNoLater (h : AgreeUpTo d db db') {universeName : String}
    (hDb : engine.ReadsNoLater d universeName db) (hDb' : engine.ReadsNoLater d universeName db')
    (topN : Int) : engine.RecommendsAlike d universeName topN db db' := by
  have hMembers := membersOf_congr h universeName
  have hEvaluations : (membersOf universeName db').map (engine.evaluate d db) =
      (membersOf universeName db').map (engine.evaluate d db') := by
    rw [← hMembers]
    exact List.map_congr_left fun member hMember => evaluate_congr h hDb hDb' hMember
  obtain ⟨hRows, hLogs⟩ := engine.generate_rows d db universeName topN
  obtain ⟨hRows', hLogs'⟩ := engine.generate_rows d db' universeName topN
  refine ⟨?_, ?_, ?_⟩
  · simp only [generate, runContent, StockUniverseRepository.getByName, h.universes, hMembers,
      hEvaluations]
  · rw [hRows, hRows', hMembers, hEvaluations]
  · rw [hLogs, hLogs', hMembers, hEvaluations]

end RecommendationEngine

namespace HoldingCheckRepository

/-- A check without the key of its snapshot. -/
def content (check : HoldingCheck) : HoldingCheck := { check with snapshotId := none }

variable {d : Date} {symbol : String} {checkType : CheckType} {check : HoldingCheck}
  {checks : List HoldingCheck}

theorem isEarlier_content (row : HoldingCheck) :
    isEarlier symbol d checkType (content row) = isEarlier symbol d checkType row := rfl

theorem date_le_of_isEarlier {row : HoldingCheck} (h : isEarlier symbol d checkType row = true) :
    row.checkDate ≤ d := by
  simp only [isEarlier, Bool.and_eq_true, decide_eq_true_eq] at h
  have hRank : toLex (row.checkDate, typeOrder row.checkType) < toLex (d, typeOrder checkType) := h.2
  rcases Prod.Lex.toLex_lt_toLex.mp hRank with hLt | ⟨hSame, -⟩
  · exact le_of_lt hLt
  · exact le_of_eq hSame

/-- The previous check is found among the checks up to the date, whatever their snapshots. -/
theorem content_findPrevious : (findPreviousForSymbol symbol d checkType checks).map content =
    findPreviousForSymbol symbol d checkType
      ((upTo HoldingCheck.checkDate d checks).map content) := by
  have hFilter : ((upTo HoldingCheck.checkDate d checks).map content).filter
      (isEarlier symbol d checkType) = (checks.filter (isEarlier symbol d checkType)).map content := by
    rw [List.filter_map]
    refine congrArg (List.map content) ?_
    rw [upTo, List.filter_filter]
    apply List.filter_congr
    intro row _
    simp only [Function.comp_apply, isEarlier_content]
    cases hRow : isEarlier symbol d checkType row with
    | true => rw [decide_eq_true (date_le_of_isEarlier hRow)]; rfl
    | false => rfl
  rw [findPreviousForSymbol, findPreviousForSymbol, hFilter, ← List.getLast?_map]
  congr 1
  exact List.map_insertionSort _ _ content _ fun _ _ _ _ => Iff.rfl

theorem totalScore_findPrevious_congr {checks' : List HoldingCheck}
    (h : (upTo HoldingCheck.checkDate d checks).map content =
      (upTo HoldingCheck.checkDate d checks').map content) :
    (findPreviousForSymbol symbol d checkType checks).bind HoldingCheck.totalScore =
      (findPreviousForSymbol symbol d checkType checks').bind HoldingCheck.totalScore := by
  have hContent : ∀ found : Option HoldingCheck,
      found.bind HoldingCheck.totalScore = (found.map content).bind HoldingCheck.totalScore := by
    intro found
    cases found <;> rfl
  rw [hContent, hContent (findPreviousForSymbol symbol d checkType checks'), content_findPrevious,
    content_findPrevious, h]

theorem sameKey_content (row : HoldingCheck) :
    sameKey (content check) (content row) = sameKey check row := rfl

theorem date_eq_of_sameKey {row : HoldingCheck} (h : sameKey check row = true) :
    row.checkDate = check.checkDate := congrArg Prod.fst (sameKey_iff.mp h)

theorem map_updateWhere_content : (updateWhere (sameKey check) (fun _ => check) checks).map content =
    updateWhere (sameKey (content check)) (fun _ => content check) (checks.map content) := by
  rw [updateWhere, updateWhere, List.map_map, List.map_map]
  apply List.map_congr_left
  intro row _
  simp only [Function.comp_apply, sameKey_content]
  exact apply_ite content _ _ _

/-- Writing a check of the date acts on the checks up to the date alone. -/
theorem upTo_upsert (hDate : check.checkDate ≤ d) :
    (upTo HoldingCheck.checkDate d (upsert check checks)).map content =
      upsert (content check) ((upTo HoldingCheck.checkDate d checks).map content) := by
  have hAny : ((upTo HoldingCheck.checkDate d checks).map content).any (sameKey (content check)) =
      checks.any (sameKey check) := by
    rw [List.any_map, Bool.eq_iff_iff, List.any_eq_true, List.any_eq_true]
    constructor
    · rintro ⟨row, hRow, hSame⟩
      exact ⟨row, List.mem_of_mem_filter hRow, hSame⟩
    · rintro ⟨row, hRow, hSame⟩
      refine ⟨row, List.mem_filter.mpr ⟨hRow, ?_⟩, hSame⟩
      rw [date_eq_of_sameKey hSame]
      exact decide_eq_true hDate
  rw [upsert, upsert, hAny]
  split
  · rw [← map_updateWhere_content, upTo, filter_updateWhere]
    · rfl
    · intro row hSame
      rw [date_eq_of_sameKey hSame]
  · rw [upTo, List.filter_append, List.filter_cons_of_pos (by exact decide_eq_true hDate),
      List.filter_nil, List.map_append]
    rfl

end HoldingCheckRepository

namespace HoldingCheckEngine

variable {engine : HoldingCheckEngine} {d : Date} {checkType : CheckType} {db db' : Database}

/-- What the engine looks up for the active holdings is not dated after the date. -/
def ReadsNoLater (d : Date) (db : Database) : Prop :=
  ∀ holding ∈ HoldingRepository.listActive db, ∀ price,
    DailyPriceRepository.getLatestBySymbol holding.symbol db = some price → price.date ≤ d ∧
      ∀ indicator, StockIndicatorRepository.getLatestBySymbol holding.symbol db = some indicator →
        indicator.date ≤ d

/-- The checks up to a date, without the keys of their snapshots. -/
def checksUpTo (d : Date) (db : Database) : List HoldingCheck :=
  (upTo HoldingCheck.checkDate d db.holdingChecks).map HoldingCheckRepository.content

/-- The runs end alike, and afterwards the checks up to the date are the same. -/
def ChecksAlike (engine : HoldingCheckEngine) (d : Date) (checkType : String)
    (db db' : Database) : Prop :=
  (engine.run d checkType db).map (fun after => (after.1, checksUpTo d after.2)) =
    (engine.run d checkType db').map fun after => (after.1, checksUpTo d after.2)

/-- The look-ups for a holding find the same price and, where there is one, the same indicator. -/
def SameLookups (holding : Holding) (db db' : Database) : Prop :=
  DailyPriceRepository.getLatestBySymbol holding.symbol db =
      DailyPriceRepository.getLatestBySymbol holding.symbol db' ∧
    (DailyPriceRepository.getLatestBySymbol holding.symbol db ≠ none →
      StockIndicatorRepository.getLatestBySymbol holding.symbol db =
        StockIndicatorRepository.getLatestBySymbol holding.symbol db')

theorem sameLookups_of_readsNoLater (h : AgreeUpTo d db db') (hDb : ReadsNoLater d db)
    (hDb' : ReadsNoLater d db') {holding : Holding}
    (hHolding : holding ∈ HoldingRepository.listActive db) : SameLookups holding db db' := by
  have hHolding' : holding ∈ HoldingRepository.listActive db' := by
    rw [HoldingRepository.listActive, ← h.holdings]
    exact hHolding
  have hPrice : DailyPriceRepository.getLatestBySymbol holding.symbol db =
      DailyPriceRepository.getLatestBySymbol holding.symbol db' :=
    latest_congr h.dailyPrices (fun price hFound => (hDb holding hHolding price hFound).1)
      fun price hFound => (hDb' holding hHolding' price hFound).1
  refine ⟨hPrice, fun hSome => ?_⟩
  obtain ⟨price, hFound⟩ := Option.ne_none_iff_exists'.mp hSome
  exact latest_congr h.indicators (hDb holding hHolding price hFound).2
    (hDb' holding hHolding' price (hPrice ▸ hFound)).2

theorem checksUpTo_persist {assessed : Assessed} (hDate : assessed.check.checkDate = d) :
    checksUpTo d (persist assessed db) =
      HoldingCheckRepository.upsert (HoldingCheckRepository.content assessed.check)
        (checksUpTo d db) :=
  HoldingCheckRepository.upTo_upsert (le_of_eq hDate)

theorem checksUpTo_persist_congr {assessed : Assessed} (hDate : assessed.check.checkDate = d)
    (hChecks : checksUpTo d db = checksUpTo d db') :
    checksUpTo d (persist assessed db) = checksUpTo d (persist assessed db') := by
  rw [checksUpTo_persist hDate, checksUpTo_persist hDate, hChecks]

theorem previousTotalScore_congr (hChecks : checksUpTo d db = checksUpTo d db') (symbol : String) :
    previousTotalScore symbol d checkType db = previousTotalScore symbol d checkType db' :=
  HoldingCheckRepository.totalScore_findPrevious_congr hChecks

/-- A step counts and stores alike where its look-ups find the same. -/
theorem checkHolding_congr (engine : HoldingCheckEngine) (checkType : CheckType)
    (result : HoldingCheckResult) {holding : Holding}
    (hLookups : SameLookups holding db db') (hChecks : checksUpTo d db = checksUpTo d db') :
    (engine.checkHolding d checkType (result, db) holding).1 =
        (engine.checkHolding d checkType (result, db') holding).1 ∧
      checksUpTo d (engine.checkHolding d checkType (result, db) holding).2 =
        checksUpTo d (engine.checkHolding d checkType (result, db') holding).2 := by
  obtain ⟨hPrice, hIndicator⟩ := hLookups
  simp only [checkHolding, ← hPrice]
  cases hFound : DailyPriceRepository.getLatestBySymbol holding.symbol db with
  | none => exact ⟨rfl, hChecks⟩
  | some price =>
    rw [hFound] at hIndicator
    rw [← hIndicator (Option.some_ne_none price)]
    cases hLatest : StockIndicatorRepository.getLatestBySymbol holding.symbol db with
    | none => exact ⟨rfl, hChecks⟩
    | some indicator =>
      rw [← previousTotalScore_congr hChecks holding.symbol]
      exact ⟨rfl, checksUpTo_persist_congr rfl hChecks⟩

/-- A check changes no row that a later holding is looked up in. -/
theorem tables_checkHolding (engine : HoldingCheckEngine) (d : Date) (checkType : CheckType)
    (state : HoldingCheckResult × Database) (holding : Holding) :
    (engine.checkHolding d checkType state holding).2.dailyPrices = state.2.dailyPrices ∧
      (engine.checkHolding d checkType state holding).2.indicators = state.2.indicators := by
  obtain ⟨result, db⟩ := state
  simp only [checkHolding]
  split
  · exact ⟨rfl, rfl⟩
  · split
    · exact ⟨rfl, rfl⟩
    · exact ⟨rfl, rfl⟩

theorem SameLookups.of_tables {holding : Holding} {next next' : Database}
    (h : SameLookups holding db db') (hPrices : next.dailyPrices = db.dailyPrices)
    (hIndicators : next.indicators = db.indicators) (hPrices' : next'.dailyPrices = db'.dailyPrices)
    (hIndicators' : next'.indicators = db'.indicators) : SameLookups holding next next' := by
  simp only [SameLookups, DailyPriceRepository.getLatestBySymbol,
    StockIndicatorRepository.getLatestBySymbol, hPrices, hIndicators, hPrices', hIndicators']
  exact h

theorem foldl_checkHolding_congr (engine : HoldingCheckEngine) (checkType : CheckType)
    (result : HoldingCheckResult) {holdings : List Holding}
    (hLookups : ∀ holding ∈ holdings, SameLookups holding db db')
    (hChecks : checksUpTo d db = checksUpTo d db') :
    (holdings.foldl (engine.checkHolding d checkType) (result, db)).1 =
        (holdings.foldl (engine.checkHolding d checkType) (result, db')).1 ∧
      checksUpTo d (holdings.foldl (engine.checkHolding d checkType) (result, db)).2 =
        checksUpTo d (holdings.foldl (engine.checkHolding d checkType) (result, db')).2 := by
  induction holdings generalizing result db db' with
  | nil => exact ⟨rfl, hChecks⟩
  | cons holding holdings ih =>
    rw [List.forall_mem_cons] at hLookups
    obtain ⟨hResult, hStored⟩ :=
      engine.checkHolding_congr checkType result hLookups.1 hChecks
    obtain ⟨hPrices, hIndicators⟩ := engine.tables_checkHolding d checkType (result, db) holding
    obtain ⟨hPrices', hIndicators'⟩ := engine.tables_checkHolding d checkType (result, db') holding
    have hRest := ih (engine.checkHolding d checkType (result, db) holding).1
      (fun other hOther => (hLookups.2 other hOther).of_tables hPrices hIndicators hPrices'
        hIndicators') hStored
    rw [List.foldl_cons, List.foldl_cons]
    have hNext : engine.checkHolding d checkType (result, db') holding =
        ((engine.checkHolding d checkType (result, db) holding).1,
          (engine.checkHolding d checkType (result, db') holding).2) := Prod.ext hResult.symm rfl
    rw [hNext]
    exact hRest

theorem checksAlike_of_readsNoLater (h : AgreeUpTo d db db') (hDb : ReadsNoLater d db)
    (hDb' : ReadsNoLater d db') (checkType : String) : engine.ChecksAlike d checkType db db' := by
  simp only [ChecksAlike, run]
  cases CheckType.ofValue? checkType with
  | none => rfl
  | some checkType =>
    have hActive : HoldingRepository.listActive db' = HoldingRepository.listActive db := by
      rw [HoldingRepository.listActive, HoldingRepository.listActive, h.holdings]
    have hChecks : checksUpTo d db = checksUpTo d db' :=
      congrArg (List.map HoldingCheckRepository.content) h.holdingChecks
    obtain ⟨hResult, hStored⟩ := engine.foldl_checkHolding_congr checkType {}
      (fun holding hHolding => sameLookups_of_readsNoLater h hDb hDb' hHolding) hChecks
    rw [hActive]
    exact congrArg Except.ok (Prod.ext hResult hStored)

end HoldingCheckEngine

/-- The two engines as the jobs build them, with the dummy score producer and no disclosure producer.
Each decides alike where its own look-ups find no later row. -/
theorem noLookAhead_of_readsNoLater (readsReports logsReportScores : Bool) (d : Date)
    (universeName : String) (topN : Int) (checkType : String) (db db' : Database)
    (hAgree : AgreeUpTo d db db') :
    let engine : RecommendationEngine := { readsReports, logsReportScores }
    (engine.ReadsNoLater d universeName db → engine.ReadsNoLater d universeName db' →
      engine.RecommendsAlike d universeName topN db db') ∧
    (HoldingCheckEngine.ReadsNoLater d db → HoldingCheckEngine.ReadsNoLater d db' →
      HoldingCheckEngine.ChecksAlike {} d checkType db db') :=
  ⟨fun hDb hDb' => RecommendationEngine.recommendsAlike_of_readsNoLater hAgree hDb hDb' topN,
    fun hDb hDb' => HoldingCheckEngine.checksAlike_of_readsNoLater hAgree hDb hDb' checkType⟩

/-- No row that the engines look up unbounded is dated after the date: a run on its own day. -/
structure NothingLater (d : Date) (db : Database) : Prop where
  indicators : ∀ row ∈ db.indicators, row.date ≤ d
  dailyPrices : ∀ row ∈ db.dailyPrices, row.date ≤ d
  consensusSnapshots : ∀ row ∈ db.consensusSnapshots, row.snapshotDate ≤ d
  themeMappings : ∀ row ∈ db.themeMappings, row.publishedAt ≤ d
  signalEvents : ∀ row ∈ db.signalEvents, row.publishedAt ≤ d

namespace NothingLater

variable {d : Date} {db : Database}

theorem indicator (h : NothingLater d db) {symbol : String} {row : StockIndicator}
    (hRow : StockIndicatorRepository.getLatestBySymbol symbol db = some row) : row.date ≤ d :=
  h.indicators row (List.mem_of_mem_filter (mem_of_latest hRow))

theorem mem_of_newest {α : Type} {keep : α → Bool} {n : Nat} {rows : List α} {row : α}
    (h : row ∈ newest keep n rows) : row ∈ rows :=
  List.mem_of_mem_filter (List.mem_reverse.mp (List.mem_of_mem_take h))

theorem recommendation (h : NothingLater d db) (engine : RecommendationEngine)
    (universeName : String) : engine.ReadsNoLater d universeName db := by
  intro member _ stock _ indicator hIndicator
  refine ⟨h.indicator hIndicator, fun _ => ⟨fun row hRow => ?_, fun row hRow => ?_,
    fun row hRow => ?_⟩⟩
  · exact h.consensusSnapshots row (List.mem_of_mem_filter (mem_of_latest hRow))
  · exact h.themeMappings row (mem_of_newest hRow)
  · exact h.signalEvents row (mem_of_newest hRow)

theorem holdingCheck (h : NothingLater d db) : HoldingCheckEngine.ReadsNoLater d db := by
  intro holding _ price hPrice
  refine ⟨?_, fun row hRow => h.indicator hRow⟩
  exact h.dailyPrices price (List.mem_of_mem_filter (mem_of_latest hPrice))

end NothingLater

def runDay : Date := ⟨2026, 5, 4, validDate_mayFourth⟩

theorem validDate_laterDay : validDate 2026 5 6 = true := rfl

def laterDay : Date := ⟨2026, 5, 6, validDate_laterDay⟩

def indicatorOn (date : Date) (technicalScore : ℚ) : StockIndicator :=
  ⟨"005930", date, none, some 1, none, some technicalScore⟩

def marketOnRunDay : Database where
  __ := Database.empty
  stocks := [⟨"005930", "KOSPI", "Samsung Electronics"⟩]
  universes := [⟨1, "MARKET_CAP_TOP_500"⟩]
  members := [⟨1, "005930"⟩]
  holdings := [⟨"005930", 100, true⟩]
  indicators := [indicatorOn runDay 80]
  dailyPrices := [.flat "005930" runDay 100]

def afterLaterCheck : Database where
  __ := marketOnRunDay
  holdingChecks := [{ checkDate := laterDay, checkType := .preMarket, symbol := "005930" }]

def afterLaterIndicator : Database where
  __ := marketOnRunDay
  indicators := [indicatorOn runDay 80, indicatorOn laterDay 20]

theorem runDay_lt_laterDay : runDay < laterDay := by decide

theorem upTo_later {α : Type} {dated : α → Date} {row : α} (h : dated row = laterDay)
    (rows : List α) : upTo dated runDay (rows ++ [row]) = upTo dated runDay rows := by
  rw [upTo, List.filter_append, List.filter_singleton, h,
    decide_eq_false (not_le_of_gt runDay_lt_laterDay)]
  exact List.append_nil _

theorem nothingLater_marketOnRunDay : NothingLater runDay marketOnRunDay := by
  refine ⟨?_, ?_, ?_, ?_, ?_⟩ <;> simp [marketOnRunDay, Database.empty, indicatorOn, DailyPrice.flat]

/-- A check stored for a later day makes no difference to a run for the day itself. -/
theorem noLookAhead_laterCheck :
    (RecommendationEngine.RecommendsAlike {} runDay "MARKET_CAP_TOP_500" 5 marketOnRunDay
        afterLaterCheck) ∧
      HoldingCheckEngine.ChecksAlike {} runDay "PRE_MARKET" marketOnRunDay afterLaterCheck := by
  have hAgree : AgreeUpTo runDay marketOnRunDay afterLaterCheck :=
    ⟨rfl, rfl, rfl, rfl, rfl, rfl, rfl, rfl, rfl, (upTo_later rfl []).symm⟩
  have hMarket := nothingLater_marketOnRunDay
  have hLater : NothingLater runDay afterLaterCheck :=
    ⟨hMarket.indicators, hMarket.dailyPrices, hMarket.consensusSnapshots, hMarket.themeMappings,
      hMarket.signalEvents⟩
  have hAlike := noLookAhead_of_readsNoLater true true runDay "MARKET_CAP_TOP_500" 5 "PRE_MARKET"
    marketOnRunDay afterLaterCheck hAgree
  exact ⟨hAlike.1 (hMarket.recommendation _ _) (hLater.recommendation _ _),
    hAlike.2 hMarket.holdingCheck hLater.holdingCheck⟩

def recommendedScores (db : Database) : List (Option ℚ) :=
  (RecommendationEngine.generate {} runDay "MARKET_CAP_TOP_500" 5 db).2.recommendations.map
    Recommendation.technicalScore

theorem recommendedScores_marketOnRunDay : recommendedScores marketOnRunDay = [some 80] := rfl

theorem recommendedScores_afterLaterIndicator :
    recommendedScores afterLaterIndicator = [some 20] := rfl

theorem laterIndicator_changes_run : ¬ ∀ d db db', AgreeUpTo d db db' →
    ∀ universeName topN, RecommendationEngine.RecommendsAlike {} d universeName topN db db' := by
  intro hAlways
  have hAgree : AgreeUpTo runDay marketOnRunDay afterLaterIndicator :=
    ⟨rfl, rfl, rfl, rfl, (upTo_later rfl [indicatorOn runDay 80]).symm, rfl, rfl, rfl, rfl, rfl⟩
  obtain ⟨-, hSame, -⟩ := hAlways _ _ _ hAgree "MARKET_CAP_TOP_500" 5
  have hScores := congrArg (List.map Recommendation.technicalScore) hSame
  rw [List.map_map, List.map_map] at hScores
  have hContradiction : recommendedScores marketOnRunDay = recommendedScores afterLaterIndicator :=
    hScores
  rw [recommendedScores_marketOnRunDay, recommendedScores_afterLaterIndicator] at hContradiction
  simp at hContradiction

end StockAiPlatform.Decision
