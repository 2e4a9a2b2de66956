import StockAiPlatform.Decision.RankingOutcomes
import StockAiPlatform.Scheduler.ReportConsensus

/-! # Runs of the consensus job and the engine

The engine scores the latest stored consensus of a symbol. The job writes none
for a symbol without active reports, so what was stored before stays the latest.
-/

namespace StockAiPlatform.Decision
set_option autoImplicit false

open Transaction Python

/-- A day of a run: the reports there are then, the other tables, and what the engine is asked. -/
structure TradingDay where
  date : Date
  reports : List AnalystReport
  tables : Database
  engine : RecommendationEngine
  universeName : String
  topN : Int

namespace TradingDay

open ReportConsensus RecommendationEngine

def updated (day : TradingDay) (rows : List ReportConsensusSnapshot) : Database :=
  { day.tables with
    consensusSnapshots := updateReportConsensusSnapshots day.date day.reports rows }

def run (day : TradingDay) (rows : List ReportConsensusSnapshot) : Database :=
  (day.engine.generate day.date day.universeName day.topN (day.updated rows)).2

def snapshotsAfter (rows : List ReportConsensusSnapshot) (days : List TradingDay) :
    List ReportConsensusSnapshot :=
  days.foldl (fun rows day => (day.run rows).consensusSnapshots) rows

def companyReports (day : TradingDay) (symbol : String) : List AnalystReport :=
  ReportConsensus.companyReports day.date symbol day.reports

/-- The candidates `generate` scores, of which it saves the best. -/
def scored (day : TradingDay) (rows : List ReportConsensusSnapshot) : List Candidate :=
  day.engine.found day.date (day.updated rows) (membersOf day.universeName (day.updated rows))

/-- The report score that a consensus gives a symbol on the day. -/
def reportScoreOf (day : TradingDay) (symbol : String) (consensus : Option ReportConsensusSnapshot) :
    ReportScoreResult :=
  calculateReportScore day.date ((consensus.map ReportConsensusSnapshot.reportCount).getD 0)
    (consensus.bind ReportConsensusSnapshot.avgTargetPrice)
    ((DailyPriceRepository.getLatestOnOrBefore symbol day.date day.tables).map DailyPrice.close)
    (match consensus with
      | none => {}
      | some row =>
        ⟨row.strongBuyCount, row.buyCount, row.holdCount, row.sellCount, row.strongSellCount⟩)
    (consensus.bind ReportConsensusSnapshot.latestPublishedAt)

/-- The consensus that feeds the report score of a candidate: the one that is looked up, and that
gives it this score. -/
structure FedBy (day : TradingDay) (rows : List ReportConsensusSnapshot) (candidate : Candidate)
    (score : ReportScoreResult) (consensus : Option ReportConsensusSnapshot) : Prop where
  lookedUp : ReportConsensusSnapshotRepository.getLatestBySymbol candidate.stock.symbol
    (day.updated rows) = consensus
  score : score = day.reportScoreOf candidate.stock.symbol consensus

def Aggregates (reports : List AnalystReport) : Option ReportConsensusSnapshot → Prop
  | none => reports = []
  | some row => IsConsensus reports row

/-- Every report score is fed by the aggregate of the reports of the window. -/
def ScoresWindow (day : TradingDay) (rows : List ReportConsensusSnapshot) : Prop :=
  ∀ candidate ∈ day.scored rows, ∀ score, candidate.reportScore = some score →
    ∃ consensus, day.FedBy rows candidate score consensus ∧
      Aggregates (day.companyReports candidate.stock.symbol) consensus

/-- A member with a stock and an indicator, which the engine scores. -/
def Scores (day : TradingDay) (symbol : String) : Prop :=
  ∃ member ∈ membersOf day.universeName day.tables, member.symbol = symbol ∧
    (StockRepository.getBySymbol symbol day.tables).isSome ∧
    (StockIndicatorRepository.getLatestBySymbol symbol day.tables).isSome

def laterRows (day : TradingDay) (rows : List ReportConsensusSnapshot) (symbol : String) :
    List ReportConsensusSnapshot :=
  rows.filter fun row => row.symbol == symbol && decide (day.date < row.snapshotDate)

/-- Without reports in the window there is no row of the symbol from before, and with reports the
newest row dated after the day, if there is one, is their aggregate, too. -/
def Current (day : TradingDay) (rows : List ReportConsensusSnapshot) (symbol : String) : Prop :=
  if day.companyReports symbol = [] then ∀ row ∈ rows, row.symbol ≠ symbol
  else ∀ row, latest ReportConsensusSnapshot.snapshotDate (day.laterRows rows symbol) = some row →
    IsConsensus (day.companyReports symbol) row

def StaysCurrent (day : TradingDay) (rows : List ReportConsensusSnapshot) : Prop :=
  day.engine.readsReports = true → ∀ symbol, day.Scores symbol → day.Current rows symbol

/-- The unique constraint of the table, whose rows are all of the one window there is. -/
structure OneWindow (rows : List ReportConsensusSnapshot) : Prop where
  unique : (rows.map keyOf).Nodup
  window : ∀ row ∈ rows, row.windowDays = windowDays

variable {day : TradingDay} {days before after : List TradingDay} {symbol : String}
  {rows : List ReportConsensusSnapshot}

theorem consensusSnapshots_persistFrom (engine : RecommendationEngine) (runId : Nat) (runDate : Date)
    (rank : Nat) (candidates : List Candidate) (db : Database) :
    (engine.persistFrom runId runDate rank candidates db).consensusSnapshots =
      db.consensusSnapshots := by
  induction candidates generalizing rank db with
  | nil => rfl
  | cons candidate candidates ih => exact ih (rank + 1) _

theorem consensusSnapshots_run : (day.run rows).consensusSnapshots =
    updateReportConsensusSnapshots day.date day.reports rows :=
  consensusSnapshots_persistFrom day.engine _ _ _ _ _

section Rows

variable {row : ReportConsensusSnapshot}

theorem OneWindow.update (h : OneWindow rows) :
    OneWindow (updateReportConsensusSnapshots day.date day.reports rows) where
  unique := nodup_update h.unique
  window row hRow := by
    rcases mem_of_mem_foldl_upsertBy hRow with hNew | hOld
    · obtain ⟨symbol, -, rfl⟩ := mem_snapshotsOf.mp hNew
      rfl
    · exact h.window row hOld

theorem oneWindow_snapshotsAfter (h : OneWindow rows) (days : List TradingDay) :
    OneWindow (snapshotsAfter rows days) := by
  induction days generalizing rows with
  | nil => exact h
  | cons day days ih =>
    rw [snapshotsAfter, List.foldl_cons, consensusSnapshots_run]
    exact ih h.update

/-- Of one symbol there are no two rows of one date. -/
theorem OneWindow.eq_of_date (h : OneWindow rows) {other : ReportConsensusSnapshot} (hRow : row ∈ rows)
    (hOther : other ∈ rows) (hSymbol : row.symbol = other.symbol)
    (hDate : row.snapshotDate = other.snapshotDate) : row = other := by
  apply List.inj_on_of_nodup_map h.unique hRow hOther
  rw [keyOf, keyOf, hSymbol, hDate, h.window row hRow, h.window other hOther]

theorem mem_filter_symbol :
    row ∈ rows.filter (fun row => row.symbol == symbol) ↔ row ∈ rows ∧ row.symbol = symbol := by
  rw [List.mem_filter, beq_iff_eq]

theorem mem_laterRows : row ∈ day.laterRows rows symbol ↔
    row ∈ rows ∧ row.symbol = symbol ∧ day.date < row.snapshotDate := by
  rw [laterRows, List.mem_filter, Bool.and_eq_true, beq_iff_eq, decide_eq_true_iff]

/-- The job writes rows of its own day only. -/
theorem laterRows_update (day : TradingDay) (rows : List ReportConsensusSnapshot) (symbol : String) :
    day.laterRows (updateReportConsensusSnapshots day.date day.reports rows) symbol =
      day.laterRows rows symbol := by
  apply filter_foldl_upsertBy_of_apart
  intro write hWrite other hKey
  obtain ⟨written, -, rfl⟩ := mem_snapshotsOf.mp hWrite
  have hDate : other.snapshotDate = day.date := congrArg (fun key => key.2.1) hKey
  rw [hDate, decide_eq_false (lt_irrefl _), Bool.and_false]

/-- Without reports in the window a row of the symbol stays what it was. -/
theorem getLatestBySymbol_eq_none_iff (hNone : day.companyReports symbol = []) :
    ReportConsensusSnapshotRepository.getLatestBySymbol symbol (day.updated rows) = none ↔
      ∀ row ∈ rows, row.symbol ≠ symbol := by
  have hSame : (day.updated rows).consensusSnapshots.filter (fun row => row.symbol == symbol) =
      rows.filter fun row => row.symbol == symbol := by
    apply filter_foldl_upsertBy_of_apart
    intro write hWrite other hKey
    obtain ⟨written, hSome, rfl⟩ := mem_snapshotsOf.mp hWrite
    have hSymbol : other.symbol = written := congrArg Prod.fst hKey
    rw [beq_eq_false_iff_ne, hSymbol]
    rintro rfl
    exact hSome hNone
  rw [ReportConsensusSnapshotRepository.getLatestBySymbol, hSame]
  constructor
  · intro hLatest row hRow hSymbol
    have hKept := mem_filter_symbol.mpr ⟨hRow, hSymbol⟩
    rw [latest_eq_none hLatest] at hKept
    cases hKept
  · intro hOther
    rw [List.filter_eq_nil_iff.mpr fun row hRow hSymbol => hOther row hRow (eq_of_beq hSymbol)]
    rfl

/-- With reports in the window the newest later row is found, or else the row of the day. -/
theorem getLatestBySymbol_of_reports (h : OneWindow rows) (hSome : day.companyReports symbol ≠ []) :
    ReportConsensusSnapshotRepository.getLatestBySymbol symbol (day.updated rows) =
      (latest ReportConsensusSnapshot.snapshotDate (day.laterRows rows symbol)).or
        (some (snapshotOf symbol day.date
          (group ReportConsensus.symbolOf (activeReports day.date day.reports) symbol))) := by
  have hUpdated : OneWindow (day.updated rows).consensusSnapshots := h.update
  have hLaterRows := laterRows_update day rows symbol
  rw [ReportConsensusSnapshotRepository.getLatestBySymbol]
  cases hLater : latest ReportConsensusSnapshot.snapshotDate (day.laterRows rows symbol) with
  | some row =>
    have hMem := mem_of_latest hLater
    rw [← hLaterRows] at hMem
    obtain ⟨hRow, hSymbol, hAfter⟩ := mem_laterRows.mp hMem
    refine latest_eq_some (mem_filter_symbol.mpr ⟨hRow, hSymbol⟩) fun other hOther hNe => ?_
    obtain ⟨hThere, hSame⟩ := mem_filter_symbol.mp hOther
    refine lt_of_le_of_ne ?_ fun hDate =>
      hNe (hUpdated.eq_of_date hThere hRow (hSame.trans hSymbol.symm) hDate)
    rcases le_or_gt other.snapshotDate day.date with hEarly | hLate
    · exact hEarly.trans hAfter.le
    · apply dated_le_of_latest hLater
      rw [← hLaterRows]
      exact mem_laterRows.mpr ⟨hThere, hSame, hLate⟩
  | none =>
    have hRow : _ ∈ (day.updated rows).consensusSnapshots := mem_update rows hSome
    refine latest_eq_some (mem_filter_symbol.mpr ⟨hRow, rfl⟩) fun other hOther hNe => ?_
    obtain ⟨hThere, hSame⟩ := mem_filter_symbol.mp hOther
    refine lt_of_le_of_ne ?_ fun hDate => hNe (hUpdated.eq_of_date hThere hRow hSame hDate)
    by_contra hLate
    have hMem := mem_laterRows.mpr ⟨hThere, hSame, not_le.mp hLate⟩
    rw [updated, hLaterRows, latest_eq_none hLater] at hMem
    cases hMem

/-- What is looked up is the aggregate of the window exactly if the symbol is current. -/
theorem aggregates_getLatestBySymbol_iff (h : OneWindow rows) (symbol : String) :
    Aggregates (day.companyReports symbol)
        (ReportConsensusSnapshotRepository.getLatestBySymbol symbol (day.updated rows)) ↔
      day.Current rows symbol := by
  rw [Current]
  split
  case isTrue hNone =>
    rw [← getLatestBySymbol_eq_none_iff hNone, hNone]
    cases ReportConsensusSnapshotRepository.getLatestBySymbol symbol (day.updated rows) with
    | none => exact iff_of_true rfl rfl
    | some row =>
      refine iff_of_false (fun hRow : IsConsensus [] row => ?_) nofun
      obtain ⟨report, hReport, -⟩ := hRow.latest
      cases hReport
  case isFalse hSome =>
    rw [getLatestBySymbol_of_reports h hSome]
    cases latest ReportConsensusSnapshot.snapshotDate (day.laterRows rows symbol) with
    | some row => exact ⟨fun hRow _ hSame => Option.some.inj hSame ▸ hRow, fun hAll => hAll row rfl⟩
    | none =>
      refine iff_of_true ?_ nofun
      have hGroup : group ReportConsensus.symbolOf (activeReports day.date day.reports) symbol ≠ [] := fun hNone =>
        hSome (hNone ▸ group_activeReports_perm).nil_eq.symm
      exact (isConsensus_snapshotOf hGroup).perm group_activeReports_perm

end Rows

section Scored

variable {candidate : Candidate} {score : ReportScoreResult}

theorem mem_scored : candidate ∈ day.scored rows ↔
    ∃ member ∈ membersOf day.universeName day.tables,
      candidate? (day.engine.evaluate day.date (day.updated rows) member) = some candidate := by
  rw [scored, found_eq, List.mem_filterMap]
  rfl

theorem scores_of_mem (h : candidate ∈ day.scored rows) : day.Scores candidate.stock.symbol := by
  obtain ⟨member, hMember, hFound⟩ := mem_scored.mp h
  have hSymbol := symbol_of_evaluate hFound
  refine ⟨member, hMember, hSymbol.symm, ?_⟩
  rw [hSymbol]
  have hStocks : StockRepository.getBySymbol member.symbol (day.updated rows) =
      StockRepository.getBySymbol member.symbol day.tables := rfl
  have hIndicators : StockIndicatorRepository.getLatestBySymbol member.symbol (day.updated rows) =
      StockIndicatorRepository.getLatestBySymbol member.symbol day.tables := rfl
  rw [evaluate, hStocks, hIndicators] at hFound
  cases hStock : StockRepository.getBySymbol member.symbol day.tables with
  | none =>
    rw [hStock] at hFound
    cases hFound
  | some stock =>
    cases hIndicator : StockIndicatorRepository.getLatestBySymbol member.symbol day.tables with
    | none =>
      rw [hStock, hIndicator] at hFound
      cases hFound
    | some indicator => exact ⟨rfl, rfl⟩

theorem exists_of_scores (h : day.Scores symbol) (rows : List ReportConsensusSnapshot) :
    ∃ candidate ∈ day.scored rows, candidate.stock.symbol = symbol := by
  obtain ⟨member, hMember, rfl, hStock, hIndicator⟩ := h
  obtain ⟨stock, hStock⟩ := Option.isSome_iff_exists.mp hStock
  obtain ⟨indicator, hIndicator⟩ := Option.isSome_iff_exists.mp hIndicator
  have hStock' : StockRepository.getBySymbol member.symbol (day.updated rows) = some stock := hStock
  have hIndicator' : StockIndicatorRepository.getLatestBySymbol member.symbol (day.updated rows) =
    some indicator := hIndicator
  have hFound : candidate? (day.engine.evaluate day.date (day.updated rows) member) =
      some (day.engine.candidateOf day.date stock indicator (day.updated rows)) := by
    rw [evaluate, hStock', hIndicator']
    rfl
  exact ⟨_, mem_scored.mpr ⟨member, hMember, hFound⟩, symbol_of_evaluate hFound⟩

/-- A candidate has the report score of the consensus that is looked up, if reports are read. -/
theorem reportScore_of_mem (h : candidate ∈ day.scored rows) : candidate.reportScore =
    if day.engine.readsReports then some (day.reportScoreOf candidate.stock.symbol
      (ReportConsensusSnapshotRepository.getLatestBySymbol candidate.stock.symbol (day.updated rows)))
    else none := by
  obtain ⟨member, -, hFound⟩ := mem_scored.mp h
  rw [evaluate] at hFound
  split at hFound
  · cases hFound
  · split at hFound
    · cases hFound
    · cases hFound
      simp only [candidateOf, calculateReportIntelligenceScores]
      split <;> rfl

end Scored

/-- The scores of a day are fed by its window exactly if every scored symbol is current. -/
theorem scoresWindow_iff (h : OneWindow rows) : day.ScoresWindow rows ↔ day.StaysCurrent rows := by
  constructor
  · intro hWindow hReads symbol hScores
    obtain ⟨candidate, hScored, rfl⟩ := exists_of_scores hScores rows
    have hScore := reportScore_of_mem hScored
    rw [if_pos hReads] at hScore
    obtain ⟨consensus, hFed, hAggregate⟩ := hWindow candidate hScored _ hScore
    rw [← hFed.lookedUp] at hAggregate
    exact (aggregates_getLatestBySymbol_iff h _).mp hAggregate
  · intro hCurrent candidate hScored score hScore
    have hFed := reportScore_of_mem hScored
    rw [hScore] at hFed
    split at hFed
    case isFalse => cases hFed
    case isTrue hReads =>
      exact ⟨_, ⟨rfl, Option.some.inj hFed⟩, (aggregates_getLatestBySymbol_iff h _).mpr
        (hCurrent hReads _ (scores_of_mem hScored))⟩

/-- On each day of the run the scores are fed by the window. -/
def RunScoresWindow (rows : List ReportConsensusSnapshot) (days : List TradingDay) : Prop :=
  ∀ before day after, days = before ++ day :: after → day.ScoresWindow (snapshotsAfter rows before)

def RunStaysCurrent (rows : List ReportConsensusSnapshot) (days : List TradingDay) : Prop :=
  ∀ before day after, days = before ++ day :: after → day.StaysCurrent (snapshotsAfter rows before)

theorem runScoresWindow_iff (rows : List ReportConsensusSnapshot) (hRows : OneWindow rows)
    (days : List TradingDay) : RunScoresWindow rows days ↔ RunStaysCurrent rows days :=
  forall_congr' fun before => forall_congr' fun _ => forall_congr' fun _ => forall_congr' fun _ =>
    scoresWindow_iff (oneWindow_snapshotsAfter hRows before)

theorem validDate_reportedDay : validDate 2026 1 5 = true := by decide

def reportedDay : Date := ⟨2026, 1, 5, validDate_reportedDay⟩

def quietDay : Date := ⟨2026, 5, 4, validDate_mayFourth⟩

def onlyReport : AnalystReport := ⟨some "005930", "COMPANY", reportedDay, some "BUY", none⟩

def reportedMarket : Database :=
  { Database.empty with
    stocks := [⟨"005930", "KOSPI", "Samsung"⟩]
    universes := [⟨1, "KOSPI"⟩]
    members := [⟨1, "005930"⟩]
    indicators := [⟨"005930", reportedDay, none, none, none, some 70⟩] }

def dayOf (date : Date) : TradingDay := ⟨date, [onlyReport], reportedMarket, {}, "KOSPI", 10⟩

def agedReport : List TradingDay := [dayOf reportedDay, dayOf quietDay]

theorem oneWindow_nil : OneWindow [] where
  unique := List.nodup_nil
  window := nofun

theorem runScoresWindow_iff_agedReport :
    RunScoresWindow [] agedReport ↔ RunStaysCurrent [] agedReport :=
  runScoresWindow_iff [] oneWindow_nil agedReport

theorem not_current_quietDay :
    ¬ (dayOf quietDay).Current (snapshotsAfter [] [dayOf reportedDay]) "005930" := by
  rw [Current, if_pos (by decide)]
  decide

theorem not_runScoresWindow_agedReport : ¬ ∀ rows : List ReportConsensusSnapshot,
    OneWindow rows → ∀ days : List TradingDay, RunScoresWindow rows days := by
  intro h
  have hQuiet := h [] oneWindow_nil agedReport [dayOf reportedDay] (dayOf quietDay) [] rfl
  have hRows := oneWindow_snapshotsAfter oneWindow_nil [dayOf reportedDay]
  have hScores : (dayOf quietDay).Scores "005930" := by
    refine ⟨⟨1, "005930"⟩, ?_⟩
    decide
  exact not_current_quietDay ((scoresWindow_iff hRows).mp hQuiet rfl "005930" hScores)

end TradingDay

end StockAiPlatform.Decision
