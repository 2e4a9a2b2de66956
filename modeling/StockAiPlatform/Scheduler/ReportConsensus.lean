import StockAiPlatform.Db.DecisionModels
import StockAiPlatform.Python.Rounding
import StockAiPlatform.Transaction.Extremes
import StockAiPlatform.Transaction.Groups
import StockAiPlatform.Transaction.Upsert
import Mathlib.Algebra.Order.BigOperators.Group.List

/-! # The consensus job

`update_report_consensus_snapshots` stores one row for every symbol with an
active company report, under the symbol, the day and the window.
-/

namespace StockAiPlatform.Decision
set_option autoImplicit false

open Transaction Python

namespace ReportConsensus

def windowDays : Nat := 90

/-- `published_at` between the cutoff and the day. -/
def inWindow (snapshotDate publishedAt : Date) : Bool :=
  decide (snapshotDate.toordinal - windowDays ≤ publishedAt.toordinal) &&
    decide (publishedAt ≤ snapshotDate)

def isActive (snapshotDate : Date) (report : AnalystReport) : Bool :=
  report.reportType == "COMPANY" && inWindow snapshotDate report.publishedAt && report.symbol.isSome

def activeReports (snapshotDate : Date) (reports : List AnalystReport) : List AnalystReport :=
  (reports.filter (isActive snapshotDate)).insertionSort
    fun a b => a.publishedAt ≤ b.publishedAt

def symbolOf (report : AnalystReport) : String := report.symbol.getD ""

def targetsOf (reports : List AnalystReport) : List ℚ :=
  (reports.filterMap AnalystReport.targetPrice).map StoredPrice.value

def ratingCount (rating : String) (reports : List AnalystReport) : Nat :=
  reports.countP fun report => decide (report.normalizedRating = some rating)

/-- The column keeps four places. -/
def avgTarget (targets : List ℚ) : Option ℚ :=
  if targets = [] then none else some (quantize 4 (divide targets.sum targets.length))

def snapshotOf (symbol : String) (snapshotDate : Date) (reports : List AnalystReport) :
    ReportConsensusSnapshot where
  symbol := symbol
  snapshotDate := snapshotDate
  windowDays := windowDays
  reportCount := reports.length
  avgTargetPrice := avgTarget (targetsOf reports)
  strongBuyCount := ratingCount "STRONG_BUY" reports
  buyCount := ratingCount "BUY" reports
  holdCount := ratingCount "HOLD" reports
  sellCount := ratingCount "SELL" reports
  strongSellCount := ratingCount "STRONG_SELL" reports
  latestPublishedAt := (reports.map AnalystReport.publishedAt).max?

/-- `uq_report_consensus_symbol_date_window` -/
def keyOf (row : ReportConsensusSnapshot) : String × Date × Nat :=
  (row.symbol, row.snapshotDate, row.windowDays)

def upsertBySymbolDateWindow (rows : List ReportConsensusSnapshot) (row : ReportConsensusSnapshot) :
    List ReportConsensusSnapshot :=
  upsertBy keyOf rows row

def snapshotsOf (snapshotDate : Date) (reports : List AnalystReport) :
    List ReportConsensusSnapshot :=
  let rows := activeReports snapshotDate reports
  (keysOf symbolOf rows).map fun symbol => snapshotOf symbol snapshotDate (group symbolOf rows symbol)

/-- Without active reports nothing is written. -/
def updateReportConsensusSnapshots (snapshotDate : Date) (reports : List AnalystReport)
    (rows : List ReportConsensusSnapshot) : List ReportConsensusSnapshot :=
  (snapshotsOf snapshotDate reports).foldl upsertBySymbolDateWindow rows

def companyReports (snapshotDate : Date) (symbol : String) (reports : List AnalystReport) :
    List AnalystReport :=
  reports.filter fun report => report.reportType == "COMPANY" && report.symbol == some symbol &&
    inWindow snapshotDate report.publishedAt

/-- The row is the aggregate of the reports. -/
structure IsConsensus (reports : List AnalystReport) (row : ReportConsensusSnapshot) : Prop where
  reportCount : row.reportCount = reports.length
  ratings : row.strongBuyCount = ratingCount "STRONG_BUY" reports ∧
    row.buyCount = ratingCount "BUY" reports ∧ row.holdCount = ratingCount "HOLD" reports ∧
    row.sellCount = ratingCount "SELL" reports ∧
    row.strongSellCount = ratingCount "STRONG_SELL" reports
  ratings_le : row.strongBuyCount + row.buyCount + row.holdCount + row.sellCount +
    row.strongSellCount ≤ row.reportCount
  noTarget : targetsOf reports = [] → row.avgTargetPrice = none
  target : targetsOf reports ≠ [] → ∃ low ∈ targetsOf reports, ∃ high ∈ targetsOf reports,
    (∀ target ∈ targetsOf reports, low ≤ target ∧ target ≤ high) ∧
      ∃ avg, row.avgTargetPrice = some avg ∧ low ≤ avg ∧ avg ≤ high
  latest : ∃ report ∈ reports, row.latestPublishedAt = some report.publishedAt ∧
    ∀ other ∈ reports, other.publishedAt ≤ report.publishedAt

variable {reports reports' : List AnalystReport} {row : ReportConsensusSnapshot} {symbol : String}
  {snapshotDate : Date}

theorem targetsOf_perm (h : reports.Perm reports') : (targetsOf reports).Perm (targetsOf reports') :=
  (h.filterMap _).map _

theorem IsConsensus.perm (h : IsConsensus reports row) (hPerm : reports.Perm reports') :
    IsConsensus reports' row := by
  have hTargets := targetsOf_perm hPerm
  have hRating : ∀ rating, ratingCount rating reports = ratingCount rating reports' :=
    fun rating => hPerm.countP_eq _
  obtain ⟨report, hReport, hDate, hLatest⟩ := h.latest
  exact
    { reportCount := h.reportCount.trans hPerm.length_eq
      ratings := by simpa only [hRating] using h.ratings
      ratings_le := h.ratings_le
      noTarget := fun hNone => h.noTarget (hNone ▸ hTargets).eq_nil
      target := by
        intro hSome
        simp only [← hTargets.mem_iff]
        exact h.target fun hNone => hSome (hNone ▸ hTargets).nil_eq.symm
      latest := ⟨report, hPerm.mem_iff.mp hReport, hDate,
        fun other hOther => hLatest other (hPerm.mem_iff.mpr hOther)⟩ }

theorem group_activeReports_perm : (group symbolOf (activeReports snapshotDate reports) symbol).Perm
    (companyReports snapshotDate symbol reports) := by
  refine ((List.perm_insertionSort _ _).filter _).trans (.of_eq ?_)
  rw [List.filter_filter, companyReports]
  apply List.filter_congr
  intro report _
  rw [isActive, symbolOf]
  cases report.symbol with
  | none => simp
  | some found =>
    simp only [Option.getD_some, Option.isSome_some, Bool.and_true, Option.some_beq_some]
    ac_rfl

theorem mem_keysOf_activeReports : symbol ∈ keysOf symbolOf (activeReports snapshotDate reports) ↔
    companyReports snapshotDate symbol reports ≠ [] := by
  rw [← List.length_pos_iff, ← (group_activeReports_perm).length_eq, List.length_pos_iff]
  constructor
  · exact group_ne_nil
  · intro hSome
    obtain ⟨report, hReport⟩ := List.exists_mem_of_ne_nil _ hSome
    obtain ⟨hMem, hSymbol⟩ := mem_group.mp hReport
    exact mem_keysOf.mpr ⟨report, hMem, hSymbol⟩

/-- A report is counted under one rating at most. -/
theorem ratingCounts_le (reports : List AnalystReport) :
    ratingCount "STRONG_BUY" reports + ratingCount "BUY" reports + ratingCount "HOLD" reports +
      ratingCount "SELL" reports + ratingCount "STRONG_SELL" reports ≤ reports.length := by
  have hNodup : (["STRONG_BUY", "BUY", "HOLD", "SELL", "STRONG_SELL"].map some).Nodup := by decide
  have hSum := sum_length_group_le AnalystReport.normalizedRating reports hNodup
  have hGroup : ∀ rating, (group AnalystReport.normalizedRating reports (some rating)).length =
      ratingCount rating reports := fun rating => List.countP_eq_length_filter.symm
  simp only [List.map_cons, List.map_nil, List.sum_cons, List.sum_nil, hGroup] at hSum
  omega

/-- Every target price has the places of the column. -/
theorem target_places {target : ℚ} (h : target ∈ targetsOf reports) :
    divide target 1 = target ∧ quantize 4 target = target := by
  obtain ⟨price, -, rfl⟩ := List.mem_map.mp h
  have hDigits := price.digits
  exact ⟨divide_of_places 4 (by omega), quantize_of_places _ 4⟩

/-- The average lies between the extremes, however it is rounded. -/
theorem avgTarget_bounds {low high : ℚ} (hLow : low ∈ targetsOf reports)
    (hHigh : high ∈ targetsOf reports)
    (h : ∀ target ∈ targetsOf reports, low ≤ target ∧ target ≤ high) :
    low ≤ quantize 4 (divide (targetsOf reports).sum (targetsOf reports).length) ∧
      quantize 4 (divide (targetsOf reports).sum (targetsOf reports).length) ≤ high := by
  have hCount : (0 : ℚ) < (targetsOf reports).length := by
    exact_mod_cast List.length_pos_of_mem hLow
  have hAbove := List.card_nsmul_le_sum (targetsOf reports) low fun target hMem => (h target hMem).1
  have hBelow := List.sum_le_card_nsmul (targetsOf reports) high fun target hMem => (h target hMem).2
  rw [nsmul_eq_mul] at hAbove hBelow
  obtain ⟨hLowDivide, hLowPlaces⟩ := target_places hLow
  obtain ⟨hHighDivide, hHighPlaces⟩ := target_places hHigh
  constructor
  · calc low = quantize 4 (divide low 1) := by rw [hLowDivide, hLowPlaces]
      _ ≤ _ := by
        apply quantize_mono
        apply divide_mono
        rw [div_one, le_div_iff₀ hCount]
        linarith
  · calc quantize 4 (divide (targetsOf reports).sum (targetsOf reports).length)
      _ ≤ quantize 4 (divide high 1) := by
        apply quantize_mono
        apply divide_mono
        rw [div_one, div_le_iff₀ hCount]
        linarith
      _ = high := by rw [hHighDivide, hHighPlaces]

theorem isConsensus_snapshotOf (hSome : reports ≠ []) :
    IsConsensus reports (snapshotOf symbol snapshotDate reports) where
  reportCount := rfl
  ratings := ⟨rfl, rfl, rfl, rfl, rfl⟩
  ratings_le := ratingCounts_le reports
  noTarget hNone := if_pos hNone
  target hTargets := by
    obtain ⟨low, hLow, hLeast⟩ := exists_least hTargets
    obtain ⟨high, hHigh, hGreatest⟩ := exists_greatest hTargets
    have hBetween : ∀ target ∈ targetsOf reports, low ≤ target ∧ target ≤ high :=
      fun target hMem => ⟨hLeast target hMem, hGreatest target hMem⟩
    exact ⟨low, hLow, high, hHigh, hBetween, _, if_neg hTargets,
      avgTarget_bounds hLow hHigh hBetween⟩
  latest := by
    have hDates : reports.map AnalystReport.publishedAt ≠ [] := fun hNone =>
      hSome (List.map_eq_nil_iff.mp hNone)
    obtain ⟨date, hDate, hMax, hGreatest⟩ := exists_max? hDates
    obtain ⟨report, hReport, rfl⟩ := List.mem_map.mp hDate
    exact ⟨report, hReport, hMax, fun other hOther => hGreatest _ (List.mem_map_of_mem hOther)⟩

theorem mem_snapshotsOf {row : ReportConsensusSnapshot} : row ∈ snapshotsOf snapshotDate reports ↔
    ∃ symbol, companyReports snapshotDate symbol reports ≠ [] ∧ row =
      snapshotOf symbol snapshotDate (group symbolOf (activeReports snapshotDate reports) symbol) := by
  simp only [snapshotsOf, List.mem_map, mem_keysOf_activeReports]
  exact exists_congr fun symbol => and_congr_right fun _ => eq_comm

theorem nodup_snapshotsOf : ((snapshotsOf snapshotDate reports).map keyOf).Nodup := by
  rw [snapshotsOf, List.map_map]
  apply nodup_keysOf.map
  intro symbol symbol' hSame
  exact congrArg Prod.fst hSame

variable {rows : List ReportConsensusSnapshot}

theorem nodup_update (h : (rows.map keyOf).Nodup) :
    ((updateReportConsensusSnapshots snapshotDate reports rows).map keyOf).Nodup :=
  nodup_foldl_upsertBy h

variable (rows) in
theorem mem_update (hSome : companyReports snapshotDate symbol reports ≠ []) :
    snapshotOf symbol snapshotDate (group symbolOf (activeReports snapshotDate reports) symbol) ∈
      updateReportConsensusSnapshots snapshotDate reports rows :=
  mem_foldl_upsertBy nodup_snapshotsOf (mem_snapshotsOf.mpr ⟨symbol, hSome, rfl⟩)

end ReportConsensus

end StockAiPlatform.Decision
