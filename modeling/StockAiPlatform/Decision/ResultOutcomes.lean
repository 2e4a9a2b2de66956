import StockAiPlatform.Decision.RecommendationResultService
import StockAiPlatform.Transaction.Extremes
import StockAiPlatform.Transaction.Fallible

/-! # What a run of the results evaluates

Bars are looked up by symbol and date, and a symbol has one a day, so what is
found depends on the bars in the range alone. A window can be evaluated if it
is empty or its reference close and its peak are not zero.
-/

namespace StockAiPlatform.Results
set_option autoImplicit false

open Transaction Python

section Bars

variable {prices prices' : DailyPriceTable} {symbol : String} {startDate endDate : Int}
  {a b bar : DailyPrice}

theorem eq_of_key (ha : a ∈ prices.rows) (hb : b ∈ prices.rows) (hSymbol : a.symbol = b.symbol)
    (hDate : a.date = b.date) : a = b :=
  List.inj_on_of_nodup_map prices.symbol_date_unique ha hb (Prod.ext hSymbol hDate)

theorem inRange_iff : DailyPriceRepository.inRange symbol startDate endDate bar = true ↔
    bar.symbol = symbol ∧ startDate ≤ bar.date ∧ bar.date ≤ endDate := by
  rw [DailyPriceRepository.inRange, Bool.and_eq_true, Bool.and_eq_true, beq_iff_eq,
    decide_eq_true_iff, decide_eq_true_iff, and_assoc]

theorem nodup_rows : prices.rows.Nodup := List.Nodup.of_map _ prices.symbol_date_unique

/-- Tables with the same bars in a range hold them in some order. -/
theorem inRange_perm (h : ∀ bar, bar.symbol = symbol → startDate ≤ bar.date → bar.date ≤ endDate →
      (bar ∈ prices.rows ↔ bar ∈ prices'.rows)) :
    (prices.rows.filter (DailyPriceRepository.inRange symbol startDate endDate)).Perm
      (prices'.rows.filter (DailyPriceRepository.inRange symbol startDate endDate)) := by
  rw [List.perm_ext_iff_of_nodup (nodup_rows.filter _) (nodup_rows.filter _)]
  intro bar
  rw [List.mem_filter, List.mem_filter]
  refine and_congr_left fun hRange => ?_
  obtain ⟨hSymbol, hStart, hEnd⟩ := inRange_iff.mp hRange
  exact h bar hSymbol hStart hEnd

theorem eq_of_inRange
    (ha : a ∈ prices.rows.filter (DailyPriceRepository.inRange symbol startDate endDate))
    (hb : b ∈ prices.rows.filter (DailyPriceRepository.inRange symbol startDate endDate))
    (hDate : a.date = b.date) : a = b := by
  rw [List.mem_filter, inRange_iff] at ha hb
  exact eq_of_key ha.1 hb.1 (ha.2.1.trans hb.2.1.symm) hDate

theorem getLatestOnOrBefore_congr {targetDate lookbackDays : Int}
    (h : ∀ bar, bar.symbol = symbol → bar.date ≤ targetDate →
      (bar ∈ prices.rows ↔ bar ∈ prices'.rows)) :
    DailyPriceRepository.getLatestOnOrBefore symbol targetDate lookbackDays prices =
      DailyPriceRepository.getLatestOnOrBefore symbol targetDate lookbackDays prices' := by
  refine congrArg List.head? (insertionSort_eq_of_perm (fun a b : DailyPrice => b.date ≤ a.date)
    (inRange_perm fun bar hSymbol _ hEnd => h bar hSymbol hEnd) ?_)
  exact fun _ ha _ hb hab hba => eq_of_inRange ha hb (le_antisymm hba hab)

theorem getBySymbolDate_eq_some : DailyPriceRepository.getBySymbolDate symbol startDate prices =
    some bar ↔ bar ∈ prices.rows ∧ bar.symbol = symbol ∧ bar.date = startDate := by
  have hKey : ∀ other : DailyPrice, (other.symbol == symbol && other.date == startDate) = true ↔
      other.symbol = symbol ∧ other.date = startDate := by
    intro other
    rw [Bool.and_eq_true, beq_iff_eq, beq_iff_eq]
  constructor
  · intro h
    have hFound := List.find?_some h
    exact ⟨List.mem_of_find?_eq_some h, (hKey bar).mp hFound⟩
  · rintro ⟨hBar, hHere⟩
    refine find?_eq_some_of_unique hBar ((hKey bar).mpr hHere) fun other hOther hSame => ?_
    have hThere := (hKey other).mp hSame
    exact eq_of_key hOther hBar (hThere.1.trans hHere.1.symm) (hThere.2.trans hHere.2.symm)

theorem resolveReference_congr {runDate : Int}
    (h : ∀ bar, bar.symbol = symbol → bar.date ≤ runDate →
      (bar ∈ prices.rows ↔ bar ∈ prices'.rows)) :
    RecommendationResultService.resolveReference symbol runDate prices =
      RecommendationResultService.resolveReference symbol runDate prices' := by
  have hExact : DailyPriceRepository.getBySymbolDate symbol runDate prices =
      DailyPriceRepository.getBySymbolDate symbol runDate prices' := by
    ext bar
    rw [getBySymbolDate_eq_some, getBySymbolDate_eq_some]
    exact and_congr_left fun hHere => h bar hHere.1 (le_of_eq hHere.2)
  rw [RecommendationResultService.resolveReference, hExact, getLatestOnOrBefore_congr h]
  rfl

theorem resolveReference_spec {runDate : Int}
    (h : RecommendationResultService.resolveReference symbol runDate prices = some bar) :
    bar ∈ prices.rows ∧ bar.symbol = symbol ∧ bar.date ≤ runDate := by
  rw [RecommendationResultService.resolveReference, Option.or_eq_some_iff] at h
  rcases h with hExact | ⟨-, hLatest⟩
  · obtain ⟨hBar, hSymbol, hDate⟩ := getBySymbolDate_eq_some.mp hExact
    exact ⟨hBar, hSymbol, le_of_eq hDate⟩
  · have hFound := mem_of_latest hLatest
    rw [List.mem_filter, inRange_iff] at hFound
    exact ⟨hFound.1, hFound.2.1, hFound.2.2.2⟩

variable {referenceDate daysAfter : Int}

theorem mem_barsInWindow :
    bar ∈ RecommendationResultService.barsInWindow symbol referenceDate daysAfter prices ↔
      bar ∈ prices.rows ∧ bar.symbol = symbol ∧ referenceDate < bar.date ∧
        bar.date ≤ referenceDate + daysAfter := by
  rw [RecommendationResultService.barsInWindow, List.mem_filter, DailyPriceRepository.listInRange,
    List.mem_insertionSort, List.mem_filter, inRange_iff, decide_eq_true_iff,
    RecommendationResultService.verificationBufferDays]
  constructor
  · rintro ⟨⟨hBar, hSymbol, hStart, -⟩, hEnd⟩
    exact ⟨hBar, hSymbol, by omega, hEnd⟩
  · rintro ⟨hBar, hSymbol, hStart, hEnd⟩
    exact ⟨⟨hBar, hSymbol, by omega, by omega⟩, hEnd⟩

theorem pairwise_barsInWindow :
    (RecommendationResultService.barsInWindow symbol referenceDate daysAfter prices).Pairwise
      fun a b => a.date < b.date := by
  have hSorted : (RecommendationResultService.barsInWindow symbol referenceDate daysAfter
      prices).Pairwise fun a b => a.date ≤ b.date :=
    (List.pairwise_insertionSort _ _).filter _
  have hNodup : (RecommendationResultService.barsInWindow symbol referenceDate daysAfter
      prices).Nodup :=
    ((List.perm_insertionSort _ _).nodup_iff.mpr (nodup_rows.filter _)).filter _
  refine List.Pairwise.imp_of_mem ?_ (hSorted.and hNodup)
  rintro a b ha hb ⟨hLe, hNe⟩
  rw [mem_barsInWindow] at ha hb
  refine lt_of_le_of_ne hLe fun hSame => hNe ?_
  exact eq_of_key ha.1 hb.1 (ha.2.1.trans hb.2.1.symm) hSame

/-- Bars in ascending order are known by which they are. -/
theorem eq_of_mem_iff {bars bars' : List DailyPrice} (h : bars.Pairwise fun a b => a.date < b.date)
    (h' : bars'.Pairwise fun a b => a.date < b.date) (hMem : ∀ bar, bar ∈ bars ↔ bar ∈ bars') :
    bars = bars' := by
  have hNodup : ∀ {bars : List DailyPrice}, (bars.Pairwise fun a b => a.date < b.date) →
      bars.Nodup := by
    intro bars hBars
    exact hBars.imp fun hLt hSame => absurd (congrArg DailyPrice.date hSame) (ne_of_lt hLt)
  refine List.Perm.eq_of_pairwise ?_ h h'
    ((List.perm_ext_iff_of_nodup (hNodup h) (hNodup h')).mpr hMem)
  intro a b _ _ hab hba
  exact absurd hab (lt_asymm hba)

theorem barsInWindow_congr (h : ∀ bar, bar.symbol = symbol → referenceDate < bar.date →
      bar.date ≤ referenceDate + daysAfter → (bar ∈ prices.rows ↔ bar ∈ prices'.rows)) :
    RecommendationResultService.barsInWindow symbol referenceDate daysAfter prices =
      RecommendationResultService.barsInWindow symbol referenceDate daysAfter prices' := by
  refine eq_of_mem_iff pairwise_barsInWindow pairwise_barsInWindow fun bar => ?_
  rw [mem_barsInWindow, mem_barsInWindow]
  exact and_congr_left fun hHere => h bar hHere.1 hHere.2.1 hHere.2.2

end Bars

namespace RecommendationResultService

section Windows

variable {value base referenceClose : ℚ} {first : DailyPrice} {rest bars : List DailyPrice}

def change (value base : ℚ) : ℚ := divide (value - base) base * 100

theorem pctChange_eq_ok {out : ℚ} :
    pctChange value base = .ok out ↔ base ≠ 0 ∧ out = change value base := by
  rw [pctChange]
  split
  · rename_i hZero
    exact ⟨fun h => (nomatch h), fun h => absurd hZero h.1⟩
  · rename_i hNonzero
    constructor
    · exact fun h => ⟨hNonzero, (Except.ok.inj h).symm⟩
    · rintro ⟨-, rfl⟩
      rfl

def peak (referenceClose : ℚ) (bars : List DailyPrice) : ℚ :=
  (bars.map DailyPrice.high).foldl max referenceClose

theorem max_maxHigh (referenceClose : ℚ) (first : DailyPrice) (rest : List DailyPrice) :
    max referenceClose (maxHigh first rest) = peak referenceClose (first :: rest) :=
  List.foldl_assoc.symm

/-- What is stored for a window with bars. -/
def windowResult (referenceClose : ℚ) (first : DailyPrice) (rest : List DailyPrice) :
    ComputedResult where
  resultDate := ((first :: rest).getLast (window_ne_nil first rest)).date
  openReturn := some (quantize 4
    (change ((first :: rest).getLast (window_ne_nil first rest)).openPrice referenceClose))
  highReturn := some (quantize 4 (change (maxHigh first rest) referenceClose))
  lowReturn := some (quantize 4 (change (minLow first rest) referenceClose))
  closeReturn := some (quantize 4
    (change ((first :: rest).getLast (window_ne_nil first rest)).close referenceClose))
  maxReturn := some (quantize 4 (change (maxHigh first rest) referenceClose))
  maxDrawdown := some (quantize 4 (change (minLow first rest)
    (peak referenceClose (first :: rest))))
  resultStatus := classifyStatus (change (maxHigh first rest) referenceClose)
    (change (minLow first rest) referenceClose)
    (change ((first :: rest).getLast (window_ne_nil first rest)).close referenceClose)

theorem evaluateWindow_eq_ok {out : ComputedResult} :
    evaluateWindow referenceClose first rest = .ok out ↔
      (referenceClose ≠ 0 ∧ peak referenceClose (first :: rest) ≠ 0) ∧
        out = windowResult referenceClose first rest := by
  simp only [evaluateWindow, except_bind_eq_ok, pctChange_eq_ok, max_maxHigh]
  constructor
  · rintro ⟨_, ⟨hReference, rfl⟩, _, ⟨-, rfl⟩, _, ⟨-, rfl⟩, _, ⟨-, rfl⟩, _, ⟨hPeak, rfl⟩, hOut⟩
    exact ⟨⟨hReference, hPeak⟩, (Except.ok.inj hOut).symm⟩
  · rintro ⟨⟨hReference, hPeak⟩, rfl⟩
    exact ⟨_, ⟨hReference, rfl⟩, _, ⟨hReference, rfl⟩, _, ⟨hReference, rfl⟩, _, ⟨hReference, rfl⟩, _,
      ⟨hPeak, rfl⟩, rfl⟩

/-- No evaluation of the window divides by zero. -/
def Evaluable (referenceClose : ℚ) (bars : List DailyPrice) : Prop :=
  bars = [] ∨ (referenceClose ≠ 0 ∧ peak referenceClose bars ≠ 0)

instance (referenceClose : ℚ) (bars : List DailyPrice) : Decidable (Evaluable referenceClose bars) :=
  inferInstanceAs (Decidable (_ ∨ _))

/-- What is stored for a window. -/
def resultOf (asOf : Int) (referenceClose : ℚ) : List DailyPrice → ComputedResult
  | [] => pendingResult asOf
  | first :: rest => windowResult referenceClose first rest

theorem computeForDaysAfter_eq_ok {prices : DailyPriceTable} {symbol : String}
    {referenceDate asOf daysAfter : Int} {out : ComputedResult} :
    computeForDaysAfter prices symbol referenceDate referenceClose asOf daysAfter = .ok out ↔
      Evaluable referenceClose (barsInWindow symbol referenceDate daysAfter prices) ∧
        out = resultOf asOf referenceClose (barsInWindow symbol referenceDate daysAfter prices) := by
  rw [computeForDaysAfter]
  cases barsInWindow symbol referenceDate daysAfter prices with
  | nil => exact ⟨fun h => ⟨.inl rfl, (Except.ok.inj h).symm⟩, fun h => congrArg Except.ok h.2.symm⟩
  | cons first rest =>
    rw [evaluateWindow_eq_ok]
    exact and_congr_left fun _ => (or_iff_right (List.cons_ne_nil first rest)).symm

theorem le_peak : referenceClose ≤ peak referenceClose bars ∧
    ∀ bar ∈ bars, bar.high ≤ peak referenceClose bars := by
  have h := foldl_max_le_iff.mp (le_refl (peak referenceClose bars))
  exact ⟨h.1, fun bar hBar => h.2 bar.high (List.mem_map_of_mem hBar)⟩

theorem minLow_le {bar : DailyPrice} (hBar : bar ∈ first :: rest) : minLow first rest ≤ bar.low := by
  have h := le_foldl_min_iff.mp (le_refl (minLow first rest))
  rcases List.mem_cons.mp hBar with rfl | hRest
  · exact h.1
  · exact h.2 bar.low (List.mem_map_of_mem hRest)

theorem le_maxHigh {bar : DailyPrice} (hBar : bar ∈ first :: rest) :
    bar.high ≤ maxHigh first rest := by
  have h := foldl_max_le_iff.mp (le_refl (maxHigh first rest))
  rcases List.mem_cons.mp hBar with rfl | hRest
  · exact h.1
  · exact h.2 bar.high (List.mem_map_of_mem hRest)

theorem minLow_mem (first : DailyPrice) (rest : List DailyPrice) :
    ∃ bar ∈ first :: rest, minLow first rest = bar.low := by
  rcases @foldl_min_mem ℚ _ first.low (rest.map DailyPrice.low) with hFirst | hRest
  · exact ⟨first, List.mem_cons_self, hFirst⟩
  · obtain ⟨bar, hBar, hLow⟩ := List.mem_map.mp hRest
    exact ⟨bar, List.mem_cons_of_mem _ hBar, hLow.symm⟩

theorem maxHigh_mem (first : DailyPrice) (rest : List DailyPrice) :
    ∃ bar ∈ first :: rest, maxHigh first rest = bar.high := by
  rcases @foldl_max_mem ℚ _ first.high (rest.map DailyPrice.high) with hFirst | hRest
  · exact ⟨first, List.mem_cons_self, hFirst⟩
  · obtain ⟨bar, hBar, hHigh⟩ := List.mem_map.mp hRest
    exact ⟨bar, List.mem_cons_of_mem _ hBar, hHigh.symm⟩

end Windows

section Runs

variable {call : UpdateCall} {prices : DailyPriceTable} {db : Database} {rec : Int × Recommendation}

/-- The windows evaluated for a recommendation, each a reference bar and a horizon. -/
def windowsOf (call : UpdateCall) (prices : DailyPriceTable) (rec : Int × Recommendation) :
    List (DailyPrice × Int) :=
  match resolveReference rec.2.symbol rec.1 prices with
  | none => []
  | some reference => (targetDays call).map fun n => (reference, n)

def windows (call : UpdateCall) (db : Database) : List (DailyPrice × Int) :=
  (recommendationsOf call db).flatMap (windowsOf call db.dailyPrices)

def lastDay (window : DailyPrice × Int) : Int := window.1.date + window.2

def barsOf (prices : DailyPriceTable) (window : DailyPrice × Int) : List DailyPrice :=
  barsInWindow window.1.symbol window.1.date window.2 prices

theorem mem_barsOf {window : DailyPrice × Int} {bar : DailyPrice} : bar ∈ barsOf prices window ↔
    bar ∈ prices.rows ∧ bar.symbol = window.1.symbol ∧ window.1.date < bar.date ∧
      bar.date ≤ lastDay window := mem_barsInWindow

theorem mem_recommendationsOf : rec ∈ recommendationsOf call db ↔
    ∃ run ∈ db.runs.rows, (call.asOf - call.lookbackDays ≤ run.runDate ∧ run.runDate ≤ call.asOf) ∧
      rec.2 ∈ db.recommendations.rows ∧ rec.2.runId = run.runId ∧ rec.1 = run.runDate := by
  simp only [recommendationsOf, RecommendationRunRepository.listByDateRange,
    RecommendationRepository.listByRunId, List.mem_flatMap, List.mem_insertionSort, List.mem_filter,
    List.mem_map, Bool.and_eq_true, decide_eq_true_iff, beq_iff_eq]
  constructor
  · rintro ⟨run, ⟨hRun, hRange⟩, found, ⟨hFound, hRunId⟩, rfl⟩
    exact ⟨run, hRun, hRange, hFound, hRunId, rfl⟩
  · rintro ⟨run, hRun, hRange, hFound, hRunId, hDate⟩
    exact ⟨run, ⟨hRun, hRange⟩, rec.2, ⟨hFound, hRunId⟩, Prod.ext hDate.symm rfl⟩

theorem mem_windowsOf {window : DailyPrice × Int} : window ∈ windowsOf call prices rec ↔
    resolveReference rec.2.symbol rec.1 prices = some window.1 ∧ window.2 ∈ targetDays call := by
  rw [windowsOf]
  cases resolveReference rec.2.symbol rec.1 prices with
  | none => simp
  | some reference =>
    simp only [List.mem_map, Option.some.injEq]
    constructor
    · rintro ⟨n, hDays, rfl⟩
      exact ⟨rfl, hDays⟩
    · rintro ⟨rfl, hDays⟩
      exact ⟨window.2, hDays, rfl⟩

theorem mem_windows {window : DailyPrice × Int} (h : window ∈ windows call db) :
    window.1 ∈ db.dailyPrices.rows ∧ window.1.date ≤ call.asOf := by
  obtain ⟨rec, hRec, hWindow⟩ := List.mem_flatMap.mp h
  obtain ⟨hBar, -, hDate⟩ := resolveReference_spec (mem_windowsOf.mp hWindow).1
  obtain ⟨run, -, ⟨-, hLast⟩, -, -, hRunDate⟩ := mem_recommendationsOf.mp hRec
  exact ⟨hBar, by omega⟩

/-- The rows of a recommendation, if none of its windows divides by zero. -/
def rowsOf (call : UpdateCall) (prices : DailyPriceTable) (rec : Int × Recommendation) :
    List Write :=
  match resolveReference rec.2.symbol rec.1 prices with
  | none => (targetDays call).map fun n => ⟨rec.2.id, n, pendingResult call.asOf⟩
  | some reference => (targetDays call).map fun n =>
    ⟨rec.2.id, n, resultOf call.asOf reference.close (barsOf prices (reference, n))⟩

theorem writesOf_eq_ok {writes : List Write} : writesOf call prices rec = .ok writes ↔
    (∀ window ∈ windowsOf call prices rec,
      Evaluable window.1.close (barsOf prices window)) ∧ writes = rowsOf call prices rec := by
  rw [writesOf, rowsOf, windowsOf]
  cases hReference : resolveReference rec.2.symbol rec.1 prices with
  | none =>
    exact ⟨fun h => ⟨fun _ hNone => absurd hNone List.not_mem_nil, (Except.ok.inj h).symm⟩,
      fun h => congrArg Except.ok h.2.symm⟩
  | some reference =>
    have hSymbol := (resolveReference_spec hReference).2.1
    simp only [List.forall_mem_map]
    apply mapM_eq_ok_map
    intro n write
    simp only [except_bind_eq_ok, computeForDaysAfter_eq_ok, barsOf, hSymbol]
    constructor
    · rintro ⟨computed, ⟨hGood, rfl⟩, hWrite⟩
      exact ⟨hGood, (Except.ok.inj hWrite).symm⟩
    · rintro ⟨hGood, rfl⟩
      exact ⟨_, ⟨hGood, rfl⟩, rfl⟩

/-- No window of the run divides by zero. -/
def AllEvaluable (call : UpdateCall) (db : Database) : Prop :=
  ∀ window ∈ windows call db, Evaluable window.1.close (barsOf db.dailyPrices window)

instance (call : UpdateCall) (db : Database) : Decidable (AllEvaluable call db) :=
  inferInstanceAs (Decidable (∀ window ∈ windows call db,
    Evaluable window.1.close (barsOf db.dailyPrices window)))

theorem mapM_writesOf_eq_ok {out : List (List Write)} :
    (recommendationsOf call db).mapM (writesOf call db.dailyPrices) = .ok out ↔
      AllEvaluable call db ∧ out = (recommendationsOf call db).map (rowsOf call db.dailyPrices) := by
  rw [mapM_eq_ok_map fun _ _ => writesOf_eq_ok]
  refine and_congr_left fun _ => ?_
  rw [AllEvaluable, windows]
  constructor
  · intro h window hWindow
    obtain ⟨rec, hRec, hIn⟩ := List.mem_flatMap.mp hWindow
    exact h rec hRec window hIn
  · intro h rec hRec window hIn
    exact h window (List.mem_flatMap.mpr ⟨rec, hRec, hIn⟩)

/-- The rows a run stores, by recommendation. One that raises stores none. -/
def written (call : UpdateCall) (db : Database) : List (List Write) :=
  match (recommendationsOf call db).mapM (writesOf call db.dailyPrices) with
  | .ok writes => writes
  | .error _ => []

theorem written_of_evaluable (h : AllEvaluable call db) :
    written call db = (recommendationsOf call db).map (rowsOf call db.dailyPrices) := by
  rw [written, mapM_writesOf_eq_ok.mpr ⟨h, rfl⟩]

theorem written_of_not_evaluable (h : ¬ AllEvaluable call db) : written call db = [] := by
  rw [written]
  cases hRun : (recommendationsOf call db).mapM (writesOf call db.dailyPrices) with
  | ok writes => exact absurd (mapM_writesOf_eq_ok.mp hRun).1 h
  | error => rfl

/-- A run returns exactly if none of its windows divides by zero. -/
theorem updateResults_ok_iff : (∃ out, updateResults call db = .ok out) ↔ AllEvaluable call db := by
  rw [updateResults]
  constructor
  · rintro ⟨out, hOut⟩
    obtain ⟨writes, hWrites, -⟩ := except_bind_eq_ok.mp hOut
    exact (mapM_writesOf_eq_ok.mp hWrites).1
  · intro h
    rw [mapM_writesOf_eq_ok.mpr ⟨h, rfl⟩]
    exact ⟨_, rfl⟩

theorem results_run : (run call db).results =
    (written call db).flatten.foldl RecommendationResultRepository.upsert db.results := by
  rw [run, updateResults, written]
  cases (recommendationsOf call db).mapM (writesOf call db.dailyPrices) with
  | ok writes => rfl
  | error => rfl

end Runs

end RecommendationResultService

/-- One recommendation of day 10 at a close of 100. -/
def oneRecommendation (bars : List DailyPrice) (h : (bars.map DailyPrice.key).Nodup) : Database where
  runs := ⟨[⟨1, 10⟩], List.nodup_singleton 1⟩
  recommendations := ⟨[⟨1, 1, 1, "005930"⟩], List.nodup_singleton 1⟩
  results := .empty
  dailyPrices := ⟨bars, h⟩

def referenceBar : DailyPrice := ⟨"005930", 10, 100, 100, 100, 100⟩

end StockAiPlatform.Results
