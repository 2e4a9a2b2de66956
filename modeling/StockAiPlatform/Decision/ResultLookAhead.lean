import StockAiPlatform.Decision.ResultOutcomes
import StockAiPlatform.Transaction.FirstSeen

/-! # Results and later bars

The window of a recommendation may end after the date of the run, and bars in
it count however late they are. Runs over databases that agree up to the date
store the same rows if no window is open then, or if none can come through.
-/

namespace StockAiPlatform.Results
set_option autoImplicit false

open Transaction RecommendationResultService

/-- The databases hold the same recommendations, and the same bars dated on or before the date. -/
structure AgreeUpTo (d : Int) (db db' : Database) : Prop where
  runs : db.runs = db'.runs
  recommendations : db.recommendations = db'.recommendations
  dailyPrices : ∀ bar : DailyPrice, bar.date ≤ d →
    (bar ∈ db.dailyPrices.rows ↔ bar ∈ db'.dailyPrices.rows)

variable {call : UpdateCall} {db db' db'' : Database}

theorem AgreeUpTo.symm {d : Int} (h : AgreeUpTo d db db') : AgreeUpTo d db' db :=
  ⟨h.runs.symm, h.recommendations.symm, fun bar hBar => (h.dailyPrices bar hBar).symm⟩

theorem AgreeUpTo.trans {d : Int} (h : AgreeUpTo d db db') (h' : AgreeUpTo d db' db'') :
    AgreeUpTo d db db'' :=
  ⟨h.runs.trans h'.runs, h.recommendations.trans h'.recommendations,
    fun bar hBar => (h.dailyPrices bar hBar).trans (h'.dailyPrices bar hBar)⟩

/-- The bars of a window that are not dated after the run. -/
def seen (asOf : Int) (prices : DailyPriceTable) (window : DailyPrice × Int) : List DailyPrice :=
  (barsOf prices window).filter fun bar => bar.date ≤ asOf

/-- Every window has ended by the date of the run. -/
def NoneOpen (call : UpdateCall) (db : Database) : Prop :=
  ∀ window ∈ windows call db, lastDay window ≤ call.asOf

/-- The peak is zero as of the run, and a bar that could raise it comes too late or lets a window
with a zero reference close raise. -/
def StuckAtZero (call : UpdateCall) (db : Database) (window : DailyPrice × Int) : Prop :=
  peak window.1.close (seen call.asOf db.dailyPrices window) = 0 ∧
    (lastDay window ≤ call.asOf ∨ ∃ other ∈ windows call db,
      other.1.symbol = window.1.symbol ∧ other.1.close = 0 ∧ lastDay window ≤ lastDay other)

/-- Whatever bars come later, a window divides by zero. -/
def Doomed (call : UpdateCall) (db : Database) : Prop :=
  ∃ window ∈ windows call db, seen call.asOf db.dailyPrices window ≠ [] ∧
    (window.1.close = 0 ∨ StuckAtZero call db window)

section Agreement

theorem recommendationsOf_congr (h : AgreeUpTo call.asOf db db') :
    recommendationsOf call db = recommendationsOf call db' := by
  simp only [recommendationsOf, h.runs, h.recommendations]

/-- No reference bar is dated after the run. -/
theorem resolveReference_eq (h : AgreeUpTo call.asOf db db') {rec : Int × Recommendation}
    (hRec : rec ∈ recommendationsOf call db) :
    resolveReference rec.2.symbol rec.1 db.dailyPrices =
      resolveReference rec.2.symbol rec.1 db'.dailyPrices := by
  obtain ⟨run, -, ⟨-, hLast⟩, -, -, hDate⟩ := mem_recommendationsOf.mp hRec
  apply resolveReference_congr
  intro bar _ hBar
  exact h.dailyPrices bar (by omega)

theorem windows_congr (h : AgreeUpTo call.asOf db db') : windows call db = windows call db' := by
  rw [windows, windows, ← recommendationsOf_congr h]
  apply List.flatMap_congr
  intro rec hRec
  rw [windowsOf, windowsOf, resolveReference_eq h hRec]

theorem mem_seen {asOf : Int} {prices : DailyPriceTable} {window : DailyPrice × Int}
    {bar : DailyPrice} :
    bar ∈ seen asOf prices window ↔ bar ∈ barsOf prices window ∧ bar.date ≤ asOf := by
  rw [seen, List.mem_filter, decide_eq_true_iff]

theorem barsOf_eq_of_closed (h : AgreeUpTo call.asOf db db') {window : DailyPrice × Int}
    (hClosed : lastDay window ≤ call.asOf) :
    barsOf db.dailyPrices window = barsOf db'.dailyPrices window := by
  apply barsInWindow_congr
  intro bar _ _ hLast
  exact h.dailyPrices bar (hLast.trans hClosed)

theorem written_of_noneOpen (h : AgreeUpTo call.asOf db db') (hNone : NoneOpen call db) :
    written call db' = written call db := by
  have hEach : ∀ rec ∈ recommendationsOf call db,
      rowsOf call db'.dailyPrices rec = rowsOf call db.dailyPrices rec := by
    intro rec hRec
    simp only [rowsOf, ← resolveReference_eq h hRec]
    cases hReference : resolveReference rec.2.symbol rec.1 db.dailyPrices with
    | none => rfl
    | some reference =>
      refine List.map_congr_left fun n hDays => ?_
      have hWindow : (reference, n) ∈ windows call db :=
        List.mem_flatMap.mpr ⟨rec, hRec, mem_windowsOf.mpr ⟨hReference, hDays⟩⟩
      rw [barsOf_eq_of_closed h (hNone _ hWindow)]
  have hGood : AllEvaluable call db' ↔ AllEvaluable call db := by
    rw [AllEvaluable, AllEvaluable, ← windows_congr h]
    refine forall₂_congr fun window hWindow => ?_
    rw [barsOf_eq_of_closed h (hNone window hWindow)]
  by_cases hRuns : AllEvaluable call db
  · rw [written_of_evaluable hRuns, written_of_evaluable (hGood.mpr hRuns),
      ← recommendationsOf_congr h]
    exact List.map_congr_left hEach
  · rw [written_of_not_evaluable hRuns, written_of_not_evaluable fun h => hRuns (hGood.mp h)]

end Agreement

section Raising

theorem mem_seen_congr (h : AgreeUpTo call.asOf db db') {window : DailyPrice × Int}
    {bar : DailyPrice} : bar ∈ seen call.asOf db.dailyPrices window ↔
      bar ∈ seen call.asOf db'.dailyPrices window := by
  rw [mem_seen, mem_seen, mem_barsOf, mem_barsOf]
  refine and_congr_left fun hSeen => and_congr_left fun _ => h.dailyPrices bar hSeen

theorem pairwise_seen (asOf : Int) (prices : DailyPriceTable) (window : DailyPrice × Int) :
    (seen asOf prices window).Pairwise fun a b => a.date < b.date :=
  pairwise_barsInWindow.filter _

theorem seen_congr (h : AgreeUpTo call.asOf db db') (window : DailyPrice × Int) :
    seen call.asOf db.dailyPrices window = seen call.asOf db'.dailyPrices window :=
  eq_of_mem_iff (pairwise_seen _ _ _) (pairwise_seen _ _ _) fun _ => mem_seen_congr h

/-- A window without a later bar is what was seen of it. -/
theorem seen_eq_barsOf {asOf : Int} {prices : DailyPriceTable} {window : DailyPrice × Int}
    (h : ∀ bar ∈ barsOf prices window, bar.date ≤ asOf) :
    seen asOf prices window = barsOf prices window :=
  List.filter_eq_self.mpr fun bar hBar => decide_eq_true (h bar hBar)

theorem not_evaluable_of_zero {prices : DailyPriceTable} {window : DailyPrice × Int}
    {bar : DailyPrice} (hBar : bar ∈ barsOf prices window) (hZero : window.1.close = 0) :
    ¬ Evaluable window.1.close (barsOf prices window) := by
  rintro (hNil | ⟨hClose, -⟩)
  · exact List.ne_nil_of_mem hBar hNil
  · exact hClose hZero

/-- A doomed run raises in every database that agrees with it. -/
theorem not_evaluable_of_doomed (h : AgreeUpTo call.asOf db db') (hDoomed : Doomed call db) :
    ¬ AllEvaluable call db' := by
  intro hAll
  obtain ⟨window, hWindow, hSeen, hBad⟩ := hDoomed
  rw [windows_congr h] at hWindow
  have hGood := hAll window hWindow
  rw [seen_congr h] at hSeen
  obtain ⟨bar, hBar⟩ := List.exists_mem_of_ne_nil _ hSeen
  rcases hBad with hZero | ⟨hPeak, hStuck⟩
  · exact not_evaluable_of_zero (mem_seen.mp hBar).1 hZero hGood
  · rw [seen_congr h] at hPeak
    by_cases hLater : ∃ late ∈ barsOf db'.dailyPrices window, call.asOf < late.date
    · -- the later bar lies in the window with the zero reference close as well
      obtain ⟨late, hLate, hAfter⟩ := hLater
      obtain ⟨hRow, hSymbol, -, hLast⟩ := mem_barsOf.mp hLate
      obtain ⟨other, hOther, hSame, hZero, hEnds⟩ :=
        hStuck.resolve_left fun hClosed => absurd (hLast.trans hClosed) (not_le_of_gt hAfter)
      rw [windows_congr h] at hOther
      have hStart := (mem_windows hOther).2
      exact not_evaluable_of_zero (mem_barsOf.mpr ⟨hRow, hSymbol.trans hSame.symm,
        lt_of_le_of_lt hStart hAfter, hLast.trans hEnds⟩) hZero (hAll other hOther)
    · have hNone : ∀ bar ∈ barsOf db'.dailyPrices window, bar.date ≤ call.asOf := by
        intro bar hBar
        by_contra hAfter
        exact hLater ⟨bar, hBar, lt_of_not_ge hAfter⟩
      rw [seen_eq_barsOf hNone] at hPeak hSeen
      rcases hGood with hNil | ⟨-, hNonzero⟩
      · exact hSeen hNil
      · exact hNonzero hPeak

end Raising

section Later

variable {prices : DailyPriceTable} {asOf : Int} {symbols : List String} {day : String → Int}

def barOfOne (symbol : String) (date : Int) : DailyPrice := .flat symbol date 1

/-- The bars up to a date and one later bar for each of the symbols. -/
def laterRows (prices : DailyPriceTable) (asOf : Int) (symbols : List String)
    (day : String → Int) : List DailyPrice :=
  (prices.rows.filter fun bar => bar.date ≤ asOf) ++
    symbols.map fun symbol => barOfOne symbol (day symbol)

theorem laterRows_unique (hSymbols : symbols.Nodup) (hDay : ∀ symbol, asOf < day symbol) :
    ((laterRows prices asOf symbols day).map DailyPrice.key).Nodup := by
  rw [laterRows, List.map_append, List.map_map, List.nodup_append]
  refine ⟨prices.symbol_date_unique.sublist (List.filter_sublist.map _), ?_, ?_⟩
  · exact hSymbols.map fun a b hSame => congrArg Prod.fst hSame
  · intro early hEarly late hLate hSame
    obtain ⟨bar, hBar, rfl⟩ := List.mem_map.mp hEarly
    obtain ⟨symbol, -, rfl⟩ := List.mem_map.mp hLate
    have hDate : bar.date = day symbol := congrArg Prod.snd hSame
    have hLast := of_decide_eq_true (List.mem_filter.mp hBar).2
    have hFirst := hDay symbol
    omega

def withLater (prices : DailyPriceTable) (asOf : Int) (symbols : List String) (day : String → Int)
    (hSymbols : symbols.Nodup) (hDay : ∀ symbol, asOf < day symbol) : DailyPriceTable where
  rows := laterRows prices asOf symbols day
  symbol_date_unique := laterRows_unique hSymbols hDay

theorem mem_laterRows {bar : DailyPrice} : bar ∈ laterRows prices asOf symbols day ↔
    (bar ∈ prices.rows ∧ bar.date ≤ asOf) ∨
      ∃ symbol ∈ symbols, bar = barOfOne symbol (day symbol) := by
  rw [laterRows, List.mem_append, List.mem_filter, decide_eq_true_iff, List.mem_map]
  exact or_congr_right ⟨fun ⟨symbol, hSymbol, hBar⟩ => ⟨symbol, hSymbol, hBar.symm⟩,
    fun ⟨symbol, hSymbol, hBar⟩ => ⟨symbol, hSymbol, hBar.symm⟩⟩

theorem agreeUpTo_withLater (db : Database) (hSymbols : symbols.Nodup)
    (hDay : ∀ symbol, asOf < day symbol) : AgreeUpTo asOf db
      { db with dailyPrices := withLater db.dailyPrices asOf symbols day hSymbols hDay } where
  runs := rfl
  recommendations := rfl
  dailyPrices := by
    intro bar hBar
    change _ ↔ bar ∈ laterRows db.dailyPrices asOf symbols day
    rw [mem_laterRows]
    constructor
    · exact fun h => .inl ⟨h, hBar⟩
    · rintro (h | ⟨symbol, -, rfl⟩)
      · exact h.1
      · exact absurd hBar (not_le_of_gt (hDay symbol))

/-- The first day after the run on which no window of the symbol with a zero reference close is
open. -/
def dayAfterZeros (call : UpdateCall) (db : Database) (symbol : String) : Int :=
  (((windows call db).filter fun window => window.1.symbol == symbol && window.1.close == 0).map
    lastDay).foldl max call.asOf + 1

theorem dayAfterZeros_le_iff {symbol : String} {d : Int} : dayAfterZeros call db symbol ≤ d ↔
    call.asOf < d ∧ ∀ window ∈ windows call db, window.1.symbol = symbol → window.1.close = 0 →
      lastDay window < d := by
  rw [dayAfterZeros, Int.add_one_le_iff, foldl_max_lt_iff]
  refine and_congr_right fun _ => ?_
  simp only [List.forall_mem_map, List.mem_filter, Bool.and_eq_true, beq_iff_eq, and_imp]

theorem asOf_lt_dayAfterZeros (symbol : String) : call.asOf < dayAfterZeros call db symbol :=
  (dayAfterZeros_le_iff.mp (le_refl _)).1

def symbolsOf (call : UpdateCall) (db : Database) : List String :=
  firstSeen [] ((windows call db).map fun window => window.1.symbol)

/-- The database once the windows with a zero reference close are past. -/
def afterZeros (call : UpdateCall) (db : Database) : Database :=
  { db with
    dailyPrices := withLater db.dailyPrices call.asOf (symbolsOf call db) (dayAfterZeros call db)
      (nodup_firstSeen [] _) asOf_lt_dayAfterZeros }

theorem agreeUpTo_afterZeros : AgreeUpTo call.asOf db (afterZeros call db) :=
  agreeUpTo_withLater db (nodup_firstSeen [] _) asOf_lt_dayAfterZeros

theorem mem_afterZeros {bar : DailyPrice} : bar ∈ (afterZeros call db).dailyPrices.rows ↔
    (bar ∈ db.dailyPrices.rows ∧ bar.date ≤ call.asOf) ∨
      ∃ symbol ∈ symbolsOf call db, bar = barOfOne symbol (dayAfterZeros call db symbol) :=
  mem_laterRows

/-- A bar of one lifts the peak over zero. -/
theorem peak_ne_zero_of_barOfOne {close : ℚ} {bars : List DailyPrice} {symbol : String} {d : Int}
    (h : barOfOne symbol d ∈ bars) : peak close bars ≠ 0 := by
  intro hZero
  have hHigh : (barOfOne symbol d).high ≤ peak close bars := le_peak.2 _ h
  rw [hZero] at hHigh
  exact absurd hHigh (not_le_of_gt zero_lt_one)

/-- A bar of a window comes from the old table, or is the bar of one of its symbol. -/
theorem early_or_barOfOne {window : DailyPrice × Int} {bar : DailyPrice}
    (h : bar ∈ barsOf (afterZeros call db).dailyPrices window) :
    bar.date ≤ call.asOf ∨
      bar = barOfOne window.1.symbol (dayAfterZeros call db window.1.symbol) := by
  obtain ⟨hRow, hSame, -⟩ := mem_barsOf.mp h
  rcases mem_afterZeros.mp hRow with hEarly | ⟨symbol, -, rfl⟩
  · exact .inl hEarly.2
  · exact .inr (by rw [← hSame]; rfl)

/-- A window with a zero peak is still open on the day after the zeros. -/
theorem dayAfterZeros_le_of_peak (hDoomed : ¬ Doomed call db) {window : DailyPrice × Int}
    (hWindow : window ∈ windows call db) (hNil : seen call.asOf db.dailyPrices window ≠ [])
    (hPeak : peak window.1.close (seen call.asOf db.dailyPrices window) = 0) :
    dayAfterZeros call db window.1.symbol ≤ lastDay window := by
  by_contra hTooLate
  refine hDoomed ⟨window, hWindow, hNil, .inr ⟨hPeak, ?_⟩⟩
  rw [dayAfterZeros_le_iff, not_and_or, not_lt] at hTooLate
  refine hTooLate.imp id fun hZeros => ?_
  push Not at hZeros
  exact hZeros

theorem evaluable_afterZeros (hDoomed : ¬ Doomed call db) :
    AllEvaluable call (afterZeros call db) := by
  have hAgree : AgreeUpTo call.asOf db (afterZeros call db) := agreeUpTo_afterZeros
  intro window hWindow
  rw [← windows_congr hAgree] at hWindow
  by_cases hNil : barsOf (afterZeros call db).dailyPrices window = []
  · exact .inl hNil
  refine .inr ⟨fun hZero => ?_, fun hPeak => ?_⟩
  · obtain ⟨bar, hBar⟩ := List.exists_mem_of_ne_nil _ hNil
    rcases early_or_barOfOne hBar with hEarly | rfl
    · have hSeen := (mem_seen_congr hAgree).mpr (mem_seen.mpr ⟨hBar, hEarly⟩)
      exact hDoomed ⟨window, hWindow, List.ne_nil_of_mem hSeen, .inl hZero⟩
    · have hEnds := (mem_barsOf.mp hBar).2.2.2
      exact lt_irrefl _ ((dayAfterZeros_le_iff.mp hEnds).2 window hWindow rfl hZero)
  · have hEarly : ∀ bar ∈ barsOf (afterZeros call db).dailyPrices window, bar.date ≤ call.asOf := by
      intro bar hBar
      refine (early_or_barOfOne hBar).resolve_right ?_
      rintro rfl
      exact peak_ne_zero_of_barOfOne hBar hPeak
    rw [← seen_eq_barsOf hEarly, ← seen_congr hAgree] at hPeak hNil
    have hSymbol : window.1.symbol ∈ symbolsOf call db :=
      mem_firstSeen.mpr ⟨List.mem_map_of_mem hWindow, List.not_mem_nil⟩
    have hLate : barOfOne window.1.symbol (dayAfterZeros call db window.1.symbol) ∈
        barsOf (afterZeros call db).dailyPrices window :=
      mem_barsOf.mpr ⟨mem_afterZeros.mpr (.inr ⟨_, hSymbol, rfl⟩), rfl,
        lt_of_le_of_lt (mem_windows hWindow).2 (asOf_lt_dayAfterZeros _),
        dayAfterZeros_le_of_peak hDoomed hWindow hNil hPeak⟩
    exact absurd (hEarly _ hLate) (not_le_of_gt (asOf_lt_dayAfterZeros _))

end Later

section Open

variable {prices : DailyPriceTable} {asOf : Int} {window : DailyPrice × Int}

/-- A result is dated by the newest bar of its window. -/
theorem le_resultDate {referenceClose : ℚ} {bars : List DailyPrice} {bar : DailyPrice}
    (hSorted : bars.Pairwise fun a b => a.date < b.date) (hBar : bar ∈ bars) :
    bar.date ≤ (resultOf asOf referenceClose bars).resultDate := by
  cases bars with
  | nil => cases hBar
  | cons first rest =>
    change bar.date ≤ ((first :: rest).getLast (List.cons_ne_nil first rest)).date
    rw [← List.dropLast_append_getLast (List.cons_ne_nil first rest)] at hSorted hBar
    rcases List.mem_append.mp hBar with hEarlier | hLast
    · rw [List.pairwise_append] at hSorted
      exact le_of_lt (hSorted.2.2 bar hEarlier _ (List.mem_singleton_self _))
    · rw [← List.mem_singleton.mp hLast]

theorem resultDate_le {referenceClose : ℚ} {bars : List DailyPrice}
    (h : ∀ bar ∈ bars, bar.date ≤ asOf) : (resultOf asOf referenceClose bars).resultDate ≤ asOf := by
  cases bars with
  | nil => exact le_refl asOf
  | cons first rest => exact h _ (List.getLast_mem _)

/-- The database without later bars. -/
def withoutLater (asOf : Int) (db : Database) : Database :=
  { db with
    dailyPrices := withLater db.dailyPrices asOf [] (fun _ => asOf + 1) List.nodup_nil
      fun _ => Int.lt_succ asOf }

/-- The database with a bar of the symbol on the next day and no other later bar. -/
def withNextDay (asOf : Int) (symbol : String) (db : Database) : Database :=
  { db with
    dailyPrices := withLater db.dailyPrices asOf [symbol] (fun _ => asOf + 1)
      (List.nodup_singleton symbol) fun _ => Int.lt_succ asOf }

theorem resultDate_withoutLater (db : Database) (window : DailyPrice × Int) :
    (resultOf asOf window.1.close
      (barsOf (withoutLater asOf db).dailyPrices window)).resultDate ≤ asOf := by
  apply resultDate_le
  intro bar hBar
  rcases mem_laterRows.mp (mem_barsOf.mp hBar).1 with hEarly | ⟨symbol, hNone, -⟩
  · exact hEarly.2
  · cases hNone

theorem lt_resultDate_withNextDay (db : Database) (hStart : window.1.date ≤ asOf)
    (hOpen : asOf < lastDay window) :
    asOf < (resultOf asOf window.1.close
      (barsOf (withNextDay asOf window.1.symbol db).dailyPrices window)).resultDate := by
  have hRow : barOfOne window.1.symbol (asOf + 1) ∈
      (withNextDay asOf window.1.symbol db).dailyPrices.rows :=
    mem_laterRows.mpr (.inr ⟨_, List.mem_singleton_self _, rfl⟩)
  have hBar : barOfOne window.1.symbol (asOf + 1) ∈
      barsOf (withNextDay asOf window.1.symbol db).dailyPrices window :=
    mem_barsOf.mpr ⟨hRow, rfl, Int.lt_add_one_of_le hStart, hOpen⟩
  exact lt_of_lt_of_le (Int.lt_succ asOf) (le_resultDate pairwise_barsInWindow hBar)

/-- Runs that store the same rows store the same result for each of their windows. -/
theorem resultOf_eq_of_written (hAgree : AgreeUpTo call.asOf db db') (hGood : AllEvaluable call db)
    (hGood' : AllEvaluable call db') (hSame : written call db = written call db')
    (hWindow : window ∈ windows call db) :
    resultOf call.asOf window.1.close (barsOf db.dailyPrices window) =
      resultOf call.asOf window.1.close (barsOf db'.dailyPrices window) := by
  rw [written_of_evaluable hGood, written_of_evaluable hGood', ← recommendationsOf_congr hAgree,
    List.map_inj_left] at hSame
  obtain ⟨rec, hRec, hIn⟩ := List.mem_flatMap.mp hWindow
  obtain ⟨hReference, hDays⟩ := mem_windowsOf.mp hIn
  have hRows := hSame rec hRec
  simp only [rowsOf, ← resolveReference_eq hAgree hRec, hReference, List.map_inj_left] at hRows
  exact congrArg Write.columns (hRows window.2 hDays)

theorem evaluable_of_written_ne_nil (h : written call db ≠ []) : AllEvaluable call db := by
  by_contra hBad
  exact h (written_of_not_evaluable hBad)

theorem not_open_of_same (hDoomed : ¬ Doomed call db)
    (hSame : ∀ db', AgreeUpTo call.asOf db db' → written call db' = written call db) :
    NoneOpen call db := by
  intro window hWindow
  by_contra hOpen
  rw [not_le] at hOpen
  have hZeros : AgreeUpTo call.asOf db (afterZeros call db) := agreeUpTo_afterZeros
  have hWithout : AgreeUpTo call.asOf db (withoutLater call.asOf db) := agreeUpTo_withLater db _ _
  have hNext : AgreeUpTo call.asOf db (withNextDay call.asOf window.1.symbol db) :=
    agreeUpTo_withLater db _ _
  have hSome : written call db ≠ [] := by
    rw [← hSame _ hZeros, written_of_evaluable (evaluable_afterZeros hDoomed),
      ← recommendationsOf_congr hZeros, Ne, List.map_eq_nil_iff]
    obtain ⟨rec, hRec, -⟩ := List.mem_flatMap.mp hWindow
    exact List.ne_nil_of_mem hRec
  -- without later bars the result is dated by the run at the latest, with one on the next day later
  have hGood := evaluable_of_written_ne_nil ((hSame _ hWithout).symm ▸ hSome)
  have hGood' := evaluable_of_written_ne_nil ((hSame _ hNext).symm ▸ hSome)
  have hResult := resultOf_eq_of_written (hWithout.symm.trans hNext) hGood hGood'
    ((hSame _ hWithout).trans (hSame _ hNext).symm) (windows_congr hWithout ▸ hWindow)
  have hEarly := @resultDate_withoutLater call.asOf db window
  rw [hResult] at hEarly
  exact absurd hEarly (not_le_of_gt (lt_resultDate_withNextDay db (mem_windows hWindow).2 hOpen))

theorem sameRows_iff (call : UpdateCall) (db : Database) :
    (∀ db', AgreeUpTo call.asOf db db' → written call db' = written call db) ↔
      NoneOpen call db ∨ Doomed call db := by
  constructor
  · intro hSame
    by_cases hDoomed : Doomed call db
    · exact .inr hDoomed
    · exact .inl (not_open_of_same hDoomed hSame)
  · rintro (hNone | hDoomed) db' hAgree
    · exact written_of_noneOpen hAgree hNone
    · rw [written_of_not_evaluable (not_evaluable_of_doomed hAgree hDoomed),
        written_of_not_evaluable (not_evaluable_of_doomed ⟨rfl, rfl, fun _ _ => Iff.rfl⟩ hDoomed)]

def laterBar : DailyPrice := ⟨"005930", 12, 105, 105, 105, 105⟩

theorem sameRows_laterBar : ¬ ∀ (call : UpdateCall) (db db' : Database),
    AgreeUpTo call.asOf db db' → written call db = written call db' := by
  intro h
  have hAgree : AgreeUpTo 10 (oneRecommendation [referenceBar] (List.nodup_singleton _))
      (oneRecommendation [referenceBar, laterBar] (by decide)) := by
    refine ⟨rfl, rfl, fun bar hBar => ?_⟩
    change bar ∈ [referenceBar] ↔ bar ∈ [referenceBar, laterBar]
    rw [List.mem_singleton, List.mem_pair, or_iff_left]
    rintro rfl
    exact absurd hBar (by decide)
  exact absurd (h { asOf := 10 } _ _ hAgree) (by decide +kernel)

end Open

end StockAiPlatform.Results
