import StockAiPlatform.Decision.ResultOutcomes
import StockAiPlatform.Python.Rounding

/-! # Verdicts and later bars

A run evaluates a recommendation again as long as it lies in the lookback, and
writes over the verdict it finds. Bars that come into the window may turn a
success into a failure or back into no verdict, and move the last close.
-/

namespace StockAiPlatform.Results
set_option autoImplicit false

open Transaction Python RecommendationResultService

section Storage

open RecommendationResultRepository

variable {results : Table RecommendationResult} {write : Write} {writes : List Write}
  {recommendationId : Nat} {daysAfter : Int} {columns : ComputedResult}

/-- What is stored for a recommendation and a horizon. -/
def columnsAt (recommendationId : Nat) (daysAfter : Int) (results : Table RecommendationResult) :
    Option ComputedResult :=
  (getByRecommendationDays recommendationId daysAfter results).map
    RecommendationResult.toComputedResult

theorem find?_map_of_same {α : Type} {p : α → Bool} {f : α → α} (h : ∀ row, p (f row) = p row)
    (rows : List α) : (rows.map f).find? p = (rows.find? p).map f := by
  rw [List.find?_map]
  exact congrArg (Option.map f) (congrFun (congrArg List.find? (funext h)) rows)

theorem sameKey_setColumns (row : RecommendationResult) (here : RecommendationResult → Bool) :
    sameKey recommendationId daysAfter (if here row then setColumns columns row else row) =
      sameKey recommendationId daysAfter row := by
  split <;> rfl

theorem sameKey_iff {row : RecommendationResult} : sameKey recommendationId daysAfter row = true ↔
    key row = (recommendationId, daysAfter) := beq_iff_eq

theorem columnsAt_upsert : columnsAt recommendationId daysAfter (upsert results write) =
    if (write.recommendationId, write.daysAfter) = (recommendationId, daysAfter) then
      some write.columns
    else columnsAt recommendationId daysAfter results := by
  rw [upsert]
  cases hFound : getByRecommendationDays write.recommendationId write.daysAfter results with
  | some row =>
    simp only [columnsAt, getByRecommendationDays, Table.rows_updateWhere, updateWhere]
    rw [find?_map_of_same (sameKey_setColumns · _)]
    split
    · rename_i hHere
      obtain ⟨hId, hDays⟩ := Prod.ext_iff.mp hHere
      subst hId hDays
      have hKey := List.find?_some hFound
      rw [getByRecommendationDays] at hFound
      rw [hFound, Option.map_some, if_pos hKey]
      rfl
    · rename_i hElsewhere
      cases hOther : results.rows.find? (sameKey recommendationId daysAfter) with
      | none => rfl
      | some other =>
        have hKey := sameKey_iff.mp (List.find?_some hOther)
        rw [Option.map_some, if_neg fun hSame => hElsewhere ((sameKey_iff.mp hSame).symm.trans hKey)]
  | none =>
    simp only [columnsAt, getByRecommendationDays]
    rw [Table.rows_insert_of_key_eq rfl, List.find?_append, List.find?_singleton]
    have hKey := @sameKey_iff recommendationId daysAfter
      ⟨write.columns, results.nextKey, write.recommendationId, write.daysAfter⟩
    by_cases hHere : (write.recommendationId, write.daysAfter) = (recommendationId, daysAfter)
    · rw [if_pos hHere, if_pos (hKey.mpr hHere)]
      obtain ⟨hId, hDays⟩ := Prod.ext_iff.mp hHere
      subst hId hDays
      rw [getByRecommendationDays] at hFound
      rw [hFound]
      rfl
    · rw [if_neg hHere, if_neg fun hSame => hHere (hKey.mp hSame), Option.or_none]

theorem columnsAt_foldl_of_notMem
    (h : ∀ write ∈ writes, (write.recommendationId, write.daysAfter) ≠ (recommendationId, daysAfter)) :
    columnsAt recommendationId daysAfter (writes.foldl upsert results) =
      columnsAt recommendationId daysAfter results := by
  induction writes generalizing results with
  | nil => rfl
  | cons write writes ih =>
    rw [List.forall_mem_cons] at h
    rw [List.foldl_cons, ih h.2, columnsAt_upsert, if_neg h.1]

/-- Writes under one key that agree leave what they write. -/
theorem columnsAt_foldl_of_mem
    (hSome : ∃ write ∈ writes,
      (write.recommendationId, write.daysAfter) = (recommendationId, daysAfter))
    (hSame : ∀ write ∈ writes,
      (write.recommendationId, write.daysAfter) = (recommendationId, daysAfter) →
        write.columns = columns) :
    columnsAt recommendationId daysAfter (writes.foldl upsert results) = some columns := by
  induction writes generalizing results with
  | nil => simp at hSome
  | cons write writes ih =>
    rw [List.exists_mem_cons_iff] at hSome
    rw [List.forall_mem_cons] at hSame
    by_cases hLater : ∃ write ∈ writes,
        (write.recommendationId, write.daysAfter) = (recommendationId, daysAfter)
    · exact ih hLater hSame.2
    · have hHere := hSome.resolve_right hLater
      rw [List.foldl_cons, columnsAt_foldl_of_notMem fun other hOther hKey =>
        hLater ⟨other, hOther, hKey⟩, columnsAt_upsert, if_pos hHere, hSame.1 hHere]

end Storage

section Runs

variable {call : UpdateCall} {db : Database} {rec rec' : Int × Recommendation} {n : Int}

/-- A stored recommendation with the date of its run. -/
def IsStored (db : Database) (rec : Int × Recommendation) : Prop :=
  ∃ run ∈ db.runs.rows, rec.2 ∈ db.recommendations.rows ∧ rec.2.runId = run.runId ∧
    rec.1 = run.runDate

def InLookback (call : UpdateCall) (rec : Int × Recommendation) : Prop :=
  call.asOf - call.lookbackDays ≤ rec.1 ∧ rec.1 ≤ call.asOf

theorem mem_recommendationsOf_iff :
    rec ∈ recommendationsOf call db ↔ IsStored db rec ∧ InLookback call rec := by
  rw [mem_recommendationsOf]
  constructor
  · rintro ⟨run, hRun, hRange, hRec, hRunId, hDate⟩
    exact ⟨⟨run, hRun, hRec, hRunId, hDate⟩, by rwa [InLookback, hDate]⟩
  · rintro ⟨⟨run, hRun, hRec, hRunId, hDate⟩, hRange⟩
    exact ⟨run, hRun, by rwa [InLookback, hDate] at hRange, hRec, hRunId, hDate⟩

theorem IsStored.eq_of_id (h : IsStored db rec) (h' : IsStored db rec')
    (hId : rec.2.id = rec'.2.id) : rec = rec' := by
  obtain ⟨run, hRun, hRec, hRunId, hDate⟩ := h
  obtain ⟨run', hRun', hRec', hRunId', hDate'⟩ := h'
  have hSame : rec.2 = rec'.2 := List.inj_on_of_nodup_map db.recommendations.nodup hRec hRec' hId
  have hRuns : run = run' := by
    refine List.inj_on_of_nodup_map db.runs.nodup hRun hRun' ?_
    exact (hRunId.symm.trans (congrArg Recommendation.runId hSame)).trans hRunId'
  exact Prod.ext (hDate.trans (hRuns ▸ hDate'.symm)) hSame

/-- What a run computes for a recommendation and a horizon. -/
def columnsOf (call : UpdateCall) (prices : DailyPriceTable) (rec : Int × Recommendation)
    (n : Int) : ComputedResult :=
  match resolveReference rec.2.symbol rec.1 prices with
  | none => pendingResult call.asOf
  | some reference => resultOf call.asOf reference.close (barsOf prices (reference, n))

theorem rowsOf_eq (call : UpdateCall) (prices : DailyPriceTable) (rec : Int × Recommendation) :
    rowsOf call prices rec =
      (targetDays call).map fun n => ⟨rec.2.id, n, columnsOf call prices rec n⟩ := by
  simp only [rowsOf, columnsOf]
  cases resolveReference rec.2.symbol rec.1 prices <;> rfl

theorem mem_written {write : Write} (h : AllEvaluable call db) :
    write ∈ (written call db).flatten ↔ ∃ rec ∈ recommendationsOf call db,
      ∃ n ∈ targetDays call, write = ⟨rec.2.id, n, columnsOf call db.dailyPrices rec n⟩ := by
  rw [written_of_evaluable h, List.mem_flatten]
  simp only [List.mem_map, rowsOf_eq]
  constructor
  · rintro ⟨_, ⟨rec, hRec, rfl⟩, hWrite⟩
    obtain ⟨n, hDays, rfl⟩ := List.mem_map.mp hWrite
    exact ⟨rec, hRec, n, hDays, rfl⟩
  · rintro ⟨rec, hRec, n, hDays, rfl⟩
    exact ⟨_, ⟨rec, hRec, rfl⟩, List.mem_map.mpr ⟨n, hDays, rfl⟩⟩

theorem columnsAt_run (h : AllEvaluable call db) (hRec : rec ∈ recommendationsOf call db)
    (hDays : n ∈ targetDays call) : columnsAt rec.2.id n (run call db).results =
      some (columnsOf call db.dailyPrices rec n) := by
  rw [results_run]
  apply columnsAt_foldl_of_mem
  · exact ⟨_, (mem_written h).mpr ⟨rec, hRec, n, hDays, rfl⟩, rfl⟩
  · intro write hWrite hKey
    obtain ⟨other, hOther, m, -, rfl⟩ := (mem_written h).mp hWrite
    obtain ⟨hId, hSame⟩ := Prod.ext_iff.mp hKey
    have hStored := (mem_recommendationsOf_iff.mp hOther).1
    cases hStored.eq_of_id (mem_recommendationsOf_iff.mp hRec).1 hId
    cases hSame
    rfl

/-- The run does not come to the recommendation and horizon, or raises. -/
def LeftAlone (call : UpdateCall) (db : Database) (rec : Int × Recommendation) (n : Int) : Prop :=
  ¬ InLookback call rec ∨ n ∉ targetDays call ∨ ¬ AllEvaluable call db

theorem columnsAt_run_of_leftAlone (hStored : IsStored db rec) (h : LeftAlone call db rec n) :
    columnsAt rec.2.id n (run call db).results = columnsAt rec.2.id n db.results := by
  rw [results_run]
  by_cases hGood : AllEvaluable call db
  · apply columnsAt_foldl_of_notMem
    intro write hWrite hKey
    obtain ⟨other, hOther, m, hDays, rfl⟩ := (mem_written hGood).mp hWrite
    obtain ⟨hOtherStored, hIn⟩ := mem_recommendationsOf_iff.mp hOther
    obtain ⟨hId, hSame⟩ := Prod.ext_iff.mp hKey
    cases hOtherStored.eq_of_id hStored hId
    cases hSame
    rcases h with hOut | hNone | hBad
    · exact hOut hIn
    · exact hNone hDays
    · exact hBad hGood
  · rw [written_of_not_evaluable hGood]
    rfl

end Runs

section Thresholds

variable {reference value value' : ℚ} {first : DailyPrice} {rest bars old added : List DailyPrice}

theorem change_mono (hReference : 0 < reference) (h : value ≤ value') :
    change value reference ≤ change value' reference := by
  refine mul_le_mul_of_nonneg_right (divide_mono ?_) (by norm_num)
  exact div_le_div_of_nonneg_right (sub_le_sub_right h reference) hReference.le

theorem change_anti (hReference : reference ≤ 0) (h : value ≤ value') :
    change value' reference ≤ change value reference := by
  refine mul_le_mul_of_nonneg_right (divide_mono ?_) (by norm_num)
  exact div_le_div_of_nonpos_of_le hReference (sub_le_sub_right h reference)

def Fell (reference : ℚ) (bar : DailyPrice) : Prop :=
  change bar.low reference ≤ failedLowThreshold

def Rose (reference : ℚ) (bar : DailyPrice) : Prop :=
  successHighThreshold ≤ change bar.high reference

def ClosedUp (reference : ℚ) (bars : List DailyPrice) : Prop :=
  ∃ bar, bars.getLast? = some bar ∧ successCloseThreshold ≤ change bar.close reference

/-- Whether the extreme of the bars is beyond a threshold. The returns on a negative reference close
run the other way, so that the extreme is the one that moved least. -/
def Reaches (reference : ℚ) (beyond : DailyPrice → Prop) (bars : List DailyPrice) : Prop :=
  if 0 < reference then ∃ bar ∈ bars, beyond bar else ∀ bar ∈ bars, beyond bar

theorem lowReturn_le_iff : change (minLow first rest) reference ≤ failedLowThreshold ↔
    Reaches reference (Fell reference) (first :: rest) := by
  obtain ⟨lowest, hLowest, hLow⟩ := minLow_mem first rest
  rw [Reaches]
  split
  · rename_i hPos
    constructor
    · intro h
      rw [hLow] at h
      exact ⟨lowest, hLowest, h⟩
    · rintro ⟨bar, hBar, hFell⟩
      exact (change_mono hPos (minLow_le hBar)).trans hFell
  · rename_i hNeg
    constructor
    · intro h bar hBar
      exact (change_anti (not_lt.mp hNeg) (minLow_le hBar)).trans h
    · intro h
      rw [hLow]
      exact h lowest hLowest

theorem le_highReturn_iff : successHighThreshold ≤ change (maxHigh first rest) reference ↔
    Reaches reference (Rose reference) (first :: rest) := by
  obtain ⟨highest, hHighest, hHigh⟩ := maxHigh_mem first rest
  rw [Reaches]
  split
  · rename_i hPos
    constructor
    · intro h
      rw [hHigh] at h
      exact ⟨highest, hHighest, h⟩
    · rintro ⟨bar, hBar, hRose⟩
      exact hRose.trans (change_mono hPos (le_maxHigh hBar))
  · rename_i hNeg
    constructor
    · intro h bar hBar
      exact h.trans (change_anti (not_lt.mp hNeg) (le_maxHigh hBar))
    · intro h
      rw [hHigh]
      exact h highest hHighest

theorem closedUp_cons : ClosedUp reference (first :: rest) ↔ successCloseThreshold ≤
    change ((first :: rest).getLast (List.cons_ne_nil first rest)).close reference := by
  rw [ClosedUp, List.getLast?_eq_some_getLast (List.cons_ne_nil first rest)]
  simp only [Option.some.injEq, exists_eq_left']

theorem windowResult_failed_iff : (windowResult reference first rest).resultStatus = .failed ↔
    Reaches reference (Fell reference) (first :: rest) := by
  rw [← lowReturn_le_iff]
  simp only [windowResult, classifyStatus]
  split
  · rename_i hFell
    exact ⟨fun _ => hFell, fun _ => rfl⟩
  · rename_i hKept
    refine ⟨fun h => ?_, fun h => absurd h hKept⟩
    split at h <;> cases h

theorem windowResult_success_iff : (windowResult reference first rest).resultStatus = .success ↔
    ¬ Reaches reference (Fell reference) (first :: rest) ∧
      (Reaches reference (Rose reference) (first :: rest) ∨ ClosedUp reference (first :: rest)) := by
  rw [← lowReturn_le_iff, ← le_highReturn_iff, closedUp_cons]
  simp only [windowResult, classifyStatus]
  split
  · rename_i hFell
    exact ⟨fun h => (nomatch h), fun h => absurd hFell h.1⟩
  · rename_i hKept
    rw [and_iff_right hKept]
    split
    · rename_i hUp
      exact ⟨fun _ => hUp, fun _ => rfl⟩
    · rename_i hFlat
      exact ⟨fun h => (nomatch h), fun h => absurd h hFlat⟩

/-- A fallen extreme stays fallen over a positive reference close. -/
theorem reaches_fell_append (hOld : Reaches reference (Fell reference) old) :
    Reaches reference (Fell reference) (old ++ added) ↔
      0 < reference ∨ ∀ bar ∈ added, Fell reference bar := by
  rw [Reaches] at hOld ⊢
  split
  · rename_i hPos
    rw [if_pos hPos] at hOld
    obtain ⟨bar, hBar, hFell⟩ := hOld
    exact ⟨fun _ => .inl hPos, fun _ => ⟨bar, List.mem_append_left _ hBar, hFell⟩⟩
  · rename_i hNeg
    rw [if_neg hNeg] at hOld
    rw [List.forall_mem_append, and_iff_right hOld, or_iff_right hNeg]

theorem not_reaches_fell_append (hOld : ¬ Reaches reference (Fell reference) old) :
    ¬ Reaches reference (Fell reference) (old ++ added) ↔
      (0 < reference → ∀ bar ∈ added, ¬ Fell reference bar) := by
  rw [Reaches] at hOld ⊢
  split
  · rename_i hPos
    rw [if_pos hPos] at hOld
    simp only [not_exists, not_and] at hOld ⊢
    rw [List.forall_mem_append, and_iff_right hOld, imp_iff_right hPos]
  · rename_i hNeg
    rw [if_neg hNeg] at hOld
    rw [List.forall_mem_append]
    exact ⟨fun _ h => absurd h hNeg, fun _ h => hOld h.1⟩

end Thresholds

section Finality

variable {call call' : UpdateCall} {db db' : Database} {rec : Int × Recommendation} {n : Int}

/-- Between the runs bars are added for days after the first, and recommendations may be. -/
structure OnlyAdded (d : Int) (db db' : Database) : Prop where
  runs : ∀ run ∈ db.runs.rows, run ∈ db'.runs.rows
  recommendations : ∀ rec ∈ db.recommendations.rows, rec ∈ db'.recommendations.rows
  kept : ∀ bar ∈ db.dailyPrices.rows, bar ∈ db'.dailyPrices.rows
  later : ∀ bar ∈ db'.dailyPrices.rows, bar ∉ db.dailyPrices.rows → d < bar.date

theorem OnlyAdded.isStored {d : Int} (h : OnlyAdded d db db') (hStored : IsStored db rec) :
    IsStored db' rec := by
  obtain ⟨run, hRun, hRec, hRunId, hDate⟩ := hStored
  exact ⟨run, h.runs run hRun, h.recommendations _ hRec, hRunId, hDate⟩

theorem OnlyAdded.resolveReference_eq (h : OnlyAdded call.asOf db db')
    (hRec : rec ∈ recommendationsOf call db) :
    resolveReference rec.2.symbol rec.1 db.dailyPrices =
      resolveReference rec.2.symbol rec.1 db'.dailyPrices := by
  have hDate := (mem_recommendationsOf_iff.mp hRec).2.2
  apply resolveReference_congr
  intro bar _ hBar
  refine ⟨h.kept bar, fun hNew => ?_⟩
  by_contra hOld
  have hLater := h.later bar hNew hOld
  omega

/-- The bars of a window that the first run had not found. -/
def addedBars (db db' : Database) (window : DailyPrice × Int) : List DailyPrice :=
  (barsOf db'.dailyPrices window).filter fun bar => bar ∉ db.dailyPrices.rows

theorem mem_barsOf_iff_append {d : Int} (h : OnlyAdded d db db') {window : DailyPrice × Int}
    (bar : DailyPrice) : bar ∈ barsOf db'.dailyPrices window ↔
      bar ∈ barsOf db.dailyPrices window ++ addedBars db db' window := by
  rw [List.mem_append, addedBars, List.mem_filter, decide_eq_true_iff, mem_barsOf, mem_barsOf]
  constructor
  · rintro ⟨hNew, hHere⟩
    by_cases hOld : bar ∈ db.dailyPrices.rows
    · exact .inl ⟨hOld, hHere⟩
    · exact .inr ⟨⟨hNew, hHere⟩, hOld⟩
  · rintro (⟨hOld, hHere⟩ | ⟨hNew, -⟩)
    · exact ⟨h.kept bar hOld, hHere⟩
    · exact hNew

theorem reaches_congr {reference : ℚ} {beyond : DailyPrice → Prop} {bars bars' : List DailyPrice}
    (h : ∀ bar, bar ∈ bars ↔ bar ∈ bars') :
    Reaches reference beyond bars ↔ Reaches reference beyond bars' := by
  simp only [Reaches, h]

/-- The change of the last close of a window as it is stored. -/
def closeChange (reference : ℚ) (bars : List DailyPrice) : Option ℚ :=
  bars.getLast?.map fun bar => quantize 4 (change bar.close reference)

/-- The bars that came into the window leave the verdict as it was. -/
def VerdictStands (reference : ℚ) (status : ResultStatus) (added bars : List DailyPrice) : Prop :=
  match status with
  | .failed => 0 < reference ∨ ∀ bar ∈ added, Fell reference bar
  | _ => (0 < reference → ∀ bar ∈ added, ¬ Fell reference bar) ∧
    (Reaches reference (Rose reference) bars ∨ ClosedUp reference bars)

theorem closeReturn_resultOf (asOf : Int) (reference : ℚ) (bars : List DailyPrice) :
    (resultOf asOf reference bars).closeReturn = closeChange reference bars := by
  cases bars with
  | nil => rfl
  | cons first rest =>
    rw [closeChange, List.getLast?_eq_some_getLast (List.cons_ne_nil first rest)]
    rfl

theorem resultStatus_eq_iff {asOf asOf' : Int} {reference : ℚ} {old added bars : List DailyPrice}
    (hBars : ∀ bar, bar ∈ bars ↔ bar ∈ old ++ added)
    (hVerdict : (resultOf asOf reference old).resultStatus ≠ .pending) :
    (resultOf asOf' reference bars).resultStatus = (resultOf asOf reference old).resultStatus ↔
      VerdictStands reference (resultOf asOf reference old).resultStatus added bars := by
  cases old with
  | nil => exact absurd rfl hVerdict
  | cons first rest =>
    cases bars with
    | nil => exact absurd ((hBars first).mpr List.mem_cons_self) List.not_mem_nil
    | cons first' rest' =>
      simp only [resultOf] at hVerdict ⊢
      cases hStatus : (windowResult reference first rest).resultStatus with
      | pending => exact absurd hStatus hVerdict
      | failed =>
        rw [windowResult_failed_iff, reaches_congr hBars,
          reaches_fell_append (windowResult_failed_iff.mp hStatus)]
        rfl
      | success =>
        rw [windowResult_success_iff, reaches_congr hBars,
          not_reaches_fell_append (windowResult_success_iff.mp hStatus).1]
        rfl

/-- The evaluation that a later run makes of a window agrees with the verdict found. -/
def Confirms (db db' : Database) (rec : Int × Recommendation) (n : Int) (status : ResultStatus) :
    Prop :=
  ∃ reference, resolveReference rec.2.symbol rec.1 db.dailyPrices = some reference ∧
    closeChange reference.close (barsOf db'.dailyPrices (reference, n)) =
      closeChange reference.close (barsOf db.dailyPrices (reference, n)) ∧
    VerdictStands reference.close status (addedBars db db' (reference, n))
      (barsOf db'.dailyPrices (reference, n))

theorem columnsOf_same_iff (hAdded : OnlyAdded call.asOf db db')
    (hRec : rec ∈ recommendationsOf call db)
    (hVerdict : (columnsOf call db.dailyPrices rec n).resultStatus ≠ .pending) :
    ((columnsOf call' db'.dailyPrices rec n).resultStatus =
        (columnsOf call db.dailyPrices rec n).resultStatus ∧
      (columnsOf call' db'.dailyPrices rec n).closeReturn =
        (columnsOf call db.dailyPrices rec n).closeReturn) ↔
      Confirms db db' rec n (columnsOf call db.dailyPrices rec n).resultStatus := by
  simp only [columnsOf, Confirms, ← hAdded.resolveReference_eq hRec] at hVerdict ⊢
  cases hReference : resolveReference rec.2.symbol rec.1 db.dailyPrices with
  | none =>
    rw [hReference] at hVerdict
    exact absurd rfl hVerdict
  | some reference =>
    rw [hReference] at hVerdict
    simp only [Option.some.injEq, exists_eq_left']
    rw [resultStatus_eq_iff (mem_barsOf_iff_append hAdded) hVerdict, closeReturn_resultOf,
      closeReturn_resultOf, and_comm]

theorem columnsAt_eq_some {recommendationId : Nat} {daysAfter : Int} {columns : ComputedResult}
    {results : Table RecommendationResult} :
    columnsAt recommendationId daysAfter results = some columns ↔
      ∃ row, RecommendationResultRepository.getByRecommendationDays recommendationId daysAfter
        results = some row ∧ row.toComputedResult = columns := by
  rw [columnsAt, Option.map_eq_some_iff]

/-- A verdict of the first run stands after the second, whatever the dates and arguments of both,
exactly if the second leaves the row alone or confirms it. -/
theorem verdict_final_iff (call call' : UpdateCall) (db db' : Database)
    (rec : Int × Recommendation) (n : Int) (row : RecommendationResult)
    (hRan : AllEvaluable call db) (hRec : rec ∈ recommendationsOf call db)
    (hDays : n ∈ targetDays call) (hAdded : OnlyAdded call.asOf db db')
    (hResults : db'.results = (run call db).results)
    (hRow : RecommendationResultRepository.getByRecommendationDays rec.2.id n
      (run call db).results = some row)
    (hVerdict : row.resultStatus ≠ .pending) :
    (∃ row', RecommendationResultRepository.getByRecommendationDays rec.2.id n
        (run call' db').results = some row' ∧ row'.resultStatus = row.resultStatus ∧
        row'.closeReturn = row.closeReturn) ↔
      LeftAlone call' db' rec n ∨ Confirms db db' rec n row.resultStatus := by
  have hColumns := columnsAt_run hRan hRec hDays
  rw [columnsAt, hRow, Option.map_some, Option.some.injEq] at hColumns
  have hStored := hAdded.isStored (mem_recommendationsOf_iff.mp hRec).1
  by_cases hLeft : LeftAlone call' db' rec n
  · have hSame := columnsAt_run_of_leftAlone hStored hLeft
    rw [hResults, columnsAt_run hRan hRec hDays, columnsAt_eq_some] at hSame
    obtain ⟨row', hRow', hColumns'⟩ := hSame
    rw [← hColumns] at hColumns'
    exact ⟨fun _ => .inl hLeft, fun _ => ⟨row', hRow', congrArg ComputedResult.resultStatus hColumns',
      congrArg ComputedResult.closeReturn hColumns'⟩⟩
  · rw [or_iff_right hLeft]
    rw [LeftAlone, not_or, not_or, not_not, not_not, not_not] at hLeft
    obtain ⟨hIn, hDays', hRan'⟩ := hLeft
    obtain ⟨row', hRow', hColumns'⟩ := columnsAt_eq_some.mp
      (columnsAt_run hRan' (mem_recommendationsOf_iff.mpr ⟨hStored, hIn⟩) hDays')
    have hConfirms := @columnsOf_same_iff call call' db db' rec n hAdded hRec (hColumns ▸ hVerdict)
    rw [← hColumns, ← hColumns'] at hConfirms
    rw [hRow', ← hConfirms]
    simp only [Option.some.injEq, exists_eq_left']

def upBar : DailyPrice := ⟨"005930", 11, 100, 105, 100, 105⟩

def downBar : DailyPrice := ⟨"005930", 12, 105, 105, 90, 92⟩

theorem key_nodup_upBar : ([referenceBar, upBar].map DailyPrice.key).Nodup := by decide

theorem key_nodup_downBar : ([referenceBar, upBar, downBar].map DailyPrice.key).Nodup := by decide

def fiveDays (asOf : Int) : UpdateCall := ⟨asOf, some [5], 60⟩

def upDatabase : Database := oneRecommendation [referenceBar, upBar] key_nodup_upBar

/-- The day after, with the results of the day before. -/
def downDatabase : Database :=
  { oneRecommendation [referenceBar, upBar, downBar] key_nodup_downBar with
    results := (run (fiveDays 11) upDatabase).results }

def upRow : RecommendationResult where
  resultDate := 11
  openReturn := some 0
  highReturn := some 5
  lowReturn := some 0
  closeReturn := some 5
  maxReturn := some 5
  maxDrawdown := some (-47619 / 10000)
  resultStatus := .success
  id := 1
  recommendationId := 1
  daysAfter := 5

theorem getUpRow : RecommendationResultRepository.getByRecommendationDays 1 5
    (run (fiveDays 11) upDatabase).results = some upRow := by decide +kernel

theorem onlyAdded_downBar : OnlyAdded 11 upDatabase downDatabase where
  runs _ h := h
  recommendations _ h := h
  kept bar hBar := List.mem_append_left [downBar] hBar
  later bar hNew hOld := by
    rcases List.mem_append.mp (show bar ∈ [referenceBar, upBar] ++ [downBar] from hNew) with h | h
    · exact absurd h hOld
    · rw [List.mem_singleton.mp h]
      decide

theorem verdict_final_iff_downBar :
    (∃ row', RecommendationResultRepository.getByRecommendationDays 1 5
        (run (fiveDays 12) downDatabase).results = some row' ∧
        row'.resultStatus = upRow.resultStatus ∧ row'.closeReturn = upRow.closeReturn) ↔
      LeftAlone (fiveDays 12) downDatabase (10, ⟨1, 1, 1, "005930"⟩) 5 ∨
        Confirms upDatabase downDatabase (10, ⟨1, 1, 1, "005930"⟩) 5 upRow.resultStatus :=
  verdict_final_iff (fiveDays 11) (fiveDays 12) upDatabase downDatabase (10, ⟨1, 1, 1, "005930"⟩) 5
    upRow (by decide +kernel) (by decide +kernel) (by decide) onlyAdded_downBar rfl getUpRow
    (by decide)

theorem verdict_not_final : ¬ ∀ (call call' : UpdateCall) (db db' : Database)
    (rec : Int × Recommendation) (n : Int) (row : RecommendationResult),
    AllEvaluable call db → rec ∈ recommendationsOf call db → n ∈ targetDays call →
      call.asOf ≤ call'.asOf → OnlyAdded call.asOf db db' → db'.results = (run call db).results →
      RecommendationResultRepository.getByRecommendationDays rec.2.id n
        (run call db).results = some row → row.resultStatus ≠ .pending →
      ∃ row', RecommendationResultRepository.getByRecommendationDays rec.2.id n
        (run call' db').results = some row' ∧ row'.resultStatus = row.resultStatus ∧
        row'.closeReturn = row.closeReturn := by
  intro h
  obtain ⟨row, hRow, hStatus, -⟩ := h (fiveDays 11) (fiveDays 12) upDatabase downDatabase
    (10, ⟨1, 1, 1, "005930"⟩) 5 upRow (by decide +kernel) (by decide +kernel) (by decide) (by decide)
    onlyAdded_downBar rfl getUpRow (by decide)
  have hFailed : ((RecommendationResultRepository.getByRecommendationDays 1 5
      (run (fiveDays 12) downDatabase).results).map fun row => row.resultStatus) = some .failed := by
    decide +kernel
  rw [hRow, Option.map_some, hStatus] at hFailed
  exact absurd hFailed (by decide)

end Finality

end StockAiPlatform.Results
