import StockAiPlatform.Decision.ResultVerdicts
import StockAiPlatform.Data.DailyPriceCollector
import StockAiPlatform.Transaction.Groups
import StockAiPlatform.Transaction.Upsert

/-! # Recommendations evaluated side by side

The collector stores every bar it is sent, also one that its checker calls
invalid. A recommendation has its rows whatever is stored for other symbols,
unless a bar of one of them divides by zero: then the run has none for anyone.
-/

namespace StockAiPlatform.Results
set_option autoImplicit false

open Transaction Python RecommendationResultService

section OneRow

open RecommendationResultRepository

variable {results results' : Table RecommendationResult} {write write' : Write}
  {writes writes' : List Write} {recommendationId : Nat} {daysAfter : Int}

/-- `uq_recommendation_results_recommendation_days` -/
def KeysUnique (results : Table RecommendationResult) : Prop := (results.rows.map key).Nodup

instance (results : Table RecommendationResult) : Decidable (KeysUnique results) :=
  inferInstanceAs (Decidable (List.Nodup _))

theorem keys_setColumns (here : RecommendationResult → Bool) (columns : ComputedResult)
    (rows : List RecommendationResult) :
    (updateWhere here (setColumns columns) rows).map key = rows.map key := by
  rw [updateWhere, List.map_map]
  apply List.map_congr_left
  intro row _
  simp only [Function.comp_apply]
  split <;> rfl

theorem getByRecommendationDays_eq_none : getByRecommendationDays recommendationId daysAfter results
    = none ↔ (recommendationId, daysAfter) ∉ results.rows.map key := by
  rw [getByRecommendationDays, List.find?_eq_none, List.mem_map]
  simp only [sameKey_iff, not_exists, not_and]

theorem KeysUnique.upsert (h : KeysUnique results) :
    KeysUnique (upsert results write) := by
  rw [KeysUnique, RecommendationResultRepository.upsert]
  cases hFound : getByRecommendationDays write.recommendationId write.daysAfter results with
  | some row =>
    rw [Table.rows_updateWhere, keys_setColumns]
    exact h
  | none =>
    rw [Table.rows_insert_of_key_eq rfl, List.map_append, List.map_singleton]
    exact List.nodup_append_comm.mp
      (List.nodup_cons.mpr ⟨getByRecommendationDays_eq_none.mp hFound, h⟩)

theorem KeysUnique.foldl (h : KeysUnique results) :
    KeysUnique (writes.foldl RecommendationResultRepository.upsert results) := by
  induction writes generalizing results with
  | nil => exact h
  | cons write writes ih => exact ih h.upsert

def rowsAt (recommendationId : Nat) (daysAfter : Int) (results : Table RecommendationResult) :
    List RecommendationResult :=
  results.rows.filter (sameKey recommendationId daysAfter)

theorem length_rowsAt (h : KeysUnique results)
    (hStored : (columnsAt recommendationId daysAfter results).isSome) :
    (rowsAt recommendationId daysAfter results).length = 1 := by
  have hMost : (rowsAt recommendationId daysAfter results).length ≤ 1 := by
    have hKeys := length_filter_key_le_one h (recommendationId, daysAfter)
    refine le_of_eq_of_le (congrArg List.length (List.filter_congr fun row _ => ?_)) hKeys
    rw [Bool.eq_iff_iff, sameKey_iff]
    exact eq_comm.trans decide_eq_true_iff.symm
  rw [columnsAt, Option.isSome_map, getByRecommendationDays, List.find?_isSome] at hStored
  obtain ⟨row, hRow, hKey⟩ := hStored
  exact le_antisymm hMost (List.length_pos_of_mem (List.mem_filter.mpr ⟨hRow, hKey⟩))

/-- Rows that are told apart by the columns of other recommendations alone. -/
structure SameRow (recommendationId : Nat) (row row' : RecommendationResult) : Prop where
  id : row.id = row'.id
  key : key row = key row'
  eq : row.recommendationId = recommendationId → row = row'

def SameView (recommendationId : Nat) : List RecommendationResult → List RecommendationResult → Prop :=
  List.Forall₂ (SameRow recommendationId)

/-- The writes go under one key, and write the same if it is the recommendation's. -/
structure SameWrite (recommendationId : Nat) (write write' : Write) : Prop where
  key : (write.recommendationId, write.daysAfter) = (write'.recommendationId, write'.daysAfter)
  columns : write.recommendationId = recommendationId → write.columns = write'.columns

theorem SameRow.refl (row : RecommendationResult) : SameRow recommendationId row row :=
  ⟨rfl, rfl, fun _ => rfl⟩

theorem SameRow.setColumns {row row' : RecommendationResult}
    (hRow : SameRow recommendationId row row') (hWrite : SameWrite recommendationId write write')
    (hKey : sameKey write.recommendationId write.daysAfter row = true) :
    SameRow recommendationId (setColumns write.columns row) (setColumns write'.columns row') := by
  have hId : row.recommendationId = write.recommendationId :=
    congrArg Prod.fst (sameKey_iff.mp hKey)
  refine ⟨hRow.id, hRow.key, fun hMine => ?_⟩
  have hMine : row.recommendationId = recommendationId := hMine
  rw [hRow.eq hMine, hWrite.columns (hId.symm.trans hMine)]

theorem SameView.map_eq {β : Type} {f : RecommendationResult → β} {rows rows'}
    (hf : ∀ row row', SameRow recommendationId row row' → f row = f row')
    (h : SameView recommendationId rows rows') : rows.map f = rows'.map f := by
  rw [← List.forall₂_eq_eq_eq, List.forall₂_map_left_iff, List.forall₂_map_right_iff]
  exact h.imp hf

theorem SameView.nextKey (h : SameView recommendationId results.rows results'.rows) :
    results.nextKey = results'.nextKey := by
  have hIds : results.rows.map RecommendationResult.id = results'.rows.map RecommendationResult.id :=
    h.map_eq fun _ _ hRow => hRow.id
  have hFold : ∀ rows : List RecommendationResult, rows.foldr (fun row n => max row.id n) 0 =
      (rows.map RecommendationResult.id).foldr max 0 := fun rows => List.foldr_map.symm
  exact congrArg (· + 1) ((hFold _).trans (hIds ▸ (hFold _).symm))

theorem SameView.upsert (h : SameView recommendationId results.rows results'.rows)
    (hWrite : SameWrite recommendationId write write') :
    SameView recommendationId (RecommendationResultRepository.upsert results write).rows
      (RecommendationResultRepository.upsert results' write').rows := by
  have hKeys : results.rows.map key = results'.rows.map key := h.map_eq fun _ _ hRow => hRow.key
  obtain ⟨hId, hDays⟩ := Prod.ext_iff.mp hWrite.key
  simp only at hId hDays
  rw [RecommendationResultRepository.upsert, RecommendationResultRepository.upsert]
  by_cases hNew : (write.recommendationId, write.daysAfter) ∉ results.rows.map key
  · have hNew' : (write'.recommendationId, write'.daysAfter) ∉ results'.rows.map key := by
      rwa [← hKeys, ← hWrite.key]
    rw [getByRecommendationDays_eq_none.mpr hNew, getByRecommendationDays_eq_none.mpr hNew',
      Table.rows_insert_of_key_eq rfl, Table.rows_insert_of_key_eq rfl]
    refine List.rel_append h (.cons ⟨h.nextKey, hWrite.key, fun hMine => ?_⟩ .nil)
    rw [hWrite.columns hMine, h.nextKey, hId, hDays]
  · have hNew' : ¬ (write'.recommendationId, write'.daysAfter) ∉ results'.rows.map key := by
      rwa [← hKeys, ← hWrite.key]
    obtain ⟨row, hFound⟩ := Option.ne_none_iff_exists'.mp (mt getByRecommendationDays_eq_none.mp hNew)
    obtain ⟨row', hFound'⟩ :=
      Option.ne_none_iff_exists'.mp (mt getByRecommendationDays_eq_none.mp hNew')
    rw [hFound, hFound', Table.rows_updateWhere, Table.rows_updateWhere, updateWhere, updateWhere]
    rw [SameView, List.forall₂_map_left_iff, List.forall₂_map_right_iff]
    refine h.imp fun row row' hRow => ?_
    have hSame : sameKey write'.recommendationId write'.daysAfter row' =
        sameKey write.recommendationId write.daysAfter row := by
      rw [sameKey, sameKey, hRow.key, hId, hDays]
    rw [hSame]
    split
    · exact hRow.setColumns hWrite ‹_›
    · exact hRow

theorem SameView.foldl (hWrites : List.Forall₂ (SameWrite recommendationId) writes writes')
    (h : SameView recommendationId results.rows results'.rows) :
    SameView recommendationId (writes.foldl RecommendationResultRepository.upsert results).rows
      (writes'.foldl RecommendationResultRepository.upsert results').rows := by
  induction hWrites generalizing results results' with
  | nil => exact h
  | cons hWrite _ ih => exact ih (h.upsert hWrite)

def rowsAbout (recommendationId : Nat) (results : Table RecommendationResult) :
    List RecommendationResult :=
  results.rows.filter fun row => row.recommendationId == recommendationId

theorem SameView.filter_eq {rows rows' : List RecommendationResult}
    (h : SameView recommendationId rows rows') :
    (rows.filter fun row => row.recommendationId == recommendationId) =
      rows'.filter fun row => row.recommendationId == recommendationId := by
  induction h with
  | nil => rfl
  | @cons row row' rows rows' hRow _ ih =>
    have hId : row.recommendationId = row'.recommendationId := congrArg Prod.fst hRow.key
    rw [List.filter_cons, List.filter_cons, ih, ← hId]
    split
    · rename_i hMine
      rw [hRow.eq (beq_iff_eq.mp hMine)]
    · rfl

end OneRow

namespace DailyPriceTable

variable {prices : DailyPriceTable} {bar : DailyPrice}

def empty : DailyPriceTable := ⟨[], List.nodup_nil⟩

/-- `DailyPriceRepository.upsert` of a row as it was sent -/
def upsert (prices : DailyPriceTable) (price : KisDailyPrice) : DailyPriceTable where
  rows := upsertBy DailyPrice.key prices.rows price.toDailyPrice
  symbol_date_unique := nodup_upsertBy prices.symbol_date_unique

def collected (sent : List KisDailyPrice) : DailyPriceTable := sent.foldl upsert empty

def sentOf (bar : DailyPrice) : KisDailyPrice := ⟨bar, 0⟩

theorem rows_foldl_upsert {rows : List DailyPrice}
    (h : ((prices.rows ++ rows).map DailyPrice.key).Nodup) :
    ((rows.map sentOf).foldl upsert prices).rows = prices.rows ++ rows := by
  induction rows generalizing prices with
  | nil => exact (List.append_nil _).symm
  | cons bar rows ih =>
    have hNew : bar.key ∉ prices.rows.map DailyPrice.key := by
      intro hMem
      rw [List.map_append, List.nodup_append] at h
      exact h.2.2 _ hMem _ (List.mem_map_of_mem List.mem_cons_self) rfl
    have hRows : (prices.upsert (sentOf bar)).rows = prices.rows ++ [bar] := if_neg hNew
    rw [List.map_cons, List.foldl_cons, ih, hRows, List.append_assoc]
    · rfl
    · rwa [hRows, List.append_assoc]

/-- There is no table that the collector could not store. -/
theorem exists_collected (prices : DailyPriceTable) : ∃ sent, collected sent = prices := by
  refine ⟨prices.rows.map sentOf, ?_⟩
  have hRows : (collected (prices.rows.map sentOf)).rows = prices.rows :=
    rows_foldl_upsert prices.symbol_date_unique
  cases prices
  cases hCollected : collected _
  rw [hCollected] at hRows
  simp only at hRows
  subst hRows
  rfl

end DailyPriceTable

section Isolation

variable {call : UpdateCall} {db : Database} {prices prices' : DailyPriceTable}
  {rec : Int × Recommendation}

def withPrices (db : Database) (prices : DailyPriceTable) : Database :=
  { db with dailyPrices := prices }

def SameBars (symbol : String) (prices prices' : DailyPriceTable) : Prop :=
  ∀ bar, bar.symbol = symbol → (bar ∈ prices.rows ↔ bar ∈ prices'.rows)

def PositivePrices (symbol : String) (prices : DailyPriceTable) : Prop :=
  ∀ bar ∈ prices.rows, bar.symbol = symbol →
    0 < bar.openPrice ∧ 0 < bar.high ∧ 0 < bar.low ∧ 0 < bar.close

theorem columnsOf_congr (h : SameBars rec.2.symbol prices prices') :
    columnsOf call prices rec = columnsOf call prices' rec := by
  funext n
  rw [columnsOf, columnsOf, resolveReference_congr fun bar hSymbol _ => h bar hSymbol]
  cases hReference : resolveReference rec.2.symbol rec.1 prices' with
  | none => rfl
  | some reference =>
    have hSymbol := (resolveReference_spec hReference).2.1
    simp only [barsOf]
    rw [barsInWindow_congr fun bar hBar _ _ => h bar (hBar.trans hSymbol)]

/-- Two runs over the same recommendations write under the same keys. -/
theorem sameWrites (hGood : AllEvaluable call db) (hGood' : AllEvaluable call (withPrices db prices))
    (hRec : rec ∈ recommendationsOf call db) (h : SameBars rec.2.symbol db.dailyPrices prices) :
    List.Forall₂ (SameWrite rec.2.id) (written call db).flatten
      (written call (withPrices db prices)).flatten := by
  rw [written_of_evaluable hGood, written_of_evaluable hGood']
  have hSame : recommendationsOf call (withPrices db prices) = recommendationsOf call db := rfl
  rw [hSame]
  apply List.rel_flatten
  rw [List.forall₂_map_left_iff, List.forall₂_map_right_iff, List.forall₂_same]
  intro other hOther
  rw [rowsOf_eq, rowsOf_eq, List.forall₂_map_left_iff, List.forall₂_map_right_iff, List.forall₂_same]
  refine fun n _ => ⟨rfl, fun hId => ?_⟩
  have hMine := (mem_recommendationsOf_iff.mp hOther).1.eq_of_id (mem_recommendationsOf_iff.mp hRec).1
    hId
  rw [hMine]
  exact congrFun (columnsOf_congr h) n

/-- A run returns and leaves one row for each recommendation and horizon. -/
structure Complete (call : UpdateCall) (db : Database) : Prop where
  returns : ∃ out, updateResults call db = .ok out
  oneRow : ∀ rec ∈ recommendationsOf call db, ∀ n ∈ targetDays call,
    (rowsAt rec.2.id n (run call db).results).length = 1

theorem complete_iff {db : Database} (hKeys : KeysUnique db.results) :
    Complete call db ↔ AllEvaluable call db := by
  constructor
  · exact fun h => updateResults_ok_iff.mp h.returns
  · intro hGood
    refine ⟨updateResults_ok_iff.mpr hGood, fun rec hRec n hDays => ?_⟩
    apply length_rowsAt
    · rw [results_run]
      exact hKeys.foldl
    · rw [columnsAt_run hGood hRec hDays]
      rfl

/-- Over either table the run is complete, and a recommendation with positive prices has the same
rows if the tables differ in other symbols alone. -/
structure TotalAndIsolated (call : UpdateCall) (db : Database) (prices : DailyPriceTable) :
    Prop where
  complete : Complete call db
  complete' : Complete call (withPrices db prices)
  isolated : ∀ rec ∈ recommendationsOf call db, PositivePrices rec.2.symbol db.dailyPrices →
    SameBars rec.2.symbol db.dailyPrices prices →
      rowsAbout rec.2.id (run call db).results =
        rowsAbout rec.2.id (run call (withPrices db prices)).results

theorem totalAndIsolated_iff (call : UpdateCall) (db : Database) (prices : DailyPriceTable)
    (hKeys : KeysUnique db.results) : TotalAndIsolated call db prices ↔
      AllEvaluable call db ∧ AllEvaluable call (withPrices db prices) := by
  have hComplete := @complete_iff call db hKeys
  have hComplete' := @complete_iff call (withPrices db prices) hKeys
  constructor
  · exact fun h => ⟨hComplete.mp h.complete, hComplete'.mp h.complete'⟩
  · rintro ⟨hGood, hGood'⟩
    refine ⟨hComplete.mpr hGood, hComplete'.mpr hGood', ?_⟩
    intro rec hRec _ hBars
    apply SameView.filter_eq
    rw [results_run, results_run]
    exact SameView.foldl (sameWrites hGood hGood' hRec hBars)
      (List.forall₂_same.mpr fun row _ => SameRow.refl row)

def flatRow (symbol : String) (date : Int) (close : ℚ) : KisDailyPrice := ⟨.flat symbol date close, 0⟩

def twoSymbols : List KisDailyPrice :=
  [flatRow "005930" 10 100, flatRow "005930" 11 105, flatRow "000660" 10 50, flatRow "000660" 11 50]

/-- A day without a trade of the other symbol. -/
def zeroClose : List KisDailyPrice :=
  [flatRow "005930" 10 100, flatRow "005930" 11 105, flatRow "000660" 10 0, flatRow "000660" 11 50]

theorem nodup_oneRun : ([⟨1, 10⟩].map RecommendationRun.runId).Nodup := by decide

theorem nodup_twoRecommendations : ([⟨1, 1, 1, "005930"⟩, ⟨2, 1, 2, "000660"⟩].map
    Recommendation.id).Nodup := by decide

def twoRecommendations (prices : DailyPriceTable) : Database where
  runs := ⟨[⟨1, 10⟩], nodup_oneRun⟩
  recommendations := ⟨[⟨1, 1, 1, "005930"⟩, ⟨2, 1, 2, "000660"⟩], nodup_twoRecommendations⟩
  results := .empty
  dailyPrices := prices

theorem totalAndIsolated_iff_twoSymbols :
    TotalAndIsolated (fiveDays 12) (twoRecommendations (.collected twoSymbols)) (.collected twoSymbols)
      ↔ AllEvaluable (fiveDays 12) (twoRecommendations (.collected twoSymbols)) ∧
        AllEvaluable (fiveDays 12) (withPrices (twoRecommendations (.collected twoSymbols))
          (.collected twoSymbols)) :=
  totalAndIsolated_iff (fiveDays 12) (twoRecommendations (.collected twoSymbols))
    (.collected twoSymbols) (by decide)

/-- The zero close of the one symbol leaves the other without its row. -/
theorem not_totalAndIsolated_zeroClose :
    (∀ rec ∈ recommendationsOf (fiveDays 12) (twoRecommendations (.collected zeroClose)),
      rec.2.symbol = "005930" → rowsAbout rec.2.id
        (run (fiveDays 12) (twoRecommendations (.collected zeroClose))).results = []) ∧
    ¬ ∀ (call : UpdateCall) (db : Database) (sent : List KisDailyPrice), KeysUnique db.results →
      TotalAndIsolated call db (.collected sent) := by
  refine ⟨by decide +kernel, fun h => ?_⟩
  have hComplete := (h (fiveDays 12) (twoRecommendations (.collected twoSymbols)) zeroClose
    (by decide)).complete'
  exact absurd (updateResults_ok_iff.mp hComplete.returns) (by decide +kernel)

end Isolation

end StockAiPlatform.Results
