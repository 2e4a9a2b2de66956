import StockAiPlatform.Decision.Repositories
import StockAiPlatform.Transaction.Groups
import Mathlib.Data.List.Nodup

/-! # The newest holding check

Four reads of the checks of a symbol, each with its own order. What an ORDER BY
leaves tied comes in any order: a read takes the table in the order it is
scanned in. The stock detail orders by date alone, so where a day has both
checks its first entry is either of them.
-/

namespace StockAiPlatform.HoldingCheckRoutes
set_option autoImplicit false

open Python Transaction
open Decision.HoldingCheckRepository (typeOrder rankOf rank upsert checkKey checkKey_eq_iff
  upsert_eq_upsertBy isEarlier findPreviousForSymbol)

def ofSymbol (symbol : String) (check : HoldingCheck) : Bool := check.symbol == symbol

/-- `HoldingCheckRepository.list_by_symbol`: the latest date first. -/
def listBySymbol (symbol : String) (scan : List HoldingCheck) : List HoldingCheck :=
  (scan.filter (ofSymbol symbol)).insertionSort fun a b => b.checkDate ≤ a.checkDate

/-- `HoldingCheckRepository.list_latest_per_symbol`. A dictionary keeps the last row of a symbol. -/
def listLatestPerSymbol (checkType : Option CheckType) (scan : List HoldingCheck) :
    List HoldingCheck :=
  let rows := (scan.filter fun check => checkType.all (check.checkType == ·)).insertionSort
    fun a b => rankOf a ≤ rankOf b
  ((keysOf HoldingCheck.symbol rows).filterMap fun symbol =>
    (group HoldingCheck.symbol rows symbol).getLast?).insertionSort
      fun a b => a.symbol ≤ b.symbol

/-- `recent_holding_checks` of `GET /api/stocks/{symbol}`. -/
def recentHoldingChecks (symbol : String) (holdingCheckLimit : Nat) (scan : List HoldingCheck) :
    List HoldingCheck :=
  (listBySymbol symbol scan).take holdingCheckLimit

/-- The items of `GET /api/holdings/{symbol}/checks`. Sorting in reverse keeps ties in place. -/
def getHoldingChecksForSymbol (symbol : String) (limit : Nat) (scan : List HoldingCheck) :
    List HoldingCheck :=
  ((listBySymbol symbol scan).insertionSort fun a b =>
    rankOf b ≤ rankOf a).take limit

/-- The entry of a symbol in `GET /api/holdings/checks/latest`. -/
def latestHoldingCheck (symbol : String) (scan : List HoldingCheck) : Option HoldingCheck :=
  (listLatestPerSymbol none scan).find? (ofSymbol symbol)

/-- The table after checks were stored, and stored again where they were re-run. -/
def stored (upserts : List HoldingCheck) : List HoldingCheck :=
  upserts.foldl (fun checks check => upsert check checks) []

/-- No check of the symbol is later, PRE_MARKET coming before POST_MARKET on a day. -/
structure Newest (checks : List HoldingCheck) (symbol : String) (row : HoldingCheck) : Prop where
  mem : row ∈ checks
  symbol_eq : row.symbol = symbol
  latest : ∀ other ∈ checks, other.symbol = symbol →
    rankOf other ≤ rankOf row

/-- Every view shows one row, whatever order it scans the table in. -/
structure ViewsShow (checks : List HoldingCheck) (symbol : String) (shown : Option HoldingCheck) :
    Prop where
  newest : ∀ row, shown = some row → Newest checks symbol row
  none : shown = none → ∀ row ∈ checks, row.symbol ≠ symbol
  detail : ∀ scan limit, scan.Perm checks → 1 ≤ limit →
    (recentHoldingChecks symbol limit scan).head? = shown
  history : ∀ scan limit, scan.Perm checks → 1 ≤ limit →
    (getHoldingChecksForSymbol symbol limit scan).head? = shown
  latest : ∀ scan, scan.Perm checks → latestHoldingCheck symbol scan = shown
  previous : ∀ scan beforeDate beforeType, scan.Perm checks →
    (∀ row ∈ checks, row.symbol = symbol → row.checkDate < beforeDate) →
    findPreviousForSymbol symbol beforeDate beforeType scan = shown

def OneOnLatestDay (checks : List HoldingCheck) (symbol : String) : Prop :=
  ∀ a ∈ checks, a.symbol = symbol → ∀ b ∈ checks, b.symbol = symbol →
    (∀ other ∈ checks, other.symbol = symbol → other.checkDate ≤ a.checkDate) →
    b.checkDate = a.checkDate → b = a

section Stored

variable {checks : List HoldingCheck} {check : HoldingCheck}

theorem nodup_stored (upserts : List HoldingCheck) : ((stored upserts).map checkKey).Nodup := by
  induction upserts using List.reverseRecOn with
  | nil => exact List.nodup_nil
  | append_singleton upserts check ih =>
    rw [stored, List.foldl_append]
    rw [List.foldl_cons, List.foldl_nil, upsert_eq_upsertBy]
    exact nodup_upsertBy ih

end Stored

section Newest

variable {checks scan : List HoldingCheck} {symbol : String} {row other : HoldingCheck}

theorem checkDate_le (h : rankOf other ≤ rankOf row) : other.checkDate ≤ row.checkDate := by
  rcases Prod.Lex.toLex_le_toLex.mp h with hBefore | ⟨hSame, -⟩
  · exact le_of_lt hBefore
  · exact le_of_eq hSame

theorem rankOf_lt_of_date {beforeDate : Date} {beforeType : CheckType}
    (h : row.checkDate < beforeDate) : rankOf row < rank beforeDate beforeType :=
  Prod.Lex.toLex_lt_toLex.mpr (.inl h)

theorem Newest.lt (h : Newest checks symbol row) (hKeys : (checks.map checkKey).Nodup)
    (hOther : other ∈ checks) (hSymbol : other.symbol = symbol) (hNe : other ≠ row) :
    rankOf other < rankOf row := by
  refine lt_of_le_of_ne (h.latest other hOther hSymbol) fun hRank => hNe ?_
  have hKey := checkKey_eq_iff.mpr ⟨hRank, hSymbol.trans h.symbol_eq.symm⟩
  exact List.inj_on_of_nodup_map hKeys hOther h.mem hKey

theorem exists_newest (checks : List HoldingCheck) (symbol : String) :
    (∀ row ∈ checks, row.symbol ≠ symbol) ∨ ∃ row, Newest checks symbol row := by
  have hMem : ∀ row, row ∈ checks.filter (ofSymbol symbol) ↔ row ∈ checks ∧ row.symbol = symbol := by
    intro row
    rw [List.mem_filter, ofSymbol, beq_iff_eq]
  cases hLatest : latest rankOf (checks.filter (ofSymbol symbol)) with
  | none =>
    left
    intro row hRow hSymbol
    have hFound := (hMem row).mpr ⟨hRow, hSymbol⟩
    rw [latest_eq_none hLatest] at hFound
    cases hFound
  | some row =>
    right
    obtain ⟨hRow, hSymbol⟩ := (hMem row).mp (mem_of_latest hLatest)
    exact ⟨row, hRow, hSymbol, fun other hOther hSame =>
      dated_le_of_latest hLatest other ((hMem other).mpr ⟨hOther, hSame⟩)⟩

theorem mem_listBySymbol : row ∈ listBySymbol symbol scan ↔ row ∈ scan ∧ row.symbol = symbol := by
  rw [listBySymbol, List.mem_insertionSort, List.mem_filter, ofSymbol, beq_iff_eq]

theorem head?_take_of_pos {α : Type} {rows : List α} {limit : Nat} (h : 1 ≤ limit) :
    (rows.take limit).head? = rows.head? := by
  rw [List.head?_take, if_neg (by omega)]

theorem history_head (hKeys : (checks.map checkKey).Nodup) (h : Newest checks symbol row)
    (hScan : scan.Perm checks) {limit : Nat} (hLimit : 1 ≤ limit) :
    (getHoldingChecksForSymbol symbol limit scan).head? = some row := by
  rw [getHoldingChecksForSymbol, head?_take_of_pos hLimit]
  refine latest_eq_some (mem_listBySymbol.mpr ⟨hScan.mem_iff.mpr h.mem, h.symbol_eq⟩) ?_
  intro other hOther hNe
  obtain ⟨hMem, hSymbol⟩ := mem_listBySymbol.mp hOther
  exact h.lt hKeys (hScan.mem_iff.mp hMem) hSymbol hNe

theorem previous_eq (hKeys : (checks.map checkKey).Nodup) (h : Newest checks symbol row)
    (hScan : scan.Perm checks) {beforeDate : Date} {beforeType : CheckType}
    (hBefore : ∀ row ∈ checks, row.symbol = symbol → row.checkDate < beforeDate) :
    findPreviousForSymbol symbol beforeDate beforeType scan = some row := by
  have hMem : ∀ other, other ∈ (scan.filter (isEarlier symbol beforeDate beforeType)).insertionSort
      (fun a b => rankOf a ≤ rankOf b) ↔ other ∈ checks ∧ other.symbol = symbol := by
    intro other
    rw [List.mem_insertionSort, List.mem_filter, hScan.mem_iff, isEarlier, Bool.and_eq_true,
      beq_iff_eq, decide_eq_true_iff]
    refine and_congr_right fun hOther => and_iff_left_of_imp fun hSymbol => ?_
    exact rankOf_lt_of_date (hBefore other hOther hSymbol)
  refine getLast?_eq_some (List.pairwise_insertionSort _ _) ((hMem row).mpr ⟨h.mem, h.symbol_eq⟩) ?_
  intro other hOther hNe
  obtain ⟨hIn, hSymbol⟩ := (hMem other).mp hOther
  exact h.lt hKeys hIn hSymbol hNe

/-- The row of a symbol in the list of latest checks ends the group of the symbol. -/
theorem mem_listLatestPerSymbol {checkType : Option CheckType} :
    row ∈ listLatestPerSymbol checkType scan ↔
      (group HoldingCheck.symbol ((scan.filter fun check =>
        checkType.all (check.checkType == ·)).insertionSort fun a b => rankOf a ≤ rankOf b)
          row.symbol).getLast? = some row := by
  rw [listLatestPerSymbol, List.mem_insertionSort, List.mem_filterMap]
  constructor
  · rintro ⟨found, -, hLast⟩
    have hFound := (mem_group.mp (List.mem_of_getLast? hLast)).2
    rw [hFound]
    exact hLast
  · intro hLast
    refine ⟨row.symbol, mem_keysOf.mpr ⟨row, ?_, rfl⟩, hLast⟩
    exact (mem_group.mp (List.mem_of_getLast? hLast)).1

theorem latest_eq (hKeys : (checks.map checkKey).Nodup) (h : Newest checks symbol row)
    (hScan : scan.Perm checks) : latestHoldingCheck symbol scan = some row := by
  have hSorted := List.pairwise_insertionSort (fun a b : HoldingCheck => rankOf a ≤ rankOf b)
    (scan.filter fun check => (none : Option CheckType).all (check.checkType == ·))
  have hMem : ∀ other, other ∈ (scan.filter fun check =>
      (none : Option CheckType).all (check.checkType == ·)).insertionSort
        (fun a b => rankOf a ≤ rankOf b) ↔ other ∈ checks := by
    intro other
    rw [List.mem_insertionSort, List.mem_filter, hScan.mem_iff]
    exact and_iff_left rfl
  have hLast : (group HoldingCheck.symbol ((scan.filter fun check =>
      (none : Option CheckType).all (check.checkType == ·)).insertionSort
        fun a b => rankOf a ≤ rankOf b) symbol).getLast? = some row := by
    refine getLast?_eq_some (hSorted.filter _)
      (mem_group.mpr ⟨(hMem row).mpr h.mem, h.symbol_eq⟩) ?_
    intro other hOther hNe
    obtain ⟨hIn, hSymbol⟩ := mem_group.mp hOther
    exact h.lt hKeys ((hMem other).mp hIn) hSymbol hNe
  refine find?_eq_some_of_unique (mem_listLatestPerSymbol.mpr (h.symbol_eq.symm ▸ hLast))
    (beq_iff_eq.mpr h.symbol_eq) ?_
  intro other hOther hSymbol
  rw [mem_listLatestPerSymbol, beq_iff_eq.mp hSymbol, hLast] at hOther
  exact (Option.some.inj hOther).symm

theorem detail_head (h : Newest checks symbol row) (hOne : OneOnLatestDay checks symbol)
    (hScan : scan.Perm checks) {limit : Nat} (hLimit : 1 ≤ limit) :
    (recentHoldingChecks symbol limit scan).head? = some row := by
  rw [recentHoldingChecks, head?_take_of_pos hLimit, listBySymbol]
  refine latest_eq_some (List.mem_filter.mpr ⟨hScan.mem_iff.mpr h.mem, beq_iff_eq.mpr h.symbol_eq⟩) ?_
  intro other hOther hNe
  obtain ⟨hMem, hSymbol⟩ := List.mem_filter.mp hOther
  have hIn := hScan.mem_iff.mp hMem
  refine lt_of_le_of_ne (checkDate_le (h.latest other hIn (beq_iff_eq.mp hSymbol))) fun hDate => ?_
  exact hNe (hOne row h.mem h.symbol_eq other hIn (beq_iff_eq.mp hSymbol)
    (fun later hLater hSame => checkDate_le (h.latest later hLater hSame)) hDate)

/-- A check of the latest day comes first in the stock detail if it is scanned first. -/
theorem detail_head_of_first (hSymbol : row.symbol = symbol)
    (hLatest : ∀ other ∈ checks, other.symbol = symbol → other.checkDate ≤ row.checkDate) :
    (recentHoldingChecks symbol 1 (row :: checks.erase row)).head? = some row := by
  have hKeep : ofSymbol symbol row = true := beq_iff_eq.mpr hSymbol
  rw [recentHoldingChecks, head?_take_of_pos (le_refl 1), listBySymbol,
    List.filter_cons_of_pos hKeep]
  refine latest_cons_of_max fun other hOther => ?_
  obtain ⟨hIn, hSame⟩ := List.mem_filter.mp hOther
  exact hLatest other (List.mem_of_mem_erase hIn) (beq_iff_eq.mp hSame)

theorem viewsShow_none (h : ∀ row ∈ checks, row.symbol ≠ symbol) :
    ViewsShow checks symbol none := by
  have hList : ∀ scan, scan.Perm checks → listBySymbol symbol scan = [] := by
    intro scan hScan
    refine List.eq_nil_iff_forall_not_mem.mpr fun row hRow => ?_
    obtain ⟨hMem, hSymbol⟩ := mem_listBySymbol.mp hRow
    exact h row (hScan.mem_iff.mp hMem) hSymbol
  refine ⟨fun row hRow => (nomatch hRow), fun _ => h, ?_, ?_, ?_, ?_⟩
  · intro scan limit hScan _
    rw [recentHoldingChecks, hList scan hScan, List.take_nil]
    rfl
  · intro scan limit hScan _
    rw [getHoldingChecksForSymbol, hList scan hScan, List.insertionSort_nil, List.take_nil]
    rfl
  · intro scan hScan
    refine List.find?_eq_none.mpr fun row hRow hSymbol => ?_
    have hGroup := (mem_group.mp (List.mem_of_getLast? (mem_listLatestPerSymbol.mp hRow))).1
    rw [List.mem_insertionSort, List.mem_filter, hScan.mem_iff] at hGroup
    exact h row hGroup.1 (beq_iff_eq.mp hSymbol)
  · intro scan beforeDate beforeType hScan _
    have hNone : scan.filter (isEarlier symbol beforeDate beforeType) = [] := by
      refine List.filter_eq_nil_iff.mpr fun row hRow hEarlier => ?_
      rw [isEarlier, Bool.and_eq_true, beq_iff_eq] at hEarlier
      exact h row (hScan.mem_iff.mp hRow) hEarlier.1
    rw [findPreviousForSymbol, hNone]
    rfl

theorem viewsShow_iff (upserts : List HoldingCheck) (symbol : String) :
    (∃ shown, ViewsShow (stored upserts) symbol shown) ↔
      OneOnLatestDay (stored upserts) symbol := by
  have hKeys := nodup_stored upserts
  constructor
  · rintro ⟨shown, h⟩ a ha hSymbolA b hb hSymbolB hLatest hDate
    have hFirst := h.detail (a :: (stored upserts).erase a) 1 (List.perm_cons_erase ha).symm (le_refl 1)
    have hSecond := h.detail (b :: (stored upserts).erase b) 1 (List.perm_cons_erase hb).symm (le_refl 1)
    rw [detail_head_of_first hSymbolA hLatest] at hFirst
    rw [detail_head_of_first hSymbolB (hDate.symm ▸ hLatest)] at hSecond
    exact Option.some.inj (hSecond.trans hFirst.symm)
  · intro hOne
    rcases exists_newest (stored upserts) symbol with hNone | ⟨row, hRow⟩
    · exact ⟨none, viewsShow_none hNone⟩
    · refine ⟨some row, ?_, fun h => (nomatch h), ?_, ?_, ?_, ?_⟩
      · rintro other ⟨⟩
        exact hRow
      · exact fun scan limit hScan hLimit => detail_head hRow hOne hScan hLimit
      · exact fun scan limit hScan hLimit => history_head hKeys hRow hScan hLimit
      · exact fun scan hScan => latest_eq hKeys hRow hScan
      · exact fun scan beforeDate beforeType hScan hBefore => previous_eq hKeys hRow hScan hBefore

end Newest

section Example

def onePremarketCheck : HoldingCheck where
  checkDate := ⟨2026, 5, 4, validDate_mayFourth⟩
  checkType := .preMarket
  symbol := "005930"

def bothChecks : List HoldingCheck :=
  [onePremarketCheck, { onePremarketCheck with checkType := .postMarket }]

/-- The detail shows the check before the market opened, the history the one after it closed. -/
theorem views_differ_bothChecks :
    stored bothChecks = bothChecks ∧
      ((recentHoldingChecks "005930" 20 bothChecks).head?.map HoldingCheck.checkType =
        some .preMarket) ∧
      ((getHoldingChecksForSymbol "005930" 20 bothChecks).head?.map HoldingCheck.checkType =
        some .postMarket) := by
  decide +kernel

end Example

end StockAiPlatform.HoldingCheckRoutes
