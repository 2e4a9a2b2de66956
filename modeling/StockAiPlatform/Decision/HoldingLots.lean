import StockAiPlatform.Decision.LookAhead
import StockAiPlatform.Transaction.Upsert
import Mathlib.Data.List.Dedup

/-! # Several lots of one symbol

A run of the holding checks counts the holdings it evaluates, and writes their
checks under the day, the type and the symbol. Lots of one symbol share a
check, which is that of the last of them.
-/

namespace StockAiPlatform.Decision
set_option autoImplicit false

open Transaction Python

namespace HoldingCheckRepository

variable {symbol : String} {check row : HoldingCheck} {checks : List HoldingCheck}
  {checkDate : Date} {checkType : CheckType}

/-- A check of the day and type is not earlier than itself. -/
theorem isEarlier_self (hDate : row.checkDate = checkDate) (hType : row.checkType = checkType) :
    isEarlier symbol checkDate checkType row = false := by
  rw [isEarlier, rankOf, hDate, hType, decide_eq_false (lt_irrefl _), Bool.and_false]

theorem findPrevious_upsert (hDate : check.checkDate = checkDate)
    (hType : check.checkType = checkType) :
    findPreviousForSymbol symbol checkDate checkType (upsert check checks) =
      findPreviousForSymbol symbol checkDate checkType checks := by
  have hFilter : (upsert check checks).filter (isEarlier symbol checkDate checkType) =
      checks.filter (isEarlier symbol checkDate checkType) := by
    rw [upsert]
    split
    · apply filter_updateWhere_of_disjoint
      · intro row hSame
        rw [isEarlier_self hDate hType]
        simp only [sameKey, Bool.and_eq_true, beq_iff_eq] at hSame
        exact (isEarlier_self (hSame.1.1.trans hDate) (hSame.1.2.trans hType)).symm
      · intro row hEarlier
        rw [Bool.eq_false_iff]
        intro hSame
        simp only [sameKey, Bool.and_eq_true, beq_iff_eq] at hSame
        rw [isEarlier_self (hSame.1.1.trans hDate) (hSame.1.2.trans hType)] at hEarlier
        cases hEarlier
    · rw [List.filter_append, List.filter_singleton, isEarlier_self hDate hType]
      exact List.append_nil _
  rw [findPreviousForSymbol, hFilter, findPreviousForSymbol]

end HoldingCheckRepository

namespace HoldingCheckEngine

open HoldingCheckRepository

variable {engine : HoldingCheckEngine} {checkDate : Date} {checkType : CheckType}
  {db before after : Database} {holdings : List Holding} {result : HoldingCheckResult}

/-- A holding with the price and the indicator that are found for it. -/
abbrev Evaluated := Holding × DailyPrice × StockIndicator

def lookups (db : Database) (holding : Holding) : Option Evaluated :=
  match DailyPriceRepository.getLatestBySymbol holding.symbol db,
    StockIndicatorRepository.getLatestBySymbol holding.symbol db with
  | some price, some indicator => some (holding, price, indicator)
  | _, _ => none

def evaluated (db : Database) : List Evaluated :=
  (HoldingRepository.listActive db).filterMap (lookups db)

def checkOf (engine : HoldingCheckEngine) (checkDate : Date) (checkType : CheckType)
    (db : Database) (lot : Evaluated) : HoldingCheck :=
  (engine.assess checkDate checkType lot.1 lot.2.1 lot.2.2
    (previousTotalScore lot.1.symbol checkDate checkType db)).check

/-- The checks without the links to their snapshots, which every run renews. -/
def contents (db : Database) : List HoldingCheck := db.holdingChecks.map content

/-- What the checks of a run are made from is the same. -/
structure SameInputs (checkDate : Date) (checkType : CheckType) (before db : Database) : Prop where
  holdings : db.holdings = before.holdings
  dailyPrices : db.dailyPrices = before.dailyPrices
  indicators : db.indicators = before.indicators
  previous : ∀ symbol, previousTotalScore symbol checkDate checkType db =
    previousTotalScore symbol checkDate checkType before

theorem SameInputs.refl (db : Database) : SameInputs checkDate checkType db db :=
  ⟨rfl, rfl, rfl, fun _ => rfl⟩

theorem SameInputs.lookups (h : SameInputs checkDate checkType before db) :
    lookups db = lookups before := by
  funext holding
  simp only [HoldingCheckEngine.lookups, DailyPriceRepository.getLatestBySymbol,
    StockIndicatorRepository.getLatestBySymbol, h.dailyPrices, h.indicators]

theorem SameInputs.evaluated (h : SameInputs checkDate checkType before db) :
    evaluated db = evaluated before := by
  simp only [HoldingCheckEngine.evaluated, HoldingRepository.listActive, h.holdings, h.lookups]

theorem SameInputs.checkOf (h : SameInputs checkDate checkType before db) :
    engine.checkOf checkDate checkType db = engine.checkOf checkDate checkType before := by
  funext lot
  simp only [HoldingCheckEngine.checkOf, h.previous]

theorem SameInputs.persist (h : SameInputs checkDate checkType before db) {assessed : Assessed}
    (hDate : assessed.check.checkDate = checkDate) (hType : assessed.check.checkType = checkType) :
    SameInputs checkDate checkType before (persist assessed db) := by
  refine ⟨h.holdings, h.dailyPrices, h.indicators, fun symbol => ?_⟩
  rw [← h.previous symbol, previousTotalScore, previousTotalScore]
  exact congrArg (Option.bind · HoldingCheck.totalScore) (findPrevious_upsert hDate hType)

theorem contents_persist {assessed : Assessed} (h : assessed.check.snapshotId = none) :
    contents (persist assessed db) = upsertBy checkKey (contents db) assessed.check := by
  have hContent : content assessed.check = assessed.check := by
    rw [content, ← h]
  simp only [contents, HoldingCheckEngine.persist, upsert_eq_upsertBy]
  rw [map_upsertBy (f := content) fun _ => rfl]
  exact congrArg (upsertBy checkKey (db.holdingChecks.map content)) hContent

structure Passed (engine : HoldingCheckEngine) (checkDate : Date) (checkType : CheckType)
    (before : Database) (holdings : List Holding) (start after : HoldingCheckResult × Database) :
    Prop where
  sameInputs : SameInputs checkDate checkType before after.2
  saved : after.1.savedCount =
    start.1.savedCount + (holdings.filterMap (lookups before)).length
  counted : after.1.savedCount + after.1.skippedNoPrice + after.1.skippedNoIndicator =
    start.1.savedCount + start.1.skippedNoPrice + start.1.skippedNoIndicator + holdings.length
  contents : contents after.2 =
    ((holdings.filterMap (lookups before)).map (engine.checkOf checkDate checkType before)).foldl
      (upsertBy checkKey) (contents start.2)

theorem passed_of_none {start next : HoldingCheckResult × Database} {holding : Holding}
    (h : SameInputs checkDate checkType before next.2) (hNone : lookups before holding = none)
    (hStored : next.2 = start.2) (hSaved : next.1.savedCount = start.1.savedCount)
    (hSkipped : next.1.skippedNoPrice + next.1.skippedNoIndicator =
      start.1.skippedNoPrice + start.1.skippedNoIndicator + 1) :
    Passed engine checkDate checkType before [holding] start next := by
  have hFound : [holding].filterMap (lookups before) = [] := List.filterMap_cons_none hNone
  refine ⟨h, ?_, ?_, ?_⟩
  · rw [hFound]
    exact hSaved
  · rw [List.length_singleton]
    omega
  · rw [hFound, hStored]
    rfl

theorem passed_checkHolding (h : SameInputs checkDate checkType before db) (holding : Holding) :
    Passed engine checkDate checkType before [holding] (result, db)
      (engine.checkHolding checkDate checkType (result, db) holding) := by
  simp only [checkHolding]
  cases hPrice : DailyPriceRepository.getLatestBySymbol holding.symbol db with
  | none =>
    refine passed_of_none h ?_ rfl rfl ?_
    · rw [← h.lookups, lookups, hPrice]
    · simp only
      omega
  | some price =>
    cases hIndicator : StockIndicatorRepository.getLatestBySymbol holding.symbol db with
    | none =>
      refine passed_of_none h ?_ rfl rfl ?_
      · rw [← h.lookups, lookups, hPrice, hIndicator]
      · simp only
        omega
    | some indicator =>
      have hLookups : lookups before holding = some (holding, price, indicator) := by
        rw [← h.lookups, lookups, hPrice, hIndicator]
      have hFound : [holding].filterMap (lookups before) = [(holding, price, indicator)] :=
        List.filterMap_cons_some hLookups
      refine ⟨h.persist rfl rfl, ?_, ?_, ?_⟩
      · rw [hFound]
        rfl
      · simp only [List.length_singleton]
        omega
      · rw [hFound, List.map_singleton, ← h.checkOf]
        exact contents_persist rfl

theorem Passed.trans {a b c : HoldingCheckResult × Database} {holding : Holding}
    (h : Passed engine checkDate checkType before [holding] a b)
    (hRest : Passed engine checkDate checkType before holdings b c) :
    Passed engine checkDate checkType before (holding :: holdings) a c := by
  have hFound : (holding :: holdings).filterMap (lookups before) =
      [holding].filterMap (lookups before) ++ holdings.filterMap (lookups before) :=
    List.filterMap_append (l := [holding])
  refine ⟨hRest.sameInputs, ?_, ?_, ?_⟩
  · rw [hRest.saved, h.saved, hFound, List.length_append, Nat.add_assoc]
  · have hFirst := h.counted
    rw [List.length_singleton] at hFirst
    rw [hRest.counted, hFirst, List.length_cons]
    omega
  · rw [hRest.contents, h.contents, hFound, List.map_append, List.foldl_append]

theorem passed_foldl (h : SameInputs checkDate checkType before db) :
    Passed engine checkDate checkType before holdings (result, db)
      (holdings.foldl (engine.checkHolding checkDate checkType) (result, db)) := by
  induction holdings generalizing result db with
  | nil => exact ⟨h, rfl, rfl, rfl⟩
  | cons holding holdings ih =>
    have hFirst := @passed_checkHolding engine checkDate checkType db before result h holding
    exact hFirst.trans (ih hFirst.sameInputs)

/-- The checks that a run writes, in the order of the holdings. -/
def written (engine : HoldingCheckEngine) (checkDate : Date) (checkType : CheckType)
    (db : Database) : List HoldingCheck :=
  (evaluated db).map (engine.checkOf checkDate checkType db)

theorem ofValue?_value (checkType : CheckType) : CheckType.ofValue? checkType.value = some checkType := by
  cases checkType <;> decide

theorem passed_run (hRun : engine.run checkDate checkType.value db = .ok (result, after)) :
    Passed engine checkDate checkType db (HoldingRepository.listActive db) ({}, db)
      (result, after) := by
  rw [run, ofValue?_value] at hRun
  exact Except.ok.inj hRun ▸ passed_foldl (SameInputs.refl db)

theorem contents_run (hRun : engine.run checkDate checkType.value db = .ok (result, after)) :
    contents after = (engine.written checkDate checkType db).foldl (upsertBy checkKey)
      (contents db) :=
  (passed_run hRun).contents

def checksFor (checkDate : Date) (checkType : CheckType) (checks : List HoldingCheck) :
    List HoldingCheck :=
  checks.filter fun check => check.checkDate == checkDate && check.checkType == checkType

def symbols (db : Database) : List String := (evaluated db).map fun lot => lot.1.symbol

/-- The checks that are stored already, of symbols that the run does not evaluate. -/
def leftOver (checkDate : Date) (checkType : CheckType) (db : Database) : List HoldingCheck :=
  (checksFor checkDate checkType db.holdingChecks).filter fun check => check.symbol ∉ symbols db

section Counts

variable {checks writes : List HoldingCheck} {symbol : String} {check : HoldingCheck}

theorem mem_checksFor : check ∈ checksFor checkDate checkType checks ↔
    check ∈ checks ∧ check.checkDate = checkDate ∧ check.checkType = checkType := by
  rw [checksFor, List.mem_filter, Bool.and_eq_true, beq_iff_eq, beq_iff_eq]

theorem nodup_symbols_checksFor (h : (checks.map checkKey).Nodup) :
    ((checksFor checkDate checkType checks).map HoldingCheck.symbol).Nodup := by
  rw [checksFor]
  refine List.Nodup.map_on ?_ (h.of_map.filter _)
  intro a ha b hb hSymbol
  obtain ⟨hA, hDate, hType⟩ := mem_checksFor.mp ha
  obtain ⟨hB, hDate', hType'⟩ := mem_checksFor.mp hb
  refine List.inj_on_of_nodup_map h hA hB ?_
  rw [checkKey, checkKey, hDate, hDate', hType, hType', hSymbol]

theorem mem_symbols_checksFor : symbol ∈ (checksFor checkDate checkType checks).map HoldingCheck.symbol
    ↔ (checkDate, checkType, symbol) ∈ checks.map checkKey := by
  simp only [List.mem_map, mem_checksFor, checkKey, Prod.mk.injEq, and_assoc]

/-- The symbols with a check of the date and type after writes of that date and type. -/
theorem mem_symbols_foldl (hWrites : ∀ write ∈ writes, write.checkDate = checkDate ∧
      write.checkType = checkType) :
    symbol ∈ (checksFor checkDate checkType (writes.foldl (upsertBy checkKey) checks)).map
        HoldingCheck.symbol ↔
      symbol ∈ writes.map HoldingCheck.symbol ∨
        symbol ∈ (checksFor checkDate checkType checks).map HoldingCheck.symbol := by
  rw [mem_symbols_checksFor, mem_keys_foldl_upsertBy, mem_symbols_checksFor]
  refine or_congr_left ?_
  simp only [List.mem_map]
  refine exists_congr fun write => and_congr_right fun hWrite => ?_
  obtain ⟨hDate, hType⟩ := hWrites write hWrite
  simp only [checkKey, hDate, hType, Prod.mk.injEq, true_and]

/-- Every symbol that was written has one check, next to those that were stored of others. -/
theorem length_checksFor_foldl (h : (checks.map checkKey).Nodup)
    (hWrites : ∀ write ∈ writes, write.checkDate = checkDate ∧ write.checkType = checkType) :
    (checksFor checkDate checkType (writes.foldl (upsertBy checkKey) checks)).length =
      (writes.map HoldingCheck.symbol).dedup.length +
        ((checksFor checkDate checkType checks).filter
          fun check => check.symbol ∉ writes.map HoldingCheck.symbol).length := by
  have hAfter : ((checksFor checkDate checkType (writes.foldl (upsertBy checkKey) checks)).map
      HoldingCheck.symbol).Nodup := nodup_symbols_checksFor (nodup_foldl_upsertBy h)
  have hOld : (((checksFor checkDate checkType checks).filter
      fun check => check.symbol ∉ writes.map HoldingCheck.symbol).map HoldingCheck.symbol).Nodup :=
    (nodup_symbols_checksFor h).sublist (List.filter_sublist.map _)
  have hBoth : ((writes.map HoldingCheck.symbol).dedup ++ ((checksFor checkDate checkType
      checks).filter fun check => check.symbol ∉ writes.map HoldingCheck.symbol).map
        HoldingCheck.symbol).Nodup := by
    refine List.nodup_append.mpr ⟨List.nodup_dedup _, hOld, ?_⟩
    rintro a hA _ hB rfl
    obtain ⟨check, hCheck, rfl⟩ := List.mem_map.mp hB
    exact decide_eq_true_iff.mp (List.mem_filter.mp hCheck).2 (List.mem_dedup.mp hA)
  have hPerm := (List.perm_ext_iff_of_nodup hAfter hBoth).mpr fun symbol => by
    rw [mem_symbols_foldl hWrites, List.mem_append, List.mem_dedup]
    by_cases hNew : symbol ∈ writes.map HoldingCheck.symbol
    · simp only [hNew, true_or]
    · simp only [hNew, false_or, List.mem_map, List.mem_filter, decide_eq_true_iff]
      refine exists_congr fun check => ?_
      constructor
      · rintro ⟨hCheck, rfl⟩
        exact ⟨⟨hCheck, fun hIn => hNew (List.mem_map.mpr hIn)⟩, rfl⟩
      · rintro ⟨⟨hCheck, -⟩, rfl⟩
        exact ⟨hCheck, rfl⟩
  have hLength := hPerm.length_eq
  rwa [List.length_map, List.length_append, List.length_map] at hLength

end Counts

/-- Every evaluated holding has a check of its own, and one more run leaves the checks as they are,
the links to the snapshots apart. -/
structure KeepsOwnChecks (engine : HoldingCheckEngine) (checkDate : Date) (checkType : CheckType)
    (db : Database) (result : HoldingCheckResult) (after : Database) : Prop where
  stored : (checksFor checkDate checkType after.holdingChecks).length = result.savedCount
  counted : result.savedCount + result.skippedNoPrice + result.skippedNoIndicator =
    (HoldingRepository.listActive db).length
  own : ∀ lot ∈ evaluated db, ∃ check ∈ checksFor checkDate checkType after.holdingChecks,
    check.symbol = lot.1.symbol ∧ check.avgBuyPrice = some lot.1.avgBuyPrice ∧
      check.returnRate = computeReturnRate lot.2.1.close (some lot.1.avgBuyPrice)
  again : ∀ result' after', engine.run checkDate checkType.value after = .ok (result', after') →
    contents after' = contents after

/-- Lots of one symbol have one average price, and as many of them share a check as there are checks
left over of symbols that are not evaluated. -/
structure LotsAgree (checkDate : Date) (checkType : CheckType) (db : Database) : Prop where
  price : ∀ lot ∈ evaluated db, ∀ other ∈ evaluated db, lot.1.symbol = other.1.symbol →
    lot.1.avgBuyPrice = other.1.avgBuyPrice
  shared : (symbols db).dedup.length + (leftOver checkDate checkType db).length =
    (symbols db).length

section Runs

variable (hRun : engine.run checkDate checkType.value db = .ok (result, after))
include hRun

theorem savedCount_run : result.savedCount = (symbols db).length := by
  have hSaved := (passed_run hRun).saved
  rw [symbols, List.length_map]
  exact hSaved.trans (Nat.zero_add _)

theorem counted_run : result.savedCount + result.skippedNoPrice + result.skippedNoIndicator =
    (HoldingRepository.listActive db).length :=
  (passed_run hRun).counted.trans (Nat.zero_add _)

/-- The inputs of a second run are the same, and it writes the same. -/
theorem again_run {result' : HoldingCheckResult} {after' : Database}
    (hKeys : (db.holdingChecks.map checkKey).Nodup)
    (hAgain : engine.run checkDate checkType.value after = .ok (result', after')) :
    contents after' = contents after := by
  have hSame := (passed_run hRun).sameInputs
  have hWritten : engine.written checkDate checkType after =
      engine.written checkDate checkType db := by
    rw [written, written, hSame.evaluated, hSame.checkOf]
  have hContents : (contents db).map checkKey = db.holdingChecks.map checkKey := by
    rw [contents, List.map_map]
    rfl
  rw [contents_run hAgain, hWritten, contents_run hRun]
  exact foldl_upsertBy_idem (hContents ▸ hKeys)

omit hRun in
theorem checksFor_contents (db : Database) : checksFor checkDate checkType (contents db) =
    (checksFor checkDate checkType db.holdingChecks).map content := by
  rw [checksFor, checksFor, contents, List.filter_map]
  rfl

omit hRun in
theorem nodup_contents (hKeys : (db.holdingChecks.map checkKey).Nodup) :
    ((contents db).map checkKey).Nodup := by
  rw [contents, List.map_map]
  exact hKeys

theorem length_checksFor_run (hKeys : (db.holdingChecks.map checkKey).Nodup) :
    (checksFor checkDate checkType after.holdingChecks).length =
      (symbols db).dedup.length + (leftOver checkDate checkType db).length := by
  have hSymbols : (engine.written checkDate checkType db).map HoldingCheck.symbol = symbols db := by
    rw [written, List.map_map]
    rfl
  have hWrites : ∀ write ∈ engine.written checkDate checkType db,
      write.checkDate = checkDate ∧ write.checkType = checkType := by
    rw [written, List.forall_mem_map]
    exact fun _ _ => ⟨rfl, rfl⟩
  have hLength := length_checksFor_foldl (nodup_contents hKeys) hWrites
  rw [← contents_run hRun, checksFor_contents, checksFor_contents, hSymbols, List.length_map,
    List.filter_map, List.length_map] at hLength
  exact hLength

/-- The check of a lot's symbol is that of one of the lots of the symbol. -/
theorem found_run {lot : Evaluated} (hLot : lot ∈ evaluated db) : ∃ other ∈ evaluated db,
    other.1.symbol = lot.1.symbol ∧
      lookup checkKey (checkDate, checkType, lot.1.symbol) (contents after) =
        some (engine.checkOf checkDate checkType db other) := by
  rw [contents_run hRun, lookup_foldl_upsertBy]
  cases hFound : lookup checkKey (checkDate, checkType, lot.1.symbol)
      (engine.written checkDate checkType db).reverse with
  | none =>
    refine absurd ?_ (lookup_eq_none.mp hFound)
    refine List.mem_map.mpr ⟨engine.checkOf checkDate checkType db lot, ?_, rfl⟩
    exact List.mem_reverse.mpr (List.mem_map_of_mem hLot)
  | some check =>
    have hKey := hasKey_iff.mp (List.find?_some hFound)
    obtain ⟨other, hOther, rfl⟩ :=
      List.mem_map.mp (List.mem_reverse.mp (List.mem_of_find?_eq_some hFound))
    exact ⟨other, hOther, congrArg (fun key => key.2.2) hKey, rfl⟩

end Runs

theorem price_of_evaluated {lot : Evaluated} (h : lot ∈ evaluated db) :
    DailyPriceRepository.getLatestBySymbol lot.1.symbol db = some lot.2.1 := by
  obtain ⟨holding, -, hLookups⟩ := List.mem_filterMap.mp h
  rw [lookups] at hLookups
  split at hLookups
  · rename_i price indicator hPrice hIndicator
    obtain rfl := Option.some.inj hLookups
    exact hPrice
  · cases hLookups

theorem nodup_after (hKeys : (db.holdingChecks.map checkKey).Nodup)
    (hRun : engine.run checkDate checkType.value db = .ok (result, after)) :
    (after.holdingChecks.map checkKey).Nodup := by
  have hContents : (contents after).map checkKey = after.holdingChecks.map checkKey := by
    rw [contents, List.map_map]
    rfl
  rw [← hContents, contents_run hRun]
  exact nodup_foldl_upsertBy (nodup_contents hKeys)

theorem own_iff (hKeys : (db.holdingChecks.map checkKey).Nodup)
    (hRun : engine.run checkDate checkType.value db = .ok (result, after)) :
    (∀ lot ∈ evaluated db, ∃ check ∈ checksFor checkDate checkType after.holdingChecks,
      check.symbol = lot.1.symbol ∧ check.avgBuyPrice = some lot.1.avgBuyPrice ∧
        check.returnRate = computeReturnRate lot.2.1.close (some lot.1.avgBuyPrice)) ↔
      ∀ lot ∈ evaluated db, ∀ other ∈ evaluated db, lot.1.symbol = other.1.symbol →
        lot.1.avgBuyPrice = other.1.avgBuyPrice := by
  constructor
  · intro h lot hLot other hOther hSymbol
    obtain ⟨check, hCheck, hCheckSymbol, hPrice, -⟩ := h lot hLot
    obtain ⟨check', hCheck', hCheckSymbol', hPrice', -⟩ := h other hOther
    have hSame : check = check' :=
      List.inj_on_of_nodup_map (nodup_symbols_checksFor (nodup_after hKeys hRun)) hCheck hCheck'
        (hCheckSymbol.trans (hSymbol.trans hCheckSymbol'.symm))
    rw [hSame, hPrice'] at hPrice
    exact (Option.some.inj hPrice).symm
  · intro h lot hLot
    obtain ⟨other, hOther, hSymbol, hFound⟩ := found_run hRun hLot
    obtain ⟨check, hCheck, hContent⟩ := List.mem_map.mp (List.mem_of_find?_eq_some hFound)
    have hAvg := h other hOther lot hLot hSymbol
    have hPrice := price_of_evaluated hOther
    rw [hSymbol, price_of_evaluated hLot] at hPrice
    refine ⟨check, mem_checksFor.mpr ⟨hCheck, congrArg HoldingCheck.checkDate hContent,
      congrArg HoldingCheck.checkType hContent⟩,
      (congrArg HoldingCheck.symbol hContent).trans hSymbol, ?_, ?_⟩
    · rw [← hAvg]
      exact congrArg HoldingCheck.avgBuyPrice hContent
    · rw [← hAvg, Option.some.inj hPrice]
      exact congrArg HoldingCheck.returnRate hContent

theorem keepsOwnChecks_iff (engine : HoldingCheckEngine) (checkDate : Date) (checkType : CheckType)
    (db : Database) (result : HoldingCheckResult) (after : Database)
    (hKeys : (db.holdingChecks.map checkKey).Nodup)
    (hRun : engine.run checkDate checkType.value db = .ok (result, after)) :
    KeepsOwnChecks engine checkDate checkType db result after ↔
      LotsAgree checkDate checkType db := by
  have hLength := length_checksFor_run hRun hKeys
  have hSaved := savedCount_run hRun
  constructor
  · intro h
    exact ⟨(own_iff hKeys hRun).mp h.own, hLength.symm.trans (h.stored.trans hSaved)⟩
  · rintro ⟨hPrice, hShared⟩
    exact ⟨hLength.trans (hShared.trans hSaved.symm), counted_run hRun,
      (own_iff hKeys hRun).mpr hPrice, fun _ _ hAgain => again_run hRun hKeys hAgain⟩

/-- The holding of the market, and a second lot that was bought at another price. -/
def twoLots : Database where
  __ := marketOnRunDay
  holdings := [⟨"005930", 100, true⟩, ⟨"005930", 50, true⟩]

theorem run_eq (engine : HoldingCheckEngine) (checkDate : Date) (checkType : CheckType)
    (db : Database) : ∃ result after,
      engine.run checkDate checkType.value db = .ok (result, after) := by
  rw [run, ofValue?_value]
  exact ⟨_, _, rfl⟩

theorem keepsOwnChecks_iff_twoLots : ∃ result after,
    run {} runDay CheckType.preMarket.value twoLots = .ok (result, after) ∧
      (KeepsOwnChecks {} runDay .preMarket twoLots result after ↔
        LotsAgree runDay .preMarket twoLots) := by
  obtain ⟨result, after, hRun⟩ := run_eq {} runDay .preMarket twoLots
  exact ⟨result, after, hRun,
    keepsOwnChecks_iff {} runDay .preMarket twoLots result after List.nodup_nil hRun⟩

/-- Two holdings are counted as saved, and one check is stored. -/
theorem not_keepsOwnChecks_twoLots : ¬ ∀ (engine : HoldingCheckEngine) (checkDate : Date)
    (checkType : CheckType) (db : Database) (result : HoldingCheckResult) (after : Database),
    (db.holdingChecks.map checkKey).Nodup →
      engine.run checkDate checkType.value db = .ok (result, after) →
        KeepsOwnChecks engine checkDate checkType db result after := by
  intro h
  obtain ⟨result, after, hRun⟩ := run_eq {} runDay .preMarket twoLots
  have hStored := (h {} runDay .preMarket twoLots result after List.nodup_nil hRun).stored
  rw [length_checksFor_run hRun List.nodup_nil, savedCount_run hRun] at hStored
  exact absurd hStored (by decide)

end HoldingCheckEngine

end StockAiPlatform.Decision
