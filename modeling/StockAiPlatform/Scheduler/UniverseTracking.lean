import StockAiPlatform.Decision.RecommendationEngine
import StockAiPlatform.Scheduler.SymbolIsolation

/-! # The universe over many jobs

A market close job adds the symbols of its ranking to the universe and takes
none out, so that a member stays one for good. What it staged is lost with its
session, or where the commit fails. The recommendation engine reads the same
two tables.
-/

namespace StockAiPlatform.MarketClose
set_option autoImplicit false

open Transaction UnitOfWork

section Definitions

/-- A market close job, as the vendor and the database are at its time, and whether its session
can be committed. -/
structure Collection where
  env : Environment
  config : MarketCloseConfig
  commits : Bool

/-- The store, and the rankings that were collected with the latest one in front. -/
structure Tracked where
  store : MarketStore
  collected : List (MarketCloseConfig × List MarketCapRanking)

namespace Collection

def run (collection : Collection) (store : MarketStore) :
    EStateM.Result CollectError (UnitOfWork MarketStore) MarketCloseResult :=
  (collectMarketCloseData collection.env collection.config).run (.opened store)

def rankings (collection : Collection) : List MarketCapRanking :=
  match MarketCapRankingCollector.plan collection.env collection.config with
  | .ok (rankings, _) => rankings
  | .error _ => []

/-- What is staged, if the job returned and its session is usable and can be committed. -/
def committed? (collection : Collection) (store : MarketStore) : Option MarketStore :=
  match collection.run store with
  | .ok _ session => if collection.commits then session.staged else none
  | .error _ _ => none

/-- The job returned, and its stage `market_cap` did not fail. -/
def collects (collection : Collection) (store : MarketStore) : Bool :=
  match collection.run store with
  | .ok ⟨_, .ok _, _, _, _, _⟩ _ => true
  | _ => false

end Collection

/-- A job whose session raises, has ended or cannot be committed leaves the store as it was. -/
def collectNext (tracked : Tracked) (collection : Collection) : Tracked :=
  match collection.committed? tracked.store with
  | none => tracked
  | some next =>
    ⟨next, if collection.collects tracked.store then
      (collection.config, collection.rankings) :: tracked.collected else tracked.collected⟩

def collectAll (store : MarketStore) (collections : List Collection) : Tracked :=
  collections.foldl collectNext ⟨store, []⟩

/-- The database of the engine with the universes and members of the store. -/
def engineView (db : Decision.Database) (store : MarketStore) : Decision.Database :=
  { db with
    universes := store.universes.rows.map fun row => ⟨row.universeId, row.name⟩
    members := store.members.map fun row => ⟨row.universeId, row.symbol⟩ }

/-- The symbols `RecommendationEngine.generate` goes through. -/
def enumerated (db : Decision.Database) (universeName : String) (store : MarketStore) : List String :=
  (Decision.RecommendationEngine.membersOf universeName (engineView db store)).map
    Decision.StockUniverseMember.symbol

def symbolsOfRanking (rankings : List MarketCapRanking) : List String :=
  rankings.map fun row => row.symbol

def latestRanking (universeName market : String)
    (collected : List (MarketCloseConfig × List MarketCapRanking)) : List MarketCapRanking :=
  ((collected.find? fun entry =>
    decide (entry.1.universeName = universeName ∧ entry.1.market = market)).map Prod.snd).getD []

/-- The members are the symbols of the latest ranking of each market. -/
def TracksLatest (db : Decision.Database) (universeName : String) (tracked : Tracked) : Prop :=
  ∀ symbol, symbol ∈ enumerated db universeName tracked.store ↔
    ∃ market, symbol ∈ symbolsOfRanking (latestRanking universeName market tracked.collected)

/-- The foreign key of the members, and their unique constraint. -/
structure Linked (store : MarketStore) : Prop where
  linked : ∀ row ∈ store.members, ∃ found ∈ store.universes.rows, found.universeId = row.universeId
  unique : store.members.Nodup

end Definitions

section Members

variable {env : Environment} {config : MarketCloseConfig} {store saved : MarketStore}
  {db : Decision.Database} {name symbol : String}

theorem mem_enumerated : symbol ∈ enumerated db name store ↔
    ∃ found, StockUniverseRepository.getByName name store = some found ∧
      ⟨found.universeId, symbol⟩ ∈ store.members := by
  have hFind : Decision.StockUniverseRepository.getByName name (engineView db store) =
      (StockUniverseRepository.getByName name store).map fun row => ⟨row.universeId, row.name⟩ :=
    List.find?_map
  rw [enumerated, Decision.RecommendationEngine.membersOf, hFind]
  cases StockUniverseRepository.getByName name store with
  | none => exact iff_of_false List.not_mem_nil fun ⟨_, hNone, _⟩ => nomatch hNone
  | some found =>
    simp only [Option.map_some, Decision.StockUniverseMemberRepository.listByUniverse, engineView,
      List.mem_map, List.mem_insertionSort, List.mem_filter, Option.some.injEq, exists_eq_left']
    constructor
    · rintro ⟨_, ⟨⟨row, hRow, rfl⟩, hId⟩, rfl⟩
      rw [← eq_of_beq hId]
      exact hRow
    · intro hRow
      exact ⟨_, ⟨⟨_, hRow, rfl⟩, beq_self_eq_true _⟩, rfl⟩

/-- The unique constraint keeps the engine from going through a symbol twice. -/
theorem nodup_enumerated (db : Decision.Database) (name : String) (h : store.members.Nodup) :
    (enumerated db name store).Nodup := by
  rw [enumerated, Decision.RecommendationEngine.membersOf]
  cases Decision.StockUniverseRepository.getByName name (engineView db store) with
  | none => exact List.nodup_nil
  | some found =>
    simp only [Decision.StockUniverseMemberRepository.listByUniverse, engineView]
    have hView : (store.members.map fun row : StockUniverseMember =>
        (⟨row.universeId, row.symbol⟩ : Decision.StockUniverseMember)).Nodup := by
      apply h.map_on
      rintro ⟨_, _⟩ - ⟨_, _⟩ - hSame
      cases hSame
      rfl
    refine List.Nodup.map_on ?_ ((List.perm_insertionSort _ _).nodup_iff.mpr (hView.filter _))
    intro a ha b hb hSymbol
    rw [List.mem_insertionSort, List.mem_filter, beq_iff_eq] at ha hb
    obtain ⟨_, _⟩ := a
    obtain ⟨_, _⟩ := b
    rw [Decision.StockUniverseMember.mk.injEq]
    exact ⟨ha.2.trans hb.2.symm, hSymbol⟩

theorem name_of_getByName {found : StockUniverse}
    (h : StockUniverseRepository.getByName name store = some found) :
    found ∈ store.universes.rows ∧ found.name = name := by
  have hName := List.find?_some (p := fun row : StockUniverse => row.name == name) h
  exact ⟨List.mem_of_find?_eq_some h, eq_of_beq hName⟩

theorem eq_of_universeId {a b : StockUniverse} (ha : a ∈ store.universes.rows)
    (hb : b ∈ store.universes.rows) (h : a.universeId = b.universeId) : a = b :=
  List.inj_on_of_nodup_map store.universes.nodup ha hb h

/-- A universe of its own has no members before a collection adds them. -/
theorem getOrCreate_members (db : Decision.Database) {found : StockUniverse}
    (h : StockUniverseRepository.getOrCreate env name store = .ok (found, saved))
    (hLinked : Linked store) :
    StockUniverseRepository.getByName name saved = some found ∧ Linked saved ∧
      ∀ other symbol, symbol ∈ enumerated db other saved ↔ symbol ∈ enumerated db other store := by
  obtain ⟨hFound, rfl⟩ | ⟨hNone, rfl, rfl⟩ := getOrCreate_spec h
  · exact ⟨hFound, hLinked, fun _ _ => Iff.rfl⟩
  · have hRows : (store.universes.insert ⟨store.universes.nextKey, name⟩).rows =
        store.universes.rows ++ [⟨store.universes.nextKey, name⟩] := Table.rows_insert_of_key_eq rfl
    have hGet (other : String) : StockUniverseRepository.getByName other
        { store with universes := store.universes.insert ⟨store.universes.nextKey, name⟩ } =
          (StockUniverseRepository.getByName other store).or
            (if name == other then some ⟨store.universes.nextKey, name⟩ else none) := by
      rw [StockUniverseRepository.getByName, hRows, List.find?_append, List.find?_singleton]
      rfl
    refine ⟨?_, ?_, ?_⟩
    · rw [hGet, hNone, beq_self_eq_true]
      rfl
    · refine ⟨fun row hRow => ?_, hLinked.unique⟩
      obtain ⟨listed, hUniverse, hId⟩ := hLinked.linked row hRow
      exact ⟨listed, hRows ▸ List.mem_append_left _ hUniverse, hId⟩
    · intro other symbol
      rw [mem_enumerated, mem_enumerated, hGet]
      cases StockUniverseRepository.getByName other store with
      | some listed => exact Iff.rfl
      | none =>
        refine iff_of_false ?_ fun ⟨_, hNo, _⟩ => nomatch hNo
        rintro ⟨listed, hUniverse, hMember⟩
        rw [Option.none_or] at hUniverse
        split at hUniverse
        · -- no row links to a key that was not handed out
          obtain rfl := Option.some.inj hUniverse
          obtain ⟨linked, hRow, hId⟩ := hLinked.linked _ hMember
          have hLess := store.universes.key_lt_nextKey hRow
          exact absurd hId (Nat.ne_of_lt hLess)
        · exact nomatch hUniverse

theorem nodup_addIfMissing {universeId : Nat} {created : Bool}
    (h : StockUniverseMemberRepository.addIfMissing env universeId symbol store =
      .ok (created, saved)) (hUnique : store.members.Nodup) : saved.members.Nodup := by
  rw [StockUniverseMemberRepository.addIfMissing] at h
  split at h
  case isTrue =>
    cases h
    exact hUnique
  case isFalse hNone =>
    obtain ⟨next, hWrite, hRest⟩ := except_bind_eq_ok.mp h
    cases hRest
    rw [eq_of_write hWrite]
    refine hUnique.append (List.nodup_singleton _) ?_
    rw [List.disjoint_singleton]
    intro hThere
    exact hNone (List.any_eq_true.mpr ⟨_, hThere, by simp⟩)

theorem nodup_populate {universeId : Nat} {items : List MarketCapRanking} {counts : Nat × Nat}
    (h : MarketCapRankingCollector.populate env universeId items store = .ok (counts, saved))
    (hUnique : store.members.Nodup) : saved.members.Nodup := by
  induction items generalizing store counts with
  | nil =>
    cases h
    exact hUnique
  | cons item items ih =>
    rw [MarketCapRankingCollector.populate] at h
    obtain ⟨⟨stockCreated, withStock⟩, hStock, hAfterStock⟩ := except_bind_eq_ok.mp h
    obtain ⟨⟨memberCreated, withMember⟩, hMember, hAfterMember⟩ := except_bind_eq_ok.mp hAfterStock
    obtain ⟨⟨rest, last⟩, hRest, hDone⟩ := except_bind_eq_ok.mp hAfterMember
    cases hDone
    obtain ⟨stocks, rfl⟩ := stockUpsert_spec hStock
    exact ih hRest (nodup_addIfMissing hMember hUnique)

theorem populate_members (db : Decision.Database) {found : StockUniverse}
    {rankings : List MarketCapRanking}
    {counts : Nat × Nat} (hLinked : Linked store)
    (hFound : StockUniverseRepository.getByName name store = some found)
    (h : MarketCapRankingCollector.populate env found.universeId rankings store =
      .ok (counts, saved)) :
    Linked saved ∧ ∀ other symbol, symbol ∈ enumerated db other saved ↔
      symbol ∈ enumerated db other store ∨ name = other ∧ symbol ∈ symbolsOfRanking rankings := by
  obtain ⟨⟨stocks, hSaved⟩, hMembers⟩ := populate_spec h
  obtain ⟨hFoundRow, hFoundName⟩ := name_of_getByName hFound
  have hUniverses : saved.universes = store.universes := by rw [hSaved]
  have hGet (other : String) : StockUniverseRepository.getByName other saved =
      StockUniverseRepository.getByName other store := by
    rw [StockUniverseRepository.getByName, hUniverses]
    rfl
  constructor
  · refine ⟨fun row hRow => ?_, nodup_populate h hLinked.unique⟩
    rw [hUniverses]
    rcases (hMembers row).mp hRow with hOld | ⟨hId, -⟩
    · exact hLinked.linked row hOld
    · exact ⟨found, hFoundRow, hId.symm⟩
  · intro other symbol
    rw [mem_enumerated, mem_enumerated, hGet]
    simp only [hMembers]
    constructor
    · rintro ⟨listed, hUniverse, hOld | ⟨hId, item, hItem, hSymbol⟩⟩
      · exact .inl ⟨listed, hUniverse, hOld⟩
      · obtain ⟨hRow, hName⟩ := name_of_getByName hUniverse
        obtain rfl := eq_of_universeId hRow hFoundRow hId
        exact .inr ⟨hFoundName.symm.trans hName, List.mem_map.mpr ⟨item, hItem, hSymbol.symm⟩⟩
    · rintro (⟨listed, hUniverse, hOld⟩ | ⟨rfl, hRanked⟩)
      · exact ⟨listed, hUniverse, .inl hOld⟩
      · obtain ⟨item, hItem, rfl⟩ := List.mem_map.mp hRanked
        exact ⟨found, hFound, .inr ⟨rfl, item, hItem, rfl⟩⟩

theorem save_members (db : Decision.Database) {rankings : List MarketCapRanking}
    {issues : List RankingIssue}
    {result : MarketCapRankingCollectorResult} (hLinked : Linked store)
    (h : MarketCapRankingCollector.save env config rankings issues store = .ok (result, saved)) :
    Linked saved ∧ ∀ other symbol, symbol ∈ enumerated db other saved ↔
      symbol ∈ enumerated db other store ∨
        config.universeName = other ∧ symbol ∈ symbolsOfRanking rankings := by
  obtain ⟨found, withUniverse, counts, hUniverse, hPopulate⟩ := save_steps h
  obtain ⟨hFound, hWithLinked, hWith⟩ := getOrCreate_members db hUniverse ⟨hLinked.linked, hLinked.unique⟩
  obtain ⟨hSavedLinked, hSaved⟩ := populate_members db hWithLinked hFound hPopulate
  refine ⟨hSavedLinked, fun other symbol => (hSaved other symbol).trans ?_⟩
  rw [hWith]
  exact Iff.rfl

end Members

section Runs

variable {db : Decision.Database} {start : MarketStore} {tracked : Tracked} {name symbol : String}

/-- What a committed job leaves: the rankings are saved, and the daily prices that follow change
no member. -/
theorem committed?_cases {collection : Collection} {store next : MarketStore}
    (h : collection.committed? store = some next) :
    (collection.collects store = false ∧ next = store) ∨
      ∃ issues result saved prices, collection.collects store = true ∧
        MarketCapRankingCollector.save collection.env collection.config collection.rankings issues
          store = .ok (result, saved) ∧ next = { saved with dailyPrices := prices } := by
  rw [Collection.committed?, Collection.run] at h
  rw [Collection.collects, Collection.run]
  cases hPlan : MarketCapRankingCollector.plan collection.env collection.config with
  | error error =>
    rw [run_marketCapFailed (run_rankings_unplanned hPlan)] at h ⊢
    simp only at h
    split at h
    · cases h
      exact .inl ⟨rfl, rfl⟩
    · cases h
  | ok planned =>
    obtain ⟨rankings, issues⟩ := planned
    have hRankings : collection.rankings = rankings := by rw [Collection.rankings, hPlan]
    cases hSave : MarketCapRankingCollector.save collection.env collection.config rankings issues
        store with
    | error error =>
      rw [run_marketCapFailed (run_rankings_refused hPlan hSave)] at h
      simp only [ite_self] at h
      cases h
    | ok result =>
      obtain ⟨ranking, saved⟩ := result
      obtain hNone | ⟨before, key, after, hSymbols, hKey, hBefore⟩ :=
        exists_first_refused (DailyPriceCollector.acceptsPrice collection.env)
          (DailyPriceCollector.plan collection.env collection.config)
          (symbolsOf ranking.universeId saved)
      · obtain ⟨outcomes, hEach, -⟩ := attemptEach_of_accepted collection.env.pendingRollback
          (DailyPriceCollector.refusalOfPrice collection.env)
          (DailyPriceCollector.acceptsPrice collection.env) DailyPriceRepository.upsert
          (DailyPriceCollector.plan collection.env collection.config) store saved hNone
        rw [run_collectMarketCloseData hPlan hSave hEach] at h ⊢
        simp only at h
        split at h
        · rw [Option.some.injEq] at h
          exact .inr ⟨issues, ranking, saved, _, rfl, hRankings ▸ hSave,
            h.symm.trans (foldl_symbols (symbolsOf ranking.universeId saved))⟩
        · cases h
      · -- The session ends at the first price that the database refuses.
        obtain ⟨result, hRun, -⟩ := run_refused hPlan hSave hSymbols hBefore hKey
        rw [hRun] at h
        simp only [ite_self] at h
        cases h

/-- A symbol the universe had at the start, or that any ranking collected for it held. -/
def EverRanked (db : Decision.Database) (start : MarketStore) (name : String)
    (collected : List (MarketCloseConfig × List MarketCapRanking)) (symbol : String) : Prop :=
  symbol ∈ enumerated db name start ∨
    ∃ entry ∈ collected, entry.1.universeName = name ∧ symbol ∈ symbolsOfRanking entry.2

theorem enumerated_dailyPrices (store : MarketStore) (prices : List DailyPrice) :
    enumerated db name { store with dailyPrices := prices } = enumerated db name store := rfl

structure Accumulates (db : Decision.Database) (start : MarketStore) (tracked : Tracked) : Prop where
  linked : Linked tracked.store
  members : ∀ name symbol, symbol ∈ enumerated db name tracked.store ↔
    EverRanked db start name tracked.collected symbol

theorem Accumulates.next (h : Accumulates db start tracked) (collection : Collection) :
    Accumulates db start (collectNext tracked collection) := by
  rw [collectNext]
  cases hCommitted : collection.committed? tracked.store with
  | none => exact h
  | some next =>
    obtain ⟨hCollects, rfl⟩ | ⟨issues, result, saved, prices, hCollects, hSave, rfl⟩ :=
      committed?_cases hCommitted
    · simp only [hCollects]
      exact h
    · obtain ⟨hLinked, hMembers⟩ := save_members db h.linked hSave
      simp only [hCollects, if_true]
      refine ⟨⟨hLinked.linked, hLinked.unique⟩, fun name symbol => ?_⟩
      rw [enumerated_dailyPrices]
      refine (hMembers name symbol).trans ?_
      rw [h.members, EverRanked, EverRanked, List.exists_mem_cons_iff, or_assoc]
      exact or_congr_right Or.comm

theorem accumulates_collectAll (db : Decision.Database) (hLinked : Linked start)
    (collections : List Collection) : Accumulates db start (collectAll start collections) := by
  have hStart : Accumulates db start ⟨start, []⟩ := by
    refine ⟨hLinked, fun name symbol => ⟨.inl, ?_⟩⟩
    rintro (hOld | ⟨entry, hEntry, -⟩)
    · exact hOld
    · exact absurd hEntry List.not_mem_nil
  exact List.foldlRecOn (motive := Accumulates db start) collections collectNext hStart
    fun tracked h collection _ => h.next collection

theorem everRanked_of_latest {market : String}
    {collected : List (MarketCloseConfig × List MarketCapRanking)}
    (h : symbol ∈ symbolsOfRanking (latestRanking name market collected)) :
    EverRanked db start name collected symbol := by
  rw [latestRanking] at h
  cases hFind : collected.find? fun entry =>
      decide (entry.1.universeName = name ∧ entry.1.market = market) with
  | none =>
    rw [hFind] at h
    exact absurd h List.not_mem_nil
  | some entry =>
    rw [hFind] at h
    have hFound := List.find?_some hFind
    exact .inr ⟨entry, List.mem_of_find?_eq_some hFind, (of_decide_eq_true hFound).1, h⟩

/-- The members are all symbols ever ranked, each once; they are the latest ones only as long as no symbol
dropped out of the latest rankings. -/
theorem members_everRanked (db : Decision.Database) (start : MarketStore) (hLinked : Linked start)
    (collections : List Collection) (name : String) :
    (∀ symbol, symbol ∈ enumerated db name (collectAll start collections).store ↔
      EverRanked db start name (collectAll start collections).collected symbol) ∧
    (enumerated db name (collectAll start collections).store).Nodup ∧
    (TracksLatest db name (collectAll start collections) ↔
      ∀ symbol, EverRanked db start name (collectAll start collections).collected symbol →
        ∃ market, symbol ∈ symbolsOfRanking
          (latestRanking name market (collectAll start collections).collected)) := by
  have hAll := accumulates_collectAll db hLinked collections
  have hMembers := hAll.members name
  refine ⟨hMembers, nodup_enumerated db name hAll.linked.unique, forall_congr' fun symbol => ?_⟩
  rw [hMembers]
  constructor
  · exact fun h => h.mp
  · exact fun h => ⟨h, fun ⟨_, hLatest⟩ => everRanked_of_latest hLatest⟩

end Runs

namespace DropOut

def ranked (symbol : String) : VendorRanking where
  rank := 1
  symbol := symbol
  name := symbol
  marketCap := none
  closePrice := none
  listedShares := none
  sector := none
  tradingValue := none

def topOne (symbol : String) : Environment where
  fetchMarketCapRankings _ _ _ := .ok [ranked symbol]
  fetchDailyPrices _ _ _ := .ok []
  accepts _ := true
  refusal _ := ⟨"DataError", "numeric field overflow"⟩
  pendingRollback := ⟨"PendingRollbackError", "This Session's transaction has been rolled back"⟩

theorem batchSize_pos : 0 < 50 := Nat.succ_pos 49

def onDay (day : Int) : MarketCloseConfig where
  targetDate := day
  market := "KOSPI"
  limit := 1
  universeName := "MARKET_CAP_TOP_500"
  startDate := day
  endDate := day
  batchSize := 50
  batchSize_pos := batchSize_pos

def collections : List Collection :=
  [⟨topOne "000660", onDay 20260105, true⟩, ⟨topOne "005930", onDay 20260106, true⟩]

def start : MarketStore := ⟨[], [], ∅, [], []⟩

theorem linked_start : Linked start := ⟨fun _ hRow => absurd hRow List.not_mem_nil, List.nodup_nil⟩

end DropOut

theorem members_everRanked_dropOut :
    (∀ symbol, symbol ∈ enumerated Decision.Database.empty "MARKET_CAP_TOP_500"
        (collectAll DropOut.start DropOut.collections).store ↔
      EverRanked Decision.Database.empty DropOut.start "MARKET_CAP_TOP_500"
        (collectAll DropOut.start DropOut.collections).collected symbol) ∧
    (enumerated Decision.Database.empty "MARKET_CAP_TOP_500"
      (collectAll DropOut.start DropOut.collections).store).Nodup ∧
    (TracksLatest Decision.Database.empty "MARKET_CAP_TOP_500"
        (collectAll DropOut.start DropOut.collections) ↔
      ∀ symbol, EverRanked Decision.Database.empty DropOut.start "MARKET_CAP_TOP_500"
          (collectAll DropOut.start DropOut.collections).collected symbol →
        ∃ market, symbol ∈ symbolsOfRanking (latestRanking "MARKET_CAP_TOP_500" market
          (collectAll DropOut.start DropOut.collections).collected)) :=
  members_everRanked Decision.Database.empty DropOut.start DropOut.linked_start DropOut.collections
    "MARKET_CAP_TOP_500"

theorem not_tracksLatest_dropOut :
    ¬ TracksLatest Decision.Database.empty "MARKET_CAP_TOP_500"
      (collectAll DropOut.start DropOut.collections) := by
  intro h
  have hMember : "000660" ∈ enumerated Decision.Database.empty "MARKET_CAP_TOP_500"
      (collectAll DropOut.start DropOut.collections).store := by decide +kernel
  obtain ⟨market, hLatest⟩ := (h "000660").mp hMember
  by_cases hMarket : "KOSPI" = market
  · subst hMarket
    exact absurd hLatest (by decide +kernel)
  · have hNone : latestRanking "MARKET_CAP_TOP_500" market
        (collectAll DropOut.start DropOut.collections).collected = [] := by
      have hCollected : (collectAll DropOut.start DropOut.collections).collected.all
          (fun entry => entry.1.market == "KOSPI") = true := by decide +kernel
      rw [latestRanking, List.find?_eq_none.mpr]
      · rfl
      · intro entry hEntry hSame
        have hKospi := eq_of_beq (List.all_eq_true.mp hCollected entry hEntry)
        exact hMarket (hKospi.symm.trans (of_decide_eq_true hSame).2)
    rw [hNone] at hLatest
    exact absurd hLatest List.not_mem_nil

end StockAiPlatform.MarketClose
