import StockAiPlatform.Decision.LookAhead
import StockAiPlatform.Python.Rounding
import StockAiPlatform.Transaction.Ranking
import Mathlib.Data.String.Basic

/-! # What a run of the recommendations ranks

The candidates of a universe are ranked by total score and symbol, and the
first of them are stored under the ranks from 1 on. The symbols of a universe
are distinct, so that the order in which its members are listed is forgotten.
-/

namespace StockAiPlatform.Decision
set_option autoImplicit false

open Transaction Python

namespace RecommendationEngine

section Candidates

variable {engine : RecommendationEngine} {runDate : Date} {db : Database}
  {members members' : List StockUniverseMember} {evaluations : List Evaluation}

def candidate? : Evaluation → Option Candidate
  | .candidate candidate => some candidate
  | _ => none

theorem candidates_eq : candidates evaluations = evaluations.filterMap candidate? := by
  refine congrFun (congrArg List.filterMap (funext fun evaluation => ?_)) evaluations
  cases evaluation <;> rfl

def isSkippedNoIndicator : Evaluation → Bool
  | .skippedNoIndicator => true
  | _ => false

def isSkippedNoStock : Evaluation → Bool
  | .skippedNoStock => true
  | _ => false

theorem length_evaluations : (candidates evaluations).length +
    evaluations.countP isSkippedNoIndicator + evaluations.countP isSkippedNoStock =
      evaluations.length := by
  induction evaluations with
  | nil => rfl
  | cons evaluation evaluations ih =>
    rw [candidates_eq] at ih ⊢
    rw [List.length_cons, ← ih]
    cases evaluation with
    | skippedNoStock =>
      rw [List.filterMap_cons_none rfl, List.countP_cons_of_neg (by simp [isSkippedNoIndicator]),
        List.countP_cons_of_pos rfl]
      omega
    | skippedNoIndicator =>
      rw [List.filterMap_cons_none rfl, List.countP_cons_of_pos rfl,
        List.countP_cons_of_neg (by simp [isSkippedNoStock])]
      omega
    | candidate candidate =>
      have hFound : candidate? (.candidate candidate) = some candidate := rfl
      rw [List.filterMap_cons_some hFound, List.length_cons,
        List.countP_cons_of_neg (by simp [isSkippedNoIndicator]),
        List.countP_cons_of_neg (by simp [isSkippedNoStock])]
      omega

theorem symbol_of_evaluate {member : StockUniverseMember} {candidate : Candidate}
    (h : candidate? (engine.evaluate runDate db member) = some candidate) :
    candidate.stock.symbol = member.symbol := by
  rw [evaluate] at h
  cases hStock : StockRepository.getBySymbol member.symbol db with
  | none =>
    rw [hStock] at h
    cases h
  | some stock =>
    rw [hStock] at h
    cases hIndicator : StockIndicatorRepository.getLatestBySymbol member.symbol db with
    | none =>
      rw [hIndicator] at h
      cases h
    | some indicator =>
      rw [hIndicator] at h
      cases h
      rw [StockRepository.getBySymbol] at hStock
      have hSymbol := List.find?_some hStock
      exact beq_iff_eq.mp hSymbol

def found (engine : RecommendationEngine) (runDate : Date) (db : Database)
    (members : List StockUniverseMember) : List Candidate :=
  candidates (members.map (engine.evaluate runDate db))

theorem found_eq : engine.found runDate db members =
    members.filterMap fun member => candidate? (engine.evaluate runDate db member) := by
  rw [found, candidates_eq, List.filterMap_map]
  rfl

/-- The symbols of the candidates are symbols of members, in the same order. -/
theorem symbols_found : ((engine.found runDate db members).map fun c => c.stock.symbol).Sublist
    (members.map StockUniverseMember.symbol) := by
  rw [found_eq]
  induction members with
  | nil => exact List.Sublist.slnil
  | cons member members ih =>
    simp only [List.filterMap_cons]
    cases hFound : candidate? (engine.evaluate runDate db member) with
    | none => exact ih.cons _
    | some candidate =>
      rw [List.map_cons, List.map_cons, symbol_of_evaluate hFound]
      exact ih.cons_cons _

theorem found_perm (h : members.Perm members') :
    (engine.found runDate db members).Perm (engine.found runDate db members') :=
  (h.map _).filterMap _

def symbolOf (candidate : Candidate) : String := candidate.stock.symbol

theorem ranked_eq (candidates : List Candidate) :
    ranked candidates = ranking Candidate.totalScore symbolOf candidates := rfl

/-- The ranking forgets the order in which the members are listed. -/
theorem ranked_found_eq (h : members.Perm members')
    (hSymbols : (members.map StockUniverseMember.symbol).Nodup) :
    ranked (engine.found runDate db members) = ranked (engine.found runDate db members') := by
  rw [ranked_eq, ranked_eq]
  exact ranking_eq_of_perm (found_perm h) (hSymbols.sublist symbols_found)

end Candidates

section Stored

variable {engine : RecommendationEngine} {runDate : Date} {db : Database} {universeName : String}
  {topN : Int} {runId rank : Nat} {row : Recommendation} {rows : List Recommendation}
  {candidates : List Candidate}

def IsRowOf (runId : Nat) (row : Recommendation) (ranked : Candidate × Nat) : Prop :=
  row = recommendationOf runId ranked.2 row.snapshotId ranked.1

theorem persistFrom_stored (engine : RecommendationEngine) (runId : Nat) (runDate : Date)
    (rank : Nat) (candidates : List Candidate) (db : Database) : ∃ added,
      (engine.persistFrom runId runDate rank candidates db).recommendations =
        db.recommendations ++ added ∧
      List.Forall₂ (IsRowOf runId) added (candidates.zipIdx rank) := by
  induction candidates generalizing rank db with
  | nil => exact ⟨[], (List.append_nil _).symm, .nil⟩
  | cons candidate rest ih =>
    obtain ⟨added, hAdded, hRows⟩ :=
      ih (rank + 1) (engine.persistCandidate runId runDate rank candidate db)
    refine ⟨recommendationOf runId rank (nextId (db.dataSnapshots.map DataSnapshot.snapshotId))
      candidate :: added, ?_, ?_⟩
    · rw [persistFrom, hAdded]
      exact List.append_assoc _ _ _
    · rw [List.zipIdx_cons]
      exact .cons rfl hRows

/-- The id of the run that starts on the database. -/
def newRunId (db : Database) : Nat := nextId (db.recommendationRuns.map RecommendationRun.runId)

def top (engine : RecommendationEngine) (runDate : Date) (universeName : String) (topN : Int)
    (db : Database) : List Candidate :=
  (ranked (engine.found runDate db (membersOf universeName db))).take topN.toNat

theorem generate_snd (engine : RecommendationEngine) (runDate : Date) (universeName : String)
    (topN : Int) (db : Database) : (engine.generate runDate universeName topN db).2 =
      engine.persistFrom (newRunId db) runDate 1 (engine.top runDate universeName topN db)
        { db with
          recommendationRuns :=
            db.recommendationRuns ++ [(engine.generate runDate universeName topN db).1] } := rfl

theorem generate_stored (engine : RecommendationEngine) (runDate : Date) (universeName : String)
    (topN : Int) (db : Database) : List.Forall₂ (IsRowOf (newRunId db))
      (addedRows db.recommendations (engine.generate runDate universeName topN db).2.recommendations)
      ((engine.top runDate universeName topN db).zipIdx 1) := by
  obtain ⟨added, hAdded, hRows⟩ := engine.persistFrom_stored (newRunId db) runDate 1
    (engine.top runDate universeName topN db)
    { db with
      recommendationRuns :=
        db.recommendationRuns ++ [(engine.generate runDate universeName topN db).1] }
  have hSame : addedRows db.recommendations
      (engine.generate runDate universeName topN db).2.recommendations = added :=
    (congrArg (addedRows db.recommendations) hAdded).trans List.drop_left
  rw [hSame]
  exact hRows

theorem map_of_stored {β : Type} {f : Recommendation → β} {g : Candidate × Nat → β}
    {ranked : List (Candidate × Nat)}
    (hf : ∀ snapshotId ranked, f (recommendationOf runId ranked.2 snapshotId ranked.1) = g ranked)
    (h : List.Forall₂ (IsRowOf runId) rows ranked) : rows.map f = ranked.map g := by
  rw [← List.forall₂_eq_eq_eq, List.forall₂_map_left_iff, List.forall₂_map_right_iff]
  refine h.imp fun row ranked hRow => ?_
  rw [hRow]
  exact hf row.snapshotId ranked

theorem ranks_of_stored (h : List.Forall₂ (IsRowOf runId) rows (candidates.zipIdx 1)) :
    rows.map Recommendation.rank = List.range' 1 candidates.length := by
  rw [← List.zipIdx_map_snd 1 candidates]
  exact map_of_stored (fun _ _ => rfl) h

theorem scores_of_stored (h : List.Forall₂ (IsRowOf runId) rows (candidates.zipIdx 1)) :
    rows.map (fun row => (row.totalScore, row.symbol)) =
      candidates.map fun candidate => (candidate.totalScore, symbolOf candidate) := by
  have hRows := map_of_stored (f := fun row => (row.totalScore, row.symbol))
    (g := fun ranked => (ranked.1.totalScore, symbolOf ranked.1)) (fun _ _ => rfl) h
  rw [hRows]
  conv_rhs => rw [← List.zipIdx_map_fst 1 candidates, List.map_map]
  rfl

theorem exists_of_forall₂ {α β : Type} {r : α → β → Prop} {l : List α} {l' : List β} {a : α}
    (h : List.Forall₂ r l l') (ha : a ∈ l) : ∃ b ∈ l', r a b := by
  induction h with
  | nil => cases ha
  | @cons first first' l l' hFirst _ ih =>
    rcases List.mem_cons.mp ha with rfl | hRest
    · exact ⟨first', List.mem_cons_self, hFirst⟩
    · obtain ⟨b, hb, hRel⟩ := ih hRest
      exact ⟨b, List.mem_cons_of_mem _ hb, hRel⟩

theorem exists_of_stored (h : List.Forall₂ (IsRowOf runId) rows (candidates.zipIdx 1))
    (hRow : row ∈ rows) : ∃ candidate ∈ candidates,
      row = recommendationOf runId row.rank row.snapshotId candidate := by
  obtain ⟨⟨candidate, rank⟩, hRanked, hRowOf⟩ := exists_of_forall₂ h hRow
  have hRank : row.rank = rank := congrArg Recommendation.rank hRowOf
  exact ⟨candidate, List.fst_mem_of_mem_zipIdx hRanked, hRank ▸ hRowOf⟩

end Stored

section Ranked

variable {engine : RecommendationEngine} {runDate : Date} {db : Database} {universeName : String}
  {topN : Int} {candidate : Candidate} {members : List StockUniverseMember}

theorem totalScore_candidateOf_bounds (engine : RecommendationEngine) (runDate : Date)
    (stock : Stock) (indicator : StockIndicator) (db : Database) :
    0 ≤ (engine.candidateOf runDate stock indicator db).totalScore ∧
      (engine.candidateOf runDate stock indicator db).totalScore ≤ 100 := by
  simp only [candidateOf]
  cases hReports : engine.calculateReportIntelligenceScores stock.symbol runDate _ db with
  | none => exact ScoringEngine.totalScore_compose_bounds _ _
  | some reports =>
    rw [calculateReportIntelligenceScores] at hReports
    split at hReports
    · obtain rfl := (Option.some.inj hReports).symm
      exact totalScoreAfter_bounds _ _ _
    · cases hReports

theorem totalScore_found_bounds (h : candidate ∈ engine.found runDate db members) :
    0 ≤ candidate.totalScore ∧ candidate.totalScore ≤ 100 := by
  rw [found_eq, List.mem_filterMap] at h
  obtain ⟨member, -, hCandidate⟩ := h
  rw [evaluate] at hCandidate
  split at hCandidate
  · cases hCandidate
  · split at hCandidate
    · cases hCandidate
    · cases hCandidate
      exact engine.totalScore_candidateOf_bounds _ _ _ _

theorem length_top : (engine.top runDate universeName topN db).length =
    min (max topN 0).toNat (engine.found runDate db (membersOf universeName db)).length := by
  rw [top, List.length_take, ranked_eq, (perm_ranking _).length_eq]
  congr 1
  omega

def withMembers (members : List StockUniverseMember) (db : Database) : Database :=
  { db with members := members }

theorem membersOf_withMembers (hPerm : members.Perm db.members)
    (hSymbols : ((membersOf universeName db).map StockUniverseMember.symbol).Nodup) :
    membersOf universeName (withMembers members db) = membersOf universeName db := by
  simp only [membersOf] at hSymbols ⊢
  have hUniverse : StockUniverseRepository.getByName universeName (withMembers members db) =
      StockUniverseRepository.getByName universeName db := rfl
  rw [hUniverse]
  cases hFound : StockUniverseRepository.getByName universeName db with
  | none => rfl
  | some found =>
    rw [hFound] at hSymbols
    simp only [StockUniverseMemberRepository.listByUniverse] at hSymbols ⊢
    refine insertionSort_eq_of_perm _ (hPerm.filter _) fun a ha b hb hab hba => ?_
    rw [(List.perm_insertionSort _ _).map _ |>.nodup_iff] at hSymbols
    have hMine := fun row => (hPerm.filter fun row => row.universeId == found.universeId).mem_iff
      (a := row)
    exact List.inj_on_of_nodup_map hSymbols ((hMine a).mp ha) ((hMine b).mp hb)
      (le_antisymm hab hba)

theorem persistFrom_withMembers (engine : RecommendationEngine) (runId : Nat) (runDate : Date)
    (rank : Nat) (candidates : List Candidate) (db : Database) :
    engine.persistFrom runId runDate rank candidates (withMembers members db) =
      withMembers members (engine.persistFrom runId runDate rank candidates db) := by
  induction candidates generalizing rank db with
  | nil => rfl
  | cons candidate rest ih =>
    exact ih (rank + 1) (engine.persistCandidate runId runDate rank candidate db)

theorem generate_withMembers (hPerm : members.Perm db.members)
    (hSymbols : ((membersOf universeName db).map StockUniverseMember.symbol).Nodup) :
    engine.generate runDate universeName topN (withMembers members db) =
      ((engine.generate runDate universeName topN db).1,
        withMembers members (engine.generate runDate universeName topN db).2) := by
  have hEvaluate : engine.evaluate runDate (withMembers members db) = engine.evaluate runDate db := by
    funext member
    rfl
  have hMembers := membersOf_withMembers hPerm hSymbols
  have hRun : (engine.generate runDate universeName topN (withMembers members db)).1 =
      (engine.generate runDate universeName topN db).1 := by
    simp only [generate, hMembers, hEvaluate]
    rfl
  refine Prod.ext hRun ?_
  have hTop : engine.top runDate universeName topN (withMembers members db) =
      engine.top runDate universeName topN db := by
    simp only [top, found, hMembers, hEvaluate]
  rw [generate_snd, hRun, hTop]
  exact engine.persistFrom_withMembers (newRunId db) runDate 1
    (engine.top runDate universeName topN db)
    { db with
      recommendationRuns :=
        db.recommendationRuns ++ [(engine.generate runDate universeName topN db).1] }

/-- What a run ranks and stores. With its members listed in another order it is the same run, and so
it would be with another listing by the repository. -/
structure RankingSpec (engine : RecommendationEngine) (runDate : Date) (universeName : String)
    (topN : Int) (db : Database) (run : RecommendationRun) (saved : List Recommendation) : Prop where
  candidateCount : run.candidateCount =
    (engine.found runDate db (membersOf universeName db)).length
  savedCount : run.savedCount = saved.length
  length : saved.length = min (max topN 0).toNat run.candidateCount
  ranks : saved.map Recommendation.rank = List.range' 1 saved.length
  stored : ∀ row ∈ saved, ∃ candidate ∈ engine.found runDate db (membersOf universeName db),
    row = recommendationOf run.runId row.rank row.snapshotId candidate
  ordered : saved.Pairwise (Before Recommendation.totalScore Recommendation.symbol)
  best : ∀ candidate ∈ engine.found runDate db (membersOf universeName db),
    candidate.stock.symbol ∉ saved.map Recommendation.symbol → ∀ row ∈ saved,
      candidate.totalScore < row.totalScore ∨
        (row.totalScore = candidate.totalScore ∧ row.symbol < candidate.stock.symbol)
  counts : run.candidateCount + run.skippedNoIndicator + run.skippedNoStockMaster = run.memberCount
  members : run.memberCount = (membersOf universeName db).length
  bounds : ∀ row ∈ saved, 0 ≤ row.totalScore ∧ row.totalScore ≤ 100
  anyOrder : ∀ members : List StockUniverseMember, members.Perm db.members →
    engine.generate runDate universeName topN (withMembers members db) =
      (run, withMembers members (engine.generate runDate universeName topN db).2)
  anyListing : ∀ listed, listed.Perm (membersOf universeName db) →
    (ranked (engine.found runDate db listed)).take topN.toNat =
      engine.top runDate universeName topN db

theorem ordered_of_top {top : List Candidate} {saved : List Recommendation}
    (hTop : top.Pairwise (Before Candidate.totalScore symbolOf))
    (hScores : (saved.map fun row => (row.totalScore, row.symbol)) =
      top.map fun candidate => (candidate.totalScore, symbolOf candidate)) :
    saved.Pairwise (Before Recommendation.totalScore Recommendation.symbol) := by
  have hPairs : (top.map fun candidate =>
      (candidate.totalScore, symbolOf candidate)).Pairwise (Before Prod.fst Prod.snd) :=
    List.pairwise_map.mpr hTop
  rw [← hScores] at hPairs
  have hOrdered := List.pairwise_map.mp hPairs
  exact hOrdered

/-- A candidate whose symbol is not stored is not at the top. -/
theorem notMem_of_symbol {top : List Candidate} {saved : List Recommendation}
    {candidate : Candidate}
    (hScores : (saved.map fun row => (row.totalScore, row.symbol)) =
      top.map fun candidate => (candidate.totalScore, symbolOf candidate))
    (hOut : candidate.stock.symbol ∉ saved.map Recommendation.symbol) : candidate ∉ top := by
  intro hIn
  refine hOut ?_
  have hSymbols := congrArg (List.map Prod.snd) hScores
  rw [List.map_map, List.map_map] at hSymbols
  have hSymbol : candidate.stock.symbol ∈ top.map symbolOf := List.mem_map_of_mem hIn
  exact hSymbols ▸ hSymbol

theorem rankingSpec_generate (engine : RecommendationEngine) (runDate : Date)
    (universeName : String) (topN : Int) (db : Database)
    (hSymbols : ((membersOf universeName db).map StockUniverseMember.symbol).Nodup) :
    engine.RankingSpec runDate universeName topN db
      (engine.generate runDate universeName topN db).1
      (addedRows db.recommendations
        (engine.generate runDate universeName topN db).2.recommendations) := by
  have hStored := engine.generate_stored runDate universeName topN db
  have hLength : _ = (engine.top runDate universeName topN db).length :=
    hStored.length_eq.trans (List.length_zipIdx ..)
  have hScores := scores_of_stored hStored
  have hMember : ∀ candidate ∈ engine.top runDate universeName topN db,
      candidate ∈ engine.found runDate db (membersOf universeName db) :=
    fun candidate hTop => (perm_ranking _).mem_iff.mp (List.mem_of_mem_take hTop)
  have hRanked : (ranked (engine.found runDate db (membersOf universeName db))).Pairwise
      (Before Candidate.totalScore symbolOf) :=
    pairwise_ranking (hSymbols.sublist symbols_found)
  have hRows : ∀ row ∈ addedRows db.recommendations
      (engine.generate runDate universeName topN db).2.recommendations,
      ∃ candidate ∈ engine.top runDate universeName topN db,
        row = recommendationOf (newRunId db) row.rank row.snapshotId candidate :=
    fun row hRow => exists_of_stored hStored hRow
  refine
    { candidateCount := rfl
      savedCount := hLength.symm
      length := hLength.trans length_top
      ranks := by rw [hLength]; exact ranks_of_stored hStored
      stored := ?_
      ordered := ?_
      best := ?_
      counts := length_evaluations.trans (List.length_map ..)
      members := rfl
      bounds := ?_
      anyOrder := fun members hPerm => generate_withMembers hPerm hSymbols
      anyListing := fun listed hPerm =>
        congrArg (List.take topN.toNat) (ranked_found_eq hPerm.symm hSymbols).symm }
  · intro row hRow
    obtain ⟨candidate, hTop, hEq⟩ := hRows row hRow
    exact ⟨candidate, hMember candidate hTop, hEq⟩
  · exact ordered_of_top (hRanked.sublist (List.take_sublist _ _)) hScores
  · intro candidate hFound hOut row hRow
    obtain ⟨rankedCandidate, hTop, hEq⟩ := hRows row hRow
    have hLeft : candidate ∉ engine.top runDate universeName topN db :=
      notMem_of_symbol hScores hOut
    have hBefore : Before Candidate.totalScore symbolOf rankedCandidate candidate :=
      rel_of_notMem_take hRanked hTop ((perm_ranking _).mem_iff.mpr hFound) hLeft
    rw [hEq]
    exact hBefore
  · intro row hRow
    obtain ⟨candidate, hTop, hEq⟩ := hRows row hRow
    rw [hEq]
    exact totalScore_found_bounds (hMember candidate hTop)

/-- Two stocks with one score, one with a lower score, and one without an indicator. -/
def tiedMembers : Database :=
  { Database.empty with
    stocks := [⟨"035720", "KOSPI", "Kakao"⟩, ⟨"005930", "KOSPI", "Samsung"⟩,
      ⟨"000660", "KOSPI", "Hynix"⟩, ⟨"035420", "KOSPI", "Naver"⟩]
    universes := [⟨1, defaultUniverseName⟩]
    members := [⟨1, "035720"⟩, ⟨1, "005930"⟩, ⟨1, "000660"⟩, ⟨1, "035420"⟩]
    indicators := [⟨"005930", runDay, none, none, none, some 70⟩,
      ⟨"000660", runDay, none, none, none, some 70⟩,
      ⟨"035720", runDay, none, none, none, some 40⟩] }

/-- The tie is broken by the symbol, and the third candidate is left out. -/
theorem rankingSpec_generate_tiedMembers :
    let added := addedRows tiedMembers.recommendations
      (generate {} runDay defaultUniverseName 2 tiedMembers).2.recommendations
    added.map (fun row => (row.rank, row.symbol)) = [(1, "000660"), (2, "005930")] ∧
      RankingSpec {} runDay defaultUniverseName 2 tiedMembers
        (generate {} runDay defaultUniverseName 2 tiedMembers).1 added :=
  ⟨by decide +kernel, rankingSpec_generate {} runDay defaultUniverseName 2 tiedMembers (by decide)⟩

end Ranked

end RecommendationEngine

end StockAiPlatform.Decision
