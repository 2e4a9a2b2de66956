import StockAiPlatform.Analysis.ScoreProducers
import StockAiPlatform.Data.NewsItemRepository
import StockAiPlatform.Transaction.Listing
import Mathlib.Tactic.NormNum
import Mathlib.Tactic.Linarith

/-! # Recent risk disclosures

The penalty for the risk disclosures on a symbol. They are counted among the
newest items of the symbol, so that items of other kinds may crowd them out.
-/

namespace StockAiPlatform.Decision
set_option autoImplicit false

open Transaction Feeds NewsItemRepository

namespace DisclosureRiskProducer

def lookbackDays : Int := 14
def lookbackLimit : Nat := 50
def penaltyPerDisclosure : ℚ := 3
def penaltyCap : ℚ := 10

def isRisk (item : NewsItem) : Bool := item.category == some "RISK_DISCLOSURE"

def cutoff (now : Int) : Int := now - days lookbackDays

def riskRows (now : Int) (newsItems : List NewsItem) (symbol : String) : List NewsItem :=
  (listRecentBySymbol symbol (some (cutoff now)) lookbackLimit newsItems).filter isRisk

def evaluate (now : Int) (newsItems : List NewsItem) : DisclosureRiskProducer := fun symbol =>
  let count := (riskRows now newsItems symbol).length
  if count = 0 then ⟨0, 0⟩ else ⟨count, min (count * penaltyPerDisclosure) penaltyCap⟩

def riskItems (now : Int) (newsItems : List NewsItem) (symbol : String) : List NewsItem :=
  newsItems.filter fun item =>
    isSince (some (cutoff now)) item && isRelated symbol item && isRisk item

variable {now : Int} {newsItems newsItems' : List NewsItem} {symbol : String}

theorem riskItems_perm : ((relatedRows symbol (some (cutoff now)) newsItems).filter isRisk).Perm
    (riskItems now newsItems symbol) := by
  refine ((relatedRows_perm symbol (some (cutoff now)) newsItems).filter _).trans (.of_eq ?_)
  rw [List.filter_filter, riskItems]
  exact List.filter_congr fun item _ => Bool.and_comm _ _

theorem evaluate_eq : evaluate now newsItems symbol =
    ⟨(riskRows now newsItems symbol).length,
      min ((riskRows now newsItems symbol).length * penaltyPerDisclosure) penaltyCap⟩ := by
  simp only [evaluate]
  split
  · rename_i hNone
    rw [hNone]
    norm_num [penaltyCap]
  · rfl

/-- No risk disclosure lies beyond the newest items of the symbol. -/
def NothingCrowdedOut (now : Int) (newsItems : List NewsItem) (symbol : String) : Prop :=
  Exhausted isRisk lookbackLimit (relatedRows symbol (some (cutoff now)) newsItems)

theorem riskRows_perm_iff : (riskRows now newsItems symbol).Perm (riskItems now newsItems symbol) ↔
    NothingCrowdedOut now newsItems symbol := by
  have hLimit : max lookbackLimit 1 = lookbackLimit := rfl
  rw [riskRows, listRecentBySymbol, hLimit]
  constructor
  · intro hPerm
    apply length_filter_take_eq_iff.mp
    rw [hPerm.length_eq, List.countP_eq_length_filter, riskItems_perm.length_eq]
  · intro hNone
    rw [filter_take_of_exhausted hNone]
    exact riskItems_perm

structure Complete (now : Int) (newsItems : List NewsItem) (symbol : String) : Prop where
  counted : (riskRows now newsItems symbol).Perm (riskItems now newsItems symbol)
  count : (evaluate now newsItems symbol).riskDisclosureCount =
    (riskItems now newsItems symbol).length
  penalty : (evaluate now newsItems symbol).penaltyAddition =
    min (3 * ((evaluate now newsItems symbol).riskDisclosureCount : ℚ)) 10

theorem complete_iff : Complete now newsItems symbol ↔ NothingCrowdedOut now newsItems symbol := by
  constructor
  · exact fun h => riskRows_perm_iff.mp h.counted
  · intro h
    have hCounted := riskRows_perm_iff.mpr h
    refine ⟨hCounted, ?_, ?_⟩
    · rw [evaluate_eq]
      exact hCounted.length_eq
    · rw [evaluate_eq, mul_comm]
      rfl

/-- Over both databases the counting is complete, and the larger has no lower count or penalty. -/
structure CompleteAndMonotone (now : Int) (newsItems newsItems' : List NewsItem)
    (symbol : String) : Prop where
  complete : Complete now newsItems symbol
  complete' : Complete now newsItems' symbol
  count_le : (evaluate now newsItems symbol).riskDisclosureCount ≤
    (evaluate now newsItems' symbol).riskDisclosureCount
  penalty_le : (evaluate now newsItems symbol).penaltyAddition ≤
    (evaluate now newsItems' symbol).penaltyAddition

theorem completeAndMonotone_iff (now : Int) (newsItems newsItems' : List NewsItem) (symbol : String)
    (hAdded : newsItems.Subperm newsItems') : CompleteAndMonotone now newsItems newsItems' symbol ↔
      NothingCrowdedOut now newsItems symbol ∧ NothingCrowdedOut now newsItems' symbol := by
  constructor
  · exact fun h => ⟨complete_iff.mp h.complete, complete_iff.mp h.complete'⟩
  · rintro ⟨hNone, hNone'⟩
    have hComplete := complete_iff.mpr hNone
    have hComplete' := complete_iff.mpr hNone'
    have hCount : (evaluate now newsItems symbol).riskDisclosureCount ≤
        (evaluate now newsItems' symbol).riskDisclosureCount := by
      rw [hComplete.count, hComplete'.count]
      exact (hAdded.filter _).length_le
    refine ⟨hComplete, hComplete', hCount, ?_⟩
    rw [hComplete.penalty, hComplete'.penalty]
    have hCast : ((evaluate now newsItems symbol).riskDisclosureCount : ℚ) ≤
        (evaluate now newsItems' symbol).riskDisclosureCount := by exact_mod_cast hCount
    exact min_le_min_right _ (by linarith)

def newsAt (category : String) (publishedAt : Nat) : NewsItem where
  id := publishedAt
  publishedAt := publishedAt
  availableAt := none
  source := "DART"
  title := category
  url := none
  relatedSymbols := some ["005930"]
  sentiment := none
  importance := none
  theme := none
  category := some category

def oneDisclosure : List NewsItem := [newsAt "RISK_DISCLOSURE" 0]

/-- Fifty other items on the symbol come after the disclosure. -/
def busySymbol : List NewsItem := oneDisclosure ++ (List.range' 1 50).map (newsAt "NEWS")

theorem subperm_busySymbol : oneDisclosure.Subperm busySymbol :=
  (List.sublist_append_left _ _).subperm

theorem completeAndMonotone_iff_busySymbol : CompleteAndMonotone 60 oneDisclosure busySymbol "005930" ↔
    NothingCrowdedOut 60 oneDisclosure "005930" ∧ NothingCrowdedOut 60 busySymbol "005930" :=
  completeAndMonotone_iff 60 oneDisclosure busySymbol "005930" subperm_busySymbol

theorem not_completeAndMonotone_busySymbol : ¬ ∀ (now : Int) (newsItems newsItems' : List NewsItem)
    (symbol : String), newsItems.Subperm newsItems' →
      CompleteAndMonotone now newsItems newsItems' symbol := by
  intro h
  have hCount := (h 60 oneDisclosure busySymbol "005930" subperm_busySymbol).count_le
  have hBefore : (evaluate 60 oneDisclosure "005930").riskDisclosureCount = 1 := by decide +kernel
  have hAfter : (evaluate 60 busySymbol "005930").riskDisclosureCount = 0 := by decide +kernel
  rw [hBefore, hAfter] at hCount
  exact absurd hCount (by decide)

end DisclosureRiskProducer

end StockAiPlatform.Decision
