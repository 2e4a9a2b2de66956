import Mathlib.Algebra.Order.BigOperators.Group.List
import Mathlib.Algebra.Order.Ring.Cast
import StockAiPlatform.Approval.ApprovalRuns

/-! # The amount caps on open candidates

What the risk engine lets through keeps the sum over the open candidates
within its cap, and every later decision only takes candidates out of it.
-/

namespace StockAiPlatform
set_option autoImplicit false

open Transaction OrderCandidateRepository

/-- Waiting for a decision, or decided for and not yet executed. -/
def CandidateStatus.isOpen : CandidateStatus → Bool
  | .pendingApproval | .approved => true
  | .draft | .riskChecking | .riskRejected | .executedPaper | .rejected | .expired => false

theorem CandidateStatus.isActive_of_isOpen {status : CandidateStatus} (h : status.isOpen = true) :
    status.isActive = true := by
  cases status <;> first | rfl | cases h

def openAmount (keep : OrderCandidate → Bool) (rows : List OrderCandidate) : ℚ :=
  ((rows.filter fun candidate => candidate.status.isOpen && keep candidate).map
    OrderCandidate.estimatedAmount).sum

section Sums

variable {keep : OrderCandidate → Bool} {rows : List OrderCandidate} {candidate : OrderCandidate}

theorem openAmount_append (keep : OrderCandidate → Bool) (rows rest : List OrderCandidate) :
    openAmount keep (rows ++ rest) = openAmount keep rows + openAmount keep rest := by
  rw [openAmount, List.filter_append, List.map_append, List.sum_append]
  rfl

theorem openAmount_cons (keep : OrderCandidate → Bool) (candidate : OrderCandidate)
    (rows : List OrderCandidate) : openAmount keep (candidate :: rows) =
      (if candidate.status.isOpen && keep candidate then candidate.estimatedAmount else 0) +
        openAmount keep rows := by
  rw [openAmount, List.filter_cons]
  split
  · rw [List.map_cons, List.sum_cons]
    rfl
  · rw [zero_add]
    rfl

theorem openAmount_single (keep : OrderCandidate → Bool) (candidate : OrderCandidate) :
    openAmount keep [candidate] =
      if candidate.status.isOpen && keep candidate then candidate.estimatedAmount else 0 := by
  rw [openAmount_cons]
  exact add_zero _

theorem openAmount_map_le {change : OrderCandidate → OrderCandidate}
    (h : ∀ candidate ∈ rows, (change candidate).status.isOpen = true →
      keep (change candidate) = true → candidate.status.isOpen = true ∧ keep candidate = true ∧
        (change candidate).estimatedAmount = candidate.estimatedAmount) :
    openAmount keep (rows.map change) ≤ openAmount keep rows := by
  induction rows with
  | nil => exact le_refl _
  | cons candidate rows ih =>
    rw [List.forall_mem_cons] at h
    rw [List.map_cons, openAmount_cons, openAmount_cons]
    refine add_le_add ?_ (ih h.2)
    by_cases hAfter : ((change candidate).status.isOpen && keep (change candidate)) = true
    · obtain ⟨hOpen, hKeep⟩ := Bool.and_eq_true_iff.mp hAfter
      obtain ⟨hWasOpen, hWasKept, hAmount⟩ := h.1 hOpen hKeep
      rw [if_pos hAfter, if_pos (Bool.and_eq_true_iff.mpr ⟨hWasOpen, hWasKept⟩), hAmount]
    · rw [if_neg hAfter]
      split
      · exact candidate.estimatedAmount_nonneg
      · exact le_refl _

/-- The open rows among those a rule sums are at most its sum. -/
theorem openAmount_le_sum {counted : OrderCandidate → Bool}
    (h : ∀ candidate ∈ rows, candidate.status.isOpen = true → keep candidate = true →
      counted candidate = true) :
    openAmount keep rows ≤ ((rows.filter counted).map OrderCandidate.estimatedAmount).sum := by
  induction rows with
  | nil => exact le_refl _
  | cons candidate rows ih =>
    rw [List.forall_mem_cons] at h
    have hRest := ih h.2
    rw [openAmount_cons, List.filter_cons]
    by_cases hOpen : (candidate.status.isOpen && keep candidate) = true
    · obtain ⟨hStatus, hKeep⟩ := Bool.and_eq_true_iff.mp hOpen
      rw [if_pos hOpen, if_pos (h.1 hStatus hKeep), List.map_cons, List.sum_cons]
      exact add_le_add (le_refl _) hRest
    · rw [if_neg hOpen, zero_add]
      split
      · rw [List.map_cons, List.sum_cons]
        exact hRest.trans (le_add_of_nonneg_left candidate.estimatedAmount_nonneg)
      · exact hRest

theorem openAmount_modify_le {table : Table OrderCandidate} {k : Nat}
    {change : OrderCandidate → OrderCandidate} {hId : ∀ candidate, (change candidate).id = candidate.id}
    (hClosed : ∀ candidate, (change candidate).status.isOpen = false) :
    openAmount keep (table.modify k change hId).rows ≤ openAmount keep table.rows := by
  rw [Table.rows_modify]
  apply openAmount_map_le
  intro candidate _ hOpen hKeep
  by_cases hKey : Keyed.key candidate = k
  · rw [if_pos hKey, hClosed] at hOpen
    cases hOpen
  · rw [if_neg hKey] at hOpen hKeep ⊢
    exact ⟨hOpen, hKeep, rfl⟩

end Sums

namespace PreTradeRiskEngine

variable {settings : Settings} {db : Database} {candidate : OrderCandidate} {now : Int}

theorem perSymbol_le_of_passed (h : (evaluate settings db candidate now).passed = true) :
    sumActiveCandidateAmount settings db candidate.accountId (some candidate.symbol) none candidate.id +
      candidate.estimatedAmount ≤ settings.maxOrderAmount := by
  have hRule := ((evaluate_passed_iff settings db candidate now).mp h).2.2.1
  unfold checkPerSymbolLimit at hRule
  simp only at hRule
  split at hRule
  · cases hRule
  · exact not_lt.mp ‹_›

theorem sum_estimatedAmount_nonneg (rows : List OrderCandidate) :
    0 ≤ (rows.map OrderCandidate.estimatedAmount).sum := by
  apply List.sum_nonneg
  intro amount hAmount
  obtain ⟨row, -, rfl⟩ := List.mem_map.mp hAmount
  exact row.estimatedAmount_nonneg

theorem sumActiveCandidateAmount_nonneg (settings : Settings) (db : Database) (accountId : Nat)
    (symbol : Option String) (day : Option Int) (excluded : Nat) :
    0 ≤ sumActiveCandidateAmount settings db accountId symbol day excluded :=
  sum_estimatedAmount_nonneg _

theorem estimatedAmount_le_of_passed (h : (evaluate settings db candidate now).passed = true) :
    candidate.estimatedAmount ≤ settings.maxOrderAmount :=
  (le_add_of_nonneg_left (sumActiveCandidateAmount_nonneg settings db _ _ _ _)).trans (perSymbol_le_of_passed h)

theorem dailyTotal_le_of_passed (h : (evaluate settings db candidate now).passed = true) :
    sumActiveCandidateAmount settings db candidate.accountId none (some (kstDate now)) candidate.id +
      candidate.estimatedAmount ≤ settings.maxDailyOrderAmount := by
  have hRule := ((evaluate_passed_iff settings db candidate now).mp h).2.2.2.1
  unfold checkDailyTotalLimit at hRule
  simp only at hRule
  split at hRule
  · cases hRule
  · exact not_lt.mp ‹_›

end PreTradeRiskEngine

namespace ApprovalCall

open ApprovalService PreTradeRiskEngine

def exposure (db : Database) (accountId : Nat) (symbol : String) : ℚ :=
  openAmount (fun candidate => candidate.accountId == accountId && candidate.symbol == symbol)
    db.orderCandidates.rows

/-- Created on the day in Seoul, and on SQLite not before nine o'clock. -/
def inDay (settings : Settings) (day : Int) (candidate : OrderCandidate) : Bool :=
  kstDate candidate.createdAt == day &&
    (!settings.onSqlite || kstMidnight day + 9 * microsPerHour ≤ candidate.createdAt)

def dayTotal (settings : Settings) (db : Database) (accountId : Nat) (day : Int) : ℚ :=
  openAmount (fun candidate => candidate.accountId == accountId && inDay settings day candidate)
    db.orderCandidates.rows

/-- Of the day's candidates the filter of the daily rule finds these. -/
theorem kstStart_bounds_of_inDay {settings : Settings} {day : Int} {candidate : OrderCandidate}
    (h : inDay settings day candidate = true) :
    kstStart settings day ≤ candidate.createdAt ∧
      candidate.createdAt < kstStart settings day + microsPerDay := by
  rw [inDay, Bool.and_eq_true, beq_iff_eq, kstDate_eq_iff, kstMidnight, microsPerHour, microsPerDay,
    microsPerHour] at h
  obtain ⟨⟨hLow, hHigh⟩, hOpening⟩ := h
  cases hStore : settings.onSqlite with
  | false =>
    rw [kstStart, hStore, if_neg Bool.false_ne_true]
    exact ⟨hLow, hHigh⟩
  | true =>
    have hNine : day * (24 * (3600 * 1000000)) - 9 * (3600 * 1000000) + 9 * (3600 * 1000000) ≤
        candidate.createdAt := by simpa [hStore] using hOpening
    rw [kstStart, hStore, if_pos rfl, microsPerDay, microsPerHour]
    omega

theorem openAmount_created {service : ApprovalService} {createCall : CreateCall} {db after : Database}
    {candidate : OrderCandidate} {riskResult : RiskCheckResult}
    (h : Created service createCall db after candidate riskResult) (keep : OrderCandidate → Bool) :
    openAmount keep after.orderCandidates.rows ≤ openAmount keep db.orderCandidates.rows ∨
      riskResult.passed = true ∧ keep (decided riskResult candidate) = true ∧
        openAmount keep after.orderCandidates.rows =
          openAmount keep db.orderCandidates.rows + candidate.estimatedAmount := by
  have hRows : after.orderCandidates.rows =
      db.orderCandidates.rows ++ [decided riskResult candidate] := by
    rw [h.wrote.candidates]
    apply Table.rows_insert_of_key_eq
    obtain ⟨checked, -, rfl⟩ := h.row
    exact decided_id riskResult _
  have hSum := openAmount_append keep db.orderCandidates.rows [decided riskResult candidate]
  rw [← hRows, openAmount_single] at hSum
  by_cases hOpen : ((decided riskResult candidate).status.isOpen &&
      keep (decided riskResult candidate)) = true
  · obtain ⟨hStatus, hKeep⟩ := Bool.and_eq_true_iff.mp hOpen
    refine .inr ⟨?_, hKeep, ?_⟩
    · rw [decided_status] at hStatus
      by_contra hPassed
      rw [if_neg hPassed] at hStatus
      cases hStatus
    · rw [hSum, if_pos hOpen]
      congr 1
      unfold decided routed
      split <;> rfl
  · rw [hSum, if_neg hOpen, add_zero]
    exact .inl (le_refl _)

/-- A call adds to the open candidates one that the risk engine passed, or nothing. -/
theorem openAmount_step_le (service : ApprovalService) (call : ApprovalCall) (db : Database)
    (keep : OrderCandidate → Bool) :
    openAmount keep (call.step service db).orderCandidates.rows ≤
        openAmount keep db.orderCandidates.rows ∨
      ∃ createCall candidate riskResult, call = .create createCall ∧
        Created service createCall db (call.step service db) candidate riskResult ∧
        riskResult.passed = true ∧ keep (decided riskResult candidate) = true ∧
        openAmount keep (call.step service db).orderCandidates.rows =
          openAmount keep db.orderCandidates.rows + candidate.estimatedAmount := by
  have hMoves := moves_step service call db
  generalize call.step service db = after at hMoves ⊢
  cases hMoves with
  | stays call => exact .inl (le_refl _)
  | created hCreated =>
    rcases openAmount_created hCreated keep with hLe | ⟨hPassed, hKeep, hSum⟩
    · exact .inl hLe
    · exact .inr ⟨_, _, _, rfl, hCreated, hPassed, hKeep, hSum⟩
  | approved h =>
    rw [h.wrote.candidates]
    exact .inl (openAmount_modify_le fun _ => rfl)
  | rejected h =>
    rw [h.wrote.candidates]
    exact .inl (openAmount_modify_le fun _ => rfl)
  | expired h =>
    rw [h.wrote.candidates]
    exact .inl (openAmount_modify_le fun _ => rfl)

/-- The rows a rule sums are those from before: the new one is excluded by its id. -/
theorem openAmount_le_sumActive (settings : Settings) {db seen : Database}
    {candidate : OrderCandidate} (hKey : candidate.id = db.orderCandidates.nextKey)
    (hSeen : seen.orderCandidates = db.orderCandidates.insert candidate)
    (keep : OrderCandidate → Bool) (accountId : Nat) (symbol : Option String) (day : Option Int)
    (hKeep : ∀ old, keep old = true → old.accountId = accountId ∧ symbol.all (old.symbol == ·) = true ∧
      day.all (inDay settings · old) = true) :
    openAmount keep db.orderCandidates.rows ≤
      sumActiveCandidateAmount settings seen accountId symbol day candidate.id := by
  have hRows : seen.orderCandidates.rows = db.orderCandidates.rows ++ [candidate] := by
    rw [hSeen]
    exact Table.rows_insert_of_key_eq hKey
  rw [sumActiveCandidateAmount, hRows, List.filter_append, List.map_append, List.sum_append]
  refine (openAmount_le_sum ?_).trans (le_add_of_nonneg_right (sum_estimatedAmount_nonneg _))
  · intro old hOld hOpen hKept
    obtain ⟨hAccount, hSymbol, hDate⟩ := hKeep old hKept
    have hOther : old.id ≠ candidate.id := by
      have hLt : old.id < db.orderCandidates.nextKey := Table.key_lt_nextKey _ hOld
      omega
    have hDay : (day.all fun d => kstStart settings d ≤ old.createdAt &&
        old.createdAt < kstStart settings d + microsPerDay) = true := by
      cases day with
      | none => rfl
      | some d =>
        have hInDay : inDay settings d old = true := by simpa using hDate
        simpa using kstStart_bounds_of_inDay hInDay
    simp only [hAccount, beq_self_eq_true, CandidateStatus.isActive_of_isOpen hOpen, hSymbol, hDay,
      Bool.and_self, bne_iff_ne.mpr hOther]

theorem decided_eq (riskResult : RiskCheckResult) (candidate : OrderCandidate) :
    (decided riskResult candidate).accountId = candidate.accountId ∧
      (decided riskResult candidate).symbol = candidate.symbol ∧
      (decided riskResult candidate).createdAt = candidate.createdAt := by
  unfold decided routed
  split <;> exact ⟨rfl, rfl, rfl⟩

theorem exposure_step_le {settings : Settings} (call : ApprovalCall) {db : Database} {accountId : Nat}
    {symbol : String} (h : exposure db accountId symbol ≤ settings.maxOrderAmount) :
    exposure (call.step (ofSettings settings) db) accountId symbol ≤ settings.maxOrderAmount := by
  let keep := fun candidate : OrderCandidate =>
    candidate.accountId == accountId && candidate.symbol == symbol
  rcases openAmount_step_le (ofSettings settings) call db keep with
    hLe | ⟨createCall, candidate, riskResult, -, hCreated, hPassed, hKeep, hSum⟩
  · exact hLe.trans h
  · obtain ⟨seen, hRisk, hWrote⟩ := hCreated.risk
    have hKey : candidate.id = db.orderCandidates.nextKey := by
      obtain ⟨checked, -, rfl⟩ := hCreated.row
      rfl
    have hSame : candidate.accountId = accountId ∧ candidate.symbol = symbol := by
      simpa [keep, decided_eq] using hKeep
    rw [hRisk] at hPassed
    have hCap := perSymbol_le_of_passed hPassed
    rw [hSame.1, hSame.2] at hCap
    have hOld := openAmount_le_sumActive settings hKey hWrote.candidates keep accountId (some symbol) none
      (by
        intro old hOld
        simpa [keep] using hOld)
    rw [exposure, hSum]
    exact (add_le_add hOld (le_refl _)).trans hCap

/-- From a store without candidates, under fixed settings, no run of calls takes what the open
candidates of an account and symbol amount to above the cap of one order. -/
theorem exposure_run_le (settings : Settings) (calls : List ApprovalCall) (db : Database)
    (hEmpty : db.orderCandidates.rows = []) (accountId : Nat) (symbol : String) :
    exposure (run (step (ofSettings settings)) calls db) accountId symbol ≤
      settings.maxOrderAmount := by
  apply run_invariant (fun db => exposure db accountId symbol ≤ settings.maxOrderAmount)
    fun call db h => exposure_step_le call h
  rw [exposure, hEmpty]
  exact Int.cast_nonneg settings.maxOrderAmount_pos.le

theorem exposure_run_secondRefused :
    let calls := [create (marketCall "005930" 10 70000 0), create (marketCall "005930" 10 70000 0)]
    exposure (run (step (ofSettings paperSettings)) calls fundedDatabase) 1 "005930" = 70000 ∧
      exposure (run (step (ofSettings paperSettings)) calls fundedDatabase) 1 "005930" ≤
        paperSettings.maxOrderAmount :=
  ⟨by decide +kernel, exposure_run_le paperSettings _ fundedDatabase rfl 1 "005930"⟩

/-- What a call reads of its clocks falls on this day in Seoul. -/
def OnDay (day : Int) : ApprovalCall → Prop
  | create call => kstDate call.now = day ∧ kstDate call.createdAt = day
  | approve _ _ now => kstDate now = day
  | reject _ _ _ => True
  | expire _ _ => True

theorem dayTotal_step_le {settings : Settings} {day : Int} {call : ApprovalCall} (hDay : call.OnDay day)
    {db : Database} {accountId : Nat}
    (h : dayTotal settings db accountId day ≤ settings.maxDailyOrderAmount) :
    dayTotal settings (call.step (ofSettings settings) db) accountId day ≤
      settings.maxDailyOrderAmount := by
  let keep := fun candidate : OrderCandidate =>
    candidate.accountId == accountId && inDay settings day candidate
  rcases openAmount_step_le (ofSettings settings) call db keep with
    hLe | ⟨createCall, candidate, riskResult, rfl, hCreated, hPassed, hKeep, hSum⟩
  · exact hLe.trans h
  · obtain ⟨seen, hRisk, hWrote⟩ := hCreated.risk
    have hKey : candidate.id = db.orderCandidates.nextKey := by
      obtain ⟨checked, -, rfl⟩ := hCreated.row
      rfl
    have hSame : candidate.accountId = accountId := by
      simpa [decided_eq] using (Bool.and_eq_true_iff.mp hKeep).1
    rw [hRisk] at hPassed
    have hCap := dailyTotal_le_of_passed hPassed
    rw [hSame, hDay.1] at hCap
    have hOld := openAmount_le_sumActive settings hKey hWrote.candidates keep accountId none (some day)
      (by
        intro old hOld
        simpa [keep] using hOld)
    rw [dayTotal, hSum]
    exact (add_le_add hOld (le_refl _)).trans hCap

/-- Over any run of calls inside one day in Seoul, what the day's open candidates of an account
amount to stays within the daily cap. -/
theorem dayTotal_run_le (settings : Settings) (day : Int) (calls : List ApprovalCall)
    (hDay : ∀ call ∈ calls, call.OnDay day) (db : Database) (accountId : Nat)
    (hStart : dayTotal settings db accountId day ≤ settings.maxDailyOrderAmount) :
    dayTotal settings (run (step (ofSettings settings)) calls db) accountId day ≤
      settings.maxDailyOrderAmount :=
  (Along.of_forall (fun call hCall _ => hDay call hCall) db).invariant
    (fun db => dayTotal settings db accountId day ≤ settings.maxDailyOrderAmount)
    (fun _ _ hCall h => dayTotal_step_le hCall h) hStart

def tightSettings : Settings :=
  { paperSettings with
    maxDailyOrderAmount := 100000
    maxDailyOrderAmount_pos := Settings.paranoid.maxOrderAmount_pos }

theorem dayTotal_run_secondRefused :
    let calls := [create (marketCall "005930" 10 70000 0), create (marketCall "000660" 10 70000 0)]
    dayTotal tightSettings (run (step (ofSettings tightSettings)) calls fundedDatabase) 1 0 ≤
      tightSettings.maxDailyOrderAmount :=
  dayTotal_run_le tightSettings 0 _ (by simp [OnDay, marketCall, kstDate, microsPerHour, microsPerDay])
    fundedDatabase 1 (by decide +kernel)

/-- At six in the morning SQLite finds none of the day's candidates, and both orders pass. -/
example :
    let six := kstMidnight 1 + 6 * microsPerHour
    let calls := [create (marketCall "005930" 10 70000 six), create (marketCall "000660" 10 70000 six)]
    openAmount (fun candidate => kstDate candidate.createdAt == 1)
      (run (step (ofSettings tightSettings)) calls fundedDatabase).orderCandidates.rows = 140000 := by
  decide +kernel

def spentDayTotal (db : Database) (accountId : Nat) (day : Int) : ℚ :=
  ((db.orderCandidates.rows.filter fun candidate =>
    (candidate.status.isOpen || candidate.status == .executedPaper) &&
      candidate.accountId == accountId && kstDate candidate.createdAt == day).map
    OrderCandidate.estimatedAmount).sum

/-- An executed candidate no longer counts, so a second one of the same amount is let through. -/
theorem spentDayTotal_exceeds_cap :
    let calls := [create (marketCall "005930" 10 70000 0), approve 1 {} 0,
      create (marketCall "000660" 10 70000 0)]
    (∀ call ∈ calls, call.OnDay 0) ∧ spentDayTotal fundedDatabase 1 0 = 0 ∧
      ¬ spentDayTotal (run (step (ofSettings tightSettings)) calls fundedDatabase) 1 0 ≤
        tightSettings.maxDailyOrderAmount :=
  ⟨by simp [OnDay, marketCall, kstDate, microsPerHour, microsPerDay], by decide +kernel,
    by decide +kernel⟩

end ApprovalCall

end StockAiPlatform
