import StockAiPlatform.Broker.AccountExecution
import StockAiPlatform.Broker.PaperFills

/-! # What stops a paper execution

The loop turns two errors into a rejection and lets any other pass. It returns
exactly where no candidate is to be filled at a close that is not positive, on
an account that is not there, or for a sale that leaves its account in debt,
and then it has counted every candidate once.
-/

namespace StockAiPlatform
set_option autoImplicit false

open Transaction Python VirtualPositionRepository

inductive OutcomeKind where
  | filled | rejected | skippedNoPrice | skippedLimitUnmet | skippedTerminal
  deriving DecidableEq, Repr

namespace MatchOutcome

def kind : MatchOutcome → OutcomeKind
  | .skippedTerminal => .skippedTerminal
  | .skippedNoPrice => .skippedNoPrice
  | .skippedLimitUnmet => .skippedLimitUnmet
  | .rejected _ => .rejected
  | .filled _ _ => .filled

end MatchOutcome

namespace ExecutePendingResult

def count (result : ExecutePendingResult) : OutcomeKind → Nat
  | .filled => result.filled.length
  | .rejected => result.rejected.length
  | .skippedNoPrice => result.skippedNoPrice
  | .skippedLimitUnmet => result.skippedLimitUnmet
  | .skippedTerminal => result.skippedTerminal

/-- The orders a result lists under a kind; of those left alone it keeps only how many. -/
def listed (result : ExecutePendingResult) : OutcomeKind → List Nat
  | .filled => result.filled.map fun pair => pair.1.id
  | .rejected => result.rejected.map VirtualOrder.id
  | .skippedNoPrice | .skippedLimitUnmet | .skippedTerminal => []

theorem count_add (result : ExecutePendingResult) (outcome : MatchOutcome) (kind : OutcomeKind) :
    (result.add outcome).count kind = result.count kind + if outcome.kind = kind then 1 else 0 := by
  cases outcome <;> cases kind <;> simp [add, count, MatchOutcome.kind]

theorem listed_add (result : ExecutePendingResult) (outcome : MatchOutcome) (kind : OutcomeKind) :
    (result.add outcome).listed kind = result.listed kind ++
      if outcome.kind = kind then outcome.order?.toList.map VirtualOrder.id else [] := by
  cases outcome <;> cases kind <;> simp [add, listed, MatchOutcome.kind, MatchOutcome.order?]

end ExecutePendingResult

namespace SimulationBroker

variable {execution : PendingExecution} {order : VirtualOrder} {orders : List VirtualOrder}
  {outcomes : List (VirtualOrder × MatchOutcome)} {answer : Answer} {s t u v : DbSession}

/-! ## The loop with its outcomes -/

/-- The loop, with what became of each order. -/
def matchEach (execution : PendingExecution) :
    List VirtualOrder → App (List (VirtualOrder × MatchOutcome))
  | [] => pure []
  | order :: orders => do
    let outcome ← matchOrder execution order
    let outcomes ← matchEach execution orders
    pure ((order, outcome) :: outcomes)

def tally (outcomes : List (VirtualOrder × MatchOutcome)) (result : ExecutePendingResult) :
    ExecutePendingResult :=
  outcomes.foldl (fun total pair => total.add pair.2) result

theorem matchAll_eq (execution : PendingExecution) (orders : List VirtualOrder)
    (result : ExecutePendingResult) : matchAll execution orders result =
      matchEach execution orders >>= fun outcomes => pure (tally outcomes result) := by
  induction orders generalizing result with
  | nil => rfl
  | cons order orders ih =>
    rw [matchAll, matchEach, Program.bind_assoc]
    refine congrArg (matchOrder execution order >>= ·) (funext fun outcome => ?_)
    rw [ih, Program.bind_assoc]
    rfl

theorem exec_matchEach_cons :
    (matchEach execution (order :: orders)).exec answer s = (.ok outcomes, t) ↔
      ∃ outcome u rest, (matchOrder execution order).exec answer s = (.ok outcome, u) ∧
        (matchEach execution orders).exec answer u = (.ok rest, t) ∧
        outcomes = (order, outcome) :: rest := by
  rw [matchEach, Program.exec_bind_eq_ok]
  constructor
  · rintro ⟨outcome, u, hRound, h⟩
    rw [Program.exec_bind_eq_ok] at h
    obtain ⟨rest, v, hRest, h⟩ := h
    cases h
    exact ⟨outcome, u, rest, hRound, hRest, rfl⟩
  · rintro ⟨outcome, u, rest, hRound, hRest, rfl⟩
    refine ⟨outcome, u, hRound, ?_⟩
    rw [Program.exec_bind_ok answer u hRest]
    rfl

/-- Every order has its outcome, and the outcome hands back no other. -/
theorem each_matchEach (h : (matchEach execution orders).exec answer s = (.ok outcomes, t)) :
    outcomes.map Prod.fst = orders ∧
      ∀ pair ∈ outcomes, ∀ kept ∈ pair.2.order?, kept.id = pair.1.id := by
  induction orders generalizing outcomes s with
  | nil =>
    cases h
    exact ⟨rfl, by simp⟩
  | cons order orders ih =>
    obtain ⟨outcome, u, rest, hRound, hRest, rfl⟩ := exec_matchEach_cons.mp h
    obtain ⟨hOrders, hOwn⟩ := ih hRest
    refine ⟨by rw [List.map_cons, hOrders], List.forall_mem_cons.mpr ⟨?_, hOwn⟩⟩
    intro kept hKept
    have hRound := round_matchOrder hRound
    generalize u.view = after at hRound
    cases hRound with
    | skipped hSkipped hClose =>
      rw [hSkipped] at hKept
      cases hKept
    | rejected hClose hShort reason =>
      cases hKept
      rfl
    | filled hClose hApplied =>
      cases hKept
      rfl

theorem count_tally (outcomes : List (VirtualOrder × MatchOutcome)) (result : ExecutePendingResult)
    (kind : OutcomeKind) : (tally outcomes result).count kind =
      result.count kind + outcomes.countP fun pair => pair.2.kind == kind := by
  induction outcomes generalizing result with
  | nil => rfl
  | cons pair outcomes ih =>
    rw [tally, List.foldl_cons, ← tally, ih, ExecutePendingResult.count_add, List.countP_cons]
    simp only [beq_iff_eq]
    omega

/-- Of a kind that hands its orders back, the result lists the orders themselves. -/
theorem listed_tally (result : ExecutePendingResult) (kind : OutcomeKind)
    (hKind : ∀ outcome : MatchOutcome, outcome.kind = kind → outcome.order?.isSome = true)
    (hOwn : ∀ pair ∈ outcomes, ∀ kept ∈ pair.2.order?, kept.id = pair.1.id) :
    (tally outcomes result).listed kind = result.listed kind ++
      (outcomes.filter fun pair => pair.2.kind == kind).map fun pair => pair.1.id := by
  induction outcomes generalizing result with
  | nil =>
    rw [List.filter_nil, List.map_nil, List.append_nil]
    rfl
  | cons pair outcomes ih =>
    rw [List.forall_mem_cons] at hOwn
    rw [tally, List.foldl_cons, ← tally, ih _ hOwn.2, ExecutePendingResult.listed_add,
      List.append_assoc, List.filter_cons]
    by_cases hHere : pair.2.kind = kind
    · obtain ⟨kept, hKept⟩ := Option.isSome_iff_exists.mp (hKind pair.2 hHere)
      rw [if_pos hHere, if_pos (beq_iff_eq.mpr hHere), hKept, List.map_cons]
      simp only [Option.toList_some, List.map_cons, List.map_nil, List.singleton_append,
        hOwn.1 kept hKept]
    · rw [if_neg hHere, if_neg (by rwa [beq_iff_eq]), List.nil_append]

/-- Each of the orders has one outcome, and the result counts the outcomes. -/
structure CountedOnce (orders : List VirtualOrder) (outcomes : List (VirtualOrder × MatchOutcome))
    (result : ExecutePendingResult) : Prop where
  once : (orders.map VirtualOrder.id).Nodup
  each : outcomes.map Prod.fst = orders
  count : ∀ kind, result.count kind = outcomes.countP fun pair => pair.2.kind == kind
  filled : result.filled.map (fun pair => pair.1.id) =
    (outcomes.filter fun pair => pair.2.kind == .filled).map fun pair => pair.1.id
  rejected : result.rejected.map VirtualOrder.id =
    (outcomes.filter fun pair => pair.2.kind == .rejected).map fun pair => pair.1.id
  total : result.filled.length + result.rejected.length + result.skippedNoPrice +
    result.skippedLimitUnmet + result.skippedTerminal = orders.length

theorem length_eq_countP (outcomes : List (VirtualOrder × MatchOutcome)) :
    outcomes.length = (outcomes.countP fun pair => pair.2.kind == .filled) +
      (outcomes.countP fun pair => pair.2.kind == .rejected) +
      (outcomes.countP fun pair => pair.2.kind == .skippedNoPrice) +
      (outcomes.countP fun pair => pair.2.kind == .skippedLimitUnmet) +
      outcomes.countP fun pair => pair.2.kind == .skippedTerminal := by
  induction outcomes with
  | nil => rfl
  | cons pair outcomes ih =>
    simp only [List.countP_cons, List.length_cons, ih]
    cases pair.2.kind <;> simp only [beq_iff_eq, reduceCtorEq, if_true, if_false] <;> omega

theorem countedOnce_tally (hOnce : (orders.map VirtualOrder.id).Nodup)
    (h : (matchEach execution orders).exec answer s = (.ok outcomes, t)) :
    CountedOnce orders outcomes (tally outcomes {}) := by
  obtain ⟨hOrders, hOwn⟩ := each_matchEach h
  have hCount : ∀ kind, (tally outcomes {}).count kind =
      outcomes.countP fun pair => pair.2.kind == kind := by
    intro kind
    rw [count_tally]
    cases kind <;> exact Nat.zero_add _
  constructor
  · exact hOnce
  · exact hOrders
  · exact hCount
  · refine listed_tally {} .filled (fun outcome hKind => ?_) hOwn
    cases outcome with
    | filled order fill => rfl
    | _ => cases hKind
  · refine listed_tally {} .rejected (fun outcome hKind => ?_) hOwn
    cases outcome with
    | rejected order => rfl
    | _ => cases hKind
  · rw [← hOrders, List.length_map, length_eq_countP outcomes, ← hCount, ← hCount, ← hCount, ← hCount,
      ← hCount]
    rfl

/-! ## When a round raises -/

theorem exec_rejectOrder {error : PyError} (hKind : PnlTracker.Insufficient error)
    (order : VirtualOrder) (answer : Answer) (s : DbSession) :
    ∃ outcome t, (rejectOrder order error).exec answer s = (.ok outcome, t) := by
  cases error with
  | insufficientCash message => exact ⟨_, _, rfl⟩
  | insufficientPosition message => exact ⟨_, _, rfl⟩
  | _ => cases hKind

theorem exec_rejectOrder_raised {error : PyError} (hKind : ¬ PnlTracker.Insufficient error)
    (order : VirtualOrder) (answer : Answer) (s : DbSession) :
    (rejectOrder order error).exec answer s = (.error error, s) := by
  cases error with
  | insufficientCash message => exact absurd trivial hKind
  | insufficientPosition message => exact absurd trivial hKind
  | _ => rfl

theorem exec_matchOrder_ok_iff (hCharges : execution.tracker.costModel.Charges) (order : VirtualOrder)
    (answer : Answer) (s : DbSession) :
    (∃ outcome t, (matchOrder execution order).exec answer s = (.ok outcome, t)) ↔
      ∀ close, closeFor execution order s.view = some close →
        execution.tracker.Decides (fillAt execution order close) s.view := by
  constructor
  · rintro ⟨outcome, t, h⟩ close hClose
    by_contra hUndecided
    obtain ⟨error, u, hKind, hRaised⟩ := PnlTracker.exec_applyFill_undecided answer
      order.quantity_pos hUndecided
    rw [exec_matchOrder_fill hClose, Program.exec_bind_ok answer s (Program.exec_attempt ..), hRaised,
      conclude, exec_rejectOrder_raised hKind] at h
    cases h
  · intro hDecides
    cases hClose : closeFor execution order s.view with
    | none =>
      obtain ⟨outcome, -, hExec⟩ := exec_matchOrder_skip answer hClose
      exact ⟨outcome, s, hExec⟩
    | some close =>
      rw [exec_matchOrder_fill hClose, Program.exec_bind_ok answer s (Program.exec_attempt ..)]
      rcases PnlTracker.exec_applyFill_decided answer hCharges order.quantity_pos
        (hDecides close hClose) with ⟨result, t, hFilled⟩ | ⟨error, hKind, hRefused⟩
      · rw [hFilled]
        exact ⟨_, _, rfl⟩
      · rw [hRefused]
        exact exec_rejectOrder hKind order answer s

/-! ## When the loop raises -/

/-- The order would be filled as a sale: its account holds what it sells. -/
def sells (execution : PendingExecution) (db : Database) (order : VirtualOrder) : Bool :=
  order.side == .sell && (closeFor execution order db).isSome &&
    holds order.accountId order.symbol order.quantity db

/-- The first sale of the account. Up to it no order moves its cash, unless the cash is enough for
a purchase. -/
def firstSale (execution : PendingExecution) (accountId : Nat) (orders : List VirtualOrder)
    (db : Database) : Option VirtualOrder :=
  orders.find? fun order => order.accountId == accountId && sells execution db order

/-- The first sale of the account leaves it without debt. -/
def Solvent (execution : PendingExecution) (accountId : Nat) (orders : List VirtualOrder)
    (db : Database) : Prop :=
  ∀ account order close, db.virtualAccounts.find? accountId = some account →
    firstSale execution accountId orders db = some order →
    closeFor execution order db = some close →
    0 ≤ account.cashBalance + (execution.tracker.costsOf (fillAt execution order close)).netAmount

/-- Every order a close is found for has a positive close and an account, and no account is sold
into debt. -/
structure Fillable (execution : PendingExecution) (orders : List VirtualOrder) (db : Database) :
    Prop where
  each : ∀ order ∈ orders, ∀ close, closeFor execution order db = some close →
    0 < close ∧ (db.virtualAccounts.find? order.accountId).isSome = true
  solvent : ∀ accountId, Solvent execution accountId orders db

variable {before after : Database} {outcome : MatchOutcome} {accountId : Nat}

theorem netAmount_nonneg_of_sells {db : Database} (h : sells execution db order = true) (close : ℚ) :
    0 ≤ (execution.tracker.costsOf (fillAt execution order close)).netAmount := by
  rw [sells, Bool.and_eq_true, Bool.and_eq_true, beq_iff_eq] at h
  have hSide : (fillAt execution order close).side = .sell := h.1.1
  rw [PnlTracker.costsOf, hSide]
  exact PaperTradingCostModel.sellCosts_netAmount_nonneg ..

theorem solvent_of_nonneg
    (h : ∀ account, before.virtualAccounts.find? accountId = some account → 0 ≤ account.cashBalance) :
    Solvent execution accountId orders before := by
  intro account order close hAccount hFirst hClose
  have hSells := List.find?_some hFirst
  rw [Bool.and_eq_true] at hSells
  exact add_nonneg (h account hAccount) (netAmount_nonneg_of_sells hSells.2 close)

/-- Where no account is in debt, prices and accounts alone decide. -/
theorem fillable_iff_of_noDebt
    (hCash : ∀ account ∈ before.virtualAccounts.rows, 0 ≤ account.cashBalance) :
    Fillable execution orders before ↔
      ∀ order ∈ orders, ∀ close, closeFor execution order before = some close →
        0 < close ∧ (before.virtualAccounts.find? order.accountId).isSome = true := by
  constructor
  · exact fun h => h.each
  · intro hEach
    refine ⟨hEach, fun accountId => solvent_of_nonneg fun account hAccount => ?_⟩
    exact hCash account ((Table.find?_eq_some_iff ..).mp hAccount).1

theorem closeFor_congr (h : after.dailyPrices = before.dailyPrices) (order : VirtualOrder) :
    closeFor execution order after = closeFor execution order before := by
  unfold closeFor barOf DailyPriceRepository.latestOnOrBefore
  rw [h]

theorem Round.dailyPrices (h : Round execution order before outcome after) :
    after.dailyPrices = before.dailyPrices := by
  cases h with
  | skipped hSkipped hClose => rfl
  | rejected hClose hShort reason => rfl
  | filled hClose hApplied =>
    rw [settled, Database.updateVirtualOrder, hApplied.frame]

theorem Round.isSome_account (h : Round execution order before outcome after) (k : Nat) :
    (after.virtualAccounts.find? k).isSome = (before.virtualAccounts.find? k).isSome := by
  cases h with
  | skipped hSkipped hClose => rfl
  | rejected hClose hShort reason => rfl
  | filled hClose hApplied =>
    obtain ⟨account, -, -, hAccounts⟩ := hApplied.account
    rw [settled, Database.updateVirtualOrder, hAccounts, Database.find?_setCashBalance,
      Option.isSome_map]

theorem Round.apart (h : Round execution order before outcome after)
    (hOther : order.accountId ≠ accountId) :
    after.virtualAccounts.find? accountId = before.virtualAccounts.find? accountId ∧
      positionsOf accountId after = positionsOf accountId before := by
  cases h with
  | skipped hSkipped hClose => exact ⟨rfl, rfl⟩
  | rejected hClose hShort reason => exact ⟨rfl, rfl⟩
  | filled hClose hApplied =>
    have hView := tradingView_applied hApplied hOther
    exact ⟨congrArg (fun view => view.1.account) hView, congrArg (fun view => view.1.positions) hView⟩

theorem solvent_congr (hPrices : after.dailyPrices = before.dailyPrices)
    (hAccount : after.virtualAccounts.find? accountId = before.virtualAccounts.find? accountId)
    (hPositions : positionsOf accountId after = positionsOf accountId before) :
    Solvent execution accountId orders after ↔ Solvent execution accountId orders before := by
  have hSells : (fun order : VirtualOrder =>
        order.accountId == accountId && sells execution after order) =
      fun order => order.accountId == accountId && sells execution before order := by
    funext order
    cases hHere : order.accountId == accountId with
    | false => rfl
    | true =>
      rw [beq_iff_eq] at hHere
      rw [sells, sells, closeFor_congr hPrices, holds, holds, hHere, findAt_eq_find?, findAt_eq_find?,
        hPositions]
  rw [Solvent, Solvent, hAccount, firstSale, firstSale, hSells]
  simp only [closeFor_congr hPrices]

theorem firstSale_cons_of_not (hOther : ¬ (order.accountId = accountId ∧
    sells execution before order = true)) :
    firstSale execution accountId (order :: orders) before =
      firstSale execution accountId orders before := by
  rw [firstSale, List.find?_cons_of_neg, ← firstSale]
  rwa [Bool.and_eq_true, beq_iff_eq]

theorem firstSale_cons_of_sells (hSells : sells execution before order = true) :
    firstSale execution order.accountId (order :: orders) before = some order := by
  rw [firstSale, List.find?_cons_of_pos]
  rw [hSells, beq_self_eq_true]
  rfl

section Filled

variable {fill : PaperFill} {row : VirtualFill}

theorem holds_of_applied (h : Applied fill before after row) (hSide : fill.side = .sell) :
    holds fill.accountId fill.symbol fill.quantity before = true := by
  obtain ⟨-, -, -, hRowSide, hQuantity, -⟩ := h.asAsked
  obtain ⟨ensured, position, hEnsured, hHeld, -⟩ := h.position
  have hEnough := hHeld (hRowSide.trans hSide)
  rw [hQuantity] at hEnough
  cases hEnsured with
  | found hFound =>
    rw [holds, findAt, hFound, Option.any_some, decide_eq_true_iff]
    exact hEnough
  | opened hNone =>
    -- A row opened for the fill has nothing to sell.
    have hPositive : 0 < fill.quantity := hQuantity ▸ row.quantity_pos
    exact absurd hEnough (not_le.mpr hPositive)

/-- No fill leaves its account in debt. -/
theorem cash_nonneg_of_applied (h : Applied fill before after row) (account : VirtualAccount)
    (hAccount : after.virtualAccounts.find? fill.accountId = some account) :
    0 ≤ account.cashBalance := by
  obtain ⟨found, hFound, hCash, hAccounts⟩ := h.account
  rw [hAccounts, Database.find?_setCashBalance, hFound, Option.map_some, if_pos rfl] at hAccount
  cases hAccount
  exact hCash

theorem cash_nonneg_of_bought (h : Applied fill before after row) (hSide : fill.side = .buy)
    (account : VirtualAccount) (hAccount : before.virtualAccounts.find? fill.accountId = some account) :
    0 ≤ account.cashBalance := by
  obtain ⟨found, hFound, hCash, -⟩ := h.account
  obtain ⟨-, -, -, hRowSide, -⟩ := h.asAsked
  rw [hFound] at hAccount
  cases hAccount
  rw [VirtualFill.cashFlow, hRowSide, hSide] at hCash
  simp only at hCash
  rw [← sub_eq_add_neg, sub_nonneg] at hCash
  exact row.netAmount_nonneg.trans hCash

end Filled

/-- The first sale of the account is this one, and it was decided on. -/
theorem solvent_of_sale {close : ℚ} (hClose : closeFor execution order before = some close)
    (hDecides : execution.tracker.Decides (fillAt execution order close) before)
    (hSide : order.side = .sell)
    (hHolds : holds order.accountId order.symbol order.quantity before = true) :
    Solvent execution order.accountId (order :: orders) before := by
  have hSells : sells execution before order = true := by
    rw [sells, hSide, hClose]
    exact hHolds
  obtain ⟨account, hAccount, hDebt⟩ := hDecides.account
  intro other first firstClose hOther hFirst hFirstClose
  rw [firstSale_cons_of_sells hSells] at hFirst
  cases hFirst
  obtain rfl := Option.some.inj (hClose.symm.trans hFirstClose)
  obtain rfl := Option.some.inj (hAccount.symm.trans hOther)
  exact hDebt hSide hHolds

/-- After a round that came to a decision, it is the rest of the orders that matters. -/
theorem Round.solvent_iff (h : Round execution order before outcome after)
    (hDecides : ∀ close, closeFor execution order before = some close →
      execution.tracker.Decides (fillAt execution order close) before) :
    Solvent execution accountId (order :: orders) before ↔
      Solvent execution accountId orders after := by
  have hSkip : (hOther : ¬ (order.accountId = accountId ∧ sells execution before order = true)) →
      (Solvent execution accountId (order :: orders) before ↔
        Solvent execution accountId orders before) := by
    intro hOther
    rw [Solvent, firstSale_cons_of_not hOther, ← Solvent]
  by_cases hHere : order.accountId = accountId
  · obtain rfl := hHere
    cases h with
    | skipped hSkipped hClose =>
      refine hSkip ?_
      rintro ⟨-, hSells⟩
      rw [sells, hClose] at hSells
      simp at hSells
    | rejected hClose hShort reason =>
      refine (hSkip ?_).trans (solvent_congr rfl rfl rfl).symm
      rintro ⟨-, hSells⟩
      rw [sells, Bool.and_eq_true, Bool.and_eq_true, beq_iff_eq] at hSells
      rw [hShort hSells.1.1] at hSells
      cases hSells.2
    | @filled close after fill hClose hApplied =>
      have hAfter : Solvent execution order.accountId orders (settled order .filled none after) :=
        solvent_of_nonneg (cash_nonneg_of_applied hApplied)
      refine iff_of_true ?_ hAfter
      cases hSide : order.side with
      | buy => exact solvent_of_nonneg (cash_nonneg_of_bought hApplied hSide)
      | sell =>
        exact solvent_of_sale hClose (hDecides close hClose) hSide (holds_of_applied hApplied hSide)
  · refine (hSkip fun hSame => hHere hSame.1).trans ?_
    obtain ⟨hAccount, hPositions⟩ := h.apart hHere
    exact (solvent_congr h.dailyPrices hAccount hPositions).symm

theorem Round.fillable_iff (h : Round execution order before outcome after)
    (hDecides : ∀ close, closeFor execution order before = some close →
      execution.tracker.Decides (fillAt execution order close) before) :
    Fillable execution (order :: orders) before ↔ Fillable execution orders after := by
  constructor
  · intro hAll
    constructor
    · intro next hNext close hClose
      rw [closeFor_congr h.dailyPrices] at hClose
      rw [h.isSome_account]
      exact hAll.each next (List.mem_cons_of_mem order hNext) close hClose
    · exact fun accountId => (h.solvent_iff hDecides).mp (hAll.solvent accountId)
  · intro hRest
    constructor
    · rw [List.forall_mem_cons]
      constructor
      · intro close hClose
        have hHere := hDecides close hClose
        obtain ⟨account, hAccount, -⟩ := hHere.account
        exact ⟨hHere.price_pos, Option.isSome_iff_exists.mpr ⟨account, hAccount⟩⟩
      · intro next hNext close hClose
        rw [← closeFor_congr h.dailyPrices] at hClose
        rw [← h.isSome_account]
        exact hRest.each next hNext close hClose
    · exact fun accountId => (h.solvent_iff hDecides).mpr (hRest.solvent accountId)

theorem Fillable.decides (h : Fillable execution (order :: orders) before) {close : ℚ}
    (hClose : closeFor execution order before = some close) :
    execution.tracker.Decides (fillAt execution order close) before := by
  obtain ⟨hPrice, hKnown⟩ := h.each order List.mem_cons_self close hClose
  obtain ⟨account, hAccount⟩ := Option.isSome_iff_exists.mp hKnown
  refine ⟨hPrice, account, hAccount, fun hSide hHolds => ?_⟩
  have hSells : sells execution before order = true := by
    have hSale : order.side = .sell := hSide
    rw [sells, hSale, hClose]
    exact hHolds
  exact h.solvent order.accountId account order close hAccount (firstSale_cons_of_sells hSells) hClose

theorem exec_matchEach_ok_iff (hCharges : execution.tracker.costModel.Charges)
    (orders : List VirtualOrder) (answer : Answer) (s : DbSession) :
    (∃ outcomes t, (matchEach execution orders).exec answer s = (.ok outcomes, t)) ↔
      Fillable execution orders s.view := by
  induction orders generalizing s with
  | nil =>
    refine iff_of_true ⟨[], s, rfl⟩ ⟨by simp, fun accountId account order close _ hFirst => ?_⟩
    cases hFirst
  | cons order orders ih =>
    constructor
    · rintro ⟨outcomes, t, h⟩
      obtain ⟨outcome, u, rest, hRound, hRest, -⟩ := exec_matchEach_cons.mp h
      have hDecides := (exec_matchOrder_ok_iff hCharges order answer s).mp ⟨outcome, u, hRound⟩
      exact ((round_matchOrder hRound).fillable_iff hDecides).mpr ((ih u).mp ⟨rest, t, hRest⟩)
    · intro hAll
      have hDecides : ∀ close, closeFor execution order s.view = some close →
          execution.tracker.Decides (fillAt execution order close) s.view :=
        fun close hClose => hAll.decides hClose
      obtain ⟨outcome, u, hRound⟩ := (exec_matchOrder_ok_iff hCharges order answer s).mpr hDecides
      have hRest := ((round_matchOrder hRound).fillable_iff hDecides).mp hAll
      obtain ⟨rest, t, hRest⟩ := (ih u).mpr hRest
      exact ⟨_, t, exec_matchEach_cons.mpr ⟨outcome, u, rest, hRound, hRest, rfl⟩⟩

end SimulationBroker

end StockAiPlatform
