import StockAiPlatform.Broker.MatchingEngine
import StockAiPlatform.Broker.SimulationOutcomes
import StockAiPlatform.Paper.FillRefusals

/-! # What a round of the matching loop leaves

A round leaves everything, fills its order, rejects it, or raises; a round that
raises has recorded no fill. No other order is touched, so the orders the loop
has yet to come to are stored as it read them.
-/

namespace StockAiPlatform
set_option autoImplicit false

open Transaction Python

/-- The order an outcome hands back. -/
def MatchOutcome.order? : MatchOutcome → Option VirtualOrder
  | .rejected order | .filled order _ => some order
  | .skippedTerminal | .skippedNoPrice | .skippedLimitUnmet => none

namespace SimulationBroker

variable {execution : PendingExecution} {order : VirtualOrder} {answer : Answer} {s t : DbSession}

/-- The bar a round prices its order with. -/
def barOf (execution : PendingExecution) (symbol : String) (db : Database) : Option DailyPrice :=
  if execution.priceLookbackDays ≤ 0 then
    db.dailyPrices.find? fun bar => bar.symbol == symbol && bar.date == execution.asOfDate
  else
    DailyPriceRepository.latestOnOrBefore symbol execution.asOfDate execution.priceLookbackDays db

theorem exec_lookupClosePrice (execution : PendingExecution) (symbol : String) (answer : Answer)
    (s : DbSession) :
    (lookupClosePrice execution symbol).exec answer s = (.ok (barOf execution symbol s.view), s) := by
  unfold lookupClosePrice barOf
  split
  · rfl
  · rfl

def settled (order : VirtualOrder) (status : VirtualOrderStatus) (reason : Option Formatted)
    (db : Database) : Database :=
  db.updateVirtualOrder order.id (VirtualOrderRepository.settle status reason)
    (VirtualOrderRepository.id_settle status reason)

theorem find?_settled (order : VirtualOrder) (status : VirtualOrderStatus)
    (reason : Option Formatted) (db : Database) (k : Nat) :
    (settled order status reason db).virtualOrders.find? k =
      (db.virtualOrders.find? k).map fun stored =>
        if k = order.id then VirtualOrderRepository.settle status reason stored else stored :=
  Table.find?_modify db.virtualOrders order.id (VirtualOrderRepository.settle status reason)
    (VirtualOrderRepository.id_settle status reason) k

inductive Matched (execution : PendingExecution) (order : VirtualOrder) (before : Database) :
    Database → Prop where
  | left : Matched execution order before before
  | filled {after : Database} {fill : VirtualFill} (close : ℚ) (hOpen : order.status.isTerminal = false)
      (hApplied : Applied (fillAt execution order close) before after fill) :
      Matched execution order before (settled order .filled none after)
  | rejected (hOpen : order.status.isTerminal = false) (reason : Formatted) :
      Matched execution order before (settled order .rejected (some reason) before)
  | raised {after : Database} (hOpen : order.status.isTerminal = false)
      (hOrders : after.virtualOrders = before.virtualOrders)
      (hFills : after.virtualFills = before.virtualFills) : Matched execution order before after

theorem matched_rejectOrder {error : PyError} (hOpen : order.status.isTerminal = false) (close : ℚ)
    {u : DbSession} (h : (execution.tracker.applyFill (fillAt execution order close)).exec answer s =
      (.error error, u)) :
    Matched execution order s.view ((rejectOrder order error).exec answer u).2.view := by
  cases error with
  | insufficientCash message =>
    have hKind : PnlTracker.Insufficient (.insufficientCash message) := trivial
    obtain rfl := PnlTracker.session_eq_of_insufficient hKind h
    exact .rejected hOpen message
  | insufficientPosition message =>
    have hKind : PnlTracker.Insufficient (.insufficientPosition message) := trivial
    obtain rfl := PnlTracker.session_eq_of_insufficient hKind h
    exact .rejected hOpen _
  | _ =>
    obtain ⟨hFills, hOrders⟩ := PnlTracker.recorded_of_raised h
    exact .raised hOpen hOrders hFills

theorem matched_matchOrder (execution : PendingExecution) (order : VirtualOrder) (answer : Answer)
    (s : DbSession) :
    Matched execution order s.view ((matchOrder execution order).exec answer s).2.view := by
  unfold matchOrder
  cases hOpen : order.status.isTerminal with
  | true => exact .left
  | false =>
    rw [if_neg Bool.false_ne_true]
    rw [Program.exec_bind_ok answer s (exec_lookupClosePrice ..)]
    cases barOf execution order.symbol s.view with
    | none => exact .left
    | some bar =>
      simp only
      split
      · exact .left
      · rw [Program.exec_bind_ok answer s (Program.exec_attempt ..)]
        cases hFill : (execution.tracker.applyFill (fillAt execution order bar.close)).exec answer s with
        | mk outcome u =>
          cases outcome with
          | ok result => exact .filled bar.close hOpen (PnlTracker.exec_applyFill_eq_ok hFill)
          | error error => exact matched_rejectOrder hOpen bar.close hFill

theorem Matched.find?_of_ne {before after : Database} (h : Matched execution order before after)
    {k : Nat} (hOther : k ≠ order.id) :
    after.virtualOrders.find? k = before.virtualOrders.find? k := by
  have hSettled : ∀ (db : Database) status reason,
      (settled order status reason db).virtualOrders.find? k = db.virtualOrders.find? k := by
    intro db status reason
    simp only [find?_settled, if_neg hOther, Option.map_id']
  cases h with
  | left => rfl
  | filled close hOpen hApplied => rw [hSettled, hApplied.frame]
  | rejected hOpen reason => exact hSettled ..
  | raised hOpen hOrders hFills => rw [hOrders]

/-! ## The round, by what it came to -/

/-- The close an order is to be filled at, where the loop comes that far with it. -/
def closeFor (execution : PendingExecution) (order : VirtualOrder) (db : Database) : Option ℚ :=
  if order.status.isTerminal then none
  else ((barOf execution order.symbol db).filter fun bar => limitMet order bar.close).map
    DailyPrice.close

/-- What the round makes of the fill it tried. -/
def conclude (order : VirtualOrder) : Except PyError FillResult → App MatchOutcome
  | .ok result => do
    let filled ← VirtualOrderRepository.updateStatus order .filled none
    pure (.filled filled result.fill)
  | .error error => rejectOrder order error

theorem exec_matchOrder_fill {close : ℚ} (hClose : closeFor execution order s.view = some close) :
    (matchOrder execution order).exec answer s =
      ((execution.tracker.applyFill (fillAt execution order close)).attempt >>=
        conclude order).exec answer s := by
  unfold closeFor at hClose
  unfold matchOrder
  split at hClose
  · cases hClose
  rename_i hOpen
  rw [if_neg hOpen, Program.exec_bind_ok answer s (exec_lookupClosePrice ..)]
  cases hBar : barOf execution order.symbol s.view with
  | none =>
    rw [hBar] at hClose
    cases hClose
  | some bar =>
    rw [hBar, Option.filter_some] at hClose
    simp only
    split at hClose
    · rename_i hMet
      cases hClose
      rw [hMet, if_neg (by decide)]
      rfl
    · cases hClose

theorem exec_matchOrder_skip (answer : Answer) (hClose : closeFor execution order s.view = none) :
    ∃ outcome : MatchOutcome, outcome.order? = none ∧
      (matchOrder execution order).exec answer s = (.ok outcome, s) := by
  unfold closeFor at hClose
  unfold matchOrder
  split
  · exact ⟨.skippedTerminal, rfl, rfl⟩
  rename_i hOpen
  rw [if_neg hOpen, Option.map_eq_none_iff] at hClose
  rw [Program.exec_bind_ok answer s (exec_lookupClosePrice ..)]
  cases hBar : barOf execution order.symbol s.view with
  | none => exact ⟨.skippedNoPrice, rfl, rfl⟩
  | some bar =>
    rw [hBar, Option.filter_eq_none_iff] at hClose
    have hUnmet := hClose bar rfl
    simp only
    rw [if_pos (by simpa using hUnmet)]
    exact ⟨.skippedLimitUnmet, rfl, rfl⟩

/-- What a round that returns came to, and what it left. -/
inductive Round (execution : PendingExecution) (order : VirtualOrder) (before : Database) :
    MatchOutcome → Database → Prop where
  | skipped {outcome : MatchOutcome} (hSkipped : outcome.order? = none)
      (hClose : closeFor execution order before = none) : Round execution order before outcome before
  | rejected {close : ℚ} (hClose : closeFor execution order before = some close)
      (hShort : order.side = .sell →
        VirtualPositionRepository.holds order.accountId order.symbol order.quantity before = false)
      (reason : Formatted) : Round execution order before
        (.rejected (VirtualOrderRepository.settle .rejected (some reason) order))
        (settled order .rejected (some reason) before)
  | filled {close : ℚ} {after : Database} {fill : VirtualFill}
      (hClose : closeFor execution order before = some close)
      (hApplied : Applied (fillAt execution order close) before after fill) :
      Round execution order before
        (.filled (VirtualOrderRepository.settle .filled none order) fill) (settled order .filled none after)

theorem round_matchOrder {outcome : MatchOutcome}
    (h : (matchOrder execution order).exec answer s = (.ok outcome, t)) :
    Round execution order s.view outcome t.view := by
  cases hClose : closeFor execution order s.view with
  | none =>
    obtain ⟨skipped, hSkipped, hExec⟩ := exec_matchOrder_skip answer hClose
    rw [hExec] at h
    cases h
    exact .skipped hSkipped hClose
  | some close =>
    rw [exec_matchOrder_fill hClose, Program.exec_bind_ok answer s (Program.exec_attempt ..)] at h
    cases hFill : (execution.tracker.applyFill (fillAt execution order close)).exec answer s with
    | mk result u =>
      rw [hFill] at h
      cases result with
      | ok result =>
        cases h
        exact .filled hClose (PnlTracker.exec_applyFill_eq_ok hFill)
      | error error =>
        have hShort := fun hKind hSide => PnlTracker.not_holds_of_refused order.quantity_pos hKind
          hSide hFill
        cases error with
        | insufficientCash message =>
          have hKind : PnlTracker.Insufficient (.insufficientCash message) := trivial
          obtain rfl := PnlTracker.session_eq_of_insufficient hKind hFill
          cases h
          exact .rejected hClose (hShort hKind) _
        | insufficientPosition message =>
          have hKind : PnlTracker.Insufficient (.insufficientPosition message) := trivial
          obtain rfl := PnlTracker.session_eq_of_insufficient hKind hFill
          cases h
          exact .rejected hClose (hShort hKind) _
        | _ => cases h

/-! ## The orders a call goes through -/

def pendingAt (accountId : Option Nat) (status : VirtualOrderStatus) (db : Database) :
    List VirtualOrder :=
  match accountId with
  | none => pendingGlobal status db
  | some accountId => (VirtualOrderRepository.withStatus (some accountId) status db).take 10000

theorem exec_listPending (accountId : Option Nat) (status : VirtualOrderStatus) (answer : Answer)
    (s : DbSession) :
    (listPending accountId status).exec answer s = (.ok (pendingAt accountId status s.view), s) := by
  cases accountId <;> rfl

/-- Rows of one status, each at most once. -/
theorem pendingAt_subperm (accountId : Option Nat) (status : VirtualOrderStatus) (db : Database) :
    List.Subperm (pendingAt accountId status db)
      (db.virtualOrders.rows.filter fun order => order.status == status) := by
  cases accountId with
  | none => exact (List.perm_insertionSort _ _).subperm
  | some accountId =>
    refine (List.take_sublist _ _).subperm.trans ?_
    refine (List.perm_insertionSort _ _).subperm.trans (List.Sublist.subperm ?_)
    refine List.monotone_filter_right _ fun order hOrder => ?_
    exact (Bool.and_eq_true_iff.mp hOrder).2

theorem mem_of_pendingAt {accountId : Option Nat} {status : VirtualOrderStatus} {db : Database}
    (h : order ∈ pendingAt accountId status db) :
    order ∈ db.virtualOrders.rows ∧ order.status = status := by
  have hMem := (pendingAt_subperm accountId status db).subset h
  obtain ⟨hRow, hStatus⟩ := List.mem_filter.mp hMem
  exact ⟨hRow, beq_iff_eq.mp hStatus⟩

theorem nodup_pendingAt (accountId : Option Nat) (status : VirtualOrderStatus) (db : Database) :
    ((pendingAt accountId status db).map VirtualOrder.id).Nodup := by
  obtain ⟨rows, hPerm, hRows⟩ := pendingAt_subperm accountId status db
  rw [← (hPerm.map VirtualOrder.id).nodup_iff]
  exact db.virtualOrders.nodup.sublist ((hRows.trans List.filter_sublist).map VirtualOrder.id)

end SimulationBroker

end StockAiPlatform
