import StockAiPlatform.Api.ApprovedOrders
import StockAiPlatform.Broker.AccountExecution
import StockAiPlatform.Broker.PaperFills
import StockAiPlatform.Paper.LedgerRuns
import StockAiPlatform.Scheduler.ExpireJob
import StockAiPlatform.Transaction.Groups

/-! # The paper trading jobs

`execute_paper_orders` and `create_paper_pnl_snapshot`, and the whole of paper trading
over any run of requests and jobs: what an account holds is what its filled orders add
up to, and what it has is what they cost.
-/

namespace StockAiPlatform
set_option autoImplicit false

open Transaction SimulationBroker VirtualPositionRepository

/-- The summary of `execute_paper_orders`. -/
structure PaperOrdersResult where
  dataStatus : String
  reason : Option String
  asOfDate : Option Int
  accountsProcessed : Nat
  filledCount : Nat
  rejectedCount : Nat
  skippedNoPrice : Nat
  skippedLimitUnmet : Nat
  skippedTerminal : Nat
  perAccount : List (Nat × ExecutePendingResult)

/-- One entry of `failures`: the exception, of which the summary shows type and text. -/
structure SnapshotFailure where
  accountId : Nat
  error : PyError

structure PaperSnapshotsResult where
  status : JobStatus
  dataStatus : String
  reason : Option String
  snapshotDate : Option Int
  accountsProcessed : Nat
  snapshotsWritten : Nat
  failures : List SnapshotFailure
  errorMessage : Option String

/-- A run of one of the jobs. The select of the accounts has no order. -/
structure PaperJob where
  settings : Settings
  today : Int
  filledAt : Nat → Int
  arrange : List VirtualAccount → List VirtualAccount
  arrange_perm (accounts : List VirtualAccount) : (arrange accounts).Perm accounts

namespace PaperJob

def accounts (job : PaperJob) (db : Database) : List VirtualAccount :=
  job.arrange (db.virtualAccounts.rows.filter VirtualAccount.paperTradingEnabled)

def ordersSkipped : PaperOrdersResult where
  dataStatus := "SKIPPED"
  reason := some "paper_trading_disabled"
  asOfDate := none
  accountsProcessed := 0
  filledCount := 0
  rejectedCount := 0
  skippedNoPrice := 0
  skippedLimitUnmet := 0
  skippedTerminal := 0
  perAccount := []

def ordersExecuted (job : PaperJob) (accounts : List VirtualAccount)
    (results : List ExecutePendingResult) : PaperOrdersResult where
  dataStatus := "SUCCESS"
  reason := none
  asOfDate := some job.today
  accountsProcessed := accounts.length
  filledCount := (results.map fun result => result.filled.length).sum
  rejectedCount := (results.map fun result => result.rejected.length).sum
  skippedNoPrice := (results.map ExecutePendingResult.skippedNoPrice).sum
  skippedLimitUnmet := (results.map ExecutePendingResult.skippedLimitUnmet).sum
  skippedTerminal := (results.map ExecutePendingResult.skippedTerminal).sum
  perAccount := (accounts.map VirtualAccount.id).zip results

/-- `execute_paper_orders`, with the rows its select has loaded. -/
def executePaperOrders (job : PaperJob) (accounts : List VirtualAccount) :
    App PaperOrdersResult :=
  if !job.settings.paperTradingEnabled then pure ordersSkipped
  else do
    let results ← executeByAccount { asOfDate := job.today, filledAt := job.filledAt }
      (accounts.map VirtualAccount.id)
    pure (job.ordersExecuted accounts results)

def snapshotsSkipped : PaperSnapshotsResult :=
  ⟨.success, "SKIPPED", some "paper_trading_disabled", none, 0, 0, [], none⟩

def snapshotsWritten (job : PaperJob) (processed : Nat) (failures : List SnapshotFailure) :
    PaperSnapshotsResult where
  status := if failures.isEmpty then .success else if processed = 0 then .failed else .partially
  dataStatus := if failures.isEmpty then "SUCCESS" else "PARTIAL"
  reason := none
  snapshotDate := some job.today
  accountsProcessed := processed
  snapshotsWritten := processed
  failures := failures
  errorMessage :=
    if failures.isEmpty then none else some s!"{failures.length} accounts failed snapshot"

def snapshotEach (today : Int) : List VirtualAccount → App (Nat × List SnapshotFailure)
  | [] => pure (0, [])
  | account :: rest => do
    let outcome ← (PnlTracker.createDailyPnlSnapshot account.id today).attempt
    let (processed, failures) ← snapshotEach today rest
    match outcome with
    | .ok _ => pure (processed + 1, failures)
    | .error error => pure (processed, ⟨account.id, error⟩ :: failures)

/-- `create_paper_pnl_snapshot`, with the rows its select has loaded. -/
def createPaperPnlSnapshot (job : PaperJob) (accounts : List VirtualAccount) :
    App PaperSnapshotsResult :=
  if !job.settings.paperTradingEnabled then pure snapshotsSkipped
  else do
    let (processed, failures) ← snapshotEach job.today accounts
    pure (job.snapshotsWritten processed failures)

/-- `run_job`: committed if the function returns and rolled back if it raises. -/
def executed (job : PaperJob) (db : Database) : Database :=
  (job.executePaperOrders (job.accounts db)).atomically unasked db

def valued (job : PaperJob) (db : Database) : Database :=
  (job.createPaperPnlSnapshot (job.accounts db)).atomically unasked db

end PaperJob

/-- What happens to paper trading: a request to either API, or one of the jobs. -/
inductive PaperEvent where
  | api (call : ApiCall)
  | executeJob (job : PaperJob)
  | snapshotJob (job : PaperJob)

def PaperEvent.step (event : PaperEvent) (db : Database) : Database :=
  match event with
  | .api call => call.step db
  | .executeJob job => job.executed db
  | .snapshotJob job => job.valued db

/-! ## The rounds of the matching job -/

/-- One round that returned, of whatever execution and order. -/
def Rounded (before after : Database) : Prop :=
  ∃ execution order outcome, Round execution order before outcome after

theorem rounds_matchAll {execution : PendingExecution} {orders : List VirtualOrder}
    {result total : ExecutePendingResult} {answer : Answer} {s t : DbSession}
    (h : (matchAll execution orders result).exec answer s = (.ok total, t)) :
    Relation.ReflTransGen Rounded s.view t.view := by
  induction orders generalizing result s with
  | nil =>
    cases h
    exact .refl
  | cons order orders ih =>
    rw [matchAll, Program.exec_bind_eq_ok] at h
    obtain ⟨outcome, u, hFirst, hRest⟩ := h
    exact .head ⟨execution, order, outcome, round_matchOrder hFirst⟩ (ih hRest)

theorem rounds_executeByAccount {execution : PendingExecution} {accountIds : List Nat}
    {results : List ExecutePendingResult} {answer : Answer} {s t : DbSession}
    (h : (executeByAccount execution accountIds).exec answer s = (.ok results, t)) :
    Relation.ReflTransGen Rounded s.view t.view := by
  induction accountIds generalizing results s with
  | nil =>
    cases h
    exact .refl
  | cons accountId accountIds ih =>
    rw [executeByAccount, Program.exec_bind_eq_ok] at h
    obtain ⟨result, u, hOwn, h⟩ := h
    rw [Program.exec_bind_eq_ok] at h
    obtain ⟨rest, v, hRest, hPure⟩ := h
    cases hPure
    rw [exec_executePendingOrders] at hOwn
    exact (rounds_matchAll hOwn).trans (ih hRest)

theorem moves_executeByAccount (execution : PendingExecution) (accountIds : List Nat)
    (answer : Answer) {results : List ExecutePendingResult} {s t : DbSession}
    (h : (executeByAccount execution accountIds).exec answer s = (.ok results, t)) :
    Relation.ReflTransGen OrderMove s.view t.view := by
  induction accountIds generalizing results s with
  | nil =>
    cases h
    exact .refl
  | cons accountId accountIds ih =>
    rw [executeByAccount, Program.exec_bind_eq_ok] at h
    obtain ⟨result, u, hOwn, h⟩ := h
    rw [Program.exec_bind_eq_ok] at h
    obtain ⟨rest, v, hRest, hPure⟩ := h
    cases hPure
    have hFirst := moves_executePendingOrders { execution with accountId := some accountId } answer s
    rw [hOwn] at hFirst
    exact hFirst.trans (ih hRest)

namespace PaperJob

theorem executed_cases (job : PaperJob) (db : Database) :
    Relation.ReflTransGen Rounded db (job.executed db) ∧
      Relation.ReflTransGen OrderMove db (job.executed db) := by
  rcases Program.atomically_cases unasked (job.executePaperOrders (job.accounts db)) db with
    ⟨result, s, hExec, hView⟩ | hSame
  · rw [executed, hView]
    rw [executePaperOrders] at hExec
    split at hExec
    · cases hExec
      exact ⟨.refl, .refl⟩
    · rw [Program.exec_bind_eq_ok] at hExec
      obtain ⟨results, u, hAccounts, hPure⟩ := hExec
      cases hPure
      exact ⟨rounds_executeByAccount hAccounts, moves_executeByAccount _ _ _ hAccounts⟩
  · rw [executed, hSame]
    exact ⟨.refl, .refl⟩

/-! ## The snapshots -/

/-- The store without its snapshots. -/
def bare (db : Database) : Database := { db with virtualPnlSnapshots := [] }

theorem keeps_totalUp (snapshotDate lookbackDays : Int) (positions : List VirtualPosition)
    (totals : PnlTracker.PositionTotals) :
    (PnlTracker.totalUp snapshotDate lookbackDays positions totals).Keeps bare := by
  induction positions generalizing totals with
  | nil => trivial
  | cons position positions ih =>
    rw [PnlTracker.totalUp]
    split
    · exact ih _
    · exact Program.keeps_query_bind fun db => ih _

theorem keeps_createDailyPnlSnapshot (accountId : Nat) (snapshotDate lookbackDays : Int) :
    (PnlTracker.createDailyPnlSnapshot accountId snapshotDate lookbackDays).Keeps bare := by
  refine Program.keeps_query_bind fun db => ?_
  cases db.virtualAccounts.find? accountId with
  | none => trivial
  | some account =>
    refine Program.keeps_query_bind fun db => (keeps_totalUp ..).bind fun totals => ?_
    refine Program.keeps_query_bind fun db => ?_
    cases db.virtualPnlSnapshots.find? (VirtualPnlSnapshot.isAt accountId snapshotDate) with
    | none => exact ⟨fun db => rfl, trivial⟩
    | some old => exact ⟨fun db => rfl, trivial⟩

theorem keeps_snapshotEach (today : Int) (accounts : List VirtualAccount) :
    (snapshotEach today accounts).Keeps bare := by
  induction accounts with
  | nil => trivial
  | cons account rest ih =>
    refine (keeps_createDailyPnlSnapshot account.id today _).attempt.bind fun outcome => ih.bind fun counts => ?_
    cases outcome with
    | ok snapshot => trivial
    | error error => trivial

theorem bare_valued (job : PaperJob) (db : Database) : bare (job.valued db) = bare db := by
  have hKeeps : (job.createPaperPnlSnapshot (job.accounts db)).Keeps bare := by
    rw [createPaperPnlSnapshot]
    split
    · trivial
    · exact (keeps_snapshotEach ..).bind fun counts => trivial
  rcases Program.atomically_cases unasked (job.createPaperPnlSnapshot (job.accounts db)) db with
    ⟨result, s, hExec, hView⟩ | hSame
  · have hBare := hKeeps.view_exec unasked (.opened db)
    rw [hExec] at hBare
    rw [valued, hView]
    exact hBare
  · rw [valued, hSame]

end PaperJob

/-! ## The ledger -/

section Ledger

variable {initialCash : ℚ} {accountId : Nat} {before after : Database}

/-- Nothing an account's ledger is about differs. -/
theorem Conserved.congr (h : Conserved initialCash accountId before)
    (hSame : SameLedger before after) : Conserved initialCash accountId after := by
  have hOwn : positionsOf accountId after = positionsOf accountId before := by
    rw [positionsOf, hSame.positions]
    rfl
  have hFills : after.virtualFillsOf accountId = before.virtualFillsOf accountId := by
    rw [Database.virtualFillsOf, hSame.fills]
    rfl
  constructor
  · rw [hSame.accounts, hOwn, hFills]
    exact h.cash
  · rw [hOwn]
    exact h.sound
  · intro symbol
    have hHolding : after.holding accountId symbol = before.holding accountId symbol := by
      rw [Database.holding, findAt, hSame.positions]
      rfl
    rw [hHolding, hFills]
    exact h.holding symbol
  · intro symbol
    rw [hSame.positions]
    exact h.single symbol

theorem Conserved.rounded (h : Conserved initialCash accountId before)
    (hRound : Rounded before after) : Conserved initialCash accountId after := by
  obtain ⟨execution, order, outcome, hRound⟩ := hRound
  cases hRound with
  | skipped hSkipped hClose => exact h
  | rejected hClose hShort reason => exact h.congr ⟨rfl, rfl, rfl⟩
  | filled hClose hApplied =>
    by_cases hOwn : order.accountId = accountId
    · subst hOwn
      have hPaid := h.own hApplied
      exact hPaid.congr ⟨rfl, rfl, rfl⟩
    · have hPaid := h.other hApplied hOwn
      exact hPaid.congr ⟨rfl, rfl, rfl⟩

theorem Conserved.executed (h : Conserved initialCash accountId before) (job : PaperJob) :
    Conserved initialCash accountId (job.executed before) := by
  have hRounds := (job.executed_cases before).1
  generalize job.executed before = after at hRounds
  induction hRounds with
  | refl => exact h
  | tail rounds round ih => exact ih.rounded round

theorem sameLedger_of_wrote {k : Nat} {candidates : Table OrderCandidate} {orders : Table VirtualOrder}
    {events : List AuditEvent} (h : Wrote before after k candidates orders events) :
    SameLedger before after := by
  constructor <;> rw [h.frame]

theorem sameLedger_api (call : ApiCall) (db : Database) : SameLedger db (call.step db) := by
  have hMoves := call.moves_step db
  generalize call.step db = after at hMoves ⊢
  cases hMoves with
  | stays => exact ⟨rfl, rfl, rfl⟩
  | paper hRequest hPaper =>
    cases hPaper with
    | stays request => exact ⟨rfl, rfl, rfl⟩
    | created hChecked => exact ⟨rfl, rfl, rfl⟩
    | canceled hFound hCancelable => exact ⟨rfl, rfl, rfl⟩
  | approval hRequest hCall hApproval =>
    cases hApproval with
    | stays call => exact ⟨rfl, rfl, rfl⟩
    | created hCreated => exact sameLedger_of_wrote hCreated.wrote
    | approved hApproved => exact sameLedger_of_wrote hApproved.wrote
    | rejected hRejected => exact sameLedger_of_wrote hRejected.wrote
    | expired hExpired => exact sameLedger_of_wrote hExpired.wrote

theorem sameLedger_of_bare (hBare : PaperJob.bare after = PaperJob.bare before) :
    SameLedger before after := by
  have hAccounts := congrArg Database.virtualAccounts hBare
  have hPositions := congrArg Database.virtualPositions hBare
  have hFills := congrArg Database.virtualFills hBare
  exact ⟨hAccounts, hPositions, hFills⟩

theorem Conserved.step (h : Conserved initialCash accountId before) (event : PaperEvent) :
    Conserved initialCash accountId (event.step before) := by
  cases event with
  | api call => exact h.congr (sameLedger_api call before)
  | executeJob job => exact h.executed job
  | snapshotJob job => exact h.congr (sameLedger_of_bare (job.bare_valued before))

theorem moves_api (call : ApiCall) (db : Database) :
    Relation.ReflTransGen OrderMove db (call.step db) := by
  have hMoves := call.moves_step db
  have hSame := (sameLedger_api call db).fills
  generalize call.step db = after at hMoves hSame ⊢
  refine .single ?_
  cases hMoves with
  | stays => exact .elsewhere rfl rfl
  | paper hRequest hPaper =>
    cases hPaper with
    | stays request => exact .elsewhere rfl rfl
    | created hChecked => exact .submitted rfl rfl rfl rfl
    | canceled hFound hCancelable =>
      rename_i orderId reason order
      obtain rfl : order.id = orderId := Table.key_of_find? hFound
      refine .closed _ hFound ?_ (by decide)
      cases hStatus : order.status <;> rw [hStatus] at hCancelable <;> first | rfl | cases hCancelable
  | approval hRequest hCall hApproval =>
    cases hApproval with
    | stays call => exact .elsewhere rfl rfl
    | created hCreated => exact .elsewhere hCreated.wrote.orders hSame
    | approved hApproved =>
      rcases hApproved.submitted.wrote with ⟨key, -, -, hOrders⟩ | ⟨-, ⟨checked, -, hRow⟩, hOrders⟩
      · exact .elsewhere hOrders hSame
      · exact .submitted (by rw [hRow]; rfl) (by rw [hRow]; rfl) hOrders hSame
    | rejected hRejected => exact .elsewhere hRejected.wrote.orders hSame
    | expired hExpired => exact .elsewhere hExpired.wrote.orders hSame

theorem OneFill.step (h : OneFill before) (event : PaperEvent) : OneFill (event.step before) := by
  cases event with
  | api call => exact h.moves (moves_api call before)
  | executeJob job => exact h.moves (job.executed_cases before).2
  | snapshotJob job =>
    have hOrders := congrArg Database.virtualOrders (job.bare_valued before)
    exact h.move (.elsewhere hOrders (sameLedger_of_bare (job.bare_valued before)).fills)

/-! ## What the orders add up to -/

namespace Database

/-- The filled orders of an account in a symbol. -/
def filledOrders (db : Database) (accountId : Nat) (symbol : String) (side : Side) :
    List VirtualOrder :=
  db.virtualOrders.rows.filter fun order => order.status == .filled && order.accountId == accountId
    && order.symbol == symbol && order.side == side

def sharesOrdered (db : Database) (accountId : Nat) (symbol : String) (side : Side) : Int :=
  ((db.filledOrders accountId symbol side).map VirtualOrder.quantity).sum

end Database

theorem sum_map_filter {α : Type} (keep : α → Bool) (weight : α → Int) (rows : List α) :
    ((rows.filter keep).map weight).sum = (rows.map fun row => if keep row then weight row else 0).sum := by
  induction rows with
  | nil => rfl
  | cons row rows ih =>
    rw [List.filter_cons, List.map_cons, List.sum_cons, ← ih]
    split
    · rw [List.map_cons, List.sum_cons]
    · rw [zero_add]

/-- Whatever is counted on the fills can be counted on the orders that are filled. -/
theorem OneFill.sum_fills {db : Database} (h : OneFill db) {weight : VirtualFill → Int}
    (ordered : VirtualOrder → Int)
    (hAlike : ∀ order fill, Carries order fill → weight fill = ordered order) :
    (db.virtualFills.map weight).sum =
      (db.virtualOrders.rows.map fun order => if order.status == .filled then ordered order else 0).sum := by
  have hCovers : ∀ fill ∈ db.virtualFills, fill.orderId ∈ db.virtualOrders.rows.map VirtualOrder.id := by
    intro fill hFill
    obtain ⟨order, hFound⟩ := h.known fill hFill
    obtain ⟨hMem, hKey⟩ := (Table.find?_eq_some_iff _ _ _).mp hFound
    exact List.mem_map.mpr ⟨order, hMem, hKey⟩
  have hPerm : ((db.virtualOrders.rows.map VirtualOrder.id).flatMap
      (group VirtualFill.orderId db.virtualFills)).Perm db.virtualFills :=
    flatMap_group_perm db.virtualOrders.nodup hCovers
  rw [← (hPerm.map weight).sum_eq, List.flatMap_def, List.map_map, List.map_flatten, List.sum_flatten,
    List.map_map, List.map_map]
  congr 1
  refine List.map_congr_left fun order hOrder => ?_
  obtain ⟨hCount, hCarries⟩ := h.orders order hOrder
  have hGroup : group VirtualFill.orderId db.virtualFills order.id = db.fillsFor order.id := rfl
  simp only [Function.comp_apply, hGroup]
  split at hCount
  · next hFilled =>
    obtain ⟨fill, hOnly⟩ := List.length_eq_one_iff.mp hCount
    rw [hOnly] at hCarries ⊢
    rw [if_pos (beq_iff_eq.mpr hFilled), List.map_singleton, List.sum_singleton]
    exact hAlike order fill (hCarries fill (List.mem_singleton_self fill))
  · next hOther =>
    rw [List.length_eq_zero_iff.mp hCount, if_neg (fun hFilled => hOther (beq_iff_eq.mp hFilled))]
    rfl

theorem OneFill.sharesOf_eq {db : Database} (h : OneFill db) (accountId : Nat) (symbol : String)
    (side : Side) :
    sharesOf side ((db.virtualFillsOf accountId).filter fun fill => fill.symbol == symbol) =
      db.sharesOrdered accountId symbol side := by
  rw [sharesOf, Database.virtualFillsOf, List.filter_filter, List.filter_filter, sum_map_filter,
    h.sum_fills fun order => if order.side == side && order.symbol == symbol
      && order.accountId == accountId then order.quantity else 0,
    Database.sharesOrdered, Database.filledOrders, sum_map_filter]
  · congr 1
    refine List.map_congr_left fun order _ => ?_
    cases order.status == .filled <;> cases order.accountId == accountId <;>
      cases order.symbol == symbol <;> cases order.side == side <;> rfl
  · intro order fill hCarries
    rw [hCarries.side, hCarries.symbol, hCarries.accountId, hCarries.quantity]

end Ledger

/-! ## One snapshot a day -/

theorem VirtualPnlSnapshot.isAt_self (snapshot : VirtualPnlSnapshot) :
    snapshot.isAt snapshot.accountId snapshot.snapshotDate = true := by
  rw [VirtualPnlSnapshot.isAt, beq_self_eq_true, beq_self_eq_true, Bool.and_self]

theorem VirtualPnlSnapshot.isAt_iff {snapshot : VirtualPnlSnapshot} {accountId : Nat}
    {snapshotDate : Int} : snapshot.isAt accountId snapshotDate = true ↔
    snapshot.accountId = accountId ∧ snapshot.snapshotDate = snapshotDate := by
  rw [VirtualPnlSnapshot.isAt, Bool.and_eq_true, beq_iff_eq, beq_iff_eq]

namespace PnlTracker

def snapshotsAt (accountId : Nat) (snapshotDate : Int) (db : Database) : List VirtualPnlSnapshot :=
  db.virtualPnlSnapshots.filter (VirtualPnlSnapshot.isAt accountId snapshotDate)

/-- No account has two snapshots of one day. -/
def SnapshotsApart (db : Database) : Prop :=
  ∀ accountId snapshotDate, (snapshotsAt accountId snapshotDate db).length ≤ 1

section Snapshots

variable {answer : Answer} {s t : DbSession} {accountId : Nat} {snapshotDate lookbackDays : Int}
  {snapshot : VirtualPnlSnapshot}

/-- What a snapshot leaves in the table. -/
structure Stored (before after : Database) (snapshot : VirtualPnlSnapshot) : Prop where
  bare : PaperJob.bare after = PaperJob.bare before
  others : ∀ accountId snapshotDate, snapshot.isAt accountId snapshotDate = false →
    snapshotsAt accountId snapshotDate after = snapshotsAt accountId snapshotDate before
  own : (snapshotsAt snapshot.accountId snapshot.snapshotDate before).length ≤ 1 →
    snapshotsAt snapshot.accountId snapshot.snapshotDate after = [snapshot]

theorem stored_insert (db : Database)
    (hNone : db.virtualPnlSnapshots.find?
      (VirtualPnlSnapshot.isAt snapshot.accountId snapshot.snapshotDate) = none) :
    Stored db (db.insertVirtualPnlSnapshot snapshot) snapshot where
  bare := rfl
  others accountId snapshotDate hOther := by
    rw [snapshotsAt, Database.insertVirtualPnlSnapshot, List.filter_append, List.filter_singleton,
      hOther]
    exact List.append_nil _
  own hSingle := by
    have hNil : snapshotsAt snapshot.accountId snapshot.snapshotDate db = [] :=
      List.filter_eq_nil_iff.mpr (List.find?_eq_none.mp hNone)
    rw [snapshotsAt, Database.insertVirtualPnlSnapshot, List.filter_append, List.filter_singleton,
      snapshot.isAt_self]
    exact congrArg (· ++ [snapshot]) hNil

theorem stored_replace (db : Database) {old : VirtualPnlSnapshot}
    (hFound : db.virtualPnlSnapshots.find?
      (VirtualPnlSnapshot.isAt snapshot.accountId snapshot.snapshotDate) = some old) :
    Stored db (db.storeVirtualPnlSnapshot snapshot) snapshot where
  bare := rfl
  others accountId snapshotDate hOther := by
    refine filter_updateWhere_of_disjoint (fun row hRow => ?_) fun row hRow => ?_
    · rw [VirtualPnlSnapshot.isAt_iff] at hRow
      rw [VirtualPnlSnapshot.isAt, VirtualPnlSnapshot.isAt, hRow.1, hRow.2]
    · rw [VirtualPnlSnapshot.isAt_iff] at hRow
      rw [VirtualPnlSnapshot.isAt, hRow.1, hRow.2, ← hOther, VirtualPnlSnapshot.isAt,
        Bool.beq_comm, Bool.beq_comm (a := snapshotDate)]
  own hSingle := by
    have hOld : old ∈ snapshotsAt snapshot.accountId snapshot.snapshotDate db :=
      List.mem_filter.mpr ⟨List.mem_of_find?_eq_some hFound, List.find?_some hFound⟩
    have hOne : (snapshotsAt snapshot.accountId snapshot.snapshotDate db).length = 1 :=
      Nat.le_antisymm hSingle (List.length_pos_of_mem hOld)
    obtain ⟨row, hRow⟩ := List.length_eq_one_iff.mp hOne
    exact filter_updateWhere_of_single hRow fun row _ => snapshot.isAt_self

theorem stored_createOrReplace {cash market realized unrealized : ℚ}
    (h : (VirtualPnlSnapshotRepository.createOrReplaceSnapshot accountId snapshotDate cash market
      realized unrealized).exec answer s = (.ok snapshot, t)) :
    snapshot.isAt accountId snapshotDate = true ∧ Stored s.view t.view snapshot := by
  rw [VirtualPnlSnapshotRepository.createOrReplaceSnapshot,
    VirtualPnlSnapshotRepository.getByAccountDate, Program.exec_query_bind] at h
  cases hFound : s.view.virtualPnlSnapshots.find?
      (VirtualPnlSnapshot.isAt accountId snapshotDate) with
  | none =>
    rw [hFound] at h
    cases h
    exact ⟨VirtualPnlSnapshot.isAt_iff.mpr ⟨rfl, rfl⟩, stored_insert s.view hFound⟩
  | some old =>
    rw [hFound] at h
    cases h
    exact ⟨VirtualPnlSnapshot.isAt_iff.mpr ⟨rfl, rfl⟩, stored_replace s.view hFound⟩

theorem stored_createDaily
    (h : (PnlTracker.createDailyPnlSnapshot accountId snapshotDate lookbackDays).exec answer s =
      (.ok snapshot, t)) :
    snapshot.isAt accountId snapshotDate = true ∧ Stored s.view t.view snapshot := by
  rw [PnlTracker.createDailyPnlSnapshot, VirtualAccountRepository.getById, Program.exec_query_bind] at h
  cases hFound : s.view.virtualAccounts.find? accountId with
  | none =>
    rw [hFound] at h
    cases h
  | some account =>
    rw [hFound] at h
    simp only at h
    rw [listByAccount, Program.exec_query_bind,
      Program.exec_bind_ok _ _ (PnlTracker.exec_totalUp ..)] at h
    exact stored_createOrReplace h

theorem SnapshotsApart.stored {before after : Database} (h : SnapshotsApart before)
    (hStored : Stored before after snapshot) : SnapshotsApart after := by
  intro accountId snapshotDate
  cases hAt : snapshot.isAt accountId snapshotDate with
  | false =>
    rw [hStored.others accountId snapshotDate hAt]
    exact h accountId snapshotDate
  | true =>
    obtain ⟨rfl, rfl⟩ := VirtualPnlSnapshot.isAt_iff.mp hAt
    rw [hStored.own (h _ _)]
    exact Nat.le_refl 1

/-- Neither the account's ledger nor the prices are snapshots. -/
theorem accounted_congr {initialCash : ℚ} {before after : Database}
    (h : FillCall.Accounted initialCash accountId snapshotDate lookbackDays before snapshot)
    (hBare : PaperJob.bare after = PaperJob.bare before) :
    FillCall.Accounted initialCash accountId snapshotDate lookbackDays after snapshot := by
  have hPositions := congrArg Database.virtualPositions hBare
  have hPrices : after.dailyPrices = before.dailyPrices := by
    have hSame := congrArg Database.dailyPrices hBare
    exact hSame
  have hOwn : positionsOf accountId after = positionsOf accountId before :=
    congrArg (List.filter _) hPositions
  have hUnpriced : isUnpriced snapshotDate lookbackDays after =
      isUnpriced snapshotDate lookbackDays before := by
    funext position
    have hClose : closeOf snapshotDate lookbackDays after position =
        closeOf snapshotDate lookbackDays before position := by
      rw [closeOf, closeOf, DailyPriceRepository.latestOnOrBefore, hPrices]
      rfl
    rw [isUnpriced, hClose, isUnpriced]
  constructor
  · rw [hOwn]
    exact h.realizedPnl
  · rw [hOwn, hUnpriced]
    exact h.totalValue

theorem accounted_of_exec {initialCash : ℚ} {db : Database} {account : VirtualAccount}
    (h : Conserved initialCash accountId db)
    (hFound : db.virtualAccounts.find? accountId = some account)
    (hTotal : snapshot.totalValue = account.cashBalance
      + ((positionsOf accountId db).map (marketValueOf snapshotDate lookbackDays db)).sum)
    (hRealized : snapshot.realizedPnl = ((positionsOf accountId db).map VirtualPosition.realizedPnl).sum)
    (hUnrealized : snapshot.unrealizedPnl =
      ((positionsOf accountId db).map (marketValueOf snapshotDate lookbackDays db)).sum
        - ((positionsOf accountId db).map (pricedBasis snapshotDate lookbackDays db)).sum) :
    FillCall.Accounted initialCash accountId snapshotDate lookbackDays db snapshot := by
  obtain ⟨stored, hStored, -, -, hIdentity, -⟩ := h.cash
  obtain rfl := Option.some.inj (hStored.symm.trans hFound)
  have hBasis := sum_costBasis snapshotDate lookbackDays db h.sound
  refine ⟨hRealized, ?_⟩
  rw [hTotal, hUnrealized, hRealized]
  linarith

/-- What a loop of snapshots leaves: one of this day for each of its accounts, which accounts for
its money, and what else there was. -/
structure Snapshotted (today : Int) (accounts : List VirtualAccount) (before after : Database) :
    Prop where
  bare : PaperJob.bare after = PaperJob.bare before
  apart : SnapshotsApart after
  others : ∀ accountId, accountId ∉ accounts.map VirtualAccount.id →
    snapshotsAt accountId today after = snapshotsAt accountId today before
  own : ∀ account ∈ accounts, ∃ snapshot, snapshotsAt account.id today after = [snapshot] ∧
    ∀ initialCash, Conserved initialCash account.id before →
      FillCall.Accounted initialCash account.id today 14 before snapshot

theorem exec_snapshotEach (answer : Answer) (s : DbSession) (today : Int)
    {accounts : List VirtualAccount}
    (hLoaded : ∀ account ∈ accounts,
      s.view.virtualAccounts.find? account.id = some account)
    (hNodup : (accounts.map VirtualAccount.id).Nodup) (hApart : SnapshotsApart s.view) :
    ∃ t, (PaperJob.snapshotEach today accounts).exec answer s = (.ok (accounts.length, []), t) ∧
      Snapshotted today accounts s.view t.view := by
  induction accounts generalizing s with
  | nil =>
    refine ⟨s, rfl, rfl, hApart, fun _ _ => rfl, fun account hMem => ?_⟩
    cases hMem
  | cons account rest ih =>
    rw [List.forall_mem_cons] at hLoaded
    rw [List.map_cons, List.nodup_cons] at hNodup
    obtain ⟨snapshot, u, hExec, -, hTotal, hRealized, hUnrealized⟩ :=
      exec_createDailyPnlSnapshot answer s today 14 hLoaded.1
    obtain ⟨hAt, hStored⟩ := stored_createDaily hExec
    obtain ⟨hAccount, hDate⟩ := VirtualPnlSnapshot.isAt_iff.mp hAt
    have hRest : ∀ next ∈ rest, u.view.virtualAccounts.find? next.id = some next := by
      intro next hNext
      have hAccounts := congrArg Database.virtualAccounts hStored.bare
      exact (congrArg (Table.find? · next.id) hAccounts).trans (hLoaded.2 next hNext)
    obtain ⟨t, hEach, hDone⟩ := ih u hRest hNodup.2 (hApart.stored hStored)
    refine ⟨t, ?_, hDone.bare.trans hStored.bare, hDone.apart, ?_, ?_⟩
    · rw [PaperJob.snapshotEach, Program.exec_bind_ok _ _ (Program.exec_attempt ..), hExec,
        Program.exec_bind_ok _ _ hEach]
      rfl
    · intro other hOther
      rw [List.map_cons, List.mem_cons, not_or] at hOther
      rw [hDone.others other hOther.2]
      refine hStored.others other today ?_
      rw [VirtualPnlSnapshot.isAt, hAccount, beq_eq_false_iff_ne.mpr (Ne.symm hOther.1), Bool.false_and]
    · rw [List.forall_mem_cons]
      constructor
      · refine ⟨snapshot, ?_, fun initialCash hConserved => ?_⟩
        · rw [hDone.others account.id hNodup.1, ← hAccount, ← hDate]
          exact hStored.own (hApart _ _)
        · exact accounted_of_exec hConserved hLoaded.1 hTotal hRealized hUnrealized
      · intro next hNext
        obtain ⟨own, hOwn, hAccounts⟩ := hDone.own next hNext
        refine ⟨own, hOwn, fun initialCash hConserved => ?_⟩
        have hLedger : SameLedger s.view u.view := sameLedger_of_bare hStored.bare
        exact accounted_congr (hAccounts initialCash (hConserved.congr hLedger)) hStored.bare.symm

end Snapshots

end PnlTracker

open PnlTracker

theorem PaperJob.exec_valued (job : PaperJob) {db : Database}
    (hGate : job.settings.paperTradingEnabled = true) (hApart : SnapshotsApart db) :
    ∃ t, (job.createPaperPnlSnapshot (job.accounts db)).exec unasked (.opened db) =
        (.ok (job.snapshotsWritten (job.accounts db).length []), t) ∧
      Snapshotted job.today (job.accounts db) db t.view := by
  have hPerm := job.arrange_perm (db.virtualAccounts.rows.filter VirtualAccount.paperTradingEnabled)
  have hLoaded : ∀ account ∈ job.accounts db,
      db.virtualAccounts.find? account.id = some account := by
    intro account hMem
    have hRow := List.mem_of_mem_filter (hPerm.subset hMem)
    exact (Table.find?_eq_some_iff _ _ _).mpr ⟨hRow, rfl⟩
  have hNodup : ((job.accounts db).map VirtualAccount.id).Nodup := by
    rw [PaperJob.accounts, (hPerm.map VirtualAccount.id).nodup_iff]
    exact db.virtualAccounts.nodup.sublist (List.filter_sublist.map _)
  obtain ⟨t, hEach, hDone⟩ :=
    exec_snapshotEach unasked (.opened db) job.today hLoaded hNodup hApart
  refine ⟨t, ?_, hDone⟩
  rw [PaperJob.createPaperPnlSnapshot, hGate]
  exact Program.exec_bind_ok _ _ hEach _

theorem PaperJob.valued_closed (job : PaperJob) (db : Database)
    (hGate : job.settings.paperTradingEnabled = false) : job.valued db = db := by
  rw [PaperJob.valued, PaperJob.createPaperPnlSnapshot, hGate]
  rfl

theorem snapshots_api (call : ApiCall) (db : Database) :
    (call.step db).virtualPnlSnapshots = db.virtualPnlSnapshots := by
  have hMoves := call.moves_step db
  generalize call.step db = after at hMoves ⊢
  cases hMoves with
  | stays => rfl
  | paper hRequest hPaper => cases hPaper <;> rfl
  | approval hRequest hCall hApproval =>
    cases hApproval with
    | stays call => rfl
    | created hCreated => rw [hCreated.wrote.frame]
    | approved hApproved => rw [hApproved.wrote.frame]
    | rejected hRejected => rw [hRejected.wrote.frame]
    | expired hExpired => rw [hExpired.wrote.frame]

theorem snapshots_executed (job : PaperJob) (db : Database) :
    (job.executed db).virtualPnlSnapshots = db.virtualPnlSnapshots := by
  have hRounds := (job.executed_cases db).1
  generalize job.executed db = after at hRounds
  induction hRounds with
  | refl => rfl
  | tail rounds round ih =>
    rw [← ih]
    obtain ⟨execution, order, outcome, hRound⟩ := round
    cases hRound with
    | skipped hSkipped hClose => rfl
    | rejected hClose hShort reason => rfl
    | filled hClose hApplied =>
      have hPaid := congrArg Database.virtualPnlSnapshots hApplied.frame
      exact hPaid

theorem apart_step (event : PaperEvent) {db : Database} (h : SnapshotsApart db) :
    SnapshotsApart (event.step db) := by
  cases event with
  | api call =>
    intro accountId snapshotDate
    rw [snapshotsAt, PaperEvent.step, snapshots_api]
    exact h accountId snapshotDate
  | executeJob job =>
    intro accountId snapshotDate
    rw [snapshotsAt, PaperEvent.step, snapshots_executed]
    exact h accountId snapshotDate
  | snapshotJob job =>
    cases hGate : job.settings.paperTradingEnabled with
    | false =>
      rw [PaperEvent.step, job.valued_closed db hGate]
      exact h
    | true =>
      obtain ⟨t, hExec, hDone⟩ := job.exec_valued hGate h
      rw [PaperEvent.step, PaperJob.valued, Program.atomically_of_ok hExec]
      exact hDone.apart

namespace PaperEvent

/-- Whatever is requested of either API and however often the jobs run in between: what an account
holds of a symbol is what its filled orders in it add up to, never less than nothing, its cash
balances, and every order has its fill exactly if it is filled. -/
theorem ledger_run (events : List PaperEvent) (initialCash : ℚ) (accountId : Nat) (db : Database)
    (hNew : FillCall.Untouched initialCash accountId db) (hOneFill : OneFill db) :
    Conserved initialCash accountId (run step events db) ∧ OneFill (run step events db) ∧
      ∀ symbol, (run step events db).holding accountId symbol =
          (run step events db).sharesOrdered accountId symbol .buy
            - (run step events db).sharesOrdered accountId symbol .sell ∧
        0 ≤ (run step events db).holding accountId symbol := by
  have hConserved := run_invariant (Conserved initialCash accountId)
    (fun event _ h => h.step event) events hNew.conserved
  have hOrders := run_invariant OneFill (fun event _ h => h.step event) events hOneFill
  refine ⟨hConserved, hOrders, fun symbol => ⟨?_, ?_⟩⟩
  · rw [hConserved.holding symbol, hOrders.sharesOf_eq, hOrders.sharesOf_eq]
  · rw [Database.holding]
    cases hHeld : findAt accountId symbol (run step events db) with
    | none => exact Int.le_refl 0
    | some position =>
      have hAt := VirtualPosition.isAt_iff.mp (List.find?_some hHeld)
      have hOwn : position ∈ positionsOf accountId (run step events db) :=
        List.mem_filter.mpr ⟨List.mem_of_find?_eq_some hHeld, beq_iff_eq.mpr hAt.1⟩
      exact (hConserved.sound position hOwn).quantity

def pricedDatabase : Database := { fundedDatabase with dailyPrices := [.flat "005930" 0 70000] }

theorem fourShares_pos : (0 : Int) < 4 := by decide

theorem hundredShares_pos : (0 : Int) < 100 := by decide

theorem symbol_ok : "005930" ≠ "" ∧ "005930".length ≤ 32 := by decide

def samsungOrder (side : Side) (quantity : Int) (hQuantity : 0 < quantity) : CreatePaperOrderRequest where
  symbol := "005930"
  side := side
  quantity := quantity
  accountId := some 1
  symbol_ok := symbol_ok
  quantity_pos := hQuantity
  limitPrice_pos := unpriced
  idempotencyKey_short := unkeyed
  note_short := unnoted

def closingJob : PaperJob where
  settings := paperSettings
  today := 0
  filledAt := fun _ => 0
  arrange := id
  arrange_perm _ := List.Perm.refl _

/-- Ten shares bought, and four of them sold; a hundred are too many to sell. -/
def tradingDays : List PaperEvent :=
  [.api ⟨paperSettings, .inl (.create (samsungOrder .buy 10 tenShares_pos) 1)⟩,
    .executeJob closingJob,
    .snapshotJob closingJob,
    .api ⟨paperSettings, .inl (.create (samsungOrder .sell 100 hundredShares_pos) 1)⟩,
    .api ⟨paperSettings, .inl (.create (samsungOrder .sell 4 fourShares_pos) 1)⟩,
    .executeJob closingJob]

theorem ledger_run_tradingDays :
    (run step tradingDays pricedDatabase).holding 1 "005930" = 6 ∧
      (run step tradingDays pricedDatabase).sharesOrdered 1 "005930" .buy = 10 ∧
      Conserved 1000000 1 (run step tradingDays pricedDatabase) := by
  have hNew : FillCall.Untouched 1000000 1 pricedDatabase :=
    ⟨⟨_, rfl, rfl, rfl⟩, by decide +kernel, rfl, rfl⟩
  have hOneFill : OneFill pricedDatabase := by
    constructor
    · intro order hOrder
      cases hOrder
    · intro fill hFill
      cases hFill
  exact ⟨by decide +kernel, by decide +kernel,
    (ledger_run tradingDays 1000000 1 pricedDatabase hNew hOneFill).1⟩

/-- After any run, a snapshot job with its gate open succeeds for every account, and leaves an
account that is traded one snapshot of the day, which accounts for the money the account started
with. -/
theorem snapshot_run (events : List PaperEvent) (job : PaperJob) (initialCash : ℚ)
    (account : VirtualAccount) (db : Database)
    (hNew : FillCall.Untouched initialCash account.id db) (hApart : SnapshotsApart db)
    (hGate : job.settings.paperTradingEnabled = true)
    (hFound : (run step events db).virtualAccounts.find? account.id = some account)
    (hTraded : account.paperTradingEnabled = true) :
    ((job.createPaperPnlSnapshot (job.accounts (run step events db))).exec unasked
        (.opened (run step events db))).1 =
      .ok (job.snapshotsWritten (job.accounts (run step events db)).length []) ∧
    ∃ snapshot, snapshotsAt account.id job.today (job.valued (run step events db)) = [snapshot] ∧
      FillCall.Accounted initialCash account.id job.today 14 (job.valued (run step events db))
        snapshot := by
  have hConserved := run_invariant (Conserved initialCash account.id)
    (fun event _ h => h.step event) events hNew.conserved
  have hReached := run_invariant SnapshotsApart (fun event _ h => apart_step event h) events hApart
  generalize run step events db = reached at hFound hConserved hReached ⊢
  obtain ⟨t, hExec, hDone⟩ := job.exec_valued hGate hReached
  have hMem : account ∈ job.accounts reached :=
    (job.arrange_perm _).symm.subset (List.mem_filter.mpr ⟨Table.mem_of_find? hFound, hTraded⟩)
  obtain ⟨snapshot, hOwn, hAccounts⟩ := hDone.own account hMem
  rw [PaperJob.valued, Program.atomically_of_ok hExec, hExec]
  exact ⟨rfl, snapshot, hOwn, accounted_congr (hAccounts initialCash hConserved) hDone.bare⟩

/-- The snapshot of the first evening is replaced. -/
theorem snapshot_run_tradingDays :
    (snapshotsAt 1 0 (run step tradingDays pricedDatabase)).length = 1 ∧
      ∃ snapshot, snapshotsAt 1 0 (closingJob.valued (run step tradingDays pricedDatabase)) =
          [snapshot] ∧
        FillCall.Accounted 1000000 1 0 14 (closingJob.valued (run step tradingDays pricedDatabase))
          snapshot := by
  have hSome : ((run step tradingDays pricedDatabase).virtualAccounts.find? 1).any
      VirtualAccount.paperTradingEnabled = true := by decide +kernel
  obtain ⟨account, hFound, hTraded⟩ := (Option.any_eq_true _ _).mp hSome
  have hId : account.id = 1 := Table.key_of_find? hFound
  have hNew : FillCall.Untouched 1000000 account.id pricedDatabase := by
    rw [hId]
    exact ⟨⟨_, rfl, rfl, rfl⟩, by decide +kernel, rfl, rfl⟩
  have hApart : SnapshotsApart pricedDatabase := fun _ _ => Nat.zero_le 1
  have hClosed := snapshot_run tradingDays closingJob 1000000 account pricedDatabase hNew hApart rfl
    (hId.symm ▸ hFound) hTraded
  rw [hId] at hClosed
  exact ⟨by decide +kernel, hClosed.2⟩

end PaperEvent

end StockAiPlatform
