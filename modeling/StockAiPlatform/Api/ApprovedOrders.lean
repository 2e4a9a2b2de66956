import StockAiPlatform.Api.PaperRoutes

/-! # The approved order is the order placed

Both route modules insert paper orders. An approve submits under a key made
from its candidate's id, and takes the order it finds under that key for its
own. As long as it finds none, the order it links is the one it asked for.
-/

namespace StockAiPlatform
set_option autoImplicit false

open Transaction Python

/-- A request of either API, each under the settings of its moment. -/
structure ApiCall where
  settings : Settings
  request : PaperRequest ⊕ ApprovalRequest

namespace ApiCall

def step (call : ApiCall) (db : Database) : Database :=
  match call.request with
  | .inl request => request.step call.settings db
  | .inr request => request.step call.settings db

def approves (call : ApiCall) (candidateId : Nat) : Bool :=
  match call.request with
  | .inr (.approve k _ _) => k == candidateId
  | .inr (.create ..) | .inr (.reject ..) | .inr (.expire ..) | .inl _ => false

/-- An approve meets its candidate pending only if no order of the account is stored under the
key it is about to use. -/
def Unclaimed (call : ApiCall) (db : Database) : Prop :=
  ∀ candidate ∈ db.orderCandidates.rows, call.approves candidate.id = true →
    candidate.status = .pendingApproval →
    VirtualOrderRepository.findByKey candidate.accountId
      (ApprovalService.idempotencyKey candidate.id) db.virtualOrders = none

/-- What the call does to the store, and which table it does not touch. -/
inductive Moves (before : Database) (call : ApiCall) : Database → Prop where
  | stays : Moves before call before
  | paper {request : PaperRequest} {after : Database} (hRequest : call.request = .inl request)
      (h : PaperRequest.Moves before request after) : Moves before call after
  | approval {request : ApprovalRequest} {serviceCall : ApprovalCall} {after : Database}
      (hRequest : call.request = .inr request) (hCall : request.call? before = some serviceCall)
      (h : ApprovalCall.Moves (.ofSettings call.settings) before serviceCall after) :
      Moves before call after

theorem moves_step (call : ApiCall) (db : Database) : Moves db call (call.step db) := by
  rw [step]
  cases hRequest : call.request with
  | inl request => exact .paper hRequest (request.moves_step call.settings db)
  | inr request =>
    simp only
    cases hGates : request.gatesOpen call.settings with
    | false =>
      rw [ApprovalRequest.step_closed db hGates]
      exact .stays
    | true =>
      rw [ApprovalRequest.step_open db hGates]
      cases hCall : request.call? db with
      | none => exact .stays
      | some serviceCall =>
        exact .approval hRequest hCall (ApprovalCall.moves_step _ serviceCall db)

end ApiCall

/-- The store, and for every paper order the request that inserted it. -/
structure OrderWatch where
  db : Database
  placedBy : Nat → Option ApiCall

namespace OrderWatch

/-- The orders that are new in `after` are booked on the call. -/
def advance (w : OrderWatch) (call : ApiCall) (after : Database) : OrderWatch where
  db := after
  placedBy orderId :=
    if (w.db.virtualOrders.find? orderId).isNone && (after.virtualOrders.find? orderId).isSome then
      some call
    else w.placedBy orderId

def watch (call : ApiCall) (w : OrderWatch) : OrderWatch := w.advance call (call.step w.db)

structure SameTerms (candidate : OrderCandidate) (order : VirtualOrder) : Prop where
  accountId : order.accountId = candidate.accountId
  symbol : order.symbol = candidate.symbol
  side : order.side = candidate.side
  quantity : order.quantity = candidate.quantity
  orderType : order.orderType = candidate.orderType
  limitPrice : order.limitPrice = candidate.limitPrice

instance (candidate : OrderCandidate) (order : VirtualOrder) : Decidable (SameTerms candidate order) :=
  decidable_of_iff (order.accountId = candidate.accountId ∧ order.symbol = candidate.symbol ∧
      order.side = candidate.side ∧ order.quantity = candidate.quantity ∧
      order.orderType = candidate.orderType ∧ order.limitPrice = candidate.limitPrice)
    ⟨fun ⟨a, b, c, d, e, f⟩ => ⟨a, b, c, d, e, f⟩, fun ⟨a, b, c, d, e, f⟩ => ⟨a, b, c, d, e, f⟩⟩

/-- Every executed candidate is linked to an order on its own terms, which no other candidate is
linked to and which an approve of this candidate inserted. -/
def PlacedAsApproved (w : OrderWatch) : Prop :=
  ∀ candidate ∈ w.db.orderCandidates.rows, candidate.status = .executedPaper →
    ∃ order ∈ w.db.virtualOrders.rows, candidate.virtualOrderId = some order.id ∧
      SameTerms candidate order ∧
      (∀ other ∈ w.db.orderCandidates.rows, other.virtualOrderId = some order.id →
        other.id = candidate.id) ∧
      (w.placedBy order.id).any (·.approves candidate.id) = true

def Linked (w : OrderWatch) (candidate : OrderCandidate) : Prop :=
  ∀ orderId, candidate.virtualOrderId = some orderId →
    ∃ order, w.db.virtualOrders.find? orderId = some order ∧ SameTerms candidate order ∧
      (w.placedBy orderId).any (·.approves candidate.id) = true

/-- A candidate has a link exactly once it is executed. -/
structure AllLinked (w : OrderWatch) : Prop where
  status : ∀ candidate ∈ w.db.orderCandidates.rows,
    candidate.virtualOrderId.isSome = true ↔ candidate.status = .executedPaper
  linked : ∀ candidate ∈ w.db.orderCandidates.rows, w.Linked candidate

theorem approves_unique {call : ApiCall} {j k : Nat} (hj : call.approves j = true)
    (hk : call.approves k = true) : j = k := by
  unfold ApiCall.approves at hj hk
  split at hj
  · rename_i h
    rw [h] at hk
    exact (beq_iff_eq.mp hj).symm.trans (beq_iff_eq.mp hk)
  all_goals cases hj

theorem AllLinked.placedAsApproved {w : OrderWatch} (h : w.AllLinked) : w.PlacedAsApproved := by
  intro candidate hMem hExecuted
  obtain ⟨orderId, hLink⟩ := Option.isSome_iff_exists.mp ((h.status candidate hMem).mpr hExecuted)
  obtain ⟨order, hFound, hTerms, hPlaced⟩ := h.linked candidate hMem orderId hLink
  obtain ⟨hOrder, rfl⟩ := (Table.find?_eq_some_iff _ _ _).mp hFound
  refine ⟨order, hOrder, hLink, hTerms, ?_, hPlaced⟩
  intro other hOther hOtherLink
  obtain ⟨-, -, -, hOtherPlaced⟩ := h.linked other hOther _ hOtherLink
  obtain ⟨call, hCall, hApproves⟩ := (Option.any_eq_true _ _).mp hPlaced
  obtain ⟨call', hCall', hApproves'⟩ := (Option.any_eq_true _ _).mp hOtherPlaced
  obtain rfl := Option.some.inj (hCall.symm.trans hCall')
  exact approves_unique hApproves' hApproves

def OrdersKept (before after : Table VirtualOrder) : Prop :=
  ∀ orderId order, before.find? orderId = some order → ∃ kept, after.find? orderId = some kept ∧
    ∀ candidate, SameTerms candidate order → SameTerms candidate kept

theorem ordersKept_refl (orders : Table VirtualOrder) : OrdersKept orders orders :=
  fun _ order hFound => ⟨order, hFound, fun _ h => h⟩

theorem ordersKept_insert (orders : Table VirtualOrder) (order : VirtualOrder) :
    OrdersKept orders (orders.insert order) :=
  fun _ kept hFound => ⟨kept, Table.find?_insert_of_some hFound, fun _ h => h⟩

theorem ordersKept_modify (orders : Table VirtualOrder) (k : Nat) {change : VirtualOrder → VirtualOrder}
    (hId : ∀ order, (change order).id = order.id)
    (hTerms : ∀ candidate order, SameTerms candidate order → SameTerms candidate (change order)) :
    OrdersKept orders (orders.modify k change hId) := by
  intro orderId order hFound
  refine ⟨if orderId = k then change order else order, ?_, ?_⟩
  · rw [Table.find?_modify, hFound, Option.map_some]
  · intro candidate hSame
    split
    · exact hTerms candidate order hSame
    · exact hSame

section Advance

variable {w : OrderWatch} {call : ApiCall} {after : Database} {candidate : OrderCandidate}

theorem Linked.advance (h : w.Linked candidate)
    (hKept : OrdersKept w.db.virtualOrders after.virtualOrders) :
    (w.advance call after).Linked candidate := by
  intro orderId hLink
  obtain ⟨order, hFound, hTerms, hPlaced⟩ := h orderId hLink
  obtain ⟨kept, hAfter, hSame⟩ := hKept orderId order hFound
  refine ⟨kept, hAfter, hSame candidate hTerms, ?_⟩
  simp only [OrderWatch.advance, hFound, Option.isNone_some, Bool.false_and, Bool.false_eq_true,
    if_false]
  exact hPlaced

/-- What a step may leave in a row: nothing new, no link, or the link of an execution. -/
theorem AllLinked.advance (h : w.AllLinked)
    (hKept : OrdersKept w.db.virtualOrders after.virtualOrders)
    (hRows : ∀ candidate ∈ after.orderCandidates.rows, candidate ∈ w.db.orderCandidates.rows ∨
      (candidate.virtualOrderId = none ∧ candidate.status ≠ .executedPaper) ∨
      (candidate.virtualOrderId.isSome = true ∧ candidate.status = .executedPaper ∧
        (w.advance call after).Linked candidate)) : (w.advance call after).AllLinked := by
  constructor
  · intro candidate hMem
    rcases hRows candidate hMem with hOld | ⟨hNone, hStatus⟩ | ⟨hSome, hStatus, -⟩
    · exact h.status candidate hOld
    · rw [hNone]
      exact iff_of_false Bool.false_ne_true hStatus
    · exact iff_of_true hSome hStatus
  · intro candidate hMem
    rcases hRows candidate hMem with hOld | ⟨hNone, -⟩ | ⟨-, -, hLinked⟩
    · exact (h.linked candidate hOld).advance hKept
    · intro orderId hLink
      rw [hNone] at hLink
      cases hLink
    · exact hLinked

/-- A decision that takes a pending candidate elsewhere than to an execution. -/
theorem AllLinked.advance_decided (h : w.AllLinked)
    (hFound : w.db.orderCandidates.find? candidate.id = some candidate)
    (hPending : candidate.status = .pendingApproval) {change : OrderCandidate → OrderCandidate}
    {hId : ∀ candidate, (change candidate).id = candidate.id}
    (hStatus : (change candidate).status ≠ .executedPaper)
    (hLink : (change candidate).virtualOrderId = candidate.virtualOrderId)
    (hOrders : after.virtualOrders = w.db.virtualOrders)
    (hCandidates : after.orderCandidates = w.db.orderCandidates.modify candidate.id change hId) :
    (w.advance call after).AllLinked := by
  have hNone : candidate.virtualOrderId = none := by
    by_contra hSome
    have hExecuted := (h.status candidate (Table.mem_of_find? hFound)).mp
      (Option.isSome_iff_ne_none.mpr hSome)
    rw [hPending] at hExecuted
    cases hExecuted
  refine h.advance (hOrders ▸ ordersKept_refl _) ?_
  intro other hOther
  rw [hCandidates] at hOther
  rcases Table.mem_rows_modify.mp hOther with ⟨old, hOld, hKey, rfl⟩ | ⟨hOld, -⟩
  · have hSame := (Table.find?_eq_some_iff _ _ _).mpr ⟨hOld, hKey⟩
    obtain rfl := Option.some.inj (hFound.symm.trans hSame)
    exact .inr (.inl ⟨hLink.trans hNone, hStatus⟩)
  · exact .inl hOld

theorem AllLinked.advance_created {service : ApprovalService} {createCall : ApprovalService.CreateCall}
    {riskResult : RiskCheckResult} (h : w.AllLinked)
    (hCreated : ApprovalService.Created service createCall w.db after candidate riskResult) :
    (w.advance call after).AllLinked := by
  refine h.advance (hCreated.wrote.orders ▸ ordersKept_refl _) ?_
  have hKey : (ApprovalService.decided riskResult candidate).id = w.db.orderCandidates.nextKey := by
    obtain ⟨checked, -, rfl⟩ := hCreated.row
    exact ApprovalCall.decided_id riskResult _
  intro other hOther
  rw [hCreated.wrote.candidates, Table.rows_insert_of_key_eq hKey, List.mem_append,
    List.mem_singleton] at hOther
  rcases hOther with hOld | rfl
  · exact .inl hOld
  · refine .inr (.inl ⟨?_, ?_⟩)
    · rw [ApprovalCall.decided_virtualOrderId]
      obtain ⟨checked, -, rfl⟩ := hCreated.row
      rfl
    · rw [ApprovalCall.decided_status]
      split <;> simp

/-- An approve that found no order under its key has inserted the one it links. -/
theorem AllLinked.advance_approved {service : ApprovalService} {actor : ApprovalActor} {now : Int}
    {order : VirtualOrder} (h : w.AllLinked)
    (hApproved : ApprovalService.Approved service actor now w.db after candidate order)
    (hCall : call.approves candidate.id = true)
    (hUnclaimed : VirtualOrderRepository.findByKey candidate.accountId
      (ApprovalService.idempotencyKey candidate.id) w.db.virtualOrders = none) :
    (w.advance call after).AllLinked := by
  rcases hApproved.submitted.wrote with ⟨key, hKey, hFound, -⟩ | ⟨-, ⟨checked, hChecked, hStored⟩, hAfter⟩
  · cases hKey
    exact absurd (hFound.symm.trans hUnclaimed) (by simp)
  have hOrdered := SimulationBroker.validate_ok hChecked
  have hId : order.id = w.db.virtualOrders.nextKey := by
    rw [hStored]
    rfl
  have hNew : w.db.virtualOrders.find? order.id = none := hId ▸ Table.find?_nextKey _
  have hThere : after.virtualOrders.find? order.id = some order := by
    rw [hAfter]
    exact Table.find?_insert_of_key_eq hId
  have hTerms : SameTerms candidate order := by
    rw [hStored]
    exact ⟨hOrdered.accountId, hOrdered.symbol, Side.value_injective hOrdered.side,
      hOrdered.quantity, OrderType.value_injective hOrdered.orderType, hOrdered.limitPrice⟩
  refine h.advance (hAfter ▸ ordersKept_insert _ order) ?_
  intro other hOther
  rw [hApproved.wrote.candidates] at hOther
  rcases Table.mem_rows_modify.mp hOther with ⟨old, hOld, hKey, rfl⟩ | ⟨hOld, -⟩
  · have hSame := (Table.find?_eq_some_iff _ _ _).mpr ⟨hOld, hKey⟩
    obtain rfl := Option.some.inj (hApproved.found.symm.trans hSame)
    refine .inr (.inr ⟨rfl, rfl, ?_⟩)
    intro orderId hLink
    cases hLink
    refine ⟨order, hThere, ⟨hTerms.accountId, hTerms.symbol, hTerms.side, hTerms.quantity,
      hTerms.orderType, hTerms.limitPrice⟩, ?_⟩
    simp only [OrderWatch.advance, hNew, hThere, Option.isNone_none, Option.isSome_some,
      Bool.and_self, if_true]
    exact hCall
  · exact .inl hOld

end Advance

theorem approves_of_call? {request : ApprovalRequest} {call : ApiCall} {db : Database}
    {candidateId : Nat} {actor : ApprovalActor} {now : Int} (hRequest : call.request = .inr request)
    (hCall : request.call? db = some (.approve candidateId actor now)) :
    call.approves candidateId = true := by
  rw [ApiCall.approves, hRequest]
  cases request with
  | create payload caller now createdAt upper =>
    obtain ⟨account, -, hCreate⟩ := Option.map_eq_some_iff.mp hCall
    cases hCreate
  | approve k caller time =>
    cases hCall
    exact beq_self_eq_true candidateId
  | reject k caller reason => cases hCall
  | expire k caller => cases hCall

theorem allLinked_watch {call : ApiCall} {w : OrderWatch} (h : w.AllLinked)
    (hUnclaimed : call.Unclaimed w.db) : (watch call w).AllLinked := by
  have hMoves := call.moves_step w.db
  rw [watch]
  generalize call.step w.db = after at hMoves ⊢
  cases hMoves with
  | stays => exact h.advance (ordersKept_refl _) fun _ hMem => .inl hMem
  | paper hRequest hPaper =>
    cases hPaper with
    | stays request => exact h.advance (ordersKept_refl _) fun _ hMem => .inl hMem
    | created hChecked => exact h.advance (ordersKept_insert _ _) fun _ hMem => .inl hMem
    | canceled hFound hCancelable =>
      refine h.advance ?_ fun _ hMem => .inl hMem
      apply ordersKept_modify
      · exact fun _ => rfl
      · intro candidate order hTerms
        exact ⟨hTerms.accountId, hTerms.symbol, hTerms.side, hTerms.quantity, hTerms.orderType,
          hTerms.limitPrice⟩
  | approval hRequest hCall hApproval =>
    cases hApproval with
    | stays serviceCall => exact h.advance (ordersKept_refl _) fun _ hMem => .inl hMem
    | created hCreated => exact h.advance_created hCreated
    | approved hApproved =>
      have hApproves := approves_of_call? hRequest hCall
      exact h.advance_approved hApproved hApproves
        (hUnclaimed _ (Table.mem_of_find? hApproved.found) hApproves hApproved.pending)
    | rejected hRejected =>
      exact h.advance_decided hRejected.found hRejected.pending (by simp [OrderCandidateRepository.withStatus])
        rfl hRejected.wrote.orders hRejected.wrote.candidates
    | expired hExpired =>
      exact h.advance_decided hExpired.found hExpired.pending (by simp [OrderCandidateRepository.withStatus])
        rfl hExpired.wrote.orders hExpired.wrote.candidates

/-- From a store without candidates, through requests of both APIs in any order: as long as no
approve meets its key in use, every executed candidate has the order that was approved. -/
theorem placedAsApproved_run (calls : List ApiCall) (w : OrderWatch)
    (hStart : w.db.orderCandidates.rows = [])
    (hUnclaimed : Along watch (fun call w => call.Unclaimed w.db) calls w) :
    (run watch calls w).PlacedAsApproved := by
  refine AllLinked.placedAsApproved (hUnclaimed.invariant AllLinked
    (fun call w hCall h => allLinked_watch h hCall) ?_)
  constructor
  · rw [hStart]
    intro candidate hMem
    cases hMem
  · rw [hStart]
    intro candidate hMem
    cases hMem

end OrderWatch

/-! ## Clients that keep away from the keys of approvals -/

namespace ApiCall

/-- The client's key is none that an approve could use. -/
def KeepsAway (call : ApiCall) : Prop :=
  ∀ payload userId, call.request = .inl (.create payload userId) →
    ∀ candidateId, payload.idempotencyKey ≠ some (ApprovalService.idempotencyKey candidateId)

/-- An order under the key of an approval belongs to a candidate that is executed. -/
def KeysOwned (db : Database) : Prop :=
  ∀ order ∈ db.virtualOrders.rows, ∀ candidateId,
    order.idempotencyKey = some (ApprovalService.idempotencyKey candidateId) →
    db.statusOf candidateId = some .executedPaper

theorem unclaimed_of_keysOwned {db : Database} (h : KeysOwned db) (call : ApiCall) :
    call.Unclaimed db := by
  intro candidate hMem hApproves hPending
  rw [VirtualOrderRepository.findByKey, List.find?_eq_none]
  intro order hOrder hKey
  have hOwned := h order hOrder candidate.id
    (beq_iff_eq.mp (Bool.and_eq_true_iff.mp hKey).2)
  have hFound : db.orderCandidates.find? candidate.id = some candidate :=
    (Table.find?_eq_some_iff _ _ _).mpr ⟨hMem, rfl⟩
  rw [Database.statusOf, hFound, Option.map_some, hPending] at hOwned
  cases hOwned

theorem KeysOwned.paper {before after : Database} {request : PaperRequest} (h : KeysOwned before)
    (hAway : ∀ payload userId, request = .create payload userId → ∀ candidateId,
      payload.idempotencyKey ≠ some (ApprovalService.idempotencyKey candidateId))
    (hMoves : PaperRequest.Moves before request after) : KeysOwned after := by
  cases hMoves with
  | stays request => exact h
  | created hChecked =>
    rename_i payload userId accountId checked
    have hOrdered := SimulationBroker.validate_ok hChecked
    intro order hOrder candidateId hKey
    have hRows := Table.rows_insert_of_key_eq (t := before.virtualOrders)
      (a := VirtualOrderRepository.rowOf checked.draft before.virtualOrders.nextKey
        checked.quantity_pos checked.limitPrice_ok) rfl
    rw [Database.insertVirtualOrder, hRows, List.mem_append, List.mem_singleton] at hOrder
    rcases hOrder with hOld | rfl
    · exact h order hOld candidateId hKey
    · exact absurd (hOrdered.idempotencyKey.symm.trans hKey) (hAway payload userId rfl candidateId)
  | canceled hFound hCancelable =>
    intro order hOrder candidateId hKey
    obtain ⟨old, hOld, rfl⟩ := List.mem_map.mp hOrder
    refine h old hOld candidateId ?_
    split at hKey
    · exact hKey
    · exact hKey

theorem KeysOwned.approval {service : ApprovalService} {before after : Database}
    {serviceCall : ApprovalCall} (h : KeysOwned before)
    (hMoves : ApprovalCall.Moves service before serviceCall after) : KeysOwned after := by
  have hStays : ∀ order ∈ before.virtualOrders.rows, ∀ candidateId,
      order.idempotencyKey = some (ApprovalService.idempotencyKey candidateId) →
      after.statusOf candidateId = some .executedPaper :=
    fun order hOrder candidateId hKey =>
      hMoves.statusOf_of_settled (h order hOrder candidateId hKey) (by simp)
  intro order hOrder candidateId hKey
  cases hMoves with
  | stays call => exact hStays order hOrder candidateId hKey
  | created hCreated => exact hStays order (hCreated.wrote.orders ▸ hOrder) candidateId hKey
  | rejected hRejected => exact hStays order (hRejected.wrote.orders ▸ hOrder) candidateId hKey
  | expired hExpired => exact hStays order (hExpired.wrote.orders ▸ hOrder) candidateId hKey
  | approved hApproved =>
    rcases hApproved.submitted.wrote with ⟨-, -, -, hAfter⟩ | ⟨-, ⟨checked, hChecked, hStored⟩, hAfter⟩
    · exact hStays order (hAfter ▸ hOrder) candidateId hKey
    · have hId := congrArg VirtualOrder.id hStored
      rw [hAfter, Table.rows_insert_of_key_eq hId, List.mem_append, List.mem_singleton] at hOrder
      rcases hOrder with hOld | rfl
      · exact hStays order hOld candidateId hKey
      · have hOwn := (SimulationBroker.validate_ok hChecked).idempotencyKey
        rw [hStored] at hKey
        obtain rfl := ApprovalService.idempotencyKey_injective
          (Option.some.inj (hOwn.symm.trans hKey))
        exact ApprovalCall.statusOf_modify_self hApproved.found hApproved.wrote.candidates

theorem keysOwned_step {call : ApiCall} {db : Database} (hAway : call.KeepsAway)
    (h : KeysOwned db) : KeysOwned (call.step db) := by
  have hMoves := call.moves_step db
  generalize call.step db = after at hMoves ⊢
  cases hMoves with
  | stays => exact h
  | paper hRequest hPaper =>
    refine h.paper ?_ hPaper
    rintro payload userId rfl
    exact hAway payload userId hRequest
  | approval hRequest hCall hApproval => exact h.approval hApproval

/-- Through clients that keep away from these keys no approve ever meets its key in use. -/
theorem unclaimed_of_keepsAway {calls : List ApiCall} (hAway : ∀ call ∈ calls, call.KeepsAway)
    {w : OrderWatch} (hOrders : w.db.virtualOrders.rows = []) :
    Along OrderWatch.watch (fun call w => call.Unclaimed w.db) calls w := by
  have hStart : KeysOwned w.db := by
    rw [KeysOwned, hOrders]
    intro order hOrder
    cases hOrder
  have hCongr : Along OrderWatch.watch (fun call _ => call.KeepsAway) calls w ↔
      Along OrderWatch.watch (fun call w => call.Unclaimed w.db) calls w :=
    along_congr (fun w : OrderWatch => KeysOwned w.db)
      (fun call hCall w h => iff_of_true (hAway call hCall) (unclaimed_of_keysOwned h call))
      (fun call _ w hCall h => keysOwned_step hCall h) hStart
  exact hCongr.mp (Along.of_forall (fun call hCall _ => hAway call hCall) w)

end ApiCall

section Samples

def clientOrder (idempotencyKey : Option String)
    (hKey : ∀ key ∈ idempotencyKey, key.length ≤ 64) : CreatePaperOrderRequest where
  symbol := "000660"
  side := .sell
  quantity := 5
  idempotencyKey := idempotencyKey
  symbol_ok := by decide
  quantity_pos := by decide
  limitPrice_pos := unpriced
  idempotencyKey_short := hKey
  note_short := by simp

def orderThenApprove (payload : CreatePaperOrderRequest) : List ApiCall :=
  [⟨paperSettings, .inl (.create payload 1)⟩,
    ⟨paperSettings, .inr (.create candidateBody { userId := 1 } 0 0 id)⟩,
    ⟨paperSettings, .inr (.approve 1 { userId := 1 } 0)⟩]

def unplaced : OrderWatch where
  db := fundedDatabase
  placedBy := fun _ => none

def keylessOrder : CreatePaperOrderRequest := clientOrder none (by simp)

def claimingOrder : CreatePaperOrderRequest := clientOrder (some "approval-1") (by decide)

theorem placedAsApproved_keylessOrder :
    (run OrderWatch.watch (orderThenApprove keylessOrder) unplaced).PlacedAsApproved :=
  OrderWatch.placedAsApproved_run _ unplaced rfl (ApiCall.unclaimed_of_keepsAway
    (by simp [orderThenApprove, ApiCall.KeepsAway, keylessOrder, clientOrder]) rfl)

/-- The candidate counts as executed and is linked to the client's order. -/
theorem claimingOrder_linked :
    unplaced.db.orderCandidates.rows = [] ∧ unplaced.db.virtualOrders.rows = [] ∧
      ¬ (run OrderWatch.watch (orderThenApprove claimingOrder) unplaced).PlacedAsApproved := by
  refine ⟨rfl, rfl, ?_⟩
  unfold OrderWatch.PlacedAsApproved
  decide +kernel

end Samples

end StockAiPlatform
