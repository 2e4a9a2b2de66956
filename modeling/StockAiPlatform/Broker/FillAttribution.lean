import StockAiPlatform.Broker.FillConsistency
import StockAiPlatform.Python.Hashlib

/-! # Fills are credited by the number that was asked for

The broker answers for the number it is asked about. That the number is the
order's own is checked nowhere: the hash stored with an order is read by no
sync.
-/

namespace StockAiPlatform
set_option autoImplicit false

open Transaction Python

structure BrokerRecord where
  ordered : Nat
  executed : Nat
  deriving DecidableEq, Repr

abbrev BrokerBook := String → BrokerRecord

namespace HttpxKisOrderTransport

/-- The quantities of an order record, where the body has one, are those the book holds. -/
def Tells (record : BrokerRecord) : HttpOutcome WireJson → Prop
  | .response _ (some (.dict payload)) => ∀ fields, recordOf payload = some fields →
      quantityOf "ord_qty" fields = record.ordered ∧
      quantityOf "tot_ccld_qty" fields = record.executed
  | _ => True

/-- The executed quantity is passed on as it is, and FILLED means all that the broker holds. -/
structure Faithful (record : BrokerRecord) (response : KisFillStatusResult) : Prop where
  filled : response.status = .filled → response.filledQuantity = record.executed ∧
    0 < record.executed ∧ record.ordered ≤ record.executed
  partiallyFilled : response.status = .partiallyFilled →
    response.filledQuantity = record.executed

variable {record : BrokerRecord}

theorem faithful_of_pending {response : KisFillStatusResult} (h : response.status = .pending) :
    Faithful record response := by
  constructor <;> simp [h]

theorem faithful_readRecord {fields : List (Str × WireJson)}
    (hOrdered : quantityOf "ord_qty" fields = record.ordered)
    (hExecuted : quantityOf "tot_ccld_qty" fields = record.executed) (orderNo : String)
    (msg1 : Str) : Faithful record (readRecord orderNo msg1 fields) := by
  constructor
  · intro hStatus
    simp only [readRecord, fillClass, hOrdered, hExecuted] at hStatus
    split_ifs at hStatus with hRejected hCanceled hFull hPartial hNone
    · cases hStatus
    · cases hStatus
    · exact ⟨hExecuted, by omega, by omega⟩
    · cases hStatus
    · cases hStatus
    · cases hStatus
  · intro _
    exact hExecuted

theorem faithful_classifyFillResponse {statusCode : Nat} {body : Option WireJson}
    (h : Tells record (.response statusCode body)) (orderNo : String) :
    Faithful record (classifyFillResponse statusCode body orderNo) := by
  unfold classifyFillResponse
  split
  · exact faithful_of_pending rfl
  · split
    · exact faithful_of_pending rfl
    · simp only
      split
      · exact faithful_of_pending rfl
      · split
        · exact faithful_of_pending rfl
        · rename_i fields hFields
          obtain ⟨hOrdered, hExecuted⟩ := h fields hFields
          exact faithful_readRecord hOrdered hExecuted _ _
    · exact faithful_of_pending rfl

/-- What the transport makes of a broker that tells its book, retries included. -/
theorem faithful_queryFillStatus (settings : Settings) (orderNo : String)
    {outcomes : Nat → HttpOutcome WireJson} (h : ∀ n, Tells record (outcomes n)) :
    Faithful record (queryFillStatus settings orderNo outcomes) := by
  obtain ⟨n, -, hEq⟩ := exists_runWithRetries_eq
    (fun n => queryAttempt settings orderNo (outcomes n)) queryFillMaxRetries
  have hTells := h n
  rw [queryFillStatus, hEq]
  cases hOutcome : outcomes n with
  | timeout => exact faithful_of_pending rfl
  | httpError typeName => exact faithful_of_pending rfl
  | response statusCode body =>
    rw [hOutcome] at hTells
    exact faithful_classifyFillResponse hTells orderNo

end HttpxKisOrderTransport

namespace SyncCall

open FillSyncService HttpxKisOrderTransport

/-- A live transport answers by HTTP from the book, or raises. -/
def AnswersFrom (broker : BrokerBook) (call : SyncCall) : Prop :=
  ∀ transport orderNo response, call.answer (.queryFillStatus transport orderNo) = .ok response →
    ∃ settings outcomes, (∀ n, Tells (broker orderNo) (outcomes n)) ∧
      response = HttpxKisOrderTransport.queryFillStatus settings orderNo outcomes

/-- The recorded fills of every order are executions under its own number. -/
def Attributed (own : Nat → String) (broker : BrokerBook) (db : Database) : Prop :=
  ∀ k order, db.realOrders.find? k = some order → db.totalFilled k ≤ (broker (own k)).executed

/-- Distinct numbers, each stored as its hash. -/
structure Registered (own : Nat → String) (db : Database) : Prop where
  hashed : ∀ k order, db.realOrders.find? k = some order →
    order.brokerOrderNoHash = some (sha256Hexdigest (own k))
  distinct : ∀ k order k' order', db.realOrders.find? k = some order →
    db.realOrders.find? k' = some order' → own k = own k' → k = k'

/-- An open order is asked about on a live transport. The number asked for is its own, held at the
broker with a quantity not below ours, or one that nothing was executed under. -/
structure AsksOwn (own : Nat → String) (broker : BrokerBook) (call : SyncCall) (s : DbSession) :
    Prop where
  live : ∀ order, call.openOrder? s.view = some order →
    ∃ transport, call.transport = some (.live transport)
  number : ∀ order, call.openOrder? s.view = some order →
    (broker (orderRef call.kisOrderNoPlaintext order)).executed = 0 ∨
    orderRef call.kisOrderNoPlaintext order = own order.id ∧
      order.quantity ≤ (broker (own order.id)).ordered

section Effective

variable {record : BrokerRecord} {response : KisFillStatusResult}

theorem status_of_full (h : classifyFillResponse response = .full) : response.status = .filled := by
  unfold classifyFillResponse at h
  split at h <;> first | assumption | contradiction | (split at h <;> contradiction)

theorem status_of_partialFill (h : classifyFillResponse response = .partialFill) :
    response.status = .partiallyFilled := by
  unfold classifyFillResponse at h
  split at h <;> first | assumption | contradiction | (split at h <;> contradiction)

/-- The total a faithful answer raises the fills to is what the broker executed. -/
theorem effectiveKisTotal_le_of_faithful (hFaithful : Faithful record response) {quantity : Int}
    (hQuantity : record.executed = 0 ∨ quantity ≤ record.ordered) :
    effectiveKisTotal (classifyFillResponse response) response quantity ≤ record.executed := by
  cases hClass : classifyFillResponse response with
  | full =>
    obtain ⟨hFilled, hPos, hAll⟩ := hFaithful.filled (status_of_full hClass)
    have hCovered : quantity ≤ record.executed := by omega
    simp only [effectiveKisTotal, hFilled]
    split <;> omega
  | partialFill =>
    have hFilled := hFaithful.partiallyFilled (status_of_partialFill hClass)
    simp only [effectiveKisTotal, hFilled]
    omega
  | none | rejected | canceled | failed => exact Int.natCast_nonneg _

end Effective

variable {own : Nat → String} {broker : BrokerBook} {call : SyncCall} {s : DbSession}

theorem effectiveKisTotal_le_own (hBroker : call.AnswersFrom broker)
    (hAsks : AsksOwn own broker call s) {order : RealOrder} {response : KisFillStatusResult}
    (h : call.dispatched? s.view = some (order, response)) :
    effectiveKisTotal (classifyFillResponse response) response order.quantity ≤
      (broker (own order.id)).executed := by
  obtain ⟨hOpen, hReply⟩ := dispatched?_eq_some_iff.mp h
  obtain ⟨transport, hLive⟩ := hAsks.live order hOpen
  rw [reply, hLive, Option.getD_some, fillReply] at hReply
  obtain ⟨settings, outcomes, hTells, hResponse⟩ := hBroker transport _ response hReply
  have hFaithful := faithful_queryFillStatus settings (orderRef call.kisOrderNoPlaintext order) hTells
  rw [← hResponse] at hFaithful
  rcases hAsks.number order hOpen with hNothing | ⟨hOwn, hQuantity⟩
  · have hZero : effectiveKisTotal (classifyFillResponse response) response order.quantity ≤ _ :=
      effectiveKisTotal_le_of_faithful hFaithful (.inl hNothing)
    omega
  · rw [hOwn] at hFaithful
    exact effectiveKisTotal_le_of_faithful hFaithful (.inr hQuantity)

theorem attributed_step (hBroker : call.AnswersFrom broker) (hAsks : AsksOwn own broker call s)
    (h : Attributed own broker s.view) : Attributed own broker (call.step s).view := by
  intro k after hAfter
  cases hDispatched : call.dispatched? s.view with
  | none =>
    obtain ⟨-, -, -, -, hOrders, -, hFills⟩ := run_not_dispatched hDispatched
    rw [hOrders] at hAfter
    rw [Database.totalFilled, Database.fillsOf, hFills]
    exact h k after hAfter
  | some pair =>
    obtain ⟨order, response⟩ := pair
    by_cases hId : order.id = k
    · subst hId
      rw [totalFilled_of_dispatched hDispatched]
      exact max_le (h order.id order (find?_of_dispatched hDispatched))
        (effectiveKisTotal_le_own hBroker hAsks hDispatched)
    · obtain ⟨-, -, -, hSynced⟩ := run_dispatched hDispatched
      rw [find?_of_synced hSynced] at hAfter
      obtain ⟨before, hBefore, -⟩ := Option.map_eq_some_iff.mp hAfter
      have hFills := fillsOf_of_other call s k (by
        intro order' response' hOther
        rw [hDispatched] at hOther
        obtain ⟨rfl, rfl⟩ := Prod.mk.inj (Option.some.inj hOther)
        exact hId)
      rw [Database.totalFilled, hFills]
      exact h k before hBefore

/-- In every run of syncs that ask for the orders' own numbers, no order is credited with more
than was executed under its number. -/
theorem attributed_run_of_asksOwn (own : Nat → String) (broker : BrokerBook)
    (calls : List SyncCall) (s : DbSession) (hBroker : ∀ call ∈ calls, call.AnswersFrom broker)
    (hAsks : Along step (AsksOwn own broker) calls s) (hStart : Attributed own broker s.view) :
    Attributed own broker (Transaction.run step calls s).view := by
  induction calls generalizing s with
  | nil => exact hStart
  | cons call calls ih =>
    obtain ⟨hFirst, hRest⟩ := List.forall_mem_cons.mp hBroker
    exact ih (call.step s) hRest hAsks.2 (attributed_step hFirst hAsks.1 hStart)

/-- The first order's own number is 1001. The second order's is the first one's key. -/
def ownNumber (k : Nat) : String := if k = 1 then "1001" else "1"

def busyBook (orderNo : String) : BrokerRecord := if orderNo = "1" then ⟨1, 1⟩ else ⟨1, 0⟩

def hashedOrder (id : Nat) : RealOrder :=
  { submittedOrder id 1 Int.one_pos with
    brokerOrderNoHash := some (sha256Hexdigest (ownNumber id)) }

def twoSubmitted : DbSession :=
  .opened ((Database.empty.insertRealOrder (hashedOrder 1)).insertRealOrder (hashedOrder 2))

def asking (realOrderId : Nat) (kisOrderNoPlaintext : Option String) : SyncCall where
  transport := some (.live 0)
  realOrderId := realOrderId
  kisOrderNoPlaintext := kisOrderNoPlaintext
  now := 0
  answer
    | .placeOrder _ _ => .error (.transport "not asked")
    | .queryFillStatus _ orderNo => .ok (HttpxKisOrderTransport.queryFillStatus Settings.paranoid
        orderNo fun _ => .response 200 (some (fillBody "1" (if orderNo = "1" then "1" else "0"))))

theorem answersFrom_asking (realOrderId : Nat) (kisOrderNoPlaintext : Option String) :
    (asking realOrderId kisOrderNoPlaintext).AnswersFrom busyBook := by
  intro transport orderNo response hReply
  refine ⟨_, _, ?_, (Except.ok.inj hReply).symm⟩
  intro _ fields hFields
  obtain rfl := Option.some.inj hFields
  by_cases hOne : orderNo = "1"
  · simp only [hOne, busyBook, if_true]
    decide
  · simp only [hOne, busyBook, if_false]
    decide

theorem eq_hashedOrder {k : Nat} {order : RealOrder}
    (h : twoSubmitted.view.realOrders.find? k = some order) : (k = 1 ∨ k = 2) ∧ order = hashedOrder k := by
  have hRows : twoSubmitted.view.realOrders.rows = [hashedOrder 1, hashedOrder 2] := rfl
  obtain ⟨hMem, rfl⟩ := (Table.find?_eq_some_iff _ k order).mp h
  rw [hRows] at hMem
  rcases List.mem_pair.mp hMem with rfl | rfl
  · exact ⟨.inl rfl, rfl⟩
  · exact ⟨.inr rfl, rfl⟩

theorem registered_twoSubmitted : Registered ownNumber twoSubmitted.view where
  hashed := by
    intro k order hFound
    obtain ⟨-, rfl⟩ := eq_hashedOrder hFound
    rfl
  distinct := by
    intro k order k' order' hFound hFound' hSame
    obtain ⟨hKey, -⟩ := eq_hashedOrder hFound
    obtain ⟨hKey', -⟩ := eq_hashedOrder hFound'
    rcases hKey with rfl | rfl <;> rcases hKey' with rfl | rfl
    · rfl
    · exact absurd hSame (by decide)
    · exact absurd hSame (by decide)
    · rfl

theorem attributed_twoSubmitted : Attributed ownNumber busyBook twoSubmitted.view :=
  fun _ _ _ => Int.natCast_nonneg _

theorem attributed_askedByNumber :
    Attributed ownNumber busyBook
      (Transaction.run step [asking 2 (some "1"), asking 1 (some "1001")] twoSubmitted).view := by
  apply attributed_run_of_asksOwn
  · intro call hMem
    rcases List.mem_pair.mp hMem with rfl | rfl <;> exact answersFrom_asking _ _
  · refine ⟨⟨fun _ _ => ⟨0, rfl⟩, ?_⟩, ⟨fun _ _ => ⟨0, rfl⟩, fun _ _ => .inl rfl⟩, trivial⟩
    intro order hOpen
    obtain ⟨hFound, -⟩ := openOrder?_eq_some_iff.mp hOpen
    obtain ⟨-, rfl⟩ := eq_hashedOrder hFound
    exact .inr ⟨rfl, le_refl _⟩
  · exact attributed_twoSubmitted

/-- Synced without its number, the first order is asked about by its key, which is the second
order's number, and is credited with the second order's execution. -/
theorem fallback_credits_other :
    (∀ call ∈ [asking 1 none], call.AnswersFrom busyBook) ∧
      Registered ownNumber twoSubmitted.view ∧ Attributed ownNumber busyBook twoSubmitted.view ∧
      ¬ Attributed ownNumber busyBook
        (Transaction.run step [asking 1 none] twoSubmitted).view := by
  refine ⟨?_, registered_twoSubmitted, attributed_twoSubmitted, ?_⟩
  · intro call hMem
    rw [List.mem_singleton.mp hMem]
    exact answersFrom_asking _ _
  · intro h
    have hStored : ((Transaction.run step [asking 1 none] twoSubmitted).view.realOrders.find?
        1).isSome = true := by decide +kernel
    have hCredited : (Transaction.run step [asking 1 none] twoSubmitted).view.totalFilled 1 = 1 := by
      decide +kernel
    obtain ⟨order, hFound⟩ := Option.isSome_iff_exists.mp hStored
    have hLe := h 1 order hFound
    rw [hCredited] at hLe
    revert hLe
    decide

end SyncCall

end StockAiPlatform
