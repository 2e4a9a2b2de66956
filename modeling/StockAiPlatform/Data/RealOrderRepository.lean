import Mathlib.Data.List.Sort
import StockAiPlatform.Broker.KisOrderClient

/-! # Real order rows

Reads, inserts and status transitions of `real_orders`. A terminal status is
never left again, and an error message with a credential word is refused.
-/

namespace StockAiPlatform
set_option autoImplicit false

open Transaction Python

namespace Database

def insertRealOrder (db : Database) (order : RealOrder) : Database :=
  { db with realOrders := db.realOrders.insert order }

def updateRealOrder (db : Database) (orderId : Nat) (change : RealOrder → RealOrder)
    (hId : ∀ order, (change order).id = order.id) : Database :=
  { db with realOrders := db.realOrders.modify orderId change hId }

@[simp] theorem insertRealOrder_realOrders (db : Database) (order : RealOrder) :
    (db.insertRealOrder order).realOrders = db.realOrders.insert order := rfl
@[simp] theorem insertRealOrder_orderCandidates (db : Database) (order : RealOrder) :
    (db.insertRealOrder order).orderCandidates = db.orderCandidates := rfl
@[simp] theorem insertRealOrder_realFills (db : Database) (order : RealOrder) :
    (db.insertRealOrder order).realFills = db.realFills := rfl

variable (db : Database) (orderId : Nat) (change : RealOrder → RealOrder)
  (hId : ∀ order, (change order).id = order.id)

@[simp] theorem updateRealOrder_realOrders :
    (db.updateRealOrder orderId change hId).realOrders =
      db.realOrders.modify orderId change hId := rfl
@[simp] theorem updateRealOrder_orderCandidates :
    (db.updateRealOrder orderId change hId).orderCandidates = db.orderCandidates := rfl
@[simp] theorem updateRealOrder_realFills :
    (db.updateRealOrder orderId change hId).realFills = db.realFills := rfl

end Database

def sensitiveSubstrings : List String :=
  ["api_key", "appsecret", "secretkey", "access_token", "authorization", "account_no"]

/-- An order in which Python walks the set; it changes with the hash seed. -/
abbrev SubstringOrder := { substrings : List String // substrings.Perm sensitiveSubstrings }

/-- `_check_error_message`: the substring it raises about. -/
def checkErrorMessage (order : SubstringOrder) (message : Str) : Option String :=
  order.val.find? fun substr => isIn (substr : Str) (Str.lower message)

/-- A text as UTF-8, which has no surrogates. A driver that binds a text does the same. -/
def encoded (text : Str) : Except PyError String :=
  match text.encode? with
  | some bytes => .ok bytes
  | none => .error .unicodeEncode

theorem encoded_eq_ok_iff {text : Str} {bytes : String} :
    encoded text = .ok bytes ↔ text.encode? = some bytes := by
  rw [encoded]
  cases text.encode? <;> simp

theorem exists_encoded_iff {text : Str} :
    (∃ bytes, encoded text = .ok bytes) ↔ text.isEncodable = true := by
  rw [← Str.encode?_isSome, Option.isSome_iff_exists]
  exact exists_congr fun _ => encoded_eq_ok_iff

/-- The text can be written to a column. PostgreSQL takes no U+0000. -/
def isStorable (onSqlite : Bool) (text : Str) : Bool :=
  text.isEncodable && (onSqlite || !text.contains (.scalar (Char.ofNat 0)))

/-- What the driver of the database binds for a text. -/
def bindText (onSqlite : Bool) (text : Str) : Except PyError String :=
  match encoded text with
  | .error error => .error error
  | .ok bytes =>
    if onSqlite || !text.contains (.scalar (Char.ofNat 0)) then .ok bytes
    else .error (.valueError "A string literal cannot contain NUL (0x00) characters.")

theorem encode?_of_bindText {onSqlite : Bool} {text : Str} {bytes : String}
    (h : bindText onSqlite text = .ok bytes) : text.encode? = some bytes := by
  rw [bindText] at h
  cases hEncoded : encoded text with
  | error error => simp [hEncoded] at h
  | ok utf8 =>
    simp only [hEncoded] at h
    split at h
    · exact encoded_eq_ok_iff.mp (hEncoded.trans h)
    · cases h

theorem exists_bindText_iff {onSqlite : Bool} {text : Str} :
    (∃ bytes, bindText onSqlite text = .ok bytes) ↔ isStorable onSqlite text = true := by
  rw [bindText, isStorable, Bool.and_eq_true, ← exists_encoded_iff]
  cases encoded text with
  | error error => simp
  | ok utf8 =>
    rw [and_iff_right ⟨utf8, rfl⟩]
    dsimp only
    split
    next hTaken => exact iff_of_true ⟨utf8, rfl⟩ hTaken
    next hRefused =>
      refine iff_of_false ?_ hRefused
      rintro ⟨bytes, hOk⟩
      cases hOk

example : (isStorable true [.scalar (Char.ofNat 0)], isStorable false [.scalar (Char.ofNat 0)]) =
    (true, false) := by decide

structure RealOrderDraft where
  candidateId : Nat
  symbol : String
  side : Side
  quantity : Int
  orderType : OrderType
  limitPrice : Option ℚ
  estimatedAmount : ℚ
  dryRun : Bool
  fakeOrderNo : Option String
  requestId : Option String
  status : RealOrderStatus
  estimatedAmount_nonneg : 0 ≤ estimatedAmount

namespace RealOrderRepository

def rowOf (draft : RealOrderDraft) (id : Nat) (now : Int) (hQuantity : 0 < draft.quantity)
    (hPrice : draft.orderType.takes draft.limitPrice = true) : RealOrder where
  id := id
  candidateId := draft.candidateId
  symbol := draft.symbol
  side := draft.side
  quantity := draft.quantity
  orderType := draft.orderType
  limitPrice := draft.limitPrice
  estimatedAmount := draft.estimatedAmount
  status := draft.status
  dryRun := draft.dryRun
  fakeOrderNo := draft.fakeOrderNo
  brokerOrderNoHash := none
  requestId := draft.requestId
  errorCode := none
  errorMessage := none
  submittedAt := none
  createdAt := now
  quantity_pos := hQuantity
  limitPrice_ok := hPrice
  estimatedAmount_nonneg := draft.estimatedAmount_nonneg

def create (draft : RealOrderDraft) (now : Int) : App RealOrder :=
  if hQuantity : 0 < draft.quantity then
    if hPrice : draft.orderType.takes draft.limitPrice = true then do
      let id ← Program.allocated fun db : Database => db.realOrders.nextKey
      let order := rowOf draft id now hQuantity hPrice
      Program.modify fun db => db.insertRealOrder order
      pure order
    else match draft.orderType with
      | .limit => .raise (.valueError "LIMIT order requires limit_price")
      | .market => .raise (.valueError "MARKET order must not have limit_price")
  else .raise (.valueError "quantity must be > 0")

def getById (orderId : Nat) : App (Option RealOrder) :=
  Program.query (.orderById orderId) fun db => db.realOrders.find? orderId

def ordersOf (candidateId : Nat) (db : Database) : List RealOrder :=
  (db.realOrders.rows.filter fun order => order.candidateId == candidateId).insertionSort
    fun a b => b.id ≤ a.id

def getByCandidateId (candidateId : Nat) : App (List RealOrder) :=
  Program.query (.ordersByCandidate candidateId) (ordersOf candidateId)

def listRecent (limit : Nat) : App (List RealOrder) :=
  Program.query (.recentOrders limit) fun db =>
    (db.realOrders.rows.insertionSort fun a b => b.id ≤ a.id).take limit

def listByStatus (status : RealOrderStatus) (limit : Nat) : App (List RealOrder) :=
  Program.query (.ordersByStatus status limit) fun db =>
    ((db.realOrders.rows.filter fun order => order.status == status).insertionSort
      fun a b => b.id ≤ a.id).take limit

def hasNonFailed (candidateId : Nat) (db : Database) : Bool :=
  db.realOrders.rows.any fun order => order.candidateId == candidateId && order.status.isNonFailed

def existsNonFailedForCandidate (candidateId : Nat) : App Bool :=
  Program.query (.nonFailedForCandidate candidateId) (hasNonFailed candidateId)

def setStatus (orderId : Nat) (status : RealOrderStatus) (db : Database) : Database :=
  db.updateRealOrder orderId (fun order => { order with status := status }) fun _ => rfl

def updateStatus (order : RealOrder) (newStatus : RealOrderStatus) : App RealOrder :=
  if order.status.isTerminal then
    .raise (.valueError (s!"cannot transition RealOrder id={order.id} from terminal "
      ++ s!"status='{order.status.value}' to '{newStatus.value}'"))
  else do
    Program.modify (setStatus order.id newStatus)
    pure { order with status := newStatus }

def setSubmitted (orderId : Nat) (hash : Option String) (now : Int) (db : Database) : Database :=
  db.updateRealOrder orderId
    (fun order => { order with brokerOrderNoHash := hash, submittedAt := some now }) fun _ => rfl

def markSubmitted (order : RealOrder) (brokerOrderNoHash : Option String) (now : Int) :
    App RealOrder := do
  let order ← updateStatus order .submitted
  Program.modify (setSubmitted order.id brokerOrderNoHash now)
  pure { order with brokerOrderNoHash := brokerOrderNoHash, submittedAt := some now }

def setError (orderId : Nat) (code message : Option String) (db : Database) : Database :=
  db.updateRealOrder orderId
    (fun order => { order with errorCode := code, errorMessage := message }) fun _ => rfl

/-- The status is flushed before the message. A flush that fails takes the transaction with it. -/
def markFailed (onSqlite : Bool) (substrings : SubstringOrder) (order : RealOrder)
    (errorCode : Option String) (errorMessage : Option Str) : App RealOrder := do
  let errorMessage := errorMessage.map fun message => message.take 500
  match errorMessage.bind (checkErrorMessage substrings) with
  | some substr =>
    .raise (.valueError s!"error_message must not contain sensitive substring {Json.quote substr}")
  | none =>
    let order ← updateStatus order .failed
    match errorMessage.mapM (bindText onSqlite) with
    | .error error => .rollback (.raise error)
    | .ok stored =>
      Program.modify (setError order.id errorCode stored)
      pure { order with errorCode := errorCode, errorMessage := stored }

section Runs

variable (answer : Answer) (s : DbSession)

theorem exec_create (draft : RealOrderDraft) (now : Int) (hQuantity : 0 < draft.quantity)
    (hPrice : draft.orderType.takes draft.limitPrice = true) :
    let order := rowOf draft s.view.realOrders.nextKey now hQuantity hPrice
    (create draft now).exec answer s =
      (.ok order, s.write fun db => db.insertRealOrder order) := by
  intro order
  rw [create, dif_pos hQuantity, dif_pos hPrice]
  rfl

theorem exec_updateStatus {order : RealOrder} (hOpen : order.status.isTerminal = false)
    (newStatus : RealOrderStatus) :
    (updateStatus order newStatus).exec answer s =
      (.ok { order with status := newStatus }, s.write (setStatus order.id newStatus)) := by
  rw [updateStatus, hOpen]
  rfl

theorem exec_markSubmitted {order : RealOrder} (hOpen : order.status.isTerminal = false)
    (hash : Option String) (now : Int) :
    (markSubmitted order hash now).exec answer s =
      (.ok { order with status := .submitted, brokerOrderNoHash := hash, submittedAt := some now },
        (s.write (setStatus order.id .submitted)).write (setSubmitted order.id hash now)) := by
  rw [markSubmitted, Program.exec_bind_ok answer s (exec_updateStatus answer s hOpen _)]
  rfl

section MarkFailed

variable {onSqlite : Bool} {substrings : SubstringOrder} {order : RealOrder} (code : Option String)
  {message : Str}

theorem exec_markFailed (hOpen : order.status.isTerminal = false) (hShort : message.length ≤ 500)
    (hClean : checkErrorMessage substrings message = none) {stored : String}
    (hStored : bindText onSqlite message = .ok stored) :
    (markFailed onSqlite substrings order code (some message)).exec answer s =
      (.ok { order with status := .failed, errorCode := code, errorMessage := some stored },
        (s.write (setStatus order.id .failed)).write (setError order.id code (some stored))) := by
  simp only [markFailed, Option.map_some, List.take_of_length_le hShort, Option.bind_some, hClean]
  rw [Program.exec_bind_ok answer s (exec_updateStatus answer s hOpen _)]
  simp only [Option.mapM_some, hStored]
  rfl

/-- A message that cannot be stored undoes all that the transaction held. -/
theorem exec_markFailed_refused (hOpen : order.status.isTerminal = false)
    (hShort : message.length ≤ 500) (hClean : checkErrorMessage substrings message = none)
    {error : PyError} (hRefused : bindText onSqlite message = .error error) :
    (markFailed onSqlite substrings order code (some message)).exec answer s =
      (.error error, (s.write (setStatus order.id .failed)).rollback) := by
  simp only [markFailed, Option.map_some, List.take_of_length_le hShort, Option.bind_some, hClean]
  rw [Program.exec_bind_ok answer s (exec_updateStatus answer s hOpen _)]
  simp only [Option.mapM_some, hRefused]
  rfl

end MarkFailed

end Runs

theorem commitFree_create (draft : RealOrderDraft) (now : Int) : (create draft now).CommitFree := by
  unfold create
  split
  · split
    · exact fun _ => trivial
    · cases draft.orderType <;> trivial
  · trivial

theorem commitFree_updateStatus (order : RealOrder) (newStatus : RealOrderStatus) :
    (updateStatus order newStatus).CommitFree := by
  unfold updateStatus
  split <;> trivial

end RealOrderRepository

end StockAiPlatform
