import Mathlib.Data.List.Sort
import StockAiPlatform.Data.OrderChecks

/-! # Order candidate rows

Inserts, reads and the state machine of `order_candidates`. A transition
outside the machine raises and writes nothing.
-/

namespace StockAiPlatform
set_option autoImplicit false

open Transaction Python

namespace Database

def insertOrderCandidate (db : Database) (candidate : OrderCandidate) : Database :=
  { db with orderCandidates := db.orderCandidates.insert candidate }

def updateOrderCandidate (db : Database) (candidateId : Nat)
    (change : OrderCandidate → OrderCandidate)
    (hId : ∀ candidate, (change candidate).id = candidate.id) : Database :=
  { db with orderCandidates := db.orderCandidates.modify candidateId change hId }

end Database

/-- `_ALLOWED_TRANSITIONS`, each set in the order `sorted` gives it. -/
def CandidateStatus.allowedTransitions : CandidateStatus → List CandidateStatus
  | .draft => [.riskChecking]
  | .riskChecking => [.pendingApproval, .riskRejected]
  | .pendingApproval => [.approved, .expired, .rejected]
  | .approved => [.executedPaper]
  | .riskRejected | .executedPaper | .rejected | .expired => []

/-- The arguments of `create`, the strings as the caller passes them. -/
structure CandidateDraft where
  accountId : Nat
  source : String
  symbol : String
  side : String
  quantity : Int
  orderType : String
  limitPrice : Option ℚ
  estimatedAmount : ℚ
  sourceRefId : Option Int
  expiresAt : Option Int

namespace OrderCandidateRepository

def checkSource (source : String) : Except PyError CandidateSource :=
  match CandidateSource.ofValue? source with
  | some source => .ok source
  | none => .error (.candidateValidation
      ("source must be one of ['MANUAL', 'PAPER', 'RECOMMENDATION', 'STRATEGY'] (got "
        ++ Json.quote source ++ ")"))

/-- `normalized_limit`: a market order drops the price it was given. -/
def normalizeLimit (limitPrice : Option ℚ) : (orderType : OrderType) →
    Except PyError { price : Option ℚ // orderType.takesPositive price = true }
  | .market => .ok ⟨none, OrderType.takesPositive_market⟩
  | .limit => OrderChecks.checkLimitPrice .candidateValidation limitPrice

def checkAmount (amount : ℚ) : Except PyError { amount : ℚ // 0 ≤ amount } :=
  if hAmount : 0 ≤ amount then .ok ⟨amount, hAmount⟩
  else .error (.candidateValidation "estimated_amount must be >= 0")

/-- The arguments of `create` past its checks. -/
structure CheckedCandidate where
  accountId : Nat
  source : CandidateSource
  sourceRefId : Option Int
  symbol : String
  side : Side
  quantity : Int
  orderType : OrderType
  limitPrice : Option ℚ
  estimatedAmount : ℚ
  expiresAt : Option Int
  quantity_pos : 0 < quantity
  limitPrice_ok : orderType.takesPositive limitPrice = true
  estimatedAmount_nonneg : 0 ≤ estimatedAmount

/-- `upper` is `str.upper`. -/
def validate (upper : String → String) (draft : CandidateDraft) : Except PyError CheckedCandidate := do
  let source ← checkSource draft.source
  let side ← OrderChecks.checkSide .candidateValidation draft.side
  let orderType ← OrderChecks.checkOrderType .candidateValidation draft.orderType
  let quantity ← OrderChecks.checkQuantity .candidateValidation draft.quantity
  OrderChecks.checkSymbol .candidateValidation draft.symbol
  let limitPrice ← normalizeLimit draft.limitPrice orderType
  let amount ← checkAmount draft.estimatedAmount
  return {
    accountId := draft.accountId
    source := source
    sourceRefId := draft.sourceRefId
    symbol := upper (String.ofList (strip draft.symbol.toList))
    side := side
    quantity := quantity.val
    orderType := orderType
    limitPrice := limitPrice.val
    estimatedAmount := amount.val
    expiresAt := draft.expiresAt
    quantity_pos := OrderChecks.pos_of_checked quantity
    limitPrice_ok := limitPrice.property
    estimatedAmount_nonneg := amount.property }

def rowOf (checked : CheckedCandidate) (id : Nat) (createdAt : Int) : OrderCandidate where
  id := id
  accountId := checked.accountId
  source := checked.source
  sourceRefId := checked.sourceRefId
  symbol := checked.symbol
  side := checked.side
  quantity := checked.quantity
  orderType := checked.orderType
  limitPrice := checked.limitPrice
  estimatedAmount := checked.estimatedAmount
  status := .draft
  expiresAt := checked.expiresAt
  createdAt := createdAt
  quantity_pos := checked.quantity_pos
  limitPrice_ok := checked.limitPrice_ok
  estimatedAmount_nonneg := checked.estimatedAmount_nonneg

/-- `create` with the status it defaults to; `createdAt` is the clock of the column's default. -/
def create (upper : String → String) (draft : CandidateDraft) (createdAt : Int) :
    App OrderCandidate := do
  let checked ← .ofExcept (validate upper draft)
  let id ← Program.allocated fun db : Database => db.orderCandidates.nextKey
  let candidate := rowOf checked id createdAt
  Program.modify fun db => db.insertOrderCandidate candidate
  pure candidate

def getById (candidateId : Nat) : App (Option OrderCandidate) :=
  Program.query (.candidateById candidateId) fun db => db.orderCandidates.find? candidateId

/-- The pending candidates whose time is over, by id. -/
def expiredPending (now : Int) (db : Database) : List OrderCandidate :=
  (db.orderCandidates.rows.filter fun candidate =>
    candidate.status == .pendingApproval
      && candidate.expiresAt.any fun deadline => deadline ≤ now).insertionSort
    fun a b => a.id ≤ b.id

/-- `list_expired_pending` with its limit of 200 rows. -/
def listExpiredPending (now : Int) : App (List OrderCandidate) :=
  Program.query (.expiredPending now) fun db => (expiredPending now db).take 200

/-- The columns `update_status` sets; a missing reason or approver keeps what is there. -/
def withStatus (newStatus : CandidateStatus) (rejectionReason : Option String)
    (approverUserId : Option Nat) (candidate : OrderCandidate) : OrderCandidate :=
  { candidate with
    status := newStatus
    rejectionReason := rejectionReason.or candidate.rejectionReason
    approverUserId := approverUserId.or candidate.approverUserId }

def updateStatus (candidate : OrderCandidate) (newStatus : CandidateStatus)
    (rejectionReason : Option String) (approverUserId : Option Nat) : App OrderCandidate :=
  if newStatus ∈ candidate.status.allowedTransitions then do
    Program.modify fun db => db.updateOrderCandidate candidate.id
      (withStatus newStatus rejectionReason approverUserId) fun _ => rfl
    pure (withStatus newStatus rejectionReason approverUserId candidate)
  else
    let allowed := candidate.status.allowedTransitions.map fun status => Json.str status.value
    .raise (.invalidTransition (s!"cannot transition OrderCandidate id={candidate.id} from "
      ++ s!"'{candidate.status.value}' to '{newStatus.value}'; allowed next: "
      ++ (Json.list allowed).repr))

def withRiskResult (result : RiskCheckResult) (candidate : OrderCandidate) : OrderCandidate :=
  { candidate with riskCheckResult := some result }

def attachRiskResult (candidate : OrderCandidate) (result : RiskCheckResult) :
    App OrderCandidate := do
  Program.modify fun db => db.updateOrderCandidate candidate.id (withRiskResult result) fun _ => rfl
  pure (withRiskResult result candidate)

def withVirtualOrder (virtualOrderId : Nat) (candidate : OrderCandidate) : OrderCandidate :=
  { candidate with virtualOrderId := some virtualOrderId }

def attachVirtualOrder (candidate : OrderCandidate) (virtualOrderId : Nat) : App OrderCandidate :=
  if candidate.virtualOrderId.all (· == virtualOrderId) then do
    Program.modify fun db =>
      db.updateOrderCandidate candidate.id (withVirtualOrder virtualOrderId) fun _ => rfl
    pure (withVirtualOrder virtualOrderId candidate)
  else
    .raise (.invalidTransition (s!"OrderCandidate id={candidate.id} already linked to "
      ++ s!"virtual_order_id={candidate.virtualOrderId.getD 0}; refusing to "
      ++ s!"overwrite with {virtualOrderId}"))

/-- `reason[:256] if reason else None`. -/
def cutRejectionReason (reason : String) : Option String :=
  if reason = "" then none else some (String.ofList (reason.toList.take 256))

def reject (candidate : OrderCandidate) (approverUserId : Nat) (reason : String) :
    App OrderCandidate :=
  updateStatus candidate .rejected (cutRejectionReason reason) (some approverUserId)

def expire (candidate : OrderCandidate) : App OrderCandidate :=
  updateStatus candidate .expired (some "ttl_expired") none

section Checks

variable {upper : String → String} {draft : CandidateDraft} {checked : CheckedCandidate}

theorem checkAmount_ok {amount : ℚ} {kept : { amount : ℚ // 0 ≤ amount }}
    (h : checkAmount amount = .ok kept) : kept.val = amount := by
  unfold checkAmount at h
  split at h
  · cases h
    rfl
  · cases h

theorem normalizeLimit_ok {orderType : OrderType} {limitPrice : Option ℚ}
    {kept : { price : Option ℚ // orderType.takesPositive price = true }}
    (h : normalizeLimit limitPrice orderType = .ok kept) (hLimit : orderType = .limit) :
    kept.val = limitPrice := by
  subst hLimit
  exact OrderChecks.checkLimitPrice_ok h

/-- What the checks leave as it was passed. -/
structure Kept (draft : CandidateDraft) (checked : CheckedCandidate) : Prop where
  accountId : checked.accountId = draft.accountId
  quantity : checked.quantity = draft.quantity
  orderType : checked.orderType.value = draft.orderType
  limitPrice : checked.orderType = .limit → checked.limitPrice = draft.limitPrice
  estimatedAmount : checked.estimatedAmount = draft.estimatedAmount
  expiresAt : checked.expiresAt = draft.expiresAt

theorem validate_ok (h : validate upper draft = .ok checked) : Kept draft checked := by
  unfold validate at h
  obtain ⟨source, -, h⟩ := except_bind_eq_ok.mp h
  obtain ⟨side, -, h⟩ := except_bind_eq_ok.mp h
  obtain ⟨orderType, hType, h⟩ := except_bind_eq_ok.mp h
  obtain ⟨quantity, hQuantity, h⟩ := except_bind_eq_ok.mp h
  obtain ⟨-, -, h⟩ := except_bind_eq_ok.mp h
  obtain ⟨limitPrice, hLimit, h⟩ := except_bind_eq_ok.mp h
  obtain ⟨amount, hAmount, h⟩ := except_bind_eq_ok.mp h
  cases h
  exact ⟨rfl, OrderChecks.checkQuantity_ok hQuantity, OrderChecks.checkOrderType_ok hType,
    normalizeLimit_ok hLimit, checkAmount_ok hAmount, rfl⟩

end Checks

section Runs

variable {answer : Answer} {s t : DbSession} {candidate result : OrderCandidate}

theorem exec_create_eq_ok {upper : String → String} {draft : CandidateDraft} {createdAt : Int} :
    (create upper draft createdAt).exec answer s = (.ok candidate, t) ↔
      ∃ checked, validate upper draft = .ok checked ∧
        candidate = rowOf checked s.view.orderCandidates.nextKey createdAt ∧
        t = s.write fun db => db.insertOrderCandidate candidate := by
  rw [create, Program.exec_bind, Program.exec_ofExcept]
  cases hChecked : validate upper draft with
  | error error => simp
  | ok checked =>
    simp only [Except.ok.injEq, exists_eq_left']
    constructor
    · intro h
      cases h
      exact ⟨rfl, rfl⟩
    · rintro ⟨rfl, rfl⟩
      rfl

theorem exec_updateStatus_eq_ok {newStatus : CandidateStatus} {reason : Option String}
    {approver : Option Nat} :
    (updateStatus candidate newStatus reason approver).exec answer s = (.ok result, t) ↔
      newStatus ∈ candidate.status.allowedTransitions ∧
      result = withStatus newStatus reason approver candidate ∧
      t = s.write fun db => db.updateOrderCandidate candidate.id
        (withStatus newStatus reason approver) fun _ => rfl := by
  unfold updateStatus
  split
  · rename_i hAllowed
    constructor
    · intro h
      cases h
      exact ⟨hAllowed, rfl, rfl⟩
    · rintro ⟨-, rfl, rfl⟩
      rfl
  · rename_i hRefused
    constructor
    · intro h
      cases h
    · rintro ⟨hAllowed, -⟩
      exact absurd hAllowed hRefused

theorem exec_attachVirtualOrder_eq_ok {virtualOrderId : Nat} :
    (attachVirtualOrder candidate virtualOrderId).exec answer s = (.ok result, t) ↔
      candidate.virtualOrderId.all (· == virtualOrderId) = true ∧
      result = withVirtualOrder virtualOrderId candidate ∧
      t = s.write fun db => db.updateOrderCandidate candidate.id
        (withVirtualOrder virtualOrderId) fun _ => rfl := by
  unfold attachVirtualOrder
  split
  · rename_i hFree
    constructor
    · intro h
      cases h
      exact ⟨hFree, rfl, rfl⟩
    · rintro ⟨-, rfl, rfl⟩
      rfl
  · rename_i hLinked
    constructor
    · intro h
      cases h
    · rintro ⟨hFree, -⟩
      exact absurd hFree hLinked

theorem commitFree_create (upper : String → String) (draft : CandidateDraft) (createdAt : Int) :
    (create upper draft createdAt).CommitFree :=
  (Program.commitFree_ofExcept _).bind fun _ => (Program.commitFree_allocated _).bind fun _ =>
    (Program.commitFree_modify _).bind fun _ => trivial

theorem commitFree_updateStatus (newStatus : CandidateStatus) (reason : Option String)
    (approver : Option Nat) : (updateStatus candidate newStatus reason approver).CommitFree := by
  unfold updateStatus
  split <;> trivial

theorem commitFree_attachVirtualOrder (virtualOrderId : Nat) :
    (attachVirtualOrder candidate virtualOrderId).CommitFree := by
  unfold attachVirtualOrder
  split <;> trivial

end Runs

end OrderCandidateRepository

end StockAiPlatform
