import StockAiPlatform.Api.ApprovalRoutes
import StockAiPlatform.Approval.AmountCaps
import StockAiPlatform.Broker.PlacementSafety

/-! # The caps, and what an order is worth

Both caps are checked against the amount a candidate was declared with. They
bound what a limit order is worth at its limit wherever that amount covers it,
and the create route takes any amount, or none.
-/

namespace StockAiPlatform
set_option autoImplicit false

open Transaction OrderCandidateRepository

def notional (quantity : Int) (limitPrice : Option ℚ) : ℚ := quantity * limitPrice.getD 0

def OrderCandidate.notional (candidate : OrderCandidate) : ℚ :=
  StockAiPlatform.notional candidate.quantity candidate.limitPrice

def CandidateStatus.hasPended : CandidateStatus → Bool
  | .pendingApproval | .approved | .executedPaper | .rejected | .expired => true
  | .draft | .riskChecking | .riskRejected => false

def Covers (settings : Settings) (amount worth : ℚ) : Prop :=
  worth ≤ amount ∨ worth ≤ settings.maxOrderAmount ∧ worth ≤ settings.maxRealOrderAmount

/-- A limit candidate is covered, and worth no more than the cap once it has been pending. -/
structure Capped (settings : Settings) (candidate : OrderCandidate) : Prop where
  covered : candidate.orderType = .limit →
    Covers settings candidate.estimatedAmount candidate.notional
  pended : candidate.orderType = .limit → candidate.status.hasPended = true →
    candidate.notional ≤ settings.maxOrderAmount

def ExecuteCall.under (call : ExecuteCall) (settings : Settings) : ExecuteCall :=
  { call with settings := settings }

/-- A request to the approval routes, or a call of the executor that its caller commits or not. -/
inductive DeskEvent where
  | request (request : ApprovalRequest)
  | execute (call : ExecuteCall) (commits : Bool)

section Rows

variable {settings : Settings} {db after : Database}

theorem capped_modify {candidates : Table OrderCandidate} {pending : OrderCandidate}
    {change : OrderCandidate → OrderCandidate} {hId : ∀ candidate, (change candidate).id = candidate.id}
    (h : ∀ candidate ∈ candidates.rows, Capped settings candidate)
    (hFound : candidates.find? pending.id = some pending)
    (hPending : pending.status = .pendingApproval)
    (hSame : ∀ candidate, (change candidate).orderType = candidate.orderType ∧
      (change candidate).notional = candidate.notional ∧
      (change candidate).estimatedAmount = candidate.estimatedAmount) :
    ∀ candidate ∈ (candidates.modify pending.id change hId).rows, Capped settings candidate := by
  intro candidate hMem
  rcases Table.mem_rows_modify.mp hMem with ⟨row, hRow, hKey, rfl⟩ | ⟨hRow, -⟩
  · obtain ⟨hType, hWorth, hAmount⟩ := hSame row
    obtain rfl : pending = row :=
      Option.some.inj (hFound.symm.trans ((Table.find?_eq_some_iff _ _ _).mpr ⟨hRow, hKey⟩))
    constructor
    · rw [hType, hWorth, hAmount]
      exact (h pending hRow).covered
    · rw [hType, hWorth]
      intro hLimit _
      exact (h pending hRow).pended hLimit (by rw [hPending]; rfl)
  · exact h candidate hRow

/-- The row of a create is pending only if the risk engine found its amount within the cap. -/
theorem capped_created {call : ApprovalService.CreateCall} {candidate : OrderCandidate}
    {riskResult : RiskCheckResult}
    (hCreated : ApprovalService.Created (.ofSettings settings) call db after candidate riskResult)
    (hCovered : candidate.orderType = .limit →
      Covers settings candidate.estimatedAmount candidate.notional) :
    Capped settings (ApprovalService.decided riskResult candidate) := by
  obtain ⟨seen, rfl, -⟩ := hCreated.risk
  have hWithin : (PreTradeRiskEngine.evaluate settings seen candidate call.now).passed = true →
      candidate.orderType = .limit → candidate.notional ≤ settings.maxOrderAmount := by
    intro hPassed hLimit
    rcases hCovered hLimit with hAmount | ⟨hCap, -⟩
    · exact hAmount.trans (PreTradeRiskEngine.estimatedAmount_le_of_passed hPassed)
    · exact hCap
  constructor
  · unfold ApprovalService.decided ApprovalService.routed
    split <;> exact hCovered
  · intro hLimit hPended
    rw [ApprovalCall.decided_status] at hPended
    unfold ApprovalService.decided ApprovalService.routed at hLimit ⊢
    split at hPended
    · rw [if_pos ‹_›] at hLimit ⊢
      exact hWithin ‹_› hLimit
    · cases hPended

theorem capped_step {call : ApprovalCall}
    (h : ∀ candidate ∈ db.orderCandidates.rows, Capped settings candidate)
    (hCreate : ∀ createCall, call = .create createCall → createCall.draft.orderType = "LIMIT" →
      Covers settings createCall.draft.estimatedAmount
        (notional createCall.draft.quantity createCall.draft.limitPrice)) :
    ∀ candidate ∈ (call.step (.ofSettings settings) db).orderCandidates.rows,
      Capped settings candidate := by
  have hMoves := ApprovalCall.moves_step (.ofSettings settings) call db
  generalize call.step (.ofSettings settings) db = after at hMoves ⊢
  cases hMoves with
  | stays call => exact h
  | created hCreated =>
    rename_i createCall candidate riskResult
    obtain ⟨checked, hChecked, hRow⟩ := hCreated.row
    have hKept := validate_ok hChecked
    have hCovered : candidate.orderType = .limit →
        Covers settings candidate.estimatedAmount candidate.notional := by
      rw [hRow]
      intro hLimit
      have hDraft := hCreate createCall rfl (by rw [← hKept.orderType]; exact congrArg _ hLimit)
      rw [← hKept.quantity, ← hKept.limitPrice hLimit, ← hKept.estimatedAmount] at hDraft
      exact hDraft
    have hNew := capped_created hCreated hCovered
    rw [hCreated.wrote.candidates, Table.rows_insert_of_key_eq]
    · intro row hMem
      rcases List.mem_append.mp hMem with hOld | hLast
      · exact h row hOld
      · rw [List.mem_singleton.mp hLast]
        exact hNew
    · rw [hRow]
      exact ApprovalCall.decided_id riskResult _
  | approved hApproved =>
    rw [hApproved.wrote.candidates]
    exact capped_modify h hApproved.found hApproved.pending fun _ => ⟨rfl, rfl, rfl⟩
  | rejected hRejected =>
    rw [hRejected.wrote.candidates]
    exact capped_modify h hRejected.found hRejected.pending fun _ => ⟨rfl, rfl, rfl⟩
  | expired hExpired =>
    rw [hExpired.wrote.candidates]
    exact capped_modify h hExpired.found hExpired.pending fun _ => ⟨rfl, rfl, rfl⟩

end Rows

namespace DeskEvent

def step (settings : Settings) (event : DeskEvent) (db : Database) : Database :=
  match event with
  | request sent => sent.step settings db
  | execute call commits =>
    let s := (call.under settings).step (.opened db)
    if commits then s.view else s.durable

/-- A create request for a limit order declares an amount that covers it. -/
def Declares (settings : Settings) : DeskEvent → Prop
  | request (.create payload ..) => payload.orderType = .limit →
    Covers settings (payload.estimatedAmount.getD 0) (notional payload.quantity payload.limitPrice)
  | request (.approve ..) | request (.reject ..) | request (.expire ..) | execute .. => True

theorem orderCandidates_execute (call : ExecuteCall) (db : Database) (commits : Bool) :
    (if commits then (call.step (.opened db)).view
      else (call.step (.opened db)).durable).orderCandidates = db.orderCandidates := by
  cases hPlacement : call.placement (Session.opened db : DbSession).view with
  | none =>
    rw [ExecuteCall.step_refused hPlacement]
    cases commits <;> rfl
  | some pair =>
    have hPlaced := ExecuteCall.run_placed hPlacement
    cases commits with
    | true =>
      have hRecorded := hPlaced.recorded
      rw [ExecuteCall.base_opened] at hRecorded
      exact hRecorded.orderCandidates
    | false => exact congrArg Database.orderCandidates hPlaced.durable

theorem capped_event {settings : Settings} {event : DeskEvent} (hDeclares : event.Declares settings)
    {db : Database} (h : ∀ candidate ∈ db.orderCandidates.rows, Capped settings candidate) :
    ∀ candidate ∈ (event.step settings db).orderCandidates.rows, Capped settings candidate := by
  cases event with
  | request sent =>
    rw [step]
    cases hGates : sent.gatesOpen settings with
    | false =>
      rw [ApprovalRequest.step_closed db hGates]
      exact h
    | true =>
      rw [ApprovalRequest.step_open db hGates]
      cases hCall : sent.call? db with
      | none => exact h
      | some call =>
        refine capped_step h ?_
        rintro createCall rfl hLimit
        cases sent with
        | create payload caller now createdAt upper =>
          obtain ⟨account, -, hSame⟩ := Option.map_eq_some_iff.mp hCall
          cases hSame
          exact hDeclares (OrderType.value_injective hLimit)
        | approve | reject | expire => cases hCall
  | execute call commits =>
    rw [step, orderCandidates_execute]
    exact h

/-- What the caps promise of a store: of its candidates, and of the orders any call of the executor
on it sends to a live broker. -/
structure WithinCaps (settings : Settings) (db : Database) : Prop where
  pended : ∀ candidate ∈ db.orderCandidates.rows, candidate.orderType = .limit →
    candidate.status.hasPended = true → candidate.notional ≤ settings.maxOrderAmount
  sent : ∀ call : ExecuteCall, ∀ exchange ∈ ((call.under settings).step (.opened db)).log,
    ∃ candidate transport, db.orderCandidates.find? call.candidateId = some candidate ∧
      exchange.1 = .placeOrder transport ((call.under settings).request candidate) ∧
      (candidate.orderType = .limit → candidate.notional ≤ settings.maxRealOrderAmount)

theorem withinCaps_of_capped {settings : Settings} {db : Database}
    (h : ∀ candidate ∈ db.orderCandidates.rows, Capped settings candidate) :
    WithinCaps settings db := by
  refine ⟨fun candidate hMem => (h candidate hMem).pended, ?_⟩
  intro call exchange hMem
  rcases ExecuteCall.log_step (call.under settings) (.opened db) with
    ⟨candidate, transport, hPlacement, hLog⟩ | ⟨-, hLog⟩
  · obtain ⟨hAdmitted, -⟩ := ExecuteCall.placement_eq_some_iff.mp hPlacement
    obtain ⟨hFound, hGates⟩ := RealOrderExecutor.admitted_eq_some_iff.mp hAdmitted
    rw [hLog, Session.opened_log, List.nil_append, List.mem_singleton] at hMem
    refine ⟨candidate, transport, hFound, congrArg Sigma.fst hMem, ?_⟩
    intro hLimit
    rcases (h candidate (Table.mem_of_find? hFound)).covered hLimit with hAmount | ⟨-, hCap⟩
    · exact hAmount.trans (RealOrderExecutor.orderCap_of_passesGates hGates)
    · exact hCap
  · rw [hLog] at hMem
    cases hMem

/-- Under fixed settings, from a store whose limit candidates are covered: as long as every create
request for a limit order declares an amount that covers it, the caps bound what pending candidates
and submitted orders are worth. -/
theorem notional_run_le (settings : Settings) (events : List DeskEvent) (db : Database)
    (hStart : ∀ candidate ∈ db.orderCandidates.rows, Capped settings candidate)
    (hDeclares : ∀ event ∈ events, event.Declares settings) :
    WithinCaps settings (run (step settings) events db) :=
  withinCaps_of_capped ((Along.of_forall (fun event hEvent _ => hDeclares event hEvent) db).invariant
    (fun db => ∀ candidate ∈ db.orderCandidates.rows, Capped settings candidate)
    (fun _ _ hEvent h => capped_event hEvent h) hStart)

def declaredBody : CreateOrderCandidateRequest :=
  { candidateBody with
    orderType := .limit
    limitPrice := some 7000
    limitPrice_pos := by decide +kernel }

def undeclaredBody : CreateOrderCandidateRequest :=
  { candidateBody with
    orderType := .limit
    limitPrice := some 70000
    estimatedAmount := none
    limitPrice_pos := by decide +kernel
    estimatedAmount_nonneg := by simp }

theorem notional_run_le_declaredBody :
    let after := run (step paperSettings) [request (.create declaredBody { userId := 1 } 0 0 id)]
      fundedDatabase
    after.statusOf 1 = some .pendingApproval ∧ WithinCaps paperSettings after := by
  refine ⟨by decide +kernel, notional_run_le paperSettings _ fundedDatabase ?_ ?_⟩
  · intro candidate hMem
    cases hMem
  · rw [List.forall_mem_singleton]
    exact fun _ => .inl (by decide +kernel)

/-- The route makes the missing amount zero, and an order worth 700,000 waits for approval. -/
theorem undeclaredBody_exceeds_cap :
    ¬ WithinCaps paperSettings (run (step paperSettings)
      [request (.create undeclaredBody { userId := 1 } 0 0 id)] fundedDatabase) := by
  intro h
  have hPending := h.pended
  revert hPending
  decide +kernel

end DeskEvent

end StockAiPlatform
