import StockAiPlatform.Broker.PlacementSafety

/-! # The gate chain against the settings policy

`can_attempt_real_order_settings` and the gates of the executor are written
apart. They ask for the same switches but one: no gate reads
`approval_required`.
-/

namespace StockAiPlatform
set_option autoImplicit false

open Transaction Python

namespace ExecuteCall

open RealOrderExecutor

variable {call : ExecuteCall} {s : DbSession}

def Permitted (call : ExecuteCall) (db : Database) : Prop :=
  canAttemptRealOrderSettings call.settings = true ∧
  ∃ candidate, db.orderCandidates.find? call.candidateId = some candidate ∧
    candidate.status = .approved ∧
    RealOrderRepository.hasNonFailed call.candidateId db = false ∧
    candidate.estimatedAmount ≤ call.settings.maxRealOrderAmount ∧
    db.todayRealOrderTotal candidate.accountId call.ambient.capNow + candidate.estimatedAmount
      ≤ call.settings.maxRealDailyOrderAmount ∧
    (PreTradeRiskEngine.evaluate call.settings db candidate call.ambient.riskNow).passed = true

/-- A permitted call places one live order. Any other places none and submits none. -/
structure ObeysPolicy (call : ExecuteCall) (s : DbSession) : Prop where
  permitted : call.Permitted s.view →
    (placements (call.step s).log).length = (placements s.log).length + 1
  forbidden : ¬ call.Permitted s.view →
    (placements (call.step s).log).length = (placements s.log).length ∧
    ∀ order ∈ (call.step s).view.realOrders.rows, order.status = .submitted →
      order ∈ s.view.realOrders.rows

theorem permitted_iff (hDry : call.settings.realOrderDryRun = false) :
    call.Permitted s.view ↔ call.settings.approvalRequired = true ∧
      ∃ candidate, admitted call.ambient call.settings call.candidateId s.view = some candidate := by
  rw [Permitted, canAttemptRealOrderSettings_iff]
  constructor
  · rintro ⟨⟨hSafety, hKill, hApproval, hTrading, hKis, -⟩, candidate, hFound, hStatus, hActive,
      hPerOrder, hDaily, hRisk⟩
    refine ⟨hApproval, candidate, admitted_eq_some_iff.mpr ⟨hFound, ?_⟩⟩
    rw [← show candidate.id = call.candidateId from Table.key_of_find? hFound] at hActive
    simp [passesGates, hStatus, hActive, hKill, hSafety, hTrading, hKis, hPerOrder, hDaily, hRisk]
  · rintro ⟨hApproval, candidate, hAdmitted⟩
    obtain ⟨hFound, hGates⟩ := admitted_eq_some_iff.mp hAdmitted
    simp only [passesGates, id_of_admitted hAdmitted, Bool.and_eq_true, Bool.not_eq_true',
      beq_iff_eq, decide_eq_true_eq] at hGates
    obtain ⟨⟨⟨⟨⟨⟨⟨⟨hStatus, hActive⟩, hKill⟩, hSafety⟩, hTrading⟩, hKis⟩, hPerOrder⟩, hDaily⟩,
      hRisk⟩ := hGates
    exact ⟨⟨hSafety, hKill, hApproval, hTrading, hKis, hDry⟩, candidate, hFound, hStatus, hActive,
      hPerOrder, hDaily, hRisk⟩

theorem live_of_resolved {executor : RealOrderExecutor} {settings : Settings}
    {transport : KisOrderTransport} (h : resolveRealTransport executor settings = some transport) :
    ∃ n, transport = .live n := by
  have hLive : transport.isFake = false := by
    unfold resolveRealTransport at h
    split at h
    · split at h
      · contradiction
      · split at h
        · contradiction
        · rename_i hNotFake
          obtain rfl := Option.some.inj h
          simpa using hNotFake
    · split at h
      · contradiction
      · rename_i hNotFake
        obtain rfl := Option.some.inj h
        simpa using hNotFake
  cases transport with
  | fake => contradiction
  | live n => exact ⟨n, rfl⟩

theorem length_placements_admitted {candidate : OrderCandidate} {transport : KisOrderTransport}
    (hDry : call.settings.realOrderDryRun = false)
    (hTransport : resolveRealTransport call.executor call.settings = some transport)
    (hAdmitted : admitted call.ambient call.settings call.candidateId s.view = some candidate) :
    (placements (call.step s).log).length = (placements s.log).length + 1 := by
  obtain ⟨n, rfl⟩ := live_of_resolved hTransport
  have hPlacement : call.placement s.view = some (candidate, .live n) := by
    refine placement_eq_some_iff.mpr ⟨hAdmitted, ?_⟩
    rw [transport?, hDry]
    exact hTransport
  rcases log_step call s with ⟨_, _, -, hLog⟩ | ⟨hNone, -⟩
  · rw [hLog, length_placements_append]
  · exact absurd hPlacement (hNone candidate n)

theorem step_of_not_admitted
    (h : admitted call.ambient call.settings call.candidateId s.view = none) : call.step s = s := by
  apply step_refused
  rw [placement, h]

/-- A real call with a live transport obeys the policy exactly when approval is required, or a gate
refuses the candidate anyway. -/
theorem obeysPolicy_iff (call : ExecuteCall) (s : DbSession) (transport : KisOrderTransport)
    (hDry : call.settings.realOrderDryRun = false)
    (hTransport : resolveRealTransport call.executor call.settings = some transport) :
    ObeysPolicy call s ↔ call.settings.approvalRequired = true ∨
      admitted call.ambient call.settings call.candidateId s.view = none := by
  constructor
  · intro h
    cases hAdmitted : admitted call.ambient call.settings call.candidateId s.view with
    | none => exact .inr rfl
    | some candidate =>
      refine .inl ?_
      by_contra hApproval
      have hForbidden : ¬ call.Permitted s.view :=
        fun hPermitted => hApproval ((permitted_iff hDry).mp hPermitted).1
      have hNone := (h.forbidden hForbidden).1
      rw [length_placements_admitted hDry hTransport hAdmitted] at hNone
      omega
  · intro hCondition
    constructor
    · intro hPermitted
      obtain ⟨-, candidate, hAdmitted⟩ := (permitted_iff hDry).mp hPermitted
      exact length_placements_admitted hDry hTransport hAdmitted
    · intro hForbidden
      have hRefused : admitted call.ambient call.settings call.candidateId s.view = none := by
        rcases hCondition with hApproval | hRefused
        · cases hAdmitted : admitted call.ambient call.settings call.candidateId s.view with
          | none => rfl
          | some candidate =>
            exact absurd ((permitted_iff hDry).mpr ⟨hApproval, candidate, hAdmitted⟩) hForbidden
        · exact hRefused
      rw [step_of_not_admitted hRefused]
      exact ⟨rfl, fun order hMem _ => hMem⟩

theorem obeysPolicy_approvalRequired :
    ObeysPolicy (liveCall (openSettings false true) 1 (.ok ⟨true, "1", "SUBMITTED"⟩))
        (.opened (approvedDatabase [approvedCandidate 1 "005930" 700])) ↔
      (openSettings false true).approvalRequired = true ∨
        admitted quietAmbient (openSettings false true) 1
          (approvedDatabase [approvedCandidate 1 "005930" 700]) = none :=
  obeysPolicy_iff (liveCall (openSettings false true) 1 (.ok ⟨true, "1", "SUBMITTED"⟩)) _ (.live 0)
    rfl rfl

/-- With `approval_required=False` the policy forbids the order, and it is sent all the same. -/
theorem approvalNotRequired_placed :
    (openSettings false false).realOrderDryRun = false ∧
    ¬ ObeysPolicy (liveCall (openSettings false false) 1 (.ok ⟨true, "1", "SUBMITTED"⟩))
      (.opened (approvedDatabase [approvedCandidate 1 "005930" 700])) := by
  refine ⟨rfl, fun h => ?_⟩
  have hForbidden := h.forbidden fun hPermitted => absurd hPermitted.1 (by decide)
  exact absurd hForbidden.1 (by decide +kernel)

end ExecuteCall

end StockAiPlatform
