import StockAiPlatform.Broker.KisOrderClient

/-! # The approval audit log

Rows are only appended. Details under a forbidden key are refused, and the
reason is cut to its column.
-/

namespace StockAiPlatform
set_option autoImplicit false

open Transaction Python

namespace Database

def appendAuditLog (db : Database) (row : ApprovalAuditLog) : Database :=
  { db with approvalAuditLogs := db.approvalAuditLogs ++ [row] }

@[simp] theorem appendAuditLog_realOrders (db : Database) (row : ApprovalAuditLog) :
    (db.appendAuditLog row).realOrders = db.realOrders := rfl
@[simp] theorem appendAuditLog_orderCandidates (db : Database) (row : ApprovalAuditLog) :
    (db.appendAuditLog row).orderCandidates = db.orderCandidates := rfl
@[simp] theorem appendAuditLog_realFills (db : Database) (row : ApprovalAuditLog) :
    (db.appendAuditLog row).realFills = db.realFills := rfl

end Database

/-- `_FORBIDDEN_DETAILS_KEYS`, in the order `sorted` gives them. -/
def forbiddenDetailsKeys : List String :=
  ["access_token", "account_number", "api_key", "body", "broker_order_id", "full_text",
    "jwt_secret", "kis_order_id", "raw_text", "real_account", "real_order_id", "secret",
    "source_file_path", "token"]

def leakedKeys (details : List (String × Json)) : List String :=
  forbiddenDetailsKeys.filter fun key => details.any fun entry => entry.1 == key

namespace ApprovalAuditLogRepository

/-- `reason[:256] if reason else None`. -/
def cutReason (reason : Option String) : Option String :=
  match reason with
  | some text => if text = "" then none else some (String.ofList (text.toList.take 256))
  | none => none

def tooLong (hash : Option String) : Bool := hash.any fun text => 64 < text.length

def append (row : ApprovalAuditLog) : App ApprovalAuditLog :=
  let leaked := (row.detailsJson.map leakedKeys).getD []
  if leaked ≠ [] then
    .raise (.auditValidation
      ("details_json contains forbidden keys: " ++ (Json.list (leaked.map Json.str)).repr))
  else if tooLong row.ipHash then
    .raise (.auditValidation "ip_hash must be at most 64 chars (SHA256 hex)")
  else if tooLong row.userAgentHash then
    .raise (.auditValidation "user_agent_hash must be at most 64 chars (SHA256 hex)")
  else do
    let row := { row with reason := cutReason row.reason }
    Program.modify fun db => db.appendAuditLog row
    pure row

/-- The checks of `append`: no forbidden key, and hashes that fit their columns. -/
def Admissible (row : ApprovalAuditLog) : Prop :=
  (row.detailsJson.map leakedKeys).getD [] = [] ∧ tooLong row.ipHash = false ∧
    tooLong row.userAgentHash = false

/-- The row as it is stored. -/
def stored (row : ApprovalAuditLog) : ApprovalAuditLog := { row with reason := cutReason row.reason }

theorem exec_append_of_admissible {row : ApprovalAuditLog} (h : Admissible row) (answer : Answer)
    (s : DbSession) :
    (append row).exec answer s = (.ok (stored row), s.write fun db => db.appendAuditLog (stored row)) := by
  obtain ⟨hLeaked, hIp, hAgent⟩ := h
  simp only [append, hLeaked, hIp, hAgent, ne_eq, not_true_eq_false, Bool.false_eq_true, if_false]
  rfl

theorem exec_append_eq_ok {row result : ApprovalAuditLog} {answer : Answer} {s t : DbSession} :
    (append row).exec answer s = (.ok result, t) ↔
      Admissible row ∧ result = stored row ∧
        t = s.write fun db => db.appendAuditLog (stored row) := by
  constructor
  · intro h
    have hAdmissible : Admissible row := by
      unfold append at h
      simp only at h
      split_ifs at h with hLeaked hIp hAgent
      · cases h
      · cases h
      · cases h
      · exact ⟨not_not.mp hLeaked, eq_false_of_ne_true hIp, eq_false_of_ne_true hAgent⟩
    rw [exec_append_of_admissible hAdmissible] at h
    cases h
    exact ⟨hAdmissible, rfl, rfl⟩
  · rintro ⟨hAdmissible, rfl, rfl⟩
    exact exec_append_of_admissible hAdmissible answer s

/-- A row of the order path: no user, no hashes. -/
def systemRow (candidateId : Nat) (eventType : AuditEvent) (reason : String)
    (details : List (String × Json)) : ApprovalAuditLog where
  candidateId := candidateId
  eventType := eventType
  userId := none
  reason := some reason
  detailsJson := some details
  ipHash := none
  userAgentHash := none

theorem exec_append_systemRow (candidateId : Nat) (eventType : AuditEvent) (reason : String)
    {details : List (String × Json)} (hClean : leakedKeys details = []) (answer : Answer)
    (s : DbSession) :
    let row := { systemRow candidateId eventType reason details with
      reason := cutReason (some reason) }
    (append (systemRow candidateId eventType reason details)).exec answer s =
      (.ok row, s.write fun db => db.appendAuditLog row) := by
  intro row
  have hLeaked : ((systemRow candidateId eventType reason details).detailsJson.map
      leakedKeys).getD [] = [] := hClean
  simp only [append, hLeaked, ne_eq, not_true_eq_false, if_false]
  rfl

theorem leakedKeys_eq_nil {details : List (String × Json)}
    (h : ∀ entry ∈ details, entry.1 ∉ forbiddenDetailsKeys) : leakedKeys details = [] := by
  apply List.filter_eq_nil_iff.mpr
  intro key hKey hAny
  obtain ⟨entry, hMem, hEq⟩ := List.any_eq_true.mp hAny
  exact h entry hMem ((beq_iff_eq.mp hEq) ▸ hKey)

theorem commitFree_append (row : ApprovalAuditLog) : (append row).CommitFree := by
  unfold append
  simp only
  split_ifs <;> trivial

end ApprovalAuditLogRepository

end StockAiPlatform
