import StockAiPlatform.Notification.Dispatchers
import Mathlib.Data.List.Count

/-! # Which alerts a run delivers

Between dispatches the checks change and report rows are logged. What keeps an
alert from being sent twice, or sent again after failures, is the part of the
log that a dispatch reads.
-/

namespace StockAiPlatform
set_option autoImplicit false

open Transaction Python HoldingRiskAlertDispatcher

theorem eq_of_append_cons_eq {α : Type} {mark : α} {front front' back back' : List α}
    (hFront : mark ∉ front) (hFront' : mark ∉ front')
    (h : front ++ mark :: back = front' ++ mark :: back') : front = front' ∧ back = back' := by
  induction front generalizing front' with
  | nil =>
    cases front' with
    | nil => exact ⟨rfl, (List.cons.inj h).2⟩
    | cons head front' => exact absurd ((List.cons.inj h).1 ▸ List.mem_cons_self) hFront'
  | cons head front ih =>
    cases front' with
    | nil => exact absurd ((List.cons.inj h).1.symm ▸ List.mem_cons_self) hFront
    | cons head' front' =>
      obtain ⟨rfl, hRest⟩ := List.cons.inj h
      obtain ⟨rfl, rfl⟩ := ih (fun hMem => hFront (List.mem_cons_of_mem _ hMem))
        (fun hMem => hFront' (List.mem_cons_of_mem _ hMem)) hRest
      exact ⟨rfl, rfl⟩

namespace AlertKey

/-- The last three fields hold no colon, so read from its end the target tells them apart. -/
theorem target_injective : Function.Injective target := by
  intro a b hSame
  have hAlert : ∀ alertType : AlertType, ':' ∉ alertType.value.toList.reverse := by
    intro alertType
    cases alertType <;> decide
  have hType : ∀ checkType : CheckType, ':' ∉ checkType.value.toList.reverse := by
    intro checkType
    cases checkType <;> decide
  have hDate : ∀ date : Date, ':' ∉ date.isoformat.reverse := by
    intro date hMem
    exact date.colon_not_mem_isoformat (List.mem_reverse.mp hMem)
  have hReversed := congrArg List.reverse (List.append_cancel_left (String.ofList_injective hSame))
  simp only [List.reverse_append, List.reverse_cons, List.append_assoc, List.cons_append,
    List.nil_append] at hReversed
  obtain ⟨hAlertType, hReversed⟩ := eq_of_append_cons_eq (hAlert _) (hAlert _) hReversed
  obtain ⟨hCheckType, hReversed⟩ := eq_of_append_cons_eq (hType _) (hType _) hReversed
  obtain ⟨hCheckDate, hReversed⟩ := eq_of_append_cons_eq (hDate _) (hDate _) hReversed
  have hSymbol := String.toList_injective (List.reverse_injective hReversed)
  have hCheckDate := Date.isoformat_injective (List.reverse_injective hCheckDate)
  have hCheckType : a.checkType = b.checkType := by
    revert hCheckType
    cases a.checkType <;> cases b.checkType <;> decide
  have hAlertType : a.alertType = b.alertType := by
    revert hAlertType
    cases a.alertType <;> cases b.alertType <;> decide
  cases a
  cases b
  simp_all

theorem ofList_append_ne_empty {front : List Char} (h : front ≠ []) (back : List Char) :
    String.ofList (front ++ back) ≠ "" := by
  intro hEmpty
  have hLength := congrArg String.length hEmpty
  have hFront := List.length_pos_of_ne_nil h
  have hNone : "".length = 0 := by decide
  rw [String.length_ofList, List.length_append, hNone] at hLength
  omega

theorem target_ne_empty (key : AlertKey) : key.target ≠ "" := ofList_append_ne_empty (by decide) _

end AlertKey

/-- Between dispatches report rows are logged and the engines rewrite the checks. -/
inductive NotificationEvent where
  | dispatched (call : AlertDispatch)
  | reported (result : NotificationResult) (relatedJobId : Option Nat) (now : Int)
  | rechecked (holdingChecks : List HoldingCheck) (dataSnapshots : List DataSnapshot)

/-- The sends of one alert. -/
def attempts (key : AlertKey) (logs : List NotificationLog) : List NotificationLog :=
  logs.filter fun log => log.messageType == .alert && log.target == some key.target

def successes (key : AlertKey) (logs : List NotificationLog) : List NotificationLog :=
  (attempts key logs).filter fun log => log.status == .success

namespace AlertDispatch

def linesOf (call : AlertDispatch) (checkType : CheckType) (db : NotificationDatabase) :
    List HoldingLine :=
  (db.checksByDateType call.checkDate checkType).map (lineOf db)

/-- The alerts that qualify in the dispatch: none where it refuses its check type. -/
def qualifying (call : AlertDispatch) (db : NotificationDatabase) : List AlertKey :=
  match CheckType.ofValue? call.checkType with
  | none => []
  | some checkType => (call.linesOf checkType db).filterMap (keyOf call checkType)

/-- An alert all of whose attempts failed is attempted again. -/
def RetriesFailed (call : AlertDispatch) (db : NotificationDatabase) : Prop :=
  ∀ key ∈ call.qualifying db, (∀ log ∈ attempts key db.notificationLogs, log.status = .failed) →
    (attempts key db.notificationLogs).length <
      (attempts key (dispatch call db).2.notificationLogs).length

/-- What the dispatch reads of the log tells it what was sent and what was not: every qualifying
alert that was sent stands in it, and none whose attempts all failed does. -/
def ReadsEnough (call : AlertDispatch) (db : NotificationDatabase) : Prop :=
  ∀ key ∈ call.qualifying db,
    (successes key db.notificationLogs ≠ [] → attempts key (listRows db.notificationLogs) ≠ []) ∧
    ((∀ log ∈ attempts key db.notificationLogs, log.status = .failed) →
      attempts key (listRows db.notificationLogs) = [])

end AlertDispatch

namespace NotificationEvent

def step : NotificationEvent → NotificationDatabase → NotificationDatabase
  | dispatched call, db => (dispatch call db).2
  | reported result relatedJobId now, db =>
    { db with notificationLogs := db.notificationLogs ++
        [NotificationService.logRow result .report none relatedJobId now] }
  | rechecked holdingChecks dataSnapshots, db =>
    { db with holdingChecks := holdingChecks, dataSnapshots := dataSnapshots }

def RetriesFailed : NotificationEvent → NotificationDatabase → Prop
  | dispatched call, db => call.RetriesFailed db
  | _, _ => True

def ReadsEnough : NotificationEvent → NotificationDatabase → Prop
  | dispatched call, db => call.ReadsEnough db
  | _, _ => True

end NotificationEvent

theorem attempts_append (key : AlertKey) (logs rows : List NotificationLog) :
    attempts key (logs ++ rows) = attempts key logs ++ attempts key rows := List.filter_append ..

theorem successes_append (key : AlertKey) (logs rows : List NotificationLog) :
    successes key (logs ++ rows) = successes key logs ++ successes key rows := by
  rw [successes, attempts_append, List.filter_append]
  rfl

theorem mem_attempts {key : AlertKey} {logs : List NotificationLog} {log : NotificationLog} :
    log ∈ attempts key logs ↔
      log ∈ logs ∧ log.messageType = .alert ∧ log.target = some key.target := by
  simp [attempts]

theorem mem_sentTargets_iff (db : NotificationDatabase) (key : AlertKey) :
    key.target ∈ sentTargets db ↔ attempts key (listRows db.notificationLogs) ≠ [] := by
  rw [sentTargets, List.mem_filterMap]
  constructor
  · rintro ⟨log, hMem, hTarget⟩
    obtain ⟨hRead, hAlert⟩ := List.mem_filter.mp hMem
    exact List.ne_nil_of_mem (mem_attempts.mpr ⟨hRead, beq_iff_eq.mp hAlert, hTarget⟩)
  · intro hSome
    obtain ⟨log, hMem⟩ := List.exists_mem_of_ne_nil _ hSome
    obtain ⟨hRead, hAlert, hTarget⟩ := mem_attempts.mp hMem
    exact ⟨log, List.mem_filter.mpr ⟨hRead, beq_iff_eq.mpr hAlert⟩, hTarget⟩

section Pass

variable {call : AlertDispatch} {checkType : CheckType}

theorem target_alertRow (line : HoldingLine) (key : AlertKey) (dispatchedCount : Nat) :
    (alertRow call line key.target dispatchedCount).target = some key.target := by
  have hKept : (some key.target).filter (fun text => text ≠ "") = some key.target := by
    rw [Option.filter_some, if_pos (by simpa using key.target_ne_empty)]
  simp only [alertRow, NotificationService.logRow, orText, hKept, Option.getD_some]

/-- The rows of a pass: an alert for each target, in order. -/
structure Sends (targets : List String) (rows : List NotificationLog) : Prop where
  alert : ∀ row ∈ rows, row.messageType = .alert
  target : rows.map NotificationLog.target = targets.map some

theorem Sends.cons {line : HoldingLine} {key : AlertKey} {dispatchedCount : Nat}
    {targets : List String} {rows : List NotificationLog} (h : Sends targets rows) :
    Sends (key.target :: targets) (alertRow call line key.target dispatchedCount :: rows) where
  alert := List.forall_mem_cons.mpr ⟨rfl, h.alert⟩
  target := by rw [List.map_cons, List.map_cons, target_alertRow, h.target]

/-- The loop sends once for each target that it meets for the first time. -/
theorem sends_offers (lines : List HoldingLine) (pass : Pass) :
    ∃ rows, (lines.foldl (offer call checkType) pass).logs = pass.logs ++ rows ∧
      Sends (firstSeen pass.sentTargets
        ((lines.filterMap (keyOf call checkType)).map AlertKey.target)) rows := by
  induction lines generalizing pass with
  | nil => exact ⟨[], (List.append_nil _).symm, by simp, rfl⟩
  | cons line lines ih =>
    rw [List.foldl_cons]
    cases hKey : keyOf call checkType line with
    | none =>
      rw [offer, hKey, List.filterMap_cons_none hKey]
      exact ih pass
    | some key =>
      rw [offer, hKey, List.filterMap_cons_some hKey, List.map_cons]
      by_cases hSeen : key.target ∈ pass.sentTargets
      · rw [firstSeen_cons_of_mem hSeen]
        simp only [hSeen, if_true]
        exact ih pass
      · rw [firstSeen_cons_of_notMem hSeen]
        simp only [hSeen, if_false]
        obtain ⟨rows, hLogs, hSends⟩ := ih (sendAlert call line key.target pass)
        refine ⟨alertRow call line key.target pass.dispatchedCount :: rows, ?_, hSends.cons⟩
        rw [hLogs, sendAlert, List.append_assoc]
        rfl

theorem length_attempts_of_sends {targets : List String} {rows : List NotificationLog}
    (h : Sends targets rows) (key : AlertKey) :
    (attempts key rows).length = targets.count key.target := by
  have hCount : (rows.map NotificationLog.target).count (some key.target) =
      targets.count key.target := by
    rw [h.target, List.count_map_of_injective _ some (Option.some_injective String)]
  rw [← hCount, List.count, List.countP_map, List.countP_eq_length_filter, attempts]
  congr 1
  apply List.filter_congr
  intro row hMem
  simp [h.alert row hMem]

end Pass

namespace AlertDispatch

variable (call : AlertDispatch) (db : NotificationDatabase)

/-- The targets a dispatch sends to. -/
def newTargets : List String :=
  firstSeen (sentTargets db) ((call.qualifying db).map AlertKey.target)

theorem sends_dispatch :
    ∃ rows, (dispatch call db).2.notificationLogs = db.notificationLogs ++ rows ∧
      Sends (call.newTargets db) rows := by
  rw [newTargets, qualifying, dispatch]
  cases CheckType.ofValue? call.checkType with
  | none => exact ⟨[], (List.append_nil _).symm, by simp, rfl⟩
  | some checkType => exact sends_offers (call.linesOf checkType db) _

theorem mem_newTargets_iff (key : AlertKey) :
    key.target ∈ call.newTargets db ↔
      key ∈ call.qualifying db ∧ attempts key (listRows db.notificationLogs) = [] := by
  rw [newTargets, mem_firstSeen, mem_sentTargets_iff, not_not,
    List.mem_map_of_injective AlertKey.target_injective]

/-- A dispatch sends an alert once where it qualifies and was not read, and else not at all. -/
theorem attempts_dispatch (key : AlertKey) :
    ∃ rows, (dispatch call db).2.notificationLogs = db.notificationLogs ++ rows ∧
      (attempts key rows).length = if key ∈ call.qualifying db ∧
        attempts key (listRows db.notificationLogs) = [] then 1 else 0 := by
  obtain ⟨rows, hLogs, hSends⟩ := call.sends_dispatch db
  refine ⟨rows, hLogs, ?_⟩
  rw [length_attempts_of_sends hSends]
  have hOnce : (call.newTargets db).Nodup := nodup_firstSeen _ _
  split
  · rename_i hNew
    exact List.count_eq_one_of_mem hOnce ((call.mem_newTargets_iff db key).mpr hNew)
  · rename_i hOld
    exact List.count_eq_zero.mpr fun hMem => hOld ((call.mem_newTargets_iff db key).mp hMem)

variable {call db}

theorem successes_dispatch_le (h : call.ReadsEnough db) (key : AlertKey) :
    (successes key (dispatch call db).2.notificationLogs).length ≤
      max 1 (successes key db.notificationLogs).length := by
  obtain ⟨rows, hLogs, hSent⟩ := call.attempts_dispatch db key
  have hLe : (successes key rows).length ≤ (attempts key rows).length := List.length_filter_le _ _
  rw [hLogs, successes_append, List.length_append]
  split at hSent
  · rename_i hNew
    have hFirst : successes key db.notificationLogs = [] := by
      by_contra hDelivered
      exact (h key hNew.1).1 hDelivered hNew.2
    rw [hFirst, List.length_nil]
    omega
  · omega

theorem retriesFailed_of_readsEnough (h : call.ReadsEnough db) : call.RetriesFailed db := by
  intro key hQualifies hFailed
  obtain ⟨rows, hLogs, hSent⟩ := call.attempts_dispatch db key
  rw [if_pos ⟨hQualifies, (h key hQualifies).2 hFailed⟩] at hSent
  rw [hLogs, attempts_append, List.length_append, hSent]
  omega

end AlertDispatch

namespace NotificationEvent

theorem successes_step_le {event : NotificationEvent} {db : NotificationDatabase}
    (h : event.ReadsEnough db) (key : AlertKey) :
    (successes key (event.step db).notificationLogs).length ≤
      max 1 (successes key db.notificationLogs).length := by
  cases event with
  | dispatched call => exact AlertDispatch.successes_dispatch_le h key
  | rechecked holdingChecks dataSnapshots => exact le_max_right _ _
  | reported result relatedJobId now =>
    rw [step, successes_append]
    have hReport : successes key [NotificationService.logRow result .report none relatedJobId now] =
        [] := rfl
    rw [hReport, List.append_nil]
    exact le_max_right _ _

theorem retriesFailed_of_readsEnough {event : NotificationEvent} {db : NotificationDatabase}
    (h : event.ReadsEnough db) : event.RetriesFailed db := by
  cases event with
  | dispatched call => exact AlertDispatch.retriesFailed_of_readsEnough h
  | rechecked holdingChecks dataSnapshots => trivial
  | reported result relatedJobId now => trivial

end NotificationEvent

def someDay : Date := ⟨2026, 5, 4, validDate_mayFourth⟩

def riskyCheck : HoldingCheck where
  checkDate := someDay
  checkType := .preMarket
  symbol := "005930"
  alert := true

def riskyKey : AlertKey := ⟨"005930", someDay, .preMarket, .checkAlert⟩

def riskyDispatch : AlertDispatch where
  checkDate := someDay
  checkType := "PRE_MARKET"
  relatedJobId := none
  settings := ⟨true, "token", "chat"⟩
  post := fun _ _ _ => .response 200 (some (.dict [("ok", .bool true)]))
  now := 0

/-- A log row of the given kind and status. -/
def pastRow (messageType : MessageType) (target : String) (status : NotificationStatus) :
    NotificationLog where
  channel := "TELEGRAM"
  messageType := messageType
  target := some target
  sentAt := none
  status := status
  errorMessage := none
  relatedJobId := none

def afterHistory (logs : List NotificationLog) : NotificationDatabase where
  holdingChecks := [riskyCheck]
  dataSnapshots := []
  notificationLogs := logs

namespace NotificationEvent

theorem qualifying_afterHistory (logs : List NotificationLog) :
    riskyDispatch.qualifying (afterHistory logs) = [riskyKey] := rfl

end NotificationEvent

end StockAiPlatform
