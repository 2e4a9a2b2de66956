import StockAiPlatform.Data.ResilientCalls
import StockAiPlatform.Transaction.Run
import Mathlib.Data.List.DropRight

/-! # What the monitor shows

Registration, records, resets, the rolling summary and the metrics beside them, over
the calls a provider ever had: what was recorded since the last reset, and what was
recorded at all.
-/

namespace StockAiPlatform.Providers
set_option autoImplicit false

open Transaction

/-! ## The last of a history -/

section Last

variable {α : Type} {n : Nat}

theorem Ring.items_append (ring : Ring α n) (item : α) :
    (ring.append item).items = (ring.items ++ [item]).rtake n := rfl

theorem rtake_append_singleton (l : List α) (a : α) :
    (l.rtake n ++ [a]).rtake n = (l ++ [a]).rtake n := by
  cases n with
  | zero => rw [List.rtake_zero, List.rtake_zero]
  | succ n =>
    rw [List.rtake_concat_succ, List.rtake_concat_succ]
    simp [List.rtake_eq_reverse_take_reverse, List.take_take]

theorem rtake_rtake (l : List α) (m : Nat) : (l.rtake n).rtake m = l.rtake (min m n) := by
  simp [List.rtake_eq_reverse_take_reverse, List.take_take]

/-- In order, what is not wanted comes first, so that it does not matter which cut is made first. -/
theorem filter_rtake {β : Type} [LinearOrder β] {l : List α} (key : α → β)
    (h : l.Pairwise fun a b => key a ≤ key b) (cutoff : β) :
    (l.rtake n).filter (fun a => decide (cutoff ≤ key a)) =
      (l.filter fun a => decide (cutoff ≤ key a)).rtake n := by
  induction l using List.reverseRecOn generalizing n with
  | nil => simp
  | append_singleton l a ih =>
    cases n with
    | zero => simp
    | succ n =>
      obtain ⟨hl, -, hLast⟩ := List.pairwise_append.mp h
      rw [List.rtake_concat_succ, List.filter_append, List.filter_append, ih hl]
      by_cases ha : cutoff ≤ key a
      · have hOne : [a].filter (fun a => decide (cutoff ≤ key a)) = [a] := by simp [ha]
        rw [hOne, List.rtake_concat_succ]
      · have hOne : [a].filter (fun a => decide (cutoff ≤ key a)) = [] := by simp [ha]
        have hNone : l.filter (fun a => decide (cutoff ≤ key a)) = [] := by
          rw [List.filter_eq_nil_iff]
          intro b hb hWanted
          exact ha ((of_decide_eq_true hWanted).trans (hLast b hb a List.mem_cons_self))
        rw [hOne, hNone]
        simp

end Last

/-! ## The summary and the serialised status -/

/-- Quotients of the counts, `none` where nothing was counted. -/
structure Summary24h where
  callCount24h : Nat
  successCount24h : Nat
  failureCount24h : Nat
  successRate24h : Option ℚ
  avgAttempts : Option ℚ
  deriving DecidableEq

def twentyFourHours : Int := 24 * 3600 * 1000000

def summarize (records : List CallRecord) : Summary24h where
  callCount24h := records.length
  successCount24h := records.countP CallRecord.success
  failureCount24h := records.countP fun record => !record.success
  successRate24h :=
    if 0 < records.length then some (records.countP CallRecord.success / records.length) else none
  avgAttempts :=
    if 0 < records.length then some ((records.map CallRecord.attempts).sum / records.length) else none

def inWindow (now : Int) (record : CallRecord) : Bool :=
  decide (now - twentyFourHours ≤ record.timestamp)

/-- `summary_24h`; records before the window are passed over. -/
def ProviderStats.summary24h (stats : ProviderStats) (now : Int) : Summary24h :=
  summarize (stats.recentCalls.items.filter (inWindow now))

/-- `get_recent_failures`, the newest last. -/
def ProviderStats.recentFailuresUpTo (stats : ProviderStats) (limit : Int) : List FailureRecord :=
  if limit ≤ 0 then [] else stats.recentFailures.items.rtake limit.toNat

def ProviderErrorKind.value : ProviderErrorKind → String
  | .timeout => "TIMEOUT"
  | .rateLimit => "RATE_LIMIT"
  | .serverError => "SERVER_ERROR"
  | .clientError => "CLIENT_ERROR"
  | .unknown => "UNKNOWN"

def CircuitBreakerState.value : CircuitBreakerState → String
  | .closed => "CLOSED"
  | .opened => "OPEN"
  | .halfOpen => "HALF_OPEN"

/-- `CIRCUIT_STATE_VALUES`. -/
def CircuitBreakerState.gauge : CircuitBreakerState → Nat
  | .closed => 0
  | .opened => 1
  | .halfOpen => 2

/-! ## The metrics -/

/-- One bundle of collectors; the histogram is the list of what it observed. -/
structure PrometheusMetrics where
  calls : String → Nat
  successes : String → Nat
  failures : String → Nat
  failuresByKind : String → ProviderErrorKind → Nat
  circuitState : String → Option Nat
  attempts : String → List Int

namespace PrometheusMetrics

/-- `PrometheusMetrics.build`, on a registry without samples. -/
def build : PrometheusMetrics where
  calls _ := 0
  successes _ := 0
  failures _ := 0
  failuresByKind _ _ := 0
  circuitState _ := none
  attempts _ := []

def inc (counter : String → Nat) (name : String) : String → Nat :=
  Function.update counter name (counter name + 1)

/-- `record_call` -/
def recordCall {β : Type} (metrics : PrometheusMetrics) (name : String) (state : CircuitBreakerState)
    (result : ProviderCallResult β) (attempts : Int) : PrometheusMetrics :=
  let counted :=
    if result.success then { metrics with successes := inc metrics.successes name }
    else
      let kind := result.errorKind.getD .unknown
      { metrics with
        failures := inc metrics.failures name
        failuresByKind := Function.update metrics.failuresByKind name
          (Function.update (metrics.failuresByKind name) kind
            (metrics.failuresByKind name kind + 1)) }
  { counted with
    calls := inc metrics.calls name
    attempts := Function.update metrics.attempts name (metrics.attempts name ++ [attempts])
    circuitState := Function.update metrics.circuitState name (some state.gauge) }

end PrometheusMetrics

/-! ## The operations -/

/-- The monitor of the process with its names in the order of their registration, and the bundle
if the operator asked for one. -/
structure Observability where
  monitor : ProviderHealthMonitor
  registered : List String
  metrics : Option PrometheusMetrics

/-- What is done to the monitor. A call comes with the outcome of its loop of attempts. -/
inductive MonitorCall (ε β : Type) where
  | register (name : String) (failureThreshold : Int) (resetTimeoutS : ℚ)
  | recordResult (name : String) (result : ProviderCallResult β) (now : Int)
  | call (name : String) (readings : Readings)
      (outcome : Except ε (ProviderCallResult β)) (now : Int)
  | reset (name : String)
  | resetAll

def newStats (name : String) (failureThreshold : Int) (resetTimeoutS : ℚ) : ProviderStats where
  name := name
  circuitBreaker := { failureThreshold := failureThreshold, resetTimeoutS := resetTimeoutS, name := name }
  callCount := 0
  successCount := 0
  failureCount := 0
  lastErrorKind := none
  lastErrorMessage := none
  lastCalledAt := none
  recentCalls := ⟨[], Nat.zero_le _⟩
  recentFailures := ⟨[], Nat.zero_le _⟩

def ProviderStats.reset (stats : ProviderStats) : ProviderStats where
  name := stats.name
  circuitBreaker := stats.circuitBreaker.reset
  callCount := 0
  successCount := 0
  failureCount := 0
  lastErrorKind := none
  lastErrorMessage := none
  lastCalledAt := none
  recentCalls := ⟨[], Nat.zero_le _⟩
  recentFailures := ⟨[], Nat.zero_le _⟩

namespace Observability

variable {ε β : Type}

/-- The monitor of a new process; `init_default_metrics` builds a bundle if the operator asked. -/
def initial (prometheusEnabled : Bool) : Observability :=
  ⟨emptyMonitor, [], if prometheusEnabled then some .build else none⟩

def register (o : Observability) (name : String) (failureThreshold : Int) (resetTimeoutS : ℚ) :
    Observability :=
  match o.monitor.providers name with
  | some _ => o
  | none =>
    { o with
      monitor := o.monitor.store name (newStats name failureThreshold resetTimeoutS)
      registered := o.registered ++ [name] }

/-- `record_result`, which hands what it recorded on to the metrics. -/
def record (o : Observability) (name : String) (result : ProviderCallResult β) (now : Int) :
    Observability where
  monitor := o.monitor.recordResult name result now
  registered := o.registered
  metrics :=
    match o.monitor.providers name with
    | none => o.metrics
    | some stats => o.metrics.map fun metrics => metrics.recordCall name stats.circuitBreaker.state
        result (ProviderHealthMonitor.recordedAttempts result)

/-- `call_with_resilience` around a loop of attempts of this outcome: what the breaker makes of it. -/
def throughBreaker (o : Observability) (name : String) (readings : Readings)
    (outcome : Except ε (ProviderCallResult β)) : Except ε (ProviderCallResult β) × Observability :=
  match o.monitor.providers name with
  | none => (outcome, o)
  | some stats =>
    let (passed, breaker, _) := stats.circuitBreaker.call readings (fun n => (outcome, n + 1)) 0
    (passed, { o with monitor := o.monitor.store name { stats with circuitBreaker := breaker } })

def reset (o : Observability) (name : String) : Observability :=
  match o.monitor.providers name with
  | none => o
  | some stats => { o with monitor := o.monitor.store name stats.reset }

def resetAll (o : Observability) : Observability := run (fun name o => o.reset name) o.registered o

def step (operation : MonitorCall ε β) (o : Observability) : Observability :=
  match operation with
  | .register name failureThreshold resetTimeoutS => o.register name failureThreshold resetTimeoutS
  | .recordResult name result now => o.record name result now
  | .call name readings outcome now =>
    match o.throughBreaker name readings outcome with
    | (.ok result, after) => after.record name result now
    | (.error _, after) => after
  | .reset name => o.reset name
  | .resetAll => o.resetAll

end Observability

/-! ## What was recorded -/

def recordOf {β : Type} (result : ProviderCallResult β) (now : Int) : CallRecord where
  timestamp := now
  success := result.success
  errorKind := if result.success then none else result.errorKind
  attempts := ProviderHealthMonitor.recordedAttempts result

def CallRecord.kind (record : CallRecord) : ProviderErrorKind := record.errorKind.getD .unknown

def failuresOf (history : List CallRecord) : List FailureRecord :=
  (history.filter fun record => !record.success).map fun record =>
    ⟨record.timestamp, record.kind, record.attempts⟩

/-- The process, with what each provider's calls came to since its last reset and at all; beside a
record of the second kind is the state the breaker was in. -/
structure Watched where
  process : Observability
  recent : String → List CallRecord
  ever : String → List (CallRecord × CircuitBreakerState)

namespace Watched

variable {ε β : Type}

def start (prometheusEnabled : Bool) : Watched where
  process := .initial prometheusEnabled
  recent _ := []
  ever _ := []

def record (w : Watched) (name : String) (result : ProviderCallResult β) (now : Int) : Watched :=
  match w.process.monitor.providers name with
  | none => w
  | some stats =>
    { process := w.process.record name result now
      recent := Function.update w.recent name (w.recent name ++ [recordOf result now])
      ever := Function.update w.ever name
        (w.ever name ++ [(recordOf result now, stats.circuitBreaker.state)]) }

def reset (name : String) (w : Watched) : Watched :=
  { w with process := w.process.reset name, recent := Function.update w.recent name [] }

def step (operation : MonitorCall ε β) (w : Watched) : Watched :=
  match operation with
  | .register name failureThreshold resetTimeoutS =>
    { w with process := w.process.register name failureThreshold resetTimeoutS }
  | .recordResult name result now => w.record name result now
  | .call name readings outcome now =>
    match w.process.throughBreaker name readings outcome with
    | (.ok result, after) => record { w with process := after } name result now
    | (.error _, after) => { w with process := after }
  | .reset name => w.reset name
  | .resetAll => { w with process := w.process.resetAll, recent := fun _ => [] }

theorem process_record (w : Watched) (name : String) (result : ProviderCallResult β) (now : Int) :
    (w.record name result now).process = w.process.record name result now := by
  rw [record]
  cases hStats : w.process.monitor.providers name with
  | none =>
    rw [Observability.record, ProviderHealthMonitor.recordResult, hStats]
  | some stats => rfl

theorem process_step (operation : MonitorCall ε β) (w : Watched) :
    (w.step operation).process = w.process.step operation := by
  cases operation with
  | call name readings outcome now =>
    rw [step, Observability.step]
    obtain ⟨passed | result, after⟩ := w.process.throughBreaker name readings outcome
    · rfl
    · exact process_record { w with process := after } name result now
  | recordResult name result now => exact process_record w name result now
  | register name failureThreshold resetTimeoutS => rfl
  | reset name => rfl
  | resetAll => rfl

end Watched

/-- The stats of a provider, by its calls since the last reset. -/
structure Describes (history : List CallRecord) (stats : ProviderStats) : Prop where
  calls : stats.callCount = history.length
  successes : stats.successCount = history.countP CallRecord.success
  failures : stats.failureCount = history.countP fun record => !record.success
  lastErrorKind : stats.lastErrorKind = history.getLast?.bind CallRecord.errorKind
  lastCalledAt : stats.lastCalledAt = history.getLast?.map CallRecord.timestamp
  recentCalls : stats.recentCalls.items = history.rtake callHistoryMaxlen
  recentFailures : stats.recentFailures.items = (failuresOf history).rtake failureHistoryMaxlen

theorem failuresOf_append (history history' : List CallRecord) :
    failuresOf (history ++ history') = failuresOf history ++ failuresOf history' := by
  rw [failuresOf, List.filter_append, List.map_append]
  rfl

theorem Describes.breaker {history : List CallRecord} {stats : ProviderStats}
    (h : Describes history stats) (breaker : CircuitBreaker) :
    Describes history { stats with circuitBreaker := breaker } :=
  ⟨h.calls, h.successes, h.failures, h.lastErrorKind, h.lastCalledAt, h.recentCalls,
    h.recentFailures⟩

theorem describes_nil (stats : ProviderStats) : Describes [] stats.reset :=
  ⟨rfl, rfl, rfl, rfl, rfl, rfl, rfl⟩

theorem recordOf_success {β : Type} {result : ProviderCallResult β} (h : result.success = true)
    (now : Int) :
    recordOf result now = ⟨now, true, none, ProviderHealthMonitor.recordedAttempts result⟩ := by
  rw [recordOf, h]
  rfl

theorem recordOf_failure {β : Type} {result : ProviderCallResult β} (h : result.success = false)
    (now : Int) :
    recordOf result now =
      ⟨now, false, result.errorKind, ProviderHealthMonitor.recordedAttempts result⟩ := by
  rw [recordOf, h]
  rfl

theorem Describes.recorded {β : Type} {history : List CallRecord} {stats : ProviderStats}
    (h : Describes history stats) (result : ProviderCallResult β) (now : Int) :
    Describes (history ++ [recordOf result now]) (ProviderHealthMonitor.recorded stats result now) := by
  have hRing (record : CallRecord) : (stats.recentCalls.append record).items =
      (history ++ [record]).rtake callHistoryMaxlen := by
    rw [Ring.items_append, h.recentCalls, rtake_append_singleton]
  rw [ProviderHealthMonitor.recorded]
  cases hSuccess : result.success with
  | true =>
    rw [if_pos rfl, recordOf_success hSuccess]
    exact
      { calls := by simp [h.calls]
        successes := by simp [h.successes]
        failures := by simp [h.failures]
        lastErrorKind := by simp
        lastCalledAt := by simp
        recentCalls := hRing _
        recentFailures := by simpa [failuresOf_append, failuresOf] using h.recentFailures }
  | false =>
    rw [if_neg Bool.false_ne_true, recordOf_failure hSuccess]
    exact
      { calls := by simp [h.calls]
        successes := by simp [h.successes]
        failures := by simp [h.failures]
        lastErrorKind := by simp
        lastCalledAt := by simp
        recentCalls := hRing _
        recentFailures := by
          rw [Ring.items_append, h.recentFailures, rtake_append_singleton, failuresOf_append]
          rfl }

/-! ## The counters -/

/-- The metrics of a provider, by its calls that were ever recorded: no reset reaches them. -/
structure Counted (entries : List (CallRecord × CircuitBreakerState)) (metrics : PrometheusMetrics)
    (name : String) : Prop where
  calls : metrics.calls name = entries.length
  successes : metrics.successes name = entries.countP fun entry => entry.1.success
  failures : metrics.failures name = entries.countP fun entry => !entry.1.success
  failuresByKind (kind : ProviderErrorKind) :
    metrics.failuresByKind name kind =
      entries.countP fun entry => !entry.1.success && decide (entry.1.kind = kind)
  attempts : metrics.attempts name = entries.map fun entry => entry.1.attempts
  circuitState : metrics.circuitState name = entries.getLast?.map fun entry => entry.2.gauge

theorem counted_build (name : String) : Counted [] PrometheusMetrics.build name :=
  ⟨rfl, rfl, rfl, fun _ => rfl, rfl, rfl⟩

theorem PrometheusMetrics.inc_eq (counter : String → Nat) (name name' : String) :
    inc counter name name' = counter name' + if name' = name then 1 else 0 := by
  rw [inc, Function.update_apply]
  split
  · next h => rw [h]
  · rfl

section RecordCall

variable {β : Type} {result : ProviderCallResult β}

theorem PrometheusMetrics.recordCall_success (h : result.success = true) (metrics : PrometheusMetrics)
    (name : String) (state : CircuitBreakerState) (attempts : Int) :
    metrics.recordCall name state result attempts =
      { metrics with
        calls := inc metrics.calls name
        successes := inc metrics.successes name
        attempts := Function.update metrics.attempts name (metrics.attempts name ++ [attempts])
        circuitState := Function.update metrics.circuitState name (some state.gauge) } := by
  rw [recordCall, h]
  rfl

theorem PrometheusMetrics.recordCall_failure (h : result.success = false)
    (metrics : PrometheusMetrics) (name : String) (state : CircuitBreakerState) (attempts : Int) :
    metrics.recordCall name state result attempts =
      { metrics with
        calls := inc metrics.calls name
        failures := inc metrics.failures name
        failuresByKind := Function.update metrics.failuresByKind name
          (Function.update (metrics.failuresByKind name) (result.errorKind.getD .unknown)
            (metrics.failuresByKind name (result.errorKind.getD .unknown) + 1))
        attempts := Function.update metrics.attempts name (metrics.attempts name ++ [attempts])
        circuitState := Function.update metrics.circuitState name (some state.gauge) } := by
  rw [recordCall, h]
  rfl

theorem Counted.recordCall {entries : List (CallRecord × CircuitBreakerState)}
    {metrics : PrometheusMetrics} {name : String} (h : Counted entries metrics name)
    (state : CircuitBreakerState) (result : ProviderCallResult β) (now : Int) :
    Counted (entries ++ [(recordOf result now, state)])
      (metrics.recordCall name state result (ProviderHealthMonitor.recordedAttempts result)) name := by
  cases hSuccess : result.success with
  | true =>
    rw [PrometheusMetrics.recordCall_success hSuccess, recordOf_success hSuccess]
    exact
      { calls := by simp [PrometheusMetrics.inc_eq, h.calls]
        successes := by simp [PrometheusMetrics.inc_eq, h.successes]
        failures := by simp [h.failures]
        failuresByKind := by simp [h.failuresByKind]
        attempts := by simp [h.attempts]
        circuitState := by simp }
  | false =>
    rw [PrometheusMetrics.recordCall_failure hSuccess, recordOf_failure hSuccess]
    exact
      { calls := by simp [PrometheusMetrics.inc_eq, h.calls]
        successes := by simp [h.successes]
        failures := by simp [PrometheusMetrics.inc_eq, h.failures]
        failuresByKind := by
          intro kind
          by_cases hKind : kind = result.errorKind.getD .unknown
          · subst hKind
            simp [h.failuresByKind, CallRecord.kind]
          · simp [hKind, Ne.symm hKind, h.failuresByKind, CallRecord.kind]
        attempts := by simp [h.attempts]
        circuitState := by simp }

theorem Counted.recordCall_of_ne {entries : List (CallRecord × CircuitBreakerState)}
    {metrics : PrometheusMetrics} {name name' : String} (h : Counted entries metrics name')
    (hName : name' ≠ name) (state : CircuitBreakerState) (result : ProviderCallResult β)
    (attempts : Int) : Counted entries (metrics.recordCall name state result attempts) name' := by
  cases hSuccess : result.success with
  | true =>
    rw [PrometheusMetrics.recordCall_success hSuccess]
    exact
      { calls := by simp [PrometheusMetrics.inc_eq, hName, h.calls]
        successes := by simp [PrometheusMetrics.inc_eq, hName, h.successes]
        failures := h.failures
        failuresByKind := h.failuresByKind
        attempts := by simp [hName, h.attempts]
        circuitState := by simp [hName, h.circuitState] }
  | false =>
    rw [PrometheusMetrics.recordCall_failure hSuccess]
    exact
      { calls := by simp [PrometheusMetrics.inc_eq, hName, h.calls]
        successes := h.successes
        failures := by simp [PrometheusMetrics.inc_eq, hName, h.failures]
        failuresByKind := by simp [hName, h.failuresByKind]
        attempts := by simp [hName, h.attempts]
        circuitState := by simp [hName, h.circuitState] }

end RecordCall

/-! ## What stays true -/

/-- The process shows what was recorded. -/
structure Watched.Faithful (w : Watched) : Prop where
  registered (name : String) :
    name ∈ w.process.registered ↔ ∃ stats, w.process.monitor.providers name = some stats
  distinct : w.process.registered.Nodup
  named (name : String) (stats : ProviderStats) :
    w.process.monitor.providers name = some stats → stats.name = name
  described (name : String) (stats : ProviderStats) :
    w.process.monitor.providers name = some stats → Describes (w.recent name) stats
  unrecorded (name : String) : w.process.monitor.providers name = none → w.recent name = []
  lately (name : String) : w.recent name <:+ (w.ever name).map Prod.fst
  counted (metrics : PrometheusMetrics) :
    w.process.metrics = some metrics → ∀ name, Counted (w.ever name) metrics name

namespace Watched

variable {ε β : Type} {w : Watched} {name : String} {stats stats' : ProviderStats}

theorem faithful_start (prometheusEnabled : Bool) : (start prometheusEnabled).Faithful where
  registered name := by simp [start, Observability.initial, emptyMonitor]
  distinct := List.nodup_nil
  named name stats hStats := nomatch hStats
  described name stats hStats := nomatch hStats
  unrecorded _ _ := rfl
  lately _ := List.suffix_refl _
  counted := by
    rintro metrics hMetrics name
    cases prometheusEnabled with
    | false => cases hMetrics
    | true =>
      cases hMetrics
      exact counted_build name

theorem providers_store (monitor : ProviderHealthMonitor) (name : String) (stats : ProviderStats) :
    (monitor.store name stats).providers = Function.update monitor.providers name (some stats) := rfl

theorem mem_registered_store (h : w.Faithful) (hStats : w.process.monitor.providers name = some stats)
    (name' : String) :
    name' ∈ w.process.registered ↔
      ∃ found, (w.process.monitor.store name stats').providers name' = some found := by
  rw [h.registered, providers_store]
  by_cases hName : name' = name
  · subst hName
    simp [hStats]
  · rw [Function.update_of_ne hName]

/-- The stats of a registered provider are exchanged, and what they describe with them. -/
theorem Faithful.exchanged (h : w.Faithful) (hStats : w.process.monitor.providers name = some stats)
    {history : List CallRecord} (hDescribes : Describes history stats')
    (hNamed : stats'.name = stats.name)
    {entries : List (CallRecord × CircuitBreakerState)} (hLately : history <:+ entries.map Prod.fst)
    {metrics' : Option PrometheusMetrics}
    (hCounted : ∀ metrics, metrics' = some metrics →
      ∀ name', Counted (Function.update w.ever name entries name') metrics name') :
    Faithful
      ⟨⟨w.process.monitor.store name stats', w.process.registered, metrics'⟩,
        Function.update w.recent name history, Function.update w.ever name entries⟩ where
  registered := mem_registered_store h hStats
  distinct := h.distinct
  named := by
    intro name' found hFound
    dsimp only at hFound
    rw [providers_store] at hFound
    by_cases hName : name' = name
    · subst hName
      rw [Function.update_self] at hFound
      cases hFound
      exact hNamed.trans (h.named name' stats hStats)
    · rw [Function.update_of_ne hName] at hFound
      exact h.named name' found hFound
  described := by
    intro name' found hFound
    dsimp only at hFound ⊢
    rw [providers_store] at hFound
    by_cases hName : name' = name
    · subst hName
      rw [Function.update_self] at hFound ⊢
      cases hFound
      exact hDescribes
    · rw [Function.update_of_ne hName] at hFound ⊢
      exact h.described name' found hFound
  unrecorded := by
    intro name' hNone
    dsimp only at hNone ⊢
    rw [providers_store] at hNone
    by_cases hName : name' = name
    · subst hName
      rw [Function.update_self] at hNone
      cases hNone
    · rw [Function.update_of_ne hName] at hNone ⊢
      exact h.unrecorded name' hNone
  lately := by
    intro name'
    dsimp only
    by_cases hName : name' = name
    · subst hName
      rw [Function.update_self, Function.update_self]
      exact hLately
    · rw [Function.update_of_ne hName, Function.update_of_ne hName]
      exact h.lately name'
  counted := hCounted

theorem Faithful.stored (h : w.Faithful) (hStats : w.process.monitor.providers name = some stats)
    {history : List CallRecord} (hDescribes : Describes history stats')
    (hNamed : stats'.name = stats.name)
    (hLately : history <:+ (w.ever name).map Prod.fst) :
    Faithful
      ⟨⟨w.process.monitor.store name stats', w.process.registered, w.process.metrics⟩,
        Function.update w.recent name history, w.ever⟩ := by
  have hExchanged := h.exchanged hStats hDescribes hNamed hLately
    (by rw [Function.update_eq_self]; exact h.counted)
  rwa [Function.update_eq_self] at hExchanged

theorem Faithful.reset (h : w.Faithful) (name : String) : (w.reset name).Faithful := by
  rw [Watched.reset, Observability.reset]
  cases hStats : w.process.monitor.providers name with
  | none =>
    rw [← h.unrecorded name hStats, Function.update_eq_self]
    exact h
  | some stats => exact h.stored hStats (describes_nil stats) rfl List.nil_suffix

theorem process_resets (names : List String) (w : Watched) :
    (run Watched.reset names w).process = run (fun name o => o.reset name) names w.process := by
  induction names generalizing w with
  | nil => rfl
  | cons name names ih => exact ih (w.reset name)

theorem ever_resets (names : List String) (w : Watched) :
    (run Watched.reset names w).ever = w.ever := by
  induction names generalizing w with
  | nil => rfl
  | cons name names ih => exact ih (w.reset name)

theorem recent_resets (names : List String) (w : Watched) (name : String) :
    (run Watched.reset names w).recent name = if name ∈ names then [] else w.recent name := by
  induction names generalizing w with
  | nil => simp [run]
  | cons first names ih =>
    rw [run, ih, Watched.reset]
    by_cases hFirst : name = first
    · subst hFirst
      simp
    · simp [hFirst]

/-- One reset for each registered name leaves nothing: the others had nothing to begin with. -/
theorem Faithful.resetAll_eq (h : w.Faithful) :
    (w.step (.resetAll : MonitorCall ε β)) = run Watched.reset w.process.registered w := by
  have hRecent : (fun _ => []) = (run Watched.reset w.process.registered w).recent := by
    funext name
    rw [recent_resets]
    split
    · rfl
    · next hName =>
      refine (h.unrecorded name ?_).symm
      rw [h.registered, not_exists] at hName
      exact Option.eq_none_iff_forall_ne_some.mpr hName
  rw [step, hRecent, Observability.resetAll, ← process_resets]
  congr 1
  exact (ever_resets w.process.registered w).symm

theorem Faithful.resetAll (h : w.Faithful) :
    (w.step (.resetAll : MonitorCall ε β)).Faithful := by
  rw [h.resetAll_eq]
  exact run_invariant Faithful (fun name _ hFaithful => hFaithful.reset name) _ h

theorem Faithful.register (h : w.Faithful) (name : String) (failureThreshold : Int)
    (resetTimeoutS : ℚ) :
    Faithful { w with process := w.process.register name failureThreshold resetTimeoutS } := by
  rw [Observability.register]
  cases hStats : w.process.monitor.providers name with
  | some stats => exact h
  | none =>
    have hNew : name ∉ w.process.registered := by
      rw [h.registered, hStats]
      exact fun ⟨stats, hSome⟩ => nomatch hSome
    constructor
    case registered =>
      intro name'
      dsimp only
      rw [List.mem_append, List.mem_singleton, h.registered, providers_store]
      by_cases hName : name' = name
      · subst hName
        simp
      · simp [hName]
    case distinct =>
      refine List.nodup_append.mpr ⟨h.distinct, List.pairwise_singleton _ name, ?_⟩
      rintro a hOld b hLast rfl
      exact hNew (List.mem_singleton.mp hLast ▸ hOld)
    case named =>
      intro name' found hFound
      dsimp only at hFound
      rw [providers_store] at hFound
      by_cases hName : name' = name
      · subst hName
        rw [Function.update_self] at hFound
        cases hFound
        rfl
      · rw [Function.update_of_ne hName] at hFound
        exact h.named name' found hFound
    case described =>
      intro name' found hFound
      dsimp only at hFound
      rw [providers_store] at hFound
      by_cases hName : name' = name
      · subst hName
        rw [Function.update_self] at hFound
        cases hFound
        rw [h.unrecorded name' hStats]
        exact describes_nil (newStats name' failureThreshold resetTimeoutS)
      · rw [Function.update_of_ne hName] at hFound
        exact h.described name' found hFound
    case unrecorded =>
      intro name' hNone
      dsimp only at hNone
      rw [providers_store] at hNone
      by_cases hName : name' = name
      · subst hName
        exact h.unrecorded name' hStats
      · rw [Function.update_of_ne hName] at hNone
        exact h.unrecorded name' hNone
    case lately => exact h.lately
    case counted => exact h.counted

/-- What was made of the breaker is no matter of the records. -/
theorem Faithful.throughBreaker (h : w.Faithful) (name : String) (readings : Readings)
    (outcome : Except ε (ProviderCallResult β)) :
    Faithful { w with process := (w.process.throughBreaker name readings outcome).2 } := by
  rw [Observability.throughBreaker]
  cases hStats : w.process.monitor.providers name with
  | none => exact h
  | some stats =>
    have hStored := h.stored hStats ((h.described name stats hStats).breaker
      (stats.circuitBreaker.call readings (fun n => (outcome, n + 1)) 0).2.1) rfl (h.lately name)
    rw [Function.update_eq_self] at hStored
    exact hStored

theorem Faithful.record (h : w.Faithful) (name : String) (result : ProviderCallResult β) (now : Int) :
    (w.record name result now).Faithful := by
  rw [Watched.record]
  cases hStats : w.process.monitor.providers name with
  | none => exact h
  | some stats =>
    have hLately : w.recent name ++ [recordOf result now] <:+
        (w.ever name ++ [(recordOf result now, stats.circuitBreaker.state)]).map Prod.fst := by
      rw [List.map_append]
      exact List.suffix_append_self_iff.mpr (h.lately name)
    have hProcess : w.process.record name result now =
        ⟨w.process.monitor.store name (ProviderHealthMonitor.recorded stats result now),
          w.process.registered, w.process.metrics.map fun metrics =>
            metrics.recordCall name stats.circuitBreaker.state result
              (ProviderHealthMonitor.recordedAttempts result)⟩ := by
      rw [Observability.record, ProviderHealthMonitor.recordResult, hStats]
    dsimp only
    rw [hProcess]
    have hNamed : (ProviderHealthMonitor.recorded stats result now).name = stats.name := by
      rw [ProviderHealthMonitor.recorded]
      split <;> rfl
    refine h.exchanged hStats ((h.described name stats hStats).recorded result now) hNamed hLately ?_
    intro metrics' hMetrics name'
    obtain ⟨metrics, hSome, rfl⟩ := Option.map_eq_some_iff.mp hMetrics
    have hCounted := h.counted metrics hSome name'
    by_cases hName : name' = name
    · subst hName
      rw [Function.update_self]
      exact hCounted.recordCall _ result now
    · rw [Function.update_of_ne hName]
      exact hCounted.recordCall_of_ne hName _ result _

theorem Faithful.step (h : w.Faithful) (operation : MonitorCall ε β) :
    (w.step operation).Faithful := by
  cases operation with
  | register name failureThreshold resetTimeoutS => exact h.register name failureThreshold resetTimeoutS
  | recordResult name result now => exact h.record name result now
  | call name readings outcome now =>
    have hAfter := h.throughBreaker name readings outcome
    rw [Watched.step]
    generalize w.process.throughBreaker name readings outcome = passed at hAfter
    obtain ⟨_ | result, after⟩ := passed
    · exact hAfter
    · exact hAfter.record name result now
  | reset name => exact h.reset name
  | resetAll => exact h.resetAll

theorem process_run (operations : List (MonitorCall ε β)) (w : Watched) :
    (run Watched.step operations w).process = run Observability.step operations w.process := by
  induction operations generalizing w with
  | nil => rfl
  | cons operation operations ih =>
    rw [run, run, ih, process_step]

theorem Faithful.run (h : w.Faithful) (operations : List (MonitorCall ε β)) :
    (run Watched.step operations w).Faithful :=
  run_invariant Faithful (fun operation _ hFaithful => hFaithful.step operation) operations h

end Watched

/-! ## The clock -/

/-- When an operation records, if it does. -/
def MonitorCall.time? {ε β : Type} : MonitorCall ε β → Option Int
  | .recordResult _ _ now | .call _ _ _ now => some now
  | .register .. | .reset .. | .resetAll => none

def timesOf (entries : List (CallRecord × CircuitBreakerState)) : List Int :=
  entries.map fun entry => entry.1.timestamp

namespace Watched

variable {ε β : Type}

theorem ever_record (w : Watched) (name name' : String) (result : ProviderCallResult β) (now : Int) :
    ∃ added, (w.record name result now).ever name' = w.ever name' ++ added ∧
      (timesOf added).Sublist [now] := by
  rw [record]
  cases hStats : w.process.monitor.providers name with
  | none => exact ⟨[], (List.append_nil _).symm, List.nil_sublist _⟩
  | some stats =>
    by_cases hName : name' = name
    · subst hName
      exact ⟨[(recordOf result now, stats.circuitBreaker.state)], Function.update_self ..,
        List.Sublist.refl _⟩
    · refine ⟨[], ?_, List.nil_sublist _⟩
      rw [List.append_nil]
      exact Function.update_of_ne hName ..

theorem ever_step (w : Watched) (operation : MonitorCall ε β) (name' : String) :
    ∃ added, (w.step operation).ever name' = w.ever name' ++ added ∧
      (timesOf added).Sublist operation.time?.toList := by
  cases operation with
  | recordResult name result now => exact ever_record w name name' result now
  | call name readings outcome now =>
    rw [step]
    obtain ⟨_ | result, after⟩ := w.process.throughBreaker name readings outcome
    · exact ⟨[], (List.append_nil _).symm, List.nil_sublist _⟩
    · exact ever_record { w with process := after } name name' result now
  | register name failureThreshold resetTimeoutS =>
    exact ⟨[], (List.append_nil _).symm, List.nil_sublist _⟩
  | reset name => exact ⟨[], (List.append_nil _).symm, List.nil_sublist _⟩
  | resetAll => exact ⟨[], (List.append_nil _).symm, List.nil_sublist _⟩

/-- What is recorded is recorded in the order of the operations, at their times. -/
theorem ever_run (operations : List (MonitorCall ε β)) (w : Watched) (name : String) :
    ∃ added, (run Watched.step operations w).ever name = w.ever name ++ added ∧
      (timesOf added).Sublist (operations.filterMap MonitorCall.time?) := by
  induction operations generalizing w with
  | nil => exact ⟨[], (List.append_nil _).symm, List.nil_sublist _⟩
  | cons operation operations ih =>
    obtain ⟨first, hFirst, hFirstTimes⟩ := ever_step w operation name
    obtain ⟨rest, hRest, hRestTimes⟩ := ih (w.step operation)
    refine ⟨first ++ rest, ?_, ?_⟩
    · rw [run, hRest, hFirst, List.append_assoc]
    · have hBoth := hFirstTimes.append hRestTimes
      rw [timesOf, List.map_append]
      cases hTime : operation.time? with
      | none =>
        rw [hTime] at hBoth
        rwa [List.filterMap_cons_none hTime]
      | some now =>
        rw [hTime] at hBoth
        rwa [List.filterMap_cons_some hTime]

/-- The records of a provider are as old as they stand, if the clock never went back. -/
theorem recent_ordered (prometheusEnabled : Bool) {operations : List (MonitorCall ε β)}
    (hClock : (operations.filterMap MonitorCall.time?).Pairwise (· ≤ ·)) (name : String) :
    ((run step operations (start prometheusEnabled)).recent name).Pairwise fun a b =>
      a.timestamp ≤ b.timestamp := by
  have hFaithful := (faithful_start prometheusEnabled).run operations
  obtain ⟨added, hEver, hTimes⟩ := ever_run operations (start prometheusEnabled) name
  have hAll : (timesOf ((run step operations (start prometheusEnabled)).ever name)).Pairwise
      (· ≤ ·) := by
    rw [hEver]
    exact hClock.sublist hTimes
  have hEntries : (((run step operations (start prometheusEnabled)).ever name).map
      Prod.fst).Pairwise fun a b => a.timestamp ≤ b.timestamp := by
    rw [timesOf, List.pairwise_map] at hAll
    exact List.pairwise_map.mpr hAll
  exact hEntries.sublist (hFaithful.lately name).sublist

end Watched

theorem Describes.summary24h {history : List CallRecord} {stats : ProviderStats}
    (h : Describes history stats)
    (hClock : history.Pairwise fun a b => a.timestamp ≤ b.timestamp) (now : Int) :
    stats.summary24h now = summarize ((history.filter (inWindow now)).rtake callHistoryMaxlen) := by
  rw [ProviderStats.summary24h, h.recentCalls]
  exact congrArg summarize (filter_rtake CallRecord.timestamp hClock (now - twentyFourHours))

theorem Describes.recentFailuresUpTo {history : List CallRecord} {stats : ProviderStats}
    (h : Describes history stats) (limit : Int) :
    stats.recentFailuresUpTo limit =
      (failuresOf history).rtake (min limit.toNat failureHistoryMaxlen) := by
  rw [ProviderStats.recentFailuresUpTo, h.recentFailures, rtake_rtake]
  split
  · next hLimit => rw [Int.toNat_of_nonpos hLimit, Nat.zero_min, List.rtake_zero]
  · rfl

end StockAiPlatform.Providers
