import StockAiPlatform.Data.ProviderObservability
import StockAiPlatform.Python.Text

/-! # The provider health routes

Each row is put together from the settings and the monitor. Over any run it shows the
calls since the last reset and the state of the breaker; the text of an error is kept in
the monitor and shown nowhere.
-/

namespace StockAiPlatform.Providers
set_option autoImplicit false

open Transaction

/-- The settings the route looks at. -/
structure ProviderSettings where
  kisAppKey : String
  kisAppSecret : String
  dartEnabled : Bool
  dartApiKey : String
  rssNewsEnabled : Bool
  rssFeedUrls : String

structure RecentFailureSummary where
  timestamp : Int
  errorKind : String
  deriving DecidableEq

structure ProviderHealthItem where
  providerName : String
  enabled : Bool
  configured : Bool
  circuitState : String
  callCount : Nat
  successCount : Nat
  failureCount : Nat
  lastErrorKind : Option String
  lastCalledAt : Option Int
  summary : Summary24h
  recentFailures : List RecentFailureSummary
  deriving DecidableEq

structure ProviderHealthResponse where
  items : List ProviderHealthItem
  count : Nat
  deriving DecidableEq

def recentFailureLimit : Int := 5

def defaultProviders : List String := ["kis", "dart", "rss"]

def isEnabled (provider : String) (settings : ProviderSettings) : Bool :=
  if provider = "kis" then settings.kisAppKey ≠ ""
  else if provider = "dart" then settings.dartEnabled
  else if provider = "rss" then settings.rssNewsEnabled
  else false

def isConfigured (provider : String) (settings : ProviderSettings) : Bool :=
  if provider = "kis" then settings.kisAppKey ≠ "" && settings.kisAppSecret ≠ ""
  else if provider = "dart" then settings.dartApiKey ≠ ""
  else if provider = "rss" then !(Python.strip settings.rssFeedUrls.toList).isEmpty
  else false

def failureSummary (failure : FailureRecord) : RecentFailureSummary :=
  ⟨failure.timestamp, failure.errorKind.value⟩

/-- `_serialise_recent_failures`, the newest first. -/
def serialiseRecentFailures (stats : ProviderStats) : List RecentFailureSummary :=
  (stats.recentFailuresUpTo recentFailureLimit).reverse.map failureSummary

def unregisteredItem (provider : String) (settings : ProviderSettings) : ProviderHealthItem where
  providerName := provider
  enabled := isEnabled provider settings
  configured := isConfigured provider settings
  circuitState := "UNREGISTERED"
  callCount := 0
  successCount := 0
  failureCount := 0
  lastErrorKind := none
  lastCalledAt := none
  summary := ⟨0, 0, 0, none, none⟩
  recentFailures := []

def buildItem (provider : String) (settings : ProviderSettings) (monitor : ProviderHealthMonitor)
    (now : Int) : ProviderHealthItem :=
  match monitor.providers provider with
  | none => unregisteredItem provider settings
  | some stats =>
    { providerName := provider
      enabled := isEnabled provider settings
      configured := isConfigured provider settings
      circuitState := stats.circuitBreaker.state.value
      callCount := stats.callCount
      successCount := stats.successCount
      failureCount := stats.failureCount
      lastErrorKind := stats.lastErrorKind.map ProviderErrorKind.value
      lastCalledAt := stats.lastCalledAt
      summary := stats.summary24h now
      recentFailures := serialiseRecentFailures stats }

/-- The names a loop over `statuses` adds to those already seen. -/
def unseenNames : List String → List String → List String
  | [], _ => []
  | name :: names, seen =>
    if seen.contains name then unseenNames names seen
    else name :: unseenNames names (name :: seen)

namespace Observability

/-- The names in `get_all_status`. -/
def statusNames (o : Observability) : List String :=
  (o.registered.filterMap o.monitor.providers).map ProviderStats.name

def getProviderHealth (o : Observability) (settings : ProviderSettings) (now : Int) :
    ProviderHealthResponse :=
  let items := (defaultProviders ++ unseenNames o.statusNames defaultProviders).map fun provider =>
    buildItem provider settings o.monitor now
  ⟨items, items.length⟩

end Observability

/-! ## The names -/

theorem mem_unseenNames_iff {names seen : List String} {name : String} :
    name ∈ unseenNames names seen ↔ name ∈ names ∧ name ∉ seen := by
  induction names generalizing seen with
  | nil => simp [unseenNames]
  | cons first names ih =>
    rw [unseenNames]
    split
    · next hSeen =>
      rw [ih, List.mem_cons]
      constructor
      · rintro ⟨hMem, hNot⟩
        exact ⟨.inr hMem, hNot⟩
      · rintro ⟨rfl | hMem, hNot⟩
        · exact absurd (List.contains_iff_mem.mp hSeen) hNot
        · exact ⟨hMem, hNot⟩
    · next hSeen =>
      rw [List.mem_cons, ih, List.mem_cons, List.mem_cons]
      have hFirst : first ∉ seen := fun hMem => hSeen (List.contains_iff_mem.mpr hMem)
      constructor
      · rintro (rfl | ⟨hMem, hNot⟩)
        · exact ⟨.inl rfl, hFirst⟩
        · exact ⟨.inr hMem, fun h => hNot (.inr h)⟩
      · rintro ⟨rfl | hMem, hNot⟩
        · exact .inl rfl
        · by_cases hName : name = first
          · exact .inl hName
          · exact .inr ⟨hMem, fun h => h.elim hName hNot⟩

theorem nodup_unseenNames (names seen : List String) : (unseenNames names seen).Nodup := by
  induction names generalizing seen with
  | nil => exact List.nodup_nil
  | cons first names ih =>
    rw [unseenNames]
    split
    · exact ih seen
    · refine List.nodup_cons.mpr ⟨?_, ih (first :: seen)⟩
      rw [mem_unseenNames_iff]
      exact fun h => h.2 List.mem_cons_self

theorem Watched.Faithful.statusNames {w : Watched} (h : w.Faithful) :
    w.process.statusNames = w.process.registered := by
  have hSome (names : List String) (hNames : ∀ name ∈ names, name ∈ w.process.registered) :
      (names.filterMap w.process.monitor.providers).map ProviderStats.name = names := by
    induction names with
    | nil => rfl
    | cons name names ih =>
      rw [List.forall_mem_cons] at hNames
      obtain ⟨stats, hStats⟩ := (h.registered name).mp hNames.1
      rw [List.filterMap_cons_some hStats, List.map_cons, h.named name stats hStats, ih hNames.2]
  exact hSome _ fun _ hName => hName

/-! ## The rows -/

/-- The row of a registered provider, by its calls since the last reset. -/
def shownItem (provider : String) (settings : ProviderSettings) (state : CircuitBreakerState)
    (history : List CallRecord) (now : Int) : ProviderHealthItem where
  providerName := provider
  enabled := isEnabled provider settings
  configured := isConfigured provider settings
  circuitState := state.value
  callCount := history.length
  successCount := history.countP CallRecord.success
  failureCount := history.countP fun record => !record.success
  lastErrorKind := (history.getLast?.bind CallRecord.errorKind).map ProviderErrorKind.value
  lastCalledAt := history.getLast?.map CallRecord.timestamp
  summary := summarize ((history.filter (inWindow now)).rtake callHistoryMaxlen)
  recentFailures := ((failuresOf history).rtake 5).reverse.map failureSummary

theorem Describes.buildItem {history : List CallRecord} {stats : ProviderStats}
    {monitor : ProviderHealthMonitor} {provider : String} (h : Describes history stats)
    (hStats : monitor.providers provider = some stats)
    (hClock : history.Pairwise fun a b => a.timestamp ≤ b.timestamp)
    (settings : ProviderSettings) (now : Int) :
    Providers.buildItem provider settings monitor now =
      shownItem provider settings stats.circuitBreaker.state history now := by
  rw [Providers.buildItem, hStats]
  simp only
  rw [h.calls, h.successes, h.failures, h.lastErrorKind, h.lastCalledAt, h.summary24h hClock,
    serialiseRecentFailures, h.recentFailuresUpTo]
  rfl

/-- The response as the records and the breakers determine it. -/
structure Shows (w : Watched) (settings : ProviderSettings) (now : Int)
    (response : ProviderHealthResponse) : Prop where
  names : response.items.map ProviderHealthItem.providerName =
    defaultProviders ++ unseenNames w.process.registered defaultProviders
  distinct : (response.items.map ProviderHealthItem.providerName).Nodup
  count : response.count = response.items.length
  unregistered (item : ProviderHealthItem) : item ∈ response.items →
    w.process.monitor.providers item.providerName = none →
    item = unregisteredItem item.providerName settings
  registered (item : ProviderHealthItem) (stats : ProviderStats) : item ∈ response.items →
    w.process.monitor.providers item.providerName = some stats →
    item = shownItem item.providerName settings stats.circuitBreaker.state
      (w.recent item.providerName) now

theorem providerName_buildItem (provider : String) (settings : ProviderSettings)
    (monitor : ProviderHealthMonitor) (now : Int) :
    (buildItem provider settings monitor now).providerName = provider := by
  rw [buildItem]
  split <;> rfl

theorem nodup_providerNames (names : List String) :
    (defaultProviders ++ unseenNames names defaultProviders).Nodup := by
  refine List.nodup_append.mpr ⟨by decide, nodup_unseenNames names defaultProviders, ?_⟩
  rintro provider hDefault provider' hUnseen rfl
  exact (mem_unseenNames_iff.mp hUnseen).2 hDefault

theorem Watched.Faithful.shows {w : Watched} (h : w.Faithful)
    (hClock : ∀ name, (w.recent name).Pairwise fun a b => a.timestamp ≤ b.timestamp)
    (settings : ProviderSettings) (now : Int) :
    Shows w settings now (w.process.getProviderHealth settings now) := by
  have hNames : ((w.process.getProviderHealth settings now).items.map
      ProviderHealthItem.providerName) =
        defaultProviders ++ unseenNames w.process.registered defaultProviders := by
    rw [Observability.getProviderHealth, h.statusNames, List.map_map]
    exact List.map_id'' (fun name => providerName_buildItem name settings w.process.monitor now) _
  have hItem (item : ProviderHealthItem)
      (hMem : item ∈ (w.process.getProviderHealth settings now).items) :
      item = buildItem item.providerName settings w.process.monitor now := by
    obtain ⟨name, -, rfl⟩ := List.mem_map.mp hMem
    rw [providerName_buildItem]
  constructor
  case names => exact hNames
  case distinct =>
    rw [hNames]
    exact nodup_providerNames w.process.registered
  case count => rfl
  case unregistered =>
    intro item hMem hNone
    have hBuilt : buildItem item.providerName settings w.process.monitor now =
        unregisteredItem item.providerName settings := by
      rw [buildItem, hNone]
    exact (hItem item hMem).trans hBuilt
  case registered =>
    intro item stats hMem hStats
    exact (hItem item hMem).trans
      ((h.described _ stats hStats).buildItem hStats (hClock _) settings now)

/-! ## The text of an error -/

/-- The result, had the provider said nothing about an error and returned no value. -/
def ProviderCallResult.silenced {β : Type} (result : ProviderCallResult β) : ProviderCallResult β :=
  { result with value := none, errorMessage := none }

def ProviderStats.silenced (stats : ProviderStats) : ProviderStats :=
  { stats with lastErrorMessage := none }

def Observability.silenced (o : Observability) : Observability :=
  ⟨⟨fun name => (o.monitor.providers name).map ProviderStats.silenced⟩, o.registered, o.metrics⟩

def MonitorCall.silenced {ε β : Type} : MonitorCall ε β → MonitorCall ε β
  | .register name failureThreshold resetTimeoutS => .register name failureThreshold resetTimeoutS
  | .recordResult name result now => .recordResult name result.silenced now
  | .call name readings outcome now =>
    .call name readings (outcome.map ProviderCallResult.silenced) now
  | .reset name => .reset name
  | .resetAll => .resetAll

theorem recorded_silenced {β : Type} (stats : ProviderStats) (result : ProviderCallResult β)
    (now : Int) :
    (ProviderHealthMonitor.recorded stats result now).silenced =
      (ProviderHealthMonitor.recorded stats.silenced result.silenced now).silenced := by
  rw [ProviderHealthMonitor.recorded, ProviderHealthMonitor.recorded]
  cases hSuccess : result.success with
  | true =>
    have hSilenced : result.silenced.success = true := hSuccess
    rw [if_pos rfl, if_pos hSilenced]
    rfl
  | false =>
    have hSilenced : result.silenced.success = false := hSuccess
    rw [if_neg Bool.false_ne_true, if_neg (ne_true_of_eq_false hSilenced)]
    rfl

theorem circuitBreaker_congr {stats stats' : ProviderStats} (h : stats.silenced = stats'.silenced) :
    stats.circuitBreaker = stats'.circuitBreaker := by
  have hSilent := congrArg ProviderStats.circuitBreaker h
  exact hSilent

theorem settle_silenced {β : Type} (breaker : CircuitBreaker) (result : ProviderCallResult β)
    (now : ℚ) : breaker.settle result.silenced now = breaker.settle result now := rfl

namespace Observability

variable {ε β : Type} {o o' : Observability}

theorem providers_congr (h : o.silenced = o'.silenced) (name : String) :
    (o.monitor.providers name).map ProviderStats.silenced =
      (o'.monitor.providers name).map ProviderStats.silenced :=
  congrFun (congrArg (fun o => o.monitor.providers) h) name

theorem store_congr (h : o.silenced = o'.silenced) {stats stats' : ProviderStats}
    (hStats : stats.silenced = stats'.silenced) (name : String) {registered : List String}
    {metrics : Option PrometheusMetrics} :
    silenced ⟨o.monitor.store name stats, registered, metrics⟩ =
      silenced ⟨o'.monitor.store name stats', registered, metrics⟩ := by
  have hProviders : (fun name' => ((o.monitor.store name stats).providers name').map
      ProviderStats.silenced) = fun name' => ((o'.monitor.store name stats').providers name').map
        ProviderStats.silenced := by
    funext name'
    rw [Watched.providers_store, Watched.providers_store]
    by_cases hName : name' = name
    · subst hName
      rw [Function.update_self, Function.update_self, Option.map_some, Option.map_some, hStats]
    · rw [Function.update_of_ne hName, Function.update_of_ne hName]
      exact providers_congr h name'
  rw [silenced, hProviders]
  rfl

theorem registered_congr (h : o.silenced = o'.silenced) : o.registered = o'.registered := by
  have hSilent := congrArg Observability.registered h
  exact hSilent

theorem metrics_congr (h : o.silenced = o'.silenced) : o.metrics = o'.metrics := by
  have hSilent := congrArg Observability.metrics h
  exact hSilent

/-- Two processes alike but for their messages know the same names, and of each the same. -/
theorem stats_congr (h : o.silenced = o'.silenced) (name : String) :
    (o.monitor.providers name = none ∧ o'.monitor.providers name = none) ∨
      ∃ stats stats', o.monitor.providers name = some stats ∧
        o'.monitor.providers name = some stats' ∧ stats.silenced = stats'.silenced := by
  have hMap := providers_congr h name
  cases hLeft : o.monitor.providers name with
  | none =>
    rw [hLeft, Option.map_none, eq_comm, Option.map_eq_none_iff] at hMap
    exact .inl ⟨rfl, hMap⟩
  | some stats =>
    rw [hLeft, Option.map_some, eq_comm, Option.map_eq_some_iff] at hMap
    obtain ⟨stats', hRight, hStats⟩ := hMap
    exact .inr ⟨stats, stats', rfl, hRight, hStats.symm⟩

theorem register_congr (h : o.silenced = o'.silenced) (name : String) (failureThreshold : Int)
    (resetTimeoutS : ℚ) :
    (o.register name failureThreshold resetTimeoutS).silenced =
      (o'.register name failureThreshold resetTimeoutS).silenced := by
  rw [register, register]
  obtain ⟨hLeft, hRight⟩ | ⟨stats, stats', hLeft, hRight, -⟩ := stats_congr h name
  · rw [hLeft, hRight]
    simp only
    rw [registered_congr h, metrics_congr h]
    exact store_congr h rfl name
  · rw [hLeft, hRight]
    exact h

theorem record_congr (h : o.silenced = o'.silenced) {result result' : ProviderCallResult β}
    (hResult : result.silenced = result'.silenced) (name : String) (now : Int) :
    (o.record name result now).silenced = (o'.record name result' now).silenced := by
  rw [record, record, ProviderHealthMonitor.recordResult, ProviderHealthMonitor.recordResult]
  obtain ⟨hLeft, hRight⟩ | ⟨stats, stats', hLeft, hRight, hStats⟩ := stats_congr h name
  · rw [hLeft, hRight]
    exact h
  · rw [hLeft, hRight]
    have hRecorded : (ProviderHealthMonitor.recorded stats result now).silenced =
        (ProviderHealthMonitor.recorded stats' result' now).silenced := by
      rw [recorded_silenced, hStats, hResult, ← recorded_silenced]
    have hMetrics (metrics : PrometheusMetrics) (state : CircuitBreakerState) :
        metrics.recordCall name state result (ProviderHealthMonitor.recordedAttempts result) =
          metrics.recordCall name state result'
            (ProviderHealthMonitor.recordedAttempts result') := by
      have hSilent := congrArg (fun silent : ProviderCallResult β => metrics.recordCall name state
        silent (ProviderHealthMonitor.recordedAttempts silent)) hResult
      exact hSilent
    simp only [hMetrics, circuitBreaker_congr hStats, registered_congr h, metrics_congr h]
    exact store_congr h hRecorded name

/-- What the breaker passes on may be its own message, in both processes the same. -/
theorem throughBreaker_congr (h : o.silenced = o'.silenced)
    {outcome outcome' : Except ε (ProviderCallResult β)}
    (hOutcome : outcome.map ProviderCallResult.silenced = outcome'.map ProviderCallResult.silenced)
    (name : String) (readings : Readings) :
    (o.throughBreaker name readings outcome).1.map ProviderCallResult.silenced =
        (o'.throughBreaker name readings outcome').1.map ProviderCallResult.silenced ∧
      (o.throughBreaker name readings outcome).2.silenced =
        (o'.throughBreaker name readings outcome').2.silenced := by
  rw [throughBreaker, throughBreaker]
  obtain ⟨hLeft, hRight⟩ | ⟨stats, stats', hLeft, hRight, hStats⟩ := stats_congr h name
  · rw [hLeft, hRight]
    exact ⟨hOutcome, h⟩
  · rw [hLeft, hRight]
    have hExchanged (breaker : CircuitBreaker) :
        ProviderStats.silenced { stats with circuitBreaker := breaker } =
          ProviderStats.silenced { stats' with circuitBreaker := breaker } :=
      congrArg (fun stats : ProviderStats => { stats with circuitBreaker := breaker }) hStats
    simp only [circuitBreaker_congr hStats, CircuitBreaker.call, registered_congr h, metrics_congr h]
    split
    · exact ⟨rfl, store_congr h (hExchanged _) name⟩
    · cases outcome with
      | error raised =>
        cases outcome' with
        | error raised' => exact ⟨hOutcome, store_congr h (hExchanged _) name⟩
        | ok result' => cases hOutcome
      | ok result =>
        cases outcome' with
        | error raised' => cases hOutcome
        | ok result' =>
          have hResult : result.silenced = result'.silenced := Except.ok.inj hOutcome
          have hSettle (breaker : CircuitBreaker) :
              breaker.settle result readings.after = breaker.settle result' readings.after := by
            rw [← settle_silenced, hResult, settle_silenced]
          simp only [hSettle]
          exact ⟨hOutcome, store_congr h (hExchanged _) name⟩

theorem reset_congr (h : o.silenced = o'.silenced) (name : String) :
    (o.reset name).silenced = (o'.reset name).silenced := by
  rw [reset, reset]
  obtain ⟨hLeft, hRight⟩ | ⟨stats, stats', hLeft, hRight, hStats⟩ := stats_congr h name
  · rw [hLeft, hRight]
    exact h
  · rw [hLeft, hRight]
    simp only [registered_congr h, metrics_congr h]
    have hReset : stats.reset.silenced = stats'.reset.silenced := by
      have hSilent := congrArg ProviderStats.reset hStats
      exact hSilent
    exact store_congr h hReset name

theorem resets_congr (h : o.silenced = o'.silenced) (names : List String) :
    (run (fun name o => reset o name) names o).silenced =
      (run (fun name o => reset o name) names o').silenced := by
  induction names generalizing o o' with
  | nil => exact h
  | cons name names ih => exact ih (reset_congr h name)

theorem step_silenced (h : o.silenced = o'.silenced) (operation : MonitorCall ε β) :
    (o.step operation).silenced = (o'.step operation.silenced).silenced := by
  cases operation with
  | register name failureThreshold resetTimeoutS => exact register_congr h name _ _
  | recordResult name result now =>
    have hResult : result.silenced = result.silenced.silenced := rfl
    exact record_congr h hResult name now
  | call name readings outcome now =>
    have hOutcome : outcome.map ProviderCallResult.silenced =
        (outcome.map ProviderCallResult.silenced).map ProviderCallResult.silenced := by
      cases outcome <;> rfl
    obtain ⟨hPassed, hAfter⟩ := throughBreaker_congr h hOutcome name readings
    rw [MonitorCall.silenced, step, step]
    generalize o.throughBreaker name readings outcome = left at hPassed hAfter
    generalize o'.throughBreaker name readings (outcome.map ProviderCallResult.silenced) = right
      at hPassed hAfter
    obtain ⟨raised | result, after⟩ := left
    · obtain ⟨raised' | result', after'⟩ := right
      · exact hAfter
      · cases hPassed
    · obtain ⟨raised' | result', after'⟩ := right
      · cases hPassed
      · exact record_congr hAfter (Except.ok.inj hPassed) name now
  | reset name => exact reset_congr h name
  | resetAll =>
    rw [MonitorCall.silenced, step, step, resetAll, resetAll, registered_congr h]
    exact resets_congr h o'.registered

theorem run_silenced (h : o.silenced = o'.silenced) (operations : List (MonitorCall ε β)) :
    (run step operations o).silenced =
      (run step (operations.map MonitorCall.silenced) o').silenced := by
  induction operations generalizing o o' with
  | nil => exact h
  | cons operation operations ih => exact ih (step_silenced h operation)

theorem buildItem_silenced (o : Observability) (provider : String) (settings : ProviderSettings)
    (now : Int) :
    buildItem provider settings o.silenced.monitor now =
      buildItem provider settings o.monitor now := by
  have hSilenced : o.silenced.monitor.providers provider =
      (o.monitor.providers provider).map ProviderStats.silenced := rfl
  rw [buildItem, buildItem, hSilenced]
  cases o.monitor.providers provider with
  | none => rfl
  | some stats => rfl

theorem statusNames_silenced (o : Observability) : o.silenced.statusNames = o.statusNames := by
  rw [statusNames, statusNames, silenced]
  induction o.registered with
  | nil => rfl
  | cons name names ih =>
    cases hStats : o.monitor.providers name with
    | none => simpa [hStats] using ih
    | some stats => simpa [hStats, ProviderStats.silenced] using ih

theorem getProviderHealth_silenced (o : Observability) (settings : ProviderSettings) (now : Int) :
    o.silenced.getProviderHealth settings now = o.getProviderHealth settings now := by
  rw [getProviderHealth, getProviderHealth, statusNames_silenced]
  simp only [buildItem_silenced]

end Observability

/-! ## Over every run -/

section Run

variable {ε β : Type}

/-- The route shows what was recorded, the metrics count what was ever recorded. -/
theorem Watched.shows_run (prometheusEnabled : Bool) {operations : List (MonitorCall ε β)}
    (hClock : (operations.filterMap MonitorCall.time?).Pairwise (· ≤ ·))
    (settings : ProviderSettings) (now : Int) :
    let w := run Watched.step operations (start prometheusEnabled)
    let process := run Observability.step operations (.initial prometheusEnabled)
    Shows w settings now (process.getProviderHealth settings now) ∧
      ∀ metrics, process.metrics = some metrics → ∀ name, Counted (w.ever name) metrics name := by
  intro w process
  have hProcess : w.process = process := process_run operations (start prometheusEnabled)
  have hFaithful : w.Faithful := (faithful_start prometheusEnabled).run operations
  rw [← hProcess]
  exact ⟨hFaithful.shows (recent_ordered prometheusEnabled hClock) settings now, hFaithful.counted⟩

/-- A feed fails, is reset and fails again; of "dart" nothing is recorded. -/
def feedCalls : List (MonitorCall Unit Unit) :=
  [.register "feed" 3 60, .call "feed" ⟨0, 0⟩ (.ok (.fail .serverError "503")) 10, .reset "feed",
    .recordResult "feed" (.fail .timeout "no answer") 20,
    .recordResult "dart" ⟨true, none, none, none, 1⟩ 20]

theorem Watched.shows_run_sample :
    Shows (run Watched.step feedCalls (start true)) ⟨"", "", false, "", true, " "⟩ 30
        ((run Observability.step feedCalls (.initial true)).getProviderHealth
          ⟨"", "", false, "", true, " "⟩ 30) ∧
      ((run Watched.step feedCalls (start true)).ever "feed").length = 2 :=
  ⟨(shows_run true (by decide) ⟨"", "", false, "", true, " "⟩ 30).1, rfl⟩

/-- What a provider says about its errors reaches neither the response nor the metrics. -/
theorem Observability.silent_run (prometheusEnabled : Bool) (operations : List (MonitorCall ε β))
    (settings : ProviderSettings) (now : Int) :
    let process := run step operations (initial prometheusEnabled)
    let silent := run step (operations.map MonitorCall.silenced) (initial prometheusEnabled)
    silent.getProviderHealth settings now = process.getProviderHealth settings now ∧
      silent.metrics = process.metrics := by
  intro process silent
  have hSilenced : process.silenced = silent.silenced := run_silenced rfl operations
  constructor
  · rw [← getProviderHealth_silenced silent, ← hSilenced, getProviderHealth_silenced]
  · exact (metrics_congr hSilenced).symm

end Run

end StockAiPlatform.Providers
