import StockAiPlatform.Analysis.DisclosureRisk
import StockAiPlatform.Data.RssProvider
import StockAiPlatform.Scheduler.RunJob
import StockAiPlatform.Transaction.FirstSeen
import StockAiPlatform.Transaction.Run

/-! # The collection of news and disclosures

Both collectors write to the table of news items, under one key: the URL. What is
there is never written again, so the first item of a URL is the one that is kept,
whichever job brought it.
-/

namespace StockAiPlatform.Feeds
set_option autoImplicit false

open Transaction Python

abbrev NewsItemDTO := StockAiPlatform.NewsItemDTO String

/-- The provider's own category is not read. -/
structure DisclosureItemDTO where
  title : String
  url : String
  provider : String
  publishedAt : Int
  symbol : Option String := none
  disclosureType : Option String := none
  summary : Option String := none

inductive DisclosureCategory where
  | risk | earnings | ownership | governance | other
  deriving DecidableEq, Repr

namespace DisclosureCategory

def value : DisclosureCategory → String
  | risk => "RISK_DISCLOSURE"
  | earnings => "EARNINGS_REPORT"
  | ownership => "OWNERSHIP_CHANGE"
  | governance => "GOVERNANCE"
  | other => "OTHER"

def keywords : DisclosureCategory → List Text
  | risk => ["소송", "횡령", "배임", "거래정지", "감사의견", "회생", "파산",
      "lawsuit", "litigation", "fraud", "embezzlement"].map String.toList
  | earnings => ["실적", "잠정", "영업이익", "당기순이익", "earnings", "guidance"].map String.toList
  | ownership => ["최대주주", "지분", "보유주식", "주식 등의 대량보유", "주식보유",
      "ownership"].map String.toList
  | governance => ["이사회", "사외이사", "감사위원회", "주주총회", "정관 변경",
      "governance", "board"].map String.toList
  | other => []

end DisclosureCategory

/-- `_haystack`: the parts that say something, with a blank between them. -/
def haystack (parts : List (Option String)) : Text :=
  lower ([' '].intercalate (((parts.filterMap id).filter (· ≠ "")).map String.toList))

def mentions (category : DisclosureCategory) (hay : Text) : Bool :=
  category.keywords.any fun keyword => isIn keyword hay

def classifyDisclosure (title : String) (disclosureType summary : Option String) : DisclosureCategory :=
  let hay := haystack [some title, disclosureType, summary]
  if mentions .risk hay then .risk
  else if mentions .earnings hay then .earnings
  else if mentions .ownership hay then .ownership
  else if mentions .governance hay then .governance
  else .other

/-- What `upsert_by_url` is given, and the category its collector counts. -/
structure Arrival where
  url : String
  publishedAt : Int
  source : String
  title : String
  relatedSymbols : Option (List String)
  sentiment : Option String
  category : Option String
  counted : Option DisclosureCategory

namespace Arrival

def row (id : Nat) (arrival : Arrival) : NewsItem where
  id := id
  publishedAt := arrival.publishedAt
  availableAt := none
  source := arrival.source
  title := arrival.title
  url := some arrival.url
  relatedSymbols := arrival.relatedSymbols
  sentiment := arrival.sentiment
  importance := none
  theme := none
  category := arrival.category

end Arrival

def related (symbol : Option String) : Option (List String) :=
  match symbol with
  | some symbol => if symbol = "" then none else some [symbol]
  | none => none

def NewsItemDTO.arrival (dto : NewsItemDTO) : Arrival where
  url := dto.url
  publishedAt := dto.publishedAt
  source := match dto.source with
    | some source => if source = "" then dto.provider else source
    | none => dto.provider
  title := dto.title
  relatedSymbols := related dto.symbol
  sentiment := dto.sentimentLabel
  category := dto.category
  counted := none

def DisclosureItemDTO.classified (dto : DisclosureItemDTO) : DisclosureCategory :=
  classifyDisclosure dto.title dto.disclosureType dto.summary

def DisclosureItemDTO.arrival (dto : DisclosureItemDTO) : Arrival where
  url := dto.url
  publishedAt := dto.publishedAt
  source := dto.provider
  title := dto.title
  relatedSymbols := related dto.symbol
  sentiment := none
  category := some dto.classified.value
  counted := some dto.classified

inductive FeedRequest where
  | recentNews (limit : Nat)
  | recentDisclosures (limit : Nat)

/-- What the provider returns, or the text of what it raises. -/
def FeedAnswer : FeedRequest → Type
  | .recentNews _ => Except String (List NewsItemDTO)
  | .recentDisclosures _ => Except String (List DisclosureItemDTO)

inductive FeedError where
  | valueError (message : String)
  | provider (message : String)
  | notJson (typeName : String)
  deriving DecidableEq, Repr

abbrev FeedApp := Program Database Unit FeedRequest FeedAnswer FeedError

namespace NewsItemRepository

def getByUrl (url : String) (db : Database) : Option NewsItem :=
  db.newsItems.find? fun item => item.url == some url

def nextId (db : Database) : Nat := db.newsItems.foldr (fun item n => max item.id n) 0 + 1

def add (item : NewsItem) (db : Database) : Database := { db with newsItems := db.newsItems ++ [item] }

/-- Whether the item was inserted; a row that exists is left as it is. -/
def upsertByUrl (arrival : Arrival) : FeedApp Bool :=
  if arrival.url = "" then .raise (.valueError "upsert_by_url requires a non-empty url")
  else do
    match ← Program.query () (getByUrl arrival.url) with
    | some _ => pure false
    | none =>
      let id ← Program.allocated nextId
      Program.modify (add (arrival.row id))
      pure true

end NewsItemRepository

/-- The counters of a collector. -/
structure CollectorCounts where
  inserted : Nat := 0
  skippedDuplicates : Nat := 0
  classified : DisclosureCategory → Nat := fun _ => 0

namespace CollectorCounts

def count (counts : CollectorCounts) (counted : Option DisclosureCategory) (inserted : Bool) :
    CollectorCounts :=
  if inserted then
    { counts with
      inserted := counts.inserted + 1
      classified := match counted with
        | some category => Function.update counts.classified category (counts.classified category + 1)
        | none => counts.classified }
  else { counts with skippedDuplicates := counts.skippedDuplicates + 1 }

end CollectorCounts

/-- The loop of `collect_recent`. -/
def collectItems : List Arrival → CollectorCounts → FeedApp CollectorCounts
  | [], counts => pure counts
  | arrival :: arrivals, counts => do
    let inserted ← NewsItemRepository.upsertByUrl arrival
    collectItems arrivals (counts.count arrival.counted inserted)

def summaryMaxLen : Nat := 500

def truncatedSummaries (summaries : List (Option String)) : Nat :=
  summaries.countP fun summary => summary.any fun text => decide (summaryMaxLen < text.length)

def counters (fetched : Nat) (counts : CollectorCounts) (truncated : Nat) : List (String × Json) :=
  [("fetched", .int fetched), ("inserted", .int counts.inserted),
    ("skipped_duplicates", .int counts.skippedDuplicates), ("truncated_summaries", .int truncated)]

def skipped (phase reason : String) : JobResult where
  summary := some (PyValue.ofJson ([("phase", .str phase), ("data_status", .str "SKIPPED"),
    ("reason", .str reason)] ++ counters 0 {} 0))

def classifiedCounts (counts : CollectorCounts) : Json :=
  .dict ([DisclosureCategory.risk, .earnings, .ownership, .governance, .other].map fun category =>
    (category.value, .int (counts.classified category)))

def fetched {α : Type} : Except String (List α) → FeedApp (List α)
  | .ok items => pure items
  | .error message => .raise (.provider message)

/-- `collect_news`; `provider` says whether one was put into the session. -/
def collectNews (enabled provider : Bool) : FeedApp JobResult :=
  if !enabled then pure (skipped "v0.5-A" "news_collection_disabled")
  else if !provider then pure (skipped "v0.5-A" "no_provider_configured")
  else do
    let answer : FeedAnswer (.recentNews 50) ← Program.asked (FeedRequest.recentNews 50)
    let items : List NewsItemDTO ← fetched answer
    let counts ← collectItems (items.map NewsItemDTO.arrival) {}
    return {
      summary := some (PyValue.ofJson ([("phase", .str "v0.5-A"), ("data_status", .str "SUCCESS")]
        ++ counters items.length counts (truncatedSummaries (items.map NewsItemDTO.summary)))) }

def collectDisclosures (enabled provider : Bool) : FeedApp JobResult :=
  if !enabled then pure (skipped "v0.5-B" "disclosure_collection_disabled")
  else if !provider then pure (skipped "v0.5-B" "no_provider_configured")
  else do
    let answer : FeedAnswer (.recentDisclosures 50) ← Program.asked (FeedRequest.recentDisclosures 50)
    let items : List DisclosureItemDTO ← fetched answer
    let counts ← collectItems (items.map DisclosureItemDTO.arrival) {}
    return {
      summary := some (PyValue.ofJson ([("phase", .str "v0.5-B"), ("data_status", .str "SUCCESS")]
        ++ counters items.length counts (truncatedSummaries (items.map DisclosureItemDTO.summary))
        ++ [("classified_counts", classifiedCounts counts)])) }

/-! ## One pass over a batch -/

def urls (newsItems : List NewsItem) : List String := newsItems.filterMap NewsItem.url

/-- What a row says, whichever its id. -/
def content (item : NewsItem) : NewsItem := { item with id := 0 }

/-- What a pass inserts. -/
def fresh (seen : List String) (arrivals : List Arrival) : List Arrival :=
  firstOfKey Arrival.url seen arrivals

theorem urls_append (rows rows' : List NewsItem) : urls (rows ++ rows') = urls rows ++ urls rows' :=
  List.filterMap_append

theorem urls_content (rows : List NewsItem) : urls (rows.map content) = urls rows := by
  rw [urls, urls, List.filterMap_map]
  rfl

theorem urls_rows (arrivals : List Arrival) :
    urls (arrivals.map (Arrival.row 0)) = arrivals.map Arrival.url := by
  rw [urls, List.filterMap_map]
  exact congrFun (List.filterMap_eq_map (f := Arrival.url)) arrivals

namespace NewsItemRepository

theorem getByUrl_eq_none_iff {url : String} {db : Database} :
    getByUrl url db = none ↔ url ∉ urls db.newsItems := by
  simp [getByUrl, urls, List.find?_eq_none, List.mem_filterMap]

theorem exec_upsertByUrl (answer : (request : FeedRequest) → FeedAnswer request) {arrival : Arrival}
    (h : arrival.url ≠ "") (s : Session Database FeedRequest FeedAnswer) :
    (upsertByUrl arrival).exec answer s =
      if arrival.url ∈ urls s.view.newsItems then (.ok false, s)
      else (.ok true, s.write (add (arrival.row (nextId s.view)))) := by
  rw [upsertByUrl, if_neg h, Program.exec_query_bind]
  by_cases hSeen : arrival.url ∈ urls s.view.newsItems
  · rw [if_pos hSeen]
    cases hFound : getByUrl arrival.url s.view with
    | none => exact absurd hSeen (getByUrl_eq_none_iff.mp hFound)
    | some item => rfl
  · rw [if_neg hSeen, getByUrl_eq_none_iff.mpr hSeen]
    rfl

end NewsItemRepository

section Pass

variable (answer : (request : FeedRequest) → FeedAnswer request)

/-- The counters after a pass that inserted some of its arrivals. -/
structure Counted (arrivals kept : List Arrival) (before after : CollectorCounts) : Prop where
  inserted : after.inserted = before.inserted + kept.length
  fetched : after.inserted + after.skippedDuplicates =
    before.inserted + before.skippedDuplicates + arrivals.length
  classified : ∀ category, after.classified category =
    before.classified category + kept.countP fun arrival => decide (arrival.counted = some category)

theorem Counted.skip {arrivals kept : List Arrival} {before after : CollectorCounts}
    {arrival : Arrival} (h : Counted arrivals kept (before.count arrival.counted false) after) :
    Counted (arrival :: arrivals) kept before after := by
  refine ⟨h.inserted, ?_, h.classified⟩
  have hFetched := h.fetched
  simp only [CollectorCounts.count, Bool.false_eq_true, if_false] at hFetched
  rw [List.length_cons]
  omega

theorem Counted.insert {arrivals kept : List Arrival} {before after : CollectorCounts}
    {arrival : Arrival} (h : Counted arrivals kept (before.count arrival.counted true) after) :
    Counted (arrival :: arrivals) (arrival :: kept) before after := by
  have hInserted := h.inserted
  have hFetched := h.fetched
  simp only [CollectorCounts.count, if_true] at hInserted hFetched
  refine ⟨?_, ?_, fun category => ?_⟩
  · rw [List.length_cons]
    omega
  · rw [List.length_cons]
    omega
  · rw [h.classified category, List.countP_cons]
    cases hCounted : arrival.counted with
    | none => simp [CollectorCounts.count]
    | some own =>
      by_cases hOwn : own = category
      · subst hOwn
        simp [CollectorCounts.count]
        omega
      · simp [CollectorCounts.count, hOwn, Function.update_of_ne (Ne.symm hOwn)]

/-- Each item of a new URL is inserted, in order, and each other one is skipped. -/
theorem exec_collectItems {arrivals : List Arrival} (h : ∀ arrival ∈ arrivals, arrival.url ≠ "")
    (counts : CollectorCounts) (s : Session Database FeedRequest FeedAnswer) :
    ∃ after t, (collectItems arrivals counts).exec answer s = (.ok after, t) ∧ t.durable = s.durable ∧
      t.view.newsItems.map content = s.view.newsItems.map content ++
        (fresh (urls s.view.newsItems) arrivals).map (Arrival.row 0) ∧
      Counted arrivals (fresh (urls s.view.newsItems) arrivals) counts after := by
  induction arrivals generalizing counts s with
  | nil => exact ⟨counts, s, rfl, rfl, (List.append_nil _).symm, rfl, rfl, fun _ => rfl⟩
  | cons arrival arrivals ih =>
    rw [List.forall_mem_cons] at h
    have hUpsert := NewsItemRepository.exec_upsertByUrl answer h.1 s
    by_cases hSeen : arrival.url ∈ urls s.view.newsItems
    · rw [if_pos hSeen] at hUpsert
      obtain ⟨after, t, hExec, hDurable, hRows, hCounted⟩ := ih h.2 (counts.count arrival.counted false) s
      refine ⟨after, t, ?_, hDurable, ?_, ?_⟩
      · rw [collectItems, Program.exec_bind_ok answer s hUpsert, hExec]
      · rw [fresh, firstOfKey_cons_of_mem Arrival.url hSeen]
        exact hRows
      · rw [fresh, firstOfKey_cons_of_mem Arrival.url hSeen]
        exact hCounted.skip
    · rw [if_neg hSeen] at hUpsert
      let added := s.write (NewsItemRepository.add
        (arrival.row (NewsItemRepository.nextId s.view)))
      have hAdded : added.view.newsItems =
          s.view.newsItems ++ [arrival.row (NewsItemRepository.nextId s.view)] := rfl
      have hFresh : fresh (urls added.view.newsItems) arrivals =
          firstOfKey Arrival.url (arrival.url :: urls s.view.newsItems) arrivals := by
        rw [hAdded, urls_append]
        apply firstOfKey_congr
        intro url
        rw [List.mem_append, List.mem_cons]
        simp [urls, Arrival.row, or_comm]
      obtain ⟨after, t, hExec, hDurable, hRows, hCounted⟩ :=
        ih h.2 (counts.count arrival.counted true) added
      rw [hFresh] at hRows hCounted
      refine ⟨after, t, ?_, hDurable, ?_, ?_⟩
      · rw [collectItems, Program.exec_bind_ok answer s hUpsert, hExec]
      · rw [fresh, firstOfKey_cons_of_notMem Arrival.url hSeen, hRows, hAdded, List.map_append,
          List.append_assoc]
        rfl
      · rw [fresh, firstOfKey_cons_of_notMem Arrival.url hSeen]
        exact hCounted.insert

/-- An empty URL ends the pass, wherever it is. -/
theorem exec_collectItems_of_empty {arrivals : List Arrival} (h : ∃ arrival ∈ arrivals, arrival.url = "")
    (counts : CollectorCounts) (s : Session Database FeedRequest FeedAnswer) :
    ∃ error t, (collectItems arrivals counts).exec answer s = (.error error, t) ∧
      t.durable = s.durable := by
  induction arrivals generalizing counts s with
  | nil => simp at h
  | cons arrival arrivals ih =>
    by_cases hEmpty : arrival.url = ""
    · refine ⟨.valueError "upsert_by_url requires a non-empty url", s, ?_, rfl⟩
      have hUpsert : (NewsItemRepository.upsertByUrl arrival).exec answer s =
          (.error (.valueError "upsert_by_url requires a non-empty url"), s) := by
        rw [NewsItemRepository.upsertByUrl, if_pos hEmpty, Program.exec_raise]
      rw [collectItems, Program.exec_bind_error answer s hUpsert]
    · have hRest : ∃ other ∈ arrivals, other.url = "" := by
        obtain ⟨other, hMem, hUrl⟩ := h
        rcases List.mem_cons.mp hMem with rfl | hMem
        · exact absurd hUrl hEmpty
        · exact ⟨other, hMem, hUrl⟩
      have hUpsert := NewsItemRepository.exec_upsertByUrl answer hEmpty s
      by_cases hSeen : arrival.url ∈ urls s.view.newsItems
      · rw [if_pos hSeen] at hUpsert
        obtain ⟨error, t, hExec, hDurable⟩ := ih hRest (counts.count arrival.counted false) s
        exact ⟨error, t, by rw [collectItems, Program.exec_bind_ok answer s hUpsert, hExec], hDurable⟩
      · rw [if_neg hSeen] at hUpsert
        obtain ⟨error, t, hExec, hDurable⟩ := ih hRest (counts.count arrival.counted true)
          (s.write (NewsItemRepository.add (arrival.row (NewsItemRepository.nextId s.view))))
        exact ⟨error, t, by rw [collectItems, Program.exec_bind_ok answer s hUpsert, hExec], hDurable⟩

end Pass

/-! ## Runs of the two jobs -/

inductive FeedJob where
  | news | disclosures
  deriving DecidableEq, Repr

/-- One run of a job under the wrapper: its flag, whether a provider was put into the session, what
the providers would return, and how the commit ends. Its row of `job_runs` can be written. -/
structure FeedCall where
  job : FeedJob
  enabled : Bool
  provider : Bool
  recentNews : Except String (List NewsItemDTO)
  recentDisclosures : Except String (List DisclosureItemDTO)
  commit : Except FeedError Unit
  startedAt : Int
  finishedAt : Int

namespace FeedCall

def answer (call : FeedCall) : (request : FeedRequest) → FeedAnswer request
  | .recentNews _ => call.recentNews
  | .recentDisclosures _ => call.recentDisclosures

def jobCall (call : FeedCall) : JobCall Database Unit FeedRequest FeedAnswer FeedError where
  jobName := match call.job with
    | .news => "collect_news"
    | .disclosures => "collect_disclosures"
  fn _ := match call.job with
    | .news => collectNews call.enabled call.provider
    | .disclosures => collectDisclosures call.enabled call.provider
  answer := call.answer
  commit := call.commit
  logStart := .ok ()
  logFinish := .ok ()
  notJson typeName := .notJson typeName
  startedAt := call.startedAt
  finishedAt := call.finishedAt

/-- What the provider brings, if it is asked and answers. -/
def brought (call : FeedCall) : Option (List Arrival) :=
  if call.enabled && call.provider then
    match call.job with
    | .news => call.recentNews.toOption.map (List.map NewsItemDTO.arrival)
    | .disclosures => call.recentDisclosures.toOption.map (List.map DisclosureItemDTO.arrival)
  else none

/-- What of it is stored, but for the duplicates: all, where each item has a URL and the commit
succeeds. -/
def accepted (call : FeedCall) : List Arrival :=
  match call.brought, call.commit with
  | some arrivals, .ok () => if arrivals.all fun arrival => arrival.url != "" then arrivals else []
  | _, _ => []

/-- The job reports SUCCESS, with the number of insertions. -/
def Reports (report : JobResult) (counts : CollectorCounts) : Prop :=
  report.status = "SUCCESS" ∧ ∃ entries, report.summary = some (PyValue.ofJson entries) ∧
    Json.get? "inserted" entries = some (.int counts.inserted)

/-- The job that was brought items, as the loop over them ends. -/
theorem worked_of_brought {call : FeedCall} {arrivals : List Arrival}
    (h : call.brought = some arrivals) (store : JobStore Database) :
    ∃ (asking : Session Database FeedRequest FeedAnswer) (report : CollectorCounts → JobResult),
      asking.view = store.work ∧ asking.durable = store.work ∧
      (∀ counts, Reports (report counts) counts) ∧
      call.jobCall.worked store = match (collectItems arrivals {}).exec call.answer asking with
        | (.ok counts, t) => (.ok (report counts), t)
        | (.error error, t) => (.error error, t) := by
  obtain ⟨job, enabled, provider, recentNews, recentDisclosures, commit, startedAt, finishedAt⟩ := call
  rw [brought] at h
  split at h
  case isFalse => cases h
  case isTrue hAsks =>
    obtain ⟨rfl, rfl⟩ := Bool.and_eq_true_iff.mp hAsks
    cases job with
    | news =>
      cases recentNews with
      | error message => cases h
      | ok items =>
        cases h
        refine ⟨(Session.opened store.work).record ⟨.recentNews 50, .ok items⟩, fun counts => {
          summary := some (PyValue.ofJson ([("phase", .str "v0.5-A"), ("data_status", .str "SUCCESS")]
            ++ counters items.length counts (truncatedSummaries (items.map NewsItemDTO.summary)))) },
          rfl, rfl, fun counts => ⟨rfl, _, rfl, rfl⟩, ?_⟩
        simp only [JobCall.worked, jobCall, collectNews, Bool.not_true, Bool.false_eq_true, if_false,
          Program.exec_bind, Program.exec_asked, answer, fetched, Program.exec_pure]
        cases (collectItems (items.map NewsItemDTO.arrival) {}).exec _ _ with
        | mk ending t => cases ending <;> rfl
    | disclosures =>
      cases recentDisclosures with
      | error message => cases h
      | ok items =>
        cases h
        refine ⟨(Session.opened store.work).record ⟨.recentDisclosures 50, .ok items⟩, fun counts => {
          summary := some (PyValue.ofJson ([("phase", .str "v0.5-B"), ("data_status", .str "SUCCESS")]
            ++ counters items.length counts
              (truncatedSummaries (items.map DisclosureItemDTO.summary))
            ++ [("classified_counts", classifiedCounts counts)])) },
          rfl, rfl, fun counts => ⟨rfl, _, rfl, rfl⟩, ?_⟩
        simp only [JobCall.worked, jobCall, collectDisclosures, Bool.not_true, Bool.false_eq_true,
          if_false, Program.exec_bind, Program.exec_asked, answer, fetched, Program.exec_pure]
        cases (collectItems (items.map DisclosureItemDTO.arrival) {}).exec _ _ with
        | mk ending t => cases ending <;> rfl

/-- A job that was brought nothing leaves its session as it was, and has nothing to report. -/
theorem worked_of_not_brought {call : FeedCall} (h : call.brought = none) (store : JobStore Database) :
    ∃ ending s, call.jobCall.worked store = (ending, s) ∧ s.view = store.work ∧
      s.durable = store.work ∧ ∀ report, ending = .ok report → Reports report {} := by
  obtain ⟨job, enabled, provider, recentNews, recentDisclosures, commit, startedAt, finishedAt⟩ := call
  cases job with
  | news =>
    cases enabled with
    | false => exact ⟨_, _, rfl, rfl, rfl, by rintro report ⟨⟩; exact ⟨rfl, _, rfl, rfl⟩⟩
    | true =>
      cases provider with
      | false => exact ⟨_, _, rfl, rfl, rfl, by rintro report ⟨⟩; exact ⟨rfl, _, rfl, rfl⟩⟩
      | true =>
        cases recentNews with
        | error message => exact ⟨_, _, rfl, rfl, rfl, by rintro report ⟨⟩⟩
        | ok items => cases h
  | disclosures =>
    cases enabled with
    | false => exact ⟨_, _, rfl, rfl, rfl, by rintro report ⟨⟩; exact ⟨rfl, _, rfl, rfl⟩⟩
    | true =>
      cases provider with
      | false => exact ⟨_, _, rfl, rfl, rfl, by rintro report ⟨⟩; exact ⟨rfl, _, rfl, rfl⟩⟩
      | true =>
        cases recentDisclosures with
        | error message => exact ⟨_, _, rfl, rfl, rfl, by rintro report ⟨⟩⟩
        | ok items => cases h

def step (describe : FeedError → String) (call : FeedCall) (store : JobStore Database) :
    JobStore Database :=
  (JobCall.runJob describe call.jobCall store).2

/-- The number of insertions in the outcome; a run that ends with an exception has none. -/
def reported (describe : FeedError → String) (call : FeedCall) (store : JobStore Database) : Int :=
  match (JobCall.runJob describe call.jobCall store).1 with
  | .ok outcome =>
    match outcome.resultSummary.bind (PyValue.get? "inserted") with
    | some (.json (.int inserted)) => inserted
    | _ => 0
  | .error _ => 0

def reportedTotal (describe : FeedError → String) : List FeedCall → JobStore Database → Int
  | [], _ => 0
  | call :: calls, store =>
    call.reported describe store + reportedTotal describe calls (call.step describe store)

/-- What is in the table after a call, and what the call says of it. -/
structure Stored (describe : FeedError → String) (call : FeedCall) (store : JobStore Database)
    (kept : List Arrival) : Prop where
  rows : (call.step describe store).work.newsItems.map content =
    store.work.newsItems.map content ++ kept.map (Arrival.row 0)
  reported : call.reported describe store = kept.length

section Step

variable (describe : FeedError → String) {call : FeedCall} {store : JobStore Database}
  {s : Session Database FeedRequest FeedAnswer}

theorem stored_of_raised {error : FeedError} (h : call.jobCall.worked store = (.error error, s))
    (hDurable : s.durable = store.work) : Stored describe call store [] := by
  constructor
  · rw [step, JobCall.runJob, h]
    simp only [jobCall, JobCall.settleWork, JobCall.logged, PyValue.dumpsSummary, Except.map,
      JobStore.finish, Session.rollback, hDurable, List.map_nil, List.append_nil]
  · rw [FeedCall.reported, JobCall.runJob, h]
    rfl

theorem stored_of_uncommitted {report : JobResult} {error : FeedError}
    (h : call.jobCall.worked store = (.ok report, s)) (hDurable : s.durable = store.work)
    (hCommit : call.commit = .error error) : Stored describe call store [] := by
  have hJob : call.jobCall.commit = .error error := hCommit
  have hStart : call.jobCall.logStart = .ok () := rfl
  constructor
  · rw [step, JobCall.runJob, hStart, h, hJob]
    simp only [JobCall.settleWork, hDurable, List.map_nil, List.append_nil]
  · rw [FeedCall.reported, JobCall.runJob, hStart, h, hJob]
    rfl

theorem stored_of_committed {report : JobResult} {counts : CollectorCounts} {kept : List Arrival}
    (h : call.jobCall.worked store = (.ok report, s)) (hReports : Reports report counts)
    (hCommit : call.commit = .ok ())
    (hRows : s.view.newsItems.map content =
      store.work.newsItems.map content ++ kept.map (Arrival.row 0))
    (hInserted : counts.inserted = kept.length) : Stored describe call store kept := by
  have hJob : call.jobCall.commit = .ok () := hCommit
  have hStart : call.jobCall.logStart = .ok () := rfl
  obtain ⟨-, entries, hSummary, hGet⟩ := hReports
  have hLogged : call.jobCall.logged report = .ok (some entries) := by
    refine JobCall.logged_eq_ok.mpr ⟨?_, rfl⟩
    rw [hSummary, PyValue.dumpsSummary, PyValue.dumpsEntries_ofJson]
    rfl
  constructor
  · rw [step, JobCall.runJob, hStart, h, hJob]
    simp only [JobCall.settleWork, hLogged]
    exact hRows
  · rw [FeedCall.reported, JobCall.runJob, hStart, h, hJob]
    simp only [JobCall.settleWork, hLogged, JobCall.outcome, hSummary, Option.bind_some,
      PyValue.get?_ofJson, hGet, Option.map_some, hInserted]

/-- One call stores the first of each new URL of what is accepted from it. -/
theorem stored_step (call : FeedCall) (store : JobStore Database) :
    Stored describe call store (fresh (urls store.work.newsItems) call.accepted) := by
  cases hBrought : call.brought with
  | none =>
    obtain ⟨ending, s, hWorked, hView, hDurable, hReports⟩ := worked_of_not_brought hBrought store
    have hNothing : fresh (urls store.work.newsItems) call.accepted = [] := by
      rw [accepted, hBrought]
      rfl
    rw [hNothing]
    cases ending with
    | error error => exact stored_of_raised describe hWorked hDurable
    | ok report =>
      cases hCommit : call.commit with
      | error error => exact stored_of_uncommitted describe hWorked hDurable hCommit
      | ok committed =>
        refine stored_of_committed describe hWorked (hReports report rfl) hCommit ?_ rfl
        rw [hView, List.map_nil, List.append_nil]
  | some arrivals =>
    obtain ⟨asking, report, hView, hDurable, hReports, hWorked⟩ := worked_of_brought hBrought store
    by_cases hUrls : ∀ arrival ∈ arrivals, arrival.url ≠ ""
    · obtain ⟨after, t, hExec, hKept, hRows, hCounted⟩ :=
        exec_collectItems call.answer hUrls {} asking
      rw [hExec] at hWorked
      rw [hView] at hRows hCounted
      rw [hDurable] at hKept
      have hAll : (arrivals.all fun arrival => arrival.url != "") = true := by simpa using hUrls
      cases hCommit : call.commit with
      | error error =>
        have hNothing : fresh (urls store.work.newsItems) call.accepted = [] := by
          rw [accepted, hBrought, hCommit]
          rfl
        rw [hNothing]
        exact stored_of_uncommitted describe hWorked hKept hCommit
      | ok committed =>
        have hAccepted : call.accepted = arrivals := by
          rw [accepted, hBrought, hCommit]
          exact if_pos hAll
        rw [hAccepted]
        exact stored_of_committed describe hWorked (hReports after) hCommit hRows
          (hCounted.inserted.trans (Nat.zero_add _))
    · have hEmpty : ∃ arrival ∈ arrivals, arrival.url = "" := by simpa using hUrls
      obtain ⟨error, t, hExec, hKept⟩ :=
        exec_collectItems_of_empty call.answer hEmpty {} asking
      rw [hExec] at hWorked
      have hNothing : fresh (urls store.work.newsItems) call.accepted = [] := by
        have hNotAll : (arrivals.all fun arrival => arrival.url != "") = false := by simpa using hEmpty
        rw [accepted, hBrought]
        cases call.commit with
        | error error => rfl
        | ok committed =>
          simp only [hNotAll, Bool.false_eq_true, if_false]
          rfl
      rw [hNothing]
      exact stored_of_raised describe hWorked (hKept.trans hDurable)

end Step

section Run

variable (describe : FeedError → String)

theorem urls_step (call : FeedCall) (store : JobStore Database) :
    urls (call.step describe store).work.newsItems = urls store.work.newsItems ++
      (fresh (urls store.work.newsItems) call.accepted).map Arrival.url := by
  rw [← urls_content, (stored_step describe call store).rows, urls_append, urls_content, urls_rows]

theorem fresh_cons (call : FeedCall) (calls : List FeedCall) (store : JobStore Database) :
    fresh (urls store.work.newsItems) ((call :: calls).flatMap accepted) =
      fresh (urls store.work.newsItems) call.accepted ++
        fresh (urls (call.step describe store).work.newsItems) (calls.flatMap accepted) := by
  rw [List.flatMap_cons, fresh, firstOfKey_append, urls_step]
  rfl

theorem rows_run (calls : List FeedCall) (store : JobStore Database) :
    (run (step describe) calls store).work.newsItems.map content = store.work.newsItems.map content ++
      (fresh (urls store.work.newsItems) (calls.flatMap accepted)).map (Arrival.row 0) := by
  induction calls generalizing store with
  | nil => exact (List.append_nil _).symm
  | cons call calls ih =>
    rw [fresh_cons describe, List.map_append, ← List.append_assoc,
      ← (stored_step describe call store).rows]
    exact ih (call.step describe store)

theorem reportedTotal_run (calls : List FeedCall) (store : JobStore Database) :
    reportedTotal describe calls store =
      (fresh (urls store.work.newsItems) (calls.flatMap accepted)).length := by
  induction calls generalizing store with
  | nil => rfl
  | cons call calls ih =>
    rw [fresh_cons describe, reportedTotal, (stored_step describe call store).reported, ih,
      List.length_append, Nat.cast_add]

/-- After a run, its calls have nothing new to bring. -/
theorem rows_again (calls : List FeedCall) (store : JobStore Database) {call : FeedCall}
    (h : call ∈ calls) :
    (call.step describe (run (step describe) calls store)).work.newsItems.map content =
      (run (step describe) calls store).work.newsItems.map content := by
  have hUrls : urls (run (step describe) calls store).work.newsItems = urls store.work.newsItems ++
      (fresh (urls store.work.newsItems) (calls.flatMap accepted)).map Arrival.url := by
    rw [← urls_content, rows_run describe calls store, urls_append, urls_content, urls_rows]
  have hNothing : fresh (urls (run (step describe) calls store).work.newsItems) call.accepted = [] := by
    apply firstOfKey_eq_nil
    intro arrival hArrival
    rw [hUrls, List.mem_append, fresh, map_firstOfKey, mem_firstSeen]
    by_cases hSeen : arrival.url ∈ urls store.work.newsItems
    · exact .inl hSeen
    · exact .inr ⟨List.mem_map_of_mem (List.mem_flatMap.mpr ⟨call, h, hArrival⟩), hSeen⟩
  rw [(stored_step describe call _).rows, hNothing, List.map_nil, List.append_nil]

/-- Over any run of both jobs, the table grows by the first item of each new URL, in the order of
arrival and as it first arrived; the reports of the runs add up to its growth, and each of its calls
would change nothing a second time. -/
theorem collected_run (calls : List FeedCall) (store : JobStore Database) :
    (run (step describe) calls store).work.newsItems.map content =
      store.work.newsItems.map content ++
        (fresh (urls store.work.newsItems) (calls.flatMap accepted)).map (Arrival.row 0) ∧
    reportedTotal describe calls store =
      (fresh (urls store.work.newsItems) (calls.flatMap accepted)).length ∧
    ∀ call ∈ calls,
      (call.step describe (run (step describe) calls store)).work.newsItems.map content =
        (run (step describe) calls store).work.newsItems.map content :=
  ⟨rows_run describe calls store, reportedTotal_run describe calls store,
    fun _ h => rows_again describe calls store h⟩

end Run

end FeedCall

/-! ## Disclosures of risk -/

theorem isIn_haystack {keyword : Text} (hNil : keyword ≠ []) (hBlank : ' ' ∉ keyword)
    (parts : List (Option String)) : isIn keyword (haystack parts) = true ↔
      ∃ part ∈ parts, ∃ text ∈ part, keyword <:+: lower text.toList := by
  rw [isIn, decide_eq_true_iff, haystack, lower_intercalate, infix_intercalate_iff hNil hBlank]
  simp only [List.mem_map, List.mem_filter, List.mem_filterMap, id]
  constructor
  · rintro ⟨_, ⟨_, ⟨text, ⟨⟨part, hPart, hText⟩, -⟩, rfl⟩, rfl⟩, hInfix⟩
    exact ⟨part, hPart, text, hText, hInfix⟩
  · rintro ⟨part, hPart, text, hText, hInfix⟩
    refine ⟨_, ⟨_, ⟨text, ⟨⟨part, hPart, hText⟩, ?_⟩, rfl⟩, rfl⟩, hInfix⟩
    rw [decide_eq_true_iff]
    rintro rfl
    exact hNil (List.infix_nil.mp hInfix)

/-- One of the texts of the disclosure has a keyword of risk in it. -/
def DisclosureItemDTO.SaysRisk (dto : DisclosureItemDTO) : Prop :=
  ∃ part ∈ [some dto.title, dto.disclosureType, dto.summary], ∃ text ∈ part,
    ∃ keyword ∈ DisclosureCategory.risk.keywords, keyword <:+: lower text.toList

theorem mentions_risk_iff (parts : List (Option String)) : mentions .risk (haystack parts) = true ↔
    ∃ part ∈ parts, ∃ text ∈ part, ∃ keyword ∈ DisclosureCategory.risk.keywords,
      keyword <:+: lower text.toList := by
  have hWords : ∀ keyword ∈ DisclosureCategory.risk.keywords, keyword ≠ [] ∧ ' ' ∉ keyword := by
    decide
  rw [mentions, List.any_eq_true]
  constructor
  · rintro ⟨keyword, hKeyword, hIn⟩
    obtain ⟨hNil, hBlank⟩ := hWords keyword hKeyword
    obtain ⟨part, hPart, text, hText, hInfix⟩ := (isIn_haystack hNil hBlank parts).mp hIn
    exact ⟨part, hPart, text, hText, keyword, hKeyword, hInfix⟩
  · rintro ⟨part, hPart, text, hText, keyword, hKeyword, hInfix⟩
    obtain ⟨hNil, hBlank⟩ := hWords keyword hKeyword
    exact ⟨keyword, hKeyword, (isIn_haystack hNil hBlank parts).mpr ⟨part, hPart, text, hText, hInfix⟩⟩

/-- Risk comes before everything else a disclosure says. -/
theorem DisclosureItemDTO.category_eq_risk_iff (dto : DisclosureItemDTO) :
    dto.arrival.category = some "RISK_DISCLOSURE" ↔ dto.SaysRisk := by
  have hMentions := mentions_risk_iff [some dto.title, dto.disclosureType, dto.summary]
  rw [SaysRisk, ← hMentions, arrival, classified, classifyDisclosure]
  simp only [Option.some.injEq]
  split
  next hRisk => exact iff_of_true rfl hRisk
  next hRisk =>
    refine iff_of_false ?_ hRisk
    split
    · decide
    split
    · decide
    split
    · decide
    · decide

/-! ## The penalty of a run -/

open Decision.DisclosureRiskProducer NewsItemRepository

/-- What counts against a symbol. -/
def countsAgainst (now : Int) (symbol : String) (item : NewsItem) : Bool :=
  isSince (some (cutoff now)) item && isRelated symbol item && isRisk item

theorem length_riskItems (now : Int) (newsItems : List NewsItem) (symbol : String) :
    (riskItems now newsItems symbol).length =
      (newsItems.map content).countP (countsAgainst now symbol) := by
  rw [List.countP_map, List.countP_eq_length_filter]
  rfl

theorem length_riskRows_iff {now : Int} {newsItems : List NewsItem} {symbol : String} :
    (riskRows now newsItems symbol).length = (riskItems now newsItems symbol).length ↔
      NothingCrowdedOut now newsItems symbol := by
  constructor
  · intro h
    rw [riskRows, listRecentBySymbol] at h
    apply length_filter_take_eq_iff.mp
    rw [List.countP_eq_length_filter, riskItems_perm.length_eq]
    exact h
  · exact fun h => (riskRows_perm_iff.mpr h).length_eq

/-- A disclosure counts if it says risk, on its own symbol and while it is recent. -/
theorem countsAgainst_disclosure_iff (now : Int) (symbol : String) (dto : DisclosureItemDTO) :
    countsAgainst now symbol (dto.arrival.row 0) = true ↔
      dto.SaysRisk ∧ symbol ≠ "" ∧ dto.symbol = some symbol ∧ cutoff now ≤ dto.publishedAt := by
  have hRisk : isRisk (dto.arrival.row 0) = true ↔ dto.SaysRisk := by
    rw [isRisk, beq_iff_eq]
    exact dto.category_eq_risk_iff
  have hSince : isSince (some (cutoff now)) (dto.arrival.row 0) = true ↔
      cutoff now ≤ dto.publishedAt := by
    rw [isSince, Option.all_some, decide_eq_true_iff]
    rfl
  have hRelated : isRelated symbol (dto.arrival.row 0) = true ↔
      symbol ≠ "" ∧ dto.symbol = some symbol := by
    change ((related dto.symbol).getD []).contains symbol = true ↔ _
    cases dto.symbol with
    | none => simp [related]
    | some own =>
      by_cases hOwn : own = ""
      · simp only [related, hOwn, if_true, Option.getD_none, List.contains_nil, Bool.false_eq_true,
          Option.some.injEq, false_iff, not_and]
        exact fun hSymbol hSame => hSymbol hSame.symm
      · simp only [related, hOwn, if_false, Option.getD_some, List.contains_cons, List.contains_nil,
          Bool.or_false, beq_iff_eq, Option.some.injEq]
        constructor
        · rintro rfl
          exact ⟨hOwn, rfl⟩
        · exact fun h => h.2.symm
  rw [countsAgainst, Bool.and_eq_true, Bool.and_eq_true, hSince, hRelated, hRisk]
  tauto

/-- After any run of both jobs the penalty on a symbol is that of every risk disclosure that was the
first of its URL, exactly if none of them is crowded out by newer items. -/
theorem penalty_run_iff (describe : FeedError → String) (calls : List FeedCall) (jobRuns : Table JobRun)
    (earningsEvents : List EarningsEvent) (now : Int) (symbol : String) :
    (let table := (run (FeedCall.step describe) calls ⟨jobRuns, ⟨[], earningsEvents⟩⟩).work.newsItems
     let count := ((fresh [] (calls.flatMap FeedCall.accepted)).map (Arrival.row 0)).countP
       (countsAgainst now symbol)
     evaluate now table symbol = ⟨count, min (3 * (count : ℚ)) 10⟩ ↔
       NothingCrowdedOut now table symbol) ∧
    ∀ dto : DisclosureItemDTO, countsAgainst now symbol (dto.arrival.row 0) = true ↔
      dto.SaysRisk ∧ symbol ≠ "" ∧ dto.symbol = some symbol ∧ cutoff now ≤ dto.publishedAt := by
  refine ⟨?_, countsAgainst_disclosure_iff now symbol⟩
  have hRows := FeedCall.rows_run describe calls ⟨jobRuns, ⟨[], earningsEvents⟩⟩
  simp only
  generalize (run (FeedCall.step describe) calls ⟨jobRuns, ⟨[], earningsEvents⟩⟩).work.newsItems =
    table at hRows ⊢
  have hCount := length_riskItems now table symbol
  rw [hRows] at hCount
  change _ = List.countP (countsAgainst now symbol)
    ((fresh [] (calls.flatMap FeedCall.accepted)).map (Arrival.row 0)) at hCount
  rw [← hCount, ← length_riskRows_iff, evaluate_eq]
  constructor
  · exact fun h => congrArg Decision.DisclosureRiskResult.riskDisclosureCount h
  · intro h
    rw [h, mul_comm]
    rfl

end StockAiPlatform.Feeds
