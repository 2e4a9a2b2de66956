import StockAiPlatform.Api.PaperRoutes
import StockAiPlatform.Data.RealOrderRepository
import StockAiPlatform.Data.NewsItemRepository
import StockAiPlatform.Python.Json
import StockAiPlatform.Transaction.Listing

/-! # The listings

Four routes that filter a table, some of it in SQL before the limit and some of
it in Python after. A row wanted beyond the limit is lost unless every row up
to it was wanted too.
-/

namespace StockAiPlatform
set_option autoImplicit false

open Transaction Python

structure RealOrderSchema where
  id : Nat
  candidateId : Nat
  symbol : String
  side : String
  quantity : Int
  orderType : String
  limitPrice : Option String
  estimatedAmount : String
  status : String
  dryRun : Bool
  fakeOrderNo : Option String
  requestId : Option String
  errorCode : Option String
  errorMessage : Option String
  submittedAt : Option Int
  createdAt : Int
  deriving DecidableEq, Repr

structure RealOrdersResponse where
  items : List RealOrderSchema
  total : Nat
  limit : Nat
  offset : Nat
  deriving DecidableEq, Repr

structure RealOrdersQuery where
  status : Option String := none
  candidateId : Option Nat := none
  limit : Nat := 50
  offset : Nat := 0
  limit_ok : 1 ≤ limit ∧ limit ≤ 200

namespace RealOrderRoutes

def orderSchema (order : RealOrder) : RealOrderSchema where
  id := order.id
  candidateId := order.candidateId
  symbol := order.symbol
  side := order.side.value
  quantity := order.quantity
  orderType := order.orderType.value
  limitPrice := order.limitPrice.map (fixed 4)
  estimatedAmount := fixed 4 order.estimatedAmount
  status := order.status.value
  dryRun := order.dryRun
  fakeOrderNo := order.fakeOrderNo
  requestId := order.requestId
  errorCode := order.errorCode
  errorMessage := order.errorMessage
  submittedAt := order.submittedAt
  createdAt := order.createdAt

def sortedStatuses : List String :=
  ["CANCELED", "CREATED", "DRY_RUN", "FAILED", "FILLED", "PARTIALLY_FILLED", "REJECTED",
    "SUBMITTED"]

def invalidStatus (status : String) : PyError :=
  .http 422 ("Invalid status " ++ (Json.str status).repr ++ ". Must be one of "
    ++ (Json.list (sortedStatuses.map .str)).repr)

/-- The rows before the page is cut: limited by SQL, unless only a candidate is asked for. -/
def listedOrders (query : RealOrdersQuery) (status : Option RealOrderStatus) :
    App (List RealOrder) :=
  match status, query.candidateId with
  | some status, candidateId => do
    let rows ← RealOrderRepository.listByStatus status (query.limit + query.offset)
    pure (rows.filter fun order => candidateId.all (order.candidateId == ·))
  | none, some candidateId => RealOrderRepository.getByCandidateId candidateId
  | none, none => RealOrderRepository.listRecent (query.limit + query.offset)

def listRealOrders (query : RealOrdersQuery) : App RealOrdersResponse := do
  let status ← match query.status with
    | none => pure none
    | some text =>
      match RealOrderStatus.ofValue? text with
      | none => .raise (invalidStatus text)
      | some status => pure (some status)
  let rows ← listedOrders query status
  pure
    { items := ((rows.drop query.offset).take query.limit).map orderSchema
      total := rows.length
      limit := query.limit
      offset := query.offset }

end RealOrderRoutes

structure PaperOrderSchema where
  id : Nat
  accountId : Nat
  symbol : String
  side : String
  quantity : Int
  orderType : String
  limitPrice : Option String
  status : String
  idempotencyKey : Option String
  reason : Option Formatted
  note : Option String

structure PaperOrdersResponse where
  orders : List PaperOrderSchema
  total : Nat
  limit : Nat

structure PaperOrdersQuery where
  accountId : Option Nat := none
  status : Option String := none
  symbol : Option String := none
  limit : Nat := 50
  symbol_short : ∀ text ∈ symbol, text.length ≤ 32
  limit_ok : 1 ≤ limit ∧ limit ≤ 500

namespace PaperRoutes

def orderSchema (order : VirtualOrder) : PaperOrderSchema where
  id := order.id
  accountId := order.accountId
  symbol := order.symbol
  side := order.side.value
  quantity := order.quantity
  orderType := order.orderType.value
  limitPrice := order.limitPrice.map (fixed 4)
  status := order.status.value
  idempotencyKey := order.idempotencyKey
  reason := order.reason
  note := order.note

variable (upper : String → String)

/-- `symbol.strip().upper()` -/
def targetSymbol (symbol : String) : String := upper (String.ofList (strip symbol.toList))

def keepsSymbol (symbol : Option String) (order : VirtualOrder) : Bool :=
  symbol.all fun text => order.symbol == targetSymbol upper text

def listPaperOrders (query : PaperOrdersQuery) (userId : Nat) : App PaperOrdersResponse := do
  let account ← resolveAccount query.accountId userId
  let rows ← VirtualOrderRepository.listByAccountStatus account.id query.status query.limit
  let rows := rows.filter (keepsSymbol upper query.symbol)
  pure { orders := rows.map orderSchema, total := rows.length, limit := query.limit }

end PaperRoutes

namespace Feeds

structure NewsItemSchema where
  id : Nat
  publishedAt : Int
  availableAt : Option Int
  source : String
  title : String
  url : Option String
  relatedSymbols : Option (List String)
  sentiment : Option String
  importance : Option String
  theme : Option String
  deriving DecidableEq, Repr

structure NewsResponse where
  items : List NewsItemSchema
  limit : Nat
  offset : Nat
  deriving DecidableEq, Repr

structure NewsQuery where
  symbol : Option String := none
  theme : Option String := none
  sentiment : Option String := none
  startTime : Option Int := none
  endTime : Option Int := none
  limit : Nat := 50
  offset : Nat := 0
  limit_ok : 1 ≤ limit ∧ limit ≤ 200

def newsSchema (row : NewsItem) : NewsItemSchema where
  id := row.id
  publishedAt := row.publishedAt
  availableAt := row.availableAt
  source := row.source
  title := row.title
  url := row.url
  relatedSymbols := row.relatedSymbols
  sentiment := row.sentiment
  importance := row.importance
  theme := row.theme

/-- The `WHERE` of the statement. -/
def newsWhere (query : NewsQuery) (row : NewsItem) : Bool :=
  query.startTime.all (· ≤ row.publishedAt) && query.endTime.all (row.publishedAt ≤ ·) &&
    query.theme.all (row.theme == some ·) && query.sentiment.all (row.sentiment == some ·)

def keepsRelated (symbol : Option String) (row : NewsItem) : Bool :=
  symbol.all fun text => row.relatedSymbols.any fun symbols => symbols.contains text

abbrev newestNews (a b : NewsItem) : Prop := b.publishedAt ≤ a.publishedAt

def getNews (query : NewsQuery) (db : Database) : NewsResponse :=
  let rows := ((select newestNews (newsWhere query) db.newsItems).drop query.offset).take query.limit
  { items := (rows.filter (keepsRelated query.symbol)).map newsSchema
    limit := query.limit
    offset := query.offset }

structure EarningsCalendarItemSchema where
  symbol : String
  companyName : Option String
  eventDate : Int
  fiscalYear : Int
  fiscalQuarter : Option Int
  eventType : String
  surpriseType : Option String
  surprisePct : Option String
  deriving DecidableEq, Repr

structure EarningsCalendarResponse where
  items : List EarningsCalendarItemSchema
  count : Nat
  fromDate : Option Int
  toDate : Option Int
  surpriseType : Option String
  limit : Nat
  deriving DecidableEq, Repr

structure EarningsCalendarQuery where
  fromDate : Option Int := none
  toDate : Option Int := none
  surpriseType : Option String := none
  limit : Nat := 20
  limit_ok : 1 ≤ limit ∧ limit ≤ 100

def calendarItem (row : EarningsEvent) : EarningsCalendarItemSchema where
  symbol := row.symbol
  companyName := row.companyName
  eventDate := row.eventDate
  fiscalYear := row.fiscalYear
  fiscalQuarter := row.fiscalQuarter
  eventType := row.eventType
  surpriseType := row.surpriseType
  surprisePct := row.surprisePct.map (fixed 4)

def soonestEvents (a b : EarningsEvent) : Prop :=
  a.eventDate < b.eventDate ∨ (a.eventDate = b.eventDate ∧ a.symbol ≤ b.symbol)

instance : DecidableRel soonestEvents := fun a b => inferInstanceAs (Decidable
  (a.eventDate < b.eventDate ∨ (a.eventDate = b.eventDate ∧ a.symbol ≤ b.symbol)))

instance : Std.Total soonestEvents where
  total a b := by
    rcases lt_trichotomy a.eventDate b.eventDate with hLess | hSame | hMore
    · exact .inl (.inl hLess)
    · rcases String.le_total a.symbol b.symbol with hSymbol | hSymbol
      · exact .inl (.inr ⟨hSame, hSymbol⟩)
      · exact .inr (.inr ⟨hSame.symm, hSymbol⟩)
    · exact .inr (.inl hMore)

instance : IsTrans EarningsEvent soonestEvents where
  trans a b c := by
    rintro (hLess | ⟨hSame, hSymbol⟩) (hNext | ⟨hAlso, hAfter⟩)
    · exact .inl (hLess.trans hNext)
    · exact .inl (hAlso ▸ hLess)
    · exact .inl (hSame ▸ hNext)
    · exact .inr ⟨hSame.trans hAlso, String.le_trans hSymbol hAfter⟩

namespace EarningsEventRepository

def within (since : Int) (toDate : Option Int) (row : EarningsEvent) : Bool :=
  since ≤ row.eventDate && toDate.all (row.eventDate ≤ ·)

def listUpcoming (since : Int) (toDate : Option Int) (limit : Nat) (db : Database) :
    List EarningsEvent :=
  (select soonestEvents (within since toDate) db.earningsEvents).take limit

end EarningsEventRepository

def keepsSurprise (surpriseType : Option String) (row : EarningsEvent) : Bool :=
  surpriseType.all (row.surpriseType == some ·)

def getEarningsCalendar (query : EarningsCalendarQuery) (today : Int) (db : Database) :
    EarningsCalendarResponse :=
  let rows := (EarningsEventRepository.listUpcoming (query.fromDate.getD today) query.toDate
    query.limit db).filter (keepsSurprise query.surpriseType)
  { items := rows.map calendarItem
    count := rows.length
    fromDate := query.fromDate
    toDate := query.toDate
    surpriseType := query.surpriseType
    limit := query.limit }

end Feeds

section Lossless

/-- A request to one of the listings; `today` is the day a calendar starts on by default. -/
inductive ListRequest where
  | realOrders (query : RealOrdersQuery)
  | paperOrders (query : PaperOrdersQuery) (userId : Nat)
  | news (query : Feeds.NewsQuery)
  | earnings (query : Feeds.EarningsCalendarQuery) (today : Int)

structure Listed where
  orders : Database
  feeds : Feeds.Database

abbrev newestOrder (a b : RealOrder) : Prop := b.id ≤ a.id

abbrev newestPaperOrder (a b : VirtualOrder) : Prop := b.id ≤ a.id

def RealOrdersQuery.hasStatus (query : RealOrdersQuery) (order : RealOrder) : Bool :=
  query.status.all (order.status.value == ·)

def RealOrdersQuery.hasCandidate (query : RealOrdersQuery) (order : RealOrder) : Bool :=
  query.candidateId.all (order.candidateId == ·)

def PaperOrdersQuery.ofAccount (query : PaperOrdersQuery) (accountId : Nat)
    (order : VirtualOrder) : Bool :=
  order.accountId == accountId && query.status.all (order.status.value == ·)

variable (upper : String → String) (db : Listed)

/-- A listing shows the first rows that satisfy every filter, and counts all of them. -/
def LosesNothing : ListRequest → Prop
  | .realOrders query => ∀ response s,
    (RealOrderRoutes.listRealOrders query).exec unasked (.opened db.orders) = (.ok response, s) →
      (query.offset = 0 → response.items = ((select newestOrder
        (fun order => query.hasCandidate order && query.hasStatus order)
          db.orders.realOrders.rows).take query.limit).map RealOrderRoutes.orderSchema) ∧
      response.total = db.orders.realOrders.rows.countP
        fun order => query.hasCandidate order && query.hasStatus order
  | .paperOrders query userId => ∀ response s account,
    (PaperRoutes.listPaperOrders upper query userId).exec unasked (.opened db.orders) =
        (.ok response, s) →
      VirtualAccountRepository.resolved? query.accountId (some userId) db.orders = some account →
        response.orders = ((select newestPaperOrder (fun order =>
          PaperRoutes.keepsSymbol upper query.symbol order && query.ofAccount account.id order)
            db.orders.virtualOrders.rows).take query.limit).map PaperRoutes.orderSchema
  | .news query => query.offset = 0 → (Feeds.getNews query db.feeds).items =
    ((select Feeds.newestNews (fun row => Feeds.keepsRelated query.symbol row &&
      Feeds.newsWhere query row) db.feeds.newsItems).take query.limit).map Feeds.newsSchema
  | .earnings query today => (Feeds.getEarningsCalendar query today db.feeds).items =
    ((select Feeds.soonestEvents (fun row => Feeds.keepsSurprise query.surpriseType row &&
      Feeds.EarningsEventRepository.within (query.fromDate.getD today) query.toDate row)
        db.feeds.earningsEvents).take query.limit).map Feeds.calendarItem

/-- No row that SQL selects beyond the limit passes the filters applied after it; or, for a page
without a total, every row up to the limit passes them. -/
def NothingBeyond : ListRequest → Prop
  | .realOrders query => (∃ text, query.status = some text ∧ RealOrderStatus.ofValue? text = none) ∨
    (query.status = none ∧ query.candidateId ≠ none) ∨
    Exhausted query.hasCandidate (query.limit + query.offset)
      (select newestOrder query.hasStatus db.orders.realOrders.rows)
  | .paperOrders query userId => ∀ account,
    VirtualAccountRepository.resolved? query.accountId (some userId) db.orders = some account →
      let rows := select newestPaperOrder (query.ofAccount account.id) db.orders.virtualOrders.rows
      Exhausted (PaperRoutes.keepsSymbol upper query.symbol) query.limit rows ∨
        AllKept (PaperRoutes.keepsSymbol upper query.symbol) query.limit rows
  | .news query => query.offset ≠ 0 ∨
    let rows := select Feeds.newestNews (Feeds.newsWhere query) db.feeds.newsItems
    Exhausted (Feeds.keepsRelated query.symbol) query.limit rows ∨
      AllKept (Feeds.keepsRelated query.symbol) query.limit rows
  | .earnings query today =>
    let rows := select Feeds.soonestEvents
      (Feeds.EarningsEventRepository.within (query.fromDate.getD today) query.toDate)
        db.feeds.earningsEvents
    Exhausted (Feeds.keepsSurprise query.surpriseType) query.limit rows ∨
      AllKept (Feeds.keepsSurprise query.surpriseType) query.limit rows

variable {upper db}

theorem news_iff (query : Feeds.NewsQuery) :
    LosesNothing upper db (.news query) ↔ NothingBeyond upper db (.news query) := by
  by_cases hOffset : query.offset = 0
  · have hItems : (Feeds.getNews query db.feeds).items =
        (((select Feeds.newestNews (Feeds.newsWhere query) db.feeds.newsItems).take
          query.limit).filter (Feeds.keepsRelated query.symbol)).map Feeds.newsSchema := by
      simp only [Feeds.getNews, hOffset, List.drop_zero]
    rw [LosesNothing, NothingBeyond, hItems, ← filter_select]
    simp only [hOffset, forall_const, ne_eq, not_true_eq_false, false_or]
    exact map_filter_take_eq_iff Feeds.newsSchema
  · exact iff_of_true (fun hZero => absurd hZero hOffset) (.inl hOffset)

theorem earnings_iff (query : Feeds.EarningsCalendarQuery) (today : Int) :
    LosesNothing upper db (.earnings query today) ↔
      NothingBeyond upper db (.earnings query today) := by
  rw [LosesNothing, NothingBeyond, ← filter_select]
  exact map_filter_take_eq_iff Feeds.calendarItem

variable (upper) in
theorem exec_listPaperOrders {query : PaperOrdersQuery} {userId : Nat} {account : VirtualAccount}
    (hAccount : VirtualAccountRepository.resolved? query.accountId (some userId) db.orders =
      some account) :
    ∃ response, (PaperRoutes.listPaperOrders upper query userId).exec unasked (.opened db.orders) =
        (.ok response, .opened db.orders) ∧
      response.orders = (((select newestPaperOrder (query.ofAccount account.id)
        db.orders.virtualOrders.rows).take query.limit).filter
          (PaperRoutes.keepsSymbol upper query.symbol)).map PaperRoutes.orderSchema := by
  have hResolve := VirtualAccountRepository.exec_resolve unasked (.opened db.orders)
    "paper trading account not found" "no paper trading account exists for this user"
    query.accountId (some userId)
  rw [Session.opened_view, hAccount] at hResolve
  exact ⟨_, Program.exec_bind_ok unasked (.opened db.orders) hResolve _, rfl⟩

theorem paperOrders_iff (query : PaperOrdersQuery) (userId : Nat) :
    LosesNothing upper db (.paperOrders query userId) ↔
      NothingBeyond upper db (.paperOrders query userId) := by
  constructor
  · intro hLossless account hAccount
    obtain ⟨response, hExec, hOrders⟩ := exec_listPaperOrders upper hAccount
    have hSame := hLossless response _ account hExec hAccount
    rw [hOrders, ← filter_select] at hSame
    exact (map_filter_take_eq_iff PaperRoutes.orderSchema).mp hSame
  · intro hBeyond response s account hExec hAccount
    obtain ⟨answered, hAnswered, hOrders⟩ := exec_listPaperOrders upper hAccount
    cases hAnswered.symm.trans hExec
    rw [hOrders, ← filter_select]
    exact (map_filter_take_eq_iff PaperRoutes.orderSchema).mpr (hBeyond account hAccount)

theorem ofValue?_eq_some {text : String} {status : RealOrderStatus}
    (h : RealOrderStatus.ofValue? text = some status) : status.value = text := by
  have hFound : (status.value == text) = true :=
    List.find?_some (p := fun status : RealOrderStatus => status.value == text) h
  exact beq_iff_eq.mp hFound

theorem value_injective {a b : RealOrderStatus} (h : a.value = b.value) : a = b := by
  cases a <;> cases b <;> first | rfl | exact absurd h (by decide)

/-- The rows a valid request lists, before the page is cut. -/
def listedRows (query : RealOrdersQuery) (db : Database) : List RealOrder :=
  let selected := select newestOrder query.hasStatus db.realOrders.rows
  if query.status = none ∧ query.candidateId ≠ none then selected.filter query.hasCandidate
  else (selected.take (query.limit + query.offset)).filter query.hasCandidate

theorem select_of_status {query : RealOrdersQuery} {text : String} {status : RealOrderStatus}
    (hQuery : query.status = some text) (hStatus : RealOrderStatus.ofValue? text = some status)
    (rows : List RealOrder) : select newestOrder query.hasStatus rows =
      (rows.filter fun order => order.status == status).insertionSort
        fun a b => b.id ≤ a.id := by
  have hKeep : ∀ order ∈ rows, query.hasStatus order = (order.status == status) := by
    intro order _
    rw [RealOrdersQuery.hasStatus, hQuery, Option.all_some, ← ofValue?_eq_some hStatus,
      Bool.eq_iff_iff, beq_iff_eq, beq_iff_eq]
    exact ⟨value_injective, congrArg RealOrderStatus.value⟩
  rw [select, List.filter_congr hKeep]

theorem select_of_no_status {query : RealOrdersQuery} (hQuery : query.status = none)
    (rows : List RealOrder) :
    select newestOrder query.hasStatus rows = rows.insertionSort fun a b => b.id ≤ a.id := by
  have hKeep : rows.filter query.hasStatus = rows := by
    rw [List.filter_eq_self]
    intro order _
    rw [RealOrdersQuery.hasStatus, hQuery, Option.all_none]
  rw [select, hKeep]

theorem listedRows_of_status {query : RealOrdersQuery} {text : String} {status : RealOrderStatus}
    (hQuery : query.status = some text) (hStatus : RealOrderStatus.ofValue? text = some status)
    (db : Database) : listedRows query db =
      (((db.realOrders.rows.filter fun order => order.status == status).insertionSort
        fun a b => b.id ≤ a.id).take (query.limit + query.offset)).filter query.hasCandidate := by
  have hSome : ¬ (query.status = none ∧ query.candidateId ≠ none) := by
    rw [hQuery]
    exact fun h => Option.some_ne_none _ h.1
  rw [listedRows, if_neg hSome, select_of_status hQuery hStatus]

theorem listedRows_of_candidate {query : RealOrdersQuery} {candidateId : Nat}
    (hStatus : query.status = none) (hCandidate : query.candidateId = some candidateId)
    (db : Database) : listedRows query db = RealOrderRepository.ordersOf candidateId db := by
  rw [listedRows, if_pos ⟨hStatus, by rw [hCandidate]; exact Option.some_ne_none _⟩,
    filter_select, RealOrderRepository.ordersOf, select]
  congr 1
  apply List.filter_congr
  intro order _
  rw [RealOrdersQuery.hasCandidate, RealOrdersQuery.hasStatus, hStatus, hCandidate,
    Option.all_some, Option.all_none, Bool.and_true]

theorem listedRows_of_neither {query : RealOrdersQuery} (hStatus : query.status = none)
    (hCandidate : query.candidateId = none) (db : Database) : listedRows query db =
      (db.realOrders.rows.insertionSort fun a b => b.id ≤ a.id).take
        (query.limit + query.offset) := by
  rw [listedRows, if_neg (fun h => h.2 hCandidate), select_of_no_status hStatus,
    List.filter_eq_self]
  intro order _
  rw [RealOrdersQuery.hasCandidate, hCandidate, Option.all_none]

variable (db) in
theorem exec_listRealOrders {query : RealOrdersQuery}
    (hValid : ∀ text, query.status = some text → RealOrderStatus.ofValue? text ≠ none) :
    ∃ response, (RealOrderRoutes.listRealOrders query).exec unasked (.opened db.orders) =
        (.ok response, .opened db.orders) ∧
      response.items = (((listedRows query db.orders).drop query.offset).take query.limit).map
        RealOrderRoutes.orderSchema ∧ response.total = (listedRows query db.orders).length := by
  cases hStatus : query.status with
  | some text =>
    obtain ⟨status, hParsed⟩ := Option.ne_none_iff_exists'.mp (hValid text hStatus)
    rw [listedRows_of_status hStatus hParsed]
    simp only [RealOrderRoutes.listRealOrders, hStatus, hParsed]
    exact ⟨_, rfl, rfl, rfl⟩
  | none =>
    cases hCandidate : query.candidateId with
    | some candidateId =>
      rw [listedRows_of_candidate hStatus hCandidate]
      simp only [RealOrderRoutes.listRealOrders, hStatus]
      exact ⟨_, by simp only [RealOrderRoutes.listedOrders, hCandidate]; rfl, rfl, rfl⟩
    | none =>
      rw [listedRows_of_neither hStatus hCandidate]
      simp only [RealOrderRoutes.listRealOrders, hStatus]
      exact ⟨_, by simp only [RealOrderRoutes.listedOrders, hCandidate]; rfl, rfl, rfl⟩

theorem exec_listRealOrders_of_invalid {query : RealOrdersQuery} {text : String}
    (hStatus : query.status = some text) (hInvalid : RealOrderStatus.ofValue? text = none) :
    (RealOrderRoutes.listRealOrders query).exec unasked (.opened db.orders) =
      (.error (RealOrderRoutes.invalidStatus text), .opened db.orders) := by
  simp only [RealOrderRoutes.listRealOrders, hStatus, hInvalid]
  rfl

/-- What a valid request lists is complete if only a candidate is asked for, or if SQL had no row
more that is wanted. -/
theorem listedRows_of_exhausted {query : RealOrdersQuery}
    (h : (query.status = none ∧ query.candidateId ≠ none) ∨
      Exhausted query.hasCandidate (query.limit + query.offset)
        (select newestOrder query.hasStatus db.orders.realOrders.rows)) :
    listedRows query db.orders = select newestOrder
      (fun order => query.hasCandidate order && query.hasStatus order)
        db.orders.realOrders.rows := by
  rw [listedRows, ← filter_select]
  split
  · rfl
  · rename_i hLimited
    exact filter_take_of_exhausted (h.resolve_left hLimited)

theorem length_listedRows_iff (query : RealOrdersQuery) :
    (listedRows query db.orders).length = db.orders.realOrders.rows.countP
        (fun order => query.hasCandidate order && query.hasStatus order) ↔
      (query.status = none ∧ query.candidateId ≠ none) ∨
        Exhausted query.hasCandidate (query.limit + query.offset)
          (select newestOrder query.hasStatus db.orders.realOrders.rows) := by
  by_cases hOnly : query.status = none ∧ query.candidateId ≠ none
  · refine iff_of_true ?_ (.inl hOnly)
    rw [listedRows_of_exhausted (.inl hOnly), select, List.length_insertionSort,
      List.countP_eq_length_filter]
  · rw [or_iff_right hOnly, listedRows, if_neg hOnly, ← countP_select (r := newestOrder)]
    exact length_filter_take_eq_iff

theorem realOrders_iff (query : RealOrdersQuery) :
    LosesNothing upper db (.realOrders query) ↔ NothingBeyond upper db (.realOrders query) := by
  by_cases hInvalid : ∃ text, query.status = some text ∧ RealOrderStatus.ofValue? text = none
  · obtain ⟨text, hStatus, hParsed⟩ := hInvalid
    refine iff_of_true (fun response s hExec => ?_) (.inl ⟨text, hStatus, hParsed⟩)
    cases (exec_listRealOrders_of_invalid hStatus hParsed).symm.trans hExec
  · have hValid : ∀ text, query.status = some text → RealOrderStatus.ofValue? text ≠ none :=
      fun text hStatus hParsed => hInvalid ⟨text, hStatus, hParsed⟩
    obtain ⟨response, hExec, hItems, hTotal⟩ := exec_listRealOrders db hValid
    rw [NothingBeyond, or_iff_right hInvalid, ← length_listedRows_iff]
    constructor
    · intro hLossless
      rw [← hTotal]
      exact (hLossless response _ hExec).2
    · intro hLength answered s hAnswered
      cases hExec.symm.trans hAnswered
      refine ⟨fun hOffset => ?_, hTotal.trans hLength⟩
      rw [hItems, hOffset, List.drop_zero,
        listedRows_of_exhausted ((length_listedRows_iff query).mp hLength)]

theorem listings_lossless_iff (upper : String → String) (db : Listed) (request : ListRequest) :
    LosesNothing upper db request ↔ NothingBeyond upper db request := by
  cases request with
  | realOrders query => exact realOrders_iff query
  | paperOrders query userId => exact paperOrders_iff query userId
  | news query => exact news_iff query
  | earnings query today => exact earnings_iff query today

theorem limit_one_ok : 1 ≤ 1 ∧ 1 ≤ 200 := by decide

/-- The newest news are about another stock. -/
def twoStocks : Feeds.Database where
  newsItems :=
    [⟨1, 10, none, "rss", "old", none, some ["005930"], none, none, none, none⟩,
      ⟨2, 20, none, "rss", "new", none, some ["000660"], none, none, none, none⟩]
  earningsEvents := []

/-- `GET /api/news?symbol=005930&limit=1` -/
def newsOfOneStock : Feeds.NewsQuery where
  symbol := some "005930"
  limit := 1
  limit_ok := limit_one_ok

theorem news_loses_older : ¬ LosesNothing id ⟨Database.empty, twoStocks⟩ (.news newsOfOneStock) := by
  intro hLossless
  exact absurd (hLossless rfl) (by decide)

end Lossless

end StockAiPlatform
