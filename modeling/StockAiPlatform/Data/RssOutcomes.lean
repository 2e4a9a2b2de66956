import StockAiPlatform.Data.RssProvider

/-! # What a fetch of the feeds returns

Of each URL the first item is kept, and only then the cutoff is looked at. One
date that overflows ends the fetch of all feeds.
-/

namespace StockAiPlatform.Rss
set_option autoImplicit false

open Python Providers Transaction RssNewsProvider

section Dedup

/-- The first item in the order of the feeds that has the URL. -/
def firstWith (url : Text) (items : List NewsItemDTO) : Option NewsItemDTO :=
  items.find? fun item => decide (item.url = url)

/-- What every item has that a parser returns. -/
structure NewsItemDTO.Parsed (item : NewsItemDTO) : Prop where
  url_ne : item.url ≠ []
  symbol_none : item.symbol = none

variable {items : List NewsItemDTO} {item : NewsItemDTO} {symbols : List Text} {since : Option Int}

theorem dedupFrom_eq_firstOfKey (hParsed : ∀ item ∈ items, item.Parsed) (seen : List Text) :
    dedupFrom seen items = firstOfKey NewsItemDTO.url seen items := by
  induction items generalizing seen with
  | nil => rfl
  | cons item items ih =>
    rw [List.forall_mem_cons] at hParsed
    by_cases hSeen : item.url ∈ seen
    · rw [dedupFrom, if_pos (.inr (List.contains_iff_mem.mpr hSeen)),
        firstOfKey_cons_of_mem _ hSeen, ih hParsed.2]
    · have hNew : ¬ seen.contains item.url = true := fun h => hSeen (List.contains_iff_mem.mp h)
      rw [dedupFrom, if_neg (not_or.mpr ⟨hParsed.1.url_ne, hNew⟩),
        firstOfKey_cons_of_notMem _ hSeen, ih hParsed.2]

theorem mem_dedupItems (hParsed : ∀ item ∈ items, item.Parsed) :
    item ∈ dedupItems items ↔ firstWith item.url items = some item := by
  rw [dedupItems, dedupFrom_eq_firstOfKey hParsed, mem_firstOfKey]
  exact and_iff_right List.not_mem_nil

theorem nodup_dedupItems (hParsed : ∀ item ∈ items, item.Parsed) :
    ((dedupItems items).map NewsItemDTO.url).Nodup := by
  rw [dedupItems, dedupFrom_eq_firstOfKey hParsed]
  exact nodup_map_firstOfKey _ _ _

theorem mem_of_firstWith {url : Text} (h : firstWith url items = some item) :
    item ∈ items ∧ item.url = url := by
  have hUrl := List.find?_some (p := fun item : NewsItemDTO => decide (item.url = url)) h
  exact ⟨List.mem_of_find?_eq_some h, of_decide_eq_true hUrl⟩

theorem exists_firstWith (hItem : item ∈ items) : ∃ first, firstWith item.url items = some first :=
  Option.isSome_iff_exists.mp (List.find?_isSome.mpr ⟨item, hItem, decide_eq_true rfl⟩)

theorem bySince_sublist (since : Option Int) (items : List NewsItemDTO) :
    (bySince since items).Sublist items := by
  cases since with
  | none => exact List.Sublist.refl items
  | some since => exact List.filter_sublist

theorem mem_bySince :
    item ∈ bySince since items ↔ item ∈ items ∧ ∀ cutoff ∈ since, cutoff ≤ item.publishedAt := by
  cases since with
  | none => simp [bySince]
  | some since => simp [bySince]

/-- No item of a feed has a symbol. -/
theorem bySymbols_eq_self (hParsed : ∀ item ∈ items, item.Parsed) : bySymbols symbols items = items := by
  rw [bySymbols]
  split
  · rfl
  · apply List.filter_eq_self.mpr
    intro item hItem
    rw [(hParsed item hItem).symbol_none]
    rfl

theorem beforeLimit_eq (hParsed : ∀ item ∈ items, item.Parsed) :
    beforeLimit symbols since items = bySince since (dedupItems items) := by
  apply bySymbols_eq_self
  intro item hItem
  have hKept := (mem_dedupItems hParsed).mp ((bySince_sublist since _).subset hItem)
  exact hParsed item (mem_of_firstWith hKept).1

theorem mem_beforeLimit (hParsed : ∀ item ∈ items, item.Parsed) :
    item ∈ beforeLimit symbols since items ↔
      firstWith item.url items = some item ∧ ∀ cutoff ∈ since, cutoff ≤ item.publishedAt := by
  rw [beforeLimit_eq hParsed, mem_bySince, mem_dedupItems hParsed]

theorem nodup_beforeLimit (hParsed : ∀ item ∈ items, item.Parsed) :
    ((beforeLimit symbols since items).map NewsItemDTO.url).Nodup := by
  rw [beforeLimit_eq hParsed]
  exact (nodup_dedupItems hParsed).sublist ((bySince_sublist since _).map _)

/-- Each URL once, and exactly the URLs of the items that are not older than the cutoff. -/
def RespectsSince (symbols : List Text) (cutoff : Int) (items : List NewsItemDTO) : Prop :=
  ((beforeLimit symbols (some cutoff) items).map NewsItemDTO.url).Nodup ∧
    ∀ url, url ∈ (beforeLimit symbols (some cutoff) items).map NewsItemDTO.url ↔
      ∃ item ∈ items, item.url = url ∧ cutoff ≤ item.publishedAt

theorem respectsSince_iff (symbols : List Text) (cutoff : Int) (items : List NewsItemDTO)
    (hParsed : ∀ item ∈ items, item.Parsed) :
    RespectsSince symbols cutoff items ↔
      ∀ item ∈ items, cutoff ≤ item.publishedAt →
        ∀ first, firstWith item.url items = some first → cutoff ≤ first.publishedAt := by
  constructor
  · rintro ⟨-, hUrls⟩ item hItem hRecent first hFirst
    obtain ⟨kept, hKept, hUrl⟩ := List.mem_map.mp ((hUrls item.url).mpr ⟨item, hItem, rfl, hRecent⟩)
    obtain ⟨hKeptFirst, hKeptRecent⟩ := (mem_beforeLimit hParsed).mp hKept
    rw [hUrl, hFirst] at hKeptFirst
    rw [Option.some.inj hKeptFirst]
    exact hKeptRecent cutoff rfl
  · intro hFirsts
    refine ⟨nodup_beforeLimit hParsed, ?_⟩
    intro url
    constructor
    · intro hUrl
      obtain ⟨kept, hKept, rfl⟩ := List.mem_map.mp hUrl
      obtain ⟨hFirst, hRecent⟩ := (mem_beforeLimit hParsed).mp hKept
      exact ⟨kept, (mem_of_firstWith hFirst).1, rfl, hRecent cutoff rfl⟩
    · rintro ⟨item, hItem, rfl, hRecent⟩
      obtain ⟨first, hFirst⟩ := exists_firstWith hItem
      obtain ⟨-, hUrl⟩ := mem_of_firstWith hFirst
      refine List.mem_map.mpr ⟨first, (mem_beforeLimit hParsed).mpr ⟨hUrl ▸ hFirst, ?_⟩, hUrl⟩
      rintro _ ⟨⟩
      exact hFirsts item hItem hRecent first hFirst

/-- A first item of 9 o'clock with a second one of 11 o'clock under the same URL. -/
def republished : List NewsItemDTO :=
  [{ title := "old".toList, url := "u".toList, provider := "rss".toList, publishedAt := 9,
     dataSource := "PROVIDER".toList },
   { title := "new".toList, url := "u".toList, provider := "rss".toList, publishedAt := 11,
     dataSource := "PROVIDER".toList }]

theorem parsed_republished : ∀ item ∈ republished, item.Parsed := by
  intro item hItem
  rcases List.mem_pair.mp hItem with rfl | rfl
  · exact ⟨by decide, rfl⟩
  · exact ⟨by decide, rfl⟩

theorem respectsSince_iff_republished :
    RespectsSince [] 10 republished ↔
      ∀ item ∈ republished, 10 ≤ item.publishedAt →
        ∀ first, firstWith item.url republished = some first → 10 ≤ first.publishedAt :=
  respectsSince_iff [] 10 republished parsed_republished

theorem not_respectsSince_republished : ¬ RespectsSince [] 10 republished := by
  rintro ⟨-, hUrls⟩
  have hKept : "u".toList ∈ (beforeLimit [] (some 10) republished).map NewsItemDTO.url :=
    (hUrls _).mpr ⟨_, List.mem_cons_of_mem _ List.mem_cons_self, rfl, by decide⟩
  exact absurd hKept (by decide)

end Dedup

section Isolation

/-- The time is one of the years 1 to 9999 in UTC too. -/
def DateTime.InYears (dt : DateTime) : Prop :=
  0 ≤ dt.clock - dt.offset.getD 0 ∧ dt.clock - dt.offset.getD 0 < microsecondsOfAllYears

/-- A date text that is read and does not fit, or that the first reader raises an overflow for. -/
def DateFunctions.Overflows (dates : DateFunctions) (raw : Text) : Prop :=
  match dates.parsedateToDatetime raw with
  | .error .overflow => True
  | .ok dt => ¬ dt.InYears
  | .error .invalid => ∃ dt, dates.fromisoformat (replaceZ raw) = some dt ∧ ¬ dt.InYears

/-- An item of a feed with what its feed gives it. -/
structure FeedEntry where
  format : FeedFormat
  source : Option Text
  feedCategory : Option Text
  element : Element

namespace FeedEntry

def read (dates : DateFunctions) (entry : FeedEntry) : Except FeedError (Option NewsItemDTO) :=
  entry.format.parseItem dates entry.source entry.feedCategory entry.element

/-- The news item, where the entry is well-formed. -/
def item? (dates : DateFunctions) (entry : FeedEntry) : Option NewsItemDTO :=
  (entry.read dates).toOption.join

def dateText (entry : FeedEntry) : Text := strip ((entry.format.pub entry.element).getD [])

/-- The date of the entry is looked at, and overflows. -/
structure Overflows (dates : DateFunctions) (entry : FeedEntry) : Prop where
  title : (entry.format.title entry.element).isSome
  url : (entry.format.url entry.element).isSome
  date_ne : entry.dateText ≠ []
  date : dates.Overflows entry.dateText

end FeedEntry

namespace RssNewsProvider

variable (provider : RssNewsProvider)

/-- The tree of a feed that was fetched and parses. -/
def parsedRoot (call : Text × ProviderCallResult Text) : Option (FeedFormat × Element) :=
  if call.2.success then do
    let payload ← call.2.value
    let root ← provider.fromstring payload
    let format ← FeedFormat.ofRoot root
    return (format, root)
  else none

def entries (call : Text × ProviderCallResult Text) : List FeedEntry :=
  match provider.parsedRoot call with
  | none => []
  | some (format, root) => (format.items root).map fun element =>
      { format := format
        source := format.feedTitle root
        feedCategory := provider.categoryOf call.1
        element := element }

/-- The well-formed items of the feeds that parse, each read for itself. -/
def wellFormed (calls : List (Text × ProviderCallResult Text)) : List NewsItemDTO :=
  (calls.flatMap provider.entries).filterMap (FeedEntry.item? provider.dates)

/-- The fetch returns, and before the limit it holds of every well-formed item the first one with
its URL. -/
def Isolated (calls : List (Text × ProviderCallResult Text)) (symbols : List Text) : Prop :=
  ∃ result, (∀ limit, provider.fetchRecentNews calls symbols none limit = .ok (limited limit result)) ∧
    ∀ item ∈ provider.wellFormed calls,
      ∃ kept ∈ result, firstWith item.url (provider.wellFormed calls) = some kept

end RssNewsProvider

variable {dates : DateFunctions} {provider : RssNewsProvider}

theorem astimezoneUtc_eq_ok {dt : DateTime} (h : dt.InYears) :
    dt.astimezoneUtc = .ok (dt.clock - dt.offset.getD 0) := if_pos h

theorem astimezoneUtc_eq_error {dt : DateTime} (h : ¬ dt.InYears) :
    dt.astimezoneUtc = .error .overflowError := if_neg h

theorem map_astimezoneUtc (dt : DateTime) :
    (dt.InYears ∧ ∃ instant, some <$> dt.astimezoneUtc = .ok (some instant)) ∨
      (¬ dt.InYears ∧ some <$> dt.astimezoneUtc = .error .overflowError) := by
  by_cases h : dt.InYears
  · rw [astimezoneUtc_eq_ok h]
    exact .inl ⟨h, _, rfl⟩
  · rw [astimezoneUtc_eq_error h]
    exact .inr ⟨h, rfl⟩

theorem parsePubDate_cases (dates : DateFunctions) (raw : Option Text) :
    (strip (raw.getD []) ≠ [] ∧ dates.Overflows (strip (raw.getD [])) ∧
        parsePubDate dates raw = .error .overflowError) ∨
      (¬ (strip (raw.getD []) ≠ [] ∧ dates.Overflows (strip (raw.getD []))) ∧
        ∃ publishedAt, parsePubDate dates raw = .ok publishedAt) := by
  rw [parsePubDate]
  generalize strip (raw.getD []) = raw
  by_cases hNil : raw = []
  · rw [if_pos hNil]
    exact .inr ⟨fun h => h.1 hNil, none, rfl⟩
  · rw [if_neg hNil]
    unfold DateFunctions.Overflows
    cases dates.parsedateToDatetime raw with
    | ok dt =>
      obtain ⟨hIn, instant, hOk⟩ | ⟨hOut, hError⟩ := map_astimezoneUtc dt
      · exact .inr ⟨fun h => h.2 hIn, some instant, hOk⟩
      · exact .inl ⟨hNil, hOut, hError⟩
    | error raised =>
      cases raised with
      | overflow => exact .inl ⟨hNil, trivial, rfl⟩
      | invalid =>
        cases hIso : dates.fromisoformat (replaceZ raw) with
        | none =>
          refine .inr ⟨?_, none, rfl⟩
          rintro ⟨-, other, hOther, -⟩
          exact nomatch hOther
        | some dt =>
          obtain ⟨hIn, instant, hOk⟩ | ⟨hOut, hError⟩ := map_astimezoneUtc dt
          · refine .inr ⟨?_, some instant, hOk⟩
            rintro ⟨-, other, hOther, hOut⟩
            exact hOut (Option.some.inj hOther ▸ hIn)
          · exact .inl ⟨hNil, ⟨dt, rfl, hOut⟩, hError⟩

theorem newsItem_none {title url pub summaryRaw category source : Option Text}
    (h : ¬ (title.isSome ∧ url.isSome)) :
    newsItem dates title url pub summaryRaw category source = .ok none := by
  cases title with
  | none => rfl
  | some title =>
    cases url with
    | none => rfl
    | some url => exact absurd ⟨rfl, rfl⟩ h

theorem newsItem_some (title url : Text) {pub summaryRaw category source : Option Text}
    {publishedAt : Option Int} (h : parsePubDate dates pub = .ok publishedAt) :
    ∃ item, newsItem dates (some title) (some url) pub summaryRaw category source = .ok item := by
  rw [newsItem, h]
  exact ⟨_, rfl⟩

theorem newsItem_error (title url : Text) {pub summaryRaw category source : Option Text}
    {raised : FeedError} (h : parsePubDate dates pub = .error raised) :
    newsItem dates (some title) (some url) pub summaryRaw category source = .error raised := by
  rw [newsItem, h]
  rfl

/-- An entry is read by itself, unless its date overflows. -/
theorem read_cases (dates : DateFunctions) (entry : FeedEntry) :
    (entry.Overflows dates ∧ entry.read dates = .error .overflowError) ∨
      (¬ entry.Overflows dates ∧ entry.read dates = .ok (entry.item? dates)) := by
  by_cases hEssential : (entry.format.title entry.element).isSome ∧ (entry.format.url entry.element).isSome
  · obtain ⟨hTitle, hUrl⟩ := hEssential
    obtain ⟨title, hTitleText⟩ := Option.isSome_iff_exists.mp hTitle
    obtain ⟨url, hUrlText⟩ := Option.isSome_iff_exists.mp hUrl
    obtain ⟨hNe, hOver, hError⟩ | ⟨hNot, publishedAt, hOk⟩ :=
      parsePubDate_cases dates (entry.format.pub entry.element)
    · refine .inl ⟨⟨hTitle, hUrl, hNe, hOver⟩, ?_⟩
      rw [FeedEntry.read, FeedFormat.parseItem, hTitleText, hUrlText]
      exact newsItem_error title url hError
    · refine .inr ⟨fun h => hNot ⟨h.date_ne, h.date⟩, ?_⟩
      obtain ⟨item, hItem⟩ := newsItem_some title url hOk
      have hRead : entry.read dates = .ok item := by
        rw [FeedEntry.read, FeedFormat.parseItem, hTitleText, hUrlText]
        exact hItem
      rw [FeedEntry.item?, hRead]
      rfl
  · have hRead : entry.read dates = .ok none := newsItem_none hEssential
    refine .inr ⟨fun h => hEssential ⟨h.title, h.url⟩, ?_⟩
    rw [FeedEntry.item?, hRead]
    rfl

theorem read_eq_ok {entry : FeedEntry} {item : Option NewsItemDTO} :
    entry.read dates = .ok item ↔ ¬ entry.Overflows dates ∧ item = entry.item? dates := by
  obtain ⟨hOver, hError⟩ | ⟨hNot, hOk⟩ := read_cases dates entry
  · rw [hError]
    exact iff_of_false (fun h => nomatch h) fun h => h.1 hOver
  · rw [hOk]
    constructor
    · rintro ⟨⟩
      exact ⟨hNot, rfl⟩
    · rintro ⟨-, rfl⟩
      rfl

/-- The only thing the items of a feed raise is not the parse error that is handled. -/
theorem mapM_read_ne_parseError (dates : DateFunctions) (entries : List FeedEntry) :
    entries.mapM (FeedEntry.read dates) ≠ .error .rssParseError := by
  induction entries with
  | nil => exact fun h => nomatch h
  | cons entry entries ih =>
    intro h
    rw [List.mapM_cons] at h
    obtain ⟨-, hError⟩ | ⟨-, hOk⟩ := read_cases dates entry
    · rw [hError] at h
      cases h
    · rw [hOk] at h
      cases hRest : entries.mapM (FeedEntry.read dates) with
      | error raised =>
        rw [hRest] at h
        cases h
        exact ih hRest
      | ok items =>
        rw [hRest] at h
        cases h

theorem handled_eq_self {parsed : Except FeedError (List (Option NewsItemDTO))}
    (h : parsed ≠ .error .rssParseError) :
    (match (do
        let items ← parsed
        return items.reduceOption : Except FeedError (List NewsItemDTO)) with
      | .error .rssParseError => .ok []
      | parsed => parsed) = (do
        let items ← parsed
        return items.reduceOption : Except FeedError (List NewsItemDTO)) := by
  cases parsed with
  | ok items => rfl
  | error raised =>
    cases raised with
    | rssParseError => exact absurd rfl h
    | overflowError => rfl

theorem fetchOne_eq_mapM (call : Text × ProviderCallResult Text) :
    provider.fetchOne call = (do
      let parsed ← (provider.entries call).mapM (FeedEntry.read provider.dates)
      return parsed.reduceOption) := by
  rw [RssNewsProvider.fetchOne, RssNewsProvider.entries, RssNewsProvider.parsedRoot]
  by_cases hSuccess : call.2.success = true
  · rw [if_pos hSuccess, if_pos hSuccess]
    cases call.2.value with
    | none => rfl
    | some payload =>
      simp only [parseFeed, Option.bind_eq_bind, Option.bind_some]
      cases provider.fromstring payload with
      | none => rfl
      | some root =>
        simp only [Option.bind_some]
        cases FeedFormat.ofRoot root with
        | none => rfl
        | some format =>
          simp only [Option.bind_some, Option.pure_def, Option.none_or]
          have hRaised := mapM_read_ne_parseError provider.dates ((format.items root).map
            fun element => ⟨format, format.feedTitle root, provider.categoryOf call.1, element⟩)
          rw [List.mapM_map] at hRaised ⊢
          exact handled_eq_self hRaised
  · rw [if_neg hSuccess, if_neg hSuccess]
    rfl

theorem fetchOne_eq_ok {call : Text × ProviderCallResult Text} {items : List NewsItemDTO} :
    provider.fetchOne call = .ok items ↔
      (∀ entry ∈ provider.entries call, ¬ entry.Overflows provider.dates) ∧
        items = (provider.entries call).filterMap (FeedEntry.item? provider.dates) := by
  rw [fetchOne_eq_mapM, except_bind_eq_ok]
  constructor
  · rintro ⟨parsed, hParsed, hItems⟩
    obtain ⟨hNone, rfl⟩ := (mapM_eq_ok_map fun _ _ => read_eq_ok).mp hParsed
    refine ⟨hNone, ?_⟩
    rw [← Except.ok.inj hItems, List.reduceOption, List.filterMap_map, Function.id_comp]
  · rintro ⟨hNone, rfl⟩
    refine ⟨_, (mapM_eq_ok_map fun _ _ => read_eq_ok).mpr ⟨hNone, rfl⟩, ?_⟩
    rw [List.reduceOption, List.filterMap_map, Function.id_comp]
    rfl

theorem mergedItems_eq_ok {calls : List (Text × ProviderCallResult Text)} {items : List NewsItemDTO} :
    provider.mergedItems calls = .ok items ↔
      (∀ call ∈ calls, ∀ entry ∈ provider.entries call, ¬ entry.Overflows provider.dates) ∧
        items = provider.wellFormed calls := by
  rw [RssNewsProvider.mergedItems, except_bind_eq_ok]
  constructor
  · rintro ⟨feeds, hFeeds, hItems⟩
    obtain ⟨hNone, rfl⟩ := (mapM_eq_ok_map fun _ _ => fetchOne_eq_ok).mp hFeeds
    refine ⟨hNone, ?_⟩
    rw [← Except.ok.inj hItems, RssNewsProvider.wellFormed, List.filterMap_flatMap, List.flatMap]
  · rintro ⟨hNone, rfl⟩
    refine ⟨_, (mapM_eq_ok_map fun _ _ => fetchOne_eq_ok).mpr ⟨hNone, rfl⟩, ?_⟩
    rw [RssNewsProvider.wellFormed, List.filterMap_flatMap, List.flatMap]
    rfl

theorem nonEmpty_eq_some {text : Option Text} {value : Text} (h : nonEmpty text = some value) :
    value ≠ [] := of_decide_eq_true (Option.filter_eq_some_iff.mp h).2

theorem atomUrl_ne_nil {links : List Element} {start : Option Text} {value : Text}
    (hStart : ∀ url ∈ start, url ≠ []) (h : atomUrl start links = some value) : value ≠ [] := by
  induction links generalizing start with
  | nil => exact hStart value h
  | cons link links ih =>
    rw [atomUrl] at h
    split at h
    case h_1 => exact ih hStart h
    case h_2 href hHref =>
      split at h
      · exact Option.some.inj h ▸ nonEmpty_eq_some hHref
      · apply ih _ h
        intro url hUrl
        cases start with
        | none => exact Option.some.inj hUrl ▸ nonEmpty_eq_some hHref
        | some start => exact hStart url hUrl

theorem url_ne_nil {format : FeedFormat} {element : Element} {url : Text}
    (h : format.url element = some url) : url ≠ [] := by
  cases format with
  | rss => exact nonEmpty_eq_some h
  | atom => exact atomUrl_ne_nil (fun url hNone => absurd hNone (Option.not_mem_none url)) h

theorem newsItem_eq_some {title url pub summaryRaw category source : Option Text}
    {item : NewsItemDTO} (h : newsItem dates title url pub summaryRaw category source = .ok (some item)) :
    url = some item.url ∧ item.symbol = none := by
  cases title with
  | none => exact nomatch Except.ok.inj h
  | some title =>
    cases url with
    | none => exact nomatch Except.ok.inj h
    | some url =>
      obtain ⟨publishedAt, -, hItem⟩ := except_bind_eq_ok.mp h
      cases publishedAt with
      | none => exact nomatch Except.ok.inj hItem
      | some publishedAt =>
        obtain rfl := Option.some.inj (Except.ok.inj hItem)
        exact ⟨rfl, rfl⟩

theorem parsed_of_item? {entry : FeedEntry} {item : NewsItemDTO}
    (h : entry.item? dates = some item) : item.Parsed := by
  have hRead : entry.read dates = .ok (some item) := by
    rw [FeedEntry.item?] at h
    cases hRead : entry.read dates with
    | error raised =>
      rw [hRead] at h
      exact nomatch h
    | ok read =>
      rw [hRead] at h
      exact congrArg Except.ok h
  obtain ⟨hUrl, hSymbol⟩ := newsItem_eq_some hRead
  exact ⟨url_ne_nil hUrl, hSymbol⟩

theorem parsed_wellFormed (provider : RssNewsProvider) (calls : List (Text × ProviderCallResult Text)) :
    ∀ item ∈ provider.wellFormed calls, item.Parsed := by
  intro item hItem
  obtain ⟨entry, -, hEntry⟩ := List.mem_filterMap.mp hItem
  exact parsed_of_item? hEntry

/-- The feeds fail in isolation unless a date of some item overflows. -/
theorem isolated_iff (provider : RssNewsProvider) (calls : List (Text × ProviderCallResult Text))
    (symbols : List Text) :
    provider.Isolated calls symbols ↔
      ∀ call ∈ calls, ∀ entry ∈ provider.entries call, ¬ entry.Overflows provider.dates := by
  constructor
  · rintro ⟨result, hFetch, -⟩
    obtain ⟨merged, hMerged, -⟩ := except_bind_eq_ok.mp (hFetch 0)
    exact (mergedItems_eq_ok.mp hMerged).1
  · intro hNone
    have hMerged := mergedItems_eq_ok.mpr ⟨hNone, rfl⟩
    refine ⟨beforeLimit symbols none (provider.wellFormed calls), ?_, ?_⟩
    · intro limit
      exact except_bind_eq_ok.mpr ⟨_, hMerged, rfl⟩
    · intro item hItem
      obtain ⟨first, hFirst⟩ := exists_firstWith hItem
      obtain ⟨-, hUrl⟩ := mem_of_firstWith hFirst
      refine ⟨first, (mem_beforeLimit (parsed_wellFormed provider calls)).mpr ⟨hUrl ▸ hFirst, ?_⟩, hFirst⟩
      exact fun cutoff hCutoff => absurd hCutoff (Option.not_mem_none cutoff)

/-! A feed with an item of the first midnight of year 1, on a clock 23:59 ahead, and a sound feed. -/

theorem yearOne_bounds : 0 ≤ (0 : Int) ∧ 0 < microsecondsOfAllYears := by decide

/-- Neither text has the five fields of the first format. -/
def yearOneDates : DateFunctions where
  parsedateToDatetime _ := .error .invalid
  fromisoformat text :=
    if text = "0001-01-01T00:00:00+23:59".toList then
      some ⟨0, some ((23 * 3600 + 59 * 60) * 1000000), yearOne_bounds⟩
    else if text = "0001-01-01T00:00:00+00:00".toList then some ⟨0, some 0, yearOne_bounds⟩
    else none

def leaf (tag text : String) : Element := .mk tag.toList [] (some text.toList) []

def feedOf (url pubDate : String) : Element :=
  .mk "rss".toList [] none [.mk "channel".toList [] none
    [.mk "item".toList [] none [leaf "title" "t", leaf "link" url, leaf "pubDate" pubDate]]]

def yearOneProvider : RssNewsProvider where
  fromstring body :=
    if body = "early".toList then some (feedOf "https://a/1" "0001-01-01T00:00:00+23:59")
    else if body = "sound".toList then some (feedOf "https://b/1" "0001-01-01T00:00:00+00:00")
    else none
  dates := yearOneDates
  feedCategories := []

def yearOneCalls : List (Text × ProviderCallResult Text) :=
  [("https://a".toList, { success := true, value := some "early".toList }),
   ("https://b".toList, { success := true, value := some "sound".toList })]

theorem fetch_yearOne_raises :
    yearOneProvider.fetchRecentNews yearOneCalls [] none 50 = .error .overflowError := by
  decide +kernel

theorem not_isolated_yearOne : ¬ yearOneProvider.Isolated yearOneCalls [] := by
  rintro ⟨result, hFetch, -⟩
  exact nomatch fetch_yearOne_raises.symm.trans (hFetch 50)

end Isolation

end StockAiPlatform.Rss
