import StockAiPlatform.Data.ProviderResilience
import StockAiPlatform.Python.Text
import StockAiPlatform.Transaction.FirstSeen
import StockAiPlatform.Transaction.Fallible
import Mathlib.Data.List.ReduceOption

/-! # The RSS and Atom news provider

The feeds are fetched one after the other, read item by item and merged. The
XML library and the two date readers are given; instants are microseconds from
the start of year 1, in UTC.
-/

namespace StockAiPlatform
set_option autoImplicit false

/-- A news item of a provider, over whatever stands for texts. -/
structure NewsItemDTO (text : Type) where
  title : text
  url : text
  provider : text
  publishedAt : Int
  symbol : Option text := none
  source : Option text := none
  category : Option text := none
  sentimentLabel : Option text := none
  summary : Option text := none
  dataSource : text
  deriving DecidableEq, Repr

namespace Rss

open Python Providers Transaction

section Dates

def microsecondsPerDay : Int := 86400 * 1000000

/-- From the start of year 1 to the end of year 9999. -/
def microsecondsOfAllYears : Int := 3652059 * microsecondsPerDay

/-- A `datetime`: what the clock shows and, if it is aware, how far ahead of UTC the clock is. -/
structure DateTime where
  clock : Int
  offset : Option Int
  clock_bounds : 0 ≤ clock ∧ clock < microsecondsOfAllYears

/-- What `parsedate_to_datetime` raises: a `TypeError` or `ValueError`, or an `OverflowError`. -/
inductive PubDateError where
  | invalid | overflow
  deriving DecidableEq, Repr

structure DateFunctions where
  parsedateToDatetime : Text → Except PubDateError DateTime
  /-- `none` for a `ValueError`. -/
  fromisoformat : Text → Option DateTime

inductive FeedError where
  | rssParseError | overflowError
  deriving DecidableEq, Repr

/-- `dt.astimezone(timezone.utc)`, a clock without an offset taken to show UTC. -/
def DateTime.astimezoneUtc (dt : DateTime) : Except FeedError Int :=
  let instant := dt.clock - dt.offset.getD 0
  if 0 ≤ instant ∧ instant < microsecondsOfAllYears then .ok instant else .error .overflowError

/-- `raw.replace("Z", "+00:00")` -/
def replaceZ (raw : Text) : Text :=
  raw.flatMap fun c => if c = 'Z' then "+00:00".toList else [c]

def parsePubDate (dates : DateFunctions) (raw : Option Text) : Except FeedError (Option Int) :=
  let raw := strip (raw.getD [])
  if raw = [] then .ok none
  else
    match dates.parsedateToDatetime raw with
    | .error .overflow => .error .overflowError
    | .ok dt => some <$> dt.astimezoneUtc
    | .error .invalid =>
      match dates.fromisoformat (replaceZ raw) with
      | none => .ok none
      | some dt => some <$> dt.astimezoneUtc

end Dates

abbrev NewsItemDTO := StockAiPlatform.NewsItemDTO Text

/-- An element of the tree the XML library returns. -/
inductive Element where
  | mk (tag : Text) (attrib : List (Text × Text)) (text : Option Text) (children : List Element)

namespace Element

def tag : Element → Text
  | mk tag _ _ _ => tag

def attrib : Element → List (Text × Text)
  | mk _ attrib _ _ => attrib

def text : Element → Option Text
  | mk _ _ text _ => text

def children : Element → List Element
  | mk _ _ _ children => children

def findall (element : Element) (tag : Text) : List Element :=
  element.children.filter fun child => decide (child.tag = tag)

def find (element : Element) (tag : Text) : Option Element := (element.findall tag).head?

/-- `element.attrib.get(name)` -/
def get (element : Element) (name : Text) : Option Text :=
  (element.attrib.find? fun entry => decide (entry.1 = name)).map Prod.snd

end Element

/-- `text or None` -/
def nonEmpty (text : Option Text) : Option Text := text.filter fun text => decide (text ≠ [])

def atomTag (name : String) : Text := "{http://www.w3.org/2005/Atom}".toList ++ name.toList

def xmlText (element : Option Element) : Option Text :=
  nonEmpty ((element.bind Element.text).map strip)

section Summary

def summaryMaxLen : Nat := 500

/-- How much of the text belongs to the tag that was opened just before it. -/
def tagLength (rest : Text) : Option Nat :=
  let inner := rest.takeWhile fun c => decide (c ≠ '>')
  if inner = [] ∨ inner.length = rest.length then none else some (inner.length + 1)

/-- `_HTML_TAG_RE.sub("", text)`: `skip` code points of the last tag are still to be passed. -/
def withoutTags : Nat → Text → Text
  | _, [] => []
  | skip + 1, _ :: rest => withoutTags skip rest
  | 0, c :: rest =>
    if c = '<' then
      match tagLength rest with
      | some skip => withoutTags skip rest
      | none => c :: withoutTags 0 rest
    else c :: withoutTags 0 rest

/-- `text.split()` -/
def words (text : Text) : List Text := (text.splitOnP isSpace).filter fun word => decide (word ≠ [])

def shortSummary (text : Option Text) : Option Text :=
  nonEmpty (text.map fun text =>
    (([' '] : Text).intercalate (words (withoutTags 0 text))).take summaryMaxLen)

end Summary

/-- What the parsers of an item end with: no item without a title, a URL or a publish date. -/
def newsItem (dates : DateFunctions) (title url pub summaryRaw category source : Option Text) :
    Except FeedError (Option NewsItemDTO) :=
  match title, url with
  | some title, some url => do
    let publishedAt ← parsePubDate dates pub
    return publishedAt.map fun publishedAt =>
      { title := title
        url := url
        provider := "rss".toList
        publishedAt := publishedAt
        source := source
        category := category
        summary := shortSummary summaryRaw
        dataSource := "PROVIDER".toList }
  | _, _ => .ok none

/-- The first alternate link, or else the first one with an address. -/
def atomUrl : Option Text → List Element → Option Text
  | url, [] => url
  | url, link :: links =>
    match nonEmpty (link.get "href".toList) with
    | none => atomUrl url links
    | some href =>
      if (link.get "rel".toList).getD "alternate".toList = "alternate".toList then some href
      else atomUrl (url.or (some href)) links

inductive FeedFormat where
  | rss | atom
  deriving DecidableEq, Repr

namespace FeedFormat

/-! What the parser of an item reads in it. -/

def title : FeedFormat → Element → Option Text
  | rss, item => xmlText (item.find "title".toList)
  | atom, entry => xmlText (entry.find (atomTag "title"))

def url : FeedFormat → Element → Option Text
  | rss, item => xmlText (item.find "link".toList)
  | atom, entry => atomUrl none (entry.findall (atomTag "link"))

def pub : FeedFormat → Element → Option Text
  | rss, item => xmlText (item.find "pubDate".toList)
  | atom, entry =>
    (xmlText (entry.find (atomTag "updated"))).or (xmlText (entry.find (atomTag "published")))

def summaryRaw : FeedFormat → Element → Option Text
  | rss, item => xmlText (item.find "description".toList)
  | atom, entry => xmlText (entry.find (atomTag "summary"))

def category : FeedFormat → Element → Option Text
  | rss, item => xmlText (item.find "category".toList)
  | atom, entry =>
    nonEmpty ((entry.find (atomTag "category")).bind fun element => element.get "term".toList)

/-- `_parse_rss_item` and `_parse_atom_entry` -/
def parseItem (format : FeedFormat) (dates : DateFunctions) (feedSource feedCategory : Option Text)
    (item : Element) : Except FeedError (Option NewsItemDTO) :=
  newsItem dates (format.title item) (format.url item) (format.pub item) (format.summaryRaw item)
    ((format.category item).or feedCategory) feedSource

/-- The branch of `parse_feed` for the root. -/
def ofRoot (root : Element) : Option FeedFormat :=
  if "rss".toList <:+ root.tag then some rss
  else if root.tag = atomTag "feed" ∨ "\x7dfeed".toList <:+ root.tag ∨ root.tag = "feed".toList then
    some atom
  else none

def feedTitle : FeedFormat → Element → Option Text
  | rss, root => xmlText ((root.find "channel".toList).bind fun channel => channel.find "title".toList)
  | atom, root => xmlText (root.find (atomTag "title"))

def items : FeedFormat → Element → List Element
  | rss, root =>
    match root.find "channel".toList with
    | none => []
    | some channel => channel.findall "item".toList
  | atom, root => root.findall (atomTag "entry")

end FeedFormat

def parseFeed (fromstring : Text → Option Element) (dates : DateFunctions) (payload : Text)
    (feedSource feedCategory : Option Text) : Except FeedError (List NewsItemDTO) :=
  match fromstring payload with
  | none => .error .rssParseError
  | some root =>
    match FeedFormat.ofRoot root with
    | none => .error .rssParseError
    | some format => do
      let parsed ← (format.items root).mapM
        (format.parseItem dates (feedSource.or (format.feedTitle root)) feedCategory)
      return parsed.reduceOption

/-- The loop of `dedup_items` with the URLs seen so far. -/
def dedupFrom : List Text → List NewsItemDTO → List NewsItemDTO
  | _, [] => []
  | seen, item :: items =>
    if item.url = [] ∨ seen.contains item.url then dedupFrom seen items
    else item :: dedupFrom (item.url :: seen) items

def dedupItems (items : List NewsItemDTO) : List NewsItemDTO := dedupFrom [] items

/-- What the provider is built with; the library raises its parse error where `fromstring` has none. -/
structure RssNewsProvider where
  fromstring : Text → Option Element
  dates : DateFunctions
  feedCategories : List (Text × Text)

namespace RssNewsProvider

variable (provider : RssNewsProvider)

def categoryOf (feedUrl : Text) : Option Text :=
  (provider.feedCategories.find? fun entry => decide (entry.1 = feedUrl)).map Prod.snd

/-- A feed with what the resilient call of the transport returned for it. -/
def fetchOne (call : Text × ProviderCallResult Text) : Except FeedError (List NewsItemDTO) :=
  if call.2.success then
    match call.2.value with
    | none => .ok []
    | some payload =>
      match parseFeed provider.fromstring provider.dates payload none (provider.categoryOf call.1) with
      | .error .rssParseError => .ok []
      | parsed => parsed
  else .ok []

def bySince (since : Option Int) (merged : List NewsItemDTO) : List NewsItemDTO :=
  match since with
  | none => merged
  | some since => merged.filter fun item => decide (since ≤ item.publishedAt)

def bySymbols (symbols : List Text) (merged : List NewsItemDTO) : List NewsItemDTO :=
  if symbols = [] then merged
  else merged.filter fun item => item.symbol.all symbols.contains

def beforeLimit (symbols : List Text) (since : Option Int) (merged : List NewsItemDTO) :
    List NewsItemDTO :=
  bySymbols symbols (bySince since (dedupItems merged))

/-- `merged[:limit]` where there are more than `limit`; a negative one counts from the end. -/
def limited (limit : Int) (merged : List NewsItemDTO) : List NewsItemDTO :=
  if limit ≠ 0 ∧ limit < merged.length then
    if 0 ≤ limit then merged.take limit.toNat else merged.take (merged.length - limit.natAbs)
  else merged

def mergedItems (calls : List (Text × ProviderCallResult Text)) :
    Except FeedError (List NewsItemDTO) := do
  return (← calls.mapM provider.fetchOne).flatten

def fetchRecentNews (calls : List (Text × ProviderCallResult Text)) (symbols : List Text)
    (since : Option Int) (limit : Int) : Except FeedError (List NewsItemDTO) := do
  return limited limit (beforeLimit symbols since (← provider.mergedItems calls))

end RssNewsProvider

end Rss

end StockAiPlatform
