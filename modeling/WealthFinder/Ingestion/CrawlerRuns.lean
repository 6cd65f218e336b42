import Mathlib.Data.List.Infix
import WealthFinder.Ingestion.ArticleSources

/-!
# How the crawlers find their articles

`run` of the four crawlers up to the workers: the list page of AAStocks, the feeds of Yahoo
and MingPao, and the search page of HKEX, whose browser is not modelled.  MingPao takes its
articles from the feed itself.
-/

set_option autoImplicit false

namespace WealthFinder.Ingestion

/-- How a crawler raises: CrawlFatalException or another exception. -/
inductive CrawlerError where
  | fatal (text : String)
  | raised (text : String)
  deriving DecidableEq

/-! ## Feeds -/

/-- An entry of `feedparser`, whose fields default to an empty text.  `publishedAt` is what
`fromtimestamp` makes of `published_parsed`. -/
structure ParsedEntry where
  title : String
  link : String
  publishedAt : Option (Except String Timestamp)
  summary : String

structure ParsedFeed where
  bozo : Bool
  bozoException : String
  entries : List ParsedEntry

/-- The loop of `fetch_rss`. -/
def feedEntries : List ParsedEntry → Except String (List FeedEntry)
  | [] => .ok []
  | entry :: rest =>
      if strip entry.title = "" ∨ strip entry.link = "" then feedEntries rest
      else do
        let publishedAt ← entry.publishedAt.elim (.ok none) fun read => read.map some
        let description := if strip entry.summary = "" then none else some (strip entry.summary)
        return ⟨strip entry.title, strip entry.link, publishedAt, description⟩ ::
          (← feedEntries rest)

/-- `fetch_rss` under the `except FeedFetchException` of its two callers. -/
def fetchRss (label url : String) (parsed : Except String ParsedFeed) :
    Except CrawlerError (List FeedEntry) :=
  let failed (detail : String) : Except CrawlerError (List FeedEntry) :=
    .error (.fatal (label ++ " RSS fetch failed: " ++ detail))
  match parsed with
  | .error text => .error (.raised text)
  | .ok feed =>
      if feed.bozo ∧ feed.entries.isEmpty then
        failed ("Failed to parse RSS feed at " ++ url ++ ": " ++ feed.bozoException)
      else if feed.entries.isEmpty then failed ("RSS feed at " ++ url ++ " returned no entries")
      else (feedEntries feed.entries).mapError .raised

def mingpaoRssUrl : String := "https://news.mingpao.com/rss/pns/s00004.xml"

def yahooHkRssUrl : String := "https://hk.finance.yahoo.com/news/rssindex"

def yahooHkUrlPrefixFilter : String := "hk.finance.yahoo.com/news/"

def aastocksListUrl : String := "https://www.aastocks.com/tc/stocks/news/aafn/latest-news"

/-- `_process_entry` of the MingPao crawler for a url that is not in the error log. -/
def processEntry (entry : FeedEntry) : Option (CrawlSuccessItem StockCodeMetadata) :=
  match entry.description with
  | none => none
  | some description =>
      if strip description = "" then none
      else some ⟨entry.title, strip description, entry.url, entry.publishedAt, none⟩

/-! ## The four crawlers -/

/-- What the workers of a crawler fetch; MingPao has none. -/
def CrawlTarget : CrawlSourceName → Type
  | .hkex => HKEXAnnouncement
  | .mingpao => Empty
  | .aastocks => String
  | .yahooHk => FeedEntry

def articleSource (libraries : ParserLibraries) :
    (sourceName : CrawlSourceName) → ArticleSource (CrawlTarget sourceName) StockCodeMetadata
  | .hkex => hkex libraries
  | .mingpao => ⟨Empty.elim, false, fun _ => .extracted none, fun target _ => Empty.elim target⟩
  | .aastocks => aastocks libraries
  | .yahooHk => yahooHk libraries

/-- What a crawler meets before its workers start: the answers to its requests of the list
page, its feed and the SELECT of `_check_coverage_gap`, or what its browser finds. -/
inductive Discovery where
  | listPage (answers : Nat → GetAnswer)
  | feed (parsed : Except String ParsedFeed) (previousCrawl : Option String)
  | searchPage (started : Option String) (collected : Except CrawlerError (List HKEXAnnouncement))
      (stopped : Option String)

inductive Discovered (sourceName : CrawlSourceName) where
  | targets (targets : List (CrawlTarget sourceName))
  | entries (entries : List FeedEntry)

section Discover
variable (config : CrawlConfig) (linkHrefs : String → Except String (List (Option String)))

def discoverListPage (answers : Nat → GetAnswer) : Except CrawlerError (List String) :=
  match (fetch config aastocksListUrl answers).how with
  | .blocked detail => .error (.fatal ("AAStocks list page fetch failed: " ++ detail))
  | .rateLimited detail => .error (.raised detail)
  | .raised text => .error (.raised text)
  | .returned response =>
      match linkHrefs response.text with
      | .error text => .error (.raised text)
      | .ok hrefs => .ok (extractArticleUrls hrefs)

/-- The SELECT is made only if an entry has a time; what it finds is only logged. -/
def checkCoverageGap (entries : List FeedEntry) (previousCrawl : Option String) :
    Except CrawlerError Unit :=
  if entries.any fun entry => entry.publishedAt.isSome then
    previousCrawl.elim (.ok ()) fun text => .error (.raised text)
  else .ok ()

def discoverFeed (parsed : Except String ParsedFeed) (previousCrawl : Option String) :
    Except CrawlerError (List FeedEntry) := do
  let entries ← fetchRss "Yahoo HK" yahooHkRssUrl parsed
  let filtered := entries.filter fun entry =>
    yahooHkUrlPrefixFilter.toList <:+: entry.url.toList
  checkCoverageGap filtered previousCrawl
  return filtered

/-- What `finally` raises replaces what was raised before. -/
def discoverSearchPage (started : Option String)
    (collected : Except CrawlerError (List HKEXAnnouncement)) (stopped : Option String) :
    Except CrawlerError (List HKEXAnnouncement) :=
  match started, stopped with
  | some text, _ => .error (.raised text)
  | none, some text => .error (.raised text)
  | none, none =>
      match collected with
      | .error (.raised text) =>
          .error (.fatal ("HKEX Phase 1 (playwright pagination) failed: " ++ text))
      | collected => collected

/-- `none` where the discovery is not the crawler's own. -/
def discover : (sourceName : CrawlSourceName) → Discovery →
    Option (Except CrawlerError (Discovered sourceName))
  | .aastocks, .listPage answers =>
      some ((discoverListPage config linkHrefs answers).map .targets)
  | .yahooHk, .feed parsed previousCrawl =>
      some ((discoverFeed parsed previousCrawl).map .targets)
  | .mingpao, .feed parsed _ =>
      some ((fetchRss "MingPao" mingpaoRssUrl parsed).map .entries)
  | .hkex, .searchPage started collected stopped =>
      some ((discoverSearchPage started collected stopped).map .targets)
  | _, _ => none

end Discover

end WealthFinder.Ingestion
