import WealthFinder.Ingestion.CrawlWorkers

/-!
# How the crawlers read their pages

The AAStocks, Yahoo and HKEX crawlers as sources of articles.  What the HTML and PDF
libraries find in a page is a parameter; their exceptions are errors with a text.
-/

set_option autoImplicit false

namespace WealthFinder.Ingestion

def DocumentParseErrorCode.parseError : ErrorCode := ⟨"PARSE", "SADI-6201"⟩
def DocumentParseErrorCode.pdfEncrypted : ErrorCode := ⟨"PARSE", "SADI-6202"⟩
def DocumentParseErrorCode.pdfParseError : ErrorCode := ⟨"PARSE", "SADI-6203"⟩

/-- An element that a selector finds: its classes and `str(element)`. -/
structure HtmlElement where
  classes : List String
  html : String

/-- What `fitz.open` gives; reading a page may raise. -/
structure PdfDocument where
  isEncrypted : Bool
  pages : Except String (List String)

/-- `bs4`, `trafilatura`, `fitz` and `pdfminer`. -/
structure ParserLibraries where
  selectOneText : String → String → Except String (Option String)
  select : String → String → Except String (List HtmlElement)
  titleText : String → Except String (Option String)
  trafilaturaExtract : String → Except String (Option String)
  openPdf : List UInt8 → Except String PdfDocument
  pdfminerExtractText : List UInt8 → Except String String

section Parsers
variable (libraries : ParserLibraries)

/-! ## `html_parser` and `pdf_parser` -/

def extractBodyCss (html selector : String) : Except String (Option String) := do
  match ← libraries.selectOneText html selector with
  | none => return none
  | some text => return if text = "" then none else some text

def extractBodyAuto (html : String) : Except String (Option String) := do
  match ← libraries.trafilaturaExtract html with
  | none => return none
  | some result => return if strip result = "" then none else some (strip result)

/-- PdfEncryptedException, PdfParseException or another exception. -/
inductive PdfError where
  | encrypted (detail : String)
  | parse (detail : String)
  | other (text : String)

def parsePrimary (content : List UInt8) : Except PdfError String := do
  let document ← (libraries.openPdf content).mapError .other
  if document.isEncrypted then throw (.encrypted "PDF is encrypted")
  let textParts ← document.pages.mapError .other
  return strip (String.join textParts)

def parseFallback (content : List UInt8) : Except String String :=
  (libraries.pdfminerExtractText content).map strip

def parsePdf (content : List UInt8) : Except PdfError String := do
  let text ← parsePrimary libraries content
  if text ≠ "" then return text
  let text ← (parseFallback libraries content).mapError fun exc =>
    .parse ("Fallback parser failed: " ++ exc)
  if text = "" then throw (.parse "Both primary and fallback parsers returned empty text")
  return text

/-- The `try` around the body extraction of the AAStocks and Yahoo crawlers. -/
def bodyOrParseError (body : Except String (Option String)) : BodyResult :=
  match body with
  | .ok body => .extracted body
  | .error _ => .failed DocumentParseErrorCode.parseError

/-- The `try` around `parse_pdf`. -/
def pdfBody (response : HttpResponse) : BodyResult :=
  match parsePdf libraries response.content with
  | .ok body => .extracted (some body)
  | .error (.encrypted _) => .failed DocumentParseErrorCode.pdfEncrypted
  | .error (.parse _) => .failed DocumentParseErrorCode.pdfParseError
  | .error (.other _) => .failed DocumentParseErrorCode.parseError

end Parsers

/-! ## The timestamp of an AAStocks article -/

/-- Exactly so many digits. -/
def takeDigits : Nat → Nat → List Char → Option (Nat × List Char)
  | 0, value, rest => some (value, rest)
  | _ + 1, _, [] => none
  | count + 1, value, c :: rest =>
      (Pipeline.decimalDigit c).bind fun digit => takeDigits count (10 * value + digit) rest

def takeChar (expected : Char) : List Char → Option (List Char)
  | [] => none
  | c :: rest => if c = expected then some rest else none

/-- `\s+`; what follows it in the pattern is no space. -/
def takeSpaces : List Char → Option (List Char)
  | [] => none
  | c :: rest =>
      if Pipeline.isSpace c then some (rest.dropWhile Pipeline.isSpace) else none

/-- The groups of `_PUBLISHED_AT_PATTERN`. -/
structure LocalTime where
  year : Nat
  month : Nat
  day : Nat
  hour : Nat
  minute : Nat

def matchPublishedAt (text : List Char) : Option LocalTime := do
  let (year, text) ← takeDigits 4 0 text
  let text ← takeChar '/' text
  let (month, text) ← takeDigits 2 0 text
  let text ← takeChar '/' text
  let (day, text) ← takeDigits 2 0 text
  let text ← takeSpaces text
  let (hour, text) ← takeDigits 2 0 text
  let text ← takeChar ':' text
  let (minute, _) ← takeDigits 2 0 text
  return ⟨year, month, day, hour, minute⟩

def searchPublishedAt (text : String) : Option LocalTime :=
  text.toList.tails.findSome? matchPublishedAt

def isLeap (year : Nat) : Bool := year % 4 = 0 && (year % 100 ≠ 0 || year % 400 = 0)

def daysInMonth (year month : Nat) : Nat :=
  if month = 2 then (if isLeap year then 29 else 28)
  else if month = 4 ∨ month = 6 ∨ month = 9 ∨ month = 11 then 30 else 31

def daysBeforeMonth (year month : Nat) : Nat :=
  ((List.range (month - 1)).map fun earlier => daysInMonth year (earlier + 1)).sum

def toOrdinal (year month day : Nat) : Nat :=
  (year - 1) * 365 + (year - 1) / 4 - (year - 1) / 100 + (year - 1) / 400 +
    daysBeforeMonth year month + day

/-- `datetime(..., tzinfo=_HKT).astimezone(timezone.utc)` as seconds since 1970. -/
def utcOfHkt (time : LocalTime) : Except String Timestamp :=
  if time.year = 0 then .error "year 0 is out of range"
  else if time.month = 0 ∨ 12 < time.month then .error "month must be in 1..12"
  else if time.day = 0 ∨ daysInMonth time.year time.month < time.day then
    .error "day is out of range for month"
  else if 23 < time.hour then .error "hour must be in 0..23"
  else if 59 < time.minute then .error "minute must be in 0..59"
  else
    let ordinal := toOrdinal time.year time.month time.day
    if ordinal = 1 ∧ time.hour < 8 then .error "date value out of range"
    else .ok (((ordinal : Int) - 719163) * 86400 + time.hour * 3600 + time.minute * 60 - 28800)

def parsePublishedAtIn : List HtmlElement → Except String (Option Timestamp)
  | [] => .ok none
  | div :: rest =>
      if "newshead-Source" ∈ div.classes then parsePublishedAtIn rest
      else
        match searchPublishedAt div.html with
        | none => parsePublishedAtIn rest
        | some time => (utcOfHkt time).map some

/-! ## The three sources -/

structure FeedEntry where
  title : String
  url : String
  publishedAt : Option Timestamp
  description : Option String

structure HKEXAnnouncement where
  pdfUrl : String
  title : String
  publishedAt : Option Timestamp
  stockCodes : List String

/-- `extra_metadata` of an HKEX item. -/
structure StockCodeMetadata where
  stockCode : List String
  deriving DecidableEq

section Sources
variable (libraries : ParserLibraries)

def extractTitle (pageHtml : String) : Except String (Option String) :=
  (libraries.titleText pageHtml).map fun title =>
    title.bind fun text => if text = "" then none else some (strip text)

def aastocksBaseUrl : String := "https://www.aastocks.com"

def absoluteUrl (href : String) : String :=
  if "http".isPrefixOf href then href else aastocksBaseUrl ++ href

/-- The loop of `_extract_article_urls` over the `href`s of the links found; `seen` holds
what is in `urls`. -/
def extractUrlsFrom (urls : List String) : List (Option String) → List String
  | [] => urls
  | none :: rest => extractUrlsFrom urls rest
  | some href :: rest =>
      if href = "" then extractUrlsFrom urls rest
      else if absoluteUrl href ∈ urls then extractUrlsFrom urls rest
      else extractUrlsFrom (urls ++ [absoluteUrl href]) rest

def extractArticleUrls (hrefs : List (Option String)) : List String := extractUrlsFrom [] hrefs

def aastocks : ArticleSource String StockCodeMetadata where
  url := id
  threaded := false
  body := fun response =>
    bodyOrParseError (extractBodyCss libraries response.text "[class*='newscon']")
  fields := fun _ response => do
    let title ← extractTitle libraries response.text
    let publishedAt ←
      parsePublishedAtIn (← libraries.select response.text "div.newstime5")
    return ⟨title.getD "", publishedAt, none⟩

def yahooHk : ArticleSource FeedEntry StockCodeMetadata where
  url := FeedEntry.url
  threaded := false
  body := fun response => bodyOrParseError (extractBodyAuto libraries response.text)
  fields := fun entry _ => .ok ⟨entry.title, entry.publishedAt, none⟩

def hkex : ArticleSource HKEXAnnouncement StockCodeMetadata where
  url := HKEXAnnouncement.pdfUrl
  threaded := true
  body := pdfBody libraries
  fields := fun announcement _ =>
    .ok ⟨announcement.title, announcement.publishedAt, some ⟨announcement.stockCodes⟩⟩

end Sources

/-! ## A page -/

def samplePage : String := "<title>HSI</title><p class=newscon> HSI up </p>"

def samplePageResponse : HttpResponse := ⟨200, samplePage, [], ""⟩

/-- What the libraries find in `samplePage`, and nothing in other pages. -/
def sampleLibraries : ParserLibraries where
  selectOneText := fun html selector =>
    .ok (if html = samplePage ∧ selector = "[class*='newscon']" then some "HSI up" else none)
  select := fun _ _ => .ok []
  titleText := fun html => .ok (if html = samplePage then some "HSI" else none)
  trafilaturaExtract := fun html => .ok (if html = samplePage then some "HSI up" else none)
  openPdf := fun _ => .error "Failed to open stream"
  pdfminerExtractText := fun _ => .error "No /Root object! - Is this really a PDF?"

/-! ## The urls of the list page -/

theorem extractUrlsFrom_nodup {urls : List String} (hrefs : List (Option String))
    (fresh : urls.Nodup) : (extractUrlsFrom urls hrefs).Nodup := by
  induction hrefs generalizing urls with
  | nil => exact fresh
  | cons href rest ih =>
      cases href with
      | none => exact ih fresh
      | some href =>
          unfold extractUrlsFrom
          split
          · exact ih fresh
          · split
            · exact ih fresh
            · rename_i unseen
              apply ih
              rw [List.nodup_append_comm]
              exact List.nodup_cons.mpr ⟨unseen, fresh⟩

theorem mem_extractUrlsFrom {urls : List String} {hrefs : List (Option String)} {url : String} :
    url ∈ extractUrlsFrom urls hrefs ↔
      url ∈ urls ∨ ∃ href, some href ∈ hrefs ∧ href ≠ "" ∧ url = absoluteUrl href := by
  induction hrefs generalizing urls with
  | nil => simp [extractUrlsFrom]
  | cons first rest ih =>
      cases first with
      | none =>
          rw [extractUrlsFrom, ih]
          simp
      | some href =>
          unfold extractUrlsFrom
          by_cases empty : href = ""
          · rw [if_pos empty, ih]
            simp [or_and_right, exists_or, empty]
          · rw [if_neg empty]
            by_cases seen : absoluteUrl href ∈ urls
            · rw [if_pos seen, ih]
              have covered : url = absoluteUrl href → url ∈ urls := fun same => same ▸ seen
              simp only [List.mem_cons, Option.some.injEq, or_and_right, exists_or,
                exists_eq_left, ne_eq, empty, not_false_eq_true, true_and]
              tauto
            · rw [if_neg seen, ih]
              simp only [List.mem_append, List.mem_cons, List.not_mem_nil, false_or,
                Option.some.injEq, or_and_right, exists_or, exists_eq_left, ne_eq, empty,
                not_false_eq_true, true_and, or_assoc]

end WealthFinder.Ingestion
