import WealthFinder.Machine
import WealthFinder.Semaphore
import WealthFinder.Ingestion.PageCrawler
import WealthFinder.Pipeline.PrintedCode

/-!
# The workers of a crawl

`_crawl_articles` of the AAStocks and Yahoo crawlers and `_fetch_pdfs` of the HKEX one: a
worker for each target, all gathered, that look into the error log, wait for a permit,
fetch and parse.  They interleave at their awaits, and those a failed `gather` leaves
behind go on.  An `ArticleSource` says what the crawlers differ in.
-/

set_option autoImplicit false

namespace WealthFinder.Ingestion

/-! ## What the workers leave -/

structure ErrorCode where
  errorType : String
  errorCode : String
  deriving DecidableEq

def CrawlErrorCode.urlGetFailed : ErrorCode := ⟨"CRAWL", "SADI-6101"⟩

structure CrawlResult (Metadata : Type) where
  successes : List (CrawlSuccessItem Metadata)
  failures : List CrawlFailItem
  deriving DecidableEq

def CrawlResult.empty {Metadata : Type} : CrawlResult Metadata := ⟨[], []⟩

/-- How a worker ends: with nothing but a log line, with an item, or raising. -/
inductive ArticleEnd (Metadata : Type) where
  | skipped
  | failed (item : CrawlFailItem)
  | succeeded (item : CrawlSuccessItem Metadata)
  | raised (text : String)
  deriving DecidableEq

def CrawlResult.add {Metadata : Type} (result : CrawlResult Metadata) :
    ArticleEnd Metadata → CrawlResult Metadata
  | .failed item => { result with failures := result.failures ++ [item] }
  | .succeeded item => { result with successes := result.successes ++ [item] }
  | _ => result

/-- How reading the body of a page ends. -/
inductive BodyResult where
  | failed (code : ErrorCode)
  | extracted (body : Option String)
  deriving DecidableEq

/-- The fields of a CrawlSuccessItem that are not the same for all crawlers. -/
structure ArticleFields (Metadata : Type) where
  title : String
  publishedAt : Option Timestamp
  extraMetadata : Option Metadata

/-- A crawler's targets and how it reads their pages, in threads or not.  Its exceptions
outside the `try` around the body are the errors of `fields`. -/
structure ArticleSource (Target Metadata : Type) where
  url : Target → String
  threaded : Bool
  body : HttpResponse → BodyResult
  fields : Target → HttpResponse → Except String (ArticleFields Metadata)

def strip (text : String) : String := String.ofList (Pipeline.strip text.toList)

/-! ## One worker on its own -/

section Worker
variable {Target Metadata : Type} (config : CrawlConfig) (source : ArticleSource Target Metadata)

/-- `_fetch_one_article` after the fetch. -/
def parseArticle (target : Target) (response : HttpResponse) : ArticleEnd Metadata :=
  match source.body response with
  | .failed code => .failed ⟨source.url target, code.errorType, code.errorCode, 1⟩
  | .extracted none => .skipped
  | .extracted (some body) =>
      if strip body = "" then .skipped
      else
        match source.fields target response with
        | .error text => .raised text
        | .ok fields => .succeeded ⟨fields.title, strip body, source.url target,
            fields.publishedAt, fields.extraMetadata⟩

def concludeFetch (target : Target) : FetchEnd → ArticleEnd Metadata
  | .rateLimited _ => .skipped
  | .blocked _ => .failed ⟨source.url target, CrawlErrorCode.urlGetFailed.errorType,
      CrawlErrorCode.urlGetFailed.errorCode, config.maxRetry⟩
  | .raised text => .raised text
  | .returned response => parseArticle source target response

def fetchOneArticle (target : Target) (answers : Nat → GetAnswer) : ArticleEnd Metadata :=
  concludeFetch config source target (fetch config (source.url target) answers).how

/-- The worker's whole code; `logged` is what the SELECT of the error log gives. -/
def articleWorker (target : Target) (logged : Except String Bool)
    (answers : Nat → GetAnswer) : ArticleEnd Metadata :=
  match logged with
  | .error text => .raised text
  | .ok true => .skipped
  | .ok false => fetchOneArticle config source target answers

end Worker

/-! ## The workers of one crawl -/

/-- What a worker was told: by the error log, and by its requests in their order. -/
structure Heard where
  logged : Option (Except String Bool)
  gets : List GetAnswer

def Heard.answers (heard : Heard) (attempt : Nat) : GetAnswer :=
  heard.gets.getD (attempt - 1) (.raised "")

/-- Where a worker is suspended: in the SELECT, in `semaphore.acquire`, in the sleep
before its first request, in `fetch`, in a thread that parses, or nowhere. -/
inductive WorkerStage (Metadata : Type) where
  | precheck
  | waiting
  | jitter
  | fetching (stage : FetchStage)
  | parsing (response : HttpResponse)
  | ended (how : ArticleEnd Metadata)
  deriving DecidableEq

structure ArticleWorker (Target Metadata : Type) where
  target : Target
  stage : WorkerStage Metadata
  heard : Heard

/-- The future of `asyncio.gather`. -/
inductive Gather where
  | running
  | returned
  | raised (text : String)
  deriving DecidableEq

/-- `errorLog` holds the urls of the table, and `requested` is a record of the requests
made, newest first, that no code reads. -/
structure FanOutState (Target Metadata : Type) where
  errorLog : List String
  semaphore : Semaphore Nat
  workers : List (ArticleWorker Target Metadata)
  result : CrawlResult Metadata
  gather : Gather
  requested : List String

def WorkerStage.isEnded {Metadata : Type} : WorkerStage Metadata → Bool
  | .ended _ => true
  | _ => false

namespace FanOutState

variable {Target Metadata : Type} (config : CrawlConfig)
  (source : ArticleSource Target Metadata) (state : FanOutState Target Metadata)

def initial (maxConcurrent : Nat) (errorLog : List String) (targets : List Target) :
    FanOutState Target Metadata where
  errorLog := errorLog
  semaphore := Semaphore.ofValue maxConcurrent
  workers := targets.map fun target => ⟨target, .precheck, ⟨none, []⟩⟩
  result := CrawlResult.empty
  gather := if targets.isEmpty then .returned else .running
  requested := []

/-- The callback of a child that is done: the first exception is passed on. -/
def gatherAfter (how : ArticleEnd Metadata) : Gather :=
  match state.gather, how with
  | .running, .raised text => .raised text
  | .running, _ =>
      if state.workers.all fun worker => worker.stage.isEnded then .returned else .running
  | gather, _ => gather

/-- A worker has run up to its next await or to its end. -/
def suspend (index : Nat) (worker : ArticleWorker Target Metadata) :
    FanOutState Target Metadata :=
  let moved := { state with workers := state.workers.set index worker }
  match worker.stage with
  | .fetching (.requesting _ _) =>
      { moved with requested := source.url worker.target :: moved.requested }
  | .ended how =>
      { moved with result := moved.result.add how, gather := moved.gatherAfter how }
  | _ => moved

/-- The same inside of `async with semaphore`, whose end gives the permit back. -/
def suspendInside (index : Nat) (worker : ArticleWorker Target Metadata) :
    FanOutState Target Metadata :=
  let moved := state.suspend source index worker
  if worker.stage.isEnded then { moved with semaphore := moved.semaphore.release } else moved

/-- The SELECT of `_is_url_in_error_log` returns or raises. -/
def resumePrecheck (index : Nat) (worker : ArticleWorker Target Metadata)
    (raised : Option String) : FanOutState Target Metadata :=
  match raised with
  | some text =>
      state.suspend source index
        ⟨worker.target, .ended (.raised text), ⟨some (.error text), worker.heard.gets⟩⟩
  | none =>
      if source.url worker.target ∈ state.errorLog then
        state.suspend source index
          ⟨worker.target, .ended .skipped, ⟨some (.ok true), worker.heard.gets⟩⟩
      else
        match state.semaphore.acquire index with
        | (true, semaphore) =>
            { state with semaphore := semaphore }.suspend source index
              ⟨worker.target, .jitter, ⟨some (.ok false), worker.heard.gets⟩⟩
        | (false, semaphore) =>
            { state with semaphore := semaphore }.suspend source index
              ⟨worker.target, .waiting, ⟨some (.ok false), worker.heard.gets⟩⟩

/-- `semaphore.acquire` returns. -/
def resumeAcquire (position : Nat) : Option (FanOutState Target Metadata) :=
  (state.semaphore.resume position).bind fun (acquired, semaphore) =>
    acquired.bind fun index =>
      state.workers[index]?.bind fun worker =>
        match worker.stage with
        | .waiting =>
            some ({ state with semaphore := semaphore }.suspend source index
              { worker with stage := .jitter })
        | _ => none

/-- Where `_fetch_one_article` is once its `fetch` is there. -/
def articleStage (target : Target) : FetchStage → WorkerStage Metadata
  | .ended (.returned response) =>
      if source.threaded then .parsing response
      else .ended (parseArticle source target response)
  | .ended how => .ended (concludeFetch config source target how)
  | stage => .fetching stage

/-- `asyncio.sleep` returns, before the first request or after a failed one. -/
def resumeSleep (index : Nat) (worker : ArticleWorker Target Metadata) :
    Option (FanOutState Target Metadata) :=
  let url := source.url worker.target
  match worker.stage with
  | .jitter =>
      some (state.suspendInside source index
        { worker with stage := articleStage config source worker.target (startFetch config url) })
  | .fetching (.backingOff attempt lastExc) =>
      some (state.suspendInside source index
        { worker with
          stage := articleStage config source worker.target
            (nextAttempt config url (attempt + 1) lastExc) })
  | _ => none

/-- `client.get` returns or raises. -/
def resumeRequest (index : Nat) (worker : ArticleWorker Target Metadata) (answer : GetAnswer) :
    Option (FanOutState Target Metadata) :=
  match worker.stage with
  | .fetching (.requesting attempt _) =>
      some (state.suspendInside source index
        ⟨worker.target, articleStage config source worker.target
            (resumeGet config (source.url worker.target) attempt answer),
          ⟨worker.heard.logged, worker.heard.gets ++ [answer]⟩⟩)
  | _ => none

/-- The threads that parse are done. -/
def resumeParsing (index : Nat) (worker : ArticleWorker Target Metadata) :
    Option (FanOutState Target Metadata) :=
  match worker.stage with
  | .parsing response =>
      some (state.suspendInside source index
        { worker with stage := .ended (parseArticle source worker.target response) })
  | _ => none

end FanOutState

/-! ## The machine -/

inductive CrawlAction where
  /-- Another crawl writes this url to the error log. -/
  | logUrl (url : String)
  /-- The SELECT is answered from the table, or raises. -/
  | prechecked (index : Nat) (raised : Option String)
  | admitted (position : Nat)
  | slept (index : Nat)
  | answered (index : Nat) (answer : GetAnswer)
  | parsed (index : Nat)

section Machine
variable {Target Metadata : Type} (config : CrawlConfig) (source : ArticleSource Target Metadata)

def fanOutStep (state : FanOutState Target Metadata) :
    CrawlAction → Option (FanOutState Target Metadata)
  | .logUrl url => some { state with errorLog := url :: state.errorLog }
  | .prechecked index raised =>
      state.workers[index]?.bind fun worker =>
        match worker.stage with
        | .precheck => some (state.resumePrecheck source index worker raised)
        | _ => none
  | .admitted position => state.resumeAcquire source position
  | .slept index =>
      state.workers[index]?.bind fun worker => state.resumeSleep config source index worker
  | .answered index answer =>
      state.workers[index]?.bind fun worker =>
        state.resumeRequest config source index worker answer
  | .parsed index =>
      state.workers[index]?.bind fun worker => state.resumeParsing source index worker

/-- A crawl of these targets, with these urls in the error log when it begins. -/
def fanOutMachine (maxConcurrent : Nat) (errorLog : List String) (targets : List Target) :
    Machine (FanOutState Target Metadata) CrawlAction where
  init := fun state => state = FanOutState.initial maxConcurrent errorLog targets
  step := fanOutStep config source

end Machine

end WealthFinder.Ingestion
