import WealthFinder.Ingestion.DatabaseClient

/-!
# The crawl service of the data-ingestion service

`CrawlService.execute` as a program with exceptions over the tables and streams it
writes.  The crawler, the database and the streams answer as a `CrawlCall` says.  Each
insert may fail or lose its reply attempt by attempt, and each publish likewise once.
-/

set_option autoImplicit false

namespace WealthFinder.Ingestion

/-! ## Rows, results and signals -/

inductive CrawlSourceName where
  | hkex
  | mingpao
  | aastocks
  | yahooHk
  deriving DecidableEq, Repr

def CrawlSourceName.value : CrawlSourceName → String
  | .hkex => "HKEX"
  | .mingpao => "MINGPAO"
  | .aastocks => "AASTOCKS"
  | .yahooHk => "YAHOO_HK"

structure CrawlSuccessItem (Metadata : Type) where
  title : String
  body : String
  sourceUrl : String
  publishedAt : Option Timestamp
  extraMetadata : Option Metadata
  deriving DecidableEq

structure CrawlFailItem where
  sourceUrl : String
  errorType : String
  errorCode : String
  attemptCount : Nat
  deriving DecidableEq, Repr

/-- The columns of `_INSERT_RAW_NEWS_SQL`. -/
structure RawNewsRow where
  rawId : UUID
  sourceName : String
  sourceUrl : String
  title : String
  body : String
  publishedAt : Option Timestamp
  createdAt : Timestamp
  rawHash : String
  extraMetadata : Option String
  deriving DecidableEq, Repr

/-- The columns of `_INSERT_CRAWL_ERROR_LOG_SQL`. -/
structure CrawlErrorRow where
  errorId : UUID
  executionId : String
  sourceName : String
  url : String
  errorType : String
  errorCode : String
  attemptCount : Nat
  createdAt : Timestamp
  deriving DecidableEq, Repr

inductive CrawlStatus where
  | success
  | failed
  deriving DecidableEq, Repr

/-- A message of `stream:crawl_completed`. -/
structure CompletedSignal where
  executionId : String
  status : CrawlStatus
  errorDetail : Option String
  deriving DecidableEq, Repr

/-- `inserted` is `stream:raw_news_inserted` and `completed` is `stream:crawl_completed`,
newest first. -/
structure CrawlWorld where
  rawNews : List RawNewsRow
  errorLog : List CrawlErrorRow
  inserted : List UUID
  completed : List CompletedSignal
  deriving DecidableEq

/-- `text_utils` and `json.dumps`.  `computeHash` and `dumps` are `none` where the call
raises; nothing below depends on what they return. -/
structure TextTools (Metadata : Type) where
  normalise : String → String
  computeHash : String → Option String
  dumps : Metadata → Option String

def plainTools : TextTools Unit := ⟨id, some, fun _ => some "\x7b\x7d"⟩

/-! ## How a call is answered -/

/-- What persisting one item is given: `uuid4()`, `now()`, how each attempt of its INSERT
ends and how its publish ends. -/
structure ItemAnswers where
  rawId : UUID
  now : Timestamp
  insert : Nat → Attempt
  publish : Attempt

structure FailureAnswers where
  errorId : UUID
  now : Timestamp
  insert : Nat → Attempt

/-- How the crawler ends: `CrawlFatalException`, another exception (also one of
`_create_crawler`), or its results. -/
inductive CrawlerEnd (Metadata : Type) where
  | fatal (text : String)
  | raised (text : String)
  | returned (failures : List (CrawlFailItem × FailureAnswers))
      (successes : List (CrawlSuccessItem Metadata × ItemAnswers))

/-- A call of `execute`.  `publishFatal` answers the FAILED signal of a fatal crawler,
`publishSuccess` the SUCCESS signal and `publishFailed` the FAILED signal of the last
`except`; `errorText` is the text of an exception raised by the service itself. -/
structure CrawlCall (Metadata : Type) where
  executionId : String
  sourceName : CrawlSourceName
  crawler : CrawlerEnd Metadata
  publishFatal : Attempt
  publishSuccess : Attempt
  publishFailed : Attempt
  errorText : String

/-! ## The program -/

/-- An ordinary exception, by its text. -/
abbrev CrawlM := EStateM String CrawlWorld

def publish (write : CrawlWorld → CrawlWorld) (answer : Attempt) (errorText : String) :
    CrawlM Unit := fun world =>
  let after := if answer.applied then write world else world
  if answer = .done then .ok () after else .error errorText after

theorem publish_leaves (write : CrawlWorld → CrawlWorld) (answer : Attempt)
    (errorText : String) (world : CrawlWorld) :
    stateAfter (publish write answer errorText world) =
      if answer.applied then write world else world := by
  unfold publish
  by_cases done : answer = .done
  · rw [if_pos done]
    rfl
  · rw [if_neg done]
    rfl

theorem publish_keeps {property : CrawlWorld → Prop} {write : CrawlWorld → CrawlWorld}
    (keeps : ∀ world, property world → property (write world)) (answer : Attempt)
    (errorText : String) : Keeps property (publish write answer errorText) := by
  intro world holds
  rw [publish_leaves]
  split
  · exact keeps world holds
  · exact holds

def publishCompleted (executionId : String) (status : CrawlStatus)
    (errorDetail : Option String) (answer : Attempt) (errorText : String) : CrawlM Unit :=
  publish (fun world => { world with
    completed := ⟨executionId, status, errorDetail⟩ :: world.completed }) answer errorText

/-- `_INSERT_RAW_NEWS_SQL`.  A row with the same `source_url` absorbs the statement; the
primary key and `raw_hash` are unique too. -/
def insertRawNews (row : RawNewsRow) : EStateM OpError CrawlWorld (Option UUID) := fun world =>
  if world.rawNews.any fun other => other.sourceUrl = row.sourceUrl then .ok none world
  else if world.rawNews.any fun other =>
      other.rawId = row.rawId ∨ other.rawHash = row.rawHash then
    .error .uniqueViolation world
  else .ok (some row.rawId) { world with rawNews := row :: world.rawNews }

def insertCrawlError (row : CrawlErrorRow) : EStateM OpError CrawlWorld Unit := fun world =>
  if world.errorLog.any fun other => other.errorId = row.errorId then
    .error .uniqueViolation world
  else .ok () { world with errorLog := row :: world.errorLog }

section Service
variable {Metadata : Type} (tools : TextTools Metadata) (maxRetry : Int)

/-- Failures are logged and swallowed. -/
def saveCrawlError (executionId : String) (sourceName : CrawlSourceName)
    (failure : CrawlFailItem) (answers : FailureAnswers) : CrawlM Unit := fun world =>
  let row : CrawlErrorRow := ⟨answers.errorId, executionId, sourceName.value,
    failure.sourceUrl, failure.errorType, failure.errorCode, failure.attemptCount, answers.now⟩
  .ok () (stateAfter (executeWrite maxRetry (insertCrawlError row) answers.insert world))

def persistFailures (executionId : String) (sourceName : CrawlSourceName) :
    List (CrawlFailItem × FailureAnswers) → CrawlM Unit
  | [] => pure ()
  | (failure, answers) :: rest => do
      saveCrawlError maxRetry executionId sourceName failure answers
      persistFailures executionId sourceName rest

/-- The `extra_metadata` column; outside any `try` of the loop. -/
def extraMetadataJson (item : CrawlSuccessItem Metadata) (errorText : String) :
    CrawlM (Option String) :=
  match item.extraMetadata with
  | none => pure none
  | some metadata =>
      match tools.dumps metadata with
      | some json => pure (some json)
      | none => throw errorText

/-- The INSERT and the publish of one item, whose exceptions are logged and swallowed. -/
def insertAndPublish (row : RawNewsRow) (answers : ItemAnswers) : CrawlM Unit := fun world =>
  match executeReturning maxRetry (insertRawNews row) answers.insert world with
  | .error _ after => .ok () after
  | .ok none after => .ok () after
  | .ok (some _) after =>
      .ok () (stateAfter (publish (fun world => { world with
        inserted := row.rawId :: world.inserted }) answers.publish "" after))

/-- One round of the loop of `_persist_successes`. -/
def persistSuccess (sourceName : CrawlSourceName) (errorText : String)
    (item : CrawlSuccessItem Metadata) (answers : ItemAnswers) : CrawlM Unit :=
  match tools.computeHash (tools.normalise item.title) with
  | none => pure ()
  | some rawHash => do
      let extraMetadata ← extraMetadataJson tools item errorText
      insertAndPublish maxRetry ⟨answers.rawId, sourceName.value, item.sourceUrl, item.title,
        item.body, item.publishedAt, answers.now, rawHash, extraMetadata⟩ answers

def persistSuccesses (sourceName : CrawlSourceName) (errorText : String) :
    List (CrawlSuccessItem Metadata × ItemAnswers) → CrawlM Unit
  | [] => pure ()
  | (item, answers) :: rest => do
      persistSuccess tools maxRetry sourceName errorText item answers
      persistSuccesses sourceName errorText rest

def persistResults (call : CrawlCall Metadata)
    (failures : List (CrawlFailItem × FailureAnswers))
    (successes : List (CrawlSuccessItem Metadata × ItemAnswers)) : CrawlM Unit := do
  persistFailures maxRetry call.executionId call.sourceName failures
  persistSuccesses tools maxRetry call.sourceName call.errorText successes

/-- The body of the `try` of `execute`. -/
def crawlAndPersist (call : CrawlCall Metadata) : CrawlM Unit :=
  match call.crawler with
  | .raised text => throw text
  | .fatal text =>
      publishCompleted call.executionId .failed (some text) call.publishFatal call.errorText
  | .returned failures successes => do
      persistResults tools maxRetry call failures successes
      publishCompleted call.executionId .success none call.publishSuccess call.errorText

def execute (call : CrawlCall Metadata) : CrawlM Unit :=
  tryCatch (crawlAndPersist tools maxRetry call) fun text =>
    tryCatch (publishCompleted call.executionId .failed (some text) call.publishFailed "")
      fun _ => pure ()

end Service

/-! ## Failures touch the error log only -/

section Failures
variable {maxRetry : Int} {executionId : String} {sourceName : CrawlSourceName}
  {property : CrawlWorld → Prop}

theorem saveCrawlError_keeps
    (unlogged : ∀ world rows, property world → property { world with errorLog := rows })
    (failure : CrawlFailItem) (answers : FailureAnswers) :
    Keeps property (saveCrawlError maxRetry executionId sourceName failure answers) := by
  intro world holds
  have insert (row : CrawlErrorRow) : Keeps property (insertCrawlError row) := by
    intro state held
    unfold insertCrawlError
    split
    · exact held
    · exact unlogged state _ held
  exact executeWrite_keeps (insert _) world holds

theorem persistFailures_keeps
    (unlogged : ∀ world rows, property world → property { world with errorLog := rows })
    (failures : List (CrawlFailItem × FailureAnswers)) :
    Keeps property (persistFailures maxRetry executionId sourceName failures) := by
  induction failures with
  | nil => exact keeps_pure ()
  | cons entry rest ih => exact (saveCrawlError_keeps unlogged _ _).bind fun _ => ih

theorem persistFailures_ok (failures : List (CrawlFailItem × FailureAnswers))
    (world : CrawlWorld) :
    persistFailures maxRetry executionId sourceName failures world =
      .ok () (stateAfter (persistFailures maxRetry executionId sourceName failures world)) := by
  induction failures generalizing world with
  | nil => rfl
  | cons entry rest ih => exact ih _

end Failures

/-! ## Executions one after the other -/

/-- The `raw_id`s that a call draws from `uuid4`. -/
def CrawlCall.rawIds {Metadata : Type} (call : CrawlCall Metadata) : List UUID :=
  match call.crawler with
  | .returned _ successes => successes.map fun entry => entry.2.rawId
  | _ => []

/-- `uuid4` never repeats. -/
def CrawlCall.drawsFresh {Metadata : Type} (call : CrawlCall Metadata) (world : CrawlWorld) :
    Prop :=
  call.rawIds.Nodup ∧ ∀ row ∈ world.rawNews, row.rawId ∉ call.rawIds

instance {Metadata : Type} (call : CrawlCall Metadata) (world : CrawlWorld) :
    Decidable (call.drawsFresh world) :=
  inferInstanceAs (Decidable (_ ∧ _))

def CrawlWorld.empty : CrawlWorld := ⟨[], [], [], []⟩

/-- Each step is one execution. -/
def crawlMachine {Metadata : Type} (tools : TextTools Metadata) (maxRetry : Int) :
    Machine CrawlWorld (CrawlCall Metadata) where
  init := fun world => world = CrawlWorld.empty
  step := fun world call =>
    if call.drawsFresh world then some (stateAfter (execute tools maxRetry call world))
    else none

end WealthFinder.Ingestion
