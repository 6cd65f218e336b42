import WealthFinder.Machine
import WealthFinder.StreamGroup

/-!
# The cleaning layer of the data-ingestion service

`CleaningService` as a machine: the stream reader, the reclaim loop and the
workers share one queue and suspend at every await, so one action is the stretch
of code between two awaits.  Postgres statements and Redis commands are atomic
on their server.  Each may fail without having run, or run and lose its reply.
-/

set_option autoImplicit false

namespace WealthFinder.Ingestion

abbrev UUID := Nat
abbrev MessageId := Nat
abbrev Timestamp := Int

/-! ## One attempt of a database or stream operation -/

/-- How one attempt of an awaited operation ends for the caller.  `applied`
says whether the server carried it out although the caller sees an error;
`transient` errors are `DatabaseClient._TRANSIENT`. -/
inductive Attempt where
  | done
  | transient (applied : Bool)
  | permanent (applied : Bool)
  deriving DecidableEq, Repr

def Attempt.applied : Attempt → Bool
  | .done => true
  | .transient applied => applied
  | .permanent applied => applied

inductive RetryTurn where
  | returned
  | raised
  | again
  deriving DecidableEq, Repr

/-- One turn of the loop of `_run_with_retry`, `attempt` counting from 1. -/
def runWithRetryTurn (maxRetry : Int) (attempt : Nat) : Attempt → RetryTurn
  | .done => .returned
  | .transient _ => if (attempt : Int) = maxRetry then .raised else .again
  | .permanent _ => .raised

/-! ## Rows and messages -/

/-- The columns of a `raw_news` row that the cleaning layer reads or writes. -/
structure RawNews where
  rawId : UUID
  title : String
  body : String
  isDeleted : Bool
  deletedReason : Option String
  deriving DecidableEq, Repr

structure CleanedNews where
  cleanedId : UUID
  rawId : UUID
  titleCleaned : String
  bodyCleaned : String
  createdAt : Timestamp
  deriving DecidableEq, Repr

/-- What reading the `raw_id` field of a stream entry as a UUID meets. -/
inductive RawIdField where
  | absent
  | invalid
  | uuid (rawId : UUID)
  deriving DecidableEq, Repr

/-- `raw_id` is the message's text, `none` when it is no UUID. -/
structure StreamMessage where
  messageId : MessageId
  rawId : Option UUID
  deriving DecidableEq, Repr

/-- `_to_stream_messages`: an entry without a `raw_id` field raises KeyError for
the whole batch. -/
def toStreamMessages : List (MessageId × RawIdField) → Option (List StreamMessage)
  | [] => some []
  | (_, .absent) :: _ => none
  | (messageId, .invalid) :: rest =>
      (toStreamMessages rest).map (⟨messageId, none⟩ :: ·)
  | (messageId, .uuid rawId) :: rest =>
      (toStreamMessages rest).map (⟨messageId, some rawId⟩ :: ·)

/-- `CleanConfig` and `DatabaseConfig.max_retry`, with `normalise` of
`text_utils` as a parameter: nothing below depends on what it does to a text. -/
structure CleanConfig where
  workerConcurrency : Nat
  bodyMinLength : Int
  maxRetry : Int
  normalise : String → String

/-! ## The layer's state -/

/-- Where a worker is suspended. -/
inductive Worker where
  | waiting
  | fetchRawNews (messageId : MessageId) (rawId : UUID)
  | markDeleted (messageId : MessageId) (rawId : UUID) (reason : String)
      (attempt : Nat)
  | alreadyCleaned (messageId : MessageId) (rawId : UUID) (title body : String)
  | insertCleanedNews (messageId : MessageId) (cleaned : CleanedNews)
      (attempt : Nat)
  | publishCleaned (messageId : MessageId) (cleaned : CleanedNews)
  | ack (messageId : MessageId)
  deriving DecidableEq, Repr

/-- `published` is `stream:raw_news_cleaned`, newest first. -/
structure State where
  rawNews : UUID → Option RawNews
  cleanedNews : List CleanedNews
  stream : StreamGroup MessageId RawIdField
  published : List UUID
  queue : List StreamMessage
  workers : Nat → Worker

def initial : State where
  rawNews := fun _ => none
  cleanedNews := []
  stream := StreamGroup.empty
  published := []
  queue := []
  workers := fun _ => .waiting

def State.setWorker (state : State) (worker : Nat) (next : Worker) : State :=
  { state with workers := Function.update state.workers worker next }

/-! ## The statements -/

/-- `_fetch_raw_news`: only a row that is not deleted. -/
def fetchRawNews (rawNews : UUID → Option RawNews) (rawId : UUID) :
    Option RawNews :=
  match rawNews rawId with
  | some raw => if raw.isDeleted then none else some raw
  | none => none

/-- The UPDATE of `_mark_deleted`. -/
def updateDeleted (rawNews : UUID → Option RawNews) (rawId : UUID)
    (reason : String) : UUID → Option RawNews :=
  Function.update rawNews rawId ((rawNews rawId).map fun raw =>
    { raw with isDeleted := true, deletedReason := some reason })

def alreadyCleaned (cleanedNews : List CleanedNews) (rawId : UUID) : Bool :=
  cleanedNews.any fun row => row.rawId == rawId

/-- The primary key of `cleaned_news`. -/
def cleanedIdTaken (cleanedNews : List CleanedNews) (cleanedId : UUID) : Bool :=
  cleanedNews.any fun row => row.cleanedId == cleanedId

/-! ## `process_record` and `_worker` -/

/-- Steps 2 and 3 of `process_record`: the reason for a rejection, or the
cleaned title and body. -/
def validate (config : CleanConfig) (raw : RawNews) : String ⊕ (String × String) :=
  if raw.title = "" ∨ raw.body = "" then .inl "EMPTY_FIELD"
  else if ((config.normalise raw.body).length : Int) < config.bodyMinLength then
    .inl "BODY_TOO_SHORT"
  else .inr (config.normalise raw.title, config.normalise raw.body)

/-- A write that `_run_with_retry` never attempts (`max_retry` below 1) returns
at once. -/
def startWrite (config : CleanConfig) (suspended returned : Worker) : Worker :=
  if 1 ≤ config.maxRetry then suspended else returned

/-- Where a worker is after one attempt of a write. -/
def afterWrite (config : CleanConfig) (attempt : Nat) (outcome : Attempt)
    (retrying returned : Worker) : Worker :=
  match runWithRetryTurn config.maxRetry attempt outcome with
  | .returned => returned
  | .again => retrying
  -- `_worker` logs the error and leaves the message unacknowledged
  | .raised => .waiting

/-- What a resumed worker is given: how the operation it awaited ended, and the
values `uuid4()` and `now()` return if it builds a `CleanedNews`. -/
structure Reply where
  outcome : Attempt
  cleanedId : UUID
  now : Timestamp

def resumeFetch (config : CleanConfig) (state : State) (worker : Nat)
    (messageId : MessageId) (rawId : UUID) (outcome : Attempt) : State :=
  match outcome with
  | .done =>
      match fetchRawNews state.rawNews rawId with
      | none => state.setWorker worker (.ack messageId)
      | some raw =>
          match validate config raw with
          | .inl reason => state.setWorker worker
              (startWrite config (.markDeleted messageId rawId reason 1) (.ack messageId))
          | .inr (title, body) =>
              state.setWorker worker (.alreadyCleaned messageId rawId title body)
  | _ => state.setWorker worker .waiting

def resumeMarkDeleted (config : CleanConfig) (state : State) (worker : Nat)
    (messageId : MessageId) (rawId : UUID) (reason : String) (attempt : Nat)
    (outcome : Attempt) : State :=
  { state with
    rawNews := if outcome.applied then updateDeleted state.rawNews rawId reason
      else state.rawNews }.setWorker worker
    (afterWrite config attempt outcome
      (.markDeleted messageId rawId reason (attempt + 1)) (.ack messageId))

def resumeAlreadyCleaned (config : CleanConfig) (state : State) (worker : Nat)
    (messageId : MessageId) (rawId : UUID) (title body : String)
    (reply : Reply) : State :=
  match reply.outcome with
  | .done =>
      if alreadyCleaned state.cleanedNews rawId then
        state.setWorker worker (.ack messageId)
      else
        let cleaned : CleanedNews := ⟨reply.cleanedId, rawId, title, body, reply.now⟩
        state.setWorker worker (startWrite config
          (.insertCleanedNews messageId cleaned 1) (.publishCleaned messageId cleaned))
  | _ => state.setWorker worker .waiting

def resumeInsert (config : CleanConfig) (state : State) (worker : Nat)
    (messageId : MessageId) (cleaned : CleanedNews) (attempt : Nat)
    (outcome : Attempt) : State :=
  let conflict := cleanedIdTaken state.cleanedNews cleaned.cleanedId
  -- UniqueViolationError, also when it is a repeated statement that conflicts
  if outcome = Attempt.done ∧ conflict = true then state.setWorker worker .waiting
  else
    { state with
      cleanedNews := if outcome.applied && !conflict then cleaned :: state.cleanedNews
        else state.cleanedNews }.setWorker worker
      (afterWrite config attempt outcome
        (.insertCleanedNews messageId cleaned (attempt + 1))
        (.publishCleaned messageId cleaned))

def resumePublish (state : State) (worker : Nat) (messageId : MessageId)
    (cleaned : CleanedNews) (outcome : Attempt) : State :=
  { state with
    published := if outcome.applied then cleaned.cleanedId :: state.published
      else state.published }.setWorker worker
    (if outcome = Attempt.done then .ack messageId else .waiting)

def resumeAck (state : State) (worker : Nat) (messageId : MessageId)
    (outcome : Attempt) : State :=
  { state with
    stream := if outcome.applied then state.stream.ack messageId
      else state.stream }.setWorker worker .waiting

def resume (config : CleanConfig) (state : State) (worker : Nat) (reply : Reply) :
    Option State :=
  match state.workers worker with
  | .waiting => none
  | .fetchRawNews messageId rawId =>
      some (resumeFetch config state worker messageId rawId reply.outcome)
  | .markDeleted messageId rawId reason attempt =>
      some (resumeMarkDeleted config state worker messageId rawId reason attempt
        reply.outcome)
  | .alreadyCleaned messageId rawId title body =>
      some (resumeAlreadyCleaned config state worker messageId rawId title body reply)
  | .insertCleanedNews messageId cleaned attempt =>
      some (resumeInsert config state worker messageId cleaned attempt reply.outcome)
  | .publishCleaned messageId cleaned =>
      some (resumePublish state worker messageId cleaned reply.outcome)
  | .ack messageId => some (resumeAck state worker messageId reply.outcome)

/-- `queue.get()` in an idle worker.  A `raw_id` that is no UUID raises inside
the worker's try block, so the worker waits again. -/
def dequeue (config : CleanConfig) (state : State) (worker : Nat) : Option State :=
  if worker < config.workerConcurrency ∧ state.workers worker = .waiting then
    match state.queue with
    | [] => none
    | message :: rest =>
        let taken := { state with queue := rest }
        match message.rawId with
        | none => some taken
        | some rawId =>
            some (taken.setWorker worker (.fetchRawNews message.messageId rawId))
  else none

/-! ## The reader loops and the environment -/

/-- The entries a command returned, with their fields. -/
def withFields (stream : StreamGroup MessageId RawIdField) (ids : List MessageId) :
    List (MessageId × RawIdField) :=
  ids.filterMap fun id => (stream.fields id).map fun field => (id, field)

/-- Both loops put what they received on the queue.  Without a reply, or with a
malformed entry in the batch, the loop only logs. -/
def enqueue (state : State) (ids : List MessageId)
    (stream : StreamGroup MessageId RawIdField) (replied : Bool) : State :=
  let moved := { state with stream := stream }
  if replied then
    match toStreamMessages (withFields stream ids) with
    | some messages => { moved with queue := state.queue ++ messages }
    | none => moved
  else moved

/-- The default `count` of `reclaim_pending`. -/
def reclaimCount : Nat := 10

/-- The messages that XAUTOCLAIM finds when these have been idle for `min_idle_ms`. -/
def State.claimable (state : State) (idle : List MessageId) : List MessageId :=
  StreamGroup.scan (fun id => decide (id ∈ idle)) reclaimCount state.stream.pendingIds

inductive Action where
  /-- CrawlService stores a raw article. -/
  | insertRaw (raw : RawNews)
  /-- CrawlService publishes on `stream:raw_news_inserted`. -/
  | announce (messageId : MessageId) (field : RawIdField)
  | readMessages (count : Nat) (replied : Bool)
  | reclaimPending (idle : List MessageId) (replied : Bool)
  | dequeue (worker : Nat)
  | resume (worker : Nat) (reply : Reply)
  | crash

/-- The rows CrawlService inserts are new and not deleted, and it announces a
row after the row is stored. -/
def step (config : CleanConfig) (state : State) : Action → Option State
  | .insertRaw raw =>
      if state.rawNews raw.rawId = none ∧ raw.isDeleted = false then
        some { state with
          rawNews := Function.update state.rawNews raw.rawId (some raw) }
      else none
  | .announce messageId field =>
      match field with
      | .uuid rawId =>
          if (state.rawNews rawId).isSome then
            (state.stream.add messageId field).map fun stream =>
              { state with stream := stream }
          else none
      | _ => (state.stream.add messageId field).map fun stream =>
          { state with stream := stream }
  | .readMessages count replied =>
      let (ids, stream) := state.stream.readGroup count
      some (enqueue state ids stream replied)
  | .reclaimPending idle replied =>
      let (claimed, stream) := state.stream.autoclaim (state.claimable idle)
      some (enqueue state claimed stream replied)
  | .dequeue worker => dequeue config state worker
  | .resume worker reply => resume config state worker reply
  | .crash => some { state with queue := [], workers := fun _ => .waiting }

def cleaningMachine (config : CleanConfig) : Machine State Action where
  init := fun state => state = initial
  step := step config

/-! ## Concrete values for runs -/

/-- The deployed defaults, with texts left as they are. -/
def defaultConfig : CleanConfig := ⟨5, 50, 3, id⟩

def sampleRaw : RawNews where
  rawId := 1
  title := "Quarterly results"
  body := "The company reported its results for the first quarter."
  isDeleted := false
  deletedReason := none

def succeed (worker : Nat) : Action := .resume worker ⟨.done, 100 + worker, 0⟩

end WealthFinder.Ingestion
