import WealthFinder.Ingestion.CrawlRounds
import WealthFinder.Ingestion.CrawlWorkerTurns
import WealthFinder.Ingestion.CrawlerRuns

/-!
# The data-ingestion service

Every accepted crawl request runs `CrawlService.execute` in a task of its own, beside the
tasks of other requests and the cleaning layer.  The tasks interleave at their awaits; what
they share is the database and the streams.
-/

set_option autoImplicit false

namespace WealthFinder.Ingestion

/-! ## State -/

/-- What the modules of the service are configured with and call. -/
structure IngestionConfig where
  crawl : CrawlConfig
  maxConcurrent : CrawlSourceName → Nat
  workerConcurrency : Nat
  bodyMinLength : Int
  dbMaxRetry : Int
  tools : TextTools StockCodeMetadata
  libraries : ParserLibraries
  linkHrefs : String → Except String (List (Option String))

def IngestionConfig.clean (config : IngestionConfig) : CleanConfig :=
  ⟨config.workerConcurrency, config.bodyMinLength, config.dbMaxRetry, config.tools.normalise⟩

abbrev ArticleItem := CrawlSuccessItem StockCodeMetadata

/-- Where `execute` is: looking for articles, in a SELECT for the first of the feed's
entries, waiting for `gather`, at the head of the loops that persist, in an attempt of an
INSERT, in a publish of a `raw_id` or of the terminal signal, or over.  `handled` is set in
the last `except`. -/
inductive TaskStage where
  | discovering
  | reading (entries : List FeedEntry) (found : List ArticleItem)
  | gathering
  | persisting (failures : List CrawlFailItem) (successes : List ArticleItem)
  | savingFailure (row : CrawlErrorRow) (attempt : Nat) (failures : List CrawlFailItem)
      (successes : List ArticleItem)
  | inserting (row : RawNewsRow) (attempt : Nat) (successes : List ArticleItem)
  | announcing (rawId : UUID) (successes : List ArticleItem)
  | completing (signal : CompletedSignal) (handled : Bool)
  | ended

/-- `crawl` holds the workers, which outlive a `gather` that raises. -/
structure CrawlTask where
  executionId : String
  sourceName : CrawlSourceName
  crawl : Option (FanOutState (CrawlTarget sourceName) StockCodeMetadata)
  stage : TaskStage

/-- `world` and `cleaner` hold the columns and streams that their layers use of one database
and one Redis; the articles and their announcements are in both.  `drawn` is a record of
what `uuid4` has returned. -/
structure IngestionState where
  tasks : List CrawlTask
  world : CrawlWorld
  cleaner : State
  drawn : List UUID

def IngestionState.initial : IngestionState := ⟨[], CrawlWorld.empty, Ingestion.initial, []⟩

def CrawlWorld.loggedUrls (world : CrawlWorld) : List String :=
  world.errorLog.map CrawlErrorRow.url

namespace CrawlTask

variable (task : CrawlTask)

/-- The last `except` of `execute`. -/
def fails (text : String) : CrawlTask :=
  { task with stage := .completing ⟨task.executionId, .failed, some text⟩ true }

def failsFatally (text : String) : CrawlTask :=
  { task with stage := .completing ⟨task.executionId, .failed, some text⟩ false }

/-- The loop over the entries of the MingPao feed. -/
def readsOn (entries : List FeedEntry) (found : List ArticleItem) : CrawlTask :=
  { task with
    stage := if entries.isEmpty then .persisting [] found else .reading entries found }

/-! ## What reads the database only -/

/-- `gather` starts the workers. -/
def startWorkers (config : IngestionConfig) (logged : List String)
    (targets : List (CrawlTarget task.sourceName)) : CrawlTask :=
  { task with
    crawl := some (FanOutState.initial (config.maxConcurrent task.sourceName) logged targets)
    stage := .gathering }

def resumeDiscovery (config : IngestionConfig) (logged : List String) (discovery : Discovery) :
    Option CrawlTask :=
  match task.stage with
  | .discovering =>
      (discover config.crawl config.linkHrefs task.sourceName discovery).map fun
        | .error (.fatal text) => task.failsFatally text
        | .error (.raised text) => task.fails text
        | .ok (.targets targets) => task.startWorkers config logged targets
        | .ok (.entries entries) => task.readsOn entries []
  | _ => none

/-- The SELECT of `_is_url_in_error_log` for the next entry returns or raises. -/
def resumeReading (logged : List String) (raised : Option String) : Option CrawlTask :=
  match task.stage with
  | .reading (entry :: rest) found =>
      match raised with
      | some text => some (task.fails text)
      | none =>
          some (task.readsOn rest
            (if entry.url ∈ logged then found else found ++ (processEntry entry).toList))
  | _ => none

def resumeWorker (config : IngestionConfig) (logged : List String) (action : CrawlAction) :
    Option CrawlTask :=
  if action.isOwn then
    task.crawl.bind fun crawl =>
      (fanOutStep config.crawl (articleSource config.libraries task.sourceName)
        { crawl with errorLog := logged } action).map fun after =>
          { task with crawl := some after }
  else none

def resumeGather : Option CrawlTask :=
  match task.stage, task.crawl with
  | .gathering, some crawl =>
      match crawl.gather with
      | .running => none
      | .returned =>
          some { task with
            stage := .persisting crawl.result.failures crawl.result.successes }
      | .raised text => some (task.fails text)
  | _, _ => none

end CrawlTask

/-! ## The loops that persist -/

/-- What a round of the loops is given: `uuid4()`, `now()`, and the text of the exception
if `json.dumps` raises. -/
structure Draw where
  id : UUID
  now : Timestamp
  errorText : String

/-- A write that is never attempted returns at once. -/
def firstAttempt (maxRetry : Int) (suspended returned : TaskStage) : TaskStage :=
  if 1 ≤ maxRetry then suspended else returned

/-- After an attempt that raised; what the write raises is logged and swallowed. -/
def afterError (maxRetry : Int) (attempt : Nat) (again swallowed : TaskStage) :
    OpError → TaskStage
  | .transient => if (attempt : Int) = maxRetry then swallowed else again
  | _ => swallowed

def CrawlTask.errorRow (task : CrawlTask) (failure : CrawlFailItem) (draw : Draw) :
    CrawlErrorRow :=
  ⟨draw.id, task.executionId, task.sourceName.value, failure.sourceUrl, failure.errorType,
    failure.errorCode, failure.attemptCount, draw.now⟩

def CrawlTask.rawRow (task : CrawlTask) (item : ArticleItem) (draw : Draw) (rawHash : String)
    (extraMetadata : Option String) : RawNewsRow :=
  ⟨draw.id, task.sourceName.value, item.sourceUrl, item.title, item.body, item.publishedAt,
    draw.now, rawHash, extraMetadata⟩

/-- One round of `_persist_successes` up to its INSERT. -/
def CrawlTask.beginSuccess (config : IngestionConfig) (task : CrawlTask) (item : ArticleItem)
    (rest : List ArticleItem) (draw : Draw) : CrawlTask :=
  match config.tools.computeHash (config.tools.normalise item.title) with
  | none => { task with stage := .persisting [] rest }
  | some rawHash =>
      let inserts (extraMetadata : Option String) : CrawlTask :=
        { task with
          stage := firstAttempt config.dbMaxRetry
            (.inserting (task.rawRow item draw rawHash extraMetadata) 1 rest)
            (.persisting [] rest) }
      match item.extraMetadata with
      | none => inserts none
      | some metadata =>
          match config.tools.dumps metadata with
          | none => task.fails draw.errorText
          | some json => inserts (some json)

/-- The next item of the loops. -/
def CrawlTask.beginItem (config : IngestionConfig) (task : CrawlTask) (draw : Draw) :
    Option CrawlTask :=
  match task.stage with
  | .persisting (failure :: failures) successes =>
      some { task with
        stage := firstAttempt config.dbMaxRetry
          (.savingFailure (task.errorRow failure draw) 1 failures successes)
          (.persisting failures successes) }
  | .persisting [] (item :: rest) => some (task.beginSuccess config item rest draw)
  | _ => none

/-- Both loops have ended. -/
def CrawlTask.conclude (task : CrawlTask) : Option CrawlTask :=
  match task.stage with
  | .persisting [] [] =>
      some { task with stage := .completing ⟨task.executionId, .success, none⟩ false }
  | _ => none

/-! ## What writes to the database and the streams -/

namespace IngestionState

variable (config : IngestionConfig) (state : IngestionState) (index : Nat)

def setTask (task : CrawlTask) : IngestionState :=
  { state with tasks := state.tasks.set index task }

/-- An attempt of the INSERT into `crawl_error_log`. -/
def resumeSaving (task : CrawlTask) (outcome : Attempt) : Option IngestionState :=
  match task.stage with
  | .savingFailure row attempt failures successes =>
      let ended := attempted (insertCrawlError row) outcome state.world
      let swallowed : TaskStage := .persisting failures successes
      let stage := match ended with
        | .ok _ _ => swallowed
        | .error error _ => afterError config.dbMaxRetry attempt
            (.savingFailure row (attempt + 1) failures successes) swallowed error
      some { state.setTask index { task with stage := stage } with world := stateAfter ended }
  | _ => none

/-- The columns of a new row that the cleaning layer reads or writes. -/
def storeRaw (row : RawNewsRow) : State :=
  { state.cleaner with
    rawNews := Function.update state.cleaner.rawNews row.rawId
      (some ⟨row.rawId, row.title, row.body, false, none⟩) }

/-- An attempt of the INSERT into `raw_news`. -/
def resumeInserting (task : CrawlTask) (outcome : Attempt) : Option IngestionState :=
  match task.stage with
  | .inserting row attempt successes =>
      let ended := attempted (insertRawNews row) outcome state.world
      let swallowed : TaskStage := .persisting [] successes
      let stage := match ended with
        | .ok (some _) _ => .announcing row.rawId successes
        | .ok none _ => swallowed
        | .error error _ => afterError config.dbMaxRetry attempt
            (.inserting row (attempt + 1) successes) swallowed error
      some { state.setTask index { task with stage := stage } with
        world := stateAfter ended
        cleaner := if outcome.applied = true ∧ ¬ Taken state.world row then state.storeRaw row
          else state.cleaner }
  | _ => none

/-- XADD to `stream:raw_news_inserted`; the server gives the message its id. -/
def resumeAnnouncing (task : CrawlTask) (outcome : Attempt) (messageId : MessageId) :
    Option IngestionState :=
  match task.stage with
  | .announcing rawId successes =>
      let moved := state.setTask index { task with stage := .persisting [] successes }
      if outcome.applied then
        (state.cleaner.stream.add messageId (.uuid rawId)).map fun stream =>
          { moved with
            world := { state.world with inserted := rawId :: state.world.inserted }
            cleaner := { state.cleaner with stream := stream } }
      else some moved
  | _ => none

/-- XADD to `stream:crawl_completed`, whose exception is the text. -/
def resumeCompleting (task : CrawlTask) (outcome : Attempt) (text : String) :
    Option IngestionState :=
  match task.stage with
  | .completing signal handled =>
      let next := if outcome = .done ∨ handled = true then { task with stage := .ended }
        else task.fails text
      some { state.setTask index next with
        world := if outcome.applied
          then { state.world with completed := signal :: state.world.completed }
          else state.world }
  | _ => none

/-- The process stops: what is stored stays. -/
def crash : IngestionState :=
  { state with
    tasks := state.tasks.map fun task => { task with crawl := none, stage := .ended }
    cleaner := { state.cleaner with queue := [], workers := fun _ => .waiting } }

end IngestionState

/-! ## The machine -/

inductive IngestionAction where
  /-- POST /v1/crawl. -/
  | accept (executionId : String) (sourceName : CrawlSourceName)
  | discovered (index : Nat) (discovery : Discovery)
  | entryRead (index : Nat) (raised : Option String)
  | worked (index : Nat) (action : CrawlAction)
  | gathered (index : Nat)
  | begun (index : Nat) (draw : Draw)
  | concluded (index : Nat)
  | saved (index : Nat) (outcome : Attempt)
  | inserted (index : Nat) (outcome : Attempt)
  | announced (index : Nat) (outcome : Attempt) (messageId : MessageId)
  | completed (index : Nat) (outcome : Attempt) (text : String)
  /-- A step of the cleaning layer. -/
  | cleaned (action : Action)
  | crash

/-- The cleaning layer's own actions; the others are its environment's. -/
def Action.isCleaning : Action → Bool
  | .readMessages _ _ => true
  | .reclaimPending _ _ => true
  | .dequeue _ => true
  | .resume _ _ => true
  | _ => false

section Machine
variable (config : IngestionConfig)

/-- A task takes a turn that writes nothing. -/
def IngestionState.turn (state : IngestionState) (index : Nat)
    (move : CrawlTask → Option CrawlTask) : Option IngestionState :=
  state.tasks[index]?.bind fun task => (move task).map fun next => state.setTask index next

/-- `uuid4` returns nothing twice. -/
def IngestionState.begin (state : IngestionState) (index : Nat) (draw : Draw) :
    Option IngestionState :=
  if draw.id ∈ state.drawn then none
  else
    (state.turn index fun task => task.beginItem config draw).map fun moved =>
      { moved with drawn := draw.id :: state.drawn }

def ingestionStep (state : IngestionState) : IngestionAction → Option IngestionState
  | .accept executionId sourceName =>
      some { state with
        tasks := state.tasks ++ [⟨executionId, sourceName, none, .discovering⟩] }
  | .discovered index discovery =>
      state.turn index fun task =>
        task.resumeDiscovery config state.world.loggedUrls discovery
  | .entryRead index raised =>
      state.turn index fun task => task.resumeReading state.world.loggedUrls raised
  | .worked index action =>
      state.turn index fun task => task.resumeWorker config state.world.loggedUrls action
  | .gathered index => state.turn index CrawlTask.resumeGather
  | .begun index draw => state.begin config index draw
  | .concluded index => state.turn index CrawlTask.conclude
  | .saved index outcome =>
      state.tasks[index]?.bind fun task => state.resumeSaving config index task outcome
  | .inserted index outcome =>
      state.tasks[index]?.bind fun task => state.resumeInserting config index task outcome
  | .announced index outcome messageId =>
      state.tasks[index]?.bind fun task => state.resumeAnnouncing index task outcome messageId
  | .completed index outcome text =>
      state.tasks[index]?.bind fun task => state.resumeCompleting index task outcome text
  | .cleaned action =>
      if action.isCleaning then
        (step config.clean state.cleaner action).map fun cleaner =>
          { state with cleaner := cleaner }
      else none
  | .crash => some state.crash

def ingestionMachine : Machine IngestionState IngestionAction where
  init := fun state => state = IngestionState.initial
  step := ingestionStep config

end Machine

end WealthFinder.Ingestion
