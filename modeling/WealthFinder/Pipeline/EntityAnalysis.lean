import WealthFinder.Machine
import WealthFinder.Pipeline.EventRepository
import WealthFinder.Pipeline.StreamClient

/-!
# The entity analysis layer

`CleanedNewsConsumer`, `EntityAnalysisService` and `persist_entities`.  A loop routes
the messages of a batch at the same time, each in a task of its own that suspends at
every await.  What EntityAnalysisSkill makes of an article is left open here: any list
of verified entities may come back.
-/

set_option autoImplicit false

namespace WealthFinder.Pipeline

structure EntityAnalysisConfig where
  maxConcurrent : Nat
  maxRetry : Int
  deriving DecidableEq, Repr

def defaultEntityAnalysisConfig : EntityAnalysisConfig := ⟨3, 3⟩

structure CleanedNews where
  cleanedId : UUID
  sourceUrl : String
  sourceName : String
  publishedAt : Option Timestamp
  deriving DecidableEq, Repr

/-- The stock and the outcome of one verified company of an article. -/
structure VerifiedEntity where
  exchange : String
  stockCode : String
  eventTypePrimary : EventTypeEnum
  eventTypeSecondary : Option EventTypeEnum
  sentimentLabel : SentimentEnum
  sentimentScore : ℚ
  deriving DecidableEq, Repr

/-! ## `EntityEventRepository` -/

/-- What `uuid4` and the clock give one entity. -/
structure EntityStamp where
  newId : UUID
  now : Timestamp
  deriving DecidableEq, Repr

def entityRow (article : CleanedNews) (entity : VerifiedEntity) (stamp : EntityStamp) :
    EntityEvent where
  entityEventId := stamp.newId
  sourceId := article.cleanedId
  sourceUrl := article.sourceUrl
  sourceName := article.sourceName
  publishedAt := article.publishedAt
  exchange := entity.exchange
  stockCode := entity.stockCode
  eventTypePrimary := entity.eventTypePrimary
  eventTypeSecondary := entity.eventTypeSecondary
  sentimentLabel := entity.sentimentLabel
  sentimentScore := entity.sentimentScore
  createdAt := stamp.now

/-- `ON CONFLICT (source_url, stock_code) DO NOTHING`: the table and whether the row
was inserted.  A taken primary key fails the statement. -/
def insertEntityEvent (rows : List EntityEvent) (row : EntityEvent) :
    Option (List EntityEvent × Bool) :=
  if rows.any fun other =>
      other.sourceUrl = row.sourceUrl && other.stockCode = row.stockCode then
    some (rows, false)
  else if rows.any fun other => other.entityEventId = row.entityEventId then none
  else some (rows ++ [row], true)

/-- `persist_entities` as one transaction, with the ids of the newly stored rows. -/
def persistEntities (article : CleanedNews) : List EntityEvent →
    List (VerifiedEntity × EntityStamp) → Option (List EntityEvent × List UUID)
  | rows, [] => some (rows, [])
  | rows, (entity, stamp) :: rest =>
      (insertEntityEvent rows (entityRow article entity stamp)).bind fun (after, inserted) =>
        (persistEntities article after rest).map fun (final, persisted) =>
          (final, if inserted then stamp.newId :: persisted else persisted)

def fetchEntityEventIdsBySourceUrl (order : RowOrder EntityEvent)
    (rows : List EntityEvent) (sourceUrl : String) : List UUID :=
  (order.order (rows.filter fun row => row.sourceUrl = sourceUrl)).map
    EntityEvent.entityEventId

/-! ## The state -/

/-- Where the task of one message is suspended, `route` before it starts.  `publish`
holds the ids that are not announced yet. -/
inductive AnalysisStage where
  | route
  | publishDeadLetter (reason : DeadLetterReason)
  | ackDeadLetter (reason : DeadLetterReason)
  | acquireSlot (cleanedId : UUID)
  | fetchCleanedNews (cleanedId : UUID)
  | fetchExistingIds (cleanedId : UUID) (article : CleanedNews)
  | runSkill (cleanedId : UUID) (article : CleanedNews)
  | persistEntities (cleanedId : UUID) (article : CleanedNews)
      (entities : List VerifiedEntity)
  | publish (cleanedId : UUID) (entityEventId : UUID) (rest : List UUID)
  | ack (cleanedId : UUID)
  | done
  deriving DecidableEq

structure AnalysisTask where
  message : StreamMessage
  stage : AnalysisStage
  deriving DecidableEq

/-- `pendingRange` is the second command of `autoclaim`. -/
inductive AnalysisLoop where
  | waiting
  | pendingRange (claimed : List MessageId)
  | batch (tasks : List AnalysisTask)
  deriving DecidableEq

/-- `completed` are the ids announced on `stream:entity_event_completed`, newest
first, `articles` the cleaned articles of SADI, `slots` the free ones of the worker
pool, and `hkStockList` the number of entries of the HK Stock List. -/
structure AnalysisState where
  articles : UUID → Option CleanedNews
  entityEvents : List EntityEvent
  stream : SignalStream
  completed : List UUID
  deadLetters : List DeadLetter
  processing : UUID → Bool
  slots : Nat
  hkStockList : Nat
  loops : LoopName → AnalysisLoop

namespace AnalysisState

def initial (config : EntityAnalysisConfig) : AnalysisState where
  articles := fun _ => none
  entityEvents := []
  stream := StreamGroup.empty
  completed := []
  deadLetters := []
  processing := fun _ => false
  slots := config.maxConcurrent
  hkStockList := 0
  loops := fun _ => .waiting

variable (state : AnalysisState)

def setLoop (loop : LoopName) (work : AnalysisLoop) : AnalysisState :=
  { state with loops := Function.update state.loops loop work }

def taskAt (loop : LoopName) (index : Nat) : Option AnalysisTask :=
  match state.loops loop with
  | .batch tasks => tasks[index]?
  | .waiting => none
  | .pendingRange _ => none

def setTask (loop : LoopName) (index : Nat) (task : AnalysisTask) : AnalysisState :=
  match state.loops loop with
  | .batch tasks => state.setLoop loop (.batch (tasks.set index task))
  | .waiting => state
  | .pendingRange _ => state

def add (cleanedId : UUID) : AnalysisState :=
  { state with processing := Function.update state.processing cleanedId true }

def discard (cleanedId : UUID) : AnalysisState :=
  { state with processing := Function.update state.processing cleanedId false }

/-- The worker is over: it gives its slot back, and its article is not in flight. -/
def release (cleanedId : UUID) : AnalysisState :=
  { state.discard cleanedId with slots := state.slots + 1 }

def ack (answer : Answer) (messageId : MessageId) : AnalysisState :=
  { state with stream := ackApplied state.stream answer messageId }

end AnalysisState

/-! ## One message -/

/-- `_route` up to its first await. -/
def routeCleaned (config : EntityAnalysisConfig) (state : AnalysisState)
    (message : StreamMessage) : AnalysisState × AnalysisStage :=
  if message.outOfRetries config.maxRetry then
    (state, .publishDeadLetter .retriesExhausted)
  else
    match message.fields.getValidId with
    | none => (state, .publishDeadLetter .malformed)
    | some cleanedId =>
        -- `_process_one`
        if state.hkStockList = 0 then (state, .done)
        else if state.processing cleanedId then (state, .done)
        else (state.add cleanedId, .acquireSlot cleanedId)

/-- `_publish`, then the acknowledgement of `_analyse`. -/
def announce (cleanedId : UUID) : List UUID → AnalysisStage
  | [] => .ack cleanedId
  | entityEventId :: rest => .publish cleanedId entityEventId rest

/-- What an await gives back.  `entities` is what the skill found, `stamps` belong to
the entities that are stored, and `now` is the time of a dead letter. -/
structure AnalysisReply where
  answer : Answer
  order : RowOrder EntityEvent
  entities : List VerifiedEntity
  stamps : List EntityStamp
  now : Timestamp

/-- The dead letter is written as often as it takes. -/
def resumeDeadLetter (state : AnalysisState) (message : StreamMessage)
    (reason : DeadLetterReason) (reply : AnalysisReply) : AnalysisState × AnalysisStage :=
  ({ state with
      deadLetters := if reply.answer.applied
        then message.deadLetter reply.now :: state.deadLetters else state.deadLetters },
    match reply.answer with
    | .done => .ackDeadLetter reason
    | .unreachable _ => .publishDeadLetter reason
    | .failed _ => .done)

/-- A commit whose reply is lost stores the rows and fails. -/
def resumePersistEntities (state : AnalysisState) (cleanedId : UUID)
    (article : CleanedNews) (entities : List VerifiedEntity) (reply : AnalysisReply) :
    AnalysisState × AnalysisStage :=
  match persistEntities article state.entityEvents (entities.zip reply.stamps) with
  | none => (state.release cleanedId, .done)
  | some (rows, persisted) =>
      match reply.answer with
      | .done => ({ state with entityEvents := rows }, announce cleanedId persisted)
      | .unreachable applied | .failed applied =>
          ({ state with
              entityEvents := if applied then rows else state.entityEvents }.release
            cleanedId, .done)

def resumePublish (state : AnalysisState) (cleanedId entityEventId : UUID)
    (rest : List UUID) (answer : Answer) : AnalysisState × AnalysisStage :=
  let published := { state with
    completed := if answer.applied then entityEventId :: state.completed
      else state.completed }
  match answer with
  | .done => (published, announce cleanedId rest)
  | .unreachable _ => (published, .publish cleanedId entityEventId rest)
  | .failed _ => (published.release cleanedId, .done)

/-- Resumption of a task.  A new worker may first sleep through a backoff, which
only delays it. -/
def resumeStage (state : AnalysisState) (message : StreamMessage)
    (reply : AnalysisReply) : AnalysisStage → Option (AnalysisState × AnalysisStage)
  | .route => none
  | .publishDeadLetter reason => some (resumeDeadLetter state message reason reply)
  | .ackDeadLetter _ => some (state.ack reply.answer message.id, .done)
  | .acquireSlot cleanedId =>
      if 0 < state.slots then
        some ({ state with slots := state.slots - 1 }, .fetchCleanedNews cleanedId)
      else none
  | .fetchCleanedNews cleanedId =>
      if reply.answer = .done then
        match state.articles cleanedId with
        | none => some (state, .ack cleanedId)
        | some article => some (state, .fetchExistingIds cleanedId article)
      else some (state.release cleanedId, .done)
  | .fetchExistingIds cleanedId article =>
      if reply.answer = .done then
        match fetchEntityEventIdsBySourceUrl reply.order state.entityEvents
            article.sourceUrl with
        | [] => some (state, .runSkill cleanedId article)
        | existing :: rest => some (state, .publish cleanedId existing rest)
      else some (state.release cleanedId, .done)
  | .runSkill cleanedId article =>
      if reply.answer = .done then
        some (state, .persistEntities cleanedId article reply.entities)
      else some (state.release cleanedId, .done)
  | .persistEntities cleanedId article entities =>
      if entities.length = reply.stamps.length then
        some (resumePersistEntities state cleanedId article entities reply)
      else none
  | .publish cleanedId entityEventId rest =>
      some (resumePublish state cleanedId entityEventId rest reply.answer)
  | .ack cleanedId => some ((state.ack reply.answer message.id).release cleanedId, .done)
  | .done => none

/-! ## The machine -/

inductive AnalysisAction where
  /-- SADI stores a cleaned article. -/
  | storeArticle (article : CleanedNews)
  /-- A message is added to `stream:raw_news_cleaned`. -/
  | publish (messageId : MessageId) (fields : SignalFields)
  /-- `lost` says that the reply did not reach the loop. -/
  | read (count : Nat) (lost : Bool)
  | autoclaim (ids : List MessageId) (lost : Bool)
  | resumeReclaim (answer : Answer)
  | route (loop : LoopName) (index : Nat)
  | resume (loop : LoopName) (index : Nat) (reply : AnalysisReply)
  | endBatch (loop : LoopName)
  /-- `refresh_hk_stock_list` with the entries it parsed, none if it failed. -/
  | refreshStockList (entries : Nat)
  /-- The layer's loops are cancelled, and with them their tasks. -/
  | stop
  | crash

/-- The `finally` of a cancelled task. -/
def cancelTask (state : AnalysisState) (task : AnalysisTask) : AnalysisState :=
  match task.stage with
  | .acquireSlot cleanedId => state.discard cleanedId
  | .fetchCleanedNews cleanedId | .fetchExistingIds cleanedId _ | .runSkill cleanedId _
  | .persistEntities cleanedId _ _ | .publish cleanedId _ _ | .ack cleanedId =>
      state.release cleanedId
  | .route | .publishDeadLetter _ | .ackDeadLetter _ | .done => state

def cancelAnalysisLoop (state : AnalysisState) (loop : LoopName) : AnalysisState :=
  (match state.loops loop with
    | .batch tasks => tasks.foldl cancelTask state
    | .waiting => state
    | .pendingRange _ => state).setLoop loop .waiting

/-- `_route_batch`, which an empty batch skips. -/
def routeBatch : List StreamMessage → AnalysisLoop
  | [] => .waiting
  | message :: rest => .batch ((message :: rest).map fun message => ⟨message, .route⟩)

def analysisStep (config : EntityAnalysisConfig) (state : AnalysisState) :
    AnalysisAction → Option AnalysisState
  | .storeArticle article =>
      if (state.articles article.cleanedId).isSome then none
      else some { state with
        articles := Function.update state.articles article.cleanedId (some article) }
  | .publish messageId fields =>
      (state.stream.add messageId fields).map fun stream => { state with stream := stream }
  | .read count lost =>
      if state.loops .consumer = .waiting then
        let (messages, stream) := readFrom state.stream count
        some ({ state with stream := stream }.setLoop .consumer
          (if lost then .waiting else routeBatch messages))
      else none
  | .autoclaim ids lost =>
      if state.loops .reclaim = .waiting then
        let (claimed, stream) := state.stream.autoclaim ids
        some ({ state with stream := stream }.setLoop .reclaim
          (if lost || claimed.isEmpty then .waiting else .pendingRange claimed))
      else none
  | .resumeReclaim answer =>
      match state.loops .reclaim with
      | .pendingRange claimed => some (state.setLoop .reclaim
          (if answer = .done then routeBatch (reclaimed state.stream claimed) else .waiting))
      | .waiting => none
      | .batch _ => none
  | .route loop index =>
      match state.taskAt loop index with
      | some ⟨message, .route⟩ =>
          let (routed, stage) := routeCleaned config state message
          some (routed.setTask loop index ⟨message, stage⟩)
      | _ => none
  | .resume loop index reply =>
      (state.taskAt loop index).bind fun task =>
        (resumeStage state task.message reply task.stage).map fun (resumed, stage) =>
          resumed.setTask loop index ⟨task.message, stage⟩
  | .endBatch loop =>
      match state.loops loop with
      | .batch tasks =>
          if tasks.all fun task => decide (task.stage = .done) then
            some (state.setLoop loop .waiting)
          else none
      | .waiting => none
      | .pendingRange _ => none
  | .refreshStockList entries =>
      -- a failure, and a response without entries, keeps the list
      some { state with hkStockList := if entries = 0 then state.hkStockList else entries }
  | .stop => some (cancelAnalysisLoop (cancelAnalysisLoop state .consumer) .reclaim)
  | .crash => some { state with
      processing := fun _ => false
      slots := config.maxConcurrent
      hkStockList := 0
      loops := fun _ => .waiting }

def analysisMachine (config : EntityAnalysisConfig) :
    Machine AnalysisState AnalysisAction where
  init := fun state => state = AnalysisState.initial config
  step := analysisStep config

end WealthFinder.Pipeline
