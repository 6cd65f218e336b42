import WealthFinder.Pipeline.Aggregation
import WealthFinder.Pipeline.StreamClient

/-!
# The aggregation consumer

`AggregationConsumer` and the group coroutines around the aggregation layer.  The
consumer loop and the reclaim loop each route one message at a time; a group runs
its units of work in order.  Each suspends at every await, and one action runs a
coroutine to its next await.
-/

set_option autoImplicit false

namespace WealthFinder.Pipeline

/-- What a group's coroutine is given to run: `_merge` of the EntityEvent with the
callbacks of one delivery. -/
structure Work where
  entityEvent : EntityEvent
  messageId : MessageId
  deriving DecidableEq

structure GroupCoroutine where
  queue : List Work
  running : Option Work
  deriving DecidableEq

/-- Where `_route` is suspended, `next` before it takes the next message. -/
inductive RouteStage where
  | next
  | publishDeadLetter (message : StreamMessage) (reason : DeadLetterReason)
  | ackDeadLetter (message : StreamMessage) (reason : DeadLetterReason)
  | fetchEntityEvent (entityEventId : UUID) (messageId : MessageId)
  | ackMissing (entityEventId : UUID) (messageId : MessageId)
  | acquirePermit (work : Work)
  deriving DecidableEq

/-- `pendingRange` is the second command of `autoclaim`; `rest` is the unrouted rest
of the batch. -/
inductive LoopTask where
  | waiting
  | pendingRange (claimed : List MessageId)
  | routing (stage : RouteStage) (rest : List StreamMessage)
  deriving DecidableEq

/-- `permits` are the free ones of the group semaphore. -/
structure ConsumerState where
  layer : AggregationState
  stream : SignalStream
  deadLetters : List DeadLetter
  enqueued : UUID → Bool
  groups : GroupKey → Option GroupCoroutine
  permits : Nat
  loops : LoopName → LoopTask

namespace ConsumerState

def initial (config : AggregationConfig) : ConsumerState where
  layer := AggregationState.initial
  stream := StreamGroup.empty
  deadLetters := []
  enqueued := fun _ => false
  groups := fun _ => none
  permits := config.maxConcurrent
  loops := fun _ => .waiting

variable (state : ConsumerState)

def setLoop (loop : LoopName) (task : LoopTask) : ConsumerState :=
  { state with loops := Function.update state.loops loop task }

def add (entityEventId : UUID) : ConsumerState :=
  { state with enqueued := Function.update state.enqueued entityEventId true }

def discard (entityEventId : UUID) : ConsumerState :=
  { state with enqueued := Function.update state.enqueued entityEventId false }

def setGroup (group : GroupKey) (coroutine : GroupCoroutine) : ConsumerState :=
  { state with groups := Function.update state.groups group (some coroutine) }

def ack (answer : Answer) (messageId : MessageId) : ConsumerState :=
  { state with stream := ackApplied state.stream answer messageId }

end ConsumerState

/-- Where a loop goes on with the rest of its batch. -/
def routeRest : List StreamMessage → LoopTask
  | [] => .waiting
  | message :: rest => .routing .next (message :: rest)

/-! ## `_route` -/

/-- `_route` up to its first await. -/
def route (config : AggregationConfig) (state : ConsumerState) (loop : LoopName)
    (message : StreamMessage) (rest : List StreamMessage) : ConsumerState :=
  if message.outOfRetries config.maxRetry then
    state.setLoop loop (.routing (.publishDeadLetter message .retriesExhausted) rest)
  else
    match message.fields.getValidId with
    | none => state.setLoop loop (.routing (.publishDeadLetter message .malformed) rest)
    | some entityEventId =>
        if state.enqueued entityEventId then state.setLoop loop (routeRest rest)
        else (state.add entityEventId).setLoop loop
          (.routing (.fetchEntityEvent entityEventId message.id) rest)

def resumePublishDeadLetter (state : ConsumerState) (loop : LoopName)
    (message : StreamMessage) (reason : DeadLetterReason) (rest : List StreamMessage)
    (answer : Answer) (now : Timestamp) : ConsumerState :=
  { state with
    deadLetters := if answer.applied then message.deadLetter now :: state.deadLetters
      else state.deadLetters }.setLoop loop
    (match answer with
      | .done => .routing (.ackDeadLetter message reason) rest
      | .unreachable _ => .routing (.publishDeadLetter message reason) rest
      | .failed _ => routeRest rest)

/-- An unreachable stream ends the loop's batch. -/
def afterAck (answer : Answer) (rest : List StreamMessage) : LoopTask :=
  match answer with
  | .done => routeRest rest
  | .unreachable _ => .waiting
  | .failed _ => routeRest rest

/-- `_get_group` and `enqueue`, once no permit has to be waited for. -/
def enqueueWork (state : ConsumerState) (work : Work) : Option ConsumerState :=
  match state.groups work.entityEvent.groupKey with
  | some group => some (state.setGroup work.entityEvent.groupKey
      { group with queue := group.queue ++ [work] })
  | none =>
      if 0 < state.permits then
        some ({ state with permits := state.permits - 1 }.setGroup
          work.entityEvent.groupKey ⟨[work], none⟩)
      else none

/-- Resumption after `fetch_entity_event`. -/
def resumeFetchEntityEvent (state : ConsumerState) (loop : LoopName)
    (entityEventId : UUID) (messageId : MessageId) (rest : List StreamMessage)
    (answer : Answer) : ConsumerState :=
  match answer with
  | .unreachable _ => state
  | .failed _ => (state.discard entityEventId).setLoop loop (routeRest rest)
  | .done =>
      match state.layer.entityEvents entityEventId with
      | none => (state.discard entityEventId).setLoop loop
          (.routing (.ackMissing entityEventId messageId) rest)
      | some entityEvent =>
          match enqueueWork state ⟨entityEvent, messageId⟩ with
          | some enqueued => enqueued.setLoop loop (routeRest rest)
          | none => state.setLoop loop
              (.routing (.acquirePermit ⟨entityEvent, messageId⟩) rest)

/-- A failed acknowledgement is handled as a failed hand-over. -/
def resumeAckMissing (state : ConsumerState) (loop : LoopName) (entityEventId : UUID)
    (messageId : MessageId) (rest : List StreamMessage) (answer : Answer) :
    ConsumerState :=
  let acked := state.ack answer messageId
  (match answer with
    | .done => acked
    | .unreachable _ => acked.discard entityEventId
    | .failed _ => acked.discard entityEventId).setLoop loop (afterAck answer rest)

/-- `now` is what the clock reads for a dead letter. -/
def resumeLoop (state : ConsumerState) (loop : LoopName) (answer : Answer)
    (now : Timestamp) : Option ConsumerState :=
  match state.loops loop with
  | .waiting => none
  | .pendingRange claimed =>
      match answer with
      | .done => some (state.setLoop loop (routeRest (reclaimed state.stream claimed)))
      | .unreachable _ => some (state.setLoop loop .waiting)
      | .failed _ => some (state.setLoop loop .waiting)
  | .routing stage rest =>
      match stage with
      | .next => none
      | .publishDeadLetter message reason =>
          some (resumePublishDeadLetter state loop message reason rest answer now)
      | .ackDeadLetter message _ =>
          some ((state.ack answer message.id).setLoop loop (afterAck answer rest))
      | .fetchEntityEvent entityEventId messageId =>
          some (resumeFetchEntityEvent state loop entityEventId messageId rest answer)
      | .ackMissing entityEventId messageId =>
          some (resumeAckMissing state loop entityEventId messageId rest answer)
      | .acquirePermit work =>
          -- resumes with a permit, which a group that has started meanwhile gives back
          if 0 < state.permits then
            (enqueueWork state work).map (·.setLoop loop (routeRest rest))
          else none

/-! ## The group coroutines -/

def startWork (config : AggregationConfig) (state : ConsumerState) (group : GroupKey) :
    Option ConsumerState :=
  (state.groups group).bind fun coroutine =>
    match coroutine.running, coroutine.queue with
    | none, work :: queue =>
        (aggregationStep config state.layer
          (.startMerge work.entityEvent.entityEventId)).map fun layer =>
            { state with layer := layer }.setGroup group ⟨queue, some work⟩
    | _, _ => none

def endWork (state : ConsumerState) (group : GroupKey) (coroutine : GroupCoroutine) :
    ConsumerState :=
  { state with
    layer := { state.layer with
      merges := Function.update state.layer.merges group none } }.setGroup
    group { coroutine with running := none }

/-- The merge goes on; once its outcome is known it calls back, `on_success` up to
its acknowledgement. -/
def resumeWork (config : AggregationConfig) (state : ConsumerState) (group : GroupKey)
    (reply : Reply) : Option ConsumerState :=
  (state.groups group).bind fun coroutine =>
    coroutine.running.bind fun work =>
      (aggregationStep config state.layer (.resumeMerge group reply)).map fun layer =>
        match (layer.merges group).map MergeTask.stage with
        | some .onSuccess =>
            { state with layer := layer }.discard work.entityEvent.entityEventId
        | some .onFailure =>
            endWork ({ state with layer := layer }.discard work.entityEvent.entityEventId)
              group coroutine
        | _ => { state with layer := layer }

/-- Resumption after the acknowledgement of `on_success`, whose failure `_merge`
reports by `on_failure`. -/
def resumeAck (state : ConsumerState) (group : GroupKey) (answer : Answer) :
    Option ConsumerState :=
  (state.groups group).bind fun coroutine =>
    coroutine.running.bind fun work =>
      if (state.layer.merges group).map MergeTask.stage = some .onSuccess then
        let acked := state.ack answer work.messageId
        some (endWork
          (match answer with
            | .done => acked
            | .unreachable _ => acked.discard work.entityEvent.entityEventId
            | .failed _ => acked.discard work.entityEvent.entityEventId) group coroutine)
      else none

/-- The idle timeout of a group with nothing to run. -/
def idleOut (state : ConsumerState) (group : GroupKey) : Option ConsumerState :=
  match state.groups group with
  | some ⟨[], none⟩ => some { state with
      groups := Function.update state.groups group none
      permits := state.permits + 1 }
  | _ => none

/-! ## The machine -/

inductive ConsumerAction where
  /-- The Entity Analysis layer stores an EntityEvent. -/
  | storeEntityEvent (row : EntityEvent)
  /-- A message is added to `stream:entity_event_completed`. -/
  | publish (messageId : MessageId) (fields : SignalFields)
  /-- `lost` says that the reply did not reach the loop. -/
  | read (count : Nat) (lost : Bool)
  | autoclaim (ids : List MessageId) (lost : Bool)
  | route (loop : LoopName)
  | resumeLoop (loop : LoopName) (answer : Answer) (now : Timestamp)
  | startWork (group : GroupKey)
  | resumeWork (group : GroupKey) (reply : Reply)
  | resumeAck (group : GroupKey) (answer : Answer)
  | idleOut (group : GroupKey)
  | expire (group : GroupKey)
  | startFlush
  | resumeFlush (reply : Reply)
  /-- The layer's loops are cancelled; its groups keep running. -/
  | stop
  | crash

/-- A cancelled loop discards the EntityEvent that it has not handed over. -/
def cancelLoop (state : ConsumerState) (loop : LoopName) : ConsumerState :=
  (match state.loops loop with
    | .routing (.fetchEntityEvent entityEventId _) _ => state.discard entityEventId
    | .routing (.ackMissing entityEventId _) _ => state.discard entityEventId
    | .routing (.acquirePermit work) _ => state.discard work.entityEvent.entityEventId
    | _ => state).setLoop loop .waiting

def onLayer (config : AggregationConfig) (state : ConsumerState)
    (action : AggregationAction) : Option ConsumerState :=
  (aggregationStep config state.layer action).map fun layer => { state with layer := layer }

def consumerStep (config : AggregationConfig) (state : ConsumerState) :
    ConsumerAction → Option ConsumerState
  | .storeEntityEvent row => onLayer config state (.storeEntityEvent row)
  | .publish messageId fields =>
      (state.stream.add messageId fields).map fun stream => { state with stream := stream }
  | .read count lost =>
      if state.loops .consumer = .waiting ∧ state.layer.flush = none then
        let (messages, stream) := readFrom state.stream count
        some ({ state with stream := stream }.setLoop .consumer
          (if lost then .waiting else routeRest messages))
      else none
  | .autoclaim ids lost =>
      if state.loops .reclaim = .waiting then
        let (claimed, stream) := state.stream.autoclaim ids
        some ({ state with stream := stream }.setLoop .reclaim
          (if lost || claimed.isEmpty then .waiting else .pendingRange claimed))
      else none
  | .route loop =>
      match state.loops loop with
      | .routing .next (message :: rest) => some (route config state loop message rest)
      | _ => none
  | .resumeLoop loop answer now => resumeLoop state loop answer now
  | .startWork group => startWork config state group
  | .resumeWork group reply => resumeWork config state group reply
  | .resumeAck group answer => resumeAck state group answer
  | .idleOut group => idleOut state group
  | .expire group => onLayer config state (.expire group)
  | .startFlush =>
      if state.loops .consumer = .waiting then onLayer config state .startFlush else none
  | .resumeFlush reply => onLayer config state (.resumeFlush reply)
  | .stop => onLayer config (cancelLoop (cancelLoop state .consumer) .reclaim) .stopFlush
  | .crash => (onLayer config state .crash).map fun crashed => { crashed with
      enqueued := fun _ => false
      groups := fun _ => none
      permits := config.maxConcurrent
      loops := fun _ => .waiting }

def consumerMachine (config : AggregationConfig) : Machine ConsumerState ConsumerAction where
  init := fun state => state = ConsumerState.initial config
  step := consumerStep config

end WealthFinder.Pipeline
