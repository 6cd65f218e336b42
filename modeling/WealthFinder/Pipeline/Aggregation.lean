import WealthFinder.Machine
import WealthFinder.Pipeline.EventRepository
import WealthFinder.Pipeline.SlidingWindow

/-!
# The aggregation layer

`AggregationService` as a machine.  At most one merge of a group runs, on that
group's coroutine, and one flush, on the consumer loop; both suspend at every
database and Redis operation.  One action resumes a coroutine with the reply to
the operation it awaits and runs it to its next await.  A persisted batch is one
atomic transaction.
-/

set_option autoImplicit false

namespace WealthFinder.Pipeline

/-! ## Replies -/

/-- How an awaited operation ends.  `applied` says whether the server carried it
out although the caller sees an error; after `retried` it is attempted again. -/
inductive Outcome where
  | done
  | retried (applied : Bool)
  | failed (applied : Bool)
  deriving DecidableEq, Repr

def Outcome.applied : Outcome → Bool
  | .done => true
  | .retried applied => applied
  | .failed applied => applied

/-- What a resumed coroutine receives, and what the clock, `uuid4` and unordered
queries give it while it runs. -/
structure Reply where
  outcome : Outcome
  now : Timestamp
  eventId : UUID
  keys : List GroupKey
  env : PersistEnv
  rowOrder : RowOrder EventRow

/-! ## `_persist_and_publish` -/

/-- A transaction committed by `persist_events`, one Event each, or a message on
`stream:event_aggregated`. -/
inductive Record where
  | committed (event : Event)
  | announced (eventId : UUID)
  deriving DecidableEq, Repr

inductive PersistStage where
  | persistEvents
  | fetchUnpublished
  | publish (row : EventRow) (rest : List EventRow)
  | markPublished (row : EventRow) (rest : List EventRow)
  deriving DecidableEq

structure PersistTask where
  events : List Event
  stage : PersistStage
  deriving DecidableEq

/-- What the operations of `_persist_and_publish` work on.  `log` is newest
first. -/
structure Persisted where
  tables : EventTables
  log : List Record

inductive Progress where
  | running (task : PersistTask)
  | returned
  | raised
  deriving DecidableEq

/-- The loop over the pending Events, before its next turn. -/
def PersistTask.announceNext (task : PersistTask) : List EventRow → Progress
  | [] => .returned
  | row :: rest => .running { task with stage := .publish row rest }

def afterOperation (outcome : Outcome) (again next : Progress) : Progress :=
  match outcome with
  | .done => next
  | .retried _ => again
  | .failed _ => .raised

def resumePersistEvents (entityEvents : EntityEvents) (persisted : Persisted)
    (task : PersistTask) (reply : Reply) : Persisted × Progress :=
  match reply.outcome with
  | .retried _ => (persisted, .running task)  -- only BEGIN is attempted again
  | .failed false => (persisted, .raised)
  | outcome =>
      match persistEvents reply.env entityEvents persisted.tables task.events with
      | none => (persisted, .raised)
      | some (_, tables) =>
          (⟨tables, task.events.map Record.committed ++ persisted.log⟩,
            afterOperation outcome (.running task)
              (.running { task with stage := .fetchUnpublished }))

def resumePersist (entityEvents : EntityEvents) (persisted : Persisted)
    (task : PersistTask) (reply : Reply) : Persisted × Progress :=
  match task.stage with
  | .persistEvents => resumePersistEvents entityEvents persisted task reply
  | .fetchUnpublished =>
      (persisted, afterOperation reply.outcome (.running task)
        (task.announceNext (fetchUnpublishedEvents reply.rowOrder persisted.tables.events
          (task.events.map Event.eventId))))
  | .publish row rest =>
      ({ persisted with
          log := if reply.outcome.applied then .announced row.eventId :: persisted.log
            else persisted.log },
        afterOperation reply.outcome (.running task)
          (.running { task with stage := .markPublished row rest }))
  | .markPublished row rest =>
      ({ persisted with
          tables := if reply.outcome.applied then
              { persisted.tables with
                events := markPublished persisted.tables.events row.eventId
                  row.aggregationUpdatedAt }
            else persisted.tables },
        afterOperation reply.outcome (.running task) (task.announceNext rest))

/-! ## The layer -/

inductive MergeStage where
  | getActiveEvent
  | isMerged (active : Option ActiveEvent)
  | replace (active updated : ActiveEvent) (task : PersistTask)
  | upsert (active : Option ActiveEvent) (updated : ActiveEvent)
  | onSuccess
  | onFailure
  deriving DecidableEq

structure MergeTask where
  entityEvent : EntityEvent
  stage : MergeStage
  deriving DecidableEq

inductive FlushTask where
  | scan
  | read (key : GroupKey) (keys : List GroupKey) (activeEvents : List ActiveEvent)
  | persist (activeEvents : List ActiveEvent) (task : PersistTask)
  | record (activeEvents : List ActiveEvent)
  deriving DecidableEq

/-- `owner` is the group for which `uuid4` made an event_id; `store` holds the
`agg:event:*` keys. -/
structure AggregationState where
  entityEvents : EntityEvents
  persisted : Persisted
  store : GroupKey → Option ActiveEvent
  lastFlushed : UUID → Option Timestamp
  merges : GroupKey → Option MergeTask
  flush : Option FlushTask
  owner : UUID → Option GroupKey

namespace AggregationState

def initial : AggregationState where
  entityEvents := fun _ => none
  persisted := ⟨EventTables.empty, []⟩
  store := fun _ => none
  lastFlushed := fun _ => none
  merges := fun _ => none
  flush := none
  owner := fun _ => none

def setMerge (state : AggregationState) (group : GroupKey) (stage : MergeStage) :
    AggregationState :=
  { state with
    merges := Function.update state.merges group
      ((state.merges group).map fun task => { task with stage := stage }) }

end AggregationState

/-! ## `_merge` -/

/-- The rest of `_merge` once the active Event is read. -/
def afterGetActive (active : Option ActiveEvent) (entityEvent : EntityEvent) : MergeStage :=
  match active with
  | some current =>
      if entityEvent.entityEventId ∈ current.entityEventIds then .onSuccess
      else .isMerged (some current)
  | none => .isMerged none

/-- The rest of `_merge` once the merged Event is known. -/
def afterMerge (active : Option ActiveEvent) (updated : ActiveEvent) : MergeStage :=
  match active with
  | some current =>
      if updated.eventId ≠ current.eventId then
        .replace current updated ⟨[current.toEvent], .persistEvents⟩
      else .upsert (some current) updated
  | none => .upsert none updated

def lateFor (config : AggregationConfig) (active : Option ActiveEvent)
    (entityEvent : EntityEvent) : Bool :=
  active.any fun current => isLate config current entityEvent

/-- Resumption after `fetch_mapped_event_id`.  `uuid4` never repeats. -/
def resumeIsMerged (config : AggregationConfig) (state : AggregationState)
    (group : GroupKey) (entityEvent : EntityEvent) (active : Option ActiveEvent)
    (reply : Reply) : Option AggregationState :=
  match reply.outcome with
  | .failed _ => some (state.setMerge group .onFailure)
  | .retried _ => some state
  | .done =>
      if (fetchMappedEventId state.persisted.tables.entityMap
          entityEvent.entityEventId).isSome then
        some (state.setMerge group .onSuccess)
      else if lateFor config active entityEvent then
        some (state.setMerge group .onSuccess)
      else
        if (state.owner reply.eventId).isSome then none
        else
          let updated := mergeOrCreate config active entityEvent reply.now reply.eventId
          some { state.setMerge group (afterMerge active updated) with
            owner := Function.update state.owner updated.eventId (some group) }

def afterReplace (active updated : ActiveEvent) : Progress → MergeStage
  | .running task => .replace active updated task
  | .returned => .upsert (some active) updated
  | .raised => .onFailure

def resumeReplace (state : AggregationState) (group : GroupKey)
    (active updated : ActiveEvent) (task : PersistTask) (reply : Reply) :
    AggregationState :=
  let (persisted, progress) :=
    resumePersist state.entityEvents state.persisted task reply
  { state with persisted := persisted }.setMerge group
    (afterReplace active updated progress)

def resumeUpsert (state : AggregationState) (group : GroupKey)
    (active : Option ActiveEvent) (updated : ActiveEvent) (outcome : Outcome) :
    AggregationState :=
  { state with
    store := if outcome.applied then Function.update state.store updated.group (some updated)
      else state.store }.setMerge group
    (match outcome with
      | .done => .onSuccess
      | .retried _ => .upsert active updated
      | .failed _ => .onFailure)

def resumeMerge (config : AggregationConfig) (state : AggregationState)
    (group : GroupKey) (reply : Reply) : Option AggregationState :=
  (state.merges group).bind fun task =>
    match task.stage with
    | .getActiveEvent =>
        match reply.outcome with
        | .done => some (state.setMerge group
            (afterGetActive (state.store group) task.entityEvent))
        | .retried _ => some state
        | .failed _ => some (state.setMerge group .onFailure)
    | .isMerged active => resumeIsMerged config state group task.entityEvent active reply
    | .replace active updated persist =>
        some (resumeReplace state group active updated persist reply)
    | .upsert active updated => some (resumeUpsert state group active updated reply.outcome)
    | .onSuccess => none
    | .onFailure => none

/-! ## `flush` -/

/-- The active Events that changed since the last flush. -/
def changedSince (lastFlushed : UUID → Option Timestamp) (activeEvents : List ActiveEvent) :
    List ActiveEvent :=
  activeEvents.filter fun active =>
    lastFlushed active.eventId ≠ some active.aggregationUpdatedAt

/-- The rest of `flush` once the active Events are read. -/
def afterScan (lastFlushed : UUID → Option Timestamp) (activeEvents : List ActiveEvent) :
    FlushTask :=
  match changedSince lastFlushed activeEvents with
  | [] => .record activeEvents
  | changed => .persist activeEvents ⟨changed.map ActiveEvent.toEvent, .persistEvents⟩

def readNext (lastFlushed : UUID → Option Timestamp) (activeEvents : List ActiveEvent) :
    List GroupKey → FlushTask
  | [] => afterScan lastFlushed activeEvents
  | key :: keys => .read key keys activeEvents

/-- `{event.event_id: event.aggregation_updated_at ...}`. -/
def flushedVersions (activeEvents : List ActiveEvent) : UUID → Option Timestamp :=
  activeEvents.foldl
    (fun versions active =>
      Function.update versions active.eventId (some active.aggregationUpdatedAt))
    fun _ => none

def afterRead (outcome : Outcome) (again next : FlushTask) : Option FlushTask :=
  match outcome with
  | .done => some next
  | .retried _ => some again
  | .failed _ => none

def afterFlushPersist (activeEvents : List ActiveEvent) : Progress → Option FlushTask
  | .running task => some (.persist activeEvents task)
  | .returned => some (.record activeEvents)
  | .raised => none

/-- A flush that raises is logged and over. -/
def resumeFlush (state : AggregationState) (reply : Reply) : Option AggregationState :=
  state.flush.map fun task =>
    match task with
    | .scan => { state with
        flush := afterRead reply.outcome .scan
          (readNext state.lastFlushed [] reply.keys.dedup) }
    | .read key keys activeEvents => { state with
        flush := afterRead reply.outcome (.read key keys activeEvents)
          (readNext state.lastFlushed (activeEvents ++ (state.store key).toList) keys) }
    | .persist activeEvents persist =>
        let (persisted, progress) :=
          resumePersist state.entityEvents state.persisted persist reply
        { state with
          persisted := persisted
          flush := afterFlushPersist activeEvents progress }
    | .record activeEvents => { state with
        lastFlushed := flushedVersions activeEvents
        flush := none }

/-! ## The machine -/

inductive AggregationAction where
  /-- The Entity Analysis layer stores an EntityEvent. -/
  | storeEntityEvent (row : EntityEvent)
  /-- The coroutine of the EntityEvent's group starts its unit of work. -/
  | startMerge (entityEventId : UUID)
  | resumeMerge (group : GroupKey) (reply : Reply)
  /-- The callback of the merge has been made. -/
  | endMerge (group : GroupKey)
  | expire (group : GroupKey)
  | startFlush
  | resumeFlush (reply : Reply)
  /-- The layer stops; its groups keep running. -/
  | stopFlush
  | crash

def aggregationStep (config : AggregationConfig) (state : AggregationState) :
    AggregationAction → Option AggregationState
  | .storeEntityEvent row =>
      if (state.entityEvents row.entityEventId).isSome then none
      else some { state with
        entityEvents := Function.update state.entityEvents row.entityEventId (some row) }
  | .startMerge entityEventId =>
      (state.entityEvents entityEventId).bind fun row =>
        if (state.merges row.groupKey).isSome then none
        else some { state with
          merges := Function.update state.merges row.groupKey
            (some ⟨row, .getActiveEvent⟩) }
  | .resumeMerge group reply => resumeMerge config state group reply
  | .endMerge group =>
      (state.merges group).bind fun task =>
        if task.stage = .onSuccess ∨ task.stage = .onFailure then
          some { state with merges := Function.update state.merges group none }
        else none
  | .expire group => some { state with store := Function.update state.store group none }
  | .startFlush =>
      if state.flush.isSome then none else some { state with flush := some .scan }
  | .resumeFlush reply => resumeFlush state reply
  | .stopFlush => some { state with flush := none }
  | .crash => some { state with
      lastFlushed := fun _ => none
      merges := fun _ => none
      flush := none }

def aggregationMachine (config : AggregationConfig) :
    Machine AggregationState AggregationAction where
  init := fun state => state = AggregationState.initial
  step := aggregationStep config

/-! ## Concrete values for runs -/

def defaultAggregationConfig : AggregationConfig := ⟨100, 300, 3, 4, 24⟩

def reply (outcome : Outcome) (now : Timestamp) (eventId : UUID) : Reply :=
  ⟨outcome, now, eventId, [sampleGroup], ⟨RowOrder.stored EntityEvent, now, now⟩,
    RowOrder.stored EventRow⟩

/-- Every awaited operation of the merge, or of the flush, succeeds. -/
def mergeOn (steps : Nat) (now : Timestamp) (eventId : UUID) : List AggregationAction :=
  List.replicate steps (.resumeMerge sampleGroup (reply .done now eventId))

def flushOn (steps : Nat) : List AggregationAction :=
  List.replicate steps (.resumeFlush (reply .done 0 0))

end WealthFinder.Pipeline
