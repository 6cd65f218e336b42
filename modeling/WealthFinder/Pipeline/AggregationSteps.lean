import WealthFinder.Tables
import WealthFinder.Pipeline.Aggregation
import WealthFinder.Pipeline.PersistRules

/-!
# What one step of the aggregation layer can change

One relation for each coroutine says everything that a resumption can do.  The
invariants of the layer are case analyses of these relations.
-/

set_option autoImplicit false

namespace WealthFinder.Pipeline

/-! ## `_persist_and_publish` -/

inductive PersistStep (entityEvents : EntityEvents) (persisted : Persisted)
    (task : PersistTask) (reply : Reply) : Persisted → Progress → Prop where
  | again : PersistStep entityEvents persisted task reply persisted (.running task)
  | raised : PersistStep entityEvents persisted task reply persisted .raised
  | committed {tables : EventTables} {written : List EventRow} {progress : Progress}
      (at' : task.stage = .persistEvents)
      (ran : persistEvents reply.env entityEvents persisted.tables task.events =
        some (written, tables))
      (moved : progress = .running { task with stage := .fetchUnpublished } ∨
        progress = .raised) :
      PersistStep entityEvents persisted task reply
        ⟨tables, task.events.map Record.committed ++ persisted.log⟩ progress
  | fetched (at' : task.stage = .fetchUnpublished) :
      PersistStep entityEvents persisted task reply persisted
        (task.announceNext (fetchUnpublishedEvents reply.rowOrder persisted.tables.events
          (task.events.map Event.eventId)))
  | announced {row : EventRow} {rest : List EventRow} {progress : Progress}
      (at' : task.stage = .publish row rest)
      (moved : progress = .running { task with stage := .markPublished row rest } ∨
        progress = .running task ∨ progress = .raised) :
      PersistStep entityEvents persisted task reply
        { persisted with log := .announced row.eventId :: persisted.log } progress
  | marked {row : EventRow} {rest : List EventRow} {progress : Progress}
      (at' : task.stage = .markPublished row rest)
      (moved : progress = task.announceNext rest ∨ progress = .running task ∨
        progress = .raised) :
      PersistStep entityEvents persisted task reply
        { persisted with tables := { persisted.tables with
            events := markPublished persisted.tables.events row.eventId
              row.aggregationUpdatedAt } } progress

/-- The transaction of `persist_events` was committed. -/
def Committing (entityEvents : EntityEvents) (before after : EventTables)
    (events : List Event) : Prop :=
  ∃ env written, persistEvents env entityEvents before events = some (written, after)

/-- Every member of every Event is mapped, to whichever Event. -/
def Covers (tables : EventTables) (events : List Event) : Prop :=
  ∀ event ∈ events, ∀ id ∈ event.entityEventIds, ∃ mapping, tables.entityMap id = some mapping

/-- The Event's row is at least as new as the version. -/
def AtLeast (tables : EventTables) (eventId : UUID) (version : Timestamp) : Prop :=
  ∃ row, tables.events eventId = some row ∧ version ≤ row.aggregationUpdatedAt

namespace Committing
variable {entityEvents : EntityEvents} {before after : EventTables} {events : List Event}
  (committed : Committing entityEvents before after events)
include committed

theorem covers : Covers after events := by
  obtain ⟨env, written, ran⟩ := committed
  exact fun event member id => persistEvents_covered ran member

theorem atLeast {event : Event} (member : event ∈ events) :
    AtLeast after event.eventId event.aggregationUpdatedAt := by
  obtain ⟨env, written, ran⟩ := committed
  exact persistEvents_current ran member

end Committing

namespace PersistStep
variable {entityEvents : EntityEvents} {persisted next : Persisted} {task : PersistTask}
  {reply : Reply} {progress : Progress}

theorem member (moved : PersistStep entityEvents persisted task reply next progress)
    {eventId id : UUID} (old : Member persisted.tables eventId id) :
    Member next.tables eventId id := by
  cases moved with
  | committed _ ran => exact persistEvents_member ran old
  | again | raised | fetched | announced | marked => exact old

theorem new_member (moved : PersistStep entityEvents persisted task reply next progress)
    {eventId id : UUID} (new : Member next.tables eventId id) :
    Member persisted.tables eventId id ∨
      ∃ event ∈ task.events, event.eventId = eventId ∧ id ∈ event.entityEventIds := by
  cases moved with
  | committed _ ran => exact persistEvents_new_member ran new
  | again | raised | fetched | announced | marked => exact Or.inl new

theorem logged (moved : PersistStep entityEvents persisted task reply next progress)
    {event : Event} (new : Record.committed event ∈ next.log) :
    Record.committed event ∈ persisted.log ∨
      (event ∈ task.events ∧
        Committing entityEvents persisted.tables next.tables task.events) := by
  cases moved with
  | committed _ ran =>
      rcases List.mem_append.mp new with fresh | old
      · obtain ⟨other, member, same⟩ := List.mem_map.mp fresh
        cases same
        exact Or.inr ⟨member, reply.env, _, ran⟩
      · exact Or.inl old
  | announced =>
      rcases List.mem_cons.mp new with same | old
      · cases same
      · exact Or.inl old
  | again | raised | fetched | marked => exact Or.inl new

/-- A task keeps its Events and goes beyond the transaction only once it is
committed. -/
theorem running (moved : PersistStep entityEvents persisted task reply next progress)
    {later : PersistTask} (same : progress = .running later) :
    later.events = task.events ∧ (later.stage ≠ .persistEvents →
      task.stage ≠ .persistEvents ∨
        Committing entityEvents persisted.tables next.tables task.events) := by
  have kept (pending : List EventRow) (is : task.announceNext pending = .running later) :
      later.events = task.events := by
    cases pending with
    | nil => cases is
    | cons row rest => cases is; rfl
  cases moved with
  | again => cases same; exact ⟨rfl, Or.inl⟩
  | raised => cases same
  | committed _ ran moved =>
      rcases moved with rfl | rfl
      · cases same
        exact ⟨rfl, fun _ => Or.inr ⟨reply.env, _, ran⟩⟩
      · cases same
  | fetched at' => exact ⟨kept _ same, fun _ => Or.inl (by simp [at'])⟩
  | announced at' moved =>
      refine ⟨?_, fun _ => Or.inl (by simp [at'])⟩
      rcases moved with rfl | rfl | rfl <;> cases same <;> rfl
  | marked at' moved =>
      refine ⟨?_, fun _ => Or.inl (by simp [at'])⟩
      rcases moved with rfl | rfl | rfl
      · exact kept _ same
      · cases same; rfl
      · cases same

theorem returned (moved : PersistStep entityEvents persisted task reply next progress)
    (same : progress = .returned) : task.stage ≠ .persistEvents := by
  cases moved with
  | again | raised => cases same
  | committed _ _ moved => rcases moved with rfl | rfl <;> cases same
  | fetched at' => simp [at']
  | announced at' => simp [at']
  | marked at' => simp [at']

/-- Rows stay, and neither their version nor their mark goes back. -/
theorem row (moved : PersistStep entityEvents persisted task reply next progress)
    {eventId : UUID} {old : EventRow} (found : persisted.tables.events eventId = some old) :
    ∃ later, next.tables.events eventId = some later ∧
      old.aggregationUpdatedAt ≤ later.aggregationUpdatedAt ∧
      ∀ mark, old.publishedAggregationUpdatedAt = some mark →
        ∃ newer, later.publishedAggregationUpdatedAt = some newer ∧ mark ≤ newer := by
  cases moved with
  | committed _ ran =>
      obtain ⟨later, stored, -, -, marked, newer⟩ := persistEvents_row ran found
      exact ⟨later, stored, newer, fun mark is => ⟨mark, marked.trans is, Int.le_refl _⟩⟩
  | again | raised | fetched | announced =>
      exact ⟨old, found, Int.le_refl _, fun mark is => ⟨mark, is, Int.le_refl _⟩⟩
  | @marked row rest progress at' moved =>
      by_cases same : eventId = row.eventId
      · obtain ⟨version, mark, is, -, newer⟩ := old.mark_spec row.aggregationUpdatedAt
        refine ⟨old.mark row.aggregationUpdatedAt, by simp [markPublished, ← same, found],
          Int.le_of_eq version.symm, ?_⟩
        intro before was
        exact ⟨mark, is, newer before was⟩
      · exact ⟨old, by simpa [markPublished, same] using found, Int.le_refl _,
          fun mark is => ⟨mark, is, Int.le_refl _⟩⟩

theorem atLeast (moved : PersistStep entityEvents persisted task reply next progress)
    {eventId : UUID} {version : Timestamp} (old : AtLeast persisted.tables eventId version) :
    AtLeast next.tables eventId version := by
  obtain ⟨row, found, newer⟩ := old
  obtain ⟨later, stored, grown, -⟩ := moved.row found
  exact ⟨later, stored, Int.le_trans newer grown⟩

end PersistStep

theorem afterOperation_cases (outcome : Outcome) (again next : Progress) :
    (outcome = .done ∧ afterOperation outcome again next = next) ∨
    afterOperation outcome again next = again ∨
    afterOperation outcome again next = .raised := by
  cases outcome with
  | done => exact Or.inl ⟨rfl, rfl⟩
  | retried applied => exact Or.inr (Or.inl rfl)
  | failed applied => exact Or.inr (Or.inr rfl)

theorem not_done_of_not_applied {outcome : Outcome} (lost : outcome.applied = false) :
    outcome ≠ .done := by
  rintro rfl
  cases lost

theorem resumePersistEvents_step {entityEvents : EntityEvents} {persisted : Persisted}
    {task : PersistTask} {reply : Reply} (at' : task.stage = .persistEvents) :
    PersistStep entityEvents persisted task reply
      (resumePersistEvents entityEvents persisted task reply).1
      (resumePersistEvents entityEvents persisted task reply).2 := by
  unfold resumePersistEvents
  cases answered : reply.outcome with
  | retried applied => exact .again
  | done =>
      cases ran : persistEvents reply.env entityEvents persisted.tables task.events with
      | none => exact .raised
      | some result => exact .committed at' ran (Or.inl rfl)
  | failed applied =>
      cases applied with
      | false => exact .raised
      | true =>
          cases ran : persistEvents reply.env entityEvents persisted.tables task.events with
          | none => exact .raised
          | some result => exact .committed at' ran (Or.inr rfl)

theorem resumePersist_step (entityEvents : EntityEvents) (persisted : Persisted)
    (task : PersistTask) (reply : Reply) :
    PersistStep entityEvents persisted task reply
      (resumePersist entityEvents persisted task reply).1
      (resumePersist entityEvents persisted task reply).2 := by
  unfold resumePersist
  split
  · rename_i at'
    exact resumePersistEvents_step at'
  · rename_i at'
    rcases afterOperation_cases reply.outcome (.running task)
      (task.announceNext (fetchUnpublishedEvents reply.rowOrder persisted.tables.events
        (task.events.map Event.eventId))) with ⟨-, next⟩ | next | next <;> rw [next]
    · exact .fetched at'
    · exact .again
    · exact .raised
  · rename_i row rest at'
    cases applied : reply.outcome.applied with
    | true =>
        refine .announced at' ?_
        rcases afterOperation_cases reply.outcome (.running task)
          (.running { task with stage := .markPublished row rest }) with
          ⟨-, next⟩ | next | next
        · exact Or.inl next
        · exact Or.inr (Or.inl next)
        · exact Or.inr (Or.inr next)
    | false =>
        rcases afterOperation_cases reply.outcome (.running task)
          (.running { task with stage := .markPublished row rest }) with
          ⟨answered, -⟩ | next | next
        · exact absurd answered (not_done_of_not_applied applied)
        · simpa [next] using PersistStep.again
        · simpa [next] using PersistStep.raised
  · rename_i row rest at'
    cases applied : reply.outcome.applied with
    | true =>
        refine .marked at' ?_
        rcases afterOperation_cases reply.outcome (.running task) (task.announceNext rest) with
          ⟨-, next⟩ | next | next
        · exact Or.inl next
        · exact Or.inr (Or.inl next)
        · exact Or.inr (Or.inr next)
    | false =>
        rcases afterOperation_cases reply.outcome (.running task) (task.announceNext rest) with
          ⟨answered, -⟩ | next | next
        · exact absurd answered (not_done_of_not_applied applied)
        · simpa [next] using PersistStep.again
        · simpa [next] using PersistStep.raised

/-! ## `_merge` -/

section
variable (state : AggregationState) (group : GroupKey) (stage : MergeStage)

@[simp] theorem setMerge_entityEvents :
    (state.setMerge group stage).entityEvents = state.entityEvents := rfl

@[simp] theorem setMerge_persisted :
    (state.setMerge group stage).persisted = state.persisted := rfl

@[simp] theorem setMerge_store : (state.setMerge group stage).store = state.store := rfl

@[simp] theorem setMerge_lastFlushed :
    (state.setMerge group stage).lastFlushed = state.lastFlushed := rfl

@[simp] theorem setMerge_flush : (state.setMerge group stage).flush = state.flush := rfl

@[simp] theorem setMerge_owner : (state.setMerge group stage).owner = state.owner := rfl

/-- Only the acting merge moves. -/
theorem setMerge_running {task later : MergeTask} {other : GroupKey}
    (found : (state.setMerge group stage).merges other = some later)
    (running : state.merges group = some task) :
    (other = group ∧ later = { task with stage := stage }) ∨
      (other ≠ group ∧ state.merges other = some later) := by
  simp only [AggregationState.setMerge, running, Option.map_some] at found
  exact of_update_some found

end

inductive MergeStep (config : AggregationConfig) (state : AggregationState)
    (group : GroupKey) (task : MergeTask) (reply : Reply) : AggregationState → Prop where
  | again : MergeStep config state group task reply state
  | failed : MergeStep config state group task reply (state.setMerge group .onFailure)
  | read (at' : task.stage = .getActiveEvent) :
      MergeStep config state group task reply
        (state.setMerge group (afterGetActive (state.store group) task.entityEvent))
  | mapped {active : Option ActiveEvent} {mapping : EventEntityMap}
      (at' : task.stage = .isMerged active)
      (found : state.persisted.tables.entityMap task.entityEvent.entityEventId =
        some mapping) :
      MergeStep config state group task reply (state.setMerge group .onSuccess)
  | late {current : ActiveEvent} (at' : task.stage = .isMerged (some current))
      (tooLate : isLate config current task.entityEvent = true) :
      MergeStep config state group task reply (state.setMerge group .onSuccess)
  | merged {active : Option ActiveEvent} (at' : task.stage = .isMerged active)
      (answered : reply.outcome = .done)
      (unmapped : state.persisted.tables.entityMap task.entityEvent.entityEventId = none)
      (fresh : state.owner reply.eventId = none)
      (timely : lateFor config active task.entityEvent = false) :
      MergeStep config state group task reply
        { state.setMerge group (afterMerge active
            (mergeOrCreate config active task.entityEvent reply.now reply.eventId)) with
          owner := Function.update state.owner
            (mergeOrCreate config active task.entityEvent reply.now reply.eventId).eventId
            (some group) }
  | replacing {active updated : ActiveEvent} {persist : PersistTask}
      {persisted : Persisted} {progress : Progress}
      (at' : task.stage = .replace active updated persist)
      (moved : PersistStep state.entityEvents state.persisted persist reply
        persisted progress) :
      MergeStep config state group task reply
        ({ state with persisted := persisted }.setMerge group
          (afterReplace active updated progress))
  | stored {active : Option ActiveEvent} {updated : ActiveEvent} {next : MergeStage}
      (at' : task.stage = .upsert active updated)
      (applied : reply.outcome.applied = true)
      (moved : next = .onSuccess ∨ next = .upsert active updated ∨ next = .onFailure) :
      MergeStep config state group task reply
        ({ state with
          store := Function.update state.store updated.group (some updated) }.setMerge
          group next)

theorem setMerge_same {state : AggregationState} {group : GroupKey} {task : MergeTask}
    (running : state.merges group = some task) :
    state.setMerge group task.stage = state := by
  have merges : Function.update state.merges group (some task) = state.merges := by
    rw [← running, Function.update_eq_self]
  simp only [AggregationState.setMerge, running, Option.map_some]
  rw [merges]

theorem resumeMerge_step {config : AggregationConfig} {state after : AggregationState}
    {group : GroupKey} {reply : Reply}
    (moved : resumeMerge config state group reply = some after) :
    ∃ task, state.merges group = some task ∧
      MergeStep config state group task reply after := by
  obtain ⟨task, running, resumed⟩ := Option.bind_eq_some_iff.mp moved
  refine ⟨task, running, ?_⟩
  split at resumed
  · rename_i at'
    split at resumed <;> cases resumed
    · exact .read at'
    · exact .again
    · exact .failed
  · rename_i active at'
    unfold resumeIsMerged at resumed
    split at resumed
    · cases resumed
      exact .failed
    · cases resumed
      exact .again
    · rename_i answered
      split at resumed
      · rename_i found
        cases resumed
        obtain ⟨eventId, isMapped⟩ := Option.isSome_iff_exists.mp found
        obtain ⟨mapping, mapped, -⟩ := Option.map_eq_some_iff.mp isMapped
        exact .mapped at' mapped
      · rename_i unmapped
        split at resumed
        · rename_i tooLate
          cases resumed
          cases active with
          | none => cases tooLate
          | some current => exact .late at' tooLate
        · rename_i timely
          split at resumed
          · cases resumed
          · rename_i fresh
            cases resumed
            refine .merged at' answered ?_ (by simpa using fresh) (by simpa using timely)
            simpa [fetchMappedEventId] using unmapped
  · rename_i active updated persist at'
    cases resumed
    exact .replacing at' (resumePersist_step _ _ _ _)
  · rename_i active updated at'
    cases resumed
    unfold resumeUpsert
    cases applied : reply.outcome.applied with
    | true =>
        refine .stored at' applied ?_
        cases reply.outcome <;> simp
    | false =>
        cases answered : reply.outcome with
        | done => exact absurd answered (not_done_of_not_applied applied)
        | retried _ =>
            have same := setMerge_same running
            rw [at'] at same
            simpa [same] using MergeStep.again
        | failed _ =>
            simpa using MergeStep.failed
  · cases resumed
  · cases resumed

/-! ## `flush` -/

/-- The next key is read, nothing changed since the last flush, or the changed
Events are persisted. -/
theorem readNext_cases (lastFlushed : UUID → Option Timestamp)
    (activeEvents : List ActiveEvent) (keys : List GroupKey) :
    (∃ key rest, keys = key :: rest ∧
      readNext lastFlushed activeEvents keys = .read key rest activeEvents) ∨
    (keys = [] ∧ readNext lastFlushed activeEvents keys = .record activeEvents ∧
      ∀ active ∈ activeEvents,
        lastFlushed active.eventId = some active.aggregationUpdatedAt) ∨
    (keys = [] ∧ ∃ changed : List ActiveEvent,
      readNext lastFlushed activeEvents keys =
        .persist activeEvents ⟨changed.map ActiveEvent.toEvent, .persistEvents⟩ ∧
      (∀ active ∈ changed, active ∈ activeEvents) ∧
      ∀ active ∈ activeEvents, active ∈ changed ∨
        lastFlushed active.eventId = some active.aggregationUpdatedAt) := by
  have skipped (active : ActiveEvent) (read : active ∈ activeEvents) :
      active ∈ changedSince lastFlushed activeEvents ∨
        lastFlushed active.eventId = some active.aggregationUpdatedAt := by
    by_cases same : lastFlushed active.eventId = some active.aggregationUpdatedAt
    · exact Or.inr same
    · exact Or.inl (List.mem_filter.mpr ⟨read, by simpa using same⟩)
  cases keys with
  | cons key rest => exact Or.inl ⟨key, rest, rfl, rfl⟩
  | nil =>
      refine Or.inr ?_
      cases changed : changedSince lastFlushed activeEvents with
      | nil =>
          refine Or.inl ⟨rfl, by simp [readNext, afterScan, changed], ?_⟩
          intro active read
          have known := skipped active read
          simpa [changed] using known
      | cons first rest =>
          refine Or.inr ⟨rfl, first :: rest, by simp [readNext, afterScan, changed], ?_, ?_⟩
          · rw [← changed]
            exact fun active member => List.mem_of_mem_filter member
          · rw [← changed]
            exact skipped

/-- The fold of `flushedVersions`, from any versions. -/
theorem flushedVersions_folded {eventId : UUID} {version : Timestamp}
    (activeEvents : List ActiveEvent) (versions : UUID → Option Timestamp)
    (found : activeEvents.foldl
      (fun (versions : UUID → Option Timestamp) active =>
        Function.update versions active.eventId (some active.aggregationUpdatedAt))
      versions eventId = some version) :
    versions eventId = some version ∨ ∃ active ∈ activeEvents,
      active.eventId = eventId ∧ active.aggregationUpdatedAt = version := by
  induction activeEvents generalizing versions with
  | nil => exact Or.inl found
  | cons head rest ih =>
      rcases ih _ found with written | ⟨active, member, known⟩
      · rcases of_update_some written with ⟨same, newest⟩ | ⟨-, old⟩
        · exact Or.inr ⟨head, List.mem_cons_self, same.symm, newest.symm⟩
        · exact Or.inl old
      · exact Or.inr ⟨active, List.mem_cons_of_mem _ member, known⟩

theorem flushedVersions_some {activeEvents : List ActiveEvent} {eventId : UUID}
    {version : Timestamp} (found : flushedVersions activeEvents eventId = some version) :
    ∃ active ∈ activeEvents, active.eventId = eventId ∧
      active.aggregationUpdatedAt = version := by
  rcases flushedVersions_folded activeEvents _ found with impossible | known
  · cases impossible
  · exact known

inductive FlushStep (state : AggregationState) (task : FlushTask) (reply : Reply) :
    AggregationState → Prop where
  | again : FlushStep state task reply state
  | ended : FlushStep state task reply { state with flush := none }
  | scanned (at' : task = .scan) :
      FlushStep state task reply { state with
        flush := some (readNext state.lastFlushed [] reply.keys.dedup) }
  | read {key : GroupKey} {keys : List GroupKey} {activeEvents : List ActiveEvent}
      (at' : task = .read key keys activeEvents) :
      FlushStep state task reply { state with
        flush := some (readNext state.lastFlushed
          (activeEvents ++ (state.store key).toList) keys) }
  | persisting {activeEvents : List ActiveEvent} {persist : PersistTask}
      {persisted : Persisted} {progress : Progress}
      (at' : task = .persist activeEvents persist)
      (moved : PersistStep state.entityEvents state.persisted persist reply
        persisted progress) :
      FlushStep state task reply { state with
        persisted := persisted
        flush := afterFlushPersist activeEvents progress }
  | recorded {activeEvents : List ActiveEvent} (at' : task = .record activeEvents) :
      FlushStep state task reply { state with
        lastFlushed := flushedVersions activeEvents
        flush := none }

theorem resumeFlush_step {state after : AggregationState} {reply : Reply}
    (moved : resumeFlush state reply = some after) :
    ∃ task, state.flush = some task ∧ FlushStep state task reply after := by
  obtain ⟨task, running, rfl⟩ := Option.map_eq_some_iff.mp moved
  refine ⟨task, running, ?_⟩
  have same : { state with flush := some task } = state := by rw [← running]
  split
  · cases reply.outcome with
    | done => exact .scanned rfl
    | retried _ => simpa [afterRead, same] using FlushStep.again
    | failed _ => exact .ended
  · cases reply.outcome with
    | done => exact .read rfl
    | retried _ => simpa [afterRead, same] using FlushStep.again
    | failed _ => exact .ended
  · exact .persisting rfl (resumePersist_step _ _ _ _)
  · exact .recorded rfl

/-! ## The other actions -/

section
variable {config : AggregationConfig} {state after : AggregationState}

theorem storeEntityEvent_step {row : EntityEvent}
    (moved : aggregationStep config state (.storeEntityEvent row) = some after) :
    state.entityEvents row.entityEventId = none ∧ after = { state with
      entityEvents := Function.update state.entityEvents row.entityEventId (some row) } := by
  simp only [aggregationStep] at moved
  split at moved
  · cases moved
  · rename_i absent
    exact ⟨by simpa using absent, (Option.some.inj moved).symm⟩

theorem startMerge_step {id : UUID}
    (moved : aggregationStep config state (.startMerge id) = some after) :
    ∃ row, state.entityEvents id = some row ∧ after = { state with
      merges := Function.update state.merges row.groupKey (some ⟨row, .getActiveEvent⟩) } := by
  obtain ⟨row, found, started⟩ := Option.bind_eq_some_iff.mp moved
  split at started
  · cases started
  · exact ⟨row, found, (Option.some.inj started).symm⟩

theorem endMerge_step {group : GroupKey}
    (moved : aggregationStep config state (.endMerge group) = some after) :
    after = { state with merges := Function.update state.merges group none } := by
  obtain ⟨task, running, ended⟩ := Option.bind_eq_some_iff.mp moved
  split at ended
  · exact (Option.some.inj ended).symm
  · cases ended

theorem startFlush_step (moved : aggregationStep config state .startFlush = some after) :
    after = { state with flush := some .scan } := by
  simp only [aggregationStep] at moved
  split at moved
  · cases moved
  · exact (Option.some.inj moved).symm

/-- The new event_id is the active Event's own or was not in use. -/
theorem owner_kept {group : GroupKey} {active : Option ActiveEvent} {entityEvent : EntityEvent}
    {reply : Reply} (owned : ∀ current, active = some current →
      state.owner current.eventId = some group)
    (fresh : state.owner reply.eventId = none) {eventId : UUID} {other : GroupKey}
    (known : state.owner eventId = some other) :
    Function.update state.owner
      (mergeOrCreate config active entityEvent reply.now reply.eventId).eventId
      (some group) eventId = some other := by
  by_cases same :
      eventId = (mergeOrCreate config active entityEvent reply.now reply.eventId).eventId
  · rcases mergeOrCreate_cases config active entityEvent reply.now reply.eventId with
      ⟨current, rfl, -, is⟩ | is
    · rw [is] at same ⊢
      rw [same] at known
      rw [same, Function.update_self]
      exact (owned current rfl).symm.trans known
    · rw [same, is] at known
      cases fresh.symm.trans known
  · rw [Function.update_of_ne same]
    exact known

end

/-- The actions that start, move or end a merge. -/
def AggregationAction.ofMerge : AggregationAction → Bool
  | .startMerge _ | .resumeMerge _ _ | .endMerge _ | .crash => true
  | .storeEntityEvent _ | .expire _ | .startFlush | .resumeFlush _ | .stopFlush => false

/-- Flushes, expiries and new EntityEvents leave the merges alone and store no
Event. -/
theorem aggregationStep_frame {config : AggregationConfig} {state after : AggregationState}
    {action : AggregationAction} (apart : action.ofMerge = false)
    (moved : aggregationStep config state action = some after) :
    (∀ id row, state.entityEvents id = some row → after.entityEvents id = some row) ∧
    (∀ id row, after.entityEvents id = some row →
      state.entityEvents id = some row ∨ row.entityEventId = id) ∧
    (∀ key active, after.store key = some active → state.store key = some active) ∧
    after.merges = state.merges := by
  cases action with
  | startMerge | resumeMerge | endMerge | crash => cases apart
  | storeEntityEvent row =>
      obtain ⟨absent, rfl⟩ := storeEntityEvent_step moved
      refine ⟨?_, ?_, fun _ _ found => found, rfl⟩
      · intro id other found
        have different : id ≠ row.entityEventId := by
          intro same
          rw [same, absent] at found
          cases found
        exact (Function.update_of_ne different ..).trans found
      · intro id other found
        rcases of_update_some found with ⟨same, rfl⟩ | ⟨-, old⟩
        · exact Or.inr same.symm
        · exact Or.inl old
  | expire group =>
      cases moved
      refine ⟨fun _ _ found => found, fun _ _ found => Or.inl found, ?_, rfl⟩
      intro key active found
      exact (of_update_none found).2
  | startFlush =>
      cases startFlush_step moved
      exact ⟨fun _ _ found => found, fun _ _ found => Or.inl found,
        fun _ _ found => found, rfl⟩
  | resumeFlush reply =>
      obtain ⟨task, running, moved⟩ := resumeFlush_step moved
      cases moved <;> exact ⟨fun _ _ found => found, fun _ _ found => Or.inl found,
        fun _ _ found => found, rfl⟩
  | stopFlush =>
      cases moved
      exact ⟨fun _ _ found => found, fun _ _ found => Or.inl found,
        fun _ _ found => found, rfl⟩

end WealthFinder.Pipeline
