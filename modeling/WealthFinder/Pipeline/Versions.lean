import WealthFinder.Pipeline.AggregationSteps

/-!
# Versions of an Event

An Event's versions are the values its group's key has held.  When a version
stored over another has a later stamp, the stored one is the newest, a version is
known by its stamp, and every `events` row was written from a version.
-/

set_option autoImplicit false

namespace WealthFinder.Pipeline

open Machine

/-- The active Event is, or once was, what its group's key holds. -/
def WasStored (past : List AggregationState) (state : AggregationState)
    (active : ActiveEvent) : Prop :=
  Once (fun earlier => earlier.store active.group = some active) past state

/-- A version stored over the active Event that it extends has a later stamp. -/
def stampsIncrease (state : AggregationState) : AggregationAction → Prop
  | .resumeMerge group reply => ∀ entityEvent current updated,
      state.merges group = some ⟨entityEvent, .upsert (some current) updated⟩ →
      updated.eventId = current.eventId → reply.outcome.applied = true →
      current.aggregationUpdatedAt < updated.aggregationUpdatedAt
  | _ => True

/-! ## The invariant -/

/-- The row was written from a version of its Event. -/
def RowSound (stored : ActiveEvent → Prop) (entityEvents : EntityEvents) (eventId : UUID)
    (row : EventRow) : Prop :=
  ∃ version, stored version ∧ version.eventId = eventId ∧
    WrittenFrom entityEvents version.toEvent row

structure StoreSound (past : List AggregationState) (state : AggregationState) : Prop where
  keys : ∀ group active, state.store group = some active → active.group = group
  owner : ∀ active, WasStored past state active →
    state.owner active.eventId = some active.group
  constituents : ∀ active, WasStored past state active →
    ∀ id ∈ active.entityEventIds, (state.entityEvents id).isSome
  newest : ∀ group active, state.store group = some active →
    ∀ version, WasStored past state version → version.eventId = active.eventId →
      version.aggregationUpdatedAt ≤ active.aggregationUpdatedAt
  unique : ∀ first second, WasStored past state first → WasStored past state second →
    first.eventId = second.eventId →
    first.aggregationUpdatedAt = second.aggregationUpdatedAt → first = second

/-- The version that a merge has read is still its Event's newest. -/
structure Newest (past : List AggregationState) (state : AggregationState)
    (group : GroupKey) (active : ActiveEvent) : Prop where
  ofKey : active.group = group
  stored : WasStored past state active
  newest : ∀ version, WasStored past state version → version.eventId = active.eventId →
    version.aggregationUpdatedAt ≤ active.aggregationUpdatedAt

/-- The merged Event that is about to be stored follows every version of its
Event. -/
structure NextVersion (past : List AggregationState) (state : AggregationState)
    (group : GroupKey) (active : Option ActiveEvent) (updated : ActiveEvent) : Prop where
  ofKey : updated.group = group
  owner : state.owner updated.eventId = some group
  constituents : ∀ id ∈ updated.entityEventIds, (state.entityEvents id).isSome
  follows : ∀ version, WasStored past state version → version.eventId = updated.eventId →
    version = updated ∨ ∃ current, active = some current ∧
      updated.eventId = current.eventId ∧
      version.aggregationUpdatedAt ≤ current.aggregationUpdatedAt

/-- The Events of the task are versions, and once past the transaction their
rows are at least as new. -/
structure PersistVersions (past : List AggregationState) (state : AggregationState)
    (task : PersistTask) : Prop where
  stored : ∀ event ∈ task.events, ∃ version, WasStored past state version ∧
    version.toEvent = event
  written : task.stage ≠ .persistEvents → ∀ event ∈ task.events,
    AtLeast state.persisted.tables event.eventId event.aggregationUpdatedAt

def StageVersions (past : List AggregationState) (state : AggregationState)
    (group : GroupKey) : MergeStage → Prop
  | .getActiveEvent => True
  | .isMerged active =>
      (∀ stored, state.store group = some stored → active = some stored) ∧
      ∀ current, active = some current → Newest past state group current
  | .replace active updated persist =>
      (∀ stored, state.store group = some stored → active = stored) ∧
      Newest past state group active ∧ NextVersion past state group (some active) updated ∧
      updated.eventId ≠ active.eventId ∧ persist.events = [active.toEvent] ∧
      PersistVersions past state persist
  | .upsert active updated => NextVersion past state group active updated
  | .onSuccess => True
  | .onFailure => True

structure TaskVersions (past : List AggregationState) (state : AggregationState)
    (group : GroupKey) (task : MergeTask) : Prop where
  row : state.entityEvents task.entityEvent.entityEventId = some task.entityEvent
  ofKey : task.entityEvent.groupKey = group
  stage : StageVersions past state group task.stage

def FlushVersions (past : List AggregationState) (state : AggregationState) :
    FlushTask → Prop
  | .scan => True
  | .read _ _ activeEvents => ∀ active ∈ activeEvents, WasStored past state active
  | .persist activeEvents task => PersistVersions past state task ∧
      ∀ active ∈ activeEvents, active.toEvent ∈ task.events ∨
        state.lastFlushed active.eventId = some active.aggregationUpdatedAt
  | .record activeEvents => ∀ active ∈ activeEvents,
      AtLeast state.persisted.tables active.eventId active.aggregationUpdatedAt

structure VersionSound (past : List AggregationState) (state : AggregationState) :
    Prop where
  keyed : ∀ id row, state.entityEvents id = some row → row.entityEventId = id
  store : StoreSound past state
  rows : ∀ eventId row, state.persisted.tables.events eventId = some row →
    RowSound (WasStored past state) state.entityEvents eventId row
  lastFlushed : ∀ eventId version, state.lastFlushed eventId = some version →
    AtLeast state.persisted.tables eventId version
  merges : ∀ group task, state.merges group = some task → TaskVersions past state group task
  flush : ∀ task, state.flush = some task → FlushVersions past state task

theorem not_wasStored_initial (active : ActiveEvent) :
    ¬ WasStored [] AggregationState.initial active := by
  rintro (found | ⟨_, member, _⟩)
  · cases found
  · cases member

theorem versionSound_initial : VersionSound [] AggregationState.initial where
  keyed := by intro _ _ found; cases found
  store :=
    { keys := by intro _ _ found; cases found
      owner := fun _ stored => absurd stored (not_wasStored_initial _)
      constituents := fun _ stored => absurd stored (not_wasStored_initial _)
      newest := by intro _ _ found; cases found
      unique := fun _ _ stored => absurd stored (not_wasStored_initial _) }
  rows := by intro _ _ found; cases found
  lastFlushed := by intro _ _ found; cases found
  merges := by intro _ _ running; cases running
  flush := by intro _ running; cases running

/-! ## What every step respects -/

/-- New versions are of the acting group's Events, and no other group's key is
written. -/
structure VersionFrame (acting : Option GroupKey) (past : List AggregationState)
    (before after : AggregationState) : Prop where
  entityEvents : ∀ id row, before.entityEvents id = some row →
    after.entityEvents id = some row
  owner : ∀ eventId group, before.owner eventId = some group →
    after.owner eventId = some group
  atLeast : ∀ eventId version, AtLeast before.persisted.tables eventId version →
    AtLeast after.persisted.tables eventId version
  new : ∀ active, WasStored (before :: past) after active →
    WasStored past before active ∨
      ∃ group, acting = some group ∧ before.owner active.eventId = some group
  store : ∀ group, acting ≠ some group → ∀ stored, after.store group = some stored →
    before.store group = some stored

theorem wasStored_of_store {past : List AggregationState} {before after : AggregationState}
    (store : ∀ group stored, after.store group = some stored →
      before.store group = some stored) {active : ActiveEvent}
    (stored : WasStored (before :: past) after active) : WasStored past before active := by
  rcases stored with now | ⟨earlier, member, found⟩
  · exact Or.inl (store _ _ now)
  · rcases List.mem_cons.mp member with same | member
    · exact Or.inl (same ▸ found)
    · exact Or.inr ⟨earlier, member, found⟩

/-- A step that writes neither rows nor keys. -/
theorem VersionFrame.of_same {acting : Option GroupKey} {past : List AggregationState}
    {before after : AggregationState} (entityEvents : after.entityEvents = before.entityEvents)
    (owner : after.owner = before.owner) (persisted : after.persisted = before.persisted)
    (store : after.store = before.store) : VersionFrame acting past before after := by
  constructor
  · rw [entityEvents]
    exact fun _ _ found => found
  · rw [owner]
    exact fun _ _ known => known
  · rw [persisted]
    exact fun _ _ known => known
  · intro active stored
    exact Or.inl (wasStored_of_store (by rw [store]; exact fun _ _ found => found) stored)
  · rw [store]
    exact fun _ _ _ found => found

theorem PersistVersions.framed {acting : Option GroupKey} {past : List AggregationState}
    {before after : AggregationState} (frame : VersionFrame acting past before after)
    {task : PersistTask} (sound : PersistVersions past before task) :
    PersistVersions (before :: past) after task where
  stored := by
    intro event member
    obtain ⟨version, stored, same⟩ := sound.stored event member
    exact ⟨version, stored.later, same⟩
  written := fun beyond event member => frame.atLeast _ _ (sound.written beyond event member)

section Frame
variable {acting : Option GroupKey} {past : List AggregationState}
  {before after : AggregationState} (frame : VersionFrame acting past before after)
  {group : GroupKey} (apart : acting ≠ some group)
include frame apart

/-- An Event of another group gets no new version. -/
theorem VersionFrame.old {eventId : UUID} (owner : before.owner eventId = some group)
    {version : ActiveEvent} (stored : WasStored (before :: past) after version)
    (same : version.eventId = eventId) : WasStored past before version := by
  rcases frame.new version stored with old | ⟨other, isActing, owned⟩
  · exact old
  · rw [same, owner, Option.some.injEq] at owned
    exact absurd (owned ▸ isActing) apart

theorem Newest.framed {active : ActiveEvent}
    (owner : before.owner active.eventId = some group)
    (newest : Newest past before group active) : Newest (before :: past) after group active where
  ofKey := newest.ofKey
  stored := newest.stored.later
  newest := fun version stored same =>
    newest.newest version (frame.old apart owner stored same) same

theorem NextVersion.framed {active : Option ActiveEvent} {updated : ActiveEvent}
    (next : NextVersion past before group active updated) :
    NextVersion (before :: past) after group active updated where
  ofKey := next.ofKey
  owner := frame.owner _ _ next.owner
  constituents := by
    intro id listed
    obtain ⟨row, found⟩ := Option.isSome_iff_exists.mp (next.constituents id listed)
    exact Option.isSome_iff_exists.mpr ⟨row, frame.entityEvents id row found⟩
  follows := fun version stored same =>
    next.follows version (frame.old apart next.owner stored same) same

theorem TaskVersions.framed {task : MergeTask} (store : StoreSound past before)
    (sound : TaskVersions past before group task) :
    TaskVersions (before :: past) after group task where
  row := frame.entityEvents _ _ sound.row
  ofKey := sound.ofKey
  stage := by
    have held := sound.stage
    have owned (active : ActiveEvent) (newest : Newest past before group active) :
        before.owner active.eventId = some group := by
      rw [store.owner active newest.stored, newest.ofKey]
    cases stage : task.stage with
    | getActiveEvent | onSuccess | onFailure => trivial
    | isMerged active =>
        rw [stage] at held
        refine ⟨fun stored found => held.1 stored (frame.store group apart stored found), ?_⟩
        intro current same
        exact (held.2 current same).framed frame apart (owned current (held.2 current same))
    | upsert active updated =>
        rw [stage] at held
        exact NextVersion.framed frame apart held
    | replace active updated persist =>
        rw [stage] at held
        obtain ⟨seen, newest, next, different, events, versions⟩ := held
        exact ⟨fun stored found => seen stored (frame.store group apart stored found),
          newest.framed frame apart (owned active newest), next.framed frame apart, different,
          events, versions.framed frame⟩

end Frame

section Frame
variable {acting : Option GroupKey} {past : List AggregationState}
  {before after : AggregationState} (frame : VersionFrame acting past before after)
include frame

theorem FlushVersions.framed {task : FlushTask} (sound : FlushVersions past before task)
    (lastFlushed : after.lastFlushed = before.lastFlushed) :
    FlushVersions (before :: past) after task := by
  cases task with
  | scan => trivial
  | read key keys activeEvents => exact fun active member => (sound active member).later
  | persist activeEvents task =>
      refine ⟨sound.1.framed frame, ?_⟩
      rw [lastFlushed]
      exact sound.2
  | record activeEvents => exact fun active member => frame.atLeast _ _ (sound active member)

theorem RowSound.framed {eventId : UUID} {row : EventRow} (store : StoreSound past before)
    (sound : RowSound (WasStored past before) before.entityEvents eventId row) :
    RowSound (WasStored (before :: past) after) after.entityEvents eventId row := by
  obtain ⟨version, stored, same, written⟩ := sound
  refine ⟨version, stored.later, same, written.congr ?_⟩
  intro id listed
  obtain ⟨found, present⟩ :=
    Option.isSome_iff_exists.mp (store.constituents version stored id listed)
  rw [present, frame.entityEvents id found present]

/-- The coroutines that moved and the rows that were written are left to be shown
sound. -/
theorem VersionSound.stepped (sound : VersionSound past before)
    (store : StoreSound (before :: past) after)
    (keyed : ∀ id row, after.entityEvents id = some row → row.entityEventId = id)
    (rows : ∀ eventId row, after.persisted.tables.events eventId = some row →
      before.persisted.tables.events eventId = some row ∨
      RowSound (WasStored (before :: past) after) after.entityEvents eventId row)
    (lastFlushed : ∀ eventId version, after.lastFlushed eventId = some version →
      before.lastFlushed eventId = some version ∨
      AtLeast after.persisted.tables eventId version)
    (merges : ∀ group task, after.merges group = some task →
      (acting ≠ some group ∧ before.merges group = some task) ∨
      TaskVersions (before :: past) after group task)
    (flush : ∀ task, after.flush = some task →
      (before.flush = some task ∧ after.lastFlushed = before.lastFlushed) ∨
      FlushVersions (before :: past) after task) : VersionSound (before :: past) after where
  keyed := keyed
  store := store
  rows := by
    intro eventId row found
    rcases rows eventId row found with old | new
    · exact (sound.rows eventId row old).framed frame sound.store
    · exact new
  lastFlushed := by
    intro eventId version found
    rcases lastFlushed eventId version found with old | new
    · exact frame.atLeast _ _ (sound.lastFlushed eventId version old)
    · exact new
  merges := by
    intro group task running
    rcases merges group task running with ⟨apart, old⟩ | new
    · exact (sound.merges group task old).framed frame apart sound.store
    · exact new
  flush := by
    intro task running
    rcases flush task running with ⟨old, same⟩ | new
    · exact (sound.flush task old).framed frame same
    · exact new

end Frame

/-- A step that stores nothing keeps what is known of the versions. -/
theorem StoreSound.quiet {past : List AggregationState} {before after : AggregationState}
    (sound : StoreSound past before) (frame : VersionFrame none past before after) :
    StoreSound (before :: past) after := by
  have old (active : ActiveEvent) (stored : WasStored (before :: past) after active) :
      WasStored past before active := by
    rcases frame.new active stored with old | ⟨_, impossible, _⟩
    · exact old
    · cases impossible
  constructor
  · intro group active found
    exact sound.keys group active (frame.store group (by simp) active found)
  · intro active stored
    exact frame.owner _ _ (sound.owner active (old active stored))
  · intro active stored id listed
    obtain ⟨row, found⟩ :=
      Option.isSome_iff_exists.mp (sound.constituents active (old active stored) id listed)
    exact Option.isSome_iff_exists.mpr ⟨row, frame.entityEvents id row found⟩
  · intro group active found version stored same
    exact sound.newest group active (frame.store group (by simp) active found) version
      (old version stored) same
  · intro first second firstStored secondStored
    exact sound.unique first second (old first firstStored) (old second secondStored)

/-! ## Persisting -/

/-- `persist_events` writes rows from the versions it is given. -/
theorem PersistStep.rowSound {stored : ActiveEvent → Prop} {entityEvents : EntityEvents}
    {persisted next : Persisted} {task : PersistTask} {reply : Reply} {progress : Progress}
    (moved : PersistStep entityEvents persisted task reply next progress)
    (events : ∀ event ∈ task.events, ∃ version, stored version ∧ version.toEvent = event)
    (groups : ∀ first second, stored first → stored second →
      first.eventId = second.eventId → first.group = second.group)
    (rows : ∀ eventId row, persisted.tables.events eventId = some row →
      RowSound stored entityEvents eventId row) :
    ∀ eventId row, next.tables.events eventId = some row →
      RowSound stored entityEvents eventId row := by
  cases moved with
  | again | raised | fetched | announced => exact rows
  | committed _ ran =>
      refine @persistEvents_invariant reply.env entityEvents
        (fun tables => ∀ eventId row, tables.events eventId = some row →
          RowSound stored entityEvents eventId row) task.events ?_ _ _ _ ran rows
      intro event member before after persisted sound eventId row found
      by_cases same : eventId = event.eventId
      · subst same
        obtain ⟨version, isStored, rfl⟩ := events event member
        obtain ⟨excluded, latest, proposed, latestFound, upserted⟩ := persisted.row
        rw [found, Option.some.injEq] at latestFound
        subst latestFound
        have identity : ∀ old, before.events version.eventId = some old →
            old.eventId = version.eventId ∧ old.group = version.group := by
          intro old oldFound
          obtain ⟨other, otherStored, sameEvent, written⟩ := sound _ old oldFound
          obtain ⟨oldId, oldGroup, -⟩ := written.fields
          exact ⟨oldId.trans sameEvent,
            oldGroup.trans (groups other version otherStored isStored sameEvent)⟩
        rcases upserted.written proposed identity with old | written
        · exact sound _ row old
        · exact ⟨version, isStored, rfl, written⟩
      · rw [persisted.others eventId same] at found
        exact sound eventId row found
  | @marked marked rest progress at' moved =>
      intro eventId row found
      by_cases same : eventId = marked.eventId
      · subst same
        simp only [markPublished, Function.update_self, Option.map_eq_some_iff] at found
        obtain ⟨old, oldFound, rfl⟩ := found
        obtain ⟨version, isStored, sameEvent, written⟩ := rows _ old oldFound
        exact ⟨version, isStored, sameEvent, written.mark _⟩
      · exact rows eventId row (by simpa [markPublished, same] using found)

section Persisting
variable {past : List AggregationState} {before after : AggregationState}
  {task : PersistTask} {reply : Reply} {progress : Progress}
  (moved : PersistStep before.entityEvents before.persisted task reply after.persisted
    progress)
include moved

theorem versionFrame_of_persistStep (entityEvents : after.entityEvents = before.entityEvents)
    (owner : after.owner = before.owner) (store : after.store = before.store)
    (acting : Option GroupKey) : VersionFrame acting past before after := by
  constructor
  · rw [entityEvents]
    exact fun _ _ found => found
  · rw [owner]
    exact fun _ _ known => known
  · exact fun _ _ => moved.atLeast
  · intro active stored
    exact Or.inl (wasStored_of_store (by rw [store]; exact fun _ _ found => found) stored)
  · rw [store]
    exact fun _ _ _ found => found

theorem rowSound_of_persistStep (sound : VersionSound past before)
    (versions : PersistVersions past before task)
    (entityEvents : after.entityEvents = before.entityEvents) (eventId : UUID)
    (row : EventRow) (found : after.persisted.tables.events eventId = some row) :
    RowSound (WasStored (before :: past) after) after.entityEvents eventId row := by
  rw [entityEvents]
  refine moved.rowSound ?_ ?_ sound.rows eventId row found |>.imp ?_
  · exact versions.stored
  · intro first second firstStored secondStored same
    have firstOwner := sound.store.owner first firstStored
    have secondOwner := sound.store.owner second secondStored
    rw [same, secondOwner, Option.some.injEq] at firstOwner
    exact firstOwner.symm
  · rintro version ⟨stored, written⟩
    exact ⟨stored.later, written⟩

/-- A task that moves on keeps its versions. -/
theorem persistVersions_of_running (versions : PersistVersions past before task)
    {later : PersistTask} (is : progress = .running later) :
    PersistVersions (before :: past) after later := by
  obtain ⟨events, beyond⟩ := moved.running is
  constructor
  · rw [events]
    intro event member
    obtain ⟨version, stored, same⟩ := versions.stored event member
    exact ⟨version, stored.later, same⟩
  · rw [events]
    intro later' event member
    rcases beyond later' with already | committed
    · exact moved.atLeast (versions.written already event member)
    · exact committed.atLeast member

end Persisting

/-! ## Merging -/

section Merging
variable {config : AggregationConfig} {past : List AggregationState}
  {state : AggregationState} {group : GroupKey} {task : MergeTask}

theorem VersionSound.setMerge (sound : VersionSound past state)
    (running : state.merges group = some task) {stage : MergeStage}
    (stageSound : StageVersions past state group stage) :
    VersionSound (state :: past) (state.setMerge group stage) := by
  have frame : VersionFrame none past state (state.setMerge group stage) :=
    VersionFrame.of_same rfl rfl rfl rfl
  have held := sound.merges group task running
  have next : TaskVersions past state group { task with stage := stage } :=
    ⟨held.row, held.ofKey, stageSound⟩
  refine sound.stepped frame (sound.store.quiet frame) sound.keyed
    (fun _ _ found => Or.inl found) (fun _ _ found => Or.inl found) ?_
    (fun _ flushing => Or.inl ⟨flushing, rfl⟩)
  intro other later found
  rcases setMerge_running _ _ _ found running with ⟨rfl, rfl⟩ | ⟨-, unmoved⟩
  · exact Or.inr (next.framed frame (by simp) sound.store)
  · exact Or.inl ⟨by simp, unmoved⟩

theorem StoreSound.stored (sound : StoreSound past state) {active : ActiveEvent}
    (found : state.store group = some active) : WasStored past state active :=
  Or.inl (by rw [sound.keys group active found]; exact found)

theorem stageVersions_afterGetActive (sound : VersionSound past state)
    (entityEvent : EntityEvent) :
    StageVersions past state group (afterGetActive (state.store group) entityEvent) := by
  cases found : state.store group with
  | none =>
      refine ⟨?_, by simp⟩
      intro stored other
      rw [found] at other
      cases other
  | some current =>
      simp only [afterGetActive]
      split
      · trivial
      · refine ⟨?_, ?_⟩
        · intro stored other
          rw [← found, other]
        · intro event same
          cases same
          exact ⟨sound.store.keys group current found, sound.store.stored found,
            sound.store.newest group current found⟩

/-- What the merge of the EntityEvent makes of the active Event it has read. -/
theorem stageVersions_afterMerge {after : AggregationState} {active : Option ActiveEvent}
    {reply : Reply} (sound : VersionSound past state) (held : TaskVersions past state group task)
    (seen : ∀ stored, state.store group = some stored → active = some stored)
    (newest : ∀ current, active = some current → Newest past state group current)
    (fresh : state.owner reply.eventId = none) (frame : VersionFrame none past state after)
    (owner : after.owner
      (mergeOrCreate config active task.entityEvent reply.now reply.eventId).eventId =
      some group) :
    StageVersions (state :: past) after group (afterMerge active
      (mergeOrCreate config active task.entityEvent reply.now reply.eventId)) := by
  have row : (after.entityEvents task.entityEvent.entityEventId).isSome := by
    rw [frame.entityEvents _ _ held.row]
    rfl
  have old (version : ActiveEvent) (stored : WasStored (state :: past) after version) :
      WasStored past state version := by
    rcases frame.new version stored with old | ⟨_, impossible, _⟩
    · exact old
    · cases impossible
  rcases mergeOrCreate_cases config active task.entityEvent reply.now reply.eventId with
    ⟨current, rfl, -, is⟩ | is
  · rw [is] at owner ⊢
    have ofCurrent := newest current rfl
    have same : (extendEvent current task.entityEvent reply.now).eventId = current.eventId := rfl
    simp only [afterMerge, same, ne_eq, not_true_eq_false, if_false]
    refine ⟨ofCurrent.ofKey, owner, ?_, ?_⟩
    · intro id listed
      rcases List.mem_append.mp listed with before | new
      · obtain ⟨found, present⟩ := Option.isSome_iff_exists.mp
          (sound.store.constituents current ofCurrent.stored id before)
        rw [frame.entityEvents id found present]
        rfl
      · rw [List.mem_singleton.mp new]
        exact row
    · intro version stored sameEvent
      exact Or.inr ⟨current, rfl, rfl, ofCurrent.newest version (old version stored) sameEvent⟩
  · rw [is] at owner ⊢
    have unused (version : ActiveEvent) (stored : WasStored past state version) :
        version.eventId ≠ reply.eventId := by
      intro same
      have owned := sound.store.owner version stored
      rw [same, fresh] at owned
      cases owned
    have next : NextVersion (state :: past) after group active
        (createEvent task.entityEvent reply.now reply.eventId) := by
      refine ⟨held.ofKey, owner, ?_, ?_⟩
      · intro id listed
        rw [List.mem_singleton.mp listed]
        exact row
      · intro version stored same
        exact absurd same (unused version (old version stored))
    cases active with
    | none => exact next
    | some current =>
        have ofCurrent := newest current rfl
        have different : (createEvent task.entityEvent reply.now reply.eventId).eventId ≠
            current.eventId := (unused current ofCurrent.stored).symm
        have owned : state.owner current.eventId = some group := by
          rw [sound.store.owner current ofCurrent.stored, ofCurrent.ofKey]
        simp only [afterMerge, ne_eq, different, not_false_eq_true, if_true]
        refine ⟨?_, ofCurrent.framed frame (by simp) owned, next, different, rfl, ?_, by simp⟩
        · intro stored found
          exact Option.some.inj (seen stored (frame.store group (by simp) stored found))
        · intro event member
          exact ⟨current, ofCurrent.stored.later, (List.mem_singleton.mp member).symm⟩

theorem VersionSound.merged {active : Option ActiveEvent} {reply : Reply}
    (sound : VersionSound past state) (running : state.merges group = some task)
    (seen : ∀ stored, state.store group = some stored → active = some stored)
    (newest : ∀ current, active = some current → Newest past state group current)
    (fresh : state.owner reply.eventId = none) :
    VersionSound (state :: past) { state.setMerge group (afterMerge active
        (mergeOrCreate config active task.entityEvent reply.now reply.eventId)) with
      owner := Function.update state.owner
        (mergeOrCreate config active task.entityEvent reply.now reply.eventId).eventId
        (some group) } := by
  have held := sound.merges group task running
  have owned : ∀ eventId other, state.owner eventId = some other →
      Function.update state.owner
        (mergeOrCreate config active task.entityEvent reply.now reply.eventId).eventId
        (some group) eventId = some other := by
    intro eventId other known
    refine owner_kept ?_ fresh known
    intro current is
    have ofCurrent := newest current is
    rw [← ofCurrent.ofKey]
    exact sound.store.owner current ofCurrent.stored
  have frame : VersionFrame none past state { state.setMerge group (afterMerge active
        (mergeOrCreate config active task.entityEvent reply.now reply.eventId)) with
      owner := Function.update state.owner
        (mergeOrCreate config active task.entityEvent reply.now reply.eventId).eventId
        (some group) } :=
    ⟨fun _ _ found => found, owned, fun _ _ known => known,
      fun _ stored => Or.inl (wasStored_of_store (fun _ _ found => found) stored),
      fun _ _ _ found => found⟩
  refine sound.stepped frame (sound.store.quiet frame) sound.keyed
    (fun _ _ found => Or.inl found) (fun _ _ found => Or.inl found) ?_
    (fun _ flushing => Or.inl ⟨flushing, rfl⟩)
  intro other next found
  rcases setMerge_running _ _ _ found running with ⟨rfl, rfl⟩ | ⟨-, unmoved⟩
  · exact Or.inr ⟨frame.entityEvents _ _ held.row, held.ofKey,
      stageVersions_afterMerge sound held seen newest fresh frame (by simp)⟩
  · exact Or.inl ⟨by simp, unmoved⟩

theorem stageVersions_afterReplace {active updated : ActiveEvent} {progress : Progress}
    (seen : ∀ stored, state.store group = some stored → active = stored)
    (newest : Newest past state group active)
    (next : NextVersion past state group (some active) updated)
    (different : updated.eventId ≠ active.eventId)
    (persisting : ∀ later, progress = .running later →
      later.events = [active.toEvent] ∧ PersistVersions past state later) :
    StageVersions past state group (afterReplace active updated progress) := by
  cases progress with
  | running later =>
      obtain ⟨events, versions⟩ := persisting later rfl
      exact ⟨seen, newest, next, different, events, versions⟩
  | returned => exact next
  | raised => trivial

theorem VersionSound.replacing {active updated : ActiveEvent} {persist : PersistTask}
    {persisted : Persisted} {progress : Progress} {reply : Reply}
    (sound : VersionSound past state) (running : state.merges group = some task)
    (at' : task.stage = .replace active updated persist)
    (moved : PersistStep state.entityEvents state.persisted persist reply persisted progress) :
    VersionSound (state :: past) ({ state with persisted := persisted }.setMerge group
      (afterReplace active updated progress)) := by
  have held := sound.merges group task running
  have stageHeld := held.stage
  rw [at'] at stageHeld
  obtain ⟨seen, newest, next, different, events, versions⟩ := stageHeld
  let after := { state with persisted := persisted }.setMerge group
    (afterReplace active updated progress)
  have frame : VersionFrame none past state after :=
    @versionFrame_of_persistStep past state after persist reply progress moved rfl rfl rfl none
  have owned : state.owner active.eventId = some group := by
    rw [sound.store.owner active newest.stored, newest.ofKey]
  refine sound.stepped frame (sound.store.quiet frame) sound.keyed ?_
    (fun _ _ found => Or.inl found) ?_ (fun _ flushing => Or.inl ⟨flushing, rfl⟩)
  · intro eventId row found
    exact Or.inr (@rowSound_of_persistStep past state after persist reply progress moved sound
      versions rfl eventId row found)
  · intro other later found
    rcases setMerge_running _ _ _ found running with ⟨rfl, rfl⟩ | ⟨-, unmoved⟩
    · refine Or.inr ⟨held.row, held.ofKey, ?_⟩
      refine stageVersions_afterReplace seen (newest.framed frame (by simp) owned)
        (next.framed frame (by simp)) different ?_
      intro later is
      exact ⟨(moved.running is).1.trans events,
        @persistVersions_of_running past state after persist reply progress moved versions
          later is⟩
    · exact Or.inl ⟨by simp, unmoved⟩

theorem wasStored_of_update {after : AggregationState} {updated version : ActiveEvent}
    (store : after.store = Function.update state.store group (some updated))
    (stored : WasStored (state :: past) after version) :
    WasStored past state version ∨ version = updated := by
  rcases stored with now | ⟨earlier, member, found⟩
  · rw [store] at now
    rcases of_update_some now with ⟨-, rfl⟩ | ⟨-, old⟩
    · exact Or.inr rfl
    · exact Or.inl (Or.inl old)
  · rcases List.mem_cons.mp member with same | member
    · exact Or.inl (Or.inl (same ▸ found))
    · exact Or.inl (Or.inr ⟨earlier, member, found⟩)

/-- What is known of the versions once the merged Event is stored. -/
theorem StoreSound.extended {active : Option ActiveEvent} {updated : ActiveEvent}
    {after : AggregationState} (sound : StoreSound past state)
    (next : NextVersion past state group active updated)
    (newer : ∀ current, active = some current → updated.eventId = current.eventId →
      current.aggregationUpdatedAt < updated.aggregationUpdatedAt)
    (entityEvents : after.entityEvents = state.entityEvents)
    (owner : after.owner = state.owner)
    (store : after.store = Function.update state.store group (some updated)) :
    StoreSound (state :: past) after := by
  have known := fun version => @wasStored_of_update past state group after updated version store
  have before (version : ActiveEvent) (stored : WasStored past state version)
      (same : version.eventId = updated.eventId) :
      version = updated ∨ version.aggregationUpdatedAt < updated.aggregationUpdatedAt := by
    rcases next.follows version stored same with is | ⟨current, read, extends', atMost⟩
    · exact Or.inl is
    · exact Or.inr (Int.lt_of_le_of_lt atMost (newer current read extends'))
  constructor
  · intro other version found
    rw [store] at found
    rcases of_update_some found with ⟨rfl, rfl⟩ | ⟨-, old⟩
    · exact next.ofKey
    · exact sound.keys other version old
  · intro version stored
    rw [owner]
    rcases known version stored with old | rfl
    · exact sound.owner version old
    · exact next.ofKey ▸ next.owner
  · intro version stored
    rw [entityEvents]
    rcases known version stored with old | rfl
    · exact sound.constituents version old
    · exact next.constituents
  · intro other current found version stored same
    rw [store] at found
    rcases of_update_some found with ⟨-, rfl⟩ | ⟨apart, held⟩
    · rcases known version stored with old | rfl
      · rcases before version old same with rfl | less
        · exact Int.le_refl _
        · exact Int.le_of_lt less
      · exact Int.le_refl _
    · rcases known version stored with old | rfl
      · exact sound.newest other current held version old same
      · have owned := sound.owner current (sound.stored held)
        rw [← same, next.owner, sound.keys other current held, Option.some.injEq] at owned
        exact absurd owned.symm apart
  · intro first second firstStored secondStored same stamp
    rcases known first firstStored with firstOld | rfl <;>
      rcases known second secondStored with secondOld | rfl
    · exact sound.unique first second firstOld secondOld same stamp
    · rcases before first firstOld same with is | less
      · exact is
      · exact absurd stamp (Int.ne_of_lt less)
    · rcases before second secondOld same.symm with is | less
      · exact is.symm
      · exact absurd stamp.symm (Int.ne_of_lt less)
    · rfl

theorem VersionSound.stored_merged {active : Option ActiveEvent} {updated : ActiveEvent}
    {next : MergeStage} (sound : VersionSound past state)
    (running : state.merges group = some task) (at' : task.stage = .upsert active updated)
    (newer : ∀ current, active = some current → updated.eventId = current.eventId →
      current.aggregationUpdatedAt < updated.aggregationUpdatedAt)
    (moved : next = .onSuccess ∨ next = .upsert active updated ∨ next = .onFailure) :
    VersionSound (state :: past) ({ state with
      store := Function.update state.store updated.group (some updated) }.setMerge
      group next) := by
  have held := sound.merges group task running
  have ready := held.stage
  rw [at'] at ready
  have ofUpdated : NextVersion past state group active updated := ready
  rw [ofUpdated.ofKey]
  let after := { state with
    store := Function.update state.store group (some updated) }.setMerge group next
  have known := fun version => @wasStored_of_update past state group after updated version rfl
  have store : StoreSound (state :: past) after :=
    sound.store.extended ofUpdated newer rfl rfl rfl
  have frame : VersionFrame (some group) past state after := by
    refine ⟨fun _ _ found => found, fun _ _ known => known, fun _ _ known => known, ?_, ?_⟩
    · intro version stored
      rcases known version stored with old | rfl
      · exact Or.inl old
      · exact Or.inr ⟨group, rfl, ofUpdated.owner⟩
    · intro other apart stored found
      have different : other ≠ group := fun same => apart (by rw [same])
      simpa [after, different] using found
  refine sound.stepped frame store sound.keyed (fun _ _ found => Or.inl found)
    (fun _ _ found => Or.inl found) ?_ (fun _ flushing => Or.inl ⟨flushing, rfl⟩)
  intro other later found
  rcases setMerge_running _ _ _ found running with ⟨rfl, rfl⟩ | ⟨different, unmoved⟩
  · refine Or.inr ⟨held.row, held.ofKey, ?_⟩
    rcases moved with rfl | rfl | rfl
    · trivial
    · refine ⟨ofUpdated.ofKey, ofUpdated.owner, ofUpdated.constituents, ?_⟩
      intro version stored sameEvent
      rcases known version stored with old | is
      · exact ofUpdated.follows version old sameEvent
      · exact Or.inl is
    · trivial
  · exact Or.inl ⟨by simpa using fun is => different is.symm, unmoved⟩

theorem VersionSound.mergeStep {reply : Reply} {after : AggregationState}
    (sound : VersionSound past state) (running : state.merges group = some task)
    (permitted : stampsIncrease state (.resumeMerge group reply))
    (moved : MergeStep config state group task reply after) :
    VersionSound (state :: past) after := by
  have held := (sound.merges group task running).stage
  cases moved with
  | again =>
      have frame : VersionFrame none past state state := VersionFrame.of_same rfl rfl rfl rfl
      exact sound.stepped frame (sound.store.quiet frame) sound.keyed
        (fun _ _ found => Or.inl found) (fun _ _ found => Or.inl found)
        (fun _ _ found => Or.inl ⟨by simp, found⟩) (fun _ flushing => Or.inl ⟨flushing, rfl⟩)
  | failed | mapped | late => exact sound.setMerge running trivial
  | read => exact sound.setMerge running (stageVersions_afterGetActive sound _)
  | merged at' _ _ fresh =>
      rw [at'] at held
      exact sound.merged running held.1 held.2 fresh
  | replacing at' moved => exact sound.replacing running at' moved
  | @stored active updated next at' applied moved =>
      refine sound.stored_merged running at' ?_ moved
      intro current read same
      refine permitted task.entityEvent current updated ?_ same applied
      rw [running, ← read, ← at']

end Merging

/-! ## Flushing and the rest -/

section Flushing
variable {past : List AggregationState} {state : AggregationState}

theorem flushVersions_readNext (sound : VersionSound past state)
    {activeEvents : List ActiveEvent} (keys : List GroupKey)
    (stored : ∀ active ∈ activeEvents, WasStored past state active) :
    FlushVersions past state (readNext state.lastFlushed activeEvents keys) := by
  rcases readNext_cases state.lastFlushed activeEvents keys with
    ⟨key, rest, -, is⟩ | ⟨-, is, unchanged⟩ | ⟨-, changed, is, read, covered⟩ <;> rw [is]
  · exact stored
  · intro active member
    exact sound.lastFlushed _ _ (unchanged active member)
  · refine ⟨⟨?_, by simp⟩, ?_⟩
    · intro event member
      obtain ⟨active, isChanged, rfl⟩ := List.mem_map.mp member
      exact ⟨active, stored active (read active isChanged), rfl⟩
    · intro active member
      exact (covered active member).imp_left
        fun isChanged => List.mem_map.mpr ⟨active, isChanged, rfl⟩

/-- Steps that write neither rows nor keys, and what they move. -/
theorem VersionSound.moved {merges : GroupKey → Option MergeTask} {flush : Option FlushTask}
    {lastFlushed : UUID → Option Timestamp} (sound : VersionSound past state)
    (mergesSound : ∀ group task, merges group = some task →
      state.merges group = some task ∨ TaskVersions past state group task)
    (flushedSound : ∀ eventId version, lastFlushed eventId = some version →
      AtLeast state.persisted.tables eventId version)
    (flushSound : ∀ task, flush = some task →
      FlushVersions past state task ∧ lastFlushed = state.lastFlushed) :
    VersionSound (state :: past)
      { state with merges := merges, flush := flush, lastFlushed := lastFlushed } := by
  have frame : VersionFrame none past state
      { state with merges := merges, flush := flush, lastFlushed := lastFlushed } :=
    VersionFrame.of_same rfl rfl rfl rfl
  refine sound.stepped frame (sound.store.quiet frame) sound.keyed
    (fun _ _ found => Or.inl found) (fun _ _ found => Or.inr (flushedSound _ _ found)) ?_ ?_
  · intro group task found
    rcases mergesSound group task found with old | new
    · exact Or.inl ⟨by simp, old⟩
    · exact Or.inr (new.framed frame (by simp) sound.store)
  · intro task flushing
    obtain ⟨new, same⟩ := flushSound task flushing
    exact Or.inr (new.framed frame same)

theorem VersionSound.flushPersisting {activeEvents : List ActiveEvent}
    {persist : PersistTask} {persisted : Persisted} {progress : Progress} {reply : Reply}
    (sound : VersionSound past state)
    (running : state.flush = some (.persist activeEvents persist))
    (moved : PersistStep state.entityEvents state.persisted persist reply persisted progress) :
    VersionSound (state :: past) { state with
      persisted := persisted, flush := afterFlushPersist activeEvents progress } := by
  obtain ⟨versions, covered⟩ := sound.flush _ running
  let after := { state with
    persisted := persisted, flush := afterFlushPersist activeEvents progress }
  have frame : VersionFrame none past state after :=
    @versionFrame_of_persistStep past state after persist reply progress moved rfl rfl rfl none
  refine sound.stepped frame (sound.store.quiet frame) sound.keyed ?_
    (fun _ _ found => Or.inl found) (fun _ _ found => Or.inl ⟨by simp, found⟩) ?_
  · intro eventId row found
    exact Or.inr (@rowSound_of_persistStep past state after persist reply progress moved sound
      versions rfl eventId row found)
  · intro task flushing
    refine Or.inr ?_
    have same : afterFlushPersist activeEvents progress = some task := flushing
    cases is : progress with
    | running later =>
        rw [is] at same
        cases same
        refine ⟨@persistVersions_of_running past state _ persist reply _ (is ▸ moved) versions
          later rfl, ?_⟩
        intro active member
        rw [(moved.running is).1]
        exact covered active member
    | returned =>
        rw [is] at same
        cases same
        intro active member
        rcases covered active member with changed | unchanged
        · exact moved.atLeast (versions.written (moved.returned is) _ changed)
        · exact moved.atLeast (sound.lastFlushed _ _ unchanged)
    | raised =>
        rw [is] at same
        cases same

theorem VersionSound.flushStep {after : AggregationState} {task : FlushTask}
    {reply : Reply} (sound : VersionSound past state) (running : state.flush = some task)
    (moved : FlushStep state task reply after) : VersionSound (state :: past) after := by
  have held := sound.flush task running
  cases moved with
  | again =>
      exact sound.moved (fun _ _ found => Or.inl found) sound.lastFlushed
        (fun task flushing => ⟨sound.flush task flushing, rfl⟩)
  | ended =>
      exact sound.moved (fun _ _ found => Or.inl found) sound.lastFlushed (by simp)
  | @recorded activeEvents at' =>
      subst at'
      refine sound.moved (fun _ _ found => Or.inl found) ?_ (by simp)
      intro eventId version found
      obtain ⟨active, member, rfl, rfl⟩ := flushedVersions_some found
      exact held active member
  | scanned =>
      refine sound.moved (fun _ _ found => Or.inl found) sound.lastFlushed ?_
      intro next same
      cases same
      exact ⟨flushVersions_readNext sound _ (by simp), rfl⟩
  | @read key keys activeEvents at' =>
      subst at'
      refine sound.moved (fun _ _ found => Or.inl found) sound.lastFlushed ?_
      intro next same
      cases same
      refine ⟨flushVersions_readNext sound _ ?_, rfl⟩
      intro active member
      rcases List.mem_append.mp member with old | new
      · exact held active old
      · exact sound.store.stored (by simpa using new)
  | @persisting activeEvents persist persisted progress at' moved =>
      subst at'
      exact sound.flushPersisting running moved

theorem VersionSound.expired {group : GroupKey} (sound : VersionSound past state) :
    VersionSound (state :: past)
      { state with store := Function.update state.store group none } := by
  have kept (other : GroupKey) (stored : ActiveEvent)
      (found : Function.update state.store group none other = some stored) :
      state.store other = some stored := (of_update_none found).2
  have frame : VersionFrame none past state
      { state with store := Function.update state.store group none } :=
    ⟨fun _ _ found => found, fun _ _ known => known, fun _ _ known => known,
      fun _ stored => Or.inl (wasStored_of_store kept stored),
      fun other _ stored found => kept other stored found⟩
  exact sound.stepped frame (sound.store.quiet frame) sound.keyed
    (fun _ _ found => Or.inl found) (fun _ _ found => Or.inl found)
    (fun _ _ found => Or.inl ⟨by simp, found⟩) (fun _ flushing => Or.inl ⟨flushing, rfl⟩)

theorem VersionSound.storedRow {row : EntityEvent} (sound : VersionSound past state)
    (absent : state.entityEvents row.entityEventId = none) :
    VersionSound (state :: past) { state with
      entityEvents := Function.update state.entityEvents row.entityEventId (some row) } := by
  have frame : VersionFrame none past state { state with
      entityEvents := Function.update state.entityEvents row.entityEventId (some row) } := by
    refine ⟨?_, fun _ _ known => known, fun _ _ known => known,
      fun _ stored => Or.inl (wasStored_of_store (fun _ _ found => found) stored),
      fun _ _ _ found => found⟩
    intro id other found
    have apart : id ≠ row.entityEventId := by
      rintro rfl
      rw [absent] at found
      cases found
    simpa [apart] using found
  refine sound.stepped frame (sound.store.quiet frame) ?_
    (fun _ _ found => Or.inl found) (fun _ _ found => Or.inl found)
    (fun _ _ found => Or.inl ⟨by simp, found⟩) (fun _ flushing => Or.inl ⟨flushing, rfl⟩)
  intro id other found
  rcases of_update_some found with ⟨rfl, rfl⟩ | ⟨-, old⟩
  · rfl
  · exact sound.keyed id other old

theorem VersionSound.started {id : UUID} {row : EntityEvent} (sound : VersionSound past state)
    (found : state.entityEvents id = some row) :
    VersionSound (state :: past) { state with
      merges := Function.update state.merges row.groupKey (some ⟨row, .getActiveEvent⟩) } := by
  refine sound.moved ?_ sound.lastFlushed
    (fun task flushing => ⟨sound.flush task flushing, rfl⟩)
  intro group task running
  rcases of_update_some running with ⟨rfl, rfl⟩ | ⟨-, old⟩
  · have key := sound.keyed id row found
    exact Or.inr ⟨key ▸ found, rfl, trivial⟩
  · exact Or.inl old

end Flushing

theorem VersionSound.step {config : AggregationConfig} {past : List AggregationState}
    {state after : AggregationState} {action : AggregationAction}
    (sound : VersionSound past state) (permitted : stampsIncrease state action)
    (moved : aggregationStep config state action = some after) :
    VersionSound (state :: past) after := by
  have unmoved : ∀ task, state.flush = some task →
      FlushVersions past state task ∧ state.lastFlushed = state.lastFlushed :=
    fun task flushing => ⟨sound.flush task flushing, rfl⟩
  cases action with
  | storeEntityEvent row =>
      obtain ⟨absent, rfl⟩ := storeEntityEvent_step moved
      exact sound.storedRow absent
  | startMerge entityEventId =>
      obtain ⟨row, found, rfl⟩ := startMerge_step moved
      exact sound.started found
  | resumeMerge group reply =>
      obtain ⟨task, running, moved⟩ := resumeMerge_step moved
      exact sound.mergeStep running permitted moved
  | endMerge group =>
      cases endMerge_step moved
      refine sound.moved ?_ sound.lastFlushed unmoved
      intro other later found
      exact Or.inl (of_update_none found).2
  | expire group =>
      cases moved
      exact sound.expired
  | startFlush =>
      cases startFlush_step moved
      refine sound.moved (fun _ _ found => Or.inl found) sound.lastFlushed ?_
      intro task same
      cases same
      exact ⟨trivial, rfl⟩
  | resumeFlush reply =>
      obtain ⟨task, running, moved⟩ := resumeFlush_step moved
      exact sound.flushStep running moved
  | stopFlush =>
      cases moved
      exact sound.moved (fun _ _ found => Or.inl found) sound.lastFlushed (by simp)
  | crash =>
      cases moved
      exact sound.moved (by simp) (by simp) (by simp)

theorem versionSound_of_trace {config : AggregationConfig} {past : List AggregationState}
    {state : AggregationState}
    (trace : (aggregationMachine config).Trace stampsIncrease past state) :
    VersionSound past state := by
  apply trace.history_invariant
  · intro start begins
    rw [show start = AggregationState.initial from begins]
    exact versionSound_initial
  · intro history before action after _ held permitted moved
    exact held.step permitted moved

def stampsIncreaseCheck (state : AggregationState) : AggregationAction → Bool
  | .resumeMerge group reply =>
      match (state.merges group).map MergeTask.stage with
      | some (.upsert (some current) updated) =>
          decide (updated.eventId = current.eventId → reply.outcome.applied = true →
            current.aggregationUpdatedAt < updated.aggregationUpdatedAt)
      | _ => true
  | _ => true

theorem stampsIncreaseCheck_sound (state : AggregationState) (action : AggregationAction)
    (checked : stampsIncreaseCheck state action = true) : stampsIncrease state action := by
  cases action with
  | resumeMerge group reply =>
      intro entityEvent current updated running
      simp only [stampsIncreaseCheck, running, Option.map_some] at checked
      exact of_decide_eq_true checked
  | storeEntityEvent | startMerge | endMerge | expire | startFlush | resumeFlush
  | stopFlush | crash => trivial

end WealthFinder.Pipeline
