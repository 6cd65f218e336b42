import WealthFinder.Pipeline.DerivedFields
import WealthFinder.Pipeline.EntityAnalysisSteps
import WealthFinder.Pipeline.EntitySkill
import WealthFinder.Pipeline.Versions

/-!
# The derived fields along a run

A merge never mixes the rows of two groups.  The constituents of a version have the
primary type of its group, and a row of the skill has another secondary type, so no
version derives its own primary type.
-/

set_option autoImplicit false

namespace WealthFinder.Pipeline

open Machine

/-! ## The rows of the skill -/

/-- `persist_entities` wrote the row for one entity of a run of the skill. -/
def WrittenByPipeline (row : EntityEvent) : Prop :=
  ∃ folding cache maxInputChars input response now result article rows pairs final ids,
    llmProcess folding cache maxInputChars input response now = .ok result ∧
    pairs.map Prod.fst = result.entityEvents.map SkillEntity.verified ∧
    persistEntities article rows pairs = some (final, ids) ∧ row ∈ final ∧ row ∉ rows

def storesPipelineRows (_ : AggregationState) : AggregationAction → Prop
  | .storeEntityEvent row => WrittenByPipeline row
  | _ => True

/-- One item adds at most the entity of its repaired outcome. -/
theorem processItem_withinBounds {folding : Folding} {cache : HKStockListCache}
    {articleText : Text} {state next : SkillState} {item : ExtractedEntity}
    (processed : processItem folding cache articleText state item = .ok next)
    (bounded : ∀ entity ∈ state.entities, entity.outcome.WithinBounds) :
    ∀ entity ∈ next.entities, entity.outcome.WithinBounds := by
  unfold processItem at processed
  cases verified : verifyEntity folding cache item articleText with
  | error error =>
      rw [verified] at processed
      cases processed
  | ok found =>
      rw [verified] at processed
      cases processed
      cases found with
      | none => exact bounded
      | some stock =>
          simp only [account]
          split
          · exact bounded
          · intro entity member
            rcases List.mem_append.mp member with old | new
            · exact bounded entity old
            · rw [List.mem_singleton.mp new]
              exact enforceConstraints_withinBounds _

theorem foldlM_withinBounds {folding : Folding} {cache : HKStockListCache}
    {articleText : Text} {items : List ExtractedEntity} {state final : SkillState}
    (processed : items.foldlM (processItem folding cache articleText) state = .ok final)
    (bounded : ∀ entity ∈ state.entities, entity.outcome.WithinBounds) :
    ∀ entity ∈ final.entities, entity.outcome.WithinBounds := by
  induction items generalizing state with
  | nil =>
      cases processed
      exact bounded
  | cons item rest ih =>
      rw [List.foldlM_cons] at processed
      cases first : processItem folding cache articleText state item with
      | error error =>
          rw [first] at processed
          cases processed
      | ok next =>
          rw [first] at processed
          exact ih processed (processItem_withinBounds first bounded)

theorem llmProcess_withinBounds {folding : Folding} {cache : HKStockListCache}
    {maxInputChars : Nat} {input : EntityAnalysisInput} {response : StructuredLLMResponse}
    {now : Timestamp} {result : EntityAnalysisResult}
    (returned : llmProcess folding cache maxInputChars input response now = .ok result) :
    ∀ entity ∈ result.entityEvents, entity.outcome.WithinBounds := by
  unfold llmProcess at returned
  cases ran : response.outputItems.foldlM
      (processItem folding cache (input.articleText maxInputChars)) SkillState.start with
  | error error =>
      rw [ran] at returned
      cases returned
  | ok state =>
      rw [ran] at returned
      cases returned
      exact foldlM_withinBounds ran (by intro entity member; cases member)

theorem persistEntities_rows {article : CleanedNews} {rows final : List EntityEvent}
    {pairs : List (VerifiedEntity × EntityStamp)} {ids : List UUID}
    (stored : persistEntities article rows pairs = some (final, ids)) :
    ∀ row ∈ final, row ∈ rows ∨ ∃ pair ∈ pairs, row = entityRow article pair.1 pair.2 := by
  induction pairs generalizing rows ids with
  | nil =>
      cases stored
      exact fun _ member => Or.inl member
  | cons pair rest ih =>
      obtain ⟨⟨mid, inserted⟩, first, mapped⟩ := Option.bind_eq_some_iff.mp stored
      obtain ⟨⟨last, later⟩, restStored, equal⟩ := Option.map_eq_some_iff.mp mapped
      cases equal
      intro row member
      rcases ih restStored row member with old | ⟨other, inRest, is⟩
      · rcases insertEntityEvent_cases first with ⟨rfl, -⟩ | ⟨rfl, -⟩
        · exact Or.inl old
        · rcases List.mem_append.mp old with old | new
          · exact Or.inl old
          · exact Or.inr ⟨pair, List.mem_cons_self, List.mem_singleton.mp new⟩
      · exact Or.inr ⟨other, List.mem_cons_of_mem _ inRest, is⟩

theorem WrittenByPipeline.apart {row : EntityEvent} (written : WrittenByPipeline row) :
    row.eventTypeSecondary ≠ some row.eventTypePrimary := by
  obtain ⟨folding, cache, maxInputChars, input, response, now, result, article, rows, pairs,
    final, ids, returned, same, stored, member, new⟩ := written
  obtain ⟨pair, inPairs, rfl⟩ := (persistEntities_rows stored row member).resolve_left new
  have inEntities : pair.1 ∈ result.entityEvents.map SkillEntity.verified :=
    same ▸ List.mem_map_of_mem inPairs
  obtain ⟨entity, isEntity, is⟩ := List.mem_map.mp inEntities
  have bounded := llmProcess_withinBounds returned entity isEntity
  simp only [entityRow, ← is]
  exact bounded.2.2.2.2

/-! ## What a version derives -/

/-- The rows of the listed EntityEvents, each once. -/
structure MembersOf (entityEvents : EntityEvents) (ids : List UUID)
    (members : List EntityEvent) : Prop where
  distinct : members.Nodup
  mem_iff : ∀ row, row ∈ members ↔ ∃ id ∈ ids, entityEvents id = some row
  all : ∀ id ∈ ids, ∃ row ∈ members, row.entityEventId = id

/-- The row is of the Event, and its derived fields are those of the constituents. -/
structure DerivedFrom (entityEvents : EntityEvents) (event : Event) (row : EventRow) :
    Prop where
  eventId : row.eventId = event.eventId
  group : row.group = event.group
  version : row.aggregationUpdatedAt = event.aggregationUpdatedAt
  derived : ∃ members, MembersOf entityEvents event.entityEventIds members ∧
    SourcesOf members row.sourceList ∧ SecondaryOf members row.eventTypeSecondary
  primary : row.group.eventTypePrimary ∉ row.eventTypeSecondary

/-- No version of the Event is stored, or an older one. -/
def NewOrNewer (events : UUID → Option EventRow) (event : Event) : Prop :=
  ∀ row, events event.eventId = some row → row.aggregationUpdatedAt < event.aggregationUpdatedAt

structure RowsSound (entityEvents : EntityEvents) : Prop where
  keyed : ∀ id row, entityEvents id = some row → row.entityEventId = id
  apart : ∀ id row, entityEvents id = some row →
    row.eventTypeSecondary ≠ some row.eventTypePrimary

/-- The Event was made for its group, and its constituents are rows of that group. -/
structure Grouped (entityEvents : EntityEvents) (owner : UUID → Option GroupKey)
    (active : ActiveEvent) : Prop where
  owned : owner active.eventId = some active.group
  constituents : ∀ id ∈ active.entityEventIds, ∃ row, entityEvents id = some row ∧
    row.groupKey = active.group

section
variable {entityEvents : EntityEvents} {owner : UUID → Option GroupKey}
  {active : ActiveEvent} (sound : RowsSound entityEvents)
  (grouped : Grouped entityEvents owner active)
include sound grouped

theorem membersOf_constituents (order : RowOrder EntityEvent) :
    MembersOf entityEvents active.entityEventIds
      (constituents order entityEvents active.entityEventIds) := by
  have perm := order.perm (active.entityEventIds.dedup.filterMap entityEvents)
  have iff (row : EntityEvent) : row ∈ constituents order entityEvents active.entityEventIds ↔
      ∃ id ∈ active.entityEventIds, entityEvents id = some row := by
    rw [constituents, perm.mem_iff, List.mem_filterMap]
    simp only [List.mem_dedup]
  refine ⟨?_, iff, ?_⟩
  · refine perm.nodup_iff.mpr ((List.nodup_dedup _).filterMap ?_)
    intro id other row found otherFound
    rw [← sound.keyed id row found]
    exact sound.keyed other row otherFound
  · intro id listed
    obtain ⟨row, found, -⟩ := grouped.constituents id listed
    exact ⟨row, (iff row).mpr ⟨id, listed, found⟩, sound.keyed id row found⟩

/-- `source_list` is not NULL, so the upsert proposes a row. -/
theorem excludedRow_derived (order : RowOrder EntityEvent) (now : Timestamp) :
    ∃ row, excludedRow order entityEvents now active.toEvent = some row ∧
      DerivedFrom entityEvents active.toEvent row := by
  have members := membersOf_constituents sound grouped order
  have nonempty : constituents order entityEvents active.entityEventIds ≠ [] := by
    obtain ⟨id, listed⟩ := List.exists_mem_of_ne_nil _ active.isActiveEvent
    obtain ⟨row, member, -⟩ := members.all id listed
    exact List.ne_nil_of_mem member
  obtain ⟨sources, selected, sourcesOf⟩ := selectSources_ok nonempty
  have secondary := selectSecondary_secondaryOf
    (constituents order entityEvents active.entityEventIds)
  obtain ⟨noSecondary, noSources⟩ := active.unset
  refine ⟨_, by simp only [excludedRow, noSources, noSecondary, selected]; rfl,
    rfl, rfl, rfl, ⟨_, members, sourcesOf, secondary⟩, ?_⟩
  intro isPrimary
  obtain ⟨row, member, ofType⟩ := secondary.reported _ isPrimary
  obtain ⟨id, listed, found⟩ := (members.mem_iff row).mp member
  obtain ⟨other, otherFound, ofGroup⟩ := grouped.constituents id listed
  rw [found, Option.some.injEq] at otherFound
  subst otherFound
  refine sound.apart id row found (ofType.trans ?_)
  rw [← ofGroup]
  rfl

theorem derivedFrom_written {row : EventRow}
    (written : WrittenFrom entityEvents active.toEvent row) :
    DerivedFrom entityEvents active.toEvent row := by
  obtain ⟨order, now, excluded, proposed, content⟩ := written
  obtain ⟨other, same, held⟩ := excludedRow_derived sound grouped order now
  rw [proposed, Option.some.injEq] at same
  subst same
  rw [content]
  exact ⟨held.eventId, held.group, held.version, held.derived, held.primary⟩

/-- The upsert writes the row of an Event that is new or newer than its stored version, with
fields derived from the constituents, and refuses an Event that is not newer. -/
theorem upsertEvent_derived (order : RowOrder EntityEvent) (now : Timestamp)
    {events : UUID → Option EventRow}
    (identity : ∀ row, events active.eventId = some row →
      row.eventId = active.eventId ∧ row.group = active.group) :
    (NewOrNewer events active.toEvent → ∃ row after,
      upsertEvent order entityEvents now events active.toEvent = some (some row, after) ∧
      after active.eventId = some row ∧ DerivedFrom entityEvents active.toEvent row) ∧
    (¬ NewOrNewer events active.toEvent →
      upsertEvent order entityEvents now events active.toEvent = some (none, events)) := by
  obtain ⟨excluded, proposed, held⟩ := excludedRow_derived sound grouped order now
  simp only [upsertEvent, proposed, Option.map_some, held.version]
  cases found : events active.eventId with
  | none =>
      have new : NewOrNewer events active.toEvent := by
        intro row stored
        cases found.symm.trans stored
      exact ⟨fun _ => ⟨excluded, _, rfl, Function.update_self _ _ _, held⟩,
        fun refused => absurd new refused⟩
  | some old =>
      obtain ⟨sameId, sameGroup⟩ := identity old found
      have newer_iff : NewOrNewer events active.toEvent ↔
          old.aggregationUpdatedAt < active.aggregationUpdatedAt := by
        constructor
        · intro newer
          exact newer old found
        · intro newer row stored
          cases found.symm.trans stored
          exact newer
      rw [newer_iff]
      constructor
      · intro newer
        simp only [if_pos newer]
        refine ⟨_, _, rfl, Function.update_self _ _ _, sameId, sameGroup, held.version,
          held.derived, ?_⟩
        rw [overwriteRow, sameGroup, ← held.group]
        exact held.primary
      · intro refused
        simp only [if_neg refused]

end

/-! ## The invariant -/

/-- A running `_persist_and_publish` has been given the Event. -/
inductive Persisting (state : AggregationState) (event : Event) : Prop where
  | merge {group : GroupKey} {entityEvent : EntityEvent} {active updated : ActiveEvent}
      {persist : PersistTask}
      (running : state.merges group = some ⟨entityEvent, .replace active updated persist⟩)
      (member : event ∈ persist.events)
  | flush {activeEvents : List ActiveEvent} {persist : PersistTask}
      (running : state.flush = some (.persist activeEvents persist))
      (member : event ∈ persist.events)

abbrev GroupedIn (state : AggregationState) (active : ActiveEvent) : Prop :=
  Grouped state.entityEvents state.owner active

/-- A version that has been given to `_persist_and_publish`. -/
def Given (past : List AggregationState) (state : AggregationState) (active : ActiveEvent) :
    Prop :=
  GroupedIn state active ∧ Once (fun earlier => Persisting earlier active.toEvent) past state

def PersistGrouped (state : AggregationState) (task : PersistTask) : Prop :=
  ∀ event ∈ task.events, ∃ version, GroupedIn state version ∧ version.toEvent = event

def StageGrouped (state : AggregationState) (group : GroupKey) : MergeStage → Prop
  | .isMerged active => ∀ current, active = some current →
      GroupedIn state current ∧ current.group = group
  | .replace _ updated persist =>
      PersistGrouped state persist ∧ GroupedIn state updated
  | .upsert _ updated => GroupedIn state updated
  | .getActiveEvent => True
  | .onSuccess => True
  | .onFailure => True

structure TaskGrouped (state : AggregationState) (group : GroupKey) (task : MergeTask) :
    Prop where
  row : state.entityEvents task.entityEvent.entityEventId = some task.entityEvent
  ofKey : task.entityEvent.groupKey = group
  stage : StageGrouped state group task.stage

def FlushGrouped (state : AggregationState) : FlushTask → Prop
  | .scan => True
  | .read _ _ activeEvents => ∀ active ∈ activeEvents, GroupedIn state active
  | .persist _ task => PersistGrouped state task
  | .record _ => True

structure DerivedSound (past : List AggregationState) (state : AggregationState) : Prop where
  entityEvents : RowsSound state.entityEvents
  store : ∀ group active, state.store group = some active →
    GroupedIn state active ∧ active.group = group
  rows : ∀ eventId row, state.persisted.tables.events eventId = some row →
    RowSound (Given past state) state.entityEvents eventId row
  merges : ∀ group task, state.merges group = some task → TaskGrouped state group task
  flush : ∀ task, state.flush = some task → FlushGrouped state task

theorem derivedSound_initial : DerivedSound [] AggregationState.initial where
  entityEvents :=
    { keyed := by intro _ _ found; cases found
      apart := by intro _ _ found; cases found }
  store := by intro _ _ found; cases found
  rows := by intro _ _ found; cases found
  merges := by intro _ _ running; cases running
  flush := by intro _ running; cases running

/-! ## What every step respects -/

/-- Rows of EntityEvents and the groups of Events stay. -/
structure GroupFrame (before after : AggregationState) : Prop where
  entityEvents : ∀ id row, before.entityEvents id = some row →
    after.entityEvents id = some row
  owner : ∀ eventId group, before.owner eventId = some group →
    after.owner eventId = some group

section Frame
variable {past : List AggregationState} {before after : AggregationState}
  (frame : GroupFrame before after)
include frame

theorem Grouped.framed {active : ActiveEvent} (grouped : GroupedIn before active) :
    GroupedIn after active where
  owned := frame.owner _ _ grouped.owned
  constituents := by
    intro id listed
    obtain ⟨row, found, ofGroup⟩ := grouped.constituents id listed
    exact ⟨row, frame.entityEvents id row found, ofGroup⟩

theorem PersistGrouped.framed {task : PersistTask} (grouped : PersistGrouped before task) :
    PersistGrouped after task := by
  intro event member
  obtain ⟨version, ofGroup, same⟩ := grouped event member
  exact ⟨version, ofGroup.framed frame, same⟩

theorem StageGrouped.framed {group : GroupKey} {stage : MergeStage}
    (grouped : StageGrouped before group stage) : StageGrouped after group stage := by
  cases stage with
  | getActiveEvent | onSuccess | onFailure => trivial
  | isMerged active =>
      intro current same
      exact ⟨(grouped current same).1.framed frame, (grouped current same).2⟩
  | replace active updated persist =>
      exact ⟨PersistGrouped.framed frame grouped.1, grouped.2.framed frame⟩
  | upsert active updated => exact Grouped.framed frame grouped

theorem TaskGrouped.framed {group : GroupKey} {task : MergeTask}
    (grouped : TaskGrouped before group task) : TaskGrouped after group task where
  row := frame.entityEvents _ _ grouped.row
  ofKey := grouped.ofKey
  stage := grouped.stage.framed frame

theorem FlushGrouped.framed {task : FlushTask} (grouped : FlushGrouped before task) :
    FlushGrouped after task := by
  cases task with
  | scan | record => trivial
  | read key keys activeEvents => exact fun active member => (grouped active member).framed frame
  | persist activeEvents task => exact PersistGrouped.framed frame grouped

theorem rowSound_framed {eventId : UUID} {row : EventRow}
    (sound : RowSound (Given past before) before.entityEvents eventId row) :
    RowSound (Given (before :: past) after) after.entityEvents eventId row := by
  obtain ⟨version, ⟨grouped, given⟩, same, written⟩ := sound
  refine ⟨version, ⟨grouped.framed frame, given.later⟩, same, written.congr ?_⟩
  intro id listed
  obtain ⟨found, present, -⟩ := grouped.constituents id listed
  rw [present, frame.entityEvents id found present]

/-- What the step wrote or moved is left to be shown sound. -/
theorem DerivedSound.stepped (sound : DerivedSound past before)
    (entityEvents : RowsSound after.entityEvents)
    (store : ∀ group active, after.store group = some active →
      before.store group = some active ∨ (GroupedIn after active ∧ active.group = group))
    (rows : ∀ eventId row, after.persisted.tables.events eventId = some row →
      RowSound (Given past before) before.entityEvents eventId row)
    (merges : ∀ group task, after.merges group = some task →
      before.merges group = some task ∨ TaskGrouped after group task)
    (flush : ∀ task, after.flush = some task →
      before.flush = some task ∨ FlushGrouped after task) :
    DerivedSound (before :: past) after where
  entityEvents := entityEvents
  store := by
    intro group active found
    rcases store group active found with old | new
    · obtain ⟨grouped, ofKey⟩ := sound.store group active old
      exact ⟨grouped.framed frame, ofKey⟩
    · exact new
  rows := fun eventId row found => rowSound_framed frame (rows eventId row found)
  merges := by
    intro group task running
    rcases merges group task running with old | new
    · exact (sound.merges group task old).framed frame
    · exact new
  flush := by
    intro task running
    rcases flush task running with old | new
    · exact FlushGrouped.framed frame (sound.flush task old)
    · exact new

end Frame

theorem GroupFrame.of_same {before after : AggregationState}
    (entityEvents : after.entityEvents = before.entityEvents)
    (owner : after.owner = before.owner) : GroupFrame before after := by
  constructor
  · rw [entityEvents]
    exact fun _ _ found => found
  · rw [owner]
    exact fun _ _ known => known

/-! ## Persisting -/

section Persisting
variable {past : List AggregationState} {state : AggregationState} {task : PersistTask}
  {persisted : Persisted} {reply : Reply} {progress : Progress}
  (moved : PersistStep state.entityEvents state.persisted task reply persisted progress)
include moved

theorem DerivedSound.rowsWritten (sound : DerivedSound past state)
    (grouped : PersistGrouped state task) (given : ∀ event ∈ task.events, Persisting state event) :
    ∀ eventId row, persisted.tables.events eventId = some row →
      RowSound (Given past state) state.entityEvents eventId row := by
  refine moved.rowSound ?_ ?_ sound.rows
  · intro event member
    obtain ⟨version, ofGroup, rfl⟩ := grouped event member
    exact ⟨version, ⟨ofGroup, Once.now (given _ member)⟩, rfl⟩
  · intro first second firstGiven secondGiven same
    have owned := firstGiven.1.owned
    rw [same, secondGiven.1.owned, Option.some.injEq] at owned
    exact owned.symm

theorem PersistGrouped.running (grouped : PersistGrouped state task) {later : PersistTask}
    (is : progress = .running later) : PersistGrouped state later := by
  intro event member
  rw [(moved.running is).1] at member
  exact grouped event member

end Persisting

/-! ## Merging -/

section Merging
variable {config : AggregationConfig} {past : List AggregationState}
  {state : AggregationState} {group : GroupKey} {task : MergeTask}

theorem DerivedSound.setMerge (sound : DerivedSound past state)
    (running : state.merges group = some task) {stage : MergeStage}
    (grouped : StageGrouped state group stage) :
    DerivedSound (state :: past) (state.setMerge group stage) := by
  have frame : GroupFrame state (state.setMerge group stage) := GroupFrame.of_same rfl rfl
  have held := sound.merges group task running
  refine sound.stepped frame sound.entityEvents (fun _ _ found => Or.inl found) sound.rows ?_
    (fun _ flushing => Or.inl flushing)
  intro other later found
  rcases setMerge_running _ _ _ found running with ⟨rfl, rfl⟩ | ⟨-, unmoved⟩
  · exact Or.inr ⟨held.row, held.ofKey, grouped.framed frame⟩
  · exact Or.inl unmoved

theorem stageGrouped_afterGetActive (sound : DerivedSound past state)
    (entityEvent : EntityEvent) :
    StageGrouped state group (afterGetActive (state.store group) entityEvent) := by
  cases found : state.store group with
  | none =>
      intro current same
      cases same
  | some active =>
      simp only [afterGetActive]
      split
      · trivial
      · intro current same
        cases same
        exact sound.store group active found

/-- The merged Event is of the group that its EntityEvent and the active Event are of. -/
theorem grouped_mergeOrCreate {active : Option ActiveEvent} {reply : Reply}
    (held : TaskGrouped state group task)
    (read : ∀ current, active = some current → GroupedIn state current ∧ current.group = group) :
    Grouped state.entityEvents
      (Function.update state.owner
        (mergeOrCreate config active task.entityEvent reply.now reply.eventId).eventId
        (some group))
      (mergeOrCreate config active task.entityEvent reply.now reply.eventId) := by
  rcases mergeOrCreate_cases config active task.entityEvent reply.now reply.eventId with
    ⟨current, rfl, -, is⟩ | is
  · obtain ⟨grouped, ofKey⟩ := read current rfl
    rw [is]
    refine ⟨(Function.update_self ..).trans (congrArg some ofKey.symm), ?_⟩
    intro id listed
    rcases List.mem_append.mp listed with before | added
    · exact grouped.constituents id before
    · rw [List.mem_singleton.mp added]
      exact ⟨_, held.row, held.ofKey.trans ofKey.symm⟩
  · rw [is]
    refine ⟨(Function.update_self ..).trans (congrArg some held.ofKey.symm), ?_⟩
    intro id listed
    rw [List.mem_singleton.mp listed]
    exact ⟨_, held.row, rfl⟩

theorem DerivedSound.merged {active : Option ActiveEvent} {reply : Reply}
    (sound : DerivedSound past state) (running : state.merges group = some task)
    (read : ∀ current, active = some current → GroupedIn state current ∧ current.group = group)
    (fresh : state.owner reply.eventId = none) :
    DerivedSound (state :: past) { state.setMerge group (afterMerge active
        (mergeOrCreate config active task.entityEvent reply.now reply.eventId)) with
      owner := Function.update state.owner
        (mergeOrCreate config active task.entityEvent reply.now reply.eventId).eventId
        (some group) } := by
  have held := sound.merges group task running
  have frame : GroupFrame state { state.setMerge group (afterMerge active
        (mergeOrCreate config active task.entityEvent reply.now reply.eventId)) with
      owner := Function.update state.owner
        (mergeOrCreate config active task.entityEvent reply.now reply.eventId).eventId
        (some group) } := by
    refine ⟨fun _ _ found => found, fun eventId other known => ?_⟩
    refine owner_kept ?_ fresh known
    intro current is
    obtain ⟨grouped, ofKey⟩ := read current is
    exact grouped.owned.trans (congrArg some ofKey)
  have grouped := @grouped_mergeOrCreate config state group task active reply held read
  refine sound.stepped frame sound.entityEvents (fun _ _ found => Or.inl found) sound.rows ?_
    (fun _ flushing => Or.inl flushing)
  intro other next found
  rcases setMerge_running _ _ _ found running with ⟨rfl, rfl⟩ | ⟨-, unmoved⟩
  · refine Or.inr ⟨held.row, held.ofKey, ?_⟩
    cases active with
    | none => exact grouped
    | some current =>
        simp only [afterMerge]
        split
        · refine ⟨?_, grouped⟩
          intro event member
          exact ⟨current, (read current rfl).1.framed frame, (List.mem_singleton.mp member).symm⟩
        · exact grouped
  · exact Or.inl unmoved

theorem DerivedSound.replacing {active updated : ActiveEvent} {persist : PersistTask}
    {persisted : Persisted} {progress : Progress} {reply : Reply}
    (sound : DerivedSound past state) (running : state.merges group = some task)
    (at' : task.stage = .replace active updated persist)
    (moved : PersistStep state.entityEvents state.persisted persist reply persisted progress) :
    DerivedSound (state :: past) ({ state with persisted := persisted }.setMerge group
      (afterReplace active updated progress)) := by
  have held := sound.merges group task running
  have stage := held.stage
  rw [at'] at stage
  obtain ⟨grouped, ofUpdated⟩ := stage
  have frame : GroupFrame state ({ state with persisted := persisted }.setMerge group
      (afterReplace active updated progress)) := GroupFrame.of_same rfl rfl
  have given (event : Event) (member : event ∈ persist.events) : Persisting state event :=
    .merge (running.trans (by rw [← at'])) member
  refine sound.stepped frame sound.entityEvents (fun _ _ found => Or.inl found)
    (sound.rowsWritten moved grouped given) ?_ (fun _ flushing => Or.inl flushing)
  intro other later found
  rcases setMerge_running _ _ _ found running with ⟨rfl, rfl⟩ | ⟨-, unmoved⟩
  · refine Or.inr ⟨held.row, held.ofKey, ?_⟩
    cases is : progress with
    | running next =>
        exact ⟨(PersistGrouped.running moved grouped is).framed frame, ofUpdated.framed frame⟩
    | returned => exact ofUpdated.framed frame
    | raised => trivial
  · exact Or.inl unmoved

theorem DerivedSound.stored {updated : ActiveEvent} {active : Option ActiveEvent}
    {next : MergeStage} (sound : DerivedSound past state)
    (running : state.merges group = some task) (at' : task.stage = .upsert active updated)
    (moved : next = .onSuccess ∨ next = .upsert active updated ∨ next = .onFailure) :
    DerivedSound (state :: past) ({ state with
      store := Function.update state.store updated.group (some updated) }.setMerge group
      next) := by
  have held := sound.merges group task running
  have grouped := held.stage
  rw [at'] at grouped
  have frame : GroupFrame state ({ state with
      store := Function.update state.store updated.group (some updated) }.setMerge group
      next) := GroupFrame.of_same rfl rfl
  refine sound.stepped frame sound.entityEvents ?_ sound.rows ?_
    (fun _ flushing => Or.inl flushing)
  · intro other active found
    rcases of_update_some found with ⟨rfl, rfl⟩ | ⟨-, old⟩
    · exact Or.inr ⟨Grouped.framed frame grouped, rfl⟩
    · exact Or.inl old
  · intro other later found
    rcases setMerge_running _ _ _ found running with ⟨rfl, rfl⟩ | ⟨-, unmoved⟩
    · refine Or.inr ⟨held.row, held.ofKey, ?_⟩
      rcases moved with rfl | rfl | rfl
      · trivial
      · exact Grouped.framed frame grouped
      · trivial
    · exact Or.inl unmoved

theorem DerivedSound.mergeStep {after : AggregationState} {reply : Reply}
    (sound : DerivedSound past state) (running : state.merges group = some task)
    (moved : MergeStep config state group task reply after) :
    DerivedSound (state :: past) after := by
  have held := (sound.merges group task running).stage
  cases moved with
  | again =>
      exact sound.stepped (GroupFrame.of_same rfl rfl) sound.entityEvents
        (fun _ _ found => Or.inl found) sound.rows (fun _ _ found => Or.inl found)
        (fun _ flushing => Or.inl flushing)
  | failed | mapped | late => exact sound.setMerge running trivial
  | read => exact sound.setMerge running (stageGrouped_afterGetActive sound _)
  | merged at' _ _ fresh =>
      rw [at'] at held
      exact sound.merged running held fresh
  | replacing at' moved => exact sound.replacing running at' moved
  | stored at' _ moved => exact sound.stored running at' moved

end Merging

/-! ## Flushing and the rest -/

section Flushing
variable {past : List AggregationState} {state : AggregationState}

theorem flushGrouped_readNext {activeEvents : List ActiveEvent} (keys : List GroupKey)
    (grouped : ∀ active ∈ activeEvents, GroupedIn state active) :
    FlushGrouped state (readNext state.lastFlushed activeEvents keys) := by
  rcases readNext_cases state.lastFlushed activeEvents keys with
    ⟨key, rest, -, is⟩ | ⟨-, is, -⟩ | ⟨-, changed, is, read, -⟩ <;> rw [is]
  · exact grouped
  · trivial
  · intro event member
    obtain ⟨active, isChanged, rfl⟩ := List.mem_map.mp member
    exact ⟨active, grouped active (read active isChanged), rfl⟩

/-- Steps that write neither rows nor keys, and what they move. -/
theorem DerivedSound.moved {merges : GroupKey → Option MergeTask} {flush : Option FlushTask}
    {lastFlushed : UUID → Option Timestamp} (sound : DerivedSound past state)
    (mergesSound : ∀ group task, merges group = some task →
      state.merges group = some task ∨ TaskGrouped state group task)
    (flushSound : ∀ task, flush = some task → FlushGrouped state task) :
    DerivedSound (state :: past)
      { state with merges := merges, flush := flush, lastFlushed := lastFlushed } := by
  have frame : GroupFrame state
      { state with merges := merges, flush := flush, lastFlushed := lastFlushed } :=
    GroupFrame.of_same rfl rfl
  refine sound.stepped frame sound.entityEvents (fun _ _ found => Or.inl found) sound.rows ?_ ?_
  · intro group task found
    exact (mergesSound group task found).imp_right fun grouped => grouped.framed frame
  · intro task flushing
    exact Or.inr (FlushGrouped.framed frame (flushSound task flushing))

theorem DerivedSound.flushStep {after : AggregationState} {task : FlushTask} {reply : Reply}
    (sound : DerivedSound past state) (running : state.flush = some task)
    (moved : FlushStep state task reply after) : DerivedSound (state :: past) after := by
  have held := sound.flush task running
  cases moved with
  | again => exact sound.moved (fun _ _ found => Or.inl found) sound.flush
  | ended => exact sound.moved (fun _ _ found => Or.inl found) (by simp)
  | recorded => exact sound.moved (fun _ _ found => Or.inl found) (by simp)
  | scanned =>
      refine sound.moved (fun _ _ found => Or.inl found) ?_
      intro next same
      cases same
      exact flushGrouped_readNext _ (by simp)
  | @read key keys activeEvents at' =>
      subst at'
      refine sound.moved (fun _ _ found => Or.inl found) ?_
      intro next same
      cases same
      refine flushGrouped_readNext _ ?_
      intro active member
      rcases List.mem_append.mp member with old | new
      · exact held active old
      · exact (sound.store key active (by simpa using new)).1
  | @persisting activeEvents persist persisted progress at' moved =>
      subst at'
      have frame : GroupFrame state { state with
          persisted := persisted, flush := afterFlushPersist activeEvents progress } :=
        GroupFrame.of_same rfl rfl
      have given (event : Event) (member : event ∈ persist.events) : Persisting state event :=
        .flush running member
      refine sound.stepped frame sound.entityEvents (fun _ _ found => Or.inl found)
        (sound.rowsWritten moved held given) (fun _ _ found => Or.inl found) ?_
      intro task flushing
      have same : afterFlushPersist activeEvents progress = some task := flushing
      cases is : progress with
      | running later =>
          rw [is] at same
          cases same
          exact Or.inr (PersistGrouped.framed frame (PersistGrouped.running moved held is))
      | returned =>
          rw [is] at same
          cases same
          exact Or.inr trivial
      | raised =>
          rw [is] at same
          cases same

theorem DerivedSound.storedRow {row : EntityEvent} (sound : DerivedSound past state)
    (written : WrittenByPipeline row) (absent : state.entityEvents row.entityEventId = none) :
    DerivedSound (state :: past) { state with
      entityEvents := Function.update state.entityEvents row.entityEventId (some row) } := by
  have frame : GroupFrame state { state with
      entityEvents := Function.update state.entityEvents row.entityEventId (some row) } := by
    refine ⟨?_, fun _ _ known => known⟩
    intro id other found
    have apart : id ≠ row.entityEventId := by
      intro same
      rw [same, absent] at found
      cases found
    exact (Function.update_of_ne apart ..).trans found
  refine sound.stepped frame ?_ (fun _ _ found => Or.inl found) sound.rows
    (fun _ _ found => Or.inl found) (fun _ flushing => Or.inl flushing)
  constructor
  · intro id other found
    rcases of_update_some found with ⟨rfl, rfl⟩ | ⟨-, old⟩
    · rfl
    · exact sound.entityEvents.keyed id other old
  · intro id other found
    rcases of_update_some found with ⟨rfl, rfl⟩ | ⟨-, old⟩
    · exact written.apart
    · exact sound.entityEvents.apart id other old

end Flushing

theorem DerivedSound.step {config : AggregationConfig} {past : List AggregationState}
    {state after : AggregationState} {action : AggregationAction}
    (sound : DerivedSound past state) (permitted : storesPipelineRows state action)
    (moved : aggregationStep config state action = some after) :
    DerivedSound (state :: past) after := by
  cases action with
  | storeEntityEvent row =>
      obtain ⟨absent, rfl⟩ := storeEntityEvent_step moved
      exact sound.storedRow permitted absent
  | startMerge entityEventId =>
      obtain ⟨row, found, rfl⟩ := startMerge_step moved
      refine sound.moved ?_ sound.flush
      intro group task running
      rcases of_update_some running with ⟨rfl, rfl⟩ | ⟨-, old⟩
      · have key := sound.entityEvents.keyed _ row found
        exact Or.inr ⟨key ▸ found, rfl, trivial⟩
      · exact Or.inl old
  | resumeMerge group reply =>
      obtain ⟨task, running, moved⟩ := resumeMerge_step moved
      exact sound.mergeStep running moved
  | endMerge group =>
      cases endMerge_step moved
      refine sound.moved ?_ sound.flush
      intro other later found
      exact Or.inl (of_update_none found).2
  | expire group =>
      cases moved
      refine sound.stepped (GroupFrame.of_same rfl rfl) sound.entityEvents ?_ sound.rows
        (fun _ _ found => Or.inl found) (fun _ flushing => Or.inl flushing)
      intro other active found
      exact Or.inl (of_update_none found).2
  | startFlush =>
      cases startFlush_step moved
      refine sound.moved (fun _ _ found => Or.inl found) ?_
      intro task same
      cases same
      trivial
  | resumeFlush reply =>
      obtain ⟨task, running, moved⟩ := resumeFlush_step moved
      exact sound.flushStep running moved
  | stopFlush =>
      cases moved
      exact sound.moved (fun _ _ found => Or.inl found) (by simp)
  | crash =>
      cases moved
      exact sound.moved (by simp) (by simp)

theorem derivedSound_of_trace {config : AggregationConfig} {past : List AggregationState}
    {state : AggregationState}
    (trace : (aggregationMachine config).Trace storesPipelineRows past state) :
    DerivedSound past state := by
  apply trace.history_invariant
  · intro start begins
    rw [show start = AggregationState.initial from begins]
    exact derivedSound_initial
  · intro history before action after _ held permitted moved
    exact held.step permitted moved

theorem DerivedSound.grouped {past : List AggregationState} {state : AggregationState}
    (sound : DerivedSound past state) {event : Event} (persisting : Persisting state event) :
    ∃ version, GroupedIn state version ∧ version.toEvent = event := by
  cases persisting with
  | merge running member => exact (sound.merges _ _ running).stage.1 event member
  | flush running member => exact sound.flush _ running event member

/-- Whatever Event is persisted, its upsert goes through, and unless a version as new is
stored already it stores and returns a row with fields derived from the Event's constituents.
Every stored row was so derived. -/
theorem upsert_derives_fields (config : AggregationConfig) (past : List AggregationState)
    (state : AggregationState)
    (trace : (aggregationMachine config).Trace storesPipelineRows past state) :
    (∀ event, Persisting state event → ∀ order now,
      (NewOrNewer state.persisted.tables.events event → ∃ row after,
        upsertEvent order state.entityEvents now state.persisted.tables.events event =
          some (some row, after) ∧
        after event.eventId = some row ∧ DerivedFrom state.entityEvents event row) ∧
      (¬ NewOrNewer state.persisted.tables.events event →
        upsertEvent order state.entityEvents now state.persisted.tables.events event =
          some (none, state.persisted.tables.events))) ∧
    ∀ eventId row, state.persisted.tables.events eventId = some row →
      ∃ event, event.eventId = eventId ∧
        Once (fun earlier => Persisting earlier event) past state ∧
        DerivedFrom state.entityEvents event row := by
  have sound := derivedSound_of_trace trace
  constructor
  · intro event persisting order now
    obtain ⟨version, grouped, rfl⟩ := sound.grouped persisting
    refine upsertEvent_derived sound.entityEvents grouped order now ?_
    intro row found
    obtain ⟨other, ⟨otherGrouped, -⟩, same, written⟩ := sound.rows _ row found
    obtain ⟨ofId, ofGroup, -⟩ := written.fields
    have owned := otherGrouped.owned
    rw [same, grouped.owned, Option.some.injEq] at owned
    exact ⟨ofId.trans same, ofGroup.trans owned.symm⟩
  · intro eventId row found
    obtain ⟨version, ⟨grouped, given⟩, same, written⟩ := sound.rows eventId row found
    exact ⟨version.toEvent, same, given,
      derivedFrom_written sound.entityEvents grouped written⟩

/-! ## A run -/

theorem sampleEntityEvent_written (id : UUID) (hours : Timestamp) :
    WrittenByPipeline (sampleEntityEvent id hours) := by
  have found : (llmProcess sampleFolding (.create sampleFolding sampleStockList) 30000 sampleInput
      sampleResponse 0).map (fun result => result.entityEvents.map SkillEntity.verified) =
      .ok [⟨"HKEX", "00700", .earnings, none, .positive, 1⟩] := by decide +kernel
  cases returned : llmProcess sampleFolding (.create sampleFolding sampleStockList) 30000
      sampleInput sampleResponse 0 with
  | error error =>
      rw [returned] at found
      cases found
  | ok result =>
      rw [returned] at found
      exact ⟨_, _, _, _, _, _, result, ⟨id, "https://example.com/article", "HKEX",
          some (hours * 3600000000)⟩, [], [(_, ⟨id, hours * 3600000000⟩)], _, _, returned,
        (Except.ok.inj found).symm, rfl, List.mem_singleton_self _, List.not_mem_nil⟩

def storesPipelineRowsCheck (_ : AggregationState) : AggregationAction → Bool
  | .storeEntityEvent row =>
      decide (row = sampleEntityEvent row.entityEventId (row.createdAt / 3600000000))
  | _ => true

theorem storesPipelineRowsCheck_sound (state : AggregationState) (action : AggregationAction)
    (checked : storesPipelineRowsCheck state action = true) :
    storesPipelineRows state action := by
  cases action with
  | storeEntityEvent row =>
      have same : row = sampleEntityEvent row.entityEventId (row.createdAt / 3600000000) :=
        of_decide_eq_true checked
      rw [same]
      exact sampleEntityEvent_written _ _
  | startMerge | resumeMerge | endMerge | expire | startFlush | resumeFlush | stopFlush
  | crash => trivial

/-- One Event of what the flush persists: whether no version of it is stored, and the derived
fields of the row that its upsert returns. -/
structure FlushedRow where
  constituents : List UUID
  unstored : Bool
  derived : Option (List EntitySource × List EventTypeEnum)
  deriving DecidableEq

def flushedRows (state : AggregationState) : List FlushedRow :=
  match state.flush with
  | some (.persist _ persist) => persist.events.map fun event =>
      ⟨event.entityEventIds, (state.persisted.tables.events event.eventId).isNone,
        (upsertEvent (RowOrder.stored _) state.entityEvents 0 state.persisted.tables.events
          event).bind fun (returned, _) =>
            returned.map fun row => (row.sourceList, row.eventTypeSecondary)⟩
  | _ => []

/-- Two reports of one source are merged, the later one first: the row that is stored has one
source, with the time of the later report. -/
theorem upsert_derives_fields_merged : ∃ past state event row after,
    (aggregationMachine defaultAggregationConfig).Trace storesPipelineRows past state ∧
    Persisting state event ∧ event.entityEventIds = [1, 2] ∧
    upsertEvent (RowOrder.stored _) state.entityEvents 0 state.persisted.tables.events event =
      some (some row, after) ∧
    after event.eventId = some row ∧ DerivedFrom state.entityEvents event row ∧
    row.sourceList = [⟨"HKEX", "https://example.com/article", 7200000000⟩] ∧
    row.eventTypeSecondary = [] := by
  obtain ⟨past, state, trace, seen⟩ :=
    Trace.of_run_view (aggregationMachine defaultAggregationConfig) storesPipelineRowsCheck
      flushedRows
      [⟨[1, 2], true, some ([⟨"HKEX", "https://example.com/article", 7200000000⟩], [])⟩]
      (fun _ state action _ => storesPipelineRowsCheck_sound state action) rfl
      ([.storeEntityEvent (sampleEntityEvent 1 2), .storeEntityEvent (sampleEntityEvent 2 1),
        .startMerge 1] ++ mergeOn 3 0 10 ++ [.endMerge sampleGroup, .startMerge 2] ++
        mergeOn 3 1 11 ++ [.endMerge sampleGroup, .startFlush] ++ flushOn 2)
      (by decide +kernel)
  unfold flushedRows at seen
  split at seen
  · rename_i activeEvents persist running
    obtain ⟨event, only, is⟩ := List.map_eq_singleton_iff.mp seen
    simp only [FlushedRow.mk.injEq] at is
    obtain ⟨ids, unstored, written⟩ := is
    have persisting : Persisting state event := .flush running (by simp [only])
    have new : NewOrNewer state.persisted.tables.events event := by
      intro row stored
      rw [stored] at unstored
      cases unstored
    obtain ⟨row, after, returned, stored, derived⟩ :=
      ((upsert_derives_fields _ past state trace).1 event persisting (RowOrder.stored _) 0).1 new
    simp only [returned, Option.bind_some, Option.map_some, Option.some.injEq,
      Prod.mk.injEq] at written
    exact ⟨past, state, event, row, after, trace, persisting, ids, returned, stored, derived,
      written⟩
  · cases seen

end WealthFinder.Pipeline
