import WealthFinder.Pipeline.AggregationSteps

/-!
# Exclusive Event membership

An EntityEvent is located at an Event when it is mapped to it or listed by it in
the store.  No step takes a location away, and the only step that adds one
stores the merged Event of an EntityEvent that had none.
-/

set_option autoImplicit false

namespace WealthFinder.Pipeline

open Machine

def Located (state : AggregationState) (id eventId : UUID) : Prop :=
  Member state.persisted.tables eventId id ∨
    ∃ group active, state.store group = some active ∧ active.eventId = eventId ∧
      id ∈ active.entityEventIds

/-- A key expires only once the Event it holds has been committed. -/
def expiresCommitted (state : AggregationState) : AggregationAction → Prop
  | .expire group => ∀ active, state.store group = some active →
      Record.committed active.toEvent ∈ state.persisted.log
  | _ => True

/-! ## The invariant -/

/-- The active Event belongs to the group, with every constituent. -/
structure OfGroup (state : AggregationState) (group : GroupKey) (active : ActiveEvent) :
    Prop where
  ofKey : active.group = group
  owner : state.owner active.eventId = some group
  distinct : active.entityEventIds.Nodup
  rows : ∀ id ∈ active.entityEventIds, ∃ row, state.entityEvents id = some row ∧
    row.groupKey = group

/-- The members of a snapshot that has left the store's hands stay located. -/
def Carried (state : AggregationState) (event : Event) : Prop :=
  ∀ id ∈ event.entityEventIds, Located state id event.eventId

/-- What a merge relies on about the active Event it has read. -/
structure SeenActive (state : AggregationState) (group : GroupKey)
    (active : Option ActiveEvent) (id : UUID) : Prop where
  current : ∀ stored, state.store group = some stored → active = some stored
  ofGroup : ∀ event, active = some event → OfGroup state group event
  carried : ∀ event, active = some event → Carried state event.toEvent
  absent : ∀ event, active = some event → id ∉ event.entityEventIds

/-- Storing the merged Event takes no location away and contradicts none. -/
structure ReadyToStore (state : AggregationState) (group : GroupKey)
    (updated : ActiveEvent) : Prop where
  ofGroup : OfGroup state group updated
  only : ∀ id ∈ updated.entityEventIds, ∀ eventId, Located state id eventId →
    eventId = updated.eventId
  replaceable : ∀ stored, state.store group = some stored →
    ∀ id ∈ stored.entityEventIds,
      (stored.eventId = updated.eventId ∧ id ∈ updated.entityEventIds) ∨
        Member state.persisted.tables stored.eventId id

def StageSound (state : AggregationState) (group : GroupKey) (entityEvent : EntityEvent) :
    MergeStage → Prop
  | .getActiveEvent => True
  | .isMerged active => SeenActive state group active entityEvent.entityEventId
  | .replace active updated persist =>
      SeenActive state group (some active) entityEvent.entityEventId ∧
      OfGroup state group updated ∧ updated.entityEventIds = [entityEvent.entityEventId] ∧
      (∀ eventId, ¬ Located state entityEvent.entityEventId eventId) ∧
      persist.events = [active.toEvent] ∧
      (persist.stage ≠ .persistEvents → ∀ id ∈ active.entityEventIds,
        Member state.persisted.tables active.eventId id)
  | .upsert _ updated => ReadyToStore state group updated
  | .onSuccess => True
  | .onFailure => True

structure TaskSound (state : AggregationState) (group : GroupKey) (task : MergeTask) :
    Prop where
  row : state.entityEvents task.entityEvent.entityEventId = some task.entityEvent
  ofKey : task.entityEvent.groupKey = group
  stage : StageSound state group task.entityEvent task.stage

def FlushSound (state : AggregationState) : FlushTask → Prop
  | .scan => True
  | .read _ _ activeEvents => ∀ active ∈ activeEvents, Carried state active.toEvent
  | .persist _ task => ∀ event ∈ task.events, Carried state event
  | .record _ => True

structure MembershipSound (state : AggregationState) : Prop where
  keyed : ∀ id row, state.entityEvents id = some row → row.entityEventId = id
  stored : ∀ group active, state.store group = some active → OfGroup state group active
  exclusive : ∀ id first second, Located state id first → Located state id second →
    first = second
  committed : ∀ event, Record.committed event ∈ state.persisted.log →
    ∀ id ∈ event.entityEventIds, Member state.persisted.tables event.eventId id
  merges : ∀ group task, state.merges group = some task → TaskSound state group task
  flush : ∀ task, state.flush = some task → FlushSound state task

theorem membershipSound_initial : MembershipSound AggregationState.initial where
  keyed := by intro _ _ found; cases found
  stored := by intro _ _ found; cases found
  exclusive := by
    rintro _ _ _ (⟨_, found, _⟩ | ⟨_, _, found, _⟩) <;> cases found
  committed := by intro _ member; cases member
  merges := by intro _ _ running; cases running
  flush := by intro _ running; cases running

/-! ## What every step respects -/

/-- Tables and locations grow; new locations are of EntityEvents of the acting
group, and no other group's key is written. -/
structure Frame (acting : Option GroupKey) (before after : AggregationState) : Prop where
  entityEvents : ∀ id row, before.entityEvents id = some row →
    after.entityEvents id = some row
  owner : ∀ eventId group, before.owner eventId = some group →
    after.owner eventId = some group
  member : ∀ eventId id, Member before.persisted.tables eventId id →
    Member after.persisted.tables eventId id
  located : ∀ id eventId, Located before id eventId → Located after id eventId
  new : ∀ id eventId, Located after id eventId → Located before id eventId ∨
    ∃ row, before.entityEvents id = some row ∧ acting = some row.groupKey
  store : ∀ group, acting ≠ some group → ∀ stored, after.store group = some stored →
    before.store group = some stored

section Frame
variable {acting : Option GroupKey} {before after : AggregationState}
  (frame : Frame acting before after)
include frame

theorem OfGroup.framed {group : GroupKey} {active : ActiveEvent}
    (ofGroup : OfGroup before group active) : OfGroup after group active where
  ofKey := ofGroup.ofKey
  owner := frame.owner _ _ ofGroup.owner
  distinct := ofGroup.distinct
  rows := by
    intro id member
    obtain ⟨row, found, same⟩ := ofGroup.rows id member
    exact ⟨row, frame.entityEvents id row found, same⟩

theorem Carried.framed {event : Event} (carried : Carried before event) :
    Carried after event :=
  fun id member => frame.located id _ (carried id member)

/-- An EntityEvent of another group gets no new location. -/
theorem Frame.old {id eventId : UUID} {row : EntityEvent} {group : GroupKey}
    (found : before.entityEvents id = some row) (ofGroup : row.groupKey = group)
    (apart : acting ≠ some group) (located : Located after id eventId) :
    Located before id eventId := by
  rcases frame.new id eventId located with old | ⟨other, otherFound, isActing⟩
  · exact old
  · rw [found, Option.some.injEq] at otherFound
    subst otherFound
    exact absurd (ofGroup ▸ isActing) apart

theorem SeenActive.framed {group : GroupKey} {active : Option ActiveEvent} {id : UUID}
    (apart : acting ≠ some group) (seen : SeenActive before group active id) :
    SeenActive after group active id where
  current := fun stored found => seen.current stored (frame.store group apart stored found)
  ofGroup := fun event same => (seen.ofGroup event same).framed frame
  carried := fun event same => (seen.carried event same).framed frame
  absent := seen.absent

theorem ReadyToStore.framed {group : GroupKey} {updated : ActiveEvent}
    (apart : acting ≠ some group) (ready : ReadyToStore before group updated) :
    ReadyToStore after group updated where
  ofGroup := ready.ofGroup.framed frame
  only := by
    intro id member eventId located
    obtain ⟨row, found, ofGroup⟩ := ready.ofGroup.rows id member
    exact ready.only id member eventId (frame.old found ofGroup apart located)
  replaceable := by
    intro stored found id member
    rcases ready.replaceable stored (frame.store group apart stored found) id member with
      kept | mapped
    · exact Or.inl kept
    · exact Or.inr (frame.member _ _ mapped)

theorem TaskSound.framed {group : GroupKey} {task : MergeTask}
    (apart : acting ≠ some group) (sound : TaskSound before group task) :
    TaskSound after group task where
  row := frame.entityEvents _ _ sound.row
  ofKey := sound.ofKey
  stage := by
    have held := sound.stage
    cases stage : task.stage with
    | getActiveEvent | onSuccess | onFailure => trivial
    | isMerged active =>
        rw [stage] at held
        exact SeenActive.framed frame apart held
    | upsert active updated =>
        rw [stage] at held
        exact ReadyToStore.framed frame apart held
    | replace active updated persist =>
        rw [stage] at held
        obtain ⟨seen, ofGroup, ids, unlocated, events, mapped⟩ := held
        refine ⟨seen.framed frame apart, ofGroup.framed frame, ids, ?_, events, ?_⟩
        · intro eventId located
          exact unlocated eventId (frame.old sound.row sound.ofKey apart located)
        · intro later id member
          exact frame.member _ _ (mapped later id member)

theorem FlushSound.framed {task : FlushTask} (sound : FlushSound before task) :
    FlushSound after task := by
  cases task with
  | scan | record => trivial
  | read key keys activeEvents => exact fun active member => (sound active member).framed frame
  | persist activeEvents task => exact fun event member => (sound event member).framed frame

end Frame

/-- A step that only moves coroutines. -/
theorem Frame.of_same {acting : Option GroupKey} {before after : AggregationState}
    (entityEvents : after.entityEvents = before.entityEvents)
    (owner : after.owner = before.owner) (persisted : after.persisted = before.persisted)
    (store : after.store = before.store) : Frame acting before after := by
  constructor
  · rw [entityEvents]
    exact fun _ _ found => found
  · rw [owner]
    exact fun _ _ found => found
  · rw [persisted]
    exact fun _ _ member => member
  · unfold Located
    rw [persisted, store]
    exact fun _ _ located => located
  · unfold Located
    rw [persisted, store]
    exact fun _ _ located => Or.inl located
  · rw [store]
    exact fun _ _ _ found => found

/-- Only the acting group's coroutine and the flush are left to be shown sound. -/
theorem MembershipSound.stepped {acting : Option GroupKey} {before after : AggregationState}
    (sound : MembershipSound before) (frame : Frame acting before after)
    (keyed : ∀ id row, after.entityEvents id = some row → row.entityEventId = id)
    (stored : ∀ group active, after.store group = some active →
      before.store group = some active ∨ OfGroup after group active)
    (exclusive : ∀ id first second, Located after id first → Located after id second →
      first = second)
    (committed : ∀ event, Record.committed event ∈ after.persisted.log →
      Record.committed event ∈ before.persisted.log ∨
      ∀ id ∈ event.entityEventIds, Member after.persisted.tables event.eventId id)
    (merges : ∀ group task, after.merges group = some task →
      (acting ≠ some group ∧ before.merges group = some task) ∨ TaskSound after group task)
    (flush : ∀ task, after.flush = some task →
      before.flush = some task ∨ FlushSound after task) : MembershipSound after where
  keyed := keyed
  stored := by
    intro group active found
    rcases stored group active found with old | new
    · exact (sound.stored group active old).framed frame
    · exact new
  exclusive := exclusive
  committed := by
    intro event logged
    rcases committed event logged with old | new
    · exact fun id member => frame.member _ _ (sound.committed event old id member)
    · exact new
  merges := by
    intro group task running
    rcases merges group task running with ⟨apart, old⟩ | new
    · exact (sound.merges group task old).framed frame apart
    · exact new
  flush := by
    intro task running
    rcases flush task running with old | new
    · exact (sound.flush task old).framed frame
    · exact new

/-! ## Persisting -/

section Persisting
variable {before after : AggregationState} {task : PersistTask} {reply : Reply}
  {progress : Progress} (sound : MembershipSound before)
  (carried : ∀ event ∈ task.events, Carried before event)
  (moved : PersistStep before.entityEvents before.persisted task reply after.persisted
    progress)
  (store : after.store = before.store)
include carried moved store

/-- Only members that are located already are mapped. -/
theorem located_of_persistStep (id eventId : UUID) :
    Located after id eventId ↔ Located before id eventId := by
  unfold Located
  rw [store]
  refine ⟨?_, ?_⟩
  · rintro (member | stored)
    · rcases moved.new_member member with old | ⟨event, eventIn, rfl, listed⟩
      · exact Or.inl old
      · exact carried event eventIn id listed
    · exact Or.inr stored
  · rintro (member | stored)
    · exact Or.inl (moved.member member)
    · exact Or.inr stored

theorem frame_of_persistStep (entityEvents : after.entityEvents = before.entityEvents)
    (owner : after.owner = before.owner) (acting : Option GroupKey) :
    Frame acting before after := by
  have same := located_of_persistStep carried moved store
  constructor
  · rw [entityEvents]
    exact fun _ _ found => found
  · rw [owner]
    exact fun _ _ found => found
  · exact fun _ _ => moved.member
  · exact fun id eventId => (same id eventId).mpr
  · exact fun id eventId located => Or.inl ((same id eventId).mp located)
  · rw [store]
    exact fun _ _ _ found => found

include sound

theorem exclusive_of_persistStep (id first second : UUID) (atFirst : Located after id first)
    (atSecond : Located after id second) : first = second := by
  have same := located_of_persistStep carried moved store
  exact sound.exclusive id first second ((same id first).mp atFirst) ((same id second).mp atSecond)

/-- Once every member of a carried Event is mapped, it is mapped to that Event. -/
theorem member_of_covers {event : Event} (eventIn : event ∈ task.events)
    (covers : Covers after.persisted.tables task.events) :
    ∀ id ∈ event.entityEventIds, Member after.persisted.tables event.eventId id := by
  intro id listed
  obtain ⟨mapping, found⟩ := covers event eventIn id listed
  have mapped : Located after id mapping.eventId := Or.inl ⟨mapping, found, rfl⟩
  have here : Located after id event.eventId :=
    (located_of_persistStep carried moved store id _).mpr (carried event eventIn id listed)
  exact ⟨mapping, found,
    exclusive_of_persistStep sound carried moved store id _ _ mapped here⟩

end Persisting

/-! ## Merging -/

section Merging
variable {config : AggregationConfig} {state : AggregationState} {group : GroupKey}
  {task : MergeTask}

theorem MembershipSound.setMerge (sound : MembershipSound state)
    (running : state.merges group = some task) {stage : MergeStage}
    (stageSound : StageSound state group task.entityEvent stage) :
    MembershipSound (state.setMerge group stage) := by
  have frame : Frame none state (state.setMerge group stage) := Frame.of_same rfl rfl rfl rfl
  have held := sound.merges group task running
  have next : TaskSound state group { task with stage := stage } :=
    ⟨held.row, held.ofKey, stageSound⟩
  refine sound.stepped frame sound.keyed (fun _ _ found => Or.inl found) sound.exclusive
    (fun _ logged => Or.inl logged) ?_ (fun _ flushing => Or.inl flushing)
  intro other later found
  rcases setMerge_running _ _ _ found running with ⟨rfl, rfl⟩ | ⟨-, unmoved⟩
  · exact Or.inr (next.framed frame (by simp))
  · exact Or.inl ⟨by simp, unmoved⟩

theorem stageSound_afterGetActive (sound : MembershipSound state) (entityEvent : EntityEvent) :
    StageSound state group entityEvent (afterGetActive (state.store group) entityEvent) := by
  cases found : state.store group with
  | none =>
      refine ⟨?_, ?_, ?_, ?_⟩
      · intro stored other
        rw [found] at other
        cases other
      all_goals intro event same; cases same
  | some current =>
      by_cases present : entityEvent.entityEventId ∈ current.entityEventIds
      · simp only [afterGetActive, present, if_true]
        trivial
      · simp only [afterGetActive, present, if_false]
        refine ⟨?_, ?_, ?_, ?_⟩
        · intro stored other
          rw [← found, other]
        · intro event same
          cases same
          exact sound.stored group current found
        · intro event same
          cases same
          exact fun id listed => Or.inr ⟨group, current, found, rfl, listed⟩
        · intro event same
          cases same
          exact present

/-- An EntityEvent that is neither mapped nor in the active Event its merge has
read is located nowhere. -/
theorem SeenActive.unlocated {active : Option ActiveEvent} (sound : MembershipSound state)
    (held : TaskSound state group task)
    (seen : SeenActive state group active task.entityEvent.entityEventId)
    (unmapped : state.persisted.tables.entityMap task.entityEvent.entityEventId = none)
    (eventId : UUID) : ¬ Located state task.entityEvent.entityEventId eventId := by
  rintro (⟨mapping, found, -⟩ | ⟨other, stored, found, -, listed⟩)
  · rw [unmapped] at found
    cases found
  · obtain ⟨row, rowFound, rowGroup⟩ := (sound.stored other stored found).rows _ listed
    rw [held.row, Option.some.injEq] at rowFound
    subst rowFound
    have same : other = group := rowGroup.symm.trans held.ofKey
    subst same
    exact seen.absent stored (seen.current stored found) listed

theorem stageSound_afterMerge {after : AggregationState} {active : Option ActiveEvent}
    {reply : Reply} (sound : MembershipSound state) (held : TaskSound state group task)
    (seen : SeenActive state group active task.entityEvent.entityEventId)
    (unmapped : state.persisted.tables.entityMap task.entityEvent.entityEventId = none)
    (fresh : state.owner reply.eventId = none) (frame : Frame none state after)
    (owner : after.owner
      (mergeOrCreate config active task.entityEvent reply.now reply.eventId).eventId =
      some group) :
    StageSound after group task.entityEvent (afterMerge active
      (mergeOrCreate config active task.entityEvent reply.now reply.eventId)) := by
  have nowhere := seen.unlocated sound held unmapped
  have row := frame.entityEvents _ _ held.row
  rcases mergeOrCreate_cases config active task.entityEvent reply.now reply.eventId with
    ⟨current, rfl, -, is⟩ | is
  · -- the active Event extended by the EntityEvent
    rw [is] at owner ⊢
    have ofGroup := (seen.ofGroup current rfl).framed frame
    have absent := seen.absent current rfl
    have same : (extendEvent current task.entityEvent reply.now).eventId = current.eventId := rfl
    simp only [afterMerge, same, ne_eq, not_true_eq_false, if_false]
    refine ⟨⟨ofGroup.ofKey, owner, ?_, ?_⟩, ?_, ?_⟩
    · have disjoint : List.Disjoint current.entityEventIds [task.entityEvent.entityEventId] := by
        simpa using absent
      exact ofGroup.distinct.append (List.nodup_singleton _) disjoint
    · intro id listed
      rcases List.mem_append.mp listed with old | new
      · exact ofGroup.rows id old
      · rw [List.mem_singleton.mp new]
        exact ⟨task.entityEvent, row, held.ofKey⟩
    · intro id listed eventId located
      rcases List.mem_append.mp listed with old | new
      · obtain ⟨member, found, memberGroup⟩ := (seen.ofGroup current rfl).rows id old
        exact sound.exclusive id _ _ (frame.old found memberGroup (by simp) located)
          (seen.carried current rfl id old)
      · rw [List.mem_singleton.mp new] at located
        exact absurd (frame.old held.row held.ofKey (by simp) located) (nowhere eventId)
    · intro stored found id listed
      have known := seen.current stored (frame.store group (by simp) stored found)
      cases known
      exact Or.inl ⟨rfl, List.mem_append_left _ listed⟩
  · rw [is] at owner ⊢
    have ofGroup : OfGroup after group
        (createEvent task.entityEvent reply.now reply.eventId) := by
      refine ⟨held.ofKey, owner, List.nodup_singleton _, ?_⟩
      intro id listed
      rw [List.mem_singleton.mp listed]
      exact ⟨task.entityEvent, row, held.ofKey⟩
    have nowhereAfter (eventId : UUID) :
        ¬ Located after task.entityEvent.entityEventId eventId := fun located =>
      nowhere eventId (frame.old held.row held.ofKey (by simp) located)
    cases active with
    | none =>
        refine ⟨ofGroup, ?_, ?_⟩
        · intro id listed eventId located
          rw [List.mem_singleton.mp listed] at located
          exact absurd located (nowhereAfter eventId)
        · intro stored found
          cases seen.current stored (frame.store group (by simp) stored found)
    | some current =>
        have apart : (createEvent task.entityEvent reply.now reply.eventId).eventId ≠
            current.eventId := by
          intro same
          have owned := (seen.ofGroup current rfl).owner
          rw [← same] at owned
          exact absurd (fresh.symm.trans owned) (by simp)
        simp only [afterMerge, ne_eq, apart, not_false_eq_true, if_true]
        exact ⟨seen.framed frame (by simp), ofGroup, rfl, nowhereAfter, rfl,
          fun later => absurd rfl later⟩

theorem MembershipSound.merged {active : Option ActiveEvent} {reply : Reply}
    (sound : MembershipSound state) (running : state.merges group = some task)
    (seen : SeenActive state group active task.entityEvent.entityEventId)
    (unmapped : state.persisted.tables.entityMap task.entityEvent.entityEventId = none)
    (fresh : state.owner reply.eventId = none) :
    MembershipSound { state.setMerge group (afterMerge active
        (mergeOrCreate config active task.entityEvent reply.now reply.eventId)) with
      owner := Function.update state.owner
        (mergeOrCreate config active task.entityEvent reply.now reply.eventId).eventId
        (some group) } := by
  have held := sound.merges group task running
  have owned : ∀ eventId other, state.owner eventId = some other →
      Function.update state.owner
        (mergeOrCreate config active task.entityEvent reply.now reply.eventId).eventId
        (some group) eventId = some other := by
    intro eventId other known
    refine owner_kept ?_ fresh known
    intro current is
    exact (seen.ofGroup current is).owner
  have frame : Frame none state { state.setMerge group (afterMerge active
        (mergeOrCreate config active task.entityEvent reply.now reply.eventId)) with
      owner := Function.update state.owner
        (mergeOrCreate config active task.entityEvent reply.now reply.eventId).eventId
        (some group) } :=
    ⟨fun _ _ found => found, owned, fun _ _ member => member, fun _ _ located => located,
      fun _ _ located => Or.inl located, fun _ _ _ found => found⟩
  refine sound.stepped frame sound.keyed (fun _ _ found => Or.inl found) sound.exclusive
    (fun _ logged => Or.inl logged) ?_ (fun _ flushing => Or.inl flushing)
  intro other later found
  rcases setMerge_running _ _ _ found running with ⟨rfl, rfl⟩ | ⟨-, unmoved⟩
  · exact Or.inr ⟨frame.entityEvents _ _ held.row, held.ofKey,
      @stageSound_afterMerge config state other task _ active reply sound held seen unmapped
        fresh frame (by simp)⟩
  · exact Or.inl ⟨by simp, unmoved⟩

theorem MembershipSound.replacing {active updated : ActiveEvent} {persist : PersistTask}
    {persisted : Persisted} {progress : Progress} {reply : Reply}
    (sound : MembershipSound state) (running : state.merges group = some task)
    (at' : task.stage = .replace active updated persist)
    (moved : PersistStep state.entityEvents state.persisted persist reply persisted progress) :
    MembershipSound ({ state with persisted := persisted }.setMerge group
      (afterReplace active updated progress)) := by
  have held := sound.merges group task running
  have stageHeld := held.stage
  rw [at'] at stageHeld
  obtain ⟨seen, ofGroup, ids, nowhere, events, mapped⟩ := stageHeld
  have carried : ∀ event ∈ persist.events, Carried state event := by
    rw [events]
    intro event member
    rw [List.mem_singleton.mp member]
    exact seen.carried active rfl
  have frame : Frame none state { state with persisted := persisted } :=
    @frame_of_persistStep state { state with persisted := persisted } persist reply progress
      carried moved rfl rfl rfl none
  have members : (progress ≠ .raised) → (∀ later, progress = .running later →
      later.stage ≠ .persistEvents) → ∀ id ∈ active.entityEventIds,
      Member persisted.tables active.eventId id := by
    intro notRaised beyond
    have covered : persist.stage ≠ .persistEvents ∨
        Covers persisted.tables persist.events := by
      cases is : progress with
      | running later => exact ((moved.running is).2 (beyond later is)).imp_right Committing.covers
      | returned => exact Or.inl (moved.returned is)
      | raised => exact absurd is notRaised
    rcases covered with already | covers
    · exact fun id listed => moved.member (mapped already id listed)
    · exact @member_of_covers state { state with persisted := persisted } persist reply
        progress sound carried moved rfl active.toEvent (by simp [events]) covers
  have between : MembershipSound { state with persisted := persisted } := by
    refine sound.stepped frame sound.keyed (fun _ _ found => Or.inl found)
      (exclusive_of_persistStep sound carried moved rfl) ?_
      (fun _ _ other => Or.inl ⟨by simp, other⟩) (fun _ flushing => Or.inl flushing)
    intro event logged
    rcases moved.logged logged with old | ⟨eventIn, committed⟩
    · exact Or.inl old
    · exact Or.inr (@member_of_covers state { state with persisted := persisted } persist
        reply progress sound carried moved rfl event eventIn committed.covers)
  refine between.setMerge running ?_
  have seenAfter := seen.framed frame (by simp)
  have ofGroupAfter := ofGroup.framed frame
  have nowhereAfter (eventId : UUID) : ¬ Located { state with persisted := persisted }
      task.entityEvent.entityEventId eventId := fun located =>
    nowhere eventId (frame.old held.row held.ofKey (by simp) located)
  cases is : progress with
  | running later =>
      obtain ⟨sameEvents, -⟩ := moved.running is
      refine ⟨seenAfter, ofGroupAfter, ids, nowhereAfter, sameEvents.trans events, ?_⟩
      intro beyond
      exact members (by simp [is]) (fun other same => by
        rw [is] at same
        cases same
        exact beyond)
  | returned =>
      refine ⟨ofGroupAfter, ?_, ?_⟩
      · intro id listed eventId located
        rw [ids, List.mem_singleton] at listed
        rw [listed] at located
        exact absurd located (nowhereAfter eventId)
      · intro stored found id listed
        have known := seen.current stored found
        cases known
        exact Or.inr (members (by simp [is]) (by simp [is]) id listed)
  | raised => trivial

theorem MembershipSound.stored_merged {active : Option ActiveEvent} {updated : ActiveEvent}
    {next : MergeStage} (sound : MembershipSound state)
    (running : state.merges group = some task) (at' : task.stage = .upsert active updated)
    (moved : next = .onSuccess ∨ next = .upsert active updated ∨ next = .onFailure) :
    MembershipSound ({ state with
      store := Function.update state.store updated.group (some updated) }.setMerge
      group next) := by
  have held := sound.merges group task running
  have ready := held.stage
  rw [at'] at ready
  obtain ⟨ofGroup, only, replaceable⟩ := ready
  have key : updated.group = group := ofGroup.ofKey
  rw [key]
  let after : AggregationState := { state with
    store := Function.update state.store group (some updated) }
  have locatedAfter (id eventId : UUID) (located : Located after id eventId) :
      Located state id eventId ∨ (id ∈ updated.entityEventIds ∧ eventId = updated.eventId) := by
    rcases located with member | ⟨other, stored, found, rfl, listed⟩
    · exact Or.inl (Or.inl member)
    · by_cases same : other = group
      · subst same
        simp only [after, Function.update_self, Option.some.injEq] at found
        subst found
        exact Or.inr ⟨listed, rfl⟩
      · simp only [after, ne_eq, same, not_false_eq_true, Function.update_of_ne] at found
        exact Or.inl (Or.inr ⟨other, stored, found, rfl, listed⟩)
  have frame : Frame (some group) state after := by
    refine ⟨fun _ _ found => found, fun _ _ known => known, fun _ _ member => member,
      ?_, ?_, ?_⟩
    · rintro id eventId (member | ⟨other, stored, found, rfl, listed⟩)
      · exact Or.inl member
      · by_cases same : other = group
        · subst same
          rcases replaceable stored found id listed with ⟨sameEvent, listedAgain⟩ | mapped
          · exact Or.inr ⟨other, updated, by simp [after], sameEvent.symm, listedAgain⟩
          · exact Or.inl mapped
        · exact Or.inr ⟨other, stored, by simpa [after, same] using found, rfl, listed⟩
    · intro id eventId located
      rcases locatedAfter id eventId located with old | ⟨listed, -⟩
      · exact Or.inl old
      · obtain ⟨row, found, rowGroup⟩ := ofGroup.rows id listed
        exact Or.inr ⟨row, found, by rw [rowGroup]⟩
    · intro other apart stored found
      have different : other ≠ group := fun same => apart (by rw [same])
      simpa [after, different] using found
  have between : MembershipSound after := by
    refine sound.stepped frame sound.keyed ?_ ?_ (fun _ logged => Or.inl logged) ?_
      (fun _ flushing => Or.inl flushing)
    · intro other stored found
      by_cases same : other = group
      · subst same
        simp only [after, Function.update_self, Option.some.injEq] at found
        exact Or.inr (found ▸ ofGroup.framed frame)
      · exact Or.inl (by simpa [after, same] using found)
    · intro id first second atFirst atSecond
      rcases locatedAfter id first atFirst with old | ⟨listed, same⟩
      · rcases locatedAfter id second atSecond with old' | ⟨listed', same'⟩
        · exact sound.exclusive id first second old old'
        · exact (only id listed' first old).trans same'.symm
      · rcases locatedAfter id second atSecond with old' | ⟨-, same'⟩
        · exact same.trans (only id listed second old').symm
        · exact same.trans same'.symm
    · intro other later found
      by_cases same : some group = some other
      · cases same
        refine Or.inr ?_
        change state.merges group = some later at found
        rw [running, Option.some.injEq] at found
        subst found
        refine ⟨held.row, held.ofKey, ?_⟩
        rw [at']
        refine ⟨ofGroup.framed frame, ?_, ?_⟩
        · intro id listed eventId located
          rcases locatedAfter id eventId located with old | ⟨-, sameEvent⟩
          · exact only id listed eventId old
          · exact sameEvent
        · intro stored storedFound id listed
          simp only [after, Function.update_self, Option.some.injEq] at storedFound
          subst storedFound
          exact Or.inl ⟨rfl, listed⟩
      · exact Or.inl ⟨same, found⟩
  refine MembershipSound.setMerge between running ?_
  rcases moved with rfl | rfl | rfl
  · trivial
  · have again := (between.merges group task running).stage
    rw [at'] at again
    exact again
  · trivial

theorem MembershipSound.mergeStep {reply : Reply} {after : AggregationState}
    (sound : MembershipSound state) (running : state.merges group = some task)
    (moved : MergeStep config state group task reply after) : MembershipSound after := by
  have held := (sound.merges group task running).stage
  cases moved with
  | again => exact sound
  | failed | mapped | late => exact sound.setMerge running trivial
  | read => exact sound.setMerge running (stageSound_afterGetActive sound _)
  | merged at' _ unmapped fresh =>
      rw [at'] at held
      exact sound.merged running held unmapped fresh
  | replacing at' moved => exact sound.replacing running at' moved
  | stored at' _ moved => exact sound.stored_merged running at' moved

end Merging

/-! ## Flushing and the rest -/

theorem flushSound_readNext {state : AggregationState} (lastFlushed : UUID → Option Timestamp)
    {activeEvents : List ActiveEvent} (keys : List GroupKey)
    (carried : ∀ active ∈ activeEvents, Carried state active.toEvent) :
    FlushSound state (readNext lastFlushed activeEvents keys) := by
  rcases readNext_cases lastFlushed activeEvents keys with
    ⟨key, rest, -, is⟩ | ⟨-, is, -⟩ | ⟨-, changed, is, read, -⟩ <;> rw [is]
  · exact carried
  · trivial
  · intro event member
    obtain ⟨active, isChanged, rfl⟩ := List.mem_map.mp member
    exact carried active (read active isChanged)

/-- Steps of the flush that only move the flush. -/
theorem MembershipSound.setFlush {state : AggregationState} {flush : Option FlushTask}
    {lastFlushed : UUID → Option Timestamp} (sound : MembershipSound state)
    (flushSound : ∀ task, flush = some task → FlushSound state task) :
    MembershipSound { state with flush := flush, lastFlushed := lastFlushed } := by
  have frame : Frame none state { state with flush := flush, lastFlushed := lastFlushed } :=
    Frame.of_same rfl rfl rfl rfl
  exact sound.stepped frame sound.keyed (fun _ _ found => Or.inl found) sound.exclusive
    (fun _ logged => Or.inl logged) (fun _ _ other => Or.inl ⟨by simp, other⟩)
    (fun task flushing => Or.inr ((flushSound task flushing).framed frame))

theorem MembershipSound.flushStep {state after : AggregationState} {task : FlushTask}
    {reply : Reply} (sound : MembershipSound state) (running : state.flush = some task)
    (moved : FlushStep state task reply after) : MembershipSound after := by
  have held := sound.flush task running
  cases moved with
  | again => exact sound
  | ended => exact sound.setFlush (by simp)
  | recorded => exact sound.setFlush (by simp)
  | scanned =>
      refine sound.setFlush ?_
      intro next same
      cases same
      exact flushSound_readNext _ _ (by simp)
  | @read key keys activeEvents at' =>
      subst at'
      refine sound.setFlush ?_
      intro next same
      cases same
      apply flushSound_readNext
      intro active member
      rcases List.mem_append.mp member with old | new
      · exact held active old
      · have found : state.store key = some active := by simpa using new
        exact fun id listed => Or.inr ⟨key, active, found, rfl, listed⟩
  | @persisting activeEvents persist persisted progress at' moved =>
      subst at'
      have frame : Frame none state { state with
          persisted := persisted, flush := afterFlushPersist activeEvents progress } :=
        @frame_of_persistStep state { state with
          persisted := persisted, flush := afterFlushPersist activeEvents progress }
          persist reply progress held moved rfl rfl rfl none
      refine sound.stepped frame sound.keyed (fun _ _ found => Or.inl found)
        (exclusive_of_persistStep sound held moved rfl) ?_
        (fun _ _ other => Or.inl ⟨by simp, other⟩) ?_
      · intro event logged
        rcases moved.logged logged with old | ⟨eventIn, committed⟩
        · exact Or.inl old
        · exact Or.inr (@member_of_covers state { state with
            persisted := persisted, flush := afterFlushPersist activeEvents progress }
            persist reply progress sound held moved rfl event eventIn committed.covers)
      · intro next same
        refine Or.inr ?_
        cases is : progress with
        | running later =>
            rw [is] at same
            cases same
            intro event member
            rw [(moved.running is).1] at member
            exact (held event member).framed frame
        | returned =>
            rw [is] at same
            cases same
            trivial
        | raised =>
            rw [is] at same
            cases same

theorem MembershipSound.expired {state : AggregationState} {group : GroupKey}
    (sound : MembershipSound state)
    (committed : ∀ active, state.store group = some active →
      Record.committed active.toEvent ∈ state.persisted.log) :
    MembershipSound { state with store := Function.update state.store group none } := by
  have kept (other : GroupKey) (stored : ActiveEvent)
      (found : Function.update state.store group none other = some stored) :
      state.store other = some stored := (of_update_none found).2
  have located (id eventId : UUID) : Located
      { state with store := Function.update state.store group none } id eventId →
      Located state id eventId := by
    rintro (member | ⟨other, stored, found, rfl, listed⟩)
    · exact Or.inl member
    · exact Or.inr ⟨other, stored, kept other stored found, rfl, listed⟩
  have frame : Frame none state
      { state with store := Function.update state.store group none } := by
    refine ⟨fun _ _ found => found, fun _ _ known => known, fun _ _ member => member, ?_,
      fun id eventId after => Or.inl (located id eventId after),
      fun other _ stored found => kept other stored found⟩
    rintro id eventId (member | ⟨other, stored, found, rfl, listed⟩)
    · exact Or.inl member
    · by_cases same : other = group
      · subst same
        exact Or.inl (sound.committed _ (committed stored found) id listed)
      · exact Or.inr ⟨other, stored, by simpa [same] using found, rfl, listed⟩
  refine sound.stepped frame sound.keyed
    (fun other stored found => Or.inl (kept other stored found)) ?_
    (fun _ logged => Or.inl logged) (fun _ _ other => Or.inl ⟨by simp, other⟩)
    (fun _ flushing => Or.inl flushing)
  intro id first second atFirst atSecond
  exact sound.exclusive id first second (located id first atFirst) (located id second atSecond)

/-- Steps that only start or end merges. -/
theorem MembershipSound.setMerges {state : AggregationState}
    {merges : GroupKey → Option MergeTask} (sound : MembershipSound state)
    (mergesSound : ∀ group task, merges group = some task →
      state.merges group = some task ∨ TaskSound state group task) :
    MembershipSound { state with merges := merges } := by
  have frame : Frame none state { state with merges := merges } :=
    Frame.of_same rfl rfl rfl rfl
  refine sound.stepped frame sound.keyed (fun _ _ found => Or.inl found) sound.exclusive
    (fun _ logged => Or.inl logged) ?_ (fun _ flushing => Or.inl flushing)
  intro group task found
  rcases mergesSound group task found with old | new
  · exact Or.inl ⟨by simp, old⟩
  · exact Or.inr (new.framed frame (by simp))

theorem MembershipSound.started {state : AggregationState} {id : UUID} {row : EntityEvent}
    (sound : MembershipSound state) (found : state.entityEvents id = some row) :
    MembershipSound { state with
      merges := Function.update state.merges row.groupKey (some ⟨row, .getActiveEvent⟩) } := by
  apply sound.setMerges
  intro group task running
  rcases of_update_some running with ⟨rfl, rfl⟩ | ⟨-, old⟩
  · have key := sound.keyed id row found
    exact Or.inr ⟨key ▸ found, rfl, trivial⟩
  · exact Or.inl old

theorem MembershipSound.storedRow {state : AggregationState} {row : EntityEvent}
    (sound : MembershipSound state)
    (absent : state.entityEvents row.entityEventId = none) :
    MembershipSound { state with
      entityEvents := Function.update state.entityEvents row.entityEventId (some row) } := by
  have frame : Frame none state { state with
      entityEvents := Function.update state.entityEvents row.entityEventId (some row) } := by
    refine ⟨?_, fun _ _ known => known, fun _ _ member => member, fun _ _ located => located,
      fun _ _ located => Or.inl located, fun _ _ _ found => found⟩
    intro id other found
    have apart : id ≠ row.entityEventId := by
      rintro rfl
      rw [absent] at found
      cases found
    simpa [apart] using found
  refine sound.stepped frame ?_ (fun _ _ found => Or.inl found) sound.exclusive
    (fun _ logged => Or.inl logged) (fun _ _ other => Or.inl ⟨by simp, other⟩)
    (fun _ flushing => Or.inl flushing)
  intro id other found
  rcases of_update_some found with ⟨rfl, rfl⟩ | ⟨-, old⟩
  · rfl
  · exact sound.keyed id other old

theorem MembershipSound.step {config : AggregationConfig} {state after : AggregationState}
    {action : AggregationAction} (sound : MembershipSound state)
    (permitted : expiresCommitted state action)
    (moved : aggregationStep config state action = some after) : MembershipSound after := by
  cases action with
  | storeEntityEvent row =>
      obtain ⟨absent, rfl⟩ := storeEntityEvent_step moved
      exact sound.storedRow absent
  | startMerge entityEventId =>
      obtain ⟨row, found, rfl⟩ := startMerge_step moved
      exact sound.started found
  | resumeMerge group reply =>
      obtain ⟨task, running, moved⟩ := resumeMerge_step moved
      exact sound.mergeStep running moved
  | endMerge group =>
      cases endMerge_step moved
      apply sound.setMerges
      intro other later found
      exact Or.inl (of_update_none found).2
  | expire group =>
      cases moved
      exact sound.expired permitted
  | startFlush =>
      cases startFlush_step moved
      refine sound.setFlush ?_
      intro task same
      cases same
      trivial
  | resumeFlush reply =>
      obtain ⟨task, running, moved⟩ := resumeFlush_step moved
      exact sound.flushStep running moved
  | stopFlush =>
      cases moved
      exact sound.setFlush (by simp)
  | crash =>
      cases moved
      have idle : MembershipSound { state with merges := fun _ => none } :=
        sound.setMerges (by simp)
      exact idle.setFlush (by simp)

/-- In every run in which a key expires only once its Event is committed, an
EntityEvent belongs to at most one Event, and only once. -/
theorem exclusive_membership {config : AggregationConfig} {past : List AggregationState}
    {state : AggregationState}
    (trace : (aggregationMachine config).Trace expiresCommitted past state) :
    (∀ id first second, Located state id first → Located state id second →
      first = second) ∧
    ∀ group active, state.store group = some active → active.entityEventIds.Nodup := by
  have sound : MembershipSound state := by
    apply trace.invariant
    · intro start begins
      rw [show start = AggregationState.initial from begins]
      exact membershipSound_initial
    · intro before action after sound permitted moved
      exact sound.step permitted moved
  exact ⟨sound.exclusive, fun group active found => (sound.stored group active found).distinct⟩

/-! ## A run with a lost reply, a replacement and an expiry -/

def expiresCommittedCheck (state : AggregationState) : AggregationAction → Bool
  | .expire group => (state.store group).all fun active =>
      decide (Record.committed active.toEvent ∈ state.persisted.log)
  | _ => true

theorem expiresCommittedCheck_sound (state : AggregationState) (action : AggregationAction)
    (checked : expiresCommittedCheck state action = true) : expiresCommitted state action := by
  cases action with
  | expire group =>
      intro active found
      simpa [expiresCommittedCheck, found] using checked
  | storeEntityEvent | startMerge | resumeMerge | endMerge | startFlush | resumeFlush
  | stopFlush | crash => trivial

/-- The second merge is stored but its reply is lost and it is redelivered; the
third replaces the Event, and its key expires after a flush. -/
def replaceAndExpire : List AggregationAction :=
  [.storeEntityEvent (sampleEntityEvent 1 0), .storeEntityEvent (sampleEntityEvent 2 1),
    .storeEntityEvent (sampleEntityEvent 3 30), .startMerge 1] ++ mergeOn 3 1 10 ++
  [.endMerge sampleGroup, .startMerge 2] ++ mergeOn 2 2 11 ++
  [.resumeMerge sampleGroup (reply (.failed true) 3 0), .endMerge sampleGroup,
    .startMerge 2] ++ mergeOn 1 3 0 ++
  [.endMerge sampleGroup, .startMerge 3] ++ mergeOn 7 4 12 ++
  [.endMerge sampleGroup, .startFlush] ++ flushOn 7 ++ [.expire sampleGroup]

theorem exclusive_membership_replaced : ∃ past state,
    (aggregationMachine defaultAggregationConfig).Trace expiresCommitted past state ∧
    state.store sampleGroup = none ∧
    fetchMappedEventId state.persisted.tables.entityMap 2 = some 10 ∧
    fetchMappedEventId state.persisted.tables.entityMap 3 = some 12 ∧
    ∀ id first second, Located state id first → Located state id second →
      first = second := by
  obtain ⟨past, state, trace, tested⟩ :=
    Trace.of_run (aggregationMachine defaultAggregationConfig) expiresCommittedCheck
      (fun state => decide (state.store sampleGroup = none ∧
        fetchMappedEventId state.persisted.tables.entityMap 2 = some 10 ∧
        fetchMappedEventId state.persisted.tables.entityMap 3 = some 12))
      (fun _ state action _ => expiresCommittedCheck_sound state action) rfl
      replaceAndExpire (by decide +kernel)
  obtain ⟨expired, second, third⟩ := of_decide_eq_true tested
  exact ⟨past, state, trace, expired, second, third, (exclusive_membership trace).1⟩

end WealthFinder.Pipeline
