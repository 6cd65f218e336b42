import Mathlib.Order.Bounds.Basic
import WealthFinder.Pipeline.AggregationSteps

/-!
# What an active Event stands for

A run of the layer with the EntityEvents that were put through `_merge`, a list
for each group, as history.  The active Event is made from some of them, in the
order in which they arrived.
-/

set_option autoImplicit false

namespace WealthFinder.Pipeline

open Machine

/-! ## The layer and the arrivals -/

structure LayerRun where
  layer : AggregationState
  arrived : GroupKey → List EntityEvent

/-- The EntityEvent that a unit of work puts through `_merge`. -/
def AggregationState.starting (state : AggregationState) :
    AggregationAction → Option EntityEvent
  | .startMerge entityEventId => state.entityEvents entityEventId
  | _ => none

def LayerRun.arrive (run : LayerRun) (action : AggregationAction) :
    GroupKey → List EntityEvent :=
  match run.layer.starting action with
  | some row => Function.update run.arrived row.groupKey (run.arrived row.groupKey ++ [row])
  | none => run.arrived

def layerRunMachine (config : AggregationConfig) : Machine LayerRun AggregationAction where
  init := fun run => run = ⟨AggregationState.initial, fun _ => []⟩
  step := fun run action =>
    (aggregationStep config run.layer action).map fun layer => ⟨layer, run.arrive action⟩

/-- Every run of the layer has such a history. -/
theorem layerRun_of_trace {config : AggregationConfig}
    {allowed : AggregationState → AggregationAction → Prop}
    {past : List AggregationState} {state : AggregationState}
    (trace : (aggregationMachine config).Trace allowed past state) :
    ∃ history arrived, (layerRunMachine config).Trace
      (fun run action => allowed run.layer action) history ⟨state, arrived⟩ := by
  induction trace with
  | start initial =>
      cases initial
      exact ⟨[], fun _ => [], .start rfl⟩
  | @next past state after action before permitted moved held =>
      obtain ⟨history, arrived, recorded⟩ := held
      have stepped : (layerRunMachine config).step ⟨state, arrived⟩ action =
          some ⟨after, LayerRun.arrive ⟨state, arrived⟩ action⟩ :=
        Option.map_eq_some_iff.mpr ⟨after, moved, rfl⟩
      exact ⟨_, _, recorded.next action permitted stepped⟩

/-! ## The abstract Event -/

def publishedTimes (members : List EntityEvent) : Set Timestamp :=
  {time | ∃ entityEvent ∈ members, entityEvent.getPublishedAt = time}

/-- The active Event is what these EntityEvents make, merged in this order. -/
structure MergedFrom (config : AggregationConfig) (members : List EntityEvent)
    (active : ActiveEvent) : Prop where
  ids : active.entityEventIds = members.map EntityEvent.entityEventId
  distinct : active.entityEventIds.Nodup
  first : IsLeast (publishedTimes members) active.firstSeenAt
  last : IsGreatest (publishedTimes members) active.lastSeenAt
  window : ∀ before next rest, members = before ++ next :: rest →
    ∀ lastSeenAt, IsGreatest (publishedTimes before) lastSeenAt →
      getHours |next.getPublishedAt - lastSeenAt| ≤ config.slidingWindowHours

def WithinTimespan (config : AggregationConfig) (active : ActiveEvent) : Prop :=
  getHours (active.lastSeenAt - active.firstSeenAt) < config.eventMaxTimespanHours

theorem publishedTimes_nil : publishedTimes [] = ∅ := by
  simp [publishedTimes]

theorem publishedTimes_append (members : List EntityEvent) (entityEvent : EntityEvent) :
    publishedTimes (members ++ [entityEvent]) =
      insert entityEvent.getPublishedAt (publishedTimes members) := by
  ext time
  simp only [publishedTimes, List.mem_append, List.mem_singleton, Set.mem_ofPred_eq,
    Set.mem_insert_iff]
  constructor
  · rintro ⟨other, member | rfl, rfl⟩
    · exact Or.inr ⟨other, member, rfl⟩
    · exact Or.inl rfl
  · rintro (rfl | ⟨other, member, rfl⟩)
    · exact ⟨entityEvent, Or.inr rfl, rfl⟩
    · exact ⟨other, Or.inl member, rfl⟩

/-- A list cut anywhere is cut before its last entry or inside the rest. -/
theorem append_singleton_cut {α : Type} {items before rest : List α} {item next : α}
    (cut : items ++ [item] = before ++ next :: rest) :
    (before = items ∧ next = item) ∨ ∃ shorter, items = before ++ next :: shorter := by
  rcases List.eq_nil_or_concat rest with rfl | ⟨shorter, last, rfl⟩
  · have same := List.append_inj' cut rfl
    exact Or.inl ⟨same.1.symm, (List.cons.inj same.2).1.symm⟩
  · have same : items ++ [item] = (before ++ next :: shorter) ++ [last] := by
      simpa using cut
    exact Or.inr ⟨shorter, (List.append_inj' same rfl).1⟩

section
variable {config : AggregationConfig} {entityEvent : EntityEvent} {now : Timestamp}

theorem mergedFrom_create (eventId : UUID) :
    MergedFrom config [entityEvent] (createEvent entityEvent now eventId) where
  ids := rfl
  distinct := List.nodup_singleton _
  first := by
    have times := publishedTimes_append [] entityEvent
    rw [List.nil_append, publishedTimes_nil, insert_empty_eq] at times
    rw [times]
    exact isLeast_singleton
  last := by
    have times := publishedTimes_append [] entityEvent
    rw [List.nil_append, publishedTimes_nil, insert_empty_eq] at times
    rw [times]
    exact isGreatest_singleton
  window := by
    intro before next rest cut lastSeenAt greatest
    rw [← List.nil_append [entityEvent]] at cut
    rcases append_singleton_cut cut with ⟨rfl, -⟩ | ⟨shorter, impossible⟩
    · obtain ⟨_, member, _⟩ := greatest.1
      cases member
    · simp at impossible

theorem withinTimespan_create (timespan : 0 < config.eventMaxTimespanHours)
    (eventId : UUID) : WithinTimespan config (createEvent entityEvent now eventId) := by
  unfold WithinTimespan
  rw [getHours_lt]
  simp only [createEvent, sub_self]
  show (0 : Int) < config.eventMaxTimespanHours * 3600000000
  omega

theorem mergedFrom_extend {members : List EntityEvent} {active : ActiveEvent}
    (merged : MergedFrom config members active)
    (absent : entityEvent.entityEventId ∉ active.entityEventIds)
    (merges : mergesInto config active entityEvent.getPublishedAt = true) :
    MergedFrom config (members ++ [entityEvent]) (extendEvent active entityEvent now) where
  ids := by simp [extendEvent, merged.ids]
  distinct := by
    have distinct := List.Nodup.concat absent merged.distinct
    rwa [List.concat_eq_append] at distinct
  first := by
    rw [publishedTimes_append]
    simpa only [extendEvent, min_comm] using merged.first.insert entityEvent.getPublishedAt
  last := by
    rw [publishedTimes_append]
    simpa only [extendEvent, max_comm] using merged.last.insert entityEvent.getPublishedAt
  window := by
    intro before next rest cut lastSeenAt greatest
    rcases append_singleton_cut cut with ⟨rfl, rfl⟩ | ⟨shorter, cut⟩
    · rw [greatest.unique merged.last, getHours_le]
      exact ((mergesInto_iff config active _).mp merges).1
    · exact merged.window before next shorter cut lastSeenAt greatest

theorem withinTimespan_extend {active : ActiveEvent}
    (merges : mergesInto config active entityEvent.getPublishedAt = true) :
    WithinTimespan config (extendEvent active entityEvent now) := by
  unfold WithinTimespan
  rw [getHours_lt]
  simpa only [extendEvent, min_comm, max_comm] using
    ((mergesInto_iff config active _).mp merges).2

end

/-! ## The invariant -/

/-- The active Event is made from some of the arrivals of its group. -/
structure Represents (config : AggregationConfig) (arrived : List EntityEvent)
    (group : GroupKey) (active : ActiveEvent) : Prop where
  ofKey : active.group = group
  merged : ∃ members : List EntityEvent, members.Sublist arrived ∧
    MergedFrom config members active
  within : 0 < config.eventMaxTimespanHours → WithinTimespan config active

/-- `prior` are the arrivals before the EntityEvent under way. -/
def StageBuilt (config : AggregationConfig) (prior arrived : List EntityEvent)
    (group : GroupKey) (entityEvent : EntityEvent) (stored : Option ActiveEvent) :
    MergeStage → Prop
  | .getActiveEvent => ∀ active, stored = some active → Represents config prior group active
  | .isMerged read => ∀ active, read = some active →
      Represents config prior group active ∧
      entityEvent.entityEventId ∉ active.entityEventIds
  | .replace _ updated _ => Represents config arrived group updated
  | .upsert _ updated => Represents config arrived group updated
  | .onSuccess => True
  | .onFailure => True

structure TaskBuilt (config : AggregationConfig) (stored : Option ActiveEvent)
    (arrived : List EntityEvent) (group : GroupKey) (task : MergeTask) : Prop where
  ofKey : task.entityEvent.groupKey = group
  stage : ∃ prior, arrived = prior ++ [task.entityEvent] ∧
    StageBuilt config prior arrived group task.entityEvent stored task.stage

structure LayerBuilt (config : AggregationConfig) (store : GroupKey → Option ActiveEvent)
    (merges : GroupKey → Option MergeTask) (arrived : GroupKey → List EntityEvent) :
    Prop where
  stored : ∀ group active, store group = some active →
    Represents config (arrived group) group active
  merging : ∀ group task, merges group = some task →
    TaskBuilt config (store group) (arrived group) group task

theorem Represents.later {config : AggregationConfig} {prior arrived : List EntityEvent}
    {group : GroupKey} {active : ActiveEvent} (grown : prior.Sublist arrived)
    (represents : Represents config prior group active) :
    Represents config arrived group active := by
  obtain ⟨members, included, merged⟩ := represents.merged
  exact ⟨represents.ofKey, ⟨members, included.trans grown, merged⟩, represents.within⟩

/-- Merging the newly arrived EntityEvent. -/
theorem represents_mergeOrCreate {config : AggregationConfig} {prior : List EntityEvent}
    {entityEvent : EntityEvent} {active : Option ActiveEvent} (now : Timestamp)
    (eventId : UUID)
    (represents : ∀ current, active = some current →
      Represents config prior entityEvent.groupKey current ∧
      entityEvent.entityEventId ∉ current.entityEventIds) :
    Represents config (prior ++ [entityEvent]) entityEvent.groupKey
      (mergeOrCreate config active entityEvent now eventId) := by
  rcases mergeOrCreate_cases config active entityEvent now eventId with
    ⟨current, read, merges, is⟩ | is <;> rw [is]
  · obtain ⟨known, absent⟩ := represents current read
    obtain ⟨members, included, merged⟩ := known.merged
    exact ⟨known.ofKey,
      ⟨members ++ [entityEvent], included.append_right _, mergedFrom_extend merged absent merges⟩,
      fun _ => withinTimespan_extend merges⟩
  · exact ⟨rfl, ⟨[entityEvent], List.sublist_append_right _ _, mergedFrom_create eventId⟩,
      fun timespan => withinTimespan_create timespan eventId⟩

theorem TaskBuilt.framed {config : AggregationConfig} {before after : Option ActiveEvent}
    {arrived : List EntityEvent} {group : GroupKey} {task : MergeTask}
    (store : ∀ active, after = some active → before = some active)
    (built : TaskBuilt config before arrived group task) :
    TaskBuilt config after arrived group task where
  ofKey := built.ofKey
  stage := by
    obtain ⟨prior, is, held⟩ := built.stage
    refine ⟨prior, is, ?_⟩
    cases stage : task.stage with
    | getActiveEvent =>
        rw [stage] at held
        exact fun active found => held active (store active found)
    | isMerged | replace | upsert | onSuccess | onFailure =>
        rw [stage] at held
        exact held

section
variable {config : AggregationConfig} {state : AggregationState}
  {arrived : GroupKey → List EntityEvent} {group : GroupKey}

/-- The acting merge moves to a stage that is justified. -/
theorem LayerBuilt.setMerge (built : LayerBuilt config state.store state.merges arrived)
    {task : MergeTask} {stage : MergeStage} (running : state.merges group = some task)
    (stageBuilt : ∀ prior, arrived group = prior ++ [task.entityEvent] →
      StageBuilt config prior (arrived group) group task.entityEvent
        (state.store group) task.stage →
      StageBuilt config prior (arrived group) group task.entityEvent
        (state.store group) stage) :
    LayerBuilt config state.store (state.setMerge group stage).merges arrived where
  stored := built.stored
  merging := by
    intro other later found
    rcases setMerge_running _ _ _ found running with ⟨rfl, rfl⟩ | ⟨-, old⟩
    · have known := built.merging other task running
      obtain ⟨prior, is, held⟩ := known.stage
      exact ⟨known.ofKey, prior, is, stageBuilt prior is held⟩
    · exact built.merging other later old

/-- The acting merge writes its group's key. -/
theorem LayerBuilt.stored_merged
    (built : LayerBuilt config state.store state.merges arrived)
    {task : MergeTask} {active : Option ActiveEvent} {updated : ActiveEvent}
    (running : state.merges group = some task) (at' : task.stage = .upsert active updated) :
    LayerBuilt config (Function.update state.store updated.group (some updated))
      state.merges arrived := by
  obtain ⟨prior, is, represents⟩ := (built.merging group task running).stage
  rw [at'] at represents
  have ofKey : updated.group = group := represents.ofKey
  rw [ofKey]
  constructor
  · intro other stored found
    rcases of_update_some found with ⟨rfl, rfl⟩ | ⟨-, old⟩
    · exact represents
    · exact built.stored other stored old
  · intro other later found
    have known := built.merging other later found
    by_cases same : other = group
    · subst same
      rw [running, Option.some.injEq] at found
      subst found
      refine ⟨known.ofKey, prior, is, ?_⟩
      rw [at']
      exact represents
    · rwa [Function.update_of_ne same]

theorem LayerBuilt.mergeStep {task : MergeTask} {reply : Reply} {after : AggregationState}
    (built : LayerBuilt config state.store state.merges arrived)
    (running : state.merges group = some task)
    (moved : MergeStep config state group task reply after) :
    LayerBuilt config after.store after.merges arrived := by
  cases moved with
  | again => exact built
  | failed | mapped | late => exact built.setMerge running fun _ _ _ => trivial
  | read at' =>
      refine built.setMerge running fun prior is held => ?_
      rw [at'] at held
      cases found : state.store group with
      | none => exact fun _ impossible => nomatch impossible
      | some current =>
          by_cases listed : task.entityEvent.entityEventId ∈ current.entityEventIds
          · simp [afterGetActive, listed, StageBuilt]
          · simp only [afterGetActive, listed, if_false]
            intro active same
            cases same
            exact ⟨held current found, listed⟩
  | @merged active at' =>
      refine built.setMerge running fun prior is held => ?_
      have key := (built.merging group task running).ofKey
      rw [at'] at held
      have represents := represents_mergeOrCreate reply.now reply.eventId (key ▸ held)
      rw [key, ← is] at represents
      cases active with
      | none => exact represents
      | some current =>
          simp only [afterMerge]
          split
          · exact represents
          · exact represents
  | @replacing active updated persist persisted progress at' =>
      refine built.setMerge running fun prior is held => ?_
      rw [at'] at held
      cases progress with
      | running later => exact held
      | returned => exact held
      | raised => trivial
  | @stored active updated next at' applied moved =>
      have between : LayerBuilt config { state with
          store := Function.update state.store updated.group (some updated) }.store
          state.merges arrived := built.stored_merged running at'
      refine between.setMerge running fun prior is held => ?_
      rcases moved with rfl | rfl | rfl
      · trivial
      · rw [at'] at held
        exact held
      · trivial

theorem LayerBuilt.started {row : EntityEvent}
    (built : LayerBuilt config state.store state.merges arrived) :
    LayerBuilt config state.store
      (Function.update state.merges row.groupKey (some ⟨row, .getActiveEvent⟩))
      (Function.update arrived row.groupKey (arrived row.groupKey ++ [row])) where
  stored := by
    intro other active found
    by_cases same : other = row.groupKey
    · rw [same] at found ⊢
      rw [Function.update_self]
      exact (built.stored _ active found).later (List.sublist_append_left _ _)
    · rw [Function.update_of_ne same]
      exact built.stored other active found
  merging := by
    intro other later found
    by_cases same : other = row.groupKey
    · subst same
      rw [Function.update_self] at found ⊢
      cases found
      exact ⟨rfl, _, rfl, fun active stored => built.stored _ active stored⟩
    · rw [Function.update_of_ne same] at found ⊢
      exact built.merging other later found

end

def LayerRun.Built (config : AggregationConfig) (run : LayerRun) : Prop :=
  LayerBuilt config run.layer.store run.layer.merges run.arrived

theorem built_step {config : AggregationConfig} {run after : LayerRun}
    {action : AggregationAction} (built : run.Built config)
    (stepped : (layerRunMachine config).step run action = some after) :
    after.Built config := by
  obtain ⟨layer, moved, rfl⟩ := Option.map_eq_some_iff.mp stepped
  cases action with
  | startMerge id =>
      obtain ⟨row, found, rfl⟩ := startMerge_step moved
      simpa only [LayerRun.Built, LayerRun.arrive, AggregationState.starting, found] using
        built.started
  | resumeMerge group reply =>
      obtain ⟨task, running, moved⟩ := resumeMerge_step moved
      exact built.mergeStep running moved
  | endMerge group =>
      cases endMerge_step moved
      refine ⟨built.stored, ?_⟩
      intro other later found
      exact built.merging other later (of_update_none found).2
  | crash =>
      cases moved
      exact ⟨built.stored, fun _ _ impossible => nomatch impossible⟩
  | storeEntityEvent | expire | startFlush | resumeFlush | stopFlush =>
      obtain ⟨-, -, store, merges⟩ := aggregationStep_frame rfl moved
      refine ⟨fun group active found => built.stored group active (store _ _ found), ?_⟩
      intro group task running
      have old : run.layer.merges group = some task := merges ▸ running
      exact (built.merging group task old).framed (store group)

theorem built_of_trace {config : AggregationConfig}
    {allowed : LayerRun → AggregationAction → Prop} {past : List LayerRun} {run : LayerRun}
    (trace : (layerRunMachine config).Trace allowed past run) : run.Built config := by
  apply trace.invariant
  · intro start begins
    cases begins
    exact ⟨fun _ _ found => (nomatch found), fun _ _ running => (nomatch running)⟩
  · intro before action after built _ moved
    exact built_step built moved

/-! ## Every active Event -/

/-- What `merge_or_create` returned and the group's key holds or is to hold. -/
def Produced (state : AggregationState) (group : GroupKey) (active : ActiveEvent) : Prop :=
  state.store group = some active ∨ ∃ entityEvent,
    (∃ current task, state.merges group = some ⟨entityEvent, .replace current active task⟩) ∨
    ∃ current, state.merges group = some ⟨entityEvent, .upsert current active⟩

/-- In every run, an active Event is made from arrivals of its group in their
order, spans less than the maximum timespan and outlives two flushes. -/
theorem active_event_represents {config : AggregationConfig}
    (window : 0 < config.slidingWindowHours) (timespan : 0 < config.eventMaxTimespanHours)
    {past : List LayerRun} {run : LayerRun}
    (trace : (layerRunMachine config).Trace anyAction past run)
    (group : GroupKey) (active : ActiveEvent) (produced : Produced run.layer group active) :
    (∃ members : List EntityEvent, members.Sublist (run.arrived group) ∧
      MergedFrom config members active) ∧
    WithinTimespan config active ∧ 2 * config.dbFlushIntervalS ≤ ttlFor config active := by
  have built := built_of_trace trace
  have represents : Represents config (run.arrived group) group active := by
    rcases produced with found | ⟨entityEvent, ⟨current, task, running⟩ | ⟨current, running⟩⟩
    · exact built.stored group active found
    · obtain ⟨_, _, held⟩ := (built.merging group _ running).stage
      exact held
    · obtain ⟨_, _, held⟩ := (built.merging group _ running).stage
      exact held
  have within := represents.within timespan
  exact ⟨represents.merged, within, grace_le_ttlFor window within⟩

/-- The second EntityEvent is dated before the first, the third after both. -/
def outOfOrder : List AggregationAction :=
  [.storeEntityEvent (sampleEntityEvent 1 5), .storeEntityEvent (sampleEntityEvent 2 3),
    .storeEntityEvent (sampleEntityEvent 3 6), .startMerge 1] ++ mergeOn 3 1 10 ++
  [.endMerge sampleGroup, .startMerge 2] ++ mergeOn 3 2 11 ++
  [.endMerge sampleGroup, .startMerge 3] ++ mergeOn 3 3 12

theorem active_event_represents_outOfOrder : ∃ past run active,
    (layerRunMachine defaultAggregationConfig).Trace anyAction past run ∧
    active.entityEventIds = [1, 2, 3] ∧
    (∃ members : List EntityEvent, members.Sublist (run.arrived sampleGroup) ∧
      MergedFrom defaultAggregationConfig members active) ∧
    WithinTimespan defaultAggregationConfig active ∧
    2 * defaultAggregationConfig.dbFlushIntervalS ≤ ttlFor defaultAggregationConfig active := by
  obtain ⟨past, run, trace, seen⟩ :=
    Trace.of_run_view (layerRunMachine defaultAggregationConfig) (fun _ _ => true)
      (fun run => (run.layer.store sampleGroup).map fun active => active.entityEventIds)
      (some [1, 2, 3]) (fun _ _ _ _ _ => trivial) rfl outOfOrder (by decide +kernel)
  obtain ⟨active, found, ids⟩ := Option.map_eq_some_iff.mp seen
  exact ⟨past, run, active, trace, ids,
    active_event_represents (by decide) (by decide) trace sampleGroup active (Or.inl found)⟩

end WealthFinder.Pipeline
