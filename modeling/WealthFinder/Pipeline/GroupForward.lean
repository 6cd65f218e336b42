import WealthFinder.Pipeline.ActiveEvents

/-!
# Replacement moves a group forward

While a group's key does not expire, a merge finds the Event that it has read
still in place.  An EntityEvent that is neither late nor newer than that Event
always fits its span, since the window is shorter than the maximum timespan.
-/

set_option autoImplicit false

namespace WealthFinder.Pipeline

open Machine

def keepsKey (group : GroupKey) (_ : AggregationState) (action : AggregationAction) : Prop :=
  action ≠ .expire group

/-! ## One merge -/

/-- The merged Event extends the active one, or starts after everything in it. -/
def Forward (active : ActiveEvent) (entityEvent : EntityEvent) (updated : ActiveEvent) :
    Prop :=
  (∃ now, updated = extendEvent active entityEvent now) ∨
    (active.lastSeenAt < entityEvent.getPublishedAt ∧
      ∃ now, updated = createEvent entityEvent now updated.eventId)

theorem Forward.advances {active updated : ActiveEvent} {entityEvent : EntityEvent}
    (forward : Forward active entityEvent updated) :
    active.lastSeenAt ≤ updated.lastSeenAt := by
  rcases forward with ⟨now, rfl⟩ | ⟨later, now, is⟩
  · exact le_max_left _ _
  · rw [is]
    exact Int.le_of_lt later

section
variable {config : AggregationConfig} {active : ActiveEvent} {entityEvent : EntityEvent}
  (shorter : config.slidingWindowHours < config.eventMaxTimespanHours)
  (within : 0 < config.eventMaxTimespanHours → WithinTimespan config active)
  (timely : isLate config active entityEvent = false)
include shorter within timely

theorem mergesInto_of_not_after
    (notAfter : entityEvent.getPublishedAt ≤ active.lastSeenAt) :
    mergesInto config active entityEvent.getPublishedAt = true := by
  rw [not_isLate_iff] at timely
  have timespan : 0 < config.eventMaxTimespanHours := by
    have gap : (0 : Int) ≤ active.lastSeenAt - entityEvent.getPublishedAt :=
      Int.sub_nonneg.mpr notAfter
    have window : (0 : Int) ≤ config.slidingWindowHours * 3600000000 := Int.le_trans gap timely
    omega
  have span := (getHours_lt _ _).mp (within timespan)
  rw [mergesInto_iff, abs_sub_comm, abs_of_nonneg (sub_nonneg.mpr notAfter)]
  refine ⟨timely, ?_⟩
  rw [max_eq_right notAfter]
  rcases le_total entityEvent.getPublishedAt active.firstSeenAt with before | after
  · rw [min_eq_left before]
    have window : config.slidingWindowHours * 3600000000 <
        config.eventMaxTimespanHours * 3600000000 := by omega
    exact Int.lt_of_le_of_lt timely window
  · rw [min_eq_right after]
    exact span

theorem mergeOrCreate_forward (now : Timestamp) (eventId : UUID) :
    Forward active entityEvent
      (mergeOrCreate config (some active) entityEvent now eventId) := by
  rcases mergeOrCreate_cases config (some active) entityEvent now eventId with
    ⟨current, same, -, is⟩ | is
  · cases same
    exact Or.inl ⟨now, is⟩
  · by_cases notAfter : entityEvent.getPublishedAt ≤ active.lastSeenAt
    · have merges := mergesInto_of_not_after shorter within timely notAfter
      exact Or.inl ⟨now, by simp [mergeOrCreate, merges]⟩
    · rw [is]
      exact Or.inr ⟨not_le.mp notAfter, now, rfl⟩

end

/-! ## The group's merge and its key -/

def StageForward (stored : Option ActiveEvent) (entityEvent : EntityEvent) :
    MergeStage → Prop
  | .getActiveEvent => True
  | .isMerged active => active = stored
  | .replace active updated _ => stored = some active ∧ Forward active entityEvent updated
  | .upsert active updated => (stored = active ∨ stored = some updated) ∧
      ∀ current, active = some current → Forward current entityEvent updated
  | .onSuccess => True
  | .onFailure => True

def GroupForward (group : GroupKey) (state : AggregationState) : Prop :=
  ∀ task, state.merges group = some task →
    StageForward (state.store group) task.entityEvent task.stage

/-- What a step can do to a group's key that does not expire: it is left alone, or
the group's merge writes it. -/
theorem key_step {config : AggregationConfig} {state after : AggregationState}
    {arrived : GroupKey → List EntityEvent} {group : GroupKey} {action : AggregationAction}
    (built : LayerBuilt config state.store state.merges arrived)
    (kept : keepsKey group state action)
    (moved : aggregationStep config state action = some after) :
    after.store group = state.store group ∨
      ∃ reply entityEvent active updated, action = .resumeMerge group reply ∧
        state.merges group = some ⟨entityEvent, .upsert active updated⟩ ∧
        after.store group = some updated := by
  cases action with
  | storeEntityEvent row =>
      obtain ⟨-, rfl⟩ := storeEntityEvent_step moved
      exact Or.inl rfl
  | startMerge id =>
      obtain ⟨row, -, rfl⟩ := startMerge_step moved
      exact Or.inl rfl
  | endMerge other =>
      cases endMerge_step moved
      exact Or.inl rfl
  | expire other =>
      cases moved
      have apart : group ≠ other := fun same => kept (by rw [same])
      exact Or.inl (Function.update_of_ne apart _ _)
  | startFlush =>
      cases startFlush_step moved
      exact Or.inl rfl
  | resumeFlush reply =>
      obtain ⟨task, running, moved⟩ := resumeFlush_step moved
      cases moved <;> exact Or.inl rfl
  | stopFlush =>
      cases moved
      exact Or.inl rfl
  | crash =>
      cases moved
      exact Or.inl rfl
  | resumeMerge other reply =>
      obtain ⟨task, running, moved⟩ := resumeMerge_step moved
      cases moved with
      | again | failed | read | mapped | late | merged | replacing => exact Or.inl rfl
      | @stored active updated next at' =>
          obtain ⟨_, _, represents⟩ := (built.merging other task running).stage
          rw [at'] at represents
          have ofKey : updated.group = other := represents.ofKey
          simp only [setMerge_store, ofKey]
          by_cases same : group = other
          · subst same
            refine Or.inr ⟨reply, task.entityEvent, active, updated, rfl, ?_,
              Function.update_self _ _ _⟩
            rw [running, ← at']
          · exact Or.inl (Function.update_of_ne same _ _)

section
variable {config : AggregationConfig} {state : AggregationState} {group : GroupKey}
  {task : MergeTask} {reply : Reply} {after : AggregationState}

theorem forward_setMerge {stage : MergeStage} (running : state.merges group = some task)
    (staged : StageForward (state.store group) task.entityEvent stage) :
    GroupForward group (state.setMerge group stage) := by
  intro later found
  rcases setMerge_running _ _ _ found running with ⟨-, rfl⟩ | ⟨apart, -⟩
  · exact staged
  · exact absurd rfl apart

/-- A resumption of the group's own merge. -/
theorem forward_mergeStep (shorter : config.slidingWindowHours < config.eventMaxTimespanHours)
    {arrived : GroupKey → List EntityEvent}
    (built : LayerBuilt config state.store state.merges arrived)
    (forward : GroupForward group state) (running : state.merges group = some task)
    (moved : MergeStep config state group task reply after) : GroupForward group after := by
  have held := forward task running
  cases moved with
  | again => exact forward
  | failed | mapped | late => exact forward_setMerge running trivial
  | read at' =>
      apply forward_setMerge running
      cases found : state.store group with
      | none => rfl
      | some current =>
          simp only [afterGetActive]
          split
          · trivial
          · rfl
  | @merged active at' _ _ _ timely =>
      apply forward_setMerge running
      rw [at'] at held
      cases active with
      | none =>
          refine ⟨Or.inl held.symm, ?_⟩
          intro other impossible
          cases impossible
      | some current =>
          have stored : state.store group = some current := Eq.symm held
          have moves := mergeOrCreate_forward shorter (built.stored group current stored).within
            (by simpa [lateFor] using timely) reply.now reply.eventId
          simp only [afterMerge]
          split
          · exact ⟨stored, moves⟩
          · refine ⟨Or.inl stored, ?_⟩
            intro other same
            cases same
            exact moves
  | @replacing active updated persist persisted progress at' =>
      apply forward_setMerge running
      rw [at'] at held
      obtain ⟨stored, moves⟩ := held
      cases progress with
      | running later => exact ⟨stored, moves⟩
      | returned =>
          refine ⟨Or.inl stored, ?_⟩
          intro other same
          cases same
          exact moves
      | raised => trivial
  | @stored active updated next at' applied moved =>
      rw [at'] at held
      obtain ⟨_, _, represents⟩ := (built.merging group task running).stage
      rw [at'] at represents
      have ofKey : updated.group = group := represents.ofKey
      refine @forward_setMerge { state with
        store := Function.update state.store updated.group (some updated) } group task next
        running ?_
      rcases moved with rfl | rfl | rfl
      · trivial
      · simp only [ofKey, Function.update_self]
        exact ⟨Or.inr rfl, held.2⟩
      · trivial

end

/-- Every other step leaves the group's merge where it is, starts it, or ends it. -/
theorem forward_other {state after : AggregationState} {group : GroupKey}
    (forward : GroupForward group state) (store : after.store group = state.store group)
    (merges : ∀ task, after.merges group = some task →
      state.merges group = some task ∨ task.stage = .getActiveEvent) :
    GroupForward group after := by
  intro task running
  rcases merges task running with old | begun
  · rw [store]
    exact forward task old
  · rw [begun]
    trivial

/-- What a step of another coroutine does to the group's merge. -/
theorem merges_other {config : AggregationConfig} {state after : AggregationState}
    {group : GroupKey} {action : AggregationAction}
    (other : ∀ reply, action ≠ .resumeMerge group reply)
    (moved : aggregationStep config state action = some after) (task : MergeTask)
    (running : after.merges group = some task) :
    state.merges group = some task ∨ task.stage = .getActiveEvent := by
  cases action with
  | storeEntityEvent | expire | startFlush | resumeFlush | stopFlush =>
      obtain ⟨-, -, -, merges⟩ := aggregationStep_frame rfl moved
      exact Or.inl (merges ▸ running)
  | startMerge id =>
      obtain ⟨row, -, rfl⟩ := startMerge_step moved
      rcases of_update_some running with ⟨-, rfl⟩ | ⟨-, old⟩
      · exact Or.inr rfl
      · exact Or.inl old
  | resumeMerge acting reply =>
      have apart : group ≠ acting := fun same => other reply (by rw [same])
      obtain ⟨acted, found, moved⟩ := resumeMerge_step moved
      have settle (layer : AggregationState) (stage : MergeStage)
          (merges : layer.merges = state.merges)
          (later : (layer.setMerge acting stage).merges group = some task) :
          state.merges group = some task := by
        rcases setMerge_running _ _ _ later (merges ▸ found) with ⟨same, -⟩ | ⟨-, old⟩
        · exact absurd same apart
        · exact merges ▸ old
      cases moved with
      | again => exact Or.inl running
      | failed | read | mapped | late | merged => exact Or.inl (settle state _ rfl running)
      | @replacing active updated persist persisted progress =>
          exact Or.inl (settle { state with persisted := persisted } _ rfl running)
      | @stored active updated next =>
          exact Or.inl (settle { state with
            store := Function.update state.store updated.group (some updated) } _ rfl running)
  | endMerge acting =>
      cases endMerge_step moved
      exact Or.inl (of_update_none running).2
  | crash =>
      cases moved
      cases running

section
variable {config : AggregationConfig} {group : GroupKey}
  (shorter : config.slidingWindowHours < config.eventMaxTimespanHours)
include shorter

theorem forward_of_trace {past : List AggregationState} {state : AggregationState}
    (trace : (aggregationMachine config).Trace (keepsKey group) past state) :
    GroupForward group state := by
  apply trace.history_invariant
  · intro start begins task running
    cases begins
    cases running
  · intro past before action after earlier forward kept moved
    obtain ⟨_, arrived, recorded⟩ := layerRun_of_trace earlier
    have built : LayerBuilt config before.store before.merges arrived :=
      built_of_trace recorded
    by_cases own : ∃ reply, action = .resumeMerge group reply
    · obtain ⟨reply, rfl⟩ := own
      obtain ⟨task, running, moved⟩ := resumeMerge_step moved
      exact forward_mergeStep shorter built forward running moved
    · have merges := merges_other (fun reply same => own ⟨reply, same⟩) moved
      rcases key_step built kept moved with store | ⟨reply, _, _, _, is, -⟩
      · exact forward_other forward store merges
      · exact absurd ⟨reply, is⟩ own

end

/-! ## Runs -/

/-- The active Event gives way only to one that starts after it. -/
def ReplacedForward (group : GroupKey) (state after : AggregationState) : Prop :=
  ∀ active later, state.store group = some active → after.store group = some later →
    later.eventId ≠ active.eventId → ∃ task, state.merges group = some task ∧
      active.lastSeenAt < task.entityEvent.getPublishedAt ∧
      ∃ now, later = createEvent task.entityEvent now later.eventId

def LastSeenGrows (group : GroupKey) (state after : AggregationState) : Prop :=
  ∀ active, state.store group = some active → ∃ later, after.store group = some later ∧
    active.lastSeenAt ≤ later.lastSeenAt

/-- An EntityEvent that is no duplicate, not late and not after the active Event is
on its way into that Event once it is known to be unmapped. -/
def MergedInPlace (config : AggregationConfig) (group : GroupKey)
    (state : AggregationState) : Prop :=
  ∀ entityEvent active reply after,
    state.merges group = some ⟨entityEvent, .isMerged (some active)⟩ →
    reply.outcome = .done →
    fetchMappedEventId state.persisted.tables.entityMap entityEvent.entityEventId = none →
    isLate config active entityEvent = false →
    entityEvent.getPublishedAt ≤ active.lastSeenAt →
    resumeMerge config state group reply = some after →
    after.store group = some active ∧ after.merges group =
      some ⟨entityEvent, .upsert (some active) (extendEvent active entityEvent reply.now)⟩

section
variable {config : AggregationConfig} {group : GroupKey}
  (shorter : config.slidingWindowHours < config.eventMaxTimespanHours)
  {past : List AggregationState} {state : AggregationState}
  (trace : (aggregationMachine config).Trace (keepsKey group) past state)
include shorter trace

/-- The one step that changes the key, seen from the Event that it replaces. -/
theorem key_forward {action : AggregationAction} {after : AggregationState}
    (kept : keepsKey group state action)
    (moved : aggregationStep config state action = some after) {active : ActiveEvent}
    (stored : state.store group = some active) : after.store group = some active ∨
      ∃ task updated, state.merges group = some task ∧ after.store group = some updated ∧
        Forward active task.entityEvent updated := by
  obtain ⟨_, arrived, recorded⟩ := layerRun_of_trace trace
  have built : LayerBuilt config state.store state.merges arrived := built_of_trace recorded
  rcases key_step built kept moved with
    same | ⟨reply, entityEvent, read, updated, -, running, written⟩
  · exact Or.inl (same.trans stored)
  · obtain ⟨holds, moves⟩ := forward_of_trace shorter trace _ running
    rcases holds with unchanged | applied
    · exact Or.inr ⟨_, updated, running, written, moves active (unchanged ▸ stored)⟩
    · exact Or.inl (written.trans (applied.symm.trans stored))

theorem replacedForward_step {action : AggregationAction} {after : AggregationState}
    (kept : keepsKey group state action)
    (moved : aggregationStep config state action = some after) :
    ReplacedForward group state after := by
  intro active later stored found replaced
  rcases key_forward shorter trace kept moved stored with
    same | ⟨task, updated, running, written, moves⟩
  · rw [same, Option.some.injEq] at found
    exact absurd (by rw [found]) replaced
  · rw [written, Option.some.injEq] at found
    subst found
    rcases moves with ⟨now, rfl⟩ | ⟨after, created⟩
    · exact absurd rfl replaced
    · exact ⟨task, running, after, created⟩

theorem lastSeenGrows_step {action : AggregationAction} {after : AggregationState}
    (kept : keepsKey group state action)
    (moved : aggregationStep config state action = some after) :
    LastSeenGrows group state after := by
  intro active stored
  rcases key_forward shorter trace kept moved stored with
    same | ⟨task, updated, running, written, moves⟩
  · exact ⟨active, same, Int.le_refl _⟩
  · exact ⟨updated, written, moves.advances⟩

theorem mergedInPlace_of_trace : MergedInPlace config group state := by
  intro entityEvent active reply after running answered unmapped timely notAfter moved
  obtain ⟨_, arrived, recorded⟩ := layerRun_of_trace trace
  have built : LayerBuilt config state.store state.merges arrived := built_of_trace recorded
  have stored : state.store group = some active :=
    Eq.symm (forward_of_trace shorter trace _ running)
  have merges := mergesInto_of_not_after shorter (built.stored group active stored).within
    timely notAfter
  have extended : mergeOrCreate config (some active) entityEvent reply.now reply.eventId =
      extendEvent active entityEvent reply.now := by simp [mergeOrCreate, merges]
  have inPlace : (extendEvent active entityEvent reply.now).eventId = active.eventId := rfl
  simp only [resumeMerge, running, Option.bind_some, resumeIsMerged, answered, unmapped,
    Option.isSome_none, lateFor, Option.any_some, timely, extended, afterMerge, inPlace]
    at moved
  simp only [Bool.false_eq_true, if_false, ne_eq, not_true_eq_false] at moved
  split at moved
  · cases moved
  · cases moved
    exact ⟨stored, by simp [AggregationState.setMerge, running]⟩

end

/-- With a window shorter than the maximum timespan, as long as the group's key does
not expire: the active Event is replaced only by one built from a later EntityEvent,
its last_seen_at never decreases, and what is neither late nor later is merged into
it. -/
theorem replacement_moves_forward {config : AggregationConfig} {group : GroupKey}
    (shorter : config.slidingWindowHours < config.eventMaxTimespanHours)
    {past : List AggregationState} {state : AggregationState}
    (trace : (aggregationMachine config).Trace (keepsKey group) past state) :
    ((state :: past).IsChain fun later earlier => ReplacedForward group earlier later) ∧
    ((state :: past).Pairwise fun later earlier => LastSeenGrows group earlier later) ∧
    ∀ reached ∈ state :: past, MergedInPlace config group reached := by
  refine ⟨?_, ?_, ?_⟩
  · apply trace.consecutive
    intro before reached action after earlier kept moved
    exact replacedForward_step shorter earlier kept moved
  · refine trace.pairwise ?_ ?_
    · intro first second third grows grows' active stored
      obtain ⟨middle, found, advanced⟩ := grows active stored
      obtain ⟨last, present, further⟩ := grows' middle found
      exact ⟨last, present, Int.le_trans advanced further⟩
    · intro before reached action after earlier kept moved
      exact lastSeenGrows_step shorter earlier kept moved
  · intro reached member
    rcases List.mem_cons.mp member with rfl | earlier
    · exact mergedInPlace_of_trace shorter trace
    · obtain ⟨before, reaching⟩ := trace.of_mem_past earlier
      exact mergedInPlace_of_trace shorter reaching

/-! ## A run that extends backwards, then replaces -/

def neverExpires (_ : AggregationState) : AggregationAction → Bool
  | .expire _ => false
  | _ => true

theorem neverExpires_sound (group : GroupKey) (state : AggregationState)
    (action : AggregationAction) (checked : neverExpires state action = true) :
    keepsKey group state action := by
  rintro rfl
  cases checked

def extendThenReplace : List AggregationAction :=
  [.storeEntityEvent (sampleEntityEvent 1 5), .storeEntityEvent (sampleEntityEvent 2 3),
    .storeEntityEvent (sampleEntityEvent 3 30), .startMerge 1] ++ mergeOn 3 1 10 ++
  [.endMerge sampleGroup, .startMerge 2] ++ mergeOn 3 2 11 ++
  [.endMerge sampleGroup, .startMerge 3] ++ mergeOn 7 4 12

theorem replacement_moves_forward_extended : ∃ past state,
    (aggregationMachine defaultAggregationConfig).Trace (keepsKey sampleGroup) past state ∧
    (state.store sampleGroup).map (fun active => active.entityEventIds) = some [3] ∧
    ((state :: past).IsChain fun later earlier =>
      ReplacedForward sampleGroup earlier later) ∧
    ((state :: past).Pairwise fun later earlier =>
      LastSeenGrows sampleGroup earlier later) ∧
    ∀ reached ∈ state :: past, MergedInPlace defaultAggregationConfig sampleGroup reached := by
  obtain ⟨past, state, trace, seen⟩ :=
    Trace.of_run_view (aggregationMachine defaultAggregationConfig) neverExpires
      (fun state => (state.store sampleGroup).map fun active => active.entityEventIds)
      (some [3]) (fun _ state action _ => neverExpires_sound sampleGroup state action) rfl
      extendThenReplace (by decide +kernel)
  exact ⟨past, state, trace, seen, replacement_moves_forward (by decide) trace⟩

end WealthFinder.Pipeline
