import WealthFinder.Pipeline.Versions

/-!
# The rows after a flush

A flush compares stamps: with those recorded by the last flush, to skip an Event,
and with the row's, to overwrite it.  Stamps that increase make both comparisons
exact; a clock that reads the same twice hides a merge from both.
-/

set_option autoImplicit false

namespace WealthFinder.Pipeline

open Machine

/-- From the flush's scan on: no merge is stored, and the flush is neither stopped
nor started again. -/
def undisturbed (state : AggregationState) : AggregationAction → Prop
  | .resumeMerge group reply => ∀ entityEvent active updated,
      state.merges group = some ⟨entityEvent, .upsert active updated⟩ →
      reply.outcome.applied = false
  | .startFlush | .stopFlush | .crash => False
  | .storeEntityEvent _ | .startMerge _ | .endMerge _ | .expire _ | .resumeFlush _ => True

/-- A flush from its scan, which finds `keys`, to its end; it ends only if every
operation succeeds. -/
structure QuietFlush (config : AggregationConfig)
    (allowed : AggregationState → AggregationAction → Prop) (keys : List GroupKey)
    (before after : AggregationState) : Prop where
  scanning : before.flush = some .scan
  finished : ∃ scan read recording activeEvents reply,
    scan.keys = keys ∧ scan.outcome = .done ∧ allowed before (.resumeFlush scan) ∧
    aggregationStep config before (.resumeFlush scan) = some read ∧
    Reaches (aggregationMachine config)
      (fun state action => allowed state action ∧ undisturbed state action)
      read recording ∧
    recording.flush = some (.record activeEvents) ∧
    aggregationStep config recording (.resumeFlush reply) = some after

/-! ## The flush reads every key of its scan -/

/-- The group's Event has been read by the flush, or its key is still to be read. -/
def Reading (active : ActiveEvent) (group : GroupKey) : FlushTask → Prop
  | .scan => False
  | .read key keys activeEvents => active ∈ activeEvents ∨ group = key ∨ group ∈ keys
  | .persist activeEvents _ => active ∈ activeEvents
  | .record activeEvents => active ∈ activeEvents

def Reads (group : GroupKey) (state : AggregationState) : Prop :=
  ∀ task, state.flush = some task → ∀ active, state.store group = some active →
    Reading active group task

theorem reading_readNext {active : ActiveEvent} {group : GroupKey}
    (lastFlushed : UUID → Option Timestamp) {activeEvents : List ActiveEvent}
    (keys : List GroupKey) (known : active ∈ activeEvents ∨ group ∈ keys) :
    Reading active group (readNext lastFlushed activeEvents keys) := by
  rcases readNext_cases lastFlushed activeEvents keys with
    ⟨key, rest, rfl, is⟩ | ⟨rfl, is, -⟩ | ⟨rfl, changed, is, -, -⟩ <;> rw [is]
  · exact known.imp_right List.mem_cons.mp
  · exact known.resolve_right (by simp)
  · exact known.resolve_right (by simp)

section Reads
variable {group : GroupKey} {state after : AggregationState}

theorem Reads.flushStep {task : FlushTask} {reply : Reply} (reads : Reads group state)
    (running : state.flush = some task) (moved : FlushStep state task reply after) :
    Reads group after := by
  have held := reads task running
  cases moved with
  | again => exact reads
  | ended => intro _ impossible; cases impossible
  | recorded => intro _ impossible; cases impossible
  | scanned at' =>
      subst at'
      intro next same active found
      have stored : state.store group = some active := found
      exact absurd (held active stored) id
  | @read key keys activeEvents at' =>
      subst at'
      intro next same active found
      cases same
      have stored : state.store group = some active := found
      apply reading_readNext
      rcases held active stored with read | here | later
      · exact Or.inl (List.mem_append_left _ read)
      · rw [here] at stored
        exact Or.inl (List.mem_append_right _ (by simp [stored]))
      · exact Or.inr later
  | @persisting activeEvents persist persisted progress at' moved =>
      subst at'
      intro next flushing active found
      have read : active ∈ activeEvents := held active found
      have same : afterFlushPersist activeEvents progress = some next := flushing
      cases progress with
      | running later => cases same; exact read
      | returned => cases same; exact read
      | raised => cases same

/-- Steps that leave the flush alone and write no key. -/
theorem Reads.kept (reads : Reads group state) (flush : after.flush = state.flush)
    (store : ∀ active, after.store group = some active → state.store group = some active) :
    Reads group after := by
  intro task running active found
  rw [flush] at running
  exact reads task running active (store active found)

theorem Reads.step {config : AggregationConfig} {action : AggregationAction}
    (reads : Reads group state) (quiet : undisturbed state action)
    (moved : aggregationStep config state action = some after) : Reads group after := by
  cases action with
  | storeEntityEvent row =>
      obtain ⟨-, rfl⟩ := storeEntityEvent_step moved
      exact reads.kept rfl (fun _ found => found)
  | startMerge entityEventId =>
      obtain ⟨row, -, rfl⟩ := startMerge_step moved
      exact reads.kept rfl (fun _ found => found)
  | resumeMerge other reply =>
      obtain ⟨task, running, moved⟩ := resumeMerge_step moved
      cases moved with
      | again => exact reads
      | failed | mapped | late | read | merged | replacing =>
          exact reads.kept rfl (fun _ found => found)
      | stored at' applied =>
          have lost := quiet task.entityEvent _ _ (by rw [running, ← at'])
          rw [applied] at lost
          cases lost
  | endMerge other =>
      cases endMerge_step moved
      exact reads.kept rfl (fun _ found => found)
  | expire other =>
      cases moved
      refine reads.kept rfl ?_
      intro active found
      exact (of_update_none found).2
  | resumeFlush reply =>
      obtain ⟨task, running, moved⟩ := resumeFlush_step moved
      exact reads.flushStep running moved
  | startFlush | stopFlush | crash => cases quiet

end Reads

/-! ## The rows -/

/-- The row of a version that is written and is its Event's newest is that
version's row. -/
theorem VersionSound.writtenFrom {past : List AggregationState} {state : AggregationState}
    {group : GroupKey} {active : ActiveEvent} (sound : VersionSound past state)
    (stored : state.store group = some active)
    (written : AtLeast state.persisted.tables active.eventId active.aggregationUpdatedAt) :
    ∃ row, state.persisted.tables.events active.eventId = some row ∧
      WrittenFrom state.entityEvents active.toEvent row := by
  obtain ⟨row, found, current⟩ := written
  obtain ⟨version, wasStored, sameEvent, from'⟩ := sound.rows _ row found
  have stamp : row.aggregationUpdatedAt = version.aggregationUpdatedAt := from'.fields.2.2
  have atMost := sound.store.newest group active stored version wasStored sameEvent
  have atLeast : active.aggregationUpdatedAt ≤ version.aggregationUpdatedAt :=
    Int.le_trans current (Int.le_of_eq stamp)
  have same : version = active :=
    sound.store.unique version active wasStored (sound.store.stored stored) sameEvent
      (Int.le_antisymm atMost atLeast)
  exact ⟨row, found, same ▸ from'⟩

/-- When stored versions have increasing stamps, a flush leaves for every active
Event the row that its upsert would write into an empty table.  SCAN finds every
key that is present. -/
theorem flush_writes_rows {config : AggregationConfig} {past : List AggregationState}
    {before after : AggregationState} {keys : List GroupKey}
    (trace : (aggregationMachine config).Trace stampsIncrease past before)
    (flushed : QuietFlush config stampsIncrease keys before after)
    {group : GroupKey} (scanned : group ∈ keys) {active : ActiveEvent}
    (stored : after.store group = some active) :
    ∃ row, after.persisted.tables.events active.eventId = some row ∧
      WrittenFrom after.entityEvents active.toEvent row := by
  obtain ⟨scanning, scan, read, recording, activeEvents, reply, found, answered, permitted,
    began, reaches, atRecord, moved⟩ := flushed
  have traced := trace.next _ permitted began
  obtain ⟨history, traced⟩ := traced.extend (fun _ _ permitted => permitted.1) reaches
  have sound := versionSound_of_trace traced
  have reads : Reads group recording := by
    refine reaches.invariant (fun state action next held permitted moved =>
      held.step permitted.2 moved) ?_
    simp only [aggregationStep, resumeFlush, scanning, answered, afterRead,
      Option.map_some, Option.some.injEq] at began
    rw [← began]
    intro task running version isStored
    cases running
    exact reading_readNext _ _ (Or.inr (List.mem_dedup.mpr (found ▸ scanned)))
  simp only [aggregationStep, resumeFlush, atRecord, Option.map_some,
    Option.some.injEq] at moved
  subst moved
  have listed : active ∈ activeEvents := reads _ atRecord active stored
  have written := sound.flush _ atRecord active listed
  exact sound.writtenFrom stored written

/-! ## Runs with an advancing and with a standing clock -/

def undisturbedCheck (state : AggregationState) : AggregationAction → Bool
  | .resumeMerge group reply =>
      match (state.merges group).map MergeTask.stage with
      | some (.upsert _ _) => !reply.outcome.applied
      | _ => true
  | .startFlush | .stopFlush | .crash => false
  | .storeEntityEvent _ | .startMerge _ | .endMerge _ | .expire _ | .resumeFlush _ => true

theorem undisturbedCheck_sound (state : AggregationState) (action : AggregationAction)
    (checked : undisturbedCheck state action = true) : undisturbed state action := by
  cases action with
  | resumeMerge group reply =>
      intro entityEvent active updated running
      simpa [undisturbedCheck, running] using checked
  | startFlush | stopFlush | crash => cases checked
  | storeEntityEvent | startMerge | endMerge | expire | resumeFlush => trivial

/-- The flush of the sample group from its scan, in `steps` operations. -/
def flushThrough (check : AggregationState → AggregationAction → Bool) (steps : Nat)
    (test : AggregationState → Bool) (before : AggregationState) : Bool :=
  decide (before.flush = some .scan) &&
  (aggregationStep defaultAggregationConfig before
    (.resumeFlush (reply .done 0 0))).any fun read =>
  ((aggregationMachine defaultAggregationConfig).run
    (fun state action => check state action && undisturbedCheck state action) read
    (flushOn steps)).any fun recording =>
  (match recording.flush with | some (.record _) => true | _ => false) &&
  (aggregationStep defaultAggregationConfig recording
    (.resumeFlush (reply .done 0 0))).any test

theorem quietFlush_of_run {allowed : AggregationState → AggregationAction → Prop}
    {check : AggregationState → AggregationAction → Bool}
    (sound : ∀ state action, check state action = true → allowed state action)
    (flushing : ∀ state reply, allowed state (.resumeFlush reply)) {steps : Nat}
    {test : AggregationState → Bool} {before : AggregationState}
    (ran : flushThrough check steps test before = true) :
    ∃ after, QuietFlush defaultAggregationConfig allowed [sampleGroup] before after ∧
      test after = true := by
  simp only [flushThrough, Bool.and_eq_true, decide_eq_true_eq, Option.any_eq_true] at ran
  obtain ⟨scanning, read, began, recording, reached, atRecord, after, ended, tested⟩ := ran
  have reaches : Reaches (aggregationMachine defaultAggregationConfig)
      (fun state action => allowed state action ∧ undisturbed state action)
      read recording := by
    refine Reaches.of_run ?_ _ reached
    intro state action checked
    obtain ⟨first, second⟩ := Bool.and_eq_true_iff.mp checked
    exact ⟨sound state action first, undisturbedCheck_sound state action second⟩
  split at atRecord
  · rename_i activeEvents is
    exact ⟨after, ⟨scanning, reply .done 0 0, read, recording, activeEvents,
      reply .done 0 0, rfl, rfl, flushing before _, began, reaches, is, ended⟩, tested⟩
  · cases atRecord

/-- Two merges with a flush after each, up to the scan of the second flush; the
clock reads `first` and `second`. -/
def mergeFlushMerge (first second : Timestamp) : List AggregationAction :=
  [.storeEntityEvent (sampleEntityEvent 1 0), .storeEntityEvent (sampleEntityEvent 2 1),
    .startMerge 1] ++ mergeOn 3 first 10 ++ [.endMerge sampleGroup, .startFlush] ++
  flushOn 7 ++ [.startMerge 2] ++ mergeOn 3 second 11 ++
  [.endMerge sampleGroup, .startFlush]

/-- Both EntityEvents are in the stored Event. -/
def bothMerged (state : AggregationState) : Bool :=
  (state.store sampleGroup).any fun active =>
    decide (active.eventId = 10 ∧ active.lastSeenAt = 3600000000)

theorem bothMerged_stored {state : AggregationState} (merged : bothMerged state = true) :
    ∃ active, state.store sampleGroup = some active ∧ active.eventId = 10 ∧
      active.lastSeenAt = 3600000000 := by
  simpa [bothMerged, Option.any_eq_true] using merged

theorem flush_writes_rows_extended : ∃ past before after row active,
    (aggregationMachine defaultAggregationConfig).Trace stampsIncrease past before ∧
    QuietFlush defaultAggregationConfig stampsIncrease [sampleGroup] before after ∧
    after.store sampleGroup = some active ∧ active.lastSeenAt = 3600000000 ∧
    after.persisted.tables.events active.eventId = some row ∧
    WrittenFrom after.entityEvents active.toEvent row := by
  obtain ⟨past, before, trace, tested⟩ :=
    Trace.of_run (aggregationMachine defaultAggregationConfig) stampsIncreaseCheck
      (flushThrough stampsIncreaseCheck 5 bothMerged)
      (fun _ state action _ => stampsIncreaseCheck_sound state action) rfl
      (mergeFlushMerge 1 2) (by decide +kernel)
  obtain ⟨after, flushed, merged⟩ :=
    quietFlush_of_run stampsIncreaseCheck_sound (fun _ _ => trivial) tested
  obtain ⟨active, stored, -, extended⟩ := bothMerged_stored merged
  obtain ⟨row, found, written⟩ :=
    flush_writes_rows trace flushed (List.mem_singleton_self _) stored
  exact ⟨past, before, after, row, active, trace, flushed, stored,
    extended, found, written⟩

/-- The second reading of the clock equals the first: the flush skips the merged
Event, whose row still ends at the first EntityEvent. -/
theorem standing_clock_loses_merge : ¬ ∀ past before after keys group active,
    (aggregationMachine defaultAggregationConfig).Trace anyAction past before →
    QuietFlush defaultAggregationConfig anyAction keys before after → group ∈ keys →
    after.store group = some active →
    ∃ row, after.persisted.tables.events active.eventId = some row ∧
      WrittenFrom after.entityEvents active.toEvent row := by
  intro claimed
  obtain ⟨past, before, trace, tested⟩ :=
    Trace.of_free_run (aggregationMachine defaultAggregationConfig)
      (flushThrough (fun _ _ => true) 1 fun state => bothMerged state &&
        (state.persisted.tables.events 10).all fun row : EventRow =>
          decide (row.lastSeenAt = 0)) rfl
      (mergeFlushMerge 1 1) (by decide +kernel)
  obtain ⟨after, flushed, merged⟩ :=
    @quietFlush_of_run anyAction _ (fun _ _ _ => trivial) (fun _ _ => trivial) _ _ _ tested
  obtain ⟨both, kept⟩ := Bool.and_eq_true_iff.mp merged
  obtain ⟨active, stored, isEvent, extended⟩ := bothMerged_stored both
  obtain ⟨row, found, written⟩ := claimed past before after _ sampleGroup active trace flushed
    (List.mem_singleton_self _) stored
  rw [isEvent] at found
  simp only [found, Option.all_some, decide_eq_true_eq] at kept
  have lastSeen := written.lastSeen
  rw [kept, extended] at lastSeen
  cases lastSeen

end WealthFinder.Pipeline
