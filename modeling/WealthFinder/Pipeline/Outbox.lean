import WealthFinder.Pipeline.Announcing
import WealthFinder.Pipeline.Versions

/-!
# The active-event store as an outbox

Every version that has left the store is marked published, so a row whose version
is not belongs to a stored Event, and the flush has not recorded that Event's
version as flushed.
-/

set_option autoImplicit false

namespace WealthFinder.Pipeline

open Machine

/-- A key expires only once the version it holds is marked published. -/
def expiresMarked (state : AggregationState) : AggregationAction → Prop
  | .expire group => ∀ active, state.store group = some active →
      Marked state.persisted.tables active.eventId active.aggregationUpdatedAt
  | _ => True

def outboxRun (state : AggregationState) (action : AggregationAction) : Prop :=
  stampsIncrease state action ∧ expiresMarked state action

/-! ## The invariant -/

/-- A merge writes the store over its own Event or over one that is marked. -/
def MergeMarks (state : AggregationState) (group : GroupKey) : MergeStage → Prop
  | .replace _ _ persist => StageMarks state.persisted persist.events persist.stage
  | .upsert _ updated => ∀ stored, state.store group = some stored →
      stored.eventId = updated.eventId ∨
        Marked state.persisted.tables stored.eventId stored.aggregationUpdatedAt
  | .getActiveEvent | .isMerged _ | .onSuccess | .onFailure => True

def FlushMarks (state : AggregationState) : FlushTask → Prop
  | .persist _ task => StageMarks state.persisted task.events task.stage
  | .record activeEvents => ∀ active ∈ activeEvents,
      Marked state.persisted.tables active.eventId active.aggregationUpdatedAt
  | .scan | .read _ _ _ => True

/-- The version's Event is still stored, or the version is marked. -/
def Kept (state : AggregationState) (version : ActiveEvent) : Prop :=
  (∃ active, state.store version.group = some active ∧ active.eventId = version.eventId) ∨
    Marked state.persisted.tables version.eventId version.aggregationUpdatedAt

structure OutboxSound (past : List AggregationState) (state : AggregationState) : Prop where
  log : LogSound state.persisted
  lastFlushed : ∀ eventId version, state.lastFlushed eventId = some version →
    Marked state.persisted.tables eventId version
  kept : ∀ version, WasStored past state version → Kept state version
  merges : ∀ group task, state.merges group = some task → MergeMarks state group task.stage
  flush : ∀ task, state.flush = some task → FlushMarks state task

theorem outboxSound_initial : OutboxSound [] AggregationState.initial where
  log :=
    { keyed := by intro _ _ found; cases found
      committed := by intro _ _ found; cases found
      announced := by intro _ _ _ found; cases found }
  lastFlushed := by intro _ _ found; cases found
  kept := fun _ stored => absurd stored (not_wasStored_initial _)
  merges := by intro _ _ running; cases running
  flush := by intro _ running; cases running

/-! ## What every step respects -/

section Stepped
variable {past : List AggregationState} {before after : AggregationState}
  (grows : Grows before.persisted after.persisted)
include grows

theorem MergeMarks.grown {group : GroupKey} {stage : MergeStage}
    (store : ∀ stored, after.store group = some stored → before.store group = some stored)
    (marks : MergeMarks before group stage) : MergeMarks after group stage := by
  cases stage with
  | getActiveEvent | isMerged | onSuccess | onFailure => trivial
  | replace active updated persist => exact StageMarks.grown grows marks
  | upsert active updated =>
      intro stored found
      exact (marks stored (store stored found)).imp_right (grows.marked _ _)

theorem FlushMarks.grown {task : FlushTask} (marks : FlushMarks before task) :
    FlushMarks after task := by
  cases task with
  | scan | read => trivial
  | persist activeEvents task => exact StageMarks.grown grows marks
  | record activeEvents => exact fun active member => grows.marked _ _ (marks active member)

/-- Only the coroutine that moved and the versions that left the store are left to
be shown sound. -/
theorem OutboxSound.stepped (acting : Option GroupKey) (sound : OutboxSound past before)
    (log : LogSound after.persisted)
    (lastFlushed : ∀ eventId version, after.lastFlushed eventId = some version →
      before.lastFlushed eventId = some version ∨
      Marked after.persisted.tables eventId version)
    (store : ∀ group, acting ≠ some group → ∀ stored, after.store group = some stored →
      before.store group = some stored)
    (kept : ∀ version, WasStored (before :: past) after version → Kept after version)
    (merges : ∀ group task, after.merges group = some task →
      (acting ≠ some group ∧ before.merges group = some task) ∨
      MergeMarks after group task.stage)
    (flush : ∀ task, after.flush = some task →
      before.flush = some task ∨ FlushMarks after task) :
    OutboxSound (before :: past) after where
  log := log
  lastFlushed := by
    intro eventId version found
    rcases lastFlushed eventId version found with old | new
    · exact grows.marked _ _ (sound.lastFlushed eventId version old)
    · exact new
  kept := kept
  merges := by
    intro group task running
    rcases merges group task running with ⟨apart, old⟩ | new
    · exact (sound.merges group task old).grown grows (store group apart)
    · exact new
  flush := by
    intro task running
    rcases flush task running with old | new
    · exact (sound.flush task old).grown grows
    · exact new

/-- A step that leaves the store as it is keeps every version. -/
theorem OutboxSound.kept_of_same (sound : OutboxSound past before)
    (store : after.store = before.store) (version : ActiveEvent)
    (stored : WasStored (before :: past) after version) : Kept after version := by
  have old : WasStored past before version :=
    wasStored_of_store (by rw [store]; exact fun _ _ found => found) stored
  unfold Kept
  rw [store]
  exact (sound.kept version old).imp_right (grows.marked _ _)

end Stepped

/-- A step that touches neither the tables nor the store. -/
theorem OutboxSound.moved {past : List AggregationState} {before after : AggregationState}
    (sound : OutboxSound past before) (persisted : after.persisted = before.persisted)
    (store : after.store = before.store)
    (lastFlushed : ∀ eventId version, after.lastFlushed eventId = some version →
      before.lastFlushed eventId = some version ∨
      Marked before.persisted.tables eventId version)
    (merges : ∀ group task, after.merges group = some task →
      before.merges group = some task ∨ MergeMarks before group task.stage)
    (flush : ∀ task, after.flush = some task →
      before.flush = some task ∨ FlushMarks before task) :
    OutboxSound (before :: past) after := by
  have grows : Grows before.persisted after.persisted := by
    rw [persisted]
    exact Grows.refl _
  refine sound.stepped grows none (persisted ▸ sound.log) ?_ ?_
    (sound.kept_of_same grows store) ?_ ?_
  · intro eventId version found
    exact (lastFlushed eventId version found).imp_right (grows.marked _ _)
  · rw [store]
    exact fun _ _ _ found => found
  · intro group task running
    rcases merges group task running with old | new
    · exact Or.inl ⟨by simp, old⟩
    · exact Or.inr (new.grown grows (by rw [store]; exact fun _ found => found))
  · intro task running
    exact (flush task running).imp_right (FlushMarks.grown grows)

/-! ## Merging -/

section Merging
variable {config : AggregationConfig} {past : List AggregationState}
  {state : AggregationState} {group : GroupKey} {task : MergeTask}

theorem OutboxSound.setMerge (sound : OutboxSound past state)
    (running : state.merges group = some task) {stage : MergeStage}
    (marks : MergeMarks state group stage) :
    OutboxSound (state :: past) (state.setMerge group stage) := by
  refine sound.moved rfl rfl (fun _ _ found => Or.inl found) ?_
    (fun _ flushing => Or.inl flushing)
  intro other later found
  rcases setMerge_running _ _ _ found running with ⟨rfl, rfl⟩ | ⟨-, unmoved⟩
  · exact Or.inr marks
  · exact Or.inl unmoved

theorem mergeMarks_afterGetActive (active : Option ActiveEvent) (entityEvent : EntityEvent) :
    MergeMarks state group (afterGetActive active entityEvent) := by
  cases active with
  | none => trivial
  | some current =>
      simp only [afterGetActive]
      split <;> trivial

/-- A merge without replacement stores over the Event that it has read. -/
theorem mergeMarks_afterMerge {active : Option ActiveEvent} {updated : ActiveEvent}
    (seen : ∀ stored, state.store group = some stored → active = some stored) :
    MergeMarks state group (afterMerge active updated) := by
  cases active with
  | none =>
      intro stored found
      cases seen stored found
  | some current =>
      simp only [afterMerge]
      split
      · trivial
      · rename_i same
        intro stored found
        cases seen stored found
        exact Or.inl (not_not.mp same).symm

theorem OutboxSound.replacing {active updated : ActiveEvent} {persist : PersistTask}
    {persisted : Persisted} {progress : Progress} {reply : Reply}
    (sound : OutboxSound past state) (versions : VersionSound past state)
    (running : state.merges group = some task)
    (at' : task.stage = .replace active updated persist)
    (moved : PersistStep state.entityEvents state.persisted persist reply persisted progress) :
    OutboxSound (state :: past) ({ state with persisted := persisted }.setMerge group
      (afterReplace active updated progress)) := by
  have held := (versions.merges group task running).stage
  have marks := sound.merges group task running
  rw [at'] at held marks
  obtain ⟨seen, -, -, -, events, persistVersions⟩ := held
  obtain ⟨onward, returned⟩ := moved.outcome sound.log persistVersions.written marks
  let after := { state with persisted := persisted }.setMerge group
    (afterReplace active updated progress)
  have grows : Grows state.persisted after.persisted := moved.grows
  refine sound.stepped grows none (moved.logSound sound.log marks)
    (fun _ _ found => Or.inl found) (fun _ _ _ found => found)
    (sound.kept_of_same grows rfl) ?_ (fun _ flushing => Or.inl flushing)
  intro other later found
  rcases setMerge_running _ _ _ found running with ⟨rfl, rfl⟩ | ⟨-, unmoved⟩
  · refine Or.inr ?_
    cases progress with
    | running next => exact onward next rfl
    | raised => trivial
    | returned =>
        intro stored stillStored
        have is : active = stored := seen stored stillStored
        refine Or.inr ?_
        rw [← is]
        exact returned rfl active.toEvent (by simp [events])
  · exact Or.inl ⟨by simp, unmoved⟩

theorem OutboxSound.stored_merged {active : Option ActiveEvent} {updated : ActiveEvent}
    {next : MergeStage} (sound : OutboxSound past state) (versions : VersionSound past state)
    (running : state.merges group = some task) (at' : task.stage = .upsert active updated)
    (moved : next = .onSuccess ∨ next = .upsert active updated ∨ next = .onFailure) :
    OutboxSound (state :: past) ({ state with
      store := Function.update state.store updated.group (some updated) }.setMerge
      group next) := by
  have held := (versions.merges group task running).stage
  have marks := sound.merges group task running
  rw [at'] at held marks
  have key : updated.group = group := held.ofKey
  rw [key]
  let after := { state with
    store := Function.update state.store group (some updated) }.setMerge group next
  have grows : Grows state.persisted after.persisted := Grows.refl _
  refine sound.stepped grows (some group) sound.log
    (fun _ _ found => Or.inl found) ?_ ?_ ?_ (fun _ flushing => Or.inl flushing)
  · intro other apart stored found
    have different : other ≠ group := fun same => apart (by rw [same])
    simpa [different] using found
  · intro version stored
    have known := @wasStored_of_update past state group after updated version rfl stored
    by_cases same : version.group = group
    · rcases known with old | rfl
      · rcases sound.kept version old with ⟨current, found, sameEvent⟩ | marked
        · rw [same] at found
          rcases marks current found with own | marked
          · exact Or.inl ⟨updated, by simp [same], own.symm.trans sameEvent⟩
          · have newest := versions.store.newest group current found version old sameEvent.symm
            rw [sameEvent] at marked
            exact Or.inr (marked.older newest)
        · exact Or.inr marked
      · exact Or.inl ⟨version, by simp [same], rfl⟩
    · rcases known with old | rfl
      · rcases sound.kept version old with ⟨current, found, sameEvent⟩ | marked
        · exact Or.inl ⟨current, by simpa [same] using found, sameEvent⟩
        · exact Or.inr marked
      · exact absurd key same
  · intro other later found
    rcases setMerge_running _ _ _ found running with ⟨rfl, rfl⟩ | ⟨different, unmoved⟩
    · refine Or.inr ?_
      rcases moved with rfl | rfl | rfl
      · trivial
      · intro stored stillStored
        simp only [setMerge_store, Function.update_self, Option.some.injEq] at stillStored
        exact Or.inl (by rw [stillStored])
      · trivial
    · exact Or.inl ⟨by simpa using fun is => different is.symm, unmoved⟩

theorem OutboxSound.mergeStep {reply : Reply} {after : AggregationState}
    (sound : OutboxSound past state) (versions : VersionSound past state)
    (running : state.merges group = some task)
    (moved : MergeStep config state group task reply after) :
    OutboxSound (state :: past) after := by
  have held := (versions.merges group task running).stage
  cases moved with
  | again =>
      exact sound.moved rfl rfl (fun _ _ found => Or.inl found)
        (fun _ _ found => Or.inl found) (fun _ flushing => Or.inl flushing)
  | failed | mapped | late => exact sound.setMerge running trivial
  | read => exact sound.setMerge running (mergeMarks_afterGetActive _ _)
  | merged at' =>
      rw [at'] at held
      refine sound.moved rfl rfl (fun _ _ found => Or.inl found) ?_
        (fun _ flushing => Or.inl flushing)
      intro other later found
      rcases setMerge_running _ _ _ found running with ⟨rfl, rfl⟩ | ⟨-, unmoved⟩
      · exact Or.inr (mergeMarks_afterMerge held.1)
      · exact Or.inl unmoved
  | replacing at' moved => exact sound.replacing versions running at' moved
  | stored at' _ moved => exact sound.stored_merged versions running at' moved

end Merging

/-! ## Flushing and the rest -/

section Flushing
variable {past : List AggregationState} {state : AggregationState}

theorem OutboxSound.setFlush {flush : Option FlushTask}
    {lastFlushed : UUID → Option Timestamp} (sound : OutboxSound past state)
    (flushed : ∀ eventId version, lastFlushed eventId = some version →
      Marked state.persisted.tables eventId version)
    (marks : ∀ task, flush = some task → FlushMarks state task) :
    OutboxSound (state :: past)
      { state with flush := flush, lastFlushed := lastFlushed } :=
  sound.moved rfl rfl (fun _ _ found => Or.inr (flushed _ _ found))
    (fun _ _ found => Or.inl found) (fun task flushing => Or.inr (marks task flushing))

theorem flushMarks_readNext (sound : OutboxSound past state)
    (activeEvents : List ActiveEvent) (keys : List GroupKey) :
    FlushMarks state (readNext state.lastFlushed activeEvents keys) := by
  rcases readNext_cases state.lastFlushed activeEvents keys with
    ⟨key, rest, -, is⟩ | ⟨-, is, unchanged⟩ | ⟨-, changed, is, -, -⟩ <;> rw [is]
  · trivial
  · exact fun active member => sound.lastFlushed _ _ (unchanged active member)
  · trivial

theorem OutboxSound.flushPersisting {activeEvents : List ActiveEvent}
    {persist : PersistTask} {persisted : Persisted} {progress : Progress} {reply : Reply}
    (sound : OutboxSound past state) (versions : VersionSound past state)
    (running : state.flush = some (.persist activeEvents persist))
    (moved : PersistStep state.entityEvents state.persisted persist reply persisted progress) :
    OutboxSound (state :: past) { state with
      persisted := persisted, flush := afterFlushPersist activeEvents progress } := by
  obtain ⟨persistVersions, covered⟩ := versions.flush _ running
  have marks : StageMarks state.persisted persist.events persist.stage := sound.flush _ running
  obtain ⟨onward, returned⟩ := moved.outcome sound.log persistVersions.written marks
  let after := { state with
    persisted := persisted, flush := afterFlushPersist activeEvents progress }
  have grows : Grows state.persisted after.persisted := moved.grows
  refine sound.stepped grows none (moved.logSound sound.log marks)
    (fun _ _ found => Or.inl found) (fun _ _ _ found => found)
    (sound.kept_of_same grows rfl) (fun _ _ found => Or.inl ⟨by simp, found⟩) ?_
  intro task flushing
  refine Or.inr ?_
  have same : afterFlushPersist activeEvents progress = some task := flushing
  cases progress with
  | running next =>
      cases same
      exact onward next rfl
  | returned =>
      cases same
      intro active member
      rcases covered active member with changed | unchanged
      · exact returned rfl active.toEvent changed
      · exact grows.marked _ _ (sound.lastFlushed _ _ unchanged)
  | raised => cases same

theorem OutboxSound.flushStep {after : AggregationState} {task : FlushTask}
    {reply : Reply} (sound : OutboxSound past state) (versions : VersionSound past state)
    (running : state.flush = some task) (moved : FlushStep state task reply after) :
    OutboxSound (state :: past) after := by
  have held := sound.flush task running
  cases moved with
  | again => exact sound.setFlush sound.lastFlushed sound.flush
  | ended => exact sound.setFlush sound.lastFlushed (by simp)
  | scanned =>
      refine sound.setFlush sound.lastFlushed ?_
      intro next same
      cases same
      exact flushMarks_readNext sound _ _
  | read =>
      refine sound.setFlush sound.lastFlushed ?_
      intro next same
      cases same
      exact flushMarks_readNext sound _ _
  | @persisting activeEvents persist persisted progress at' moved =>
      subst at'
      exact sound.flushPersisting versions running moved
  | @recorded activeEvents at' =>
      subst at'
      refine sound.setFlush ?_ (by simp)
      intro eventId version found
      obtain ⟨active, member, rfl, rfl⟩ := flushedVersions_some found
      exact held active member

theorem OutboxSound.expired {group : GroupKey} (sound : OutboxSound past state)
    (versions : VersionSound past state)
    (marked : ∀ active, state.store group = some active →
      Marked state.persisted.tables active.eventId active.aggregationUpdatedAt) :
    OutboxSound (state :: past)
      { state with store := Function.update state.store group none } := by
  have remains (other : GroupKey) (stored : ActiveEvent)
      (found : Function.update state.store group none other = some stored) :
      state.store other = some stored := (of_update_none found).2
  refine sound.stepped (Grows.refl _) none sound.log
    (fun _ _ found => Or.inl found) (fun other _ stored found => remains other stored found) ?_
    (fun _ _ found => Or.inl ⟨by simp, found⟩) (fun _ flushing => Or.inl flushing)
  intro version stored
  have old : WasStored past state version := wasStored_of_store remains stored
  rcases sound.kept version old with ⟨active, found, sameEvent⟩ | already
  · by_cases same : version.group = group
    · have newest := versions.store.newest _ active found version old sameEvent.symm
      rw [same] at found
      have covers := marked active found
      rw [sameEvent] at covers
      exact Or.inr (covers.older newest)
    · exact Or.inl ⟨active, by simpa [same] using found, sameEvent⟩
  · exact Or.inr already

end Flushing

theorem OutboxSound.step {config : AggregationConfig} {past : List AggregationState}
    {state after : AggregationState} {action : AggregationAction}
    (sound : OutboxSound past state) (versions : VersionSound past state)
    (permitted : expiresMarked state action)
    (moved : aggregationStep config state action = some after) :
    OutboxSound (state :: past) after := by
  cases action with
  | storeEntityEvent row =>
      obtain ⟨-, rfl⟩ := storeEntityEvent_step moved
      exact sound.moved rfl rfl (fun _ _ found => Or.inl found)
        (fun _ _ found => Or.inl found) (fun _ flushing => Or.inl flushing)
  | startMerge entityEventId =>
      obtain ⟨row, -, rfl⟩ := startMerge_step moved
      refine sound.moved rfl rfl (fun _ _ found => Or.inl found) ?_
        (fun _ flushing => Or.inl flushing)
      intro group task running
      rcases of_update_some running with ⟨-, rfl⟩ | ⟨-, old⟩
      · exact Or.inr trivial
      · exact Or.inl old
  | resumeMerge group reply =>
      obtain ⟨task, running, moved⟩ := resumeMerge_step moved
      exact sound.mergeStep versions running moved
  | endMerge group =>
      cases endMerge_step moved
      refine sound.moved rfl rfl (fun _ _ found => Or.inl found) ?_
        (fun _ flushing => Or.inl flushing)
      intro other later found
      exact Or.inl (of_update_none found).2
  | expire group =>
      cases moved
      exact sound.expired versions permitted
  | startFlush =>
      cases startFlush_step moved
      refine sound.setFlush sound.lastFlushed ?_
      intro task same
      cases same
      trivial
  | resumeFlush reply =>
      obtain ⟨task, running, moved⟩ := resumeFlush_step moved
      exact sound.flushStep versions running moved
  | stopFlush =>
      cases moved
      exact sound.setFlush sound.lastFlushed (by simp)
  | crash =>
      cases moved
      exact sound.moved rfl rfl (by simp) (by simp) (by simp)

theorem outbox_invariant {config : AggregationConfig} {past : List AggregationState}
    {state : AggregationState}
    (trace : (aggregationMachine config).Trace outboxRun past state) :
    VersionSound past state ∧ OutboxSound past state := by
  apply trace.history_invariant
  · intro start begins
    rw [show start = AggregationState.initial from begins]
    exact ⟨versionSound_initial, outboxSound_initial⟩
  · intro history before action after _ held permitted moved
    obtain ⟨versions, outbox⟩ := held
    exact ⟨versions.step permitted.1 moved, outbox.step versions permitted.2 moved⟩

/-- An unpublished row's Event is stored and would be selected by a flush; a version
whose Event has left the store is marked; and a mark covers only what was
committed before an announcement. -/
theorem outbox_sound {config : AggregationConfig} {past : List AggregationState}
    {state : AggregationState}
    (trace : (aggregationMachine config).Trace outboxRun past state) :
    (∀ eventId row, state.persisted.tables.events eventId = some row →
      row.unpublished = true → ∃ active, state.store row.group = some active ∧
        active.eventId = eventId ∧
        ∀ activeEvents, active ∈ activeEvents →
          active ∈ changedSince state.lastFlushed activeEvents) ∧
    (∀ version, WasStored past state version →
      (∀ active, state.store version.group = some active →
        active.eventId ≠ version.eventId) →
      Announced state.persisted.log version.eventId version.aggregationUpdatedAt) ∧
    ∀ eventId row mark, state.persisted.tables.events eventId = some row →
      row.publishedAggregationUpdatedAt = some mark →
      Announced state.persisted.log eventId mark := by
  obtain ⟨versions, outbox⟩ := outbox_invariant trace
  refine ⟨?_, ?_, outbox.log.announced⟩
  · intro eventId row found unpublished
    obtain ⟨version, stored, rfl, written⟩ := versions.rows eventId row found
    obtain ⟨-, group, stamp⟩ := written.fields
    have unmarked (at' : Timestamp) (covers : row.aggregationUpdatedAt ≤ at') :
        ¬ Marked state.persisted.tables version.eventId at' := by
      rintro ⟨other, mark, otherFound, is, atLeast⟩
      cases found.symm.trans otherFound
      rw [EventRow.not_unpublished is (Int.le_trans covers atLeast)] at unpublished
      cases unpublished
    rcases outbox.kept version stored with ⟨active, isStored, sameEvent⟩ | marked
    · refine ⟨active, by rw [group]; exact isStored, sameEvent, ?_⟩
      intro activeEvents member
      refine List.mem_filter.mpr ⟨member, ?_⟩
      have newest := versions.store.newest _ active isStored version stored sameEvent.symm
      have selected : state.lastFlushed active.eventId ≠ some active.aggregationUpdatedAt := by
        intro flushed
        have marked := outbox.lastFlushed _ _ flushed
        rw [sameEvent] at marked
        exact unmarked _ (Int.le_trans (Int.le_of_eq stamp) newest) marked
      simpa using selected
    · exact absurd marked (unmarked _ (Int.le_of_eq stamp))
  · intro version stored departed
    rcases outbox.kept version stored with ⟨active, isStored, sameEvent⟩ | marked
    · exact absurd sameEvent (departed active isStored)
    · obtain ⟨row, mark, found, is, covers⟩ := marked
      exact (outbox.log.announced _ row mark found is).older covers

/-! ## A run with a failed publish and a crash -/

def expiresMarkedCheck (state : AggregationState) : AggregationAction → Bool
  | .expire group => (state.store group).all fun active =>
      (state.persisted.tables.events active.eventId).any fun row =>
        row.publishedAggregationUpdatedAt.any fun mark =>
          decide (active.aggregationUpdatedAt ≤ mark)
  | _ => true

theorem outboxCheck_sound (state : AggregationState) (action : AggregationAction)
    (checked : (stampsIncreaseCheck state action && expiresMarkedCheck state action) = true) :
    outboxRun state action := by
  obtain ⟨stamps, expires⟩ := Bool.and_eq_true_iff.mp checked
  refine ⟨stampsIncreaseCheck_sound state action stamps, ?_⟩
  cases action with
  | expire group =>
      intro active found
      simp only [expiresMarkedCheck, found, Option.all_some, Option.any_eq_true,
        decide_eq_true_eq] at expires
      obtain ⟨row, isRow, mark, isMark, covers⟩ := expires
      exact ⟨row, mark, isRow, isMark, covers⟩
  | storeEntityEvent | startMerge | resumeMerge | endMerge | startFlush | resumeFlush
  | stopFlush | crash => trivial

/-- Publishing the Event to be replaced fails at first; the merge is redelivered, and
the process crashes once the flush has committed the new Event. -/
def replaceAndCrash : List AggregationAction :=
  [.storeEntityEvent (sampleEntityEvent 1 0), .storeEntityEvent (sampleEntityEvent 3 30),
    .startMerge 1] ++ mergeOn 3 1 10 ++ [.endMerge sampleGroup, .startMerge 3] ++
  mergeOn 4 2 11 ++ [.resumeMerge sampleGroup (reply (.failed false) 2 0),
    .endMerge sampleGroup, .startMerge 3] ++ mergeOn 7 3 12 ++
  [.endMerge sampleGroup, .startFlush] ++ flushOn 3 ++ [.crash]

theorem outbox_sound_crashed : ∃ past state,
    (aggregationMachine defaultAggregationConfig).Trace outboxRun past state ∧
    (∃ row, state.persisted.tables.events 12 = some row ∧ row.unpublished = true ∧
      ∃ active, state.store row.group = some active ∧ active.eventId = 12 ∧
        active ∈ changedSince state.lastFlushed [active]) ∧
    ∃ row, state.persisted.tables.events 10 = some row ∧
      row.publishedAggregationUpdatedAt = some 1 ∧ Announced state.persisted.log 10 1 := by
  obtain ⟨past, state, trace, tested⟩ :=
    Trace.of_run (aggregationMachine defaultAggregationConfig)
      (fun state action => stampsIncreaseCheck state action && expiresMarkedCheck state action)
      (fun state : AggregationState =>
        (state.persisted.tables.events 12).any EventRow.unpublished &&
        (state.persisted.tables.events 10).any fun row : EventRow =>
          decide (row.publishedAggregationUpdatedAt = some 1))
      (fun _ state action _ => outboxCheck_sound state action) rfl
      replaceAndCrash (by decide +kernel)
  simp only [Bool.and_eq_true, Option.any_eq_true, decide_eq_true_eq] at tested
  obtain ⟨⟨row, found, unpublished⟩, old, oldFound, marked⟩ := tested
  obtain ⟨pending, -, announced⟩ := outbox_sound trace
  obtain ⟨active, stored, same, selected⟩ := pending 12 row found unpublished
  exact ⟨past, state, trace,
    ⟨row, found, unpublished, active, stored, same, selected _ (List.mem_singleton_self _)⟩,
    old, oldFound, marked, announced 10 old 1 oldFound marked⟩

end WealthFinder.Pipeline
