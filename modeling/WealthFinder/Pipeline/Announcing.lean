import WealthFinder.Pipeline.AggregationSteps

/-!
# Announcing persisted Events

What `_persist_and_publish` knows of its Events between its operations: the rows
it still has to announce, and that it returns only once every Event is marked.
-/

set_option autoImplicit false

namespace WealthFinder.Pipeline

/-- The Event's row is marked published at the version or at a later one. -/
def Marked (tables : EventTables) (eventId : UUID) (version : Timestamp) : Prop :=
  ∃ row mark, tables.events eventId = some row ∧
    row.publishedAggregationUpdatedAt = some mark ∧ version ≤ mark

def CommittedVersion (log : List Record) (eventId : UUID) (version : Timestamp) : Prop :=
  ∃ event, Record.committed event ∈ log ∧ event.eventId = eventId ∧
    event.aggregationUpdatedAt = version

/-- The Event was announced after a version at least as new was committed. -/
def Announced (log : List Record) (eventId : UUID) (version : Timestamp) : Prop :=
  ∃ newer older event, log = newer ++ .announced eventId :: older ∧
    Record.committed event ∈ older ∧ event.eventId = eventId ∧
    version ≤ event.aggregationUpdatedAt

/-- What the log says of every row and of every mark. -/
structure LogSound (persisted : Persisted) : Prop where
  keyed : ∀ eventId row, persisted.tables.events eventId = some row → row.eventId = eventId
  committed : ∀ eventId row, persisted.tables.events eventId = some row →
    CommittedVersion persisted.log eventId row.aggregationUpdatedAt
  announced : ∀ eventId row mark, persisted.tables.events eventId = some row →
    row.publishedAggregationUpdatedAt = some mark → Announced persisted.log eventId mark

/-- The Event is marked, or one of the pending rows will mark it. -/
def Due (tables : EventTables) (pending : List EventRow) (event : Event) : Prop :=
  Marked tables event.eventId event.aggregationUpdatedAt ∨
    ∃ row ∈ pending, row.eventId = event.eventId ∧
      event.aggregationUpdatedAt ≤ row.aggregationUpdatedAt

/-- What a task knows of the rows that it has fetched. -/
structure PendingSound (persisted : Persisted) (events : List Event)
    (pending : List EventRow) : Prop where
  due : ∀ event ∈ events, Due persisted.tables pending event
  committed : ∀ row ∈ pending,
    CommittedVersion persisted.log row.eventId row.aggregationUpdatedAt

def StageMarks (persisted : Persisted) (events : List Event) : PersistStage → Prop
  | .persistEvents => True
  | .fetchUnpublished => True
  | .publish row rest => PendingSound persisted events (row :: rest)
  | .markPublished row rest => PendingSound persisted events (row :: rest) ∧
      Announced persisted.log row.eventId row.aggregationUpdatedAt

theorem Marked.older {tables : EventTables} {eventId : UUID} {version older : Timestamp}
    (marked : Marked tables eventId version) (le : older ≤ version) :
    Marked tables eventId older := by
  obtain ⟨row, mark, found, is, covers⟩ := marked
  exact ⟨row, mark, found, is, Int.le_trans le covers⟩

theorem Announced.older {log : List Record} {eventId : UUID} {version older : Timestamp}
    (announced : Announced log eventId version) (le : older ≤ version) :
    Announced log eventId older := by
  obtain ⟨newer, before, event, split, committed, same, covers⟩ := announced
  exact ⟨newer, before, event, split, committed, same, Int.le_trans le covers⟩

/-- A row is unpublished or marked at its own version. -/
theorem EventRow.unpublished_or_marked (row : EventRow) :
    row.unpublished = true ∨ ∃ mark, row.publishedAggregationUpdatedAt = some mark ∧
      row.aggregationUpdatedAt ≤ mark := by
  unfold EventRow.unpublished
  cases marked : row.publishedAggregationUpdatedAt with
  | none => exact Or.inl rfl
  | some mark =>
      by_cases older : mark < row.aggregationUpdatedAt
      · exact Or.inl (by simpa using older)
      · exact Or.inr ⟨mark, rfl, Int.not_lt.mp older⟩

theorem EventRow.not_unpublished {row : EventRow} {mark : Timestamp}
    (marked : row.publishedAggregationUpdatedAt = some mark)
    (covers : row.aggregationUpdatedAt ≤ mark) : row.unpublished = false := by
  simpa [EventRow.unpublished, marked] using covers

/-- The next turn of the loop over the pending rows. -/
theorem PendingSound.announceNext {persisted : Persisted} {task : PersistTask}
    {pending : List EventRow} (sound : PendingSound persisted task.events pending) :
    (∀ later, task.announceNext pending = .running later →
      StageMarks persisted later.events later.stage) ∧
    (task.announceNext pending = .returned → ∀ event ∈ task.events,
      Marked persisted.tables event.eventId event.aggregationUpdatedAt) := by
  cases pending with
  | nil =>
      refine ⟨by simp [PersistTask.announceNext], ?_⟩
      intro _ event member
      rcases sound.due event member with marked | ⟨_, impossible, _⟩
      · exact marked
      · cases impossible
  | cons row rest =>
      refine ⟨?_, by simp [PersistTask.announceNext]⟩
      intro later same
      cases same
      exact sound

/-! ## What every operation respects -/

structure Grows (before after : Persisted) : Prop where
  marked : ∀ eventId version, Marked before.tables eventId version →
    Marked after.tables eventId version
  log : ∃ newer, after.log = newer ++ before.log

theorem Grows.refl (persisted : Persisted) : Grows persisted persisted :=
  ⟨fun _ _ marked => marked, [], rfl⟩

section Grows
variable {before after : Persisted} (grows : Grows before after)
include grows

theorem CommittedVersion.grown {eventId : UUID} {version : Timestamp}
    (committed : CommittedVersion before.log eventId version) :
    CommittedVersion after.log eventId version := by
  obtain ⟨event, logged, same⟩ := committed
  obtain ⟨newer, log⟩ := grows.log
  exact ⟨event, log ▸ List.mem_append_right newer logged, same⟩

theorem Announced.grown {eventId : UUID} {version : Timestamp}
    (announced : Announced before.log eventId version) :
    Announced after.log eventId version := by
  obtain ⟨newer, older, event, split, known⟩ := announced
  obtain ⟨newest, log⟩ := grows.log
  exact ⟨newest ++ newer, older, event, by rw [log, split, List.append_assoc], known⟩

theorem PendingSound.grown {events : List Event} {pending : List EventRow}
    (sound : PendingSound before events pending) : PendingSound after events pending where
  due := fun event member => (sound.due event member).imp_left (grows.marked _ _)
  committed := fun row member => (sound.committed row member).grown grows

theorem StageMarks.grown {events : List Event} {stage : PersistStage}
    (marks : StageMarks before events stage) : StageMarks after events stage := by
  cases stage with
  | persistEvents | fetchUnpublished => trivial
  | publish row rest => exact PendingSound.grown grows marks
  | markPublished row rest => exact ⟨marks.1.grown grows, marks.2.grown grows⟩

end Grows

/-- Marking the first pending row leaves the rest. -/
theorem PendingSound.rest {persisted next : Persisted} (grows : Grows persisted next)
    {events : List Event} {row : EventRow} {rest : List EventRow}
    (marks : ∀ old, persisted.tables.events row.eventId = some old →
      next.tables.events row.eventId = some (old.mark row.aggregationUpdatedAt))
    (written : ∀ event ∈ events,
      AtLeast persisted.tables event.eventId event.aggregationUpdatedAt)
    (pending : PendingSound persisted events (row :: rest)) :
    PendingSound next events rest := by
  refine ⟨?_, ?_⟩
  · intro event member
    rcases pending.due event member with marked | ⟨other, listed, same, covers⟩
    · exact Or.inl (grows.marked _ _ marked)
    · rcases List.mem_cons.mp listed with is | later
      · subst is
        obtain ⟨old, found, -⟩ := written event member
        rw [← same] at found
        obtain ⟨-, mark, isMark, atLeast, -⟩ := old.mark_spec other.aggregationUpdatedAt
        refine Or.inl ⟨_, mark, ?_, isMark, Int.le_trans covers atLeast⟩
        rw [← same]
        exact marks old found
      · exact Or.inr ⟨other, later, same, covers⟩
  · intro other listed
    exact (pending.committed other (List.mem_cons_of_mem _ listed)).grown grows

/-! ## The operations -/

/-- The fetched rows are the Events that are still to be announced. -/
theorem pendingSound_fetched {persisted : Persisted} (rowOrder : RowOrder EventRow)
    {events : List Event} (sound : LogSound persisted)
    (written : ∀ event ∈ events,
      AtLeast persisted.tables event.eventId event.aggregationUpdatedAt) :
    PendingSound persisted events (fetchUnpublishedEvents rowOrder
      persisted.tables.events (events.map Event.eventId)) := by
  have selected (row : EventRow) : row ∈ fetchUnpublishedEvents rowOrder
      persisted.tables.events (events.map Event.eventId) ↔
      (∃ event ∈ events, persisted.tables.events event.eventId = some row) ∧
        row.unpublished = true := by
    simp [fetchUnpublishedEvents, (rowOrder.perm _).mem_iff, List.mem_filter,
      List.mem_filterMap]
  refine ⟨?_, ?_⟩
  · intro event member
    obtain ⟨row, found, current⟩ := written event member
    rcases row.unpublished_or_marked with unpublished | ⟨mark, is, covers⟩
    · exact Or.inr ⟨row, (selected row).mpr ⟨⟨event, member, found⟩, unpublished⟩,
        sound.keyed _ row found, current⟩
    · exact Or.inl ⟨row, mark, found, is, Int.le_trans current covers⟩
  · intro row member
    obtain ⟨⟨event, -, found⟩, -⟩ := (selected row).mp member
    rw [sound.keyed _ row found]
    exact sound.committed _ row found

namespace PersistStep
variable {entityEvents : EntityEvents} {persisted next : Persisted} {task : PersistTask}
  {reply : Reply} {progress : Progress}
  (moved : PersistStep entityEvents persisted task reply next progress)
include moved

theorem grows : Grows persisted next := by
  refine ⟨?_, ?_⟩
  · rintro eventId version ⟨row, mark, found, is, covers⟩
    obtain ⟨later, stored, -, marks⟩ := moved.row found
    obtain ⟨newer, isNewer, atLeast⟩ := marks mark is
    exact ⟨later, newer, stored, isNewer, Int.le_trans covers atLeast⟩
  · cases moved with
    | again | raised | fetched | marked => exact ⟨[], rfl⟩
    | committed => exact ⟨task.events.map Record.committed, rfl⟩
    | @announced row => exact ⟨[.announced row.eventId], rfl⟩

theorem logSound (sound : LogSound persisted)
    (marks : StageMarks persisted task.events task.stage) : LogSound next := by
  have grown := moved.grows
  cases moved with
  | again | raised | fetched => exact sound
  | announced at' =>
      exact ⟨sound.keyed,
        fun eventId row found => (sound.committed eventId row found).grown grown,
        fun eventId row mark found is => (sound.announced eventId row mark found is).grown grown⟩
  | @committed tables written progress at' ran =>
      let log := task.events.map Record.committed ++ persisted.log
      refine @persistEvents_invariant reply.env entityEvents
        (fun tables => LogSound ⟨tables, log⟩) task.events ?_ _ _ _ ran ?_
      · intro event member before after turned held
        obtain ⟨excluded, row, proposed, stored, upserted⟩ := turned.row
        obtain ⟨proposedId, -, -, -, version, unmarked, -⟩ := excludedRow_fields proposed
        have fresh : CommittedVersion log event.eventId excluded.aggregationUpdatedAt :=
          ⟨event, List.mem_append_left _ (List.mem_map_of_mem member), rfl, version.symm⟩
        have row_sound : row.eventId = event.eventId ∧
            CommittedVersion log event.eventId row.aggregationUpdatedAt ∧
            ∀ mark, row.publishedAggregationUpdatedAt = some mark →
              Announced log event.eventId mark := by
          cases was : before.events event.eventId with
          | none =>
              rw [was] at upserted
              cases upserted
              exact ⟨proposedId, fresh, fun mark is => by rw [unmarked] at is; cases is⟩
          | some old =>
              rw [was] at upserted
              obtain ⟨sameId, -, -, sameMark, -⟩ := upserted.of_some
              refine ⟨sameId.trans (held.keyed _ old was), ?_, ?_⟩
              · rcases upserted.version with same | same
                · cases same
                  exact held.committed _ row was
                · exact same ▸ fresh
              · intro mark is
                exact held.announced _ old mark was (sameMark ▸ is)
        constructor
        · intro eventId other found
          by_cases same : eventId = event.eventId
          · rw [same] at found ⊢
            cases stored.symm.trans found
            exact row_sound.1
          · exact held.keyed eventId other (turned.others eventId same ▸ found)
        · intro eventId other found
          by_cases same : eventId = event.eventId
          · rw [same] at found ⊢
            cases stored.symm.trans found
            exact row_sound.2.1
          · exact held.committed eventId other (turned.others eventId same ▸ found)
        · intro eventId other mark found is
          by_cases same : eventId = event.eventId
          · rw [same] at found ⊢
            cases stored.symm.trans found
            exact row_sound.2.2 mark is
          · exact held.announced eventId other mark (turned.others eventId same ▸ found) is
      · have logged : Grows persisted ⟨persisted.tables, log⟩ :=
          ⟨fun _ _ marked => marked, _, rfl⟩
        exact ⟨sound.keyed,
          fun eventId row found => (sound.committed eventId row found).grown logged,
          fun eventId row mark found is => (sound.announced eventId row mark found is).grown logged⟩
  | @marked row rest progress at' =>
      rw [at'] at marks
      have changed (eventId : UUID) (later : EventRow)
          (found : markPublished persisted.tables.events row.eventId
            row.aggregationUpdatedAt eventId = some later) :
          persisted.tables.events eventId = some later ∨ (eventId = row.eventId ∧
            ∃ old, persisted.tables.events eventId = some old ∧
              later = { old with
                publishedAggregationUpdatedAt := some row.aggregationUpdatedAt }) := by
        by_cases same : eventId = row.eventId
        · subst same
          simp only [markPublished, Function.update_self, Option.map_eq_some_iff] at found
          obtain ⟨old, was, rfl⟩ := found
          rcases old.mark_cases row.aggregationUpdatedAt with kept | written
          · exact Or.inl (by rw [kept, was])
          · exact Or.inr ⟨rfl, old, was, written⟩
        · exact Or.inl (by simpa [markPublished, same] using found)
      constructor
      · intro eventId later found
        rcases changed eventId later found with old | ⟨-, old, was, rfl⟩
        · exact sound.keyed eventId later old
        · exact sound.keyed eventId old was
      · intro eventId later found
        rcases changed eventId later found with old | ⟨-, old, was, rfl⟩
        · exact sound.committed eventId later old
        · exact sound.committed eventId old was
      · intro eventId later mark found is
        rcases changed eventId later found with old | ⟨same, old, was, rfl⟩
        · exact sound.announced eventId later mark old is
        · cases is
          exact same ▸ marks.2

/-- The task goes on with what it knows, and returns once every Event is
marked. -/
theorem outcome (sound : LogSound persisted)
    (written : task.stage ≠ .persistEvents → ∀ event ∈ task.events,
      AtLeast persisted.tables event.eventId event.aggregationUpdatedAt)
    (marks : StageMarks persisted task.events task.stage) :
    (∀ later, progress = .running later → StageMarks next later.events later.stage) ∧
    (progress = .returned → ∀ event ∈ task.events,
      Marked next.tables event.eventId event.aggregationUpdatedAt) := by
  have grown := moved.grows
  have again (later : PersistTask) (same : Progress.running task = .running later) :
      StageMarks next later.events later.stage := by
    cases same
    exact marks.grown grown
  cases moved with
  | again => exact ⟨again, by simp⟩
  | raised => exact ⟨by simp, by simp⟩
  | committed _ _ moved =>
      rcases moved with rfl | rfl
      · refine ⟨?_, by simp⟩
        intro later same
        cases same
        trivial
      · exact ⟨by simp, by simp⟩
  | fetched at' =>
      exact (pendingSound_fetched reply.rowOrder sound (written (by simp [at']))).announceNext
  | @announced row rest progress at' moved =>
      rw [at'] at marks
      rcases moved with rfl | rfl | rfl
      · refine ⟨?_, by simp⟩
        intro later same
        cases same
        have pending : PendingSound persisted task.events (row :: rest) := marks
        obtain ⟨event, logged, same, covers⟩ := pending.committed row List.mem_cons_self
        exact ⟨pending.grown grown, [], persisted.log, event, rfl, logged, same,
          Int.le_of_eq covers.symm⟩
      · exact ⟨again, by simp⟩
      · exact ⟨by simp, by simp⟩
  | @marked row rest progress at' moved =>
      rcases moved with rfl | rfl | rfl
      · rw [at'] at marks
        have left := marks.1.rest grown (fun old found => by simp [markPublished, found])
          (written (by simp [at']))
        exact left.announceNext
      · exact ⟨again, by simp⟩
      · exact ⟨by simp, by simp⟩

end PersistStep

end WealthFinder.Pipeline
