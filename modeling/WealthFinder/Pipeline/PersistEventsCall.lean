import WealthFinder.Pipeline.DerivedFields
import WealthFinder.Pipeline.PersistAgreement
import WealthFinder.Pipeline.PersistRules
import WealthFinder.Pipeline.TransactionPrograms

/-!
# `persist_events` over the database client

The call statement by statement under `transaction()`, each await of which may fail.  It
has the effect that `persistEvents` describes or none, and repeating it is safe.
-/

set_option autoImplicit false

namespace WealthFinder.Pipeline

open Database

/-! ## The statements and the block -/

inductive EventStatement where
  | upsertEvent (event : Event)
  | insertMapping (mapping : EventEntityMap)

def sourceListMissing : DriverError where
  kind := .otherPostgres
  constraintName := none
  text := "NotNullViolationError('source_list')"

def mappingUnreferenced : DriverError where
  kind := .otherPostgres
  constraintName := none
  text := "ForeignKeyViolationError('event_entity_map')"

/-- The tables that a statement leaves, and its row. -/
def executeEvents (env : PersistEnv) (entityEvents : EntityEvents) :
    EventStatement → EventTables → Except DriverError (EventTables × Option EventRow)
  | .upsertEvent event, tables =>
      match upsertEvent env.order entityEvents env.now tables.events event with
      | none => .error sourceListMissing
      | some (row, events) => .ok (⟨events, tables.entityMap⟩, row)
  | .insertMapping mapping, tables =>
      match insertMapping entityEvents tables.events tables.entityMap mapping with
      | none => .error mappingUnreferenced
      | some entityMap => .ok (⟨tables.events, entityMap⟩, none)

abbrev PersistProgram := Program EventStatement EventRow (List EventRow)

/-- The inner loop. -/
def executeMappings (eventId : UUID) (createdAt : Timestamp) (next : PersistProgram) :
    List UUID → PersistProgram
  | [] => next
  | entityEventId :: rest =>
      .execute (.insertMapping ⟨eventId, entityEventId, createdAt⟩) fun _ =>
        executeMappings eventId createdAt next rest

/-- The loop; `written` is what it has returned rows for. -/
def persistLoop (createdAt : Timestamp) : List Event → List EventRow → PersistProgram
  | [], written => .done written
  | event :: rest, written =>
      .execute (.upsertEvent event) fun row =>
        executeMappings event.eventId createdAt
          (persistLoop createdAt rest (written ++ row.toList)) event.entityEventIds

abbrev EventsWorld := World EventStatement EventTables (List EventRow)

def persistEventsCall (maxRetry : Int) (faults : Faults) (env : PersistEnv)
    (entityEvents : EntityEvents) (events : List Event) (world : EventsWorld) :
    Except Raised (List EventRow) × EventsWorld :=
  let (result, after) := transaction maxRetry
    { faults with exec := executeEvents env entityEvents }
    ((persistLoop env.createdAt events []).block [] id) world
  (result.map fun _ => after.caller, after)

/-! ## The block means `persistEvents` -/

section Meaning
variable {env : PersistEnv} {entityEvents : EntityEvents}

theorem executeMappings_some {eventId : UUID} {next : PersistProgram} (ids : List UUID)
    {tables : EventTables} {entityMap : UUID → Option EventEntityMap}
    (inserted : insertMappings entityEvents tables.events eventId env.createdAt
      tables.entityMap ids = some entityMap) :
    (executeMappings eventId env.createdAt next ids).meaning (executeEvents env entityEvents)
      tables = next.meaning (executeEvents env entityEvents) ⟨tables.events, entityMap⟩ := by
  induction ids generalizing tables with
  | nil =>
      cases inserted
      rfl
  | cons id rest ih =>
      obtain ⟨between, first, others⟩ := Option.bind_eq_some_iff.mp inserted
      have executed : executeEvents env entityEvents
          (.insertMapping ⟨eventId, id, env.createdAt⟩) tables =
          .ok (⟨tables.events, between⟩, none) := by
        simp only [executeEvents, first]
      rw [executeMappings, Program.meaning_ok executed]
      have later : insertMappings entityEvents
          (⟨tables.events, between⟩ : EventTables).events eventId env.createdAt
          (⟨tables.events, between⟩ : EventTables).entityMap rest = some entityMap := others
      exact ih later

theorem executeMappings_none {eventId : UUID} {next : PersistProgram} (ids : List UUID)
    {tables : EventTables}
    (failed : insertMappings entityEvents tables.events eventId env.createdAt
      tables.entityMap ids = none) :
    ∃ error, (executeMappings eventId env.createdAt next ids).meaning
      (executeEvents env entityEvents) tables = .error error := by
  induction ids generalizing tables with
  | nil => cases failed
  | cons id rest ih =>
      cases first : insertMapping entityEvents tables.events tables.entityMap
          ⟨eventId, id, env.createdAt⟩ with
      | none =>
          have executed : executeEvents env entityEvents
              (.insertMapping ⟨eventId, id, env.createdAt⟩) tables =
              .error mappingUnreferenced := by
            simp only [executeEvents, first]
          exact ⟨mappingUnreferenced, Program.meaning_error executed⟩
      | some between =>
          have executed : executeEvents env entityEvents
              (.insertMapping ⟨eventId, id, env.createdAt⟩) tables =
              .ok (⟨tables.events, between⟩, none) := by
            simp only [executeEvents, first]
          have later : insertMappings entityEvents
              (⟨tables.events, between⟩ : EventTables).events eventId env.createdAt
              (⟨tables.events, between⟩ : EventTables).entityMap rest = none := by
            simpa only [insertMappings, first, Option.bind_some] using failed
          rw [executeMappings, Program.meaning_ok executed]
          exact ih later

theorem persistLoop_turn (event : Event) (rest : List Event) (written : List EventRow)
    (tables : EventTables) :
    (∀ row after, persistEvent env entityEvents tables event = some (row, after) →
      (persistLoop env.createdAt (event :: rest) written).meaning
          (executeEvents env entityEvents) tables =
        (persistLoop env.createdAt rest (written ++ row.toList)).meaning
          (executeEvents env entityEvents) after) ∧
    (persistEvent env entityEvents tables event = none →
      ∃ error, (persistLoop env.createdAt (event :: rest) written).meaning
        (executeEvents env entityEvents) tables = .error error) := by
  cases upserted : upsertEvent env.order entityEvents env.now tables.events event with
  | none =>
      have executed : executeEvents env entityEvents (.upsertEvent event) tables =
          .error sourceListMissing := by
        simp only [executeEvents, upserted]
      refine ⟨?_, fun _ => ⟨sourceListMissing, Program.meaning_error executed⟩⟩
      intro row after ran
      rw [persistEvent, upserted] at ran
      cases ran
  | some result =>
      obtain ⟨row, events⟩ := result
      have executed : executeEvents env entityEvents (.upsertEvent event) tables =
          .ok (⟨events, tables.entityMap⟩, row) := by
        simp only [executeEvents, upserted]
      have turn : persistEvent env entityEvents tables event =
          (insertMappings entityEvents events event.eventId env.createdAt tables.entityMap
            event.entityEventIds).map fun entityMap => (row, ⟨events, entityMap⟩) := by
        rw [persistEvent, upserted]
        rfl
      rw [turn, persistLoop, Program.meaning_ok executed]
      refine ⟨?_, ?_⟩
      · intro other after ran
        obtain ⟨entityMap, inserted, same⟩ := Option.map_eq_some_iff.mp ran
        cases same
        have mapped : insertMappings entityEvents
            (⟨events, tables.entityMap⟩ : EventTables).events event.eventId env.createdAt
            (⟨events, tables.entityMap⟩ : EventTables).entityMap event.entityEventIds =
            some entityMap := inserted
        exact executeMappings_some event.entityEventIds mapped
      · intro failed
        have unmapped : insertMappings entityEvents
            (⟨events, tables.entityMap⟩ : EventTables).events event.eventId env.createdAt
            (⟨events, tables.entityMap⟩ : EventTables).entityMap event.entityEventIds =
            none := Option.map_eq_none_iff.mp failed
        exact executeMappings_none event.entityEventIds unmapped

theorem persistLoop_meaning (events : List Event) (written : List EventRow)
    (tables final : EventTables) (value : List EventRow) :
    (persistLoop env.createdAt events written).meaning (executeEvents env entityEvents)
        tables = .ok (final, value) ↔
      ∃ rows, persistEvents env entityEvents tables events = some (rows, final) ∧
        value = written ++ rows := by
  induction events generalizing tables written with
  | nil =>
      simp only [persistLoop, Program.meaning, persistEvents, Except.ok.injEq, Prod.mk.injEq,
        Option.some.injEq]
      constructor
      · rintro ⟨same, rfl⟩
        exact ⟨[], ⟨rfl, same⟩, (List.append_nil written).symm⟩
      · rintro ⟨rows, ⟨rfl, same⟩, rfl⟩
        exact ⟨same, (List.append_nil written).symm⟩
  | cons event rest ih =>
      obtain ⟨goesOn, fails⟩ := @persistLoop_turn env entityEvents event rest written tables
      cases turn : persistEvent env entityEvents tables event with
      | none =>
          obtain ⟨error, failed⟩ := fails turn
          rw [failed, persistEvents, turn]
          constructor
          · intro impossible
            cases impossible
          · rintro ⟨rows, impossible, -⟩
            cases impossible
      | some result =>
          obtain ⟨row, after⟩ := result
          rw [goesOn row after turn, ih, persistEvents, turn]
          simp only [Option.bind_some, Option.map_eq_some_iff, Prod.mk.injEq]
          constructor
          · rintro ⟨rows, ran, rfl⟩
            exact ⟨row.toList ++ rows, ⟨(rows, final), ran, rfl, rfl⟩,
              List.append_assoc _ _ _⟩
          · rintro ⟨rows, ⟨⟨later, last⟩, ran, rfl, rfl⟩, rfl⟩
            exact ⟨later, ran, (List.append_assoc _ _ _).symm⟩

end Meaning

/-! ## One call -/

/-- The call stores what `persistEvents` does or nothing, and says so if it returns. -/
structure PersistedOnce (env : PersistEnv) (entityEvents : EntityEvents) (events : List Event)
    (faults : Faults) (before : EventTables) (result : Except Raised (List EventRow))
    (after : EventTables) : Prop where
  returned : ∀ rows, result = .ok rows →
    persistEvents env entityEvents before events = some (rows, after)
  raised : ∀ raised, result = .error raised → after = before ∨
    ∃ rows fault, persistEvents env entityEvents before events = some (rows, after) ∧
      faults.commit = some fault ∧ fault.applied = true

theorem persistEventsCall_once (maxRetry : Int) (faults : Faults) (env : PersistEnv)
    (entityEvents : EntityEvents) (events : List Event) (world : EventsWorld) :
    PersistedOnce env entityEvents events faults world.stored
      (persistEventsCall maxRetry faults env entityEvents events world).1
      (persistEventsCall maxRetry faults env entityEvents events world).2.stored := by
  obtain ⟨result, after, ran, atomic⟩ := Program.transaction_atomic
    (persistLoop env.createdAt events []) maxRetry
    { faults with exec := executeEvents env entityEvents } [] id world
  have call : persistEventsCall maxRetry faults env entityEvents events world =
      (result.map fun _ => after.caller, after) := by
    unfold persistEventsCall
    rw [ran]
  rw [call]
  cases atomic with
  | undone stored =>
      constructor
      · intro rows impossible
        cases impossible
      · exact fun _ _ => Or.inl stored
  | @stored after final value means stored caller =>
      obtain ⟨rows, persisted, same⟩ :=
        (persistLoop_meaning events [] world.stored final value).mp means
      constructor
      · intro returned is
        have equal : rows = returned := by
          rw [List.nil_append] at same
          rw [← same]
          exact caller.symm.trans (Except.ok.inj is)
        rw [← equal, stored]
        exact persisted
      · intro raised impossible
        cases impossible
  | @replyLost raised after final value fault means stored commits applied =>
      obtain ⟨rows, persisted, -⟩ :=
        (persistLoop_meaning events [] world.stored final value).mp means
      constructor
      · intro returned impossible
        cases impossible
      · intro _ _
        rw [stored]
        exact Or.inr ⟨rows, fault, persisted, commits, applied⟩

/-- A transaction is opened, and every await after that is answered. -/
structure Undisturbed (faults : Faults) (maxRetry : Int) : Prop where
  opens : Opens faults maxRetry
  statements : ∀ number, faults.statement number = none
  commits : faults.commit = none

theorem persistEventsCall_returns {maxRetry : Int} {faults : Faults} {env : PersistEnv}
    {entityEvents : EntityEvents} {events : List Event} {world : EventsWorld}
    (undisturbed : Undisturbed faults maxRetry) {rows : List EventRow} {final : EventTables}
    (persisted : persistEvents env entityEvents world.stored events = some (rows, final)) :
    (persistEventsCall maxRetry faults env entityEvents events world).1 = .ok rows ∧
    (persistEventsCall maxRetry faults env entityEvents events world).2.stored = final := by
  have means := (persistLoop_meaning events [] world.stored final rows).mpr
    ⟨rows, persisted, rfl⟩
  obtain ⟨after, ran, stored, caller⟩ := @Program.transaction_returns _ _ _ _ _
    (persistLoop env.createdAt events []) maxRetry
    { faults with exec := executeEvents env entityEvents } [] id world final rows
    undisturbed.opens undisturbed.statements undisturbed.commits means
  have call : persistEventsCall maxRetry faults env entityEvents events world =
      (.ok rows, after) := by
    unfold persistEventsCall
    rw [ran]
    simp only [Except.map, caller, id]
  rw [call]
  exact ⟨rfl, stored⟩

/-- `persist_events` under `transaction()` refines `persistEvents`: whatever fails, it
stores all of its effect or none and returns only what it stored, and it does return if
nothing disturbs it. -/
theorem persistEventsCall_refines (maxRetry : Int) (faults : Faults) (env : PersistEnv)
    (entityEvents : EntityEvents) (events : List Event) (world : EventsWorld) :
    PersistedOnce env entityEvents events faults world.stored
      (persistEventsCall maxRetry faults env entityEvents events world).1
      (persistEventsCall maxRetry faults env entityEvents events world).2.stored ∧
    (Undisturbed faults maxRetry → ∀ rows final,
      persistEvents env entityEvents world.stored events = some (rows, final) →
      (persistEventsCall maxRetry faults env entityEvents events world).1 = .ok rows ∧
      (persistEventsCall maxRetry faults env entityEvents events world).2.stored = final) :=
  ⟨persistEventsCall_once maxRetry faults env entityEvents events world,
    fun undisturbed _ _ persisted => persistEventsCall_returns undisturbed persisted⟩

def emptyEventsWorld : EventsWorld where
  nextConn := 0
  stored := EventTables.empty
  sessions := fun _ => .idle
  caller := []
  trace := []

/-- The one report of `sampleSnapshot 200 [1]`. -/
def oneStored : EntityEvents :=
  Function.update (fun _ => none) 1 (some (sampleEntityEvent 1 0))

theorem noFaults_undisturbed : Undisturbed Persistent.noFaults 3 where
  opens := by
    refine ⟨1, Nat.le_refl 1, rfl, ?_⟩
    intro earlier after before
    omega
  statements := fun _ => rfl
  commits := rfl

theorem persistEventsCall_refines_sample : ∃ rows,
    (persistEventsCall 3 Persistent.noFaults sampleEnv oneStored [sampleSnapshot 200 [1]]
      emptyEventsWorld).1 = .ok rows ∧ rows.map EventRow.aggregationUpdatedAt = [200] := by
  have persisted : ((persistEvents sampleEnv oneStored EventTables.empty
      [sampleSnapshot 200 [1]]).map fun result =>
        result.1.map EventRow.aggregationUpdatedAt) = some [200] := by
    decide +kernel
  obtain ⟨⟨rows, final⟩, ran, versions⟩ := Option.map_eq_some_iff.mp persisted
  have refines := persistEventsCall_refines 3 Persistent.noFaults sampleEnv oneStored
    [sampleSnapshot 200 [1]] emptyEventsWorld
  exact ⟨rows, (refines.2 noFaults_undisturbed rows final ran).1, versions⟩

/-! ## Persisting again -/

theorem excludedRow_isSome {order : RowOrder EntityEvent} {entityEvents later : EntityEvents}
    {now : Timestamp} {event : Event}
    (proposed : (excludedRow order entityEvents now event).isSome)
    (grown : ∀ id row, entityEvents id = some row → later id = some row)
    (laterOrder : RowOrder EntityEvent) (laterNow : Timestamp) :
    (excludedRow laterOrder later laterNow event).isSome := by
  simp only [excludedRow, Option.isSome_map] at proposed ⊢
  cases sourceList : event.sourceList with
  | some sources => rfl
  | none =>
      rw [sourceList] at proposed
      have nonempty : constituents order entityEvents event.entityEventIds ≠ [] := by
        intro empty
        rw [empty] at proposed
        cases proposed
      obtain ⟨row, member⟩ := List.exists_mem_of_ne_nil _ nonempty
      obtain ⟨id, listed, found⟩ :=
        List.mem_filterMap.mp ((order.perm _).mem_iff.mp member)
      have laterMember : row ∈ constituents laterOrder later event.entityEventIds :=
        (laterOrder.perm _).mem_iff.mpr
          (List.mem_filterMap.mpr ⟨id, listed, grown id row found⟩)
      obtain ⟨sources, selected, -⟩ := selectSources_ok (List.ne_nil_of_mem laterMember)
      rw [selected]
      rfl

/-- The tables hold this state of the Event or a newer one, with its mappings. -/
structure Held (env : PersistEnv) (entityEvents : EntityEvents) (tables : EventTables)
    (event : Event) : Prop where
  proposed : (excludedRow env.order entityEvents env.now event).isSome
  current : ∃ row, tables.events event.eventId = some row ∧
    event.aggregationUpdatedAt ≤ row.aggregationUpdatedAt
  mapped : ∀ id ∈ event.entityEventIds, (tables.entityMap id).isSome

theorem insertMappings_held {entityEvents : EntityEvents} {events : UUID → Option EventRow}
    {eventId : UUID} {createdAt : Timestamp} {entityMap : UUID → Option EventEntityMap}
    (ids : List UUID) (mapped : ∀ id ∈ ids, (entityMap id).isSome) :
    insertMappings entityEvents events eventId createdAt entityMap ids = some entityMap := by
  induction ids with
  | nil => rfl
  | cons id rest ih =>
      have present := mapped id List.mem_cons_self
      rw [insertMappings, insertMapping, if_pos present, Option.bind_some]
      exact ih fun other member => mapped other (List.mem_cons_of_mem _ member)

theorem persistEvent_held {env : PersistEnv} {entityEvents : EntityEvents}
    {tables : EventTables} {event : Event} (held : Held env entityEvents tables event) :
    persistEvent env entityEvents tables event = some (none, tables) := by
  obtain ⟨excluded, proposed⟩ := Option.isSome_iff_exists.mp held.proposed
  obtain ⟨row, stored, newer⟩ := held.current
  have version := (excludedRow_fields proposed).2.2.2.2.1
  have notOlder : ¬ row.aggregationUpdatedAt < excluded.aggregationUpdatedAt := by
    rw [version]
    exact Int.not_lt.mpr newer
  have upserted : upsertEvent env.order entityEvents env.now tables.events event =
      some (none, tables.events) := by
    simp only [upsertEvent, proposed, Option.map_some, stored, notOlder, if_false]
  rw [persistEvent, upserted, Option.bind_some]
  simp only [insertMappings_held event.entityEventIds held.mapped, Option.map_some]

theorem persistEvents_held {env : PersistEnv} {entityEvents : EntityEvents}
    {tables : EventTables} (events : List Event)
    (held : ∀ event ∈ events, Held env entityEvents tables event) :
    persistEvents env entityEvents tables events = some ([], tables) := by
  induction events with
  | nil => rfl
  | cons event rest ih =>
      have first := persistEvent_held (held event List.mem_cons_self)
      have others := ih fun other member => held other (List.mem_cons_of_mem _ member)
      simp only [persistEvents, first, Option.bind_some, others, Option.map_some]
      rfl

/-- Persisting the same Events again writes nothing and returns no row. -/
theorem persistEvents_again {env : PersistEnv} {entityEvents later : EntityEvents}
    {before after : EventTables} {events : List Event} {written : List EventRow}
    (ran : persistEvents env entityEvents before events = some (written, after))
    (laterEnv : PersistEnv)
    (grown : ∀ id row, entityEvents id = some row → later id = some row) :
    persistEvents laterEnv later after events = some ([], after) := by
  apply persistEvents_held
  intro event member
  have proposed : (excludedRow env.order entityEvents env.now event).isSome := by
    refine @persistEvents_reaches env entityEvents
      (fun _ => (excludedRow env.order entityEvents env.now event).isSome) events event member
      ?_ (fun _ _ _ _ _ known => known) before after written ran
    intro _ _ persisted
    obtain ⟨excluded, row, found, -⟩ := persisted.row
    rw [found]
    rfl
  refine ⟨excludedRow_isSome proposed grown laterEnv.order laterEnv.now,
    persistEvents_current ran member, ?_⟩
  intro id listed
  exact Option.isSome_iff_exists.mpr (persistEvents_covered ran member listed)

/-! ## Any number of calls -/

/-- One call for the Events: what fails in it, and what it reads. -/
structure PersistAttempt where
  faults : Faults
  env : PersistEnv
  entityEvents : EntityEvents

/-- The calls one after another, with what each gives back. -/
def persistRepeatedly (maxRetry : Int) (events : List Event) :
    List PersistAttempt → EventsWorld → List (Except Raised (List EventRow)) × EventsWorld
  | [], world => ([], world)
  | attempt :: rest, world =>
      let (result, after) := persistEventsCall maxRetry attempt.faults attempt.env
        attempt.entityEvents events world
      let (results, final) := persistRepeatedly maxRetry events rest after
      (result :: results, final)

def returnedRows (results : List (Except Raised (List EventRow))) : List EventRow :=
  (results.map fun result => result.toOption.getD []).flatten

/-- `entity_events` rows stay. -/
def Grown (attempt later : PersistAttempt) : Prop :=
  ∀ id row, attempt.entityEvents id = some row → later.entityEvents id = some row

/-- Once the Events are persisted no call changes anything. -/
theorem persistRepeatedly_held (maxRetry : Int) (events : List Event)
    (attempts : List PersistAttempt) (world : EventsWorld)
    (held : ∀ attempt ∈ attempts,
      persistEvents attempt.env attempt.entityEvents world.stored events =
        some ([], world.stored)) :
    (persistRepeatedly maxRetry events attempts world).2.stored = world.stored ∧
      returnedRows (persistRepeatedly maxRetry events attempts world).1 = [] := by
  induction attempts generalizing world with
  | nil => exact ⟨rfl, rfl⟩
  | cons attempt rest ih =>
      have once := persistEventsCall_once maxRetry attempt.faults attempt.env
        attempt.entityEvents events world
      have same := held attempt List.mem_cons_self
      rcases call : persistEventsCall maxRetry attempt.faults attempt.env attempt.entityEvents
        events world with ⟨result, after⟩
      rw [call] at once
      have unchanged : after.stored = world.stored ∧ result.toOption.getD [] = [] := by
        cases result with
        | ok rows =>
            have persisted := once.returned rows rfl
            rw [same] at persisted
            simp only [Option.some.injEq, Prod.mk.injEq] at persisted
            exact ⟨persisted.2.symm, persisted.1.symm⟩
        | error raised =>
            rcases once.raised raised rfl with kept | ⟨rows, fault, persisted, -, -⟩
            · exact ⟨kept, rfl⟩
            · rw [same] at persisted
              exact ⟨(congrArg Prod.snd (Option.some.inj persisted)).symm, rfl⟩
      have later := ih after (by
        intro other member
        rw [unchanged.1]
        exact held other (List.mem_cons_of_mem _ member))
      simp only [persistRepeatedly, call]
      refine ⟨later.1.trans unchanged.1, ?_⟩
      simp only [returnedRows, List.map_cons, List.flatten_cons, unchanged.2, List.nil_append]
      exact later.2

/-- However often the call is repeated for the same Events, and whatever fails in it: the
tables are as before and no call has returned, or they are what exactly one of the calls
makes of them, and all the calls together have returned its rows once or, if the reply to
its COMMIT was lost, no rows. -/
theorem persistRepeatedly_exactly_once (maxRetry : Int) (events : List Event)
    (attempts : List PersistAttempt) (grown : attempts.Pairwise Grown) (world : EventsWorld) :
    ((persistRepeatedly maxRetry events attempts world).2.stored = world.stored ∧
      ∀ result ∈ (persistRepeatedly maxRetry events attempts world).1,
        result.toOption = none) ∨
    ∃ attempt ∈ attempts, ∃ rows,
      persistEvents attempt.env attempt.entityEvents world.stored events =
        some (rows, (persistRepeatedly maxRetry events attempts world).2.stored) ∧
      (returnedRows (persistRepeatedly maxRetry events attempts world).1 = rows ∨
        (returnedRows (persistRepeatedly maxRetry events attempts world).1 = [] ∧
          ∃ fault, attempt.faults.commit = some fault ∧ fault.applied = true)) := by
  induction attempts generalizing world with
  | nil =>
      left
      refine ⟨rfl, ?_⟩
      intro result member
      cases member
  | cons attempt rest ih =>
      obtain ⟨grownFirst, grownRest⟩ := List.pairwise_cons.mp grown
      have once := persistEventsCall_once maxRetry attempt.faults attempt.env
        attempt.entityEvents events world
      rcases call : persistEventsCall maxRetry attempt.faults attempt.env attempt.entityEvents
        events world with ⟨result, after⟩
      rw [call] at once
      -- what is left to do once this call has stored its rows
      have held : ∀ rows, persistEvents attempt.env attempt.entityEvents world.stored events =
          some (rows, after.stored) → ∀ other ∈ rest,
          persistEvents other.env other.entityEvents after.stored events =
            some ([], after.stored) := by
        intro rows persisted other member
        exact persistEvents_again persisted other.env (grownFirst other member)
      simp only [persistRepeatedly, call]
      cases result with
      | ok rows =>
          have persisted := once.returned rows rfl
          obtain ⟨stored, returned⟩ :=
            persistRepeatedly_held maxRetry events rest after (held rows persisted)
          refine Or.inr ⟨attempt, List.mem_cons_self, rows, ?_, Or.inl ?_⟩
          · rw [stored]
            exact persisted
          · have joined : returnedRows (.ok rows ::
                (persistRepeatedly maxRetry events rest after).1) = rows ++
                returnedRows (persistRepeatedly maxRetry events rest after).1 := rfl
            rw [joined, returned, List.append_nil]
      | error raised =>
          have joined : returnedRows (.error raised ::
              (persistRepeatedly maxRetry events rest after).1) =
              returnedRows (persistRepeatedly maxRetry events rest after).1 := rfl
          rw [joined]
          rcases once.raised raised rfl with kept | ⟨rows, fault, persisted, commits, applied⟩
          · have later := ih grownRest after
            rw [kept] at later
            rcases later with ⟨stored, errors⟩ | ⟨other, member, rows, persisted, returned⟩
            · refine Or.inl ⟨stored, ?_⟩
              intro result member
              rcases List.mem_cons.mp member with rfl | old
              · rfl
              · exact errors result old
            · exact Or.inr ⟨other, List.mem_cons_of_mem _ member, rows, persisted, returned⟩
          · obtain ⟨stored, returned⟩ :=
              persistRepeatedly_held maxRetry events rest after (held rows persisted)
            refine Or.inr ⟨attempt, List.mem_cons_self, rows, ?_,
              Or.inr ⟨returned, fault, commits, applied⟩⟩
            rw [stored]
            exact persisted

/-- The COMMIT is applied, but its reply is lost. -/
def commitReplyLost : Faults :=
  { Persistent.noFaults with
    commit := some ⟨.driver ⟨.postgresConnection, none, "ConnectionDoesNotExistError()"⟩, true⟩ }

def lostThenAnswered : List PersistAttempt :=
  [⟨commitReplyLost, sampleEnv, oneStored⟩, ⟨Persistent.noFaults, sampleEnv, oneStored⟩]

/-- The first call's rows are stored, and neither call returns them. -/
theorem persistRepeatedly_exactly_once_sample :
    lostThenAnswered.Pairwise Grown ∧
    ((persistRepeatedly 3 [sampleSnapshot 200 [1]] lostThenAnswered
      emptyEventsWorld).2.stored.events (sampleSnapshot 200 [1]).eventId).isSome = true ∧
    returnedRows (persistRepeatedly 3 [sampleSnapshot 200 [1]] lostThenAnswered
      emptyEventsWorld).1 = [] ∧
    ∃ attempt ∈ lostThenAnswered, ∃ rows, rows ≠ [] ∧
      persistEvents attempt.env attempt.entityEvents EventTables.empty
          [sampleSnapshot 200 [1]] =
        some (rows, (persistRepeatedly 3 [sampleSnapshot 200 [1]] lostThenAnswered
          emptyEventsWorld).2.stored) ∧
      ∃ fault, attempt.faults.commit = some fault ∧ fault.applied = true := by
  have grown : lostThenAnswered.Pairwise Grown := by
    refine List.pairwise_pair.mpr ?_
    exact fun _ _ found => found
  have stored : ((persistRepeatedly 3 [sampleSnapshot 200 [1]] lostThenAnswered
      emptyEventsWorld).2.stored.events (sampleSnapshot 200 [1]).eventId).isSome = true := by
    decide +kernel
  have nothing : returnedRows (persistRepeatedly 3 [sampleSnapshot 200 [1]] lostThenAnswered
      emptyEventsWorld).1 = [] := by
    rw [← List.isEmpty_iff]
    decide +kernel
  have written : ∀ attempt ∈ lostThenAnswered,
      ((persistEvents attempt.env attempt.entityEvents EventTables.empty
        [sampleSnapshot 200 [1]]).map fun answer => answer.1.isEmpty) = some false := by
    decide +kernel
  refine ⟨grown, stored, nothing, ?_⟩
  rcases persistRepeatedly_exactly_once 3 [sampleSnapshot 200 [1]] lostThenAnswered grown
    emptyEventsWorld with ⟨same, -⟩ | ⟨attempt, among, rows, means, returned⟩
  · rw [same] at stored
    cases stored
  · have some' := written attempt among
    change persistEvents attempt.env attempt.entityEvents EventTables.empty _ = _ at means
    rw [means] at some'
    have nonempty : rows ≠ [] := by
      rintro rfl
      cases some'
    refine ⟨attempt, among, rows, nonempty, means, ?_⟩
    rcases returned with all | ⟨-, lost⟩
    · exact absurd (all.symm.trans nothing) nonempty
    · exact lost

end WealthFinder.Pipeline
