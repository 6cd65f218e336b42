import WealthFinder.Pipeline.PersistAgreement

/-!
# One version, one row and one set of constituents

The uncommitted rows of a call are newer than the committed ones, and a call that
maps an EntityEvent to an Event has written the Event's row.  A commit that changes
an Event therefore changes its version.
-/

set_option autoImplicit false

namespace WealthFinder.Pipeline

open Machine TransactionState

/-- An Event to be upserted is newer than the row the call sees, or has nothing left
to map. -/
def Advancing (state : TransactionState) : TransactionAction → Prop
  | .execute number => ∀ call event rest, state.calls number = some call →
      call.pending = [] → call.rest = event :: rest →
      (∀ row, (call.view state.tables).events event.eventId = some row →
        row.aggregationUpdatedAt < event.aggregationUpdatedAt) ∨
      ∀ id ∈ event.entityEventIds, ((call.view state.tables).entityMap id).isSome
  | _ => True

/-- The call has locked each row that it wrote, and replaces older ones. -/
def CallRows (state : TransactionState) (number : Nat) (call : Call) : Prop :=
  ∀ eventId row, call.events eventId = some row →
    state.rowLocks eventId = some number ∧
    ∀ old, state.tables.events eventId = some old →
      old.aggregationUpdatedAt < row.aggregationUpdatedAt

/-- This needs nothing of the Events to be upserted. -/
def RowsLocked (state : TransactionState) : Prop :=
  ∀ number call, state.calls number = some call → CallRows state number call

structure CallAdvances (state : TransactionState) (number : Nat) (call : Call) : Prop where
  mappings : ∀ id mapping, call.entityMap id = some mapping →
    state.keyLocks id = some number ∧ state.tables.entityMap id = none ∧
    (call.events mapping.eventId).isSome ∧ (state.entityEvents id).isSome
  current : ∀ id ∈ call.pending, (call.events call.current).isSome ∨
    ((call.view state.tables).entityMap id).isSome

structure DatabaseAdvances (state : TransactionState) : Prop where
  rows : RowsLocked state
  referenced : ∀ id, (state.tables.entityMap id).isSome → (state.entityEvents id).isSome
  calls : ∀ number call, state.calls number = some call → CallAdvances state number call

theorem rowsLocked_initial : RowsLocked TransactionState.initial := by
  intro _ _ opened
  cases opened

theorem databaseAdvances_initial : DatabaseAdvances TransactionState.initial where
  rows := rowsLocked_initial
  referenced := by intro _ mapped; cases mapped
  calls := by intro _ _ opened; cases opened

/-! ## The rows of a call -/

theorem CallRows.framed {state after : TransactionState} {number : Nat} {call : Call}
    (sound : CallRows state number call)
    (rowLocks : ∀ eventId, state.rowLocks eventId = some number →
      after.rowLocks eventId = some number ∧
      after.tables.events eventId = state.tables.events eventId) :
    CallRows after number call := by
  intro eventId row own
  obtain ⟨locked, newer⟩ := sound eventId row own
  obtain ⟨stays, same⟩ := rowLocks eventId locked
  exact ⟨stays, by rw [same]; exact newer⟩

/-- A statement of one call leaves the rows of that call to be shown newer. -/
theorem RowsLocked.stepped {state after : TransactionState} (sound : RowsLocked state)
    (number : Nat) (tables : after.tables = state.tables)
    (others : ∀ other, other ≠ number → after.calls other = state.calls other)
    (rowLocks : ∀ eventId other, other ≠ number → state.rowLocks eventId = some other →
      after.rowLocks eventId = some other)
    (own : ∀ call, after.calls number = some call → CallRows after number call) :
    RowsLocked after := by
  intro other call opened
  by_cases same : other = number
  · subst same
    exact own call opened
  · rw [others other same] at opened
    refine (sound other call opened).framed ?_
    intro eventId locked
    exact ⟨rowLocks eventId other same locked, by rw [tables]⟩

theorem RowsLocked.closed {state : TransactionState} (sound : RowsLocked state)
    (number : Nat) : RowsLocked (state.close number) := by
  refine @RowsLocked.stepped state (state.close number) sound number rfl ?_ ?_ ?_
  · intro other apart
    simp [close, apart]
  · intro eventId other apart locked
    exact release_some.mpr ⟨locked, apart⟩
  · intro call opened
    simp [close] at opened

/-- The row an upsert returns is newer than the one it replaces. -/
theorem upsertEvent_newer {order : RowOrder EntityEvent} {entityEvents : EntityEvents}
    {now : Timestamp} {events after : UUID → Option EventRow} {event : Event}
    {row old : EventRow}
    (ran : upsertEvent order entityEvents now events event = some (some row, after))
    (stored : events event.eventId = some old) :
    old.aggregationUpdatedAt < row.aggregationUpdatedAt := by
  obtain ⟨excluded, -, result⟩ := Option.map_eq_some_iff.mp ran
  simp only [stored] at result
  split at result
  · rename_i older
    cases result
    exact older
  · cases result

theorem RowsLocked.upsert {state after : TransactionState} {number : Nat} {call : Call}
    {event : Event} {rest : List Event} (sound : RowsLocked state)
    (opened : state.calls number = some call)
    (ran : executeUpsert state number call event rest = some after) : RowsLocked after := by
  have held := sound number call opened
  rcases executeUpsert_cases ran with rfl | ⟨returned, events, available, upserted, rfl⟩
  · exact sound.closed number
  refine sound.stepped number rfl ?_ ?_ ?_
  · intro other apart
    simp [apart]
  · intro eventId other apart locked
    by_cases same : eventId = event.eventId
    · subst same
      exact absurd available (not_free_of_locked locked apart)
    · simpa [same] using locked
  · intro next nextOpened
    have equal : ({ call with
        current := event.eventId
        pending := event.entityEventIds
        rest := rest
        events := call.written event.eventId returned } : Call) = next := by
      simpa using nextOpened
    subst equal
    intro eventId row own
    by_cases same : eventId = event.eventId
    · subst same
      refine ⟨by simp, ?_⟩
      intro old committed
      cases returned with
      | none => exact (held _ row own).2 old committed
      | some wrote =>
          have equal : wrote = row := by simpa [Call.written] using own
          subst equal
          cases written : call.events event.eventId with
          | none =>
              have seen := (view_events_committed written).trans committed
              exact upsertEvent_newer upserted seen
          | some mine =>
              have seen := @view_events_own call state.tables _ mine written
              exact Int.lt_trans ((held _ mine written).2 old committed)
                (upsertEvent_newer upserted seen)
    · have old : call.events eventId = some row := by
        cases returned with
        | none => exact own
        | some wrote => simpa [Call.written, same] using own
      obtain ⟨locked, newer⟩ := held eventId row old
      exact ⟨by simpa [same] using locked, newer⟩

theorem RowsLocked.mapping {state after : TransactionState} {number : Nat} {call : Call}
    {id : UUID} {rest : List UUID} (sound : RowsLocked state)
    (opened : state.calls number = some call)
    (ran : executeMapping state number call id rest = some after) : RowsLocked after := by
  have held := sound number call opened
  rcases executeMapping_cases ran with rfl | ⟨-, rfl⟩ | ⟨-, rfl⟩
  · exact sound.closed number
  · refine sound.stepped number rfl ?_ (fun _ _ _ locked => locked) ?_
    · intro other apart
      simp [apart]
    · intro next nextOpened
      have equal : ({ call with pending := rest } : Call) = next := by simpa using nextOpened
      subst equal
      exact held
  · refine sound.stepped number rfl ?_ (fun _ _ _ locked => locked) ?_
    · intro other apart
      simp [apart]
    · intro next nextOpened
      have equal : ({ call with
          pending := rest
          entityMap := Function.update call.entityMap id
            (some ⟨call.current, id, call.env.createdAt⟩) } : Call) = next := by
        simpa using nextOpened
      subst equal
      exact held

/-- The committed call's rows were its own. -/
theorem RowsLocked.other_rows {state : TransactionState} {number other : Nat} {call : Call}
    (sound : RowsLocked state) (opened : state.calls number = some call)
    (apart : other ≠ number) {eventId : UUID} (locked : state.rowLocks eventId = some other) :
    (call.view state.tables).events eventId = state.tables.events eventId := by
  cases own : call.events eventId with
  | none => exact view_events_committed own
  | some row =>
      have mine := (sound number call opened eventId row own).1
      rw [locked] at mine
      exact absurd (Option.some.inj mine) apart

theorem RowsLocked.committed {state : TransactionState} {number : Nat} {call : Call}
    (sound : RowsLocked state) (opened : state.calls number = some call) :
    RowsLocked { state.close number with tables := call.view state.tables } := by
  intro other another anotherOpened
  have apart : other ≠ number := by
    intro same
    subst same
    simp [close] at anotherOpened
  have old : state.calls other = some another := by
    simpa [close, apart] using anotherOpened
  refine (sound other another old).framed ?_
  intro eventId locked
  exact ⟨release_some.mpr ⟨locked, apart⟩, sound.other_rows opened apart locked⟩

theorem RowsLocked.step {state after : TransactionState} {action : TransactionAction}
    (sound : RowsLocked state) (moved : transactionStep state action = some after) :
    RowsLocked after := by
  cases transactionStep_step moved with
  | stored =>
      intro number call opened
      exact (sound number call opened).framed fun _ locked => ⟨locked, rfl⟩
  | @started number env snapshots unopened =>
      refine @RowsLocked.stepped state _ sound number rfl ?_ (fun _ _ _ locked => locked) ?_
      · intro other apart
        simp [apart]
      · intro call opened
        have equal : (⟨env, 0, [], snapshots, fun _ => none, fun _ => none⟩ : Call) = call := by
          simpa using opened
        subst equal
        intro _ _ own
        cases own
  | mapping opened pending ran => exact sound.mapping opened ran
  | upsert opened idle remaining ran => exact sound.upsert opened ran
  | failed => exact sound.closed _
  | committed opened => exact sound.committed opened

/-! ## Statements -/

theorem view_entityMap_isSome {call : Call} {tables : EventTables} {id : UUID} :
    ((call.view tables).entityMap id).isSome ↔
      (call.entityMap id).isSome ∨ (tables.entityMap id).isSome := by
  simp [Call.view]

/-- A call keeps its facts while what it has locked stays as it is. -/
theorem CallAdvances.framed {state after : TransactionState} {number : Nat} {call : Call}
    (sound : CallAdvances state number call)
    (keyLocks : ∀ id, state.keyLocks id = some number →
      after.keyLocks id = some number ∧
      after.tables.entityMap id = state.tables.entityMap id)
    (mapped : ∀ id, (state.tables.entityMap id).isSome → (after.tables.entityMap id).isSome)
    (entityEvents : ∀ id, (state.entityEvents id).isSome → (after.entityEvents id).isSome) :
    CallAdvances after number call where
  mappings := by
    intro id mapping own
    obtain ⟨locked, unmapped, written, known⟩ := sound.mappings id mapping own
    obtain ⟨stays, same⟩ := keyLocks id locked
    exact ⟨stays, by rw [same]; exact unmapped, written, entityEvents id known⟩
  current := by
    intro id pending
    rcases sound.current id pending with written | seen
    · exact Or.inl written
    · right
      rw [view_entityMap_isSome] at seen ⊢
      rcases seen with own | committed
      · exact Or.inl own
      · exact Or.inr (mapped id committed)

/-- A statement of one call leaves the invariant to be shown for that call. -/
theorem DatabaseAdvances.stepped {state after : TransactionState}
    (sound : DatabaseAdvances state) (rows : RowsLocked after) (number : Nat)
    (tables : after.tables = state.tables)
    (entityEvents : after.entityEvents = state.entityEvents)
    (others : ∀ other, other ≠ number → after.calls other = state.calls other)
    (keyLocks : ∀ id other, other ≠ number → state.keyLocks id = some other →
      after.keyLocks id = some other)
    (own : ∀ call, after.calls number = some call → CallAdvances after number call) :
    DatabaseAdvances after where
  rows := rows
  referenced := by
    rw [tables, entityEvents]
    exact sound.referenced
  calls := by
    intro other call opened
    by_cases same : other = number
    · subst same
      exact own call opened
    · rw [others other same] at opened
      refine (sound.calls other call opened).framed ?_ ?_ ?_
      · intro id locked
        exact ⟨keyLocks id other same locked, by rw [tables]⟩
      · intro id mapped
        rw [tables]
        exact mapped
      · intro id known
        rw [entityEvents]
        exact known

theorem DatabaseAdvances.closed {state : TransactionState} (sound : DatabaseAdvances state)
    (number : Nat) : DatabaseAdvances (state.close number) := by
  refine @DatabaseAdvances.stepped state (state.close number) sound (sound.rows.closed number)
    number rfl rfl ?_ ?_ ?_
  · intro other apart
    simp [close, apart]
  · intro id other apart locked
    exact release_some.mpr ⟨locked, apart⟩
  · intro call opened
    simp [close] at opened

/-- A mapping is written by a call that has its key, for a stored EntityEvent. -/
theorem executeMapping_inserts {state after : TransactionState} {number : Nat} {call : Call}
    {id : UUID} {rest : List UUID}
    (ran : executeMapping state number call id rest = some after)
    (open' : after ≠ state.close number)
    (absent : (call.view state.tables).entityMap id = none) :
    free state.keyLocks number id = true ∧ (state.entityEvents id).isSome := by
  simp only [executeMapping] at ran
  split at ran
  · rename_i available
    refine ⟨available, ?_⟩
    split at ran
    · exact absurd (Option.some.inj ran).symm open'
    · rename_i inserted found
      simp only [insertMapping, absent, Option.isSome_none, Bool.false_eq_true, if_false]
        at found
      split at found
      · rename_i references
        exact references.2
      · cases found
  · cases ran

theorem DatabaseAdvances.mapping {state after : TransactionState} {number : Nat}
    {call : Call} {id : UUID} {rest : List UUID} (sound : DatabaseAdvances state)
    (opened : state.calls number = some call) (pending : call.pending = id :: rest)
    (ran : executeMapping state number call id rest = some after) :
    DatabaseAdvances after := by
  have held := sound.calls number call opened
  have rows := sound.rows.mapping opened ran
  have later : ∀ other ∈ rest, other ∈ call.pending := by
    intro other member
    rw [pending]
    exact List.mem_cons_of_mem id member
  by_cases closes : after = state.close number
  · rw [closes]
    exact sound.closed number
  rcases executeMapping_cases ran with ends | ⟨mapped, rfl⟩ | ⟨unmapped, rfl⟩
  · exact absurd ends closes
  · refine sound.stepped rows number rfl rfl ?_ (fun _ _ _ locked => locked) ?_
    · intro other apart
      simp [apart]
    · intro next nextOpened
      have equal : ({ call with pending := rest } : Call) = next := by simpa using nextOpened
      subst equal
      exact ⟨held.mappings, fun other member => held.current other (later other member)⟩
  · obtain ⟨available, known⟩ := executeMapping_inserts ran closes unmapped
    have fresh : call.entityMap id = none ∧ state.tables.entityMap id = none := by
      simpa [Call.view] using unmapped
    have written : (call.events call.current).isSome := by
      rcases held.current id (by rw [pending]; exact List.mem_cons_self) with own | seen
      · exact own
      · rw [unmapped] at seen
        cases seen
    refine sound.stepped rows number rfl rfl ?_ ?_ ?_
    · intro other apart
      simp [apart]
    · intro key other apart locked
      by_cases same : key = id
      · subst same
        exact absurd available (not_free_of_locked locked apart)
      · simpa [same] using locked
    · intro next nextOpened
      have equal : ({ call with
          pending := rest
          entityMap := Function.update call.entityMap id
            (some ⟨call.current, id, call.env.createdAt⟩) } : Call) = next := by
        simpa using nextOpened
      subst equal
      refine ⟨?_, ?_⟩
      · intro key mapping own
        by_cases same : key = id
        · subst same
          have equal : mapping = ⟨call.current, key, call.env.createdAt⟩ := by
            simpa using own.symm
          subst equal
          exact ⟨by simp, fresh.2, written, known⟩
        · have old : call.entityMap key = some mapping := by simpa [same] using own
          obtain ⟨locked, unmappedKey, writtenKey, knownKey⟩ := held.mappings key mapping old
          exact ⟨by simpa [same] using locked, unmappedKey, writtenKey, knownKey⟩
      · intro other member
        exact Or.inl written

/-- An Event newer than its row is written. -/
theorem upsertEvent_written {order : RowOrder EntityEvent} {entityEvents : EntityEvents}
    {now : Timestamp} {events after : UUID → Option EventRow} {event : Event}
    {returned : Option EventRow}
    (ran : upsertEvent order entityEvents now events event = some (returned, after))
    (newer : ∀ row, events event.eventId = some row →
      row.aggregationUpdatedAt < event.aggregationUpdatedAt) : returned.isSome := by
  obtain ⟨excluded, proposed, result⟩ := Option.map_eq_some_iff.mp ran
  obtain ⟨-, -, -, -, version, -⟩ := excludedRow_fields proposed
  split at result
  · cases result
    rfl
  · rename_i row stored
    rw [if_pos (by rw [version]; exact newer row stored)] at result
    cases result
    rfl

theorem DatabaseAdvances.upsert {state after : TransactionState} {number : Nat}
    {call : Call} {event : Event} {rest : List Event} (sound : DatabaseAdvances state)
    (opened : state.calls number = some call)
    (advancing : (∀ row, (call.view state.tables).events event.eventId = some row →
        row.aggregationUpdatedAt < event.aggregationUpdatedAt) ∨
      ∀ id ∈ event.entityEventIds, ((call.view state.tables).entityMap id).isSome)
    (ran : executeUpsert state number call event rest = some after) :
    DatabaseAdvances after := by
  have held := sound.calls number call opened
  rcases executeUpsert_cases ran with rfl | ⟨returned, events, available, upserted, rfl⟩
  · exact sound.closed number
  refine sound.stepped (sound.rows.upsert opened ran) number rfl rfl ?_
    (fun _ _ _ locked => locked) ?_
  · intro other apart
    simp [apart]
  · intro next nextOpened
    have equal : ({ call with
        current := event.eventId
        pending := event.entityEventIds
        rest := rest
        events := call.written event.eventId returned } : Call) = next := by
      simpa using nextOpened
    subst equal
    have kept : ∀ eventId, (call.events eventId).isSome →
        (call.written event.eventId returned eventId).isSome := by
      intro eventId own
      cases returned with
      | none => exact own
      | some row =>
          by_cases same : eventId = event.eventId
          · simp [Call.written, same]
          · simpa [Call.written, same] using own
    refine ⟨?_, ?_⟩
    · intro id mapping own
      obtain ⟨locked, unmapped, written, known⟩ := held.mappings id mapping own
      exact ⟨locked, unmapped, kept _ written, known⟩
    · intro id member
      rcases advancing with newer | mapped
      · left
        have written := upsertEvent_written upserted newer
        obtain ⟨row, rfl⟩ := Option.isSome_iff_exists.mp written
        simp [Call.written]
      · exact Or.inr (mapped id member)

/-! ## The commit -/

theorem DatabaseAdvances.committed {state : TransactionState} {number : Nat} {call : Call}
    (sound : DatabaseAdvances state) (opened : state.calls number = some call) :
    DatabaseAdvances { state.close number with tables := call.view state.tables } := by
  have held := sound.calls number call opened
  refine ⟨sound.rows.committed opened, ?_, ?_⟩
  · intro id mapped
    rcases view_entityMap_isSome.mp mapped with own | committed
    · obtain ⟨mapping, own⟩ := Option.isSome_iff_exists.mp own
      exact (held.mappings id mapping own).2.2.2
    · exact sound.referenced id committed
  · intro other another anotherOpened
    have apart : other ≠ number := by
      intro same
      subst same
      simp [close] at anotherOpened
    have old : state.calls other = some another := by
      simpa [close, apart] using anotherOpened
    refine (sound.calls other another old).framed ?_ ?_ (fun _ known => known)
    · intro id locked
      refine ⟨release_some.mpr ⟨locked, apart⟩, ?_⟩
      cases own : call.entityMap id with
      | none => exact view_entityMap_committed own
      | some mapping =>
          have mine := (held.mappings id mapping own).1
          rw [locked] at mine
          exact absurd (Option.some.inj mine) apart
    · intro id mapped
      exact view_entityMap_isSome.mpr (Or.inr mapped)

theorem DatabaseAdvances.step {state after : TransactionState} {action : TransactionAction}
    (sound : DatabaseAdvances state) (advancing : Advancing state action)
    (moved : transactionStep state action = some after) : DatabaseAdvances after := by
  cases transactionStep_step moved with
  | @stored row absent =>
      have grows : ∀ id, (state.entityEvents id).isSome →
          (Function.update state.entityEvents row.entityEventId (some row) id).isSome := by
        intro id known
        by_cases same : id = row.entityEventId
        · simp [same]
        · simpa [same] using known
      refine ⟨sound.rows.step moved, ?_, ?_⟩
      · intro id mapped
        exact grows id (sound.referenced id mapped)
      · intro number call opened
        exact (sound.calls number call opened).framed (fun _ locked => ⟨locked, rfl⟩)
          (fun _ mapped => mapped) grows
  | @started number env snapshots unopened =>
      refine @DatabaseAdvances.stepped state _ sound (sound.rows.step moved) number rfl rfl ?_
        (fun _ _ _ locked => locked) ?_
      · intro other apart
        simp [apart]
      · intro call opened
        have equal : (⟨env, 0, [], snapshots, fun _ => none, fun _ => none⟩ : Call) = call := by
          simpa using opened
        subst equal
        constructor
        · intro _ _ own
          cases own
        · intro _ member
          cases member
  | mapping opened pending ran => exact sound.mapping opened pending ran
  | upsert opened idle remaining ran =>
      exact sound.upsert opened (advancing _ _ _ opened idle remaining) ran
  | failed => exact sound.closed _
  | committed opened => exact sound.committed opened

/-! ## What a step does to the committed Events -/

/-- Rows stay and never go back, and an Event whose version stays keeps its row and
its members.  `entity_events` rows stay. -/
structure VersionsAdvance (before after : TransactionState) : Prop where
  entityEvents : ∀ id row, before.entityEvents id = some row →
    after.entityEvents id = some row
  events : ∀ eventId row, before.tables.events eventId = some row →
    ∃ later, after.tables.events eventId = some later ∧
      row.aggregationUpdatedAt ≤ later.aggregationUpdatedAt ∧
      (row.aggregationUpdatedAt = later.aggregationUpdatedAt → later = row ∧
        ∀ id, Member after.tables eventId id ↔ Member before.tables eventId id)

theorem VersionsAdvance.of_tables {before after : TransactionState}
    (tables : after.tables = before.tables)
    (entityEvents : ∀ id row, before.entityEvents id = some row →
      after.entityEvents id = some row) : VersionsAdvance before after where
  entityEvents := entityEvents
  events := by
    intro eventId row stored
    rw [tables]
    exact ⟨row, stored, Int.le_refl _, fun _ => ⟨rfl, fun _ => Iff.rfl⟩⟩

theorem DatabaseAdvances.commit_advances {state : TransactionState} {number : Nat}
    {call : Call} (sound : DatabaseAdvances state)
    (opened : state.calls number = some call) :
    VersionsAdvance state { state.close number with tables := call.view state.tables } where
  entityEvents := fun _ _ known => known
  events := by
    have held := sound.calls number call opened
    intro eventId row stored
    cases own : call.events eventId with
    | some written =>
        have newer := (sound.rows number call opened eventId written own).2 row stored
        refine ⟨written, view_events_own own, Int.le_of_lt newer, ?_⟩
        intro same
        exact absurd same (Int.ne_of_lt newer)
    | none =>
        refine ⟨row, (view_events_committed own).trans stored, Int.le_refl _,
          fun _ => ⟨rfl, ?_⟩⟩
        intro id
        rw [view_member_iff]
        constructor
        · intro member
          rcases member with ⟨mapping, mine, ofEvent⟩ | ⟨-, committed⟩
          · obtain ⟨-, -, written, -⟩ := held.mappings id mapping mine
            rw [ofEvent, own] at written
            cases written
          · exact committed
        · intro member
          refine Or.inr ⟨?_, member⟩
          cases mine : call.entityMap id with
          | none => rfl
          | some mapping =>
              obtain ⟨other, found, -⟩ := member
              rw [(held.mappings id mapping mine).2.1] at found
              cases found

/-- Only a new row changes `entity_events`. -/
theorem transactionStep_entityEvents {state after : TransactionState}
    {action : TransactionAction} (moved : transactionStep state action = some after) :
    (∃ row, action = .storeEntityEvent row ∧ state.entityEvents row.entityEventId = none ∧
      after.entityEvents =
        Function.update state.entityEvents row.entityEventId (some row)) ∨
    ((∀ row, action ≠ .storeEntityEvent row) ∧ after.entityEvents = state.entityEvents) := by
  cases transactionStep_step moved with
  | @stored row absent => exact Or.inl ⟨row, rfl, absent, rfl⟩
  | started | failed | committed => exact Or.inr ⟨by simp, rfl⟩
  | mapping _ _ ran =>
      refine Or.inr ⟨by simp, ?_⟩
      rcases executeMapping_cases ran with rfl | ⟨-, rfl⟩ | ⟨-, rfl⟩ <;> rfl
  | upsert _ _ _ ran =>
      refine Or.inr ⟨by simp, ?_⟩
      rcases executeUpsert_cases ran with rfl | ⟨_, _, -, -, rfl⟩ <;> rfl

theorem transactionStep_keeps {state after : TransactionState} {action : TransactionAction}
    (moved : transactionStep state action = some after) {id : UUID} {row : EntityEvent}
    (known : state.entityEvents id = some row) : after.entityEvents id = some row := by
  rcases transactionStep_entityEvents moved with ⟨stored, -, absent, added⟩ | ⟨-, same⟩
  · have apart : id ≠ stored.entityEventId := by
      intro same
      rw [same, absent] at known
      cases known
    simpa [added, apart] using known
  · rw [same]
    exact known

/-- Rows only get newer, whatever is upserted. -/
theorem RowsLocked.advances {state after : TransactionState} {action : TransactionAction}
    (sound : RowsLocked state) (moved : transactionStep state action = some after)
    {eventId : UUID} {row : EventRow} (stored : state.tables.events eventId = some row) :
    ∃ later, after.tables.events eventId = some later ∧
      row.aggregationUpdatedAt ≤ later.aggregationUpdatedAt := by
  by_cases commits : ∃ number, action = .commit number
  · obtain ⟨number, rfl⟩ := commits
    cases transactionStep_step moved with
    | @committed _ call opened =>
        cases own : call.events eventId with
        | some written =>
            exact ⟨written, view_events_own own,
              Int.le_of_lt ((sound number call opened eventId written own).2 row stored)⟩
        | none => exact ⟨row, (view_events_committed own).trans stored, Int.le_refl _⟩
  · have same := (transactionStep_tables moved).1 fun number is => commits ⟨number, is⟩
    rw [same]
    exact ⟨row, stored, Int.le_refl _⟩

theorem DatabaseAdvances.advances {state after : TransactionState}
    {action : TransactionAction} (sound : DatabaseAdvances state)
    (moved : transactionStep state action = some after) : VersionsAdvance state after := by
  by_cases commits : ∃ number, action = .commit number
  · obtain ⟨number, rfl⟩ := commits
    cases transactionStep_step moved with
    | committed opened => exact sound.commit_advances opened
  · have tables := (transactionStep_tables moved).1 fun number is => commits ⟨number, is⟩
    exact VersionsAdvance.of_tables tables fun _ _ known => transactionStep_keeps moved known

end WealthFinder.Pipeline
