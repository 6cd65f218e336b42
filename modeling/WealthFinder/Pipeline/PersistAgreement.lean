import WealthFinder.Tables
import WealthFinder.Pipeline.Agreement
import WealthFinder.Pipeline.PersistTransactions

/-!
# Interleaved `persist_events` calls keep rows and memberships in agreement

The lock of an upserted row freezes the committed state of that Event for every
other call, so what a call sees of an Event it has locked agrees up to the
mappings it still has to insert.  Its commit makes exactly this view the
committed one.
-/

set_option autoImplicit false

namespace WealthFinder.Pipeline

open Machine TransactionState

/-- The calls persist snapshots of the family. -/
def ofFamily (family : Event → Prop) (_ : TransactionState) : TransactionAction → Prop
  | .start _ _ snapshots => ∀ snapshot ∈ snapshots, family snapshot
  | _ => True

/-! ## The invariant -/

/-- The mappings of the Event that the call has yet to insert. -/
def Call.pendingAt (call : Call) (eventId : UUID) : List UUID :=
  if eventId = call.current then call.pending else []

structure CallSound (family : Event → Prop) (state : TransactionState) (number : Nat)
    (call : Call) : Prop where
  remaining : ∀ snapshot ∈ call.rest, family snapshot
  current : call.pending ≠ [] → state.rowLocks call.current = some number ∧
    ((call.view state.tables).events call.current).isSome
  rows : ∀ eventId row, call.events eventId = some row →
    state.rowLocks eventId = some number ∧
    ∀ old, state.tables.events eventId = some old →
      old.aggregationUpdatedAt ≤ row.aggregationUpdatedAt ∧ row.createdAt = old.createdAt
  mappings : ∀ id mapping, call.entityMap id = some mapping →
    state.rowLocks mapping.eventId = some number
  listed : Listed family call.entityMap
  agree : ∀ eventId, state.rowLocks eventId = some number →
    AgreeUpTo family (call.view state.tables) eventId (call.pendingAt eventId)

structure TransactionSound (family : Event → Prop) (state : TransactionState) : Prop where
  listed : Listed family state.tables.entityMap
  agree : ∀ eventId, AgreeUpTo family state.tables eventId []
  holders : ∀ eventId number, state.rowLocks eventId = some number →
    (state.calls number).isSome
  calls : ∀ number call, state.calls number = some call →
    CallSound family state number call

theorem transactionSound_initial (family : Event → Prop) :
    TransactionSound family TransactionState.initial where
  listed := by intro _ _ found; cases found
  agree := by
    intro eventId
    refine ⟨?_, by intro _ found; cases found⟩
    rintro id ⟨mapping, found, -⟩
    cases found
  holders := by intro _ _ locked; cases locked
  calls := by intro _ _ opened; cases opened

/-! ## Locks -/

theorem free_cases {locks : UUID → Option Nat} {call : Nat} {id : UUID}
    (available : free locks call id = true) : locks id = none ∨ locks id = some call := by
  unfold free at available
  split at available
  · rename_i unlocked
    exact Or.inl unlocked
  · rename_i holder locked
    rw [locked, eq_of_beq available]
    exact Or.inr rfl

theorem not_free_of_locked {locks : UUID → Option Nat} {call other : Nat} {id : UUID}
    (locked : locks id = some other) (apart : other ≠ call) : ¬ free locks call id = true := by
  intro available
  rcases free_cases available with unlocked | own
  · rw [unlocked] at locked
    cases locked
  · rw [own, Option.some.injEq] at locked
    exact apart locked.symm

theorem release_some {locks : UUID → Option Nat} {call other : Nat} {id : UUID} :
    release locks call id = some other ↔ locks id = some other ∧ other ≠ call := by
  unfold release
  split
  · rename_i locked
    rw [locked]
    simp only [reduceCtorEq, Option.some.injEq, false_iff, not_and, not_not]
    exact fun same => same.symm
  · rename_i unlocked
    refine ⟨fun found => ⟨found, ?_⟩, fun found => found.1⟩
    rintro rfl
    exact unlocked found

/-! ## What a call sees -/

section View
variable {family : Event → Prop} {state : TransactionState} {number : Nat} {call : Call}

theorem view_entityMap_own {tables : EventTables} {id : UUID} {mapping : EventEntityMap}
    (own : call.entityMap id = some mapping) :
    (call.view tables).entityMap id = some mapping := by
  simp [Call.view, own]

theorem view_entityMap_committed {tables : EventTables} {id : UUID}
    (own : call.entityMap id = none) :
    (call.view tables).entityMap id = tables.entityMap id := by
  simp [Call.view, own]

theorem view_events_own {tables : EventTables} {eventId : UUID} {row : EventRow}
    (own : call.events eventId = some row) :
    (call.view tables).events eventId = some row := by
  simp [Call.view, own]

theorem view_events_committed {tables : EventTables} {eventId : UUID}
    (own : call.events eventId = none) :
    (call.view tables).events eventId = tables.events eventId := by
  simp [Call.view, own]

theorem view_member_iff {tables : EventTables} {eventId id : UUID} :
    Member (call.view tables) eventId id ↔
      (∃ mapping, call.entityMap id = some mapping ∧ mapping.eventId = eventId) ∨
      (call.entityMap id = none ∧ Member tables eventId id) := by
  unfold Member
  cases own : call.entityMap id with
  | none => simp [view_entityMap_committed own]
  | some mapping => simp [view_entityMap_own own]

theorem CallSound.view_listed (sound : CallSound family state number call)
    (committed : Listed family state.tables.entityMap) :
    Listed family (call.view state.tables).entityMap := by
  intro id mapping found
  cases own : call.entityMap id with
  | none =>
      rw [view_entityMap_committed own] at found
      exact committed id mapping found
  | some written =>
      rw [view_entityMap_own own] at found
      exact sound.listed id mapping (own.trans found)

/-- The call has written nothing about an Event it has not locked. -/
theorem CallSound.view_unlocked (growing : SnapshotFamily family)
    (sound : CallSound family state number call)
    (committed : Listed family state.tables.entityMap) {eventId : UUID}
    (unlocked : state.rowLocks eventId ≠ some number) :
    (call.view state.tables).events eventId = state.tables.events eventId ∧
    ∀ id, Member (call.view state.tables) eventId id ↔ Member state.tables eventId id := by
  refine ⟨?_, ?_⟩
  · cases own : call.events eventId with
    | none => exact view_events_committed own
    | some row => exact absurd (sound.rows eventId row own).1 unlocked
  · intro id
    rw [view_member_iff]
    refine ⟨?_, ?_⟩
    · rintro (⟨mapping, own, rfl⟩ | ⟨-, member⟩)
      · exact absurd (sound.mappings id mapping own) unlocked
      · exact member
    · intro member
      cases own : call.entityMap id with
      | none => exact Or.inr ⟨rfl, member⟩
      | some mapping =>
          obtain ⟨stored, found, rfl⟩ := member
          have same := sound.listed.unique growing committed own found
          exact absurd (same ▸ sound.mappings id mapping own) unlocked

end View

/-! ## Statements -/

/-- A call that neither commits nor loses its locks is as sound as before. -/
theorem CallSound.framed {family : Event → Prop} {state after : TransactionState}
    {number : Nat} {call : Call} (sound : CallSound family state number call)
    (tables : after.tables = state.tables)
    (locks : ∀ eventId, after.rowLocks eventId = some number ↔
      state.rowLocks eventId = some number) : CallSound family after number call := by
  constructor
  · exact sound.remaining
  · intro waiting
    rw [locks, tables]
    exact sound.current waiting
  · intro eventId row own
    rw [locks, tables]
    exact sound.rows eventId row own
  · intro id mapping own
    rw [locks]
    exact sound.mappings id mapping own
  · exact sound.listed
  · intro eventId locked
    rw [tables]
    exact sound.agree eventId ((locks eventId).mp locked)

/-- A step of one call that writes no committed row leaves the invariant to be
shown for that call alone. -/
theorem TransactionSound.stepped {family : Event → Prop} {state after : TransactionState}
    {number : Nat} (sound : TransactionSound family state)
    (tables : after.tables = state.tables)
    (others : ∀ other, other ≠ number → after.calls other = state.calls other)
    (locks : ∀ eventId other, other ≠ number →
      (after.rowLocks eventId = some other ↔ state.rowLocks eventId = some other))
    (holder : ∀ eventId, after.rowLocks eventId = some number →
      (after.calls number).isSome)
    (own : ∀ call, after.calls number = some call → CallSound family after number call) :
    TransactionSound family after := by
  constructor
  · rw [tables]
    exact sound.listed
  · rw [tables]
    exact sound.agree
  · intro eventId other locked
    by_cases same : other = number
    · subst same
      exact holder eventId locked
    · rw [others other same]
      exact sound.holders eventId other ((locks eventId other same).mp locked)
  · intro other call opened
    by_cases same : other = number
    · subst same
      exact own call opened
    · rw [others other same] at opened
      exact (sound.calls other call opened).framed tables
        (fun eventId => locks eventId other same)

theorem TransactionSound.closed {family : Event → Prop} {state : TransactionState}
    (sound : TransactionSound family state) (number : Nat) :
    TransactionSound family (state.close number) := by
  refine @TransactionSound.stepped family state (state.close number) number sound rfl ?_ ?_ ?_ ?_
  · intro other apart
    simp [close, apart]
  · intro eventId other apart
    simp [close, release_some, apart]
  · intro eventId locked
    simp [close, release_some] at locked
  · intro call opened
    simp [close] at opened

theorem executeMapping_cases {state after : TransactionState} {number : Nat} {call : Call}
    {id : UUID} {rest : List UUID}
    (ran : executeMapping state number call id rest = some after) :
    after = state.close number ∨
    (((call.view state.tables).entityMap id).isSome ∧ after = { state with
      calls := Function.update state.calls number (some { call with pending := rest }) }) ∨
    ((call.view state.tables).entityMap id = none ∧ after = { state with
      calls := Function.update state.calls number (some { call with
        pending := rest
        entityMap := Function.update call.entityMap id
          (some ⟨call.current, id, call.env.createdAt⟩) })
      keyLocks := Function.update state.keyLocks id (some number) }) := by
  simp only [executeMapping] at ran
  split at ran
  · split at ran
    · exact Or.inl (Option.some.inj ran).symm
    · split at ran
      · rename_i present
        exact Or.inr (Or.inl ⟨present, (Option.some.inj ran).symm⟩)
      · rename_i absent
        exact Or.inr (Or.inr ⟨by simpa using absent, (Option.some.inj ran).symm⟩)
  · cases ran

/-- A fresh mapping among what the call sees adds one member. -/
theorem member_update_iff {tables after : EventTables} {id : UUID}
    {mapping : EventEntityMap} (unmapped : tables.entityMap id = none)
    (inserted : after.entityMap = Function.update tables.entityMap id (some mapping))
    (eventId other : UUID) : Member after eventId other ↔
      Member tables eventId other ∨ (other = id ∧ mapping.eventId = eventId) := by
  unfold Member
  rw [inserted]
  by_cases same : other = id
  · subst same
    simp [unmapped]
  · simp [same]

theorem view_insert {call : Call} {tables : EventTables} {id : UUID}
    {mapping : EventEntityMap} {pending : List UUID} :
    (({ call with
        pending := pending
        entityMap := Function.update call.entityMap id (some mapping) } : Call).view
      tables).entityMap =
      Function.update (call.view tables).entityMap id (some mapping) := by
  funext other
  by_cases same : other = id
  · subst same
    simp [Call.view]
  · simp [Call.view, same]

theorem TransactionSound.mapping {family : Event → Prop} (growing : SnapshotFamily family)
    {state after : TransactionState} {number : Nat} {call : Call} {id : UUID}
    {rest : List UUID} (sound : TransactionSound family state)
    (opened : state.calls number = some call) (pending : call.pending = id :: rest)
    (ran : executeMapping state number call id rest = some after) :
    TransactionSound family after := by
  have held := sound.calls number call opened
  obtain ⟨locked, present⟩ := held.current (by simp [pending])
  have agreed := held.agree call.current locked
  rw [show call.pendingAt call.current = id :: rest by simp [Call.pendingAt, pending]]
    at agreed
  obtain ⟨row, stored⟩ := Option.isSome_iff_exists.mp present
  obtain ⟨snapshot, snapshotIn, sameEvent, -, -, -, pendingIn⟩ := agreed.2 row stored
  have listed : id ∈ snapshot.entityEventIds := pendingIn id List.mem_cons_self
  have others (next : Call) (other : Nat) (apart : other ≠ number) :
      Function.update state.calls number (some next) other = state.calls other := by
    simp [apart]
  rcases executeMapping_cases ran with rfl | ⟨mapped, rfl⟩ | ⟨unmapped, rfl⟩
  · exact sound.closed number
  · -- the id is mapped already, and then to this very Event
    refine sound.stepped rfl (others _) (fun _ _ _ => Iff.rfl) (fun _ _ => by simp) ?_
    intro next nextOpened
    simp only [Function.update_self, Option.some.injEq] at nextOpened
    subst nextOpened
    refine ⟨held.remaining, fun _ => ⟨locked, present⟩, held.rows, held.mappings,
      held.listed, ?_⟩
    intro eventId eventLocked
    by_cases same : eventId = call.current
    · subst same
      rw [show ({ call with pending := rest } : Call).pendingAt call.current = rest by
        simp [Call.pendingAt]]
      refine agreed.mapped rfl ?_
      intro other
      refine ⟨Or.inl, ?_⟩
      rintro (member | ⟨rfl, -⟩)
      · exact member
      · obtain ⟨mapping, found⟩ := Option.isSome_iff_exists.mp mapped
        obtain ⟨another, anotherIn, sameOther, listedOther⟩ :=
          held.view_listed sound.listed other mapping found
        refine ⟨mapping, found, ?_⟩
        rw [← sameOther, ← sameEvent]
        exact growing.owner anotherIn snapshotIn listedOther listed
    · have elsewhere := held.agree eventId eventLocked
      simp only [Call.pendingAt, same, if_false] at elsewhere ⊢
      exact elsewhere
  · -- the new row is the call's own
    refine sound.stepped rfl (others _) (fun _ _ _ => Iff.rfl) (fun _ _ => by simp) ?_
    intro next nextOpened
    simp only [Function.update_self, Option.some.injEq] at nextOpened
    subst nextOpened
    have members := member_update_iff unmapped
      (@view_insert call state.tables id ⟨call.current, id, call.env.createdAt⟩ rest)
    refine ⟨held.remaining, fun _ => ⟨locked, present⟩, held.rows, ?_, ?_, ?_⟩
    · intro other mapping found
      rcases of_update_some found with ⟨-, rfl⟩ | ⟨-, old⟩
      · exact locked
      · exact held.mappings other mapping old
    · intro other mapping found
      rcases of_update_some found with ⟨rfl, rfl⟩ | ⟨-, old⟩
      · exact ⟨snapshot, snapshotIn, sameEvent, listed⟩
      · exact held.listed other mapping old
    · intro eventId eventLocked
      by_cases same : eventId = call.current
      · subst same
        rw [show ∀ written, ({ call with pending := rest, entityMap := written } : Call).pendingAt
          call.current = rest by simp [Call.pendingAt]]
        refine agreed.mapped rfl ?_
        intro other
        rw [members]
        simp [present]
      · have elsewhere := held.agree eventId eventLocked
        simp only [Call.pendingAt, same, if_false] at elsewhere ⊢
        refine elsewhere.congr rfl ?_
        intro other
        rw [members]
        simp [Ne.symm same]

theorem executeUpsert_cases {state after : TransactionState} {number : Nat} {call : Call}
    {event : Event} {rest : List Event}
    (ran : executeUpsert state number call event rest = some after) :
    after = state.close number ∨
    ∃ returned events, free state.rowLocks number event.eventId = true ∧
      upsertEvent call.env.order state.entityEvents call.env.now
        (call.view state.tables).events event = some (returned, events) ∧
      after = { state with
        calls := Function.update state.calls number (some { call with
          current := event.eventId
          pending := event.entityEventIds
          rest := rest
          events := call.written event.eventId returned })
        rowLocks := Function.update state.rowLocks event.eventId (some number) } := by
  simp only [executeUpsert] at ran
  split at ran
  · rename_i available
    split at ran
    · exact Or.inl (Option.some.inj ran).symm
    · rename_i returned events upserted
      exact Or.inr ⟨returned, events, available, upserted, (Option.some.inj ran).symm⟩
  · cases ran

/-- After its upsert the call sees the table the statement left. -/
theorem view_written {call next : Call} {tables : EventTables} {entityEvents : EntityEvents}
    {event : Event} {returned : Option EventRow} {events : UUID → Option EventRow}
    (upserted : upsertEvent call.env.order entityEvents call.env.now
      (call.view tables).events event = some (returned, events))
    (written : next.events = call.written event.eventId returned) :
    (next.view tables).events = events := by
  rcases upsertEvent_returned upserted with ⟨rfl, rfl⟩ | ⟨row, rfl, rfl⟩
  · simp only [Call.view, written, Call.written]
  · funext eventId
    by_cases same : eventId = event.eventId
    · simp [Call.view, written, Call.written, same]
    · simp [Call.view, written, Call.written, same]

/-- Whether the call has locked the Event or not, before its upsert nothing of
the Event is pending. -/
theorem TransactionSound.agree_view {family : Event → Prop}
    (growing : SnapshotFamily family) {state : TransactionState} {number : Nat}
    {call : Call} (sound : TransactionSound family state)
    (opened : state.calls number = some call) (idle : call.pending = []) (eventId : UUID) :
    AgreeUpTo family (call.view state.tables) eventId [] := by
  have held := sound.calls number call opened
  by_cases locked : state.rowLocks eventId = some number
  · have agreed := held.agree eventId locked
    rwa [show call.pendingAt eventId = [] by simp [Call.pendingAt, idle]] at agreed
  · obtain ⟨rows, members⟩ := held.view_unlocked growing sound.listed locked
    exact (sound.agree eventId).congr rows members

/-- What the call sees is never older than what is committed. -/
theorem CallSound.view_newer {family : Event → Prop} {state : TransactionState}
    {number : Nat} {call : Call} (sound : CallSound family state number call)
    {eventId : UUID} {old : EventRow} (committed : state.tables.events eventId = some old) :
    ∃ row, (call.view state.tables).events eventId = some row ∧
      old.aggregationUpdatedAt ≤ row.aggregationUpdatedAt ∧ row.createdAt = old.createdAt := by
  cases own : call.events eventId with
  | none =>
      exact ⟨old, (view_events_committed own).trans committed, Int.le_refl _, rfl⟩
  | some row =>
      exact ⟨row, view_events_own own, (sound.rows eventId row own).2 old committed⟩

theorem TransactionSound.upsert {family : Event → Prop} (growing : SnapshotFamily family)
    {state after : TransactionState} {number : Nat} {call : Call} {event : Event}
    {rest : List Event} (sound : TransactionSound family state)
    (opened : state.calls number = some call) (idle : call.pending = [])
    (remaining : call.rest = event :: rest)
    (ran : executeUpsert state number call event rest = some after) :
    TransactionSound family after := by
  have held := sound.calls number call opened
  have eventIn : family event := held.remaining event (by simp [remaining])
  rcases executeUpsert_cases ran with rfl | ⟨returned, events, available, upserted, rfl⟩
  · exact sound.closed number
  obtain ⟨others, excluded, row, proposed, stored, changed⟩ := upsertEvent_upserted upserted
  have unlocked (eventId : UUID) (other : Nat) (apart : other ≠ number) :
      Function.update state.rowLocks event.eventId (some number) eventId = some other ↔
        state.rowLocks eventId = some other := by
    by_cases same : eventId = event.eventId
    · subst same
      rcases free_cases available with open' | own
      · simp [open', Ne.symm apart]
      · simp [own]
    · simp [same]
  refine sound.stepped rfl (fun other apart => by simp [apart]) unlocked
    (fun _ _ => by simp) ?_
  intro next nextOpened
  simp only [Function.update_self, Option.some.injEq] at nextOpened
  have seen : (next.view state.tables).events = events :=
    view_written upserted (by rw [← nextOpened])
  have sameMap : (next.view state.tables).entityMap =
      (call.view state.tables).entityMap := by rw [← nextOpened]; rfl
  have locks (eventId : UUID) (locked : state.rowLocks eventId = some number) :
      Function.update state.rowLocks event.eventId (some number) eventId = some number := by
    by_cases same : eventId = event.eventId
    · simp [same]
    · simpa [same] using locked
  constructor
  · intro snapshot member
    rw [← nextOpened] at member
    exact held.remaining snapshot (by simp [remaining, member])
  · intro _
    rw [seen, ← nextOpened]
    simp [stored]
  · intro eventId latest own
    have latestSeen := @view_events_own _ state.tables _ _ own
    rw [seen] at latestSeen
    by_cases same : eventId = event.eventId
    · subst same
      rw [stored, Option.some.injEq] at latestSeen
      subst latestSeen
      refine ⟨by simp, ?_⟩
      intro old committed
      obtain ⟨before, beforeSeen, older, created⟩ := held.view_newer committed
      rw [beforeSeen] at changed
      obtain ⟨-, -, sameCreated, -, grown⟩ := changed.of_some
      exact ⟨Int.le_trans older grown, sameCreated.trans created⟩
    · have kept : call.events eventId = some latest := by
        rw [← nextOpened] at own
        cases returned with
        | none => exact own
        | some _ => simpa [Call.written, same] using own
      obtain ⟨locked, newer⟩ := held.rows eventId latest kept
      exact ⟨locks eventId locked, newer⟩
  · intro id mapping own
    rw [← nextOpened] at own
    exact locks mapping.eventId (held.mappings id mapping own)
  · rw [← nextOpened]
    exact held.listed
  · intro eventId locked
    have before := sound.agree_view growing opened idle eventId
    by_cases same : eventId = event.eventId
    · subst same
      rw [show next.pendingAt event.eventId = event.entityEventIds by
        rw [← nextOpened]; simp [Call.pendingAt]]
      exact before.upserted growing eventIn (excludedRow_fields proposed).2.2.2.2.1
        (by rw [seen]; exact stored) changed sameMap
    · rw [show next.pendingAt eventId = [] by
        rw [← nextOpened]; simp [Call.pendingAt, same]]
      refine before.congr (by rw [seen]; exact others eventId same) ?_
      intro id
      unfold Member
      rw [sameMap]

/-! ## The commit -/

theorem TransactionSound.committed {family : Event → Prop}
    (growing : SnapshotFamily family) {state : TransactionState} {number : Nat}
    {call : Call} (sound : TransactionSound family state)
    (opened : state.calls number = some call) (idle : call.pending = []) :
    TransactionSound family
      { state.close number with tables := call.view state.tables } := by
  have held := sound.calls number call opened
  have listed := held.view_listed sound.listed
  constructor
  · exact listed
  · exact sound.agree_view growing opened idle
  · intro eventId other locked
    obtain ⟨before, apart⟩ := release_some.mp locked
    simpa [close, apart] using sound.holders eventId other before
  · intro other another anotherOpened
    have apart : other ≠ number := by
      rintro rfl
      simp [close] at anotherOpened
    have old : state.calls other = some another := by
      simpa [close, apart] using anotherOpened
    have heldOther := sound.calls other another old
    have locks (eventId : UUID) :
        (state.close number).rowLocks eventId = some other ↔
          state.rowLocks eventId = some other := by
      simp [close, release_some, apart]
    -- an Event the other call has locked was not touched
    have frozen (eventId : UUID) (locked : state.rowLocks eventId = some other) :
        (call.view state.tables).events eventId = state.tables.events eventId ∧
        ∀ id, Member (another.view (call.view state.tables)) eventId id ↔
          Member (another.view state.tables) eventId id := by
      have unlocked : state.rowLocks eventId ≠ some number := by
        rw [locked]
        simpa using apart
      obtain ⟨rows, members⟩ := held.view_unlocked growing sound.listed unlocked
      refine ⟨rows, ?_⟩
      intro id
      rw [@view_member_iff another (call.view state.tables), members,
        ← @view_member_iff another state.tables]
    have sameView (eventId : UUID) (locked : state.rowLocks eventId = some other) :
        (another.view (call.view state.tables)).events eventId =
          (another.view state.tables).events eventId := by
      simp only [Call.view] at frozen ⊢
      rw [(frozen eventId locked).1]
    constructor
    · exact heldOther.remaining
    · intro waiting
      obtain ⟨locked, present⟩ := heldOther.current waiting
      refine ⟨(locks _).mpr locked, ?_⟩
      rw [sameView _ locked]
      exact present
    · intro eventId row own
      obtain ⟨locked, newer⟩ := heldOther.rows eventId row own
      refine ⟨(locks _).mpr locked, ?_⟩
      intro before committed
      rw [(frozen eventId locked).1] at committed
      exact newer before committed
    · intro id mapping own
      exact (locks _).mpr (heldOther.mappings id mapping own)
    · exact heldOther.listed
    · intro eventId locked
      have lockedBefore := (locks eventId).mp locked
      exact (heldOther.agree eventId lockedBefore).congr (sameView eventId lockedBefore)
        (frozen eventId lockedBefore).2

/-! ## Whole runs -/

/-- A new call holds no lock and has written nothing. -/
theorem TransactionSound.started {family : Event → Prop} {state : TransactionState}
    {number : Nat} {env : PersistEnv} {events : List Event}
    (sound : TransactionSound family state) (unopened : state.calls number = none)
    (snapshots : ∀ snapshot ∈ events, family snapshot) :
    TransactionSound family { state with
      calls := Function.update state.calls number
        (some ⟨env, 0, [], events, fun _ => none, fun _ => none⟩) } := by
  have unlocked (eventId : UUID) : state.rowLocks eventId ≠ some number := by
    intro locked
    simpa [unopened] using sound.holders eventId number locked
  refine @TransactionSound.stepped family state _ number sound rfl
    (fun other apart => by simp [apart]) (fun _ _ _ => Iff.rfl) (fun _ _ => by simp) ?_
  intro call opened
  simp only [Function.update_self, Option.some.injEq] at opened
  subst opened
  refine ⟨snapshots, fun waiting => absurd rfl waiting, ?_, ?_, ?_, ?_⟩
  · intro _ _ own
    cases own
  · intro _ _ own
    cases own
  · intro _ _ own
    cases own
  · intro eventId locked
    exact absurd locked (unlocked eventId)

/-- What a step can do. -/
inductive TransactionStep (state : TransactionState) :
    TransactionAction → TransactionState → Prop where
  | stored {row : EntityEvent} (absent : state.entityEvents row.entityEventId = none) :
      TransactionStep state (.storeEntityEvent row) { state with
        entityEvents := Function.update state.entityEvents row.entityEventId (some row) }
  | started {number : Nat} {env : PersistEnv} {snapshots : List Event}
      (unopened : state.calls number = none) :
      TransactionStep state (.start number env snapshots) { state with
        calls := Function.update state.calls number
          (some ⟨env, 0, [], snapshots, fun _ => none, fun _ => none⟩) }
  | mapping {number : Nat} {call : Call} {id : UUID} {rest : List UUID}
      {after : TransactionState} (opened : state.calls number = some call)
      (pending : call.pending = id :: rest)
      (ran : executeMapping state number call id rest = some after) :
      TransactionStep state (.execute number) after
  | upsert {number : Nat} {call : Call} {event : Event} {rest : List Event}
      {after : TransactionState} (opened : state.calls number = some call)
      (idle : call.pending = []) (remaining : call.rest = event :: rest)
      (ran : executeUpsert state number call event rest = some after) :
      TransactionStep state (.execute number) after
  | failed {number : Nat} : TransactionStep state (.fail number) (state.close number)
  | committed {number : Nat} {call : Call} (opened : state.calls number = some call)
      (finished : call.pending = []) :
      TransactionStep state (.commit number)
        { state.close number with tables := call.view state.tables }

theorem transactionStep_step {state after : TransactionState} {action : TransactionAction}
    (moved : transactionStep state action = some after) : TransactionStep state action after := by
  cases action with
  | storeEntityEvent row =>
      simp only [transactionStep] at moved
      split at moved
      · cases moved
      · rename_i absent
        cases moved
        exact .stored (by simpa using absent)
  | start number env snapshots =>
      simp only [transactionStep] at moved
      split at moved
      · cases moved
      · rename_i unopened
        cases moved
        exact .started unopened
  | execute number =>
      simp only [transactionStep] at moved
      split at moved
      · cases moved
      · rename_i call opened
        split at moved
        · rename_i id rest pending
          exact .mapping opened pending moved
        · rename_i event rest idle remaining
          exact .upsert opened idle remaining moved
        · cases moved
  | fail number =>
      obtain ⟨call, opened, rfl⟩ := Option.map_eq_some_iff.mp moved
      exact .failed
  | commit number =>
      simp only [transactionStep] at moved
      split at moved
      · cases moved
      · rename_i call opened
        split at moved
        · rename_i finished
          cases moved
          exact .committed opened finished.1
        · cases moved

theorem TransactionSound.step {family : Event → Prop} (growing : SnapshotFamily family)
    {state after : TransactionState} {action : TransactionAction}
    (sound : TransactionSound family state) (snapshots : ofFamily family state action)
    (moved : transactionStep state action = some after) : TransactionSound family after := by
  cases transactionStep_step moved with
  | stored =>
      exact ⟨sound.listed, sound.agree, sound.holders, fun number call opened =>
        (sound.calls number call opened).framed rfl fun _ => Iff.rfl⟩
  | started unopened => exact sound.started unopened snapshots
  | mapping opened pending ran => exact sound.mapping growing opened pending ran
  | upsert opened idle remaining ran => exact sound.upsert growing opened idle remaining ran
  | failed => exact sound.closed _
  | committed opened finished => exact sound.committed growing opened finished

theorem TransactionSound.of_trace {family : Event → Prop} (growing : SnapshotFamily family)
    {past : List TransactionState} {state : TransactionState}
    (trace : transactionMachine.Trace (ofFamily family) past state) :
    TransactionSound family state := by
  apply trace.invariant
  · intro start begins
    rw [show start = TransactionState.initial from begins]
    exact transactionSound_initial family
  · intro before action after sound snapshots moved
    exact sound.step growing snapshots moved

/-- Rows stay, keep their creation time and never go back to an older version. -/
def RowsAdvance (before after : TransactionState) : Prop :=
  ∀ eventId row, before.tables.events eventId = some row →
    ∃ later, after.tables.events eventId = some later ∧
      row.aggregationUpdatedAt ≤ later.aggregationUpdatedAt ∧
      later.createdAt = row.createdAt

/-- Only a commit changes the tables, and a failed call is gone. -/
theorem transactionStep_tables {state after : TransactionState} {action : TransactionAction}
    (moved : transactionStep state action = some after) :
    ((∀ number, action ≠ .commit number) → after.tables = state.tables) ∧
    ∀ number, action = .fail number → after.calls number = none := by
  cases transactionStep_step moved with
  | stored | started => exact ⟨fun _ => rfl, by simp⟩
  | mapping _ _ ran =>
      refine ⟨fun _ => ?_, by simp⟩
      rcases executeMapping_cases ran with rfl | ⟨-, rfl⟩ | ⟨-, rfl⟩ <;> rfl
  | upsert _ _ _ ran =>
      refine ⟨fun _ => ?_, by simp⟩
      rcases executeUpsert_cases ran with rfl | ⟨_, _, -, -, rfl⟩ <;> rfl
  | failed =>
      refine ⟨fun _ => rfl, ?_⟩
      intro other same
      cases same
      simp [close]
  | committed => exact ⟨fun other => absurd rfl (other _), by simp⟩

theorem TransactionSound.rowsAdvance {family : Event → Prop} {state after : TransactionState}
    {action : TransactionAction} (sound : TransactionSound family state)
    (moved : transactionStep state action = some after) : RowsAdvance state after := by
  by_cases commits : ∃ number, action = .commit number
  · obtain ⟨number, rfl⟩ := commits
    cases transactionStep_step moved with
    | committed opened =>
        intro eventId row stored
        exact (sound.calls number _ opened).view_newer stored
  · have same := (transactionStep_tables moved).1 fun number is => commits ⟨number, is⟩
    intro eventId row stored
    exact ⟨row, by rw [same]; exact stored, Int.le_refl _, rfl⟩

/-- Whatever the interleaving and the failures, every committed row carries the
memberships of exactly the snapshot it stores, rows only advance, and a call
that does not commit changes neither table. -/
theorem persistEvents_agree {family : Event → Prop} (growing : SnapshotFamily family)
    {past : List TransactionState} {state : TransactionState}
    (trace : transactionMachine.Trace (ofFamily family) past state) :
    (∀ eventId row, state.tables.events eventId = some row →
      ∃ snapshot, family snapshot ∧ snapshot.eventId = eventId ∧
        snapshot.aggregationUpdatedAt = row.aggregationUpdatedAt ∧
        ∀ id, Member state.tables eventId id ↔ id ∈ snapshot.entityEventIds) ∧
    (∀ earlier ∈ past, RowsAdvance earlier state) ∧
    (∀ action after, transactionStep state action = some after →
      ((∀ number, action ≠ .commit number) → after.tables = state.tables) ∧
      ∀ number, action = .fail number → after.calls number = none) := by
  have sound := TransactionSound.of_trace growing trace
  refine ⟨?_, ?_, fun _ _ moved => transactionStep_tables moved⟩
  · intro eventId row stored
    exact (sound.agree eventId).exact stored
  · refine @Trace.relates_past _ _ transactionMachine (ofFamily family) RowsAdvance ?_ ?_
      past state trace
    · intro first second third firstAdvance secondAdvance eventId row stored
      obtain ⟨middle, middleStored, newer, created⟩ := firstAdvance eventId row stored
      obtain ⟨last, lastStored, newest, sameCreated⟩ := secondAdvance eventId middle middleStored
      exact ⟨last, lastStored, Int.le_trans newer newest, sameCreated.trans created⟩
    · intro before state action after reached _ moved
      exact (TransactionSound.of_trace growing reached).rowsAdvance moved

/-! ## A run with an older snapshot persisted last -/

def sampleSnapshot (version : Timestamp) (ids : List UUID) : Event where
  eventId := 9
  group := (sampleEntityEvent 1 0).groupKey
  firstSeenAt := 100
  lastSeenAt := 100
  eventTypeSecondary := none
  sourceList := none
  aggregationUpdatedAt := version
  entityEventIds := ids

def sampleEnv : PersistEnv := ⟨RowOrder.stored EntityEvent, 1000, 1000⟩

def sampleFamily (event : Event) : Prop :=
  event = sampleSnapshot 200 [1] ∨ event = sampleSnapshot 300 [1, 2]

theorem sampleFamily_growing : SnapshotFamily sampleFamily where
  same := by
    rintro first second (rfl | rfl) (rfl | rfl) - version <;> simp [sampleSnapshot] at version ⊢
  extending := by
    rintro first second (rfl | rfl) (rfl | rfl) - version <;> simp [sampleSnapshot] at version ⊢
  apart := by
    rintro first second (rfl | rfl) (rfl | rfl) different <;> simp [sampleSnapshot] at different

/-- The older call waits for the newer one's lock, then writes nothing; a third
call fails after its upsert. -/
def olderLast : List TransactionAction :=
  [.storeEntityEvent (sampleEntityEvent 1 0), .storeEntityEvent (sampleEntityEvent 2 0),
    .start 0 sampleEnv [sampleSnapshot 200 [1]], .start 1 sampleEnv [sampleSnapshot 300 [1, 2]],
    .execute 1, .execute 1, .execute 1, .commit 1, .execute 0, .execute 0, .commit 0,
    .start 2 sampleEnv [sampleSnapshot 300 [1, 2]], .execute 2, .fail 2]

def ofSampleFamily (_ : TransactionState) : TransactionAction → Bool
  | .start _ _ snapshots => snapshots.all fun snapshot =>
      snapshot == sampleSnapshot 200 [1] || snapshot == sampleSnapshot 300 [1, 2]
  | _ => true

theorem ofSampleFamily_sound (state : TransactionState) (action : TransactionAction)
    (checked : ofSampleFamily state action = true) : ofFamily sampleFamily state action := by
  cases action with
  | start number env snapshots =>
      intro snapshot member
      simpa [sampleFamily] using List.all_eq_true.mp checked snapshot member
  | storeEntityEvent | execute | fail | commit => trivial

theorem persistEvents_agree_olderLast : ∃ past state,
    transactionMachine.Trace (ofFamily sampleFamily) past state ∧
    (state.tables.events 9).map EventRow.aggregationUpdatedAt = some 300 ∧
    ∃ snapshot, sampleFamily snapshot ∧ snapshot.aggregationUpdatedAt = 300 ∧
      ∀ id, Member state.tables 9 id ↔ id ∈ snapshot.entityEventIds := by
  obtain ⟨past, state, trace, tested⟩ :=
    Trace.of_run transactionMachine ofSampleFamily
      (fun state => decide ((state.tables.events 9).map EventRow.aggregationUpdatedAt = some 300))
      (fun _ state action _ => ofSampleFamily_sound state action) rfl olderLast (by decide)
  have version := of_decide_eq_true tested
  obtain ⟨row, stored, rowVersion⟩ := Option.map_eq_some_iff.mp version
  obtain ⟨agree, -, -⟩ := persistEvents_agree sampleFamily_growing trace
  obtain ⟨snapshot, snapshotIn, -, snapshotVersion, members⟩ := agree 9 row stored
  exact ⟨past, state, trace, version, snapshot, snapshotIn,
    snapshotVersion.trans rowVersion, members⟩

end WealthFinder.Pipeline
