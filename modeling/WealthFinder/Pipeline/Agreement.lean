import WealthFinder.Pipeline.PersistRules

/-!
# Rows and memberships of growing snapshots

A family of snapshots in which each Event's versions grow and no two Events
share an EntityEvent.  `AgreeUpTo` says that the members of an Event are those
of the snapshot its row stores, apart from the ids still to be inserted.
-/

set_option autoImplicit false

namespace WealthFinder.Pipeline

structure SnapshotFamily (family : Event → Prop) : Prop where
  same : ∀ first second, family first → family second →
    first.eventId = second.eventId →
    first.aggregationUpdatedAt = second.aggregationUpdatedAt → first = second
  extending : ∀ first second, family first → family second →
    first.eventId = second.eventId →
    first.aggregationUpdatedAt < second.aggregationUpdatedAt →
    first.entityEventIds ⊆ second.entityEventIds
  apart : ∀ first second, family first → family second →
    first.eventId ≠ second.eventId →
    first.entityEventIds.Disjoint second.entityEventIds

def AgreeUpTo (family : Event → Prop) (tables : EventTables) (eventId : UUID)
    (pending : List UUID) : Prop :=
  (∀ id, Member tables eventId id → (tables.events eventId).isSome) ∧
  ∀ row, tables.events eventId = some row → ∃ snapshot, family snapshot ∧
    snapshot.eventId = eventId ∧
    snapshot.aggregationUpdatedAt = row.aggregationUpdatedAt ∧
    (∀ id, Member tables eventId id → id ∈ snapshot.entityEventIds) ∧
    (∀ id ∈ snapshot.entityEventIds, Member tables eventId id ∨ id ∈ pending) ∧
    (∀ id ∈ pending, id ∈ snapshot.entityEventIds)

/-- Every mapping belongs to a snapshot that lists its EntityEvent. -/
def Listed (family : Event → Prop) (entityMap : UUID → Option EventEntityMap) : Prop :=
  ∀ id mapping, entityMap id = some mapping → ∃ snapshot, family snapshot ∧
    snapshot.eventId = mapping.eventId ∧ id ∈ snapshot.entityEventIds

section
variable {family : Event → Prop} (growing : SnapshotFamily family)
include growing

theorem SnapshotFamily.subset {first second : Event} (firstIn : family first)
    (secondIn : family second) (same : first.eventId = second.eventId)
    (older : first.aggregationUpdatedAt ≤ second.aggregationUpdatedAt) :
    first.entityEventIds ⊆ second.entityEventIds := by
  rcases Int.lt_or_eq_of_le older with less | equal
  · exact growing.extending first second firstIn secondIn same less
  · rw [growing.same first second firstIn secondIn same equal]
    exact List.Subset.refl _

/-- Two snapshots that list one EntityEvent are of one Event. -/
theorem SnapshotFamily.owner {first second : Event} (firstIn : family first)
    (secondIn : family second) {id : UUID} (inFirst : id ∈ first.entityEventIds)
    (inSecond : id ∈ second.entityEventIds) : first.eventId = second.eventId := by
  by_contra different
  exact growing.apart first second firstIn secondIn different inFirst inSecond

/-- Mappings of one EntityEvent name one Event, whichever table holds them. -/
theorem Listed.unique {firstMap secondMap : UUID → Option EventEntityMap}
    (first : Listed family firstMap) (second : Listed family secondMap)
    {id : UUID} {mapping other : EventEntityMap} (found : firstMap id = some mapping)
    (otherFound : secondMap id = some other) : mapping.eventId = other.eventId := by
  obtain ⟨snapshot, snapshotIn, sameEvent, listed⟩ := first id mapping found
  obtain ⟨another, anotherIn, sameOther, listedOther⟩ := second id other otherFound
  rw [← sameEvent, ← sameOther]
  exact growing.owner snapshotIn anotherIn listed listedOther

/-- After the upsert of a snapshot its own ids are what is still to be
inserted. -/
theorem AgreeUpTo.upserted {before after : EventTables} {event : Event}
    {excluded row : EventRow} (agree : AgreeUpTo family before event.eventId [])
    (eventIn : family event)
    (version : excluded.aggregationUpdatedAt = event.aggregationUpdatedAt)
    (stored : after.events event.eventId = some row)
    (upserted : UpsertedRow excluded (before.events event.eventId) row)
    (sameMap : after.entityMap = before.entityMap) :
    AgreeUpTo family after event.eventId event.entityEventIds := by
  have members : ∀ id, Member after event.eventId id ↔ Member before event.eventId id := by
    intro id
    unfold Member
    rw [sameMap]
  refine ⟨fun _ _ => by simp [stored], ?_⟩
  intro latest latestStored
  rw [stored, Option.some.injEq] at latestStored
  subst latestStored
  cases found : before.events event.eventId with
  | none =>
      rw [found] at upserted
      cases upserted
      refine ⟨event, eventIn, rfl, version.symm, ?_, fun _ listed => Or.inr listed,
        fun _ listed => listed⟩
      intro id member
      have present := agree.1 id ((members id).mp member)
      simp [found] at present
  | some old =>
      obtain ⟨snapshot, snapshotIn, sameEvent, snapshotVersion, inSnapshot, covered, -⟩ :=
        agree.2 old found
      rw [found] at upserted
      cases upserted with
      | updated _ older =>
          have extended := growing.extending snapshot event snapshotIn eventIn sameEvent
            (by rw [snapshotVersion, ← version]; exact older)
          refine ⟨event, eventIn, rfl, version.symm, ?_, fun _ listed => Or.inr listed,
            fun _ listed => listed⟩
          intro id member
          exact extended (inSnapshot id ((members id).mp member))
      | kept _ current =>
          have contained := growing.subset eventIn snapshotIn sameEvent.symm
            (by rw [snapshotVersion, ← version]; exact current)
          refine ⟨snapshot, snapshotIn, sameEvent, snapshotVersion, ?_, ?_, ?_⟩
          · intro id member
            exact inSnapshot id ((members id).mp member)
          · intro id listed
            rcases covered id listed with member | pending
            · exact Or.inl ((members id).mpr member)
            · cases pending
          · intro id listed
            exact contained listed

omit growing in
/-- Inserting one pending mapping, or finding it, leaves the rest pending. -/
theorem AgreeUpTo.mapped {before after : EventTables} {eventId id : UUID}
    {rest : List UUID} (agree : AgreeUpTo family before eventId (id :: rest))
    (sameRows : after.events eventId = before.events eventId)
    (members : ∀ other, Member after eventId other ↔
      Member before eventId other ∨ (other = id ∧ (before.events eventId).isSome)) :
    AgreeUpTo family after eventId rest := by
  refine ⟨?_, ?_⟩
  · intro other member
    rw [sameRows]
    rcases (members other).mp member with old | ⟨-, present⟩
    · exact agree.1 other old
    · exact present
  · intro row stored
    rw [sameRows] at stored
    obtain ⟨snapshot, snapshotIn, sameEvent, version, inSnapshot, covered, pendingIn⟩ :=
      agree.2 row stored
    refine ⟨snapshot, snapshotIn, sameEvent, version, ?_, ?_, ?_⟩
    · intro other member
      rcases (members other).mp member with old | ⟨rfl, -⟩
      · exact inSnapshot other old
      · exact pendingIn other List.mem_cons_self
    · intro other listed
      rcases covered other listed with old | pending
      · exact Or.inl ((members other).mpr (Or.inl old))
      · rcases List.mem_cons.mp pending with rfl | pending
        · exact Or.inl ((members other).mpr (Or.inr ⟨rfl, by simp [stored]⟩))
        · exact Or.inr pending
    · intro other pending
      exact pendingIn other (List.mem_cons_of_mem _ pending)

omit growing in
theorem AgreeUpTo.congr {before after : EventTables} {eventId : UUID} {pending : List UUID}
    (agree : AgreeUpTo family before eventId pending)
    (sameRows : after.events eventId = before.events eventId)
    (members : ∀ id, Member after eventId id ↔ Member before eventId id) :
    AgreeUpTo family after eventId pending := by
  refine ⟨?_, ?_⟩
  · intro id member
    rw [sameRows]
    exact agree.1 id ((members id).mp member)
  · intro row stored
    rw [sameRows] at stored
    obtain ⟨snapshot, snapshotIn, sameEvent, version, inSnapshot, covered, pendingIn⟩ :=
      agree.2 row stored
    refine ⟨snapshot, snapshotIn, sameEvent, version, ?_, ?_, pendingIn⟩
    · intro id member
      exact inSnapshot id ((members id).mp member)
    · intro id listed
      rcases covered id listed with member | waiting
      · exact Or.inl ((members id).mpr member)
      · exact Or.inr waiting

omit growing in
/-- With nothing pending the members are exactly the snapshot's. -/
theorem AgreeUpTo.exact {tables : EventTables} {eventId : UUID}
    (agree : AgreeUpTo family tables eventId []) {row : EventRow}
    (stored : tables.events eventId = some row) :
    ∃ snapshot, family snapshot ∧ snapshot.eventId = eventId ∧
      snapshot.aggregationUpdatedAt = row.aggregationUpdatedAt ∧
      ∀ id, Member tables eventId id ↔ id ∈ snapshot.entityEventIds := by
  obtain ⟨snapshot, snapshotIn, sameEvent, version, inSnapshot, covered, -⟩ :=
    agree.2 row stored
  refine ⟨snapshot, snapshotIn, sameEvent, version, ?_⟩
  intro id
  refine ⟨inSnapshot id, ?_⟩
  intro listed
  rcases covered id listed with member | waiting
  · exact member
  · cases waiting

end

end WealthFinder.Pipeline
