import WealthFinder.Pipeline.EventRepository

/-!
# What persisting Events changes

`EventPersisted` says everything one turn of `persist_events` can do to the two
tables.  Facts about a whole call follow from it by `persistEvents_invariant`
and `persistEvents_reaches`.
-/

set_option autoImplicit false

namespace WealthFinder.Pipeline

/-- The EntityEvent is mapped to the Event. -/
def Member (tables : EventTables) (eventId entityEventId : UUID) : Prop :=
  ∃ mapping, tables.entityMap entityEventId = some mapping ∧ mapping.eventId = eventId

/-- The row of an Event after its upsert, by the row before. -/
inductive UpsertedRow (excluded : EventRow) : Option EventRow → EventRow → Prop where
  | inserted : UpsertedRow excluded none excluded
  | updated (row : EventRow)
      (older : row.aggregationUpdatedAt < excluded.aggregationUpdatedAt) :
      UpsertedRow excluded (some row) (overwriteRow row excluded)
  | kept (row : EventRow)
      (current : excluded.aggregationUpdatedAt ≤ row.aggregationUpdatedAt) :
      UpsertedRow excluded (some row) row

structure EventPersisted (env : PersistEnv) (entityEvents : EntityEvents) (event : Event)
    (before after : EventTables) : Prop where
  others : ∀ eventId, eventId ≠ event.eventId →
    after.events eventId = before.events eventId
  row : ∃ excluded row, excludedRow env.order entityEvents env.now event = some excluded ∧
    after.events event.eventId = some row ∧
    UpsertedRow excluded (before.events event.eventId) row
  kept : ∀ id mapping, before.entityMap id = some mapping →
    after.entityMap id = some mapping
  added : ∀ id mapping, after.entityMap id = some mapping →
    before.entityMap id = some mapping ∨
      (before.entityMap id = none ∧ id ∈ event.entityEventIds ∧
        mapping = ⟨event.eventId, id, env.createdAt⟩)
  covered : ∀ id ∈ event.entityEventIds, (after.entityMap id).isSome

/-! ## The upsert -/

/-- What the proposed row takes from the Event. -/
theorem excludedRow_fields {order : RowOrder EntityEvent} {entityEvents : EntityEvents}
    {now : Timestamp} {event : Event} {excluded : EventRow}
    (proposed : excludedRow order entityEvents now event = some excluded) :
    excluded.eventId = event.eventId ∧ excluded.group = event.group ∧
      excluded.firstSeenAt = event.firstSeenAt ∧ excluded.lastSeenAt = event.lastSeenAt ∧
      excluded.aggregationUpdatedAt = event.aggregationUpdatedAt ∧
      excluded.publishedAggregationUpdatedAt = none ∧ excluded.createdAt = now := by
  obtain ⟨sources, -, rfl⟩ := Option.map_eq_some_iff.mp proposed
  exact ⟨rfl, rfl, rfl, rfl, rfl, rfl, rfl⟩

theorem upsertEvent_upserted {order : RowOrder EntityEvent} {entityEvents : EntityEvents}
    {now : Timestamp} {events after : UUID → Option EventRow} {event : Event}
    {returned : Option EventRow}
    (ran : upsertEvent order entityEvents now events event = some (returned, after)) :
    (∀ eventId, eventId ≠ event.eventId → after eventId = events eventId) ∧
    ∃ excluded row, excludedRow order entityEvents now event = some excluded ∧
      after event.eventId = some row ∧
      UpsertedRow excluded (events event.eventId) row := by
  obtain ⟨excluded, proposed, result⟩ := Option.map_eq_some_iff.mp ran
  cases stored : events event.eventId with
  | none =>
      simp only [stored, Prod.mk.injEq] at result
      rw [← result.2]
      refine ⟨fun eventId other => by simp [other], excluded, excluded, proposed, by simp, ?_⟩
      exact UpsertedRow.inserted
  | some row =>
      by_cases older : row.aggregationUpdatedAt < excluded.aggregationUpdatedAt
      · simp only [stored, older, if_true, Prod.mk.injEq] at result
        rw [← result.2]
        refine ⟨fun eventId other => by simp [other], excluded, overwriteRow row excluded,
          proposed, by simp, ?_⟩
        exact UpsertedRow.updated row older
      · simp only [stored, older, if_false, Prod.mk.injEq] at result
        rw [← result.2]
        refine ⟨fun _ _ => rfl, excluded, row, proposed, stored, ?_⟩
        exact UpsertedRow.kept row (Int.not_lt.mp older)

/-- The row returned is the row written. -/
theorem upsertEvent_returned {order : RowOrder EntityEvent} {entityEvents : EntityEvents}
    {now : Timestamp} {events after : UUID → Option EventRow} {event : Event}
    {returned : Option EventRow}
    (ran : upsertEvent order entityEvents now events event = some (returned, after)) :
    (returned = none ∧ after = events) ∨
    ∃ row, returned = some row ∧
      after = Function.update events event.eventId (some row) := by
  obtain ⟨excluded, -, result⟩ := Option.map_eq_some_iff.mp ran
  split at result
  · cases result
    exact Or.inr ⟨excluded, rfl, rfl⟩
  · rename_i row _
    split at result
    · cases result
      exact Or.inr ⟨_, rfl, rfl⟩
    · cases result
      exact Or.inl ⟨rfl, rfl⟩

section Upserted
variable {excluded row : EventRow} {before : Option EventRow}

/-- A conflicting row keeps its identity, its creation time and its mark. -/
theorem UpsertedRow.of_some {old : EventRow} (upserted : UpsertedRow excluded (some old) row) :
    row.eventId = old.eventId ∧ row.group = old.group ∧ row.createdAt = old.createdAt ∧
      row.publishedAggregationUpdatedAt = old.publishedAggregationUpdatedAt ∧
      old.aggregationUpdatedAt ≤ row.aggregationUpdatedAt := by
  cases upserted with
  | updated _ older => exact ⟨rfl, rfl, rfl, rfl, Int.le_of_lt older⟩
  | kept _ current => exact ⟨rfl, rfl, rfl, rfl, Int.le_refl _⟩

theorem UpsertedRow.current (upserted : UpsertedRow excluded before row) :
    excluded.aggregationUpdatedAt ≤ row.aggregationUpdatedAt := by
  cases upserted with
  | inserted => exact Int.le_refl _
  | updated _ older => exact Int.le_refl _
  | kept _ current => exact current

/-- Either the row is the stored one, or it carries the proposed version. -/
theorem UpsertedRow.version (upserted : UpsertedRow excluded before row) :
    before = some row ∨ row.aggregationUpdatedAt = excluded.aggregationUpdatedAt := by
  cases upserted with
  | inserted => exact Or.inr rfl
  | updated _ older => exact Or.inr rfl
  | kept _ current => exact Or.inl rfl

end Upserted

/-! ## The row and the Event it was written from -/

/-- The row is the one the Event's upsert proposes, apart from what only the
database sets. -/
def WrittenFrom (entityEvents : EntityEvents) (event : Event) (row : EventRow) : Prop :=
  ∃ order now excluded, excludedRow order entityEvents now event = some excluded ∧
    row = { excluded with
      publishedAggregationUpdatedAt := row.publishedAggregationUpdatedAt
      updatedAt := row.updatedAt
      createdAt := row.createdAt }

theorem WrittenFrom.fields {entityEvents : EntityEvents} {event : Event} {row : EventRow}
    (written : WrittenFrom entityEvents event row) :
    row.eventId = event.eventId ∧ row.group = event.group ∧
      row.aggregationUpdatedAt = event.aggregationUpdatedAt := by
  obtain ⟨order, now, excluded, proposed, content⟩ := written
  obtain ⟨eventId, group, -, -, version, -⟩ := excludedRow_fields proposed
  rw [content]
  exact ⟨eventId, group, version⟩

theorem WrittenFrom.lastSeen {entityEvents : EntityEvents} {event : Event} {row : EventRow}
    (written : WrittenFrom entityEvents event row) : row.lastSeenAt = event.lastSeenAt := by
  obtain ⟨order, now, excluded, proposed, content⟩ := written
  obtain ⟨-, -, -, lastSeen, -⟩ := excludedRow_fields proposed
  rw [content]
  exact lastSeen

/-- Rows of EntityEvents that are not its constituents do not matter. -/
theorem WrittenFrom.congr {entityEvents later : EntityEvents} {event : Event}
    {row : EventRow} (written : WrittenFrom entityEvents event row)
    (same : ∀ id ∈ event.entityEventIds, later id = entityEvents id) :
    WrittenFrom later event row := by
  obtain ⟨order, now, excluded, proposed, content⟩ := written
  have rows : event.entityEventIds.dedup.filterMap later =
      event.entityEventIds.dedup.filterMap entityEvents :=
    List.filterMap_congr fun id member => same id (List.mem_dedup.mp member)
  refine ⟨order, now, excluded, ?_, content⟩
  rw [← proposed]
  unfold excludedRow constituents
  rw [rows]

theorem EventRow.mark_cases (row : EventRow) (version : Timestamp) :
    row.mark version = row ∨
      row.mark version = { row with publishedAggregationUpdatedAt := some version } := by
  unfold EventRow.mark
  split
  · exact Or.inr rfl
  · split
    · exact Or.inr rfl
    · exact Or.inl rfl

theorem EventRow.mark_spec (row : EventRow) (version : Timestamp) :
    (row.mark version).aggregationUpdatedAt = row.aggregationUpdatedAt ∧
    ∃ mark, (row.mark version).publishedAggregationUpdatedAt = some mark ∧ version ≤ mark ∧
      ∀ old, row.publishedAggregationUpdatedAt = some old → old ≤ mark := by
  unfold EventRow.mark
  split
  · rename_i unmarked
    exact ⟨rfl, version, rfl, Int.le_refl _, by simp [unmarked]⟩
  · rename_i marked was
    split
    · rename_i older
      refine ⟨rfl, version, rfl, Int.le_refl _, ?_⟩
      intro old is
      rw [was, Option.some.injEq] at is
      exact is ▸ Int.le_of_lt older
    · rename_i current
      refine ⟨rfl, marked, was, Int.not_lt.mp current, ?_⟩
      intro old is
      rw [was, Option.some.injEq] at is
      exact Int.le_of_eq is.symm

theorem WrittenFrom.mark {entityEvents : EntityEvents} {event : Event} {row : EventRow}
    (written : WrittenFrom entityEvents event row) (version : Timestamp) :
    WrittenFrom entityEvents event (row.mark version) := by
  obtain ⟨order, now, excluded, proposed, content⟩ := written
  refine ⟨order, now, excluded, proposed, ?_⟩
  unfold EventRow.mark
  split
  · rw [content]
  · split
    · rw [content]
    · exact content

/-- After its upsert a row is the stored one or is written from the Event. -/
theorem UpsertedRow.written {entityEvents : EntityEvents} {order : RowOrder EntityEvent}
    {now : Timestamp} {event : Event} {excluded row : EventRow} {before : Option EventRow}
    (proposed : excludedRow order entityEvents now event = some excluded)
    (upserted : UpsertedRow excluded before row)
    (identity : ∀ old, before = some old →
      old.eventId = event.eventId ∧ old.group = event.group) :
    before = some row ∨ WrittenFrom entityEvents event row := by
  obtain ⟨eventId, group, -⟩ := excludedRow_fields proposed
  cases upserted with
  | inserted => exact Or.inr ⟨order, now, excluded, proposed, rfl⟩
  | kept => exact Or.inl rfl
  | updated old older =>
      obtain ⟨sameId, sameGroup⟩ := identity old rfl
      refine Or.inr ⟨order, now, excluded, proposed, ?_⟩
      simp only [overwriteRow, EventRow.mk.injEq, and_true]
      exact ⟨sameId.trans eventId.symm, sameGroup.trans group.symm⟩

/-! ## The mappings -/

theorem insertMapping_cases {entityEvents : EntityEvents} {events : UUID → Option EventRow}
    {entityMap after : UUID → Option EventEntityMap} {mapping : EventEntityMap}
    (ran : insertMapping entityEvents events entityMap mapping = some after) :
    ((entityMap mapping.entityEventId).isSome ∧ after = entityMap) ∨
    (entityMap mapping.entityEventId = none ∧ (events mapping.eventId).isSome ∧
      (entityEvents mapping.entityEventId).isSome ∧
      after = Function.update entityMap mapping.entityEventId (some mapping)) := by
  unfold insertMapping at ran
  split at ran
  · rename_i present
    exact Or.inl ⟨present, (Option.some.inj ran).symm⟩
  · rename_i absent
    split at ran
    · rename_i referenced
      exact Or.inr ⟨by simpa using absent, referenced.1, referenced.2,
        (Option.some.inj ran).symm⟩
    · cases ran

/-- The membership part of `EventPersisted`, for the ids still to be inserted. -/
theorem insertMappings_spec {entityEvents : EntityEvents} {events : UUID → Option EventRow}
    {eventId : UUID} {createdAt : Timestamp} (ids : List UUID)
    {entityMap after : UUID → Option EventEntityMap}
    (ran : insertMappings entityEvents events eventId createdAt entityMap ids = some after) :
    (∀ id mapping, entityMap id = some mapping → after id = some mapping) ∧
    (∀ id mapping, after id = some mapping → entityMap id = some mapping ∨
      (entityMap id = none ∧ id ∈ ids ∧ mapping = ⟨eventId, id, createdAt⟩)) ∧
    (∀ id ∈ ids, (after id).isSome) := by
  induction ids generalizing entityMap with
  | nil =>
      cases ran
      exact ⟨fun _ _ h => h, fun _ _ h => Or.inl h, by simp⟩
  | cons head rest ih =>
      obtain ⟨inserted, first, ranRest⟩ := Option.bind_eq_some_iff.mp ran
      obtain ⟨restKept, restAdded, restCovered⟩ := ih ranRest
      rcases insertMapping_cases first with ⟨present, rfl⟩ | ⟨absent, -, -, rfl⟩
      · refine ⟨restKept, ?_, ?_⟩
        · intro id mapping found
          rcases restAdded id mapping found with old | ⟨missing, member, same⟩
          · exact Or.inl old
          · exact Or.inr ⟨missing, List.mem_cons_of_mem _ member, same⟩
        · intro id member
          rcases List.mem_cons.mp member with rfl | member
          · obtain ⟨mapping, found⟩ := Option.isSome_iff_exists.mp present
            exact Option.isSome_iff_exists.mpr ⟨mapping, restKept id mapping found⟩
          · exact restCovered id member
      · refine ⟨?_, ?_, ?_⟩
        · intro id mapping found
          have apart : id ≠ head := by
            intro same
            subst same
            simp [absent] at found
          exact restKept id mapping (by simpa [apart] using found)
        · intro id mapping found
          by_cases same : id = head
          · subst same
            rcases restAdded id mapping found with new | ⟨missing, -, -⟩
            · simp only [Function.update_self, Option.some.injEq] at new
              exact Or.inr ⟨absent, List.mem_cons_self, new.symm⟩
            · simp at missing
          · rcases restAdded id mapping found with old | ⟨missing, member, same'⟩
            · exact Or.inl (by simpa [same] using old)
            · exact Or.inr ⟨by simpa [same] using missing,
                List.mem_cons_of_mem _ member, same'⟩
        · intro id member
          rcases List.mem_cons.mp member with rfl | member
          · exact Option.isSome_iff_exists.mpr
              ⟨_, restKept id ⟨eventId, id, createdAt⟩ (by simp)⟩
          · exact restCovered id member

theorem persistEvent_persisted {env : PersistEnv} {entityEvents : EntityEvents}
    {before after : EventTables} {event : Event} {returned : Option EventRow}
    (ran : persistEvent env entityEvents before event = some (returned, after)) :
    EventPersisted env entityEvents event before after := by
  obtain ⟨⟨row, events⟩, upserted, mapped⟩ := Option.bind_eq_some_iff.mp ran
  obtain ⟨entityMap, inserted, result⟩ := Option.map_eq_some_iff.mp mapped
  cases result
  obtain ⟨others, stored⟩ := upsertEvent_upserted upserted
  obtain ⟨kept, added, covered⟩ := insertMappings_spec _ inserted
  exact ⟨others, stored, kept, added, covered⟩

/-! ## Whole calls -/

section Calls
variable {env : PersistEnv} {entityEvents : EntityEvents}

/-- What every persisted Event preserves, the call preserves. -/
theorem persistEvents_invariant {property : EventTables → Prop} (events : List Event)
    (each : ∀ event ∈ events, ∀ before after,
      EventPersisted env entityEvents event before after → property before → property after)
    {before after : EventTables} {written : List EventRow}
    (ran : persistEvents env entityEvents before events = some (written, after))
    (holds : property before) : property after := by
  induction events generalizing before written with
  | nil =>
      cases ran
      exact holds
  | cons event rest ih =>
      obtain ⟨⟨row, between⟩, first, mapped⟩ := Option.bind_eq_some_iff.mp ran
      obtain ⟨⟨rows, final⟩, ranRest, result⟩ := Option.map_eq_some_iff.mp mapped
      cases result
      apply ih (fun other member => each other (List.mem_cons_of_mem _ member)) ranRest
      exact each event List.mem_cons_self _ _ (persistEvent_persisted first) holds

/-- What persisting an Event establishes and no later turn undoes, holds at the
end of the call. -/
theorem persistEvents_reaches {property : EventTables → Prop} (events : List Event)
    (event : Event) (member : event ∈ events)
    (done : ∀ before after, EventPersisted env entityEvents event before after →
      property after)
    (stable : ∀ other ∈ events, ∀ before after,
      EventPersisted env entityEvents other before after → property before → property after)
    {before after : EventTables} {written : List EventRow}
    (ran : persistEvents env entityEvents before events = some (written, after)) :
    property after := by
  induction events generalizing before written with
  | nil => cases member
  | cons head rest ih =>
      obtain ⟨⟨row, between⟩, first, mapped⟩ := Option.bind_eq_some_iff.mp ran
      obtain ⟨⟨rows, final⟩, ranRest, result⟩ := Option.map_eq_some_iff.mp mapped
      cases result
      have stableRest : ∀ other ∈ rest, ∀ before after,
          EventPersisted env entityEvents other before after →
          property before → property after :=
        fun other member => stable other (List.mem_cons_of_mem _ member)
      rcases List.mem_cons.mp member with rfl | member
      · exact persistEvents_invariant rest stableRest ranRest
          (done _ _ (persistEvent_persisted first))
      · exact ih member stableRest ranRest

variable {before after : EventTables} {events : List Event} {written : List EventRow}

theorem persistEvents_kept
    (ran : persistEvents env entityEvents before events = some (written, after))
    {id : UUID} {mapping : EventEntityMap} (found : before.entityMap id = some mapping) :
    after.entityMap id = some mapping :=
  @persistEvents_invariant env entityEvents
    (fun tables => tables.entityMap id = some mapping) events
    (fun _ _ _ _ persisted => persisted.kept id mapping) _ _ _ ran found

theorem persistEvents_added
    (ran : persistEvents env entityEvents before events = some (written, after))
    {id : UUID} {mapping : EventEntityMap} (found : after.entityMap id = some mapping) :
    before.entityMap id = some mapping ∨ (before.entityMap id = none ∧
      ∃ event ∈ events, id ∈ event.entityEventIds ∧ mapping.eventId = event.eventId) := by
  have traced := @persistEvents_invariant env entityEvents
    (fun tables => (∀ other, before.entityMap id = some other →
        tables.entityMap id = some other) ∧
      ∀ other, tables.entityMap id = some other →
        before.entityMap id = some other ∨ (before.entityMap id = none ∧
          ∃ event ∈ events, id ∈ event.entityEventIds ∧ other.eventId = event.eventId))
    events ?_ before after written ran ⟨fun _ h => h, fun _ h => Or.inl h⟩
  · exact traced.2 mapping found
  · rintro event member between next persisted ⟨kept, explained⟩
    refine ⟨fun other stored => persisted.kept id other (kept other stored), ?_⟩
    intro other stored
    rcases persisted.added id other stored with old | ⟨missing, listed, rfl⟩
    · exact explained other old
    · have absent : before.entityMap id = none := by
        cases present : before.entityMap id with
        | none => rfl
        | some value =>
            rw [kept value present] at missing
            cases missing
      exact Or.inr ⟨absent, event, member, listed, rfl⟩

theorem persistEvents_member
    (ran : persistEvents env entityEvents before events = some (written, after))
    {eventId id : UUID} (member : Member before eventId id) : Member after eventId id := by
  obtain ⟨mapping, found, same⟩ := member
  exact ⟨mapping, persistEvents_kept ran found, same⟩

/-- A new member was listed by one of the persisted Events. -/
theorem persistEvents_new_member
    (ran : persistEvents env entityEvents before events = some (written, after))
    {eventId id : UUID} (member : Member after eventId id) :
    Member before eventId id ∨
      ∃ event ∈ events, event.eventId = eventId ∧ id ∈ event.entityEventIds := by
  obtain ⟨mapping, found, rfl⟩ := member
  rcases persistEvents_added ran found with old | ⟨-, event, eventIn, listed, same⟩
  · exact Or.inl ⟨mapping, old, rfl⟩
  · exact Or.inr ⟨event, eventIn, same.symm, listed⟩

theorem persistEvents_covered
    (ran : persistEvents env entityEvents before events = some (written, after))
    {event : Event} (member : event ∈ events) {id : UUID}
    (listed : id ∈ event.entityEventIds) : ∃ mapping, after.entityMap id = some mapping := by
  refine @persistEvents_reaches env entityEvents
    (fun tables => ∃ mapping, tables.entityMap id = some mapping) events event member
    ?_ ?_ before after written ran
  · intro _ _ persisted
    exact Option.isSome_iff_exists.mp (persisted.covered id listed)
  · rintro _ _ _ _ persisted ⟨mapping, found⟩
    exact ⟨mapping, persisted.kept id mapping found⟩

/-- A stored row stays, keeps its mark and creation time, and never loses a
newer version. -/
theorem persistEvents_row
    (ran : persistEvents env entityEvents before events = some (written, after))
    {eventId : UUID} {row : EventRow} (found : before.events eventId = some row) :
    ∃ later, after.events eventId = some later ∧ later.group = row.group ∧
      later.createdAt = row.createdAt ∧
      later.publishedAggregationUpdatedAt = row.publishedAggregationUpdatedAt ∧
      row.aggregationUpdatedAt ≤ later.aggregationUpdatedAt := by
  refine @persistEvents_invariant env entityEvents
    (fun tables => ∃ later, tables.events eventId = some later ∧ later.group = row.group ∧
      later.createdAt = row.createdAt ∧
      later.publishedAggregationUpdatedAt = row.publishedAggregationUpdatedAt ∧
      row.aggregationUpdatedAt ≤ later.aggregationUpdatedAt) events
    ?_ before after written ran ⟨row, found, rfl, rfl, rfl, Int.le_refl _⟩
  rintro event - between next persisted ⟨later, stored, group, created, marked, newer⟩
  by_cases same : eventId = event.eventId
  · subst same
    obtain ⟨excluded, latest, -, nextStored, upserted⟩ := persisted.row
    rw [stored] at upserted
    obtain ⟨-, sameGroup, sameCreated, sameMark, grown⟩ := upserted.of_some
    exact ⟨latest, nextStored, sameGroup.trans group, sameCreated.trans created,
      sameMark.trans marked, Int.le_trans newer grown⟩
  · exact ⟨later, (persisted.others eventId same).trans stored, group, created, marked, newer⟩

theorem persistEvents_current
    (ran : persistEvents env entityEvents before events = some (written, after))
    {event : Event} (member : event ∈ events) :
    ∃ row, after.events event.eventId = some row ∧
      event.aggregationUpdatedAt ≤ row.aggregationUpdatedAt := by
  refine @persistEvents_reaches env entityEvents
    (fun tables => ∃ row, tables.events event.eventId = some row ∧
      event.aggregationUpdatedAt ≤ row.aggregationUpdatedAt) events event member
    ?_ ?_ before after written ran
  · intro _ _ persisted
    obtain ⟨excluded, row, proposed, stored, upserted⟩ := persisted.row
    have version := (excludedRow_fields proposed).2.2.2.2.1
    exact ⟨row, stored, version ▸ upserted.current⟩
  · rintro other - _ _ persisted ⟨row, found, newer⟩
    by_cases same : event.eventId = other.eventId
    · rw [same] at found ⊢
      obtain ⟨excluded, latest, -, stored, upserted⟩ := persisted.row
      rw [found] at upserted
      exact ⟨latest, stored, Int.le_trans newer upserted.of_some.2.2.2.2⟩
    · exact ⟨row, (persisted.others _ same).trans found, newer⟩

end Calls

end WealthFinder.Pipeline
