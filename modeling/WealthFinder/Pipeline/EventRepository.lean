import Mathlib.Data.List.Dedup
import Mathlib.Data.List.Sort
import Mathlib.Logic.Function.Basic
import WealthFinder.Pipeline.Models

/-!
# The `events` and `event_entity_map` tables

The statements of `EventRepository` and `persist_events` as one transaction.  A
statement that violates a constraint fails, and with it the transaction.
-/

set_option autoImplicit false

namespace WealthFinder.Pipeline

/-- The order in which a query without ORDER BY meets the rows it selects. -/
structure RowOrder (Row : Type) where
  order : List Row → List Row
  perm : ∀ rows, (order rows).Perm rows

def RowOrder.stored (Row : Type) : RowOrder Row := ⟨id, fun rows => List.Perm.refl rows⟩

abbrev EntityEvents := UUID → Option EntityEvent

/-- `entityMap` is keyed by its unique column. -/
structure EventTables where
  events : UUID → Option EventRow
  entityMap : UUID → Option EventEntityMap

def EventTables.empty : EventTables := ⟨fun _ => none, fun _ => none⟩

/-! ## The derived fields -/

structure SecondaryCount where
  eventType : EventTypeEnum
  frequency : Nat
  latest : Timestamp
  deriving DecidableEq, Repr

/-- The group of one secondary type, `none` when no row has it. -/
def countSecondary (rows : List EntityEvent) (eventType : EventTypeEnum) :
    Option SecondaryCount :=
  let reports := rows.filter fun row => row.eventTypeSecondary == some eventType
  (reports.map EntityEvent.getPublishedAt).max?.map fun latest =>
    ⟨eventType, reports.length, latest⟩

/-- `frequency DESC, latest DESC, event_type`. -/
def SecondaryCount.before (first second : SecondaryCount) : Bool :=
  decide (second.frequency < first.frequency) ||
    (decide (second.frequency = first.frequency) &&
      (decide (second.latest < first.latest) ||
        (decide (second.latest = first.latest) &&
          decide (first.eventType.rank ≤ second.eventType.rank))))

def selectSecondary (rows : List EntityEvent) : List EventTypeEnum :=
  (((EventTypeEnum.all.filterMap (countSecondary rows)).insertionSort
    fun first second => first.before second = true).take 2).map SecondaryCount.eventType

/-- DISTINCT ON: the first row of each key. -/
def distinctOn {Row Key : Type} [DecidableEq Key] (key : Row → Key) : List Row → List Row
  | [] => []
  | row :: rest => row :: (distinctOn key rest).filter fun other => key other ≠ key row

/-- `source_name, COALESCE(published_at, created_at) DESC`; ties keep the order
in which the rows were met. -/
def sourceBefore (first second : EntityEvent) : Bool :=
  decide (first.sourceName < second.sourceName) ||
    (decide (first.sourceName = second.sourceName) &&
      decide (second.getPublishedAt ≤ first.getPublishedAt))

/-- `jsonb_agg` over no row is NULL. -/
def selectSources (rows : List EntityEvent) : Option (List EntitySource) :=
  match distinctOn EntityEvent.sourceName
      (rows.insertionSort fun first second => sourceBefore first second = true) with
  | [] => none
  | sources => some (sources.map fun row => ⟨row.sourceName, row.sourceUrl, row.getPublishedAt⟩)

/-- The `entity_events` rows matched by `ANY($10)`. -/
def constituents (order : RowOrder EntityEvent) (entityEvents : EntityEvents)
    (entityEventIds : List UUID) : List EntityEvent :=
  order.order (entityEventIds.dedup.filterMap entityEvents)

/-! ## The statements -/

/-- The row that `_UPSERT_EVENT_SQL` proposes for insertion.  `source_list` is
NOT NULL. -/
def excludedRow (order : RowOrder EntityEvent) (entityEvents : EntityEvents)
    (now : Timestamp) (event : Event) : Option EventRow :=
  let rows := constituents order entityEvents event.entityEventIds
  (event.sourceList <|> selectSources rows).map fun sourceList =>
    { eventId := event.eventId
      group := event.group
      firstSeenAt := event.firstSeenAt
      lastSeenAt := event.lastSeenAt
      eventTypeSecondary := event.eventTypeSecondary.getD (selectSecondary rows)
      sourceList := sourceList
      aggregationUpdatedAt := event.aggregationUpdatedAt
      publishedAggregationUpdatedAt := none
      updatedAt := now
      createdAt := now }

/-- DO UPDATE SET. -/
def overwriteRow (row excluded : EventRow) : EventRow :=
  { row with
    firstSeenAt := excluded.firstSeenAt
    lastSeenAt := excluded.lastSeenAt
    aggregationUpdatedAt := excluded.aggregationUpdatedAt
    eventTypeSecondary := excluded.eventTypeSecondary
    sourceList := excluded.sourceList
    updatedAt := excluded.updatedAt }

/-- `_UPSERT_EVENT_SQL`, with the row it returns. -/
def upsertEvent (order : RowOrder EntityEvent) (entityEvents : EntityEvents)
    (now : Timestamp) (events : UUID → Option EventRow) (event : Event) :
    Option (Option EventRow × (UUID → Option EventRow)) :=
  (excludedRow order entityEvents now event).map fun excluded =>
    match events event.eventId with
    | none => (some excluded, Function.update events event.eventId (some excluded))
    | some row =>
        if row.aggregationUpdatedAt < excluded.aggregationUpdatedAt then
          let updated := overwriteRow row excluded
          (some updated, Function.update events event.eventId (some updated))
        else (none, events)

/-- `_INSERT_EVENT_ENTITY_MAP_SQL`, with both foreign keys. -/
def insertMapping (entityEvents : EntityEvents) (events : UUID → Option EventRow)
    (entityMap : UUID → Option EventEntityMap) (mapping : EventEntityMap) :
    Option (UUID → Option EventEntityMap) :=
  if (entityMap mapping.entityEventId).isSome then some entityMap
  else if (events mapping.eventId).isSome ∧ (entityEvents mapping.entityEventId).isSome then
    some (Function.update entityMap mapping.entityEventId (some mapping))
  else none

def insertMappings (entityEvents : EntityEvents) (events : UUID → Option EventRow)
    (eventId : UUID) (createdAt : Timestamp) :
    (UUID → Option EventEntityMap) → List UUID → Option (UUID → Option EventEntityMap)
  | entityMap, [] => some entityMap
  | entityMap, entityEventId :: rest =>
      (insertMapping entityEvents events entityMap ⟨eventId, entityEventId, createdAt⟩).bind
        fun inserted => insertMappings entityEvents events eventId createdAt inserted rest

/-- What `persist_events` reads once: the clock and the server's choices. -/
structure PersistEnv where
  order : RowOrder EntityEvent
  now : Timestamp
  createdAt : Timestamp

/-- The loop body of `persist_events`. -/
def persistEvent (env : PersistEnv) (entityEvents : EntityEvents) (tables : EventTables)
    (event : Event) : Option (Option EventRow × EventTables) :=
  (upsertEvent env.order entityEvents env.now tables.events event).bind
    fun (row, events) =>
      (insertMappings entityEvents events event.eventId env.createdAt tables.entityMap
        event.entityEventIds).map fun entityMap => (row, ⟨events, entityMap⟩)

/-- `persist_events` with the rows it returns; `none` when a statement fails. -/
def persistEvents (env : PersistEnv) (entityEvents : EntityEvents) :
    EventTables → List Event → Option (List EventRow × EventTables)
  | tables, [] => some ([], tables)
  | tables, event :: rest =>
      (persistEvent env entityEvents tables event).bind fun (row, after) =>
        (persistEvents env entityEvents after rest).map fun (written, final) =>
          (row.toList ++ written, final)

/-- Whether the current merge state has not been marked published. -/
def EventRow.unpublished (row : EventRow) : Bool :=
  match row.publishedAggregationUpdatedAt with
  | none => true
  | some marked => decide (marked < row.aggregationUpdatedAt)

def fetchUnpublishedEvents (order : RowOrder EventRow) (events : UUID → Option EventRow)
    (eventIds : List UUID) : List EventRow :=
  order.order ((eventIds.dedup.filterMap events).filter EventRow.unpublished)

/-- `_MARK_PUBLISHED_SQL` on one row. -/
def EventRow.mark (row : EventRow) (version : Timestamp) : EventRow :=
  match row.publishedAggregationUpdatedAt with
  | none => { row with publishedAggregationUpdatedAt := some version }
  | some marked =>
      if marked < version then { row with publishedAggregationUpdatedAt := some version }
      else row

def markPublished (events : UUID → Option EventRow) (eventId : UUID)
    (version : Timestamp) : UUID → Option EventRow :=
  Function.update events eventId ((events eventId).map (·.mark version))

def fetchMappedEventId (entityMap : UUID → Option EventEntityMap)
    (entityEventId : UUID) : Option UUID :=
  (entityMap entityEventId).map EventEntityMap.eventId

end WealthFinder.Pipeline
