import WealthFinder.ExpiringHashes
import WealthFinder.JsonStrings
import WealthFinder.Pipeline.PythonText

/-!
# The store of active Events

`EventAggregationStore` over the hashes of the Redis state client, and the map from
groups to Events that it is for.
-/

set_option autoImplicit false

namespace WealthFinder.Pipeline.EventAggregationStore

abbrev Redis := HashStore Text Text Text

structure EntitySource where
  sourceName : String
  url : String
  publishedAt : Datetime
  deriving DecidableEq

/-- An `Event`; `group` holds its exchange, stock code and primary type. -/
structure Event where
  eventId : Uuid
  group : GroupKey
  firstSeenAt : Datetime
  lastSeenAt : Datetime
  eventTypeSecondary : Option (List EventTypeEnum)
  sourceList : Option (List EntitySource)
  aggregationUpdatedAt : Option Datetime
  updatedAt : Option Datetime
  createdAt : Option Datetime
  entityEventIds : Option (List Uuid)
  deriving DecidableEq

def getKey (group : GroupKey) : Text :=
  "agg:event:".toList ++ (group.exchange.toList ++
    ':' :: (group.stockCode.toList ++ ':' :: group.eventTypePrimary.value))

/-! ## Fields -/

def getField (fields : List (Text × Text)) (name : String) : Except DecodeError Text :=
  match HashStore.getField fields name.toList with
  | some text => .ok text
  | none => .error .keyError

def decodeUuid (text : Text) : Except DecodeError Uuid := orValueError (uuidOfText text)

def decodeDatetime (text : Text) : Except DecodeError Datetime := orValueError (fromisoformat text)

def decode (group : GroupKey) (fields : List (Text × Text)) : Except DecodeError Event := do
  let eventId ← decodeUuid (← getField fields "event_id")
  let firstSeenAt ← decodeDatetime (← getField fields "first_seen_at")
  let lastSeenAt ← decodeDatetime (← getField fields "last_seen_at")
  let aggregationUpdatedAt ← decodeDatetime (← getField fields "aggregation_updated_at")
  let texts ← orValueError (loadsStrings (← getField fields "entity_event_ids"))
  let entityEventIds ← texts.mapM decodeUuid
  .ok {
    eventId := eventId
    group := group
    firstSeenAt := firstSeenAt
    lastSeenAt := lastSeenAt
    eventTypeSecondary := none
    sourceList := none
    aggregationUpdatedAt := some aggregationUpdatedAt
    updatedAt := none
    createdAt := none
    entityEventIds := some entityEventIds }

/-- The mapping that `upsert_active_event` sets. -/
def encode (activeEvent : Event) (aggregationUpdatedAt : Datetime) (entityEventIds : List Uuid) :
    List (Text × Text) :=
  [("event_id".toList, uuidText activeEvent.eventId),
    ("first_seen_at".toList, isoformat activeEvent.firstSeenAt),
    ("last_seen_at".toList, isoformat activeEvent.lastSeenAt),
    ("aggregation_updated_at".toList, isoformat aggregationUpdatedAt),
    ("entity_event_ids".toList, dumpsStrings (entityEventIds.map uuidText))]

/-! ## The operations -/

def hgetall (redis : Redis) (key : Text) : Option (List (Text × Text)) :=
  match redis.hgetall key with
  | [] => none
  | fields => some fields

def getActiveEvent (redis : Redis) (group : GroupKey) : Except DecodeError (Option Event) :=
  match hgetall redis (getKey group) with
  | none => .ok none
  | some fields => (decode group fields).map some

/-- `none` where an assertion fails. -/
def upsertActiveEvent (redis : Redis) (activeEvent : Event) (ttlS : Int) : Option Redis := do
  let aggregationUpdatedAt ← activeEvent.aggregationUpdatedAt
  let entityEventIds ← activeEvent.entityEventIds
  let key := getKey activeEvent.group
  let fields := encode activeEvent aggregationUpdatedAt entityEventIds
  some ((redis.hset key fields).expire key ttlS)

/-- `key.split(":")` as the group, with the type's member. -/
def groupOfKey (key : Text) : Except DecodeError GroupKey :=
  match key.splitOn ':' with
  | [_, _, exchange, stockCode, eventTypePrimary] => do
      let eventType ← EventTypeEnum.ofValue eventTypePrimary
      .ok ⟨String.ofList exchange, String.ofList stockCode, eventType⟩
  | _ => .error .valueError

/-- The loop of `scan_all`; the keys are read one after another, each in the state that
Redis has then. -/
def readAll (redisAt : Nat → Redis) : Nat → List Text → Except DecodeError (List Event)
  | _, [] => .ok []
  | turn, key :: keys =>
      match hgetall (redisAt turn) key with
      | none => readAll redisAt (turn + 1) keys  -- expired since the scan
      | some fields => do
          let group ← groupOfKey key
          let event ← decode group fields
          let others ← readAll redisAt (turn + 1) keys
          .ok (event :: others)

/-- `RedisStateClient.scan`, of what SCAN reports. -/
def scan (reported : List Text) : List Text := reported.eraseDups

def scanAll (redisAt : Nat → Redis) (reported : List Text) : Except DecodeError (List Event) :=
  readAll redisAt 0 (scan reported)

/-! ## Keys -/

/-- Neither name holds the separator. -/
def ColonFree (group : GroupKey) : Prop :=
  ':' ∉ group.exchange.toList ∧ ':' ∉ group.stockCode.toList

theorem value_colonFree (eventType : EventTypeEnum) : ':' ∉ eventType.value := by
  cases eventType <;> decide

def keyParts (group : GroupKey) : List Text :=
  ["agg".toList, "event".toList, group.exchange.toList, group.stockCode.toList,
    group.eventTypePrimary.value]

theorem getKey_eq (group : GroupKey) : getKey group = [':'].intercalate (keyParts group) := by
  have start : "agg:event:".toList = "agg".toList ++ [':'] ++ ("event".toList ++ [':']) := rfl
  unfold getKey keyParts
  rw [start, List.intercalate_cons_cons, List.intercalate_cons_cons, List.intercalate_cons_cons,
    List.intercalate_cons_cons, List.intercalate_singleton]
  simp only [List.append_assoc, List.cons_append, List.nil_append]

theorem splitOn_getKey {group : GroupKey} (colonFree : ColonFree group) :
    (getKey group).splitOn ':' = keyParts group := by
  rw [getKey_eq]
  refine List.splitOn_intercalate ':' ?_ (List.cons_ne_nil _ _)
  intro part among
  simp only [keyParts, List.mem_cons, List.not_mem_nil, or_false] at among
  rcases among with rfl | rfl | rfl | rfl | rfl
  · decide
  · decide
  · exact colonFree.1
  · exact colonFree.2
  · exact value_colonFree _

theorem groupOfKey_getKey {group : GroupKey} (colonFree : ColonFree group) :
    groupOfKey (getKey group) = .ok group := by
  rw [groupOfKey, splitOn_getKey colonFree]
  simp only [keyParts, EventTypeEnum.ofValue_value, String.ofList_toList]
  rfl

theorem count_getKey (group : GroupKey) :
    (getKey group).count ':' =
      4 + group.exchange.toList.count ':' + group.stockCode.toList.count ':' := by
  have none := List.count_eq_zero_of_not_mem (value_colonFree group.eventTypePrimary)
  have start : "agg:event:".toList.count ':' = 2 := rfl
  unfold getKey
  rw [List.count_append, start, List.count_append, List.count_cons_self, List.count_append,
    List.count_cons_self, none]
  omega

/-- The separators of a key say whether its group has any of its own. -/
theorem ColonFree.of_getKey_eq {group other : GroupKey} (colonFree : ColonFree group)
    (same : getKey group = getKey other) : ColonFree other := by
  have exchange := List.count_eq_zero_of_not_mem colonFree.1
  have stockCode := List.count_eq_zero_of_not_mem colonFree.2
  have counts := count_getKey other
  rw [← same, count_getKey, exchange, stockCode] at counts
  exact ⟨List.count_eq_zero.mp (by omega), List.count_eq_zero.mp (by omega)⟩

theorem getKey_injective {group other : GroupKey} (colonFree : ColonFree group)
    (same : getKey group = getKey other) : group = other := by
  have read := groupOfKey_getKey colonFree
  rw [same, groupOfKey_getKey (colonFree.of_getKey_eq same)] at read
  exact (Except.ok.inj read).symm

/-! ## Fields come back -/

/-- The Event without what `_decode` leaves unset. -/
def Event.kept (event : Event) : Event :=
  { event with
    eventTypeSecondary := none
    sourceList := none
    updatedAt := none
    createdAt := none }

theorem mapM_decodeUuid (ids : List Uuid) : (ids.map uuidText).mapM decodeUuid = .ok ids := by
  induction ids with
  | nil => rfl
  | cons id ids ih =>
      have first : decodeUuid (uuidText id) = .ok id := by
        rw [decodeUuid, uuidOfText_uuidText]
        rfl
      rw [List.map_cons, List.mapM_cons, first, ih]
      rfl

theorem nodup_encode (event : Event) (updatedAt : Datetime) (ids : List Uuid) :
    ((encode event updatedAt ids).map Prod.fst).Nodup := by
  simp only [encode, List.map_cons, List.map_nil]
  decide

theorem decode_setFields {event : Event} {updatedAt : Datetime} {ids : List Uuid}
    (updated : event.aggregationUpdatedAt = some updatedAt) (is : event.entityEventIds = some ids)
    (fields : List (Text × Text)) :
    decode event.group (HashStore.setFields fields (encode event updatedAt ids)) =
      .ok event.kept := by
  have read : ∀ name text, (name.toList, text) ∈ encode event updatedAt ids →
      getField (HashStore.setFields fields (encode event updatedAt ids)) name = .ok text := by
    intro name text among
    rw [getField, HashStore.getField_setFields (nodup_encode event updatedAt ids) among]
  have times : ∀ time, decodeDatetime (isoformat time) = .ok time := by
    intro time
    rw [decodeDatetime, fromisoformat_isoformat]
    rfl
  rw [decode, read "event_id" (uuidText event.eventId) (by simp [encode]),
    read "first_seen_at" (isoformat event.firstSeenAt) (by simp [encode]),
    read "last_seen_at" (isoformat event.lastSeenAt) (by simp [encode]),
    read "aggregation_updated_at" (isoformat updatedAt) (by simp [encode]),
    read "entity_event_ids" (dumpsStrings (ids.map uuidText)) (by simp [encode])]
  have id : decodeUuid (uuidText event.eventId) = .ok event.eventId := by
    rw [decodeUuid, uuidOfText_uuidText]
    rfl
  simp only [id, times, loadsStrings_dumpsStrings, orValueError, mapM_decodeUuid,
    bind, Except.bind]
  rw [Event.kept, updated, is]

end WealthFinder.Pipeline.EventAggregationStore
