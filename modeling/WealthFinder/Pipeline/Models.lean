import Mathlib.Algebra.Order.Ring.Rat

/-!
# Entity events and Events

The rows and records that the aggregation and scoring layers exchange.  Times
are microseconds since the epoch.  Columns and fields that no modelled function
reads are left out.
-/

set_option autoImplicit false

namespace WealthFinder.Pipeline

abbrev UUID := Nat
abbrev Timestamp := Int

inductive EventTypeEnum where
  | earnings
  | buyback
  | ma
  | regulatory
  | managementChange
  | analystRating
  | dividend
  | generalAnnouncement
  deriving DecidableEq, Repr

namespace EventTypeEnum

def all : List EventTypeEnum :=
  [.earnings, .buyback, .ma, .regulatory, .managementChange, .analystRating,
    .dividend, .generalAnnouncement]

theorem mem_all (eventType : EventTypeEnum) : eventType ∈ all := by
  cases eventType <;> simp [all]

/-- The member's place in the alphabetical order of the stored names. -/
def rank : EventTypeEnum → Nat
  | .analystRating => 0
  | .buyback => 1
  | .dividend => 2
  | .earnings => 3
  | .generalAnnouncement => 4
  | .ma => 5
  | .managementChange => 6
  | .regulatory => 7

end EventTypeEnum

inductive SentimentEnum where
  | positive
  | neutral
  | negative
  deriving DecidableEq, Repr

/-- The group an EntityEvent merges in. -/
structure GroupKey where
  exchange : String
  stockCode : String
  eventTypePrimary : EventTypeEnum
  deriving DecidableEq, Repr

/-- An `entity_events` row.  `sourceId` is the article's `cleaned_id`. -/
structure EntityEvent where
  entityEventId : UUID
  sourceId : UUID
  sourceUrl : String
  sourceName : String
  publishedAt : Option Timestamp
  exchange : String
  stockCode : String
  eventTypePrimary : EventTypeEnum
  eventTypeSecondary : Option EventTypeEnum
  sentimentLabel : SentimentEnum
  sentimentScore : ℚ
  createdAt : Timestamp
  deriving DecidableEq, Repr

namespace EntityEvent

/-- `COALESCE(published_at, created_at)` in the statements. -/
def getPublishedAt (entityEvent : EntityEvent) : Timestamp :=
  entityEvent.publishedAt.getD entityEvent.createdAt

def groupKey (entityEvent : EntityEvent) : GroupKey :=
  ⟨entityEvent.exchange, entityEvent.stockCode, entityEvent.eventTypePrimary⟩

end EntityEvent

structure EntitySource where
  sourceName : String
  url : String
  publishedAt : Timestamp
  deriving DecidableEq, Repr

/-- An Event with its merge state, as `persist_events` receives it. -/
structure Event where
  eventId : UUID
  group : GroupKey
  firstSeenAt : Timestamp
  lastSeenAt : Timestamp
  eventTypeSecondary : Option (List EventTypeEnum)
  sourceList : Option (List EntitySource)
  aggregationUpdatedAt : Timestamp
  entityEventIds : List UUID
  deriving DecidableEq, Repr

/-- A group's active Event: it has constituents, and its derived fields are not
set before it is persisted. -/
structure ActiveEvent extends Event where
  isActiveEvent : entityEventIds ≠ []
  unset : eventTypeSecondary = none ∧ sourceList = none
  deriving DecidableEq

structure EventRow where
  eventId : UUID
  group : GroupKey
  firstSeenAt : Timestamp
  lastSeenAt : Timestamp
  eventTypeSecondary : List EventTypeEnum
  sourceList : List EntitySource
  aggregationUpdatedAt : Timestamp
  publishedAggregationUpdatedAt : Option Timestamp
  updatedAt : Timestamp
  createdAt : Timestamp
  deriving DecidableEq, Repr

structure EventEntityMap where
  eventId : UUID
  entityEventId : UUID
  createdAt : Timestamp
  deriving DecidableEq, Repr

/-! ## Concrete values for runs -/

/-- Reported `hours` after the epoch. -/
def sampleEntityEvent (id : UUID) (hours : Timestamp) : EntityEvent where
  entityEventId := id
  sourceId := id
  sourceUrl := "https://example.com/article"
  sourceName := "HKEX"
  publishedAt := some (hours * 3600000000)
  exchange := "HKEX"
  stockCode := "00700"
  eventTypePrimary := .earnings
  eventTypeSecondary := none
  sentimentLabel := .positive
  sentimentScore := 1
  createdAt := hours * 3600000000

def sampleGroup : GroupKey := ⟨"HKEX", "00700", .earnings⟩

end WealthFinder.Pipeline
