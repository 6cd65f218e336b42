import Mathlib.Data.Rat.Floor
import WealthFinder.Pipeline.Models

/-!
# The sliding window

`merge_or_create` and its companions.  Hours are exact rationals where the
source divides floats.
-/

set_option autoImplicit false

namespace WealthFinder.Pipeline

structure AggregationConfig where
  maxConcurrent : Nat
  dbFlushIntervalS : Int
  maxRetry : Int
  slidingWindowHours : Int
  eventMaxTimespanHours : Int

def getHours (delta : Timestamp) : ℚ := delta / 3600000000

/-- Whether the EntityEvent falls inside the window and the maximum timespan of
the active Event. -/
def mergesInto (config : AggregationConfig) (active : ActiveEvent)
    (publishedAt : Timestamp) : Bool :=
  let gapHours := getHours |publishedAt - active.lastSeenAt|
  let spanHours := getHours
    (max publishedAt active.lastSeenAt - min publishedAt active.firstSeenAt)
  let remainingLifespanHours := config.eventMaxTimespanHours - spanHours
  decide (gapHours ≤ config.slidingWindowHours) && decide (0 < remainingLifespanHours)

def extendEvent (active : ActiveEvent) (entityEvent : EntityEvent)
    (now : Timestamp) : ActiveEvent where
  eventId := active.eventId
  group := active.group
  firstSeenAt := min active.firstSeenAt entityEvent.getPublishedAt
  lastSeenAt := max active.lastSeenAt entityEvent.getPublishedAt
  eventTypeSecondary := none
  sourceList := none
  aggregationUpdatedAt := now
  entityEventIds := active.entityEventIds ++ [entityEvent.entityEventId]
  isActiveEvent := by simp
  unset := ⟨rfl, rfl⟩

def createEvent (entityEvent : EntityEvent) (now : Timestamp) (eventId : UUID) :
    ActiveEvent where
  eventId := eventId
  group := entityEvent.groupKey
  firstSeenAt := entityEvent.getPublishedAt
  lastSeenAt := entityEvent.getPublishedAt
  eventTypeSecondary := none
  sourceList := none
  aggregationUpdatedAt := now
  entityEventIds := [entityEvent.entityEventId]
  isActiveEvent := by simp
  unset := ⟨rfl, rfl⟩

/-- `now` and `eventId` are what `datetime.now` and `uuid4` return. -/
def mergeOrCreate (config : AggregationConfig) (active : Option ActiveEvent)
    (entityEvent : EntityEvent) (now : Timestamp) (eventId : UUID) : ActiveEvent :=
  match active with
  | some current =>
      if mergesInto config current entityEvent.getPublishedAt then
        extendEvent current entityEvent now
      else createEvent entityEvent now eventId
  | none => createEvent entityEvent now eventId

def isLate (config : AggregationConfig) (active : ActiveEvent)
    (entityEvent : EntityEvent) : Bool :=
  decide (config.slidingWindowHours <
    getHours (active.lastSeenAt - entityEvent.getPublishedAt))

/-- In seconds.  The source truncates a product of floats, which can fall one second short of
this: a span of 72001 s with the defaults gives 14998 there, and 14999 here. -/
def ttlFor (config : AggregationConfig) (active : ActiveEvent) : Int :=
  let spanHours := getHours (active.lastSeenAt - active.firstSeenAt)
  let remainingLifespanHours := config.eventMaxTimespanHours - spanHours
  let hours : ℚ := min (config.slidingWindowHours : ℚ) remainingLifespanHours * 3600
  let graceS := 2 * config.dbFlushIntervalS
  (if 0 ≤ hours then ⌊hours⌋ else ⌈hours⌉) + graceS

theorem mergeOrCreate_cases (config : AggregationConfig) (active : Option ActiveEvent)
    (entityEvent : EntityEvent) (now : Timestamp) (eventId : UUID) :
    (∃ current, active = some current ∧
      mergesInto config current entityEvent.getPublishedAt = true ∧
      mergeOrCreate config active entityEvent now eventId =
        extendEvent current entityEvent now) ∨
    mergeOrCreate config active entityEvent now eventId =
      createEvent entityEvent now eventId := by
  cases active with
  | none => exact Or.inr rfl
  | some current =>
      by_cases merges : mergesInto config current entityEvent.getPublishedAt = true
      · exact Or.inl ⟨current, rfl, merges, by simp [mergeOrCreate, merges]⟩
      · exact Or.inr (by simp [mergeOrCreate, merges])

/-! ## In microseconds -/

theorem getHours_le (delta : Timestamp) (hours : Int) :
    getHours delta ≤ (hours : ℚ) ↔ delta ≤ hours * 3600000000 := by
  unfold getHours
  rw [div_le_iff₀ (by norm_num)]
  exact_mod_cast Iff.rfl

theorem getHours_lt (delta : Timestamp) (hours : Int) :
    getHours delta < (hours : ℚ) ↔ delta < hours * 3600000000 := by
  unfold getHours
  rw [div_lt_iff₀ (by norm_num)]
  exact_mod_cast Iff.rfl

theorem mergesInto_iff (config : AggregationConfig) (active : ActiveEvent)
    (publishedAt : Timestamp) :
    mergesInto config active publishedAt = true ↔
      |publishedAt - active.lastSeenAt| ≤ config.slidingWindowHours * 3600000000 ∧
      max publishedAt active.lastSeenAt - min publishedAt active.firstSeenAt <
        config.eventMaxTimespanHours * 3600000000 := by
  simp only [mergesInto, Bool.and_eq_true, decide_eq_true_eq, sub_pos, getHours_le,
    getHours_lt]

theorem isLate_iff (config : AggregationConfig) (active : ActiveEvent)
    (entityEvent : EntityEvent) :
    isLate config active entityEvent = true ↔
      config.slidingWindowHours * 3600000000 <
        active.lastSeenAt - entityEvent.getPublishedAt := by
  simp only [isLate, decide_eq_true_eq, ← not_le, getHours_le]

theorem not_isLate_iff (config : AggregationConfig) (active : ActiveEvent)
    (entityEvent : EntityEvent) :
    isLate config active entityEvent = false ↔
      active.lastSeenAt - entityEvent.getPublishedAt ≤
        config.slidingWindowHours * 3600000000 := by
  rw [← Bool.not_eq_true, isLate_iff, not_lt]

/-- The grace period outlives two flushes even at the maximum timespan. -/
theorem grace_le_ttlFor {config : AggregationConfig} {active : ActiveEvent}
    (window : 0 < config.slidingWindowHours)
    (span : getHours (active.lastSeenAt - active.firstSeenAt) <
      (config.eventMaxTimespanHours : ℚ)) :
    2 * config.dbFlushIntervalS ≤ ttlFor config active := by
  have windowLeft : (0 : ℚ) ≤ config.slidingWindowHours := by exact_mod_cast window.le
  have lifespanLeft := (sub_pos.mpr span).le
  have left : (0 : ℚ) ≤ min (config.slidingWindowHours : ℚ)
      (config.eventMaxTimespanHours - getHours (active.lastSeenAt - active.firstSeenAt)) *
        3600 :=
    mul_nonneg (le_min windowLeft lifespanLeft) (by norm_num)
  simp only [ttlFor]
  rw [if_pos left]
  have seconds := Int.floor_nonneg.mpr left
  omega

end WealthFinder.Pipeline
