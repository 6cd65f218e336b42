import WealthFinder.Pipeline.PersistTransactions
import WealthFinder.Pipeline.RuleScore
import WealthFinder.Pipeline.StreamClient

/-!
# Scoring passes

`score_event` and `persist_score_if_not_stale` beside interleaved `persist_events`
transactions.  A pass suspends at each statement and at its publish, and each
statement sees the committed tables.
-/

set_option autoImplicit false

namespace WealthFinder.Pipeline

structure EventScore extends ScoreFields where
  scoreId : UUID
  eventId : UUID
  scoredAt : Timestamp
  scoredAggregationUpdatedAt : Timestamp
  updatedAt : Timestamp
  createdAt : Timestamp
  deriving DecidableEq, Repr

/-! ## The statements -/

/-- The row that `_UPSERT_EVENT_SCORE_SQL` inserts. -/
def insertedScore (score : EventScore) (expected now : Timestamp) : EventScore :=
  { score with scoredAggregationUpdatedAt := expected, updatedAt := now, createdAt := now }

/-- DO UPDATE SET. -/
def overwriteScore (row score : EventScore) (expected now : Timestamp) : EventScore :=
  { row with
    toScoreFields := score.toScoreFields
    scoredAt := score.scoredAt
    scoredAggregationUpdatedAt := expected
    updatedAt := now }

/-- `_UPSERT_EVENT_SCORE_SQL`, with the row it returns; `none` when the statement
fails, as with a `score_id` that is taken. -/
def upsertEventScore (events : UUID → Option EventRow) (scores : List EventScore)
    (score : EventScore) (expected now : Timestamp) :
    Option (Option EventScore × List EventScore) :=
  if (events score.eventId).any fun event =>
      decide (event.aggregationUpdatedAt = expected) then
    match scores.find? fun row => row.eventId = score.eventId with
    | some row =>
        let updated := overwriteScore row score expected now
        some (some updated,
          scores.map fun other => if other.eventId = score.eventId then updated else other)
    | none =>
        if scores.any fun row => row.scoreId = score.scoreId then none
        else
          let inserted := insertedScore score expected now
          some (some inserted, scores ++ [inserted])
  else some (none, scores)

/-! ## The state -/

/-- Where a pass of `score_event` is suspended. -/
inductive ScoreStage where
  | fetchEvent
  | fetchEntityEvents (event : EventRow)
  | persistScore (score : EventScore) (expected : Timestamp)
  | publish
  deriving DecidableEq, Repr

structure ScorePass where
  eventId : UUID
  stage : ScoreStage
  deriving DecidableEq, Repr

/-- `stored` lists the ids of the `entity_events` rows.  `scored` are the messages of
`stream:event_scored` and `wrote` the writes to `event_scores`, each with the number of
its pass, newest first. -/
structure ScoringState where
  database : TransactionState
  stored : List UUID
  scores : List EventScore
  passes : Nat → Option ScorePass
  nextPass : Nat
  scored : List (Nat × UUID)
  wrote : List (Nat × UUID)

namespace ScoringState

def initial : ScoringState where
  database := TransactionState.initial
  stored := []
  scores := []
  passes := fun _ => none
  nextPass := 0
  scored := []
  wrote := []

variable (state : ScoringState)

def setPass (number : Nat) (pass : ScorePass) : ScoringState :=
  { state with passes := Function.update state.passes number (some pass) }

def endPass (number : Nat) : ScoringState :=
  { state with passes := Function.update state.passes number none }

/-- The committed constituents of an Event, in the order in which they were stored. -/
def constituentsOf (eventId : UUID) : List EntityEvent :=
  (state.stored.filter fun id =>
    ((state.database.tables.entityMap id).map EventEntityMap.eventId) = some eventId).filterMap
      state.database.entityEvents

end ScoringState

def fetchEntityEventsForEvent (order : RowOrder EntityEvent) (state : ScoringState)
    (eventId : UUID) : List EntityEvent :=
  order.order (state.constituentsOf eventId)

/-! ## The passes -/

/-- What an await gives back, and what the pass takes from its environment.  `now` is
the time of the statement. -/
structure ScoreReply where
  answer : Answer
  order : RowOrder EntityEvent
  scoreId : UUID
  scoredAt : Timestamp
  now : Timestamp

def buildScore (fields : ScoreFields) (eventId : UUID) (expected : Timestamp)
    (reply : ScoreReply) : EventScore :=
  { toScoreFields := fields
    scoreId := reply.scoreId
    eventId := eventId
    scoredAt := reply.scoredAt
    scoredAggregationUpdatedAt := expected
    updatedAt := reply.scoredAt
    createdAt := reply.scoredAt }

/-- The upsert, which is repeated while it fails transiently. -/
def resumePersistScore (state : ScoringState) (number : Nat) (pass : ScorePass)
    (score : EventScore) (expected : Timestamp) (reply : ScoreReply) : ScoringState :=
  match upsertEventScore state.database.tables.events state.scores score expected reply.now with
  | none => state.endPass number
  | some (returned, scores) =>
      let written := { state with
        scores := scores
        wrote := if returned.isSome then (number, pass.eventId) :: state.wrote
          else state.wrote }
      match reply.answer with
      | .done =>
          if returned.isSome then written.setPass number ⟨pass.eventId, .publish⟩
          else written.endPass number
      | .unreachable applied => if applied then written else state
      | .failed applied => (if applied then written else state).endPass number

def resumePublishScore (state : ScoringState) (number : Nat) (pass : ScorePass)
    (answer : Answer) : ScoringState :=
  let published := { state with
    scored := if answer.applied then (number, pass.eventId) :: state.scored
      else state.scored }
  match answer with
  | .done => published.endPass number
  | .unreachable _ => published
  | .failed _ => published.endPass number

def resumePass (config : ScoringConfig) (state : ScoringState) (number : Nat)
    (pass : ScorePass) (reply : ScoreReply) : ScoringState :=
  match pass.stage with
  | .fetchEvent =>
      if reply.answer = .done then
        match state.database.tables.events pass.eventId with
        | none => state.endPass number
        | some event => state.setPass number ⟨pass.eventId, .fetchEntityEvents event⟩
      else state.endPass number
  | .fetchEntityEvents event =>
      if reply.answer = .done then
        let constituents := fetchEntityEventsForEvent reply.order state pass.eventId
        match computeScore config event constituents with
        | none => state.endPass number
        | some fields =>
            let expected := event.aggregationUpdatedAt
            state.setPass number ⟨pass.eventId,
              .persistScore (buildScore fields pass.eventId expected reply) expected⟩
      else state.endPass number
  | .persistScore score expected =>
      resumePersistScore state number pass score expected reply
  | .publish => resumePublishScore state number pass reply.answer

/-! ## The machine -/

inductive ScoringAction where
  /-- A statement of `persist_events`, or a new `entity_events` row. -/
  | database (action : TransactionAction)
  | startPass (eventId : UUID)
  | resumePass (number : Nat) (reply : ScoreReply)
  /-- The pass is cancelled. -/
  | cancelPass (number : Nat)

/-- The id that the action adds to `entity_events`. -/
def storedId : TransactionAction → Option UUID
  | .storeEntityEvent row => some row.entityEventId
  | .start _ _ _ | .execute _ | .fail _ | .commit _ => none

def scoringStep (config : ScoringConfig) (state : ScoringState) :
    ScoringAction → Option ScoringState
  | .database action =>
      (transactionStep state.database action).map fun database =>
        { state with database := database, stored := state.stored ++ (storedId action).toList }
  | .startPass eventId =>
      some { state.setPass state.nextPass ⟨eventId, .fetchEvent⟩ with
        nextPass := state.nextPass + 1 }
  | .resumePass number reply =>
      (state.passes number).map fun pass => resumePass config state number pass reply
  | .cancelPass number => (state.passes number).map fun _ => state.endPass number

def scoringMachine (config : ScoringConfig) : Machine ScoringState ScoringAction where
  init := fun state => state = ScoringState.initial
  step := scoringStep config

end WealthFinder.Pipeline
