import WealthFinder.StreamHolders
import WealthFinder.Pipeline.Scoring

/-!
# The scoring consumer

`ScoringConsumer` in front of `score_event`.  A consumer reads a batch, scores its
messages one after another, and acknowledges a message once its pass has returned.
There is no reclaim loop: a message that is read and not acknowledged is not read
again.
-/

set_option autoImplicit false

namespace WealthFinder.Pipeline

/-- `score_event` up to its first await. -/
def ScoringState.openPass (state : ScoringState) (eventId : UUID) : ScoringState :=
  { state.setPass state.nextPass ⟨eventId, .fetchEvent⟩ with nextPass := state.nextPass + 1 }

/-! ## How a pass comes back to its caller -/

inductive PassOutcome where
  | goesOn
  | returned
  | raised
  deriving DecidableEq, Repr

/-- Nothing written is a return, too. -/
def persistScoreOutcome (state : ScoringState) (score : EventScore) (expected : Timestamp)
    (reply : ScoreReply) : PassOutcome :=
  match upsertEventScore state.database.tables.events state.scores score expected reply.now with
  | none => .raised
  | some (returned, _) =>
      match reply.answer with
      | .done => if returned.isSome then .goesOn else .returned
      | .unreachable _ => .goesOn
      | .failed _ => .raised

/-- How the pass leaves `resumePass`. -/
def passOutcome (config : ScoringConfig) (state : ScoringState) (pass : ScorePass)
    (reply : ScoreReply) : PassOutcome :=
  match pass.stage with
  | .fetchEvent =>
      if reply.answer = .done then
        if (state.database.tables.events pass.eventId).isSome then .goesOn else .returned
      else .raised
  | .fetchEntityEvents event =>
      if reply.answer = .done then
        if (computeScore config event
          (fetchEntityEventsForEvent reply.order state pass.eventId)).isSome then .goesOn
        else .raised
      else .raised
  | .persistScore score expected => persistScoreOutcome state score expected reply
  | .publish =>
      match reply.answer with
      | .done => .returned
      | .unreachable _ => .goesOn
      | .failed _ => .raised

/-! ## The state -/

namespace ScoringConsumer

/-- Where `_consumer_loop` is suspended; `rest` is the unrouted rest of the batch. -/
inductive LoopState where
  | reading
  | scoring (message : StreamMessage) (number : Nat) (rest : List StreamMessage)
  | acking (message : StreamMessage) (rest : List StreamMessage)
  deriving DecidableEq, Repr

/-- The messages of its batch that the loop is not done with. -/
def LoopState.held : LoopState → List StreamMessage
  | .reading => []
  | .scoring message _ rest => message :: rest
  | .acking message rest => message :: rest

/-- `stream` is `stream:event_aggregated`.  `taken` lists the passes, each with the message
that it was started for, newest first. -/
structure State where
  scoring : ScoringState
  stream : SignalStream
  loops : Nat → Option LoopState
  taken : List (MessageId × Nat)

namespace State

def initial : State where
  scoring := ScoringState.initial
  stream := StreamGroup.empty
  loops := fun _ => none
  taken := []

variable (state : State)

def setLoop (consumer : Nat) (loop : LoopState) : State :=
  { state with loops := Function.update state.loops consumer (some loop) }

/-- The ids of the messages that a consumer holds. -/
def heldIds (consumer : Nat) : List MessageId :=
  ((state.loops consumer).elim [] LoopState.held).map StreamMessage.id

def eventRow (eventId : UUID) : Option EventRow :=
  state.scoring.database.tables.events eventId

end State

/-! ## The loop -/

/-- `_process_one` up to its first await. -/
def processOne (state : State) (consumer : Nat) (message : StreamMessage) (eventId : UUID)
    (rest : List StreamMessage) : State :=
  { state with
    scoring := state.scoring.openPass eventId
    taken := (message.id, state.scoring.nextPass) :: state.taken }.setLoop consumer
    (.scoring message state.scoring.nextPass rest)

/-- `_route` for the rest of a batch, which skips the messages without a valid
`event_id`. -/
def routeBatch (state : State) (consumer : Nat) : List StreamMessage → State
  | [] => state.setLoop consumer .reading
  | message :: rest =>
      match message.fields.id with
      | .uuid eventId => processOne state consumer message eventId rest
      | .absent => routeBatch state consumer rest
      | .invalid => routeBatch state consumer rest

/-- An error of the pass is only logged. -/
def resumeScoring (config : ScoringConfig) (state : State) (consumer : Nat)
    (message : StreamMessage) (number : Nat) (rest : List StreamMessage) (pass : ScorePass)
    (reply : ScoreReply) : State :=
  let resumed := { state with scoring := resumePass config state.scoring number pass reply }
  match passOutcome config state.scoring pass reply with
  | .goesOn => resumed
  | .returned => resumed.setLoop consumer (.acking message rest)
  | .raised => routeBatch resumed consumer rest

/-- An unreachable stream gives up the rest of the batch; any other error is only
logged. -/
def resumeAck (state : State) (consumer : Nat) (message : StreamMessage)
    (rest : List StreamMessage) (answer : Answer) : State :=
  let acked := { state with stream := ackApplied state.stream answer message.id }
  match answer with
  | .done => routeBatch acked consumer rest
  | .unreachable _ => acked.setLoop consumer .reading
  | .failed _ => routeBatch acked consumer rest

def resumeLoop (config : ScoringConfig) (state : State) (consumer : Nat)
    (reply : ScoreReply) : Option State :=
  match state.loops consumer with
  | none => none
  | some .reading => none
  | some (.scoring message number rest) =>
      (state.scoring.passes number).map fun pass =>
        resumeScoring config state consumer message number rest pass reply
  | some (.acking message rest) => some (resumeAck state consumer message rest reply.answer)

/-- A cancelled loop takes its pass with it. -/
def stopLoop (state : State) (consumer : Nat) : LoopState → State
  | .scoring _ number _ => { state with
      scoring := state.scoring.endPass number
      loops := Function.update state.loops consumer none }
  | .reading => { state with loops := Function.update state.loops consumer none }
  | .acking _ _ => { state with loops := Function.update state.loops consumer none }

/-! ## The machine -/

inductive Action where
  /-- A statement of `persist_events`, or a new `entity_events` row. -/
  | database (action : TransactionAction)
  /-- A message is added to `stream:event_aggregated`. -/
  | publish (messageId : MessageId) (fields : SignalFields)
  /-- The layer's task starts.  Its group is created at the start of the stream. -/
  | start (consumer : Nat)
  /-- `lost` says that the reply did not reach the loop. -/
  | read (consumer : Nat) (count : Nat) (lost : Bool)
  | resume (consumer : Nat) (reply : ScoreReply)
  /-- The task is cancelled, or the process crashes. -/
  | stop (consumer : Nat)

def step (config : ScoringConfig) (state : State) : Action → Option State
  | .database action =>
      (scoringStep config state.scoring (.database action)).map fun scoring =>
        { state with scoring := scoring }
  | .publish messageId fields =>
      (state.stream.add messageId fields).map fun stream => { state with stream := stream }
  | .start consumer =>
      match state.loops consumer with
      | none => some (state.setLoop consumer .reading)
      | some _ => none
  | .read consumer count lost =>
      if state.loops consumer = some .reading then
        let (messages, stream) := readFrom state.stream count
        let reached := { state with stream := stream }
        some (if lost then reached.setLoop consumer .reading
          else routeBatch reached consumer messages)
      else none
  | .resume consumer reply => resumeLoop config state consumer reply
  | .stop consumer => (state.loops consumer).map (stopLoop state consumer)

def machine (config : ScoringConfig) : Machine State Action where
  init := fun state => state = State.initial
  step := step config

end ScoringConsumer

end WealthFinder.Pipeline
