import WealthFinder.StreamGroup
import WealthFinder.Pipeline.Models

/-!
# The stream client of the consumers

`RedisStreamClient` on a stream with one consumer group, and its dead-letter
messages.
-/

set_option autoImplicit false

namespace WealthFinder.Pipeline

abbrev MessageId := Nat

/-- What reading a message field as a UUID meets. -/
inductive UUIDField where
  | absent
  | invalid
  | uuid (id : UUID)
  deriving DecidableEq, Repr

/-- The field `v` of a stream entry and the id field that its consumer reads. -/
structure SignalFields where
  v : Option String
  id : UUIDField
  deriving DecidableEq, Repr

abbrev SignalStream := StreamGroup MessageId SignalFields

/-- `deliveryCount` is set on a ReclaimedMessage. -/
structure StreamMessage where
  id : MessageId
  fields : SignalFields
  deliveryCount : Option Nat
  deriving DecidableEq, Repr

inductive LoopName where
  | consumer
  | reclaim
  deriving DecidableEq, Repr

inductive DeadLetterReason where
  | retriesExhausted
  | malformed
  deriving DecidableEq, Repr

structure DeadLetter where
  messageId : MessageId
  fields : SignalFields
  deliveryCount : Nat
  failedAt : Timestamp
  v : String
  deriving DecidableEq, Repr

def StreamMessage.deadLetter (message : StreamMessage) (failedAt : Timestamp) :
    DeadLetter :=
  ⟨message.id, message.fields, message.deliveryCount.getD 1, failedAt, "1"⟩

/-- The retry check of both consumers. -/
def StreamMessage.outOfRetries (message : StreamMessage) (maxRetry : Int) : Bool :=
  message.deliveryCount.any fun count => decide (maxRetry ≤ count)

/-- The id of a message of version 1, or `none` if its consumer can't process it. -/
def SignalFields.getValidId (fields : SignalFields) : Option UUID :=
  if fields.v ≠ some "1" then none
  else match fields.id with
    | .uuid id => some id
    | .absent => none
    | .invalid => none

/-- How an attempt of an awaited operation ends.  `applied` says whether the server
carried it out although the caller sees an error. -/
inductive Answer where
  | done
  | unreachable (applied : Bool)
  | failed (applied : Bool)
  deriving DecidableEq, Repr

def Answer.applied : Answer → Bool
  | .done => true
  | .unreachable applied => applied
  | .failed applied => applied

def readFrom (stream : SignalStream) (count : Nat) : List StreamMessage × SignalStream :=
  let (ids, after) := stream.readGroup count
  (ids.filterMap fun id => (stream.fields id).map fun fields => ⟨id, fields, none⟩, after)

/-- The second command of `autoclaim`: a message acknowledged since the claim has no
pending entry left. -/
def reclaimed (stream : SignalStream) (claimed : List MessageId) : List StreamMessage :=
  claimed.filterMap fun id => (stream.fields id).bind fun fields =>
    (stream.pending id).map fun count => ⟨id, fields, some count⟩

def ackApplied (stream : SignalStream) (answer : Answer) (id : MessageId) : SignalStream :=
  if answer.applied then stream.ack id else stream

/-! ## What the client's messages say -/

theorem readFrom_known {stream : SignalStream} {count : Nat} {message : StreamMessage}
    (member : message ∈ (readFrom stream count).1) :
    stream.fields message.id = some message.fields := by
  obtain ⟨id, -, mapped⟩ := List.mem_filterMap.mp member
  obtain ⟨fields, known, rfl⟩ := Option.map_eq_some_iff.mp mapped
  exact known

theorem readFrom_delivered {stream : SignalStream} (valid : stream.WellFormed) {count : Nat}
    {message : StreamMessage} (member : message ∈ (readFrom stream count).1) :
    (readFrom stream count).2.Delivered message.id := by
  obtain ⟨id, taken, mapped⟩ := List.mem_filterMap.mp member
  obtain ⟨fields, -, rfl⟩ := Option.map_eq_some_iff.mp mapped
  exact valid.delivered_of_read taken

theorem reclaimed_delivered {stream : SignalStream} (valid : stream.WellFormed)
    {claimed : List MessageId} {message : StreamMessage}
    (member : message ∈ reclaimed stream claimed) : stream.Delivered message.id := by
  obtain ⟨id, -, bound⟩ := List.mem_filterMap.mp member
  obtain ⟨fields, -, mapped⟩ := Option.bind_eq_some_iff.mp bound
  obtain ⟨count, found, rfl⟩ := Option.map_eq_some_iff.mp mapped
  exact valid.delivered_of_pending (by rw [found]; rfl)

theorem reclaimed_known {stream : SignalStream} {claimed : List MessageId}
    {message : StreamMessage} (member : message ∈ reclaimed stream claimed) :
    stream.fields message.id = some message.fields := by
  obtain ⟨id, -, bound⟩ := List.mem_filterMap.mp member
  obtain ⟨fields, known, mapped⟩ := Option.bind_eq_some_iff.mp bound
  obtain ⟨count, -, rfl⟩ := Option.map_eq_some_iff.mp mapped
  exact known

@[simp] theorem ackApplied_fields (stream : SignalStream) (answer : Answer)
    (id : MessageId) : (ackApplied stream answer id).fields = stream.fields := by
  unfold ackApplied
  split <;> rfl

theorem ackApplied_backlog (stream : SignalStream) (answer : Answer) (id : MessageId) :
    (ackApplied stream answer id).backlog = stream.backlog := by
  unfold ackApplied
  split <;> rfl

theorem wellFormed_ackApplied {stream : SignalStream} (valid : stream.WellFormed)
    (answer : Answer) (id : MessageId) : (ackApplied stream answer id).WellFormed := by
  unfold ackApplied
  split
  · exact stream.wellFormed_ack valid id
  · exact valid

theorem forward_ackApplied (stream : SignalStream) (answer : Answer) (id : MessageId) :
    stream.Forward (ackApplied stream answer id) := by
  unfold ackApplied
  split
  · exact stream.forward_ack id
  · exact stream.forward_refl

theorem acknowledged_ackApplied {stream : SignalStream} {answer : Answer}
    {id other : MessageId} (acknowledged : (ackApplied stream answer id).Acknowledged other) :
    other = id ∨ stream.Acknowledged other := by
  unfold ackApplied at acknowledged
  split at acknowledged
  · exact stream.acknowledged_ack id acknowledged
  · exact Or.inr acknowledged

end WealthFinder.Pipeline
