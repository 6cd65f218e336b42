import WealthFinder.Pipeline.AggregationConsumerSteps

/-!
# Acknowledgements of the aggregation consumer

Every path to an acknowledgement passes a state that accounts for the message, after the
message was read and before it was acknowledged.  The invariant follows each delivery
from its loop through its group's queue to the merge's callback.
-/

set_option autoImplicit false

namespace WealthFinder.Pipeline

open Machine

/-- Why nothing is left to merge of an EntityEvent. -/
inductive Settled (config : AggregationConfig) (layer : AggregationState) (id : UUID) :
    Prop where
  | active {row : EntityEvent} {event : ActiveEvent}
      (stored : layer.entityEvents id = some row)
      (current : layer.store row.groupKey = some event)
      (listed : id ∈ event.entityEventIds)
  | mapped (found : (layer.persisted.tables.entityMap id).isSome)
  | missing (absent : layer.entityEvents id = none)
  | late {row : EntityEvent} {event : ActiveEvent}
      (stored : layer.entityEvents id = some row)
      (current : layer.store row.groupKey = some event)
      (tooLate : isLate config event row = true)

/-- The message's EntityEvent is settled, or a copy of it is a dead letter. -/
def Accounted (config : AggregationConfig) (messageId : MessageId) (fields : SignalFields)
    (state : ConsumerState) : Prop :=
  (∃ id, fields.getValidId = some id ∧ Settled config state.layer id) ∨
    ∃ copy ∈ state.deadLetters, copy.messageId = messageId ∧ copy.fields = fields

/-- So it is while the message is read and not yet acknowledged. -/
def WhilePending (messageId : MessageId) (why : ConsumerState → Prop)
    (state : ConsumerState) : Prop :=
  (state.stream.pending messageId).isSome ∧ why state

/-- The message is acknowledged already, or this was so while it was pending. -/
def Explained (messageId : MessageId) (why : ConsumerState → Prop)
    (past : List ConsumerState) (state : ConsumerState) : Prop :=
  state.stream.Acknowledged messageId ∨ Once (WhilePending messageId why) past state

section Explained
variable {messageId : MessageId} {why other : ConsumerState → Prop}
  {past : List ConsumerState} {state after : ConsumerState}

theorem Explained.now (delivered : state.stream.Delivered messageId) (holds : why state) :
    Explained messageId why past state := by
  rcases delivered.pending_or_acknowledged with pending | acknowledged
  · exact Or.inr (.now ⟨pending, holds⟩)
  · exact Or.inl acknowledged

theorem Explained.later (explained : Explained messageId why past state)
    (forward : state.stream.Forward after.stream) :
    Explained messageId why (state :: past) after := by
  rcases explained with acknowledged | once
  · exact Or.inl (acknowledged.forward forward)
  · exact Or.inr once.later

theorem Explained.imp (explained : Explained messageId why past state)
    (weaken : ∀ earlier, why earlier → other earlier) :
    Explained messageId other past state := by
  rcases explained with acknowledged | once
  · exact Or.inl acknowledged
  · exact Or.inr (once.imp fun earlier held => ⟨held.1, weaken earlier held.2⟩)

end Explained

/-! ## The invariant -/

/-- The message was read, and asks for the EntityEvent to be merged. -/
def Carries (state : ConsumerState) (messageId : MessageId) (id : UUID) : Prop :=
  state.stream.Delivered messageId ∧
    ∃ fields, state.stream.fields messageId = some fields ∧ fields.getValidId = some id

def Known (state : ConsumerState) (message : StreamMessage) : Prop :=
  state.stream.Delivered message.id ∧ state.stream.fields message.id = some message.fields

def WorkSound (state : ConsumerState) (key : GroupKey) (work : Work) : Prop :=
  Carries state work.messageId work.entityEvent.entityEventId ∧
    state.layer.entityEvents work.entityEvent.entityEventId = some work.entityEvent ∧
    work.entityEvent.groupKey = key

def RouteSound (past : List ConsumerState) (state : ConsumerState) : RouteStage → Prop
  | .next => True
  | .publishDeadLetter message _ => Known state message
  | .ackDeadLetter message _ => Known state message ∧
      ∃ copy ∈ state.deadLetters, copy.messageId = message.id ∧ copy.fields = message.fields
  | .fetchEntityEvent id messageId => Carries state messageId id
  | .ackMissing id messageId => Carries state messageId id ∧
      Explained messageId (fun earlier => earlier.layer.entityEvents id = none) past state
  | .acquirePermit work => WorkSound state work.entityEvent.groupKey work

def LoopSound (past : List ConsumerState) (state : ConsumerState) : LoopTask → Prop
  | .waiting => True
  | .pendingRange _ => True
  | .routing stage rest => RouteSound past state stage ∧
      ∀ message ∈ rest, Known state message

def MergeAccounted (config : AggregationConfig) (past : List ConsumerState)
    (state : ConsumerState) (key : GroupKey) (messageId : MessageId)
    (entityEvent : EntityEvent) : MergeStage → Prop
  | .getActiveEvent => True
  | .isMerged active => ∀ current, active = some current → current.group = key ∧
      Explained messageId (fun earlier => earlier.layer.store key = some current ∧
        earlier.layer.entityEvents entityEvent.entityEventId = some entityEvent) past state
  | .replace _ updated _ => updated.group = key ∧
      entityEvent.entityEventId ∈ updated.entityEventIds
  | .upsert _ updated => updated.group = key ∧
      entityEvent.entityEventId ∈ updated.entityEventIds
  | .onSuccess => Explained messageId
      (fun earlier => Settled config earlier.layer entityEvent.entityEventId) past state
  | .onFailure => True

/-- The merge is that of the work its group runs. -/
def RunsWork (config : AggregationConfig) (past : List ConsumerState)
    (state : ConsumerState) (key : GroupKey) (task : MergeTask) : Prop :=
  ∃ coroutine work, state.groups key = some coroutine ∧ coroutine.running = some work ∧
    task.entityEvent = work.entityEvent ∧
    MergeAccounted config past state key work.messageId task.entityEvent task.stage

def GroupCoroutine.works (coroutine : GroupCoroutine) : List Work :=
  coroutine.queue ++ coroutine.running.toList

structure ConsumerSound (config : AggregationConfig) (past : List ConsumerState)
    (state : ConsumerState) : Prop where
  stream : state.stream.WellFormed
  keyed : ∀ id row, state.layer.entityEvents id = some row → row.entityEventId = id
  keys : ∀ key active, state.layer.store key = some active → active.group = key
  loops : ∀ loop, LoopSound past state (state.loops loop)
  queued : ∀ key coroutine, state.groups key = some coroutine →
    ∀ work ∈ coroutine.works, WorkSound state key work
  merges : ∀ key task, state.layer.merges key = some task →
    RunsWork config past state key task
  accounted : ∀ id fields, state.stream.fields id = some fields →
    state.stream.Acknowledged id → Once (WhilePending id (Accounted config id fields)) past state

theorem consumerSound_initial (config : AggregationConfig) :
    ConsumerSound config [] (ConsumerState.initial config) where
  stream := StreamGroup.wellFormed_empty
  keyed := by intro _ _ found; cases found
  keys := by intro _ _ found; cases found
  loops := fun _ => trivial
  queued := by intro _ _ found; cases found
  merges := by intro _ _ running; cases running
  accounted := fun id _ _ acknowledged =>
    absurd acknowledged (StreamGroup.not_acknowledged_empty id)

/-! ## What every step respects -/

structure ConsumerFrame (before after : ConsumerState) : Prop where
  entityEvents : ∀ id row, before.layer.entityEvents id = some row →
    after.layer.entityEvents id = some row
  stream : before.stream.Forward after.stream
  deadLetters : ∀ copy ∈ before.deadLetters, copy ∈ after.deadLetters

section Frame
variable {before after : ConsumerState} (frame : ConsumerFrame before after)
include frame

theorem Carries.framed {messageId : MessageId} {id : UUID}
    (carries : Carries before messageId id) : Carries after messageId id := by
  obtain ⟨delivered, fields, found, valid⟩ := carries
  exact ⟨delivered.forward frame.stream, fields, frame.stream.fields _ _ found, valid⟩

theorem Known.framed {message : StreamMessage} (known : Known before message) :
    Known after message :=
  ⟨known.1.forward frame.stream, frame.stream.fields _ _ known.2⟩

theorem WorkSound.framed {key : GroupKey} {work : Work}
    (sound : WorkSound before key work) : WorkSound after key work := by
  obtain ⟨carries, stored, ofKey⟩ := sound
  exact ⟨carries.framed frame, frame.entityEvents _ _ stored, ofKey⟩

theorem LoopSound.framed {past : List ConsumerState} {task : LoopTask}
    (sound : LoopSound past before task) : LoopSound (before :: past) after task := by
  cases task with
  | waiting | pendingRange => trivial
  | routing stage rest =>
      obtain ⟨route, known⟩ := sound
      refine ⟨?_, fun message member => (known message member).framed frame⟩
      cases stage with
      | next => trivial
      | publishDeadLetter message reason => exact Known.framed frame route
      | ackDeadLetter message reason =>
          obtain ⟨isKnown, copy, written, same⟩ := route
          exact ⟨isKnown.framed frame, copy, frame.deadLetters copy written, same⟩
      | fetchEntityEvent id messageId => exact Carries.framed frame route
      | ackMissing id messageId =>
          exact ⟨Carries.framed frame route.1, route.2.later frame.stream⟩
      | acquirePermit work => exact WorkSound.framed frame route

omit frame in
theorem MergeAccounted.later {config : AggregationConfig} {past : List ConsumerState}
    {key : GroupKey} {messageId : MessageId} {entityEvent : EntityEvent} {stage : MergeStage}
    (accounted : MergeAccounted config past before key messageId entityEvent stage)
    (forward : before.stream.Forward after.stream) :
    MergeAccounted config (before :: past) after key messageId entityEvent stage := by
  cases stage with
  | getActiveEvent | onFailure => trivial
  | isMerged active =>
      intro current same
      obtain ⟨ofKey, read⟩ := accounted current same
      exact ⟨ofKey, read.later forward⟩
  | replace active updated persist => exact accounted
  | upsert active updated => exact accounted
  | onSuccess => exact Explained.later accounted forward

theorem ConsumerSound.stepped {config : AggregationConfig} {past : List ConsumerState}
    (sound : ConsumerSound config past before) (stream : after.stream.WellFormed)
    (keyed : ∀ id row, after.layer.entityEvents id = some row →
      before.layer.entityEvents id = some row ∨ row.entityEventId = id)
    (keys : ∀ key active, after.layer.store key = some active →
      before.layer.store key = some active ∨ active.group = key)
    (loops : ∀ loop, after.loops loop = before.loops loop ∨
      LoopSound (before :: past) after (after.loops loop))
    (queued : ∀ key coroutine, after.groups key = some coroutine →
      ∀ work ∈ coroutine.works,
        (∃ old, before.groups key = some old ∧ work ∈ old.works) ∨
        WorkSound after key work)
    (merges : ∀ key task, after.layer.merges key = some task →
      (before.layer.merges key = some task ∧ ∀ old, before.groups key = some old →
        ∃ coroutine, after.groups key = some coroutine ∧
          coroutine.running = old.running) ∨
      RunsWork config (before :: past) after key task)
    (accounted : ∀ id fields, after.stream.fields id = some fields →
      after.stream.Acknowledged id → before.stream.Acknowledged id ∨
        Once (WhilePending id (Accounted config id fields)) (before :: past) after) :
    ConsumerSound config (before :: past) after where
  stream := stream
  keyed := by
    intro id row found
    rcases keyed id row found with old | new
    · exact sound.keyed id row old
    · exact new
  keys := by
    intro key active found
    rcases keys key active found with old | new
    · exact sound.keys key active old
    · exact new
  loops := by
    intro loop
    rcases loops loop with same | new
    · rw [same]
      exact (sound.loops loop).framed frame
    · exact new
  queued := by
    intro key coroutine found work member
    rcases queued key coroutine found work member with ⟨old, oldFound, oldMember⟩ | new
    · exact (sound.queued key old oldFound work oldMember).framed frame
    · exact new
  merges := by
    intro key task running
    rcases merges key task running with ⟨old, kept⟩ | new
    · obtain ⟨coroutine, work, found, isRunning, same, held⟩ := sound.merges key task old
      obtain ⟨later, laterFound, laterRunning⟩ := kept coroutine found
      exact ⟨later, work, laterFound, laterRunning.trans isRunning, same,
        held.later frame.stream⟩
    · exact new
  accounted := by
    intro id fields found acknowledged
    rcases accounted id fields found acknowledged with old | new
    · obtain ⟨known, known'⟩ := Option.isSome_iff_exists.mp old.1
      have same := frame.stream.fields id known known'
      rw [found, Option.some.injEq] at same
      exact (sound.accounted id fields (same ▸ known') old).later
    · exact new

end Frame

/-! ## The loops -/

section Loops
variable {config : AggregationConfig} {past : List ConsumerState}
  {before after : ConsumerState} {loop : LoopName}

/-- A step of a loop that leaves the layer and its groups alone. -/
theorem ConsumerSound.looped (sound : ConsumerSound config past before)
    (frame : ConsumerFrame before after) (stream : after.stream.WellFormed)
    (layer : after.layer = before.layer) (groups : after.groups = before.groups)
    {task : LoopTask} (loops : after.loops = Function.update before.loops loop task)
    (loopSound : LoopSound (before :: past) after task)
    (accounted : ∀ id fields, after.stream.fields id = some fields →
      after.stream.Acknowledged id → before.stream.Acknowledged id ∨
        Once (WhilePending id (Accounted config id fields)) (before :: past) after) :
    ConsumerSound config (before :: past) after := by
  refine sound.stepped frame stream ?_ ?_ ?_ ?_ ?_ accounted
  · rw [layer]
    exact fun _ _ found => Or.inl found
  · rw [layer]
    exact fun _ _ found => Or.inl found
  · intro other
    rw [loops]
    by_cases same : other = loop
    · rw [same, Function.update_self]
      exact Or.inr loopSound
    · rw [Function.update_of_ne same]
      exact Or.inl rfl
  · rw [groups]
    exact fun key coroutine found work member => Or.inl ⟨coroutine, found, member⟩
  · rw [layer, groups]
    exact fun key task running => Or.inl ⟨running, fun old found => ⟨old, found, rfl⟩⟩

theorem loopSound_routeRest {state : ConsumerState} {rest : List StreamMessage}
    (known : ∀ message ∈ rest, Known state message) :
    LoopSound past state (routeRest rest) := by
  cases rest with
  | nil => trivial
  | cons message rest => exact ⟨trivial, known⟩

theorem loopSound_afterAck {state : ConsumerState} {rest : List StreamMessage}
    (answer : Answer) (known : ∀ message ∈ rest, Known state message) :
    LoopSound past state (afterAck answer rest) := by
  cases answer with
  | done | failed => exact loopSound_routeRest known
  | unreachable => trivial

/-- A step of a loop that neither writes nor acknowledges. -/
theorem ConsumerSound.routed (sound : ConsumerSound config past before)
    (stream : after.stream = before.stream) (deadLetters : after.deadLetters = before.deadLetters)
    (layer : after.layer = before.layer) (groups : after.groups = before.groups)
    {task : LoopTask} (loops : after.loops = Function.update before.loops loop task)
    (loopSound : ConsumerFrame before after → LoopSound (before :: past) after task) :
    ConsumerSound config (before :: past) after := by
  have frame : ConsumerFrame before after := by
    constructor
    · rw [layer]
      exact fun _ _ found => found
    · rw [stream]
      exact before.stream.forward_refl
    · rw [deadLetters]
      exact fun _ member => member
  refine sound.looped frame (stream ▸ sound.stream) layer groups loops (loopSound frame) ?_
  rw [stream]
  exact fun _ _ _ acknowledged => Or.inl acknowledged

theorem ConsumerSound.route {message : StreamMessage} {rest : List StreamMessage}
    (sound : ConsumerSound config past before)
    (at' : before.loops loop = .routing .next (message :: rest)) :
    ConsumerSound config (before :: past) (route config before loop message rest) := by
  have held := sound.loops loop
  rw [at'] at held
  have known : Known before message := held.2 message List.mem_cons_self
  have others : ∀ other ∈ rest, Known before other :=
    fun other member => held.2 other (List.mem_cons_of_mem _ member)
  unfold Pipeline.route
  split
  · refine sound.routed rfl rfl rfl rfl rfl (fun frame => ⟨known.framed frame, ?_⟩)
    exact fun other member => (others other member).framed frame
  · split
    · refine sound.routed rfl rfl rfl rfl rfl (fun frame => ⟨known.framed frame, ?_⟩)
      exact fun other member => (others other member).framed frame
    · rename_i entityEventId valid
      have carries : Carries before message.id entityEventId :=
        ⟨known.1, message.fields, known.2, valid⟩
      split
      · refine sound.routed rfl rfl rfl rfl rfl (fun frame => loopSound_routeRest ?_)
        exact fun other member => (others other member).framed frame
      · refine sound.routed rfl rfl rfl rfl rfl (fun frame => ⟨carries.framed frame, ?_⟩)
        exact fun other member => (others other member).framed frame

theorem ConsumerSound.deadLettered {message : StreamMessage} {reason : DeadLetterReason}
    {rest : List StreamMessage} {answer : Answer} {now : Timestamp}
    (sound : ConsumerSound config past before)
    (at' : before.loops loop = .routing (.publishDeadLetter message reason) rest) :
    ConsumerSound config (before :: past)
      (resumePublishDeadLetter before loop message reason rest answer now) := by
  have held := sound.loops loop
  rw [at'] at held
  obtain ⟨known, others⟩ := held
  unfold resumePublishDeadLetter
  refine sound.looped ⟨fun _ _ found => found, before.stream.forward_refl, ?_⟩ sound.stream
    rfl rfl rfl ?_ (fun _ _ _ acknowledged => Or.inl acknowledged)
  · intro copy member
    change copy ∈ (if answer.applied then _ else _)
    split
    · exact List.mem_cons_of_mem _ member
    · exact member
  · cases answer with
    | done => exact ⟨⟨known, message.deadLetter now, List.mem_cons_self, rfl, rfl⟩, others⟩
    | unreachable => exact ⟨known, others⟩
    | failed => exact loopSound_routeRest others

/-- An acknowledgement that a loop sends is of an accounted message. -/
theorem ConsumerSound.acked {messageId : MessageId} {answer : Answer} {task : LoopTask}
    (sound : ConsumerSound config past before) (layer : after.layer = before.layer)
    (groups : after.groups = before.groups)
    (deadLetters : after.deadLetters = before.deadLetters)
    (stream : after.stream = ackApplied before.stream answer messageId)
    (loops : after.loops = Function.update before.loops loop task)
    (loopSound : ConsumerFrame before after → LoopSound (before :: past) after task)
    (accounted : ∀ fields, before.stream.fields messageId = some fields →
      Explained messageId (Accounted config messageId fields) past before) :
    ConsumerSound config (before :: past) after := by
  have frame : ConsumerFrame before after := by
    constructor
    · rw [layer]
      exact fun _ _ found => found
    · rw [stream]
      exact forward_ackApplied before.stream answer messageId
    · rw [deadLetters]
      exact fun _ member => member
  have valid : after.stream.WellFormed := by
    rw [stream]
    exact wellFormed_ackApplied sound.stream answer messageId
  refine sound.looped frame valid layer groups loops (loopSound frame) ?_
  rw [stream, ackApplied_fields]
  intro id fields found acknowledged
  rcases acknowledged_ackApplied acknowledged with rfl | old
  · rcases accounted fields found with before' | once
    · exact Or.inl before'
    · exact Or.inr once.later
  · exact Or.inl old

theorem ConsumerSound.ackedDeadLetter {message : StreamMessage} {reason : DeadLetterReason}
    {rest : List StreamMessage} {answer : Answer} (sound : ConsumerSound config past before)
    (at' : before.loops loop = .routing (.ackDeadLetter message reason) rest) :
    ConsumerSound config (before :: past)
      ((before.ack answer message.id).setLoop loop (afterAck answer rest)) := by
  have held := sound.loops loop
  rw [at'] at held
  obtain ⟨⟨⟨delivered, known⟩, copy, written, sameId, sameFields⟩, others⟩ := held
  refine sound.acked rfl rfl rfl rfl rfl (fun frame => loopSound_afterAck answer ?_) ?_
  · exact fun other member => (others other member).framed frame
  · intro fields found
    have same : message.fields = fields := Option.some.inj (known.symm.trans found)
    exact .now delivered (Or.inr ⟨copy, written, sameId, same ▸ sameFields⟩)

theorem ConsumerSound.ackedMissing {entityEventId : UUID} {messageId : MessageId}
    {rest : List StreamMessage} {answer : Answer} (sound : ConsumerSound config past before)
    (at' : before.loops loop = .routing (.ackMissing entityEventId messageId) rest) :
    ConsumerSound config (before :: past)
      (resumeAckMissing before loop entityEventId messageId rest answer) := by
  have held := sound.loops loop
  rw [at'] at held
  obtain ⟨⟨⟨-, fields, known, valid⟩, missing⟩, others⟩ := held
  have accounted : ∀ other, before.stream.fields messageId = some other →
      Explained messageId (Accounted config messageId other) past before := by
    intro other found
    have same : fields = other := Option.some.inj (known.symm.trans found)
    refine missing.imp ?_
    intro earlier absent
    exact Or.inl ⟨entityEventId, same ▸ valid, .missing absent⟩
  refine @ConsumerSound.acked config past before _ loop messageId answer
    (afterAck answer rest) sound (by cases answer <;> rfl) (by cases answer <;> rfl)
    (by cases answer <;> rfl) (by cases answer <;> rfl) (by cases answer <;> rfl)
    (fun frame => loopSound_afterAck answer ?_) accounted
  exact fun other member => (others other member).framed frame

/-- A hand-over puts the work on its group's queue. -/
theorem enqueueWork_cases {work : Work} (enqueued : enqueueWork before work = some after) :
    ∃ coroutine permits,
      after = { before with
        permits := permits
        groups := Function.update before.groups work.entityEvent.groupKey (some coroutine) } ∧
      ((∃ old, before.groups work.entityEvent.groupKey = some old ∧
          coroutine = { old with queue := old.queue ++ [work] }) ∨
        (before.groups work.entityEvent.groupKey = none ∧ coroutine = ⟨[work], none⟩)) := by
  unfold enqueueWork at enqueued
  split at enqueued
  · rename_i old found
    cases enqueued
    exact ⟨_, before.permits, rfl, Or.inl ⟨old, found, rfl⟩⟩
  · rename_i absent
    split at enqueued
    · cases enqueued
      exact ⟨_, before.permits - 1, rfl, Or.inr ⟨absent, rfl⟩⟩
    · cases enqueued

theorem ConsumerSound.handedOver {work : Work} {rest : List StreamMessage}
    (sound : ConsumerSound config past before)
    (workSound : WorkSound before work.entityEvent.groupKey work)
    (others : ∀ message ∈ rest, Known before message)
    (enqueued : enqueueWork before work = some after) :
    ConsumerSound config (before :: past) (after.setLoop loop (routeRest rest)) := by
  obtain ⟨coroutine, permits, rfl, origin⟩ := enqueueWork_cases enqueued
  have running : ∀ old, before.groups work.entityEvent.groupKey = some old →
      coroutine.running = old.running := by
    intro old found
    rcases origin with ⟨same, sameFound, rfl⟩ | ⟨absent, -⟩
    · cases found.symm.trans sameFound
      rfl
    · cases absent.symm.trans found
  have works : ∀ other ∈ coroutine.works, other = work ∨
      ∃ old, before.groups work.entityEvent.groupKey = some old ∧ other ∈ old.works := by
    intro other member
    rcases origin with ⟨old, found, rfl⟩ | ⟨-, rfl⟩
    · simp only [GroupCoroutine.works, List.mem_append, List.mem_singleton] at member
      rcases member with (queued | same) | isRunning
      · exact Or.inr ⟨old, found, List.mem_append_left _ queued⟩
      · exact Or.inl same
      · exact Or.inr ⟨old, found, List.mem_append_right _ isRunning⟩
    · exact Or.inl (by simpa [GroupCoroutine.works] using member)
  let handed := { before with
    permits := permits
    groups := Function.update before.groups work.entityEvent.groupKey (some coroutine) }
  have frame : ConsumerFrame before (handed.setLoop loop (routeRest rest)) :=
    ⟨fun _ _ found => found, before.stream.forward_refl, fun _ member => member⟩
  refine sound.stepped frame sound.stream (fun _ _ found => Or.inl found)
    (fun _ _ found => Or.inl found) ?_ ?_ ?_ (fun _ _ _ acknowledged => Or.inl acknowledged)
  · intro other
    by_cases same : other = loop
    · refine Or.inr ?_
      simp only [ConsumerState.setLoop, same, Function.update_self]
      exact loopSound_routeRest others
    · exact Or.inl (by simp [handed, ConsumerState.setLoop, same])
  · intro key other found queued member
    by_cases same : key = work.entityEvent.groupKey
    · simp only [handed, ConsumerState.setLoop, same, Function.update_self,
        Option.some.injEq] at found
      subst found
      rcases works queued member with rfl | old
      · exact Or.inr (same ▸ workSound)
      · exact Or.inl (same ▸ old)
    · have old : before.groups key = some other := by
        simpa [handed, ConsumerState.setLoop, same] using found
      exact Or.inl ⟨other, old, member⟩
  · intro key task isRunning
    refine Or.inl ⟨isRunning, ?_⟩
    intro old found
    by_cases same : key = work.entityEvent.groupKey
    · exact ⟨coroutine, by simp [handed, ConsumerState.setLoop, same], running old (same ▸ found)⟩
    · exact ⟨old, by simpa [handed, ConsumerState.setLoop, same] using found, rfl⟩

theorem ConsumerSound.fetched {entityEventId : UUID} {messageId : MessageId}
    {rest : List StreamMessage} {answer : Answer} (sound : ConsumerSound config past before)
    (at' : before.loops loop = .routing (.fetchEntityEvent entityEventId messageId) rest) :
    ConsumerSound config (before :: past)
      (resumeFetchEntityEvent before loop entityEventId messageId rest answer) := by
  have held := sound.loops loop
  rw [at'] at held
  obtain ⟨carries, others⟩ := held
  unfold resumeFetchEntityEvent
  cases answer with
  | unreachable =>
      have same : before.loops = Function.update before.loops loop
          (.routing (.fetchEntityEvent entityEventId messageId) rest) := by
        rw [← at', Function.update_eq_self]
      exact sound.routed rfl rfl rfl rfl same (fun _ => ⟨carries, others⟩)
  | failed =>
      exact sound.routed rfl rfl rfl rfl rfl (fun _ => loopSound_routeRest others)
  | done =>
      simp only
      split
      · rename_i absent
        refine sound.routed rfl rfl rfl rfl rfl (fun frame => ⟨⟨carries, ?_⟩, others⟩)
        have missing : Explained messageId
            (fun earlier => earlier.layer.entityEvents entityEventId = none) past before :=
          .now carries.1 absent
        exact missing.later frame.stream
      · rename_i entityEvent found
        have key := sound.keyed entityEventId entityEvent found
        have workSound : WorkSound before entityEvent.groupKey ⟨entityEvent, messageId⟩ :=
          ⟨key.symm ▸ carries, key.symm ▸ found, rfl⟩
        split
        · rename_i enqueued handed
          exact sound.handedOver workSound others handed
        · exact sound.routed rfl rfl rfl rfl rfl (fun _ => ⟨workSound, others⟩)

theorem ConsumerSound.resumedLoop {answer : Answer} {now : Timestamp}
    (sound : ConsumerSound config past before)
    (moved : resumeLoop before loop answer now = some after) :
    ConsumerSound config (before :: past) after := by
  have held := sound.loops loop
  unfold resumeLoop at moved
  split at moved
  · cases moved
  · rename_i claimed at'
    split at moved <;> cases moved
    · refine sound.routed rfl rfl rfl rfl rfl (fun _ => loopSound_routeRest ?_)
      exact fun message member =>
        ⟨reclaimed_delivered sound.stream member, reclaimed_known member⟩
    · exact sound.routed rfl rfl rfl rfl rfl (fun _ => trivial)
    · exact sound.routed rfl rfl rfl rfl rfl (fun _ => trivial)
  · rename_i stage rest at'
    rw [at'] at held
    split at moved
    · cases moved
    · cases moved
      exact sound.deadLettered at'
    · cases moved
      exact sound.ackedDeadLetter at'
    · cases moved
      exact sound.fetched at'
    · cases moved
      exact sound.ackedMissing at'
    · split at moved
      · obtain ⟨enqueued, handed, rfl⟩ := Option.map_eq_some_iff.mp moved
        exact sound.handedOver held.1 held.2 handed
      · cases moved

end Loops

/-! ## The merges -/

section Merges
variable {config : AggregationConfig} {past : List ConsumerState}
  {before after : ConsumerState} {key : GroupKey} {messageId : MessageId}

/-- Reading the active Event settles an EntityEvent that it lists. -/
theorem mergeAccounted_afterGetActive {entityEvent : EntityEvent}
    (delivered : before.stream.Delivered messageId)
    (forward : before.stream.Forward after.stream)
    (stored : before.layer.entityEvents entityEvent.entityEventId = some entityEvent)
    (ofKey : entityEvent.groupKey = key)
    (keys : ∀ active, before.layer.store key = some active → active.group = key) :
    MergeAccounted config (before :: past) after key messageId entityEvent
      (afterGetActive (before.layer.store key) entityEvent) := by
  cases found : before.layer.store key with
  | none =>
      intro current impossible
      cases impossible
  | some current =>
      simp only [afterGetActive]
      split
      · rename_i listed
        have settled : Explained messageId
            (fun earlier => Settled config earlier.layer entityEvent.entityEventId) past before :=
          .now delivered (.active stored (ofKey.symm ▸ found) listed)
        exact settled.later forward
      · intro event same
        cases same
        have read : Explained messageId (fun earlier =>
            earlier.layer.store key = some current ∧
            earlier.layer.entityEvents entityEvent.entityEventId = some entityEvent) past before :=
          .now delivered ⟨found, stored⟩
        exact ⟨keys current found, read.later forward⟩

/-- The merged Event is the group's and lists the EntityEvent. -/
theorem mergeAccounted_afterMerge {entityEvent : EntityEvent} {active : Option ActiveEvent}
    {now : Timestamp} {eventId : UUID} (ofKey : entityEvent.groupKey = key)
    (groups : ∀ current, active = some current → current.group = key) :
    MergeAccounted config (before :: past) after key messageId entityEvent
      (afterMerge active (mergeOrCreate config active entityEvent now eventId)) := by
  have merged : (mergeOrCreate config active entityEvent now eventId).group = key ∧
      entityEvent.entityEventId ∈
        (mergeOrCreate config active entityEvent now eventId).entityEventIds := by
    rcases mergeOrCreate_cases config active entityEvent now eventId with
      ⟨current, isCurrent, -, is⟩ | is <;> rw [is]
    · exact ⟨groups current isCurrent, by simp [extendEvent]⟩
    · exact ⟨ofKey, by simp [createEvent]⟩
  cases active with
  | none => exact merged
  | some current =>
      simp only [afterMerge]
      split <;> exact merged

/-- A merge that moves stays accounted for, and writes only its group's key. -/
theorem mergeStep_accounted {task : MergeTask} {reply : Reply} {layer : AggregationState}
    (moved : MergeStep config before.layer key task reply layer)
    (running : before.layer.merges key = some task)
    (delivered : before.stream.Delivered messageId)
    (stored : before.layer.entityEvents task.entityEvent.entityEventId =
      some task.entityEvent)
    (ofKey : task.entityEvent.groupKey = key)
    (keys : ∀ active, before.layer.store key = some active → active.group = key)
    (held : MergeAccounted config past before key messageId task.entityEvent task.stage) :
    layer.entityEvents = before.layer.entityEvents ∧
    (∀ other active, layer.store other = some active →
      before.layer.store other = some active ∨ active.group = other) ∧
    ∃ stage, layer.merges = Function.update before.layer.merges key
        (some { task with stage := stage }) ∧
      ∀ after : ConsumerState, after.layer.entityEvents = layer.entityEvents →
        after.layer.store = layer.store → after.stream = before.stream →
        MergeAccounted config (before :: past) after key messageId task.entityEvent stage := by
  have merges (stage : MergeStage) : (before.layer.setMerge key stage).merges =
      Function.update before.layer.merges key (some { task with stage := stage }) := by
    simp [AggregationState.setMerge, running]
  have forward (after : ConsumerState) (stream : after.stream = before.stream) :
      before.stream.Forward after.stream := by
    rw [stream]
    exact before.stream.forward_refl
  cases moved with
  | again =>
      refine ⟨rfl, fun _ _ found => Or.inl found, task.stage, ?_,
        fun after _ _ stream => held.later (forward after stream)⟩
      have same : ({ task with stage := task.stage } : MergeTask) = task := rfl
      rw [same, ← running, Function.update_eq_self]
  | failed => exact ⟨rfl, fun _ _ found => Or.inl found, .onFailure, merges _,
      fun _ _ _ _ => trivial⟩
  | read at' =>
      exact ⟨rfl, fun _ _ found => Or.inl found, _, merges _, fun after _ _ stream =>
        mergeAccounted_afterGetActive delivered (forward after stream) stored ofKey keys⟩
  | mapped at' found =>
      refine ⟨rfl, fun _ _ found => Or.inl found, .onSuccess, merges _,
        fun after _ _ stream => ?_⟩
      have settled : Explained messageId (fun earlier => Settled config earlier.layer
          task.entityEvent.entityEventId) past before :=
        .now delivered (.mapped (by rw [found]; rfl))
      exact settled.later (forward after stream)
  | @late current at' tooLate =>
      refine ⟨rfl, fun _ _ found => Or.inl found, .onSuccess, merges _,
        fun after _ _ stream => ?_⟩
      rw [at'] at held
      have seen := (held current rfl).2
      have settled : Explained messageId (fun earlier => Settled config earlier.layer
          task.entityEvent.entityEventId) past before := by
        refine seen.imp ?_
        rintro earlier ⟨current, stored⟩
        exact .late stored (ofKey.symm ▸ current) tooLate
      exact settled.later (forward after stream)
  | @merged active at' =>
      refine ⟨rfl, fun _ _ found => Or.inl found, _, merges _, fun _ _ _ _ => ?_⟩
      rw [at'] at held
      exact mergeAccounted_afterMerge ofKey (fun current same => (held current same).1)
  | @replacing active updated persist persisted progress at' =>
      rw [at'] at held
      refine ⟨rfl, fun _ _ found => Or.inl found, _, merges _, fun _ _ _ _ => ?_⟩
      cases progress with
      | running | returned => exact held
      | raised => trivial
  | @stored active updated next at' _ moved =>
      rw [at'] at held
      obtain ⟨group, listed⟩ := held
      refine ⟨rfl, ?_, next, merges _, fun after entityEvents store stream => ?_⟩
      · intro other event found
        rcases of_update_some found with ⟨same, rfl⟩ | ⟨-, old⟩
        · exact Or.inr same.symm
        · exact Or.inl old
      · rcases moved with rfl | rfl | rfl
        · have settled : Settled config after.layer task.entityEvent.entityEventId := by
            refine @Settled.active _ _ _ task.entityEvent updated ?_ ?_ listed
            · rw [entityEvents]
              exact stored
            · rw [store]
              simp [ofKey, group]
          exact .now (delivered.forward (forward after stream)) settled
        · exact ⟨group, listed⟩
        · trivial

end Merges

/-! ## The groups -/

section Groups
variable {config : AggregationConfig} {past : List ConsumerState}
  {before after : ConsumerState} {key : GroupKey}

/-- The task of a merge is that of its group's running work. -/
theorem ConsumerSound.workOf {task : MergeTask} {coroutine : GroupCoroutine} {work : Work}
    (sound : ConsumerSound config past before) (running : before.layer.merges key = some task)
    (found : before.groups key = some coroutine) (isRunning : coroutine.running = some work) :
    task.entityEvent = work.entityEvent ∧ WorkSound before key work ∧
      MergeAccounted config past before key work.messageId task.entityEvent task.stage := by
  obtain ⟨other, itsWork, otherFound, otherRunning, same, held⟩ := sound.merges key task running
  cases found.symm.trans otherFound
  cases isRunning.symm.trans otherRunning
  have queued : work ∈ coroutine.works := List.mem_append_right _ (by simp [isRunning])
  exact ⟨same, sound.queued key coroutine found work queued, held⟩

/-- Steps of one group's coroutine: only its queue, its running work and its merge
change. -/
theorem ConsumerSound.worked {coroutine later : GroupCoroutine} {merge : Option MergeTask}
    (sound : ConsumerSound config past before) (found : before.groups key = some coroutine)
    (works : ∀ work ∈ later.works, work ∈ coroutine.works)
    (groups : after.groups = Function.update before.groups key (some later))
    (merges : after.layer.merges = Function.update before.layer.merges key merge)
    (runs : ∀ task, merge = some task → ∃ work, later.running = some work ∧
      task.entityEvent = work.entityEvent ∧
      MergeAccounted config (before :: past) after key work.messageId task.entityEvent task.stage)
    (entityEvents : after.layer.entityEvents = before.layer.entityEvents)
    (store : ∀ other active, after.layer.store other = some active →
      before.layer.store other = some active ∨ active.group = other)
    (forward : before.stream.Forward after.stream) (stream : after.stream.WellFormed)
    (deadLetters : after.deadLetters = before.deadLetters)
    (loops : after.loops = before.loops)
    (accounted : ∀ id fields, after.stream.fields id = some fields →
      after.stream.Acknowledged id → before.stream.Acknowledged id ∨
        Once (WhilePending id (Accounted config id fields)) (before :: past) after) :
    ConsumerSound config (before :: past) after := by
  have frame : ConsumerFrame before after := by
    constructor
    · rw [entityEvents]
      exact fun _ _ found => found
    · exact forward
    · rw [deadLetters]
      exact fun _ member => member
  refine sound.stepped frame stream ?_ store ?_ ?_ ?_ accounted
  · rw [entityEvents]
    exact fun _ _ found => Or.inl found
  · rw [loops]
    exact fun _ => Or.inl rfl
  · intro other co coFound work member
    rw [groups] at coFound
    rcases of_update_some coFound with ⟨rfl, rfl⟩ | ⟨-, old⟩
    · exact Or.inl ⟨coroutine, found, works work member⟩
    · exact Or.inl ⟨co, old, member⟩
  · intro other task running
    rw [merges] at running
    by_cases same : other = key
    · rw [same, Function.update_self] at running
      obtain ⟨work, isRunning, sameRow, held⟩ := runs task running
      refine Or.inr ⟨later, work, ?_, isRunning, sameRow, same ▸ held⟩
      rw [groups, same, Function.update_self]
    · rw [Function.update_of_ne same] at running
      refine Or.inl ⟨running, fun old oldFound => ⟨old, ?_, rfl⟩⟩
      rw [groups, Function.update_of_ne same]
      exact oldFound

theorem ConsumerSound.startedWork (sound : ConsumerSound config past before)
    (moved : startWork config before key = some after) :
    ConsumerSound config (before :: past) after := by
  obtain ⟨coroutine, found, started⟩ := Option.bind_eq_some_iff.mp moved
  split at started
  · rename_i work queue idle queued
    obtain ⟨layer, begun, rfl⟩ := Option.map_eq_some_iff.mp started
    obtain ⟨row, rowFound, merged⟩ := Option.bind_eq_some_iff.mp begun
    have workSound := sound.queued key coroutine found work
      (List.mem_append_left _ (by simp [queued]))
    obtain ⟨-, stored, ofKey⟩ := workSound
    subst ofKey
    cases stored.symm.trans rowFound
    split at merged
    · cases merged
    · cases merged
      refine sound.worked found ?_ rfl rfl ?_ rfl (fun _ _ found => Or.inl found)
        before.stream.forward_refl sound.stream rfl rfl
        (fun _ _ _ acknowledged => Or.inl acknowledged)
      · intro other member
        simp only [GroupCoroutine.works, Option.toList_some, List.mem_append,
          List.mem_singleton] at member
        rcases member with waiting | rfl
        · exact List.mem_append_left _ (by simp [queued, waiting])
        · exact List.mem_append_left _ (by simp [queued])
      · intro task same
        cases same
        exact ⟨work, rfl, rfl, trivial⟩
  · cases started

theorem ConsumerSound.resumedWork {reply : Reply} (sound : ConsumerSound config past before)
    (moved : resumeWork config before key reply = some after) :
    ConsumerSound config (before :: past) after := by
  obtain ⟨coroutine, found, bound⟩ := Option.bind_eq_some_iff.mp moved
  obtain ⟨work, isRunning, resumed⟩ := Option.bind_eq_some_iff.mp bound
  obtain ⟨layer, stepped, called⟩ := Option.map_eq_some_iff.mp resumed
  obtain ⟨task, running, step⟩ := resumeMerge_step stepped
  obtain ⟨sameRow, ⟨carries, stored, ofKey⟩, held⟩ := sound.workOf running found isRunning
  rw [← sameRow] at stored ofKey
  obtain ⟨entityEvents, store, stage, merges, accounted⟩ :=
    mergeStep_accounted step running carries.1 stored ofKey
      (fun active => sound.keys key active) held
  have works : ∀ other ∈ coroutine.works, other ∈ coroutine.works := fun _ member => member
  have groups : before.groups = Function.update before.groups key (some coroutine) := by
    rw [← found, Function.update_eq_self]
  have goesOn (after : ConsumerState) (sameLayer : after.layer = layer)
      (sameStream : after.stream = before.stream) :
      ∀ later, some ({ task with stage := stage } : MergeTask) = some later →
        ∃ work, coroutine.running = some work ∧ later.entityEvent = work.entityEvent ∧
          MergeAccounted config (before :: past) after key work.messageId later.entityEvent
            later.stage := by
    intro later same
    cases same
    exact ⟨work, isRunning, sameRow,
      accounted after (by rw [sameLayer]) (by rw [sameLayer]) sameStream⟩
  rw [merges, Function.update_self] at called
  cases stage with
  | onSuccess =>
      cases called
      exact sound.worked found works groups merges (goesOn _ rfl rfl) entityEvents store
        before.stream.forward_refl sound.stream rfl rfl
        (fun _ _ _ acknowledged => Or.inl acknowledged)
  | onFailure =>
      cases called
      have ended : Function.update layer.merges key none =
          Function.update before.layer.merges key none := by
        rw [merges, Function.update_idem]
      refine @ConsumerSound.worked config past before _ key coroutine
        { coroutine with running := none } none sound found ?_ rfl ended (by simp)
        entityEvents store before.stream.forward_refl sound.stream rfl rfl
        (fun _ _ _ acknowledged => Or.inl acknowledged)
      intro other member
      exact List.mem_append_left _ (by simpa [GroupCoroutine.works] using member)
  | getActiveEvent | isMerged | replace | upsert =>
      cases called
      exact sound.worked found works groups merges (goesOn _ rfl rfl) entityEvents store
        before.stream.forward_refl sound.stream rfl rfl
        (fun _ _ _ acknowledged => Or.inl acknowledged)

theorem ConsumerSound.ackedWork {answer : Answer} (sound : ConsumerSound config past before)
    (moved : resumeAck before key answer = some after) :
    ConsumerSound config (before :: past) after := by
  obtain ⟨coroutine, found, bound⟩ := Option.bind_eq_some_iff.mp moved
  obtain ⟨work, isRunning, resumed⟩ := Option.bind_eq_some_iff.mp bound
  split at resumed
  · rename_i called
    obtain ⟨task, running, stage⟩ := Option.map_eq_some_iff.mp called
    obtain ⟨sameRow, ⟨⟨-, fields, known, valid⟩, -, -⟩, held⟩ :=
      sound.workOf running found isRunning
    rw [stage] at held
    have settled : Explained work.messageId (fun earlier => Settled config earlier.layer
        task.entityEvent.entityEventId) past before := held
    have accounted : ∀ other, before.stream.fields work.messageId = some other →
        Explained work.messageId (Accounted config work.messageId other) past before := by
      intro other otherKnown
      have same : fields = other := Option.some.inj (known.symm.trans otherKnown)
      refine settled.imp ?_
      intro earlier final
      exact Or.inl ⟨_, same ▸ valid, sameRow ▸ final⟩
    have stream : after.stream = ackApplied before.stream answer work.messageId := by
      cases resumed
      cases answer <;> rfl
    refine @ConsumerSound.worked config past before after key coroutine
      { coroutine with running := none } none sound found ?_ ?_ ?_ (by simp) ?_ ?_ ?_ ?_ ?_ ?_ ?_
    · intro other member
      exact List.mem_append_left _ (by simpa [GroupCoroutine.works] using member)
    · cases resumed
      cases answer <;> rfl
    · cases resumed
      cases answer <;> rfl
    · cases resumed
      cases answer <;> rfl
    · cases resumed
      cases answer <;> exact fun _ _ found => Or.inl found
    · rw [stream]
      exact forward_ackApplied before.stream answer work.messageId
    · rw [stream]
      exact wellFormed_ackApplied sound.stream answer work.messageId
    · cases resumed
      cases answer <;> rfl
    · cases resumed
      cases answer <;> rfl
    · rw [stream, ackApplied_fields]
      intro id other otherKnown acknowledged
      rcases acknowledged_ackApplied acknowledged with rfl | old
      · rcases accounted other otherKnown with before' | once
        · exact Or.inl before'
        · exact Or.inr once.later
      · exact Or.inl old
  · cases resumed

theorem ConsumerSound.idled (sound : ConsumerSound config past before)
    (moved : idleOut before key = some after) :
    ConsumerSound config (before :: past) after := by
  unfold idleOut at moved
  split at moved
  · rename_i found
    cases moved
    have frame : ConsumerFrame before { before with
        groups := Function.update before.groups key none
        permits := before.permits + 1 } :=
      ⟨fun _ _ found => found, before.stream.forward_refl, fun _ member => member⟩
    refine sound.stepped frame sound.stream (fun _ _ found => Or.inl found)
      (fun _ _ found => Or.inl found) (fun _ => Or.inl rfl) ?_ ?_
      (fun _ _ _ acknowledged => Or.inl acknowledged)
    · intro other coroutine otherFound work member
      exact Or.inl ⟨coroutine, (of_update_none otherFound).2, member⟩
    · intro other task running
      refine Or.inl ⟨running, ?_⟩
      intro old oldFound
      by_cases same : other = key
      · -- the idle group runs nothing
        obtain ⟨coroutine, work, itsFound, isRunning, -⟩ := sound.merges other task running
        rw [same, found] at itsFound
        cases itsFound
        cases isRunning
      · exact ⟨old, by simpa [same] using oldFound, rfl⟩
  · cases moved

end Groups

/-! ## Runs -/

section Runs
variable {config : AggregationConfig} {past : List ConsumerState}
  {before after : ConsumerState}

/-- Steps of the layer apart from its merges. -/
theorem ConsumerSound.layered {action : AggregationAction}
    (sound : ConsumerSound config past before) (apart : action.ofMerge = false)
    (moved : aggregationStep config before.layer action = some after.layer)
    (groups : after.groups = before.groups) (stream : after.stream = before.stream)
    (deadLetters : after.deadLetters = before.deadLetters)
    (loops : ∀ loop, after.loops loop = before.loops loop ∨ after.loops loop = .waiting) :
    ConsumerSound config (before :: past) after := by
  obtain ⟨entityEvents, keyed, store, merges⟩ := aggregationStep_frame apart moved
  have frame : ConsumerFrame before after := by
    refine ⟨entityEvents, ?_, ?_⟩
    · rw [stream]
      exact before.stream.forward_refl
    · rw [deadLetters]
      exact fun _ member => member
  refine sound.stepped frame (stream ▸ sound.stream) keyed
    (fun key active found => Or.inl (store key active found)) ?_ ?_ ?_ ?_
  · intro loop
    rcases loops loop with same | waiting
    · exact Or.inl same
    · rw [waiting]
      exact Or.inr trivial
  · rw [groups]
    exact fun key coroutine found work member => Or.inl ⟨coroutine, found, member⟩
  · rw [groups, merges]
    exact fun key task running => Or.inl ⟨running, fun old found => ⟨old, found, rfl⟩⟩
  · rw [stream]
    exact fun _ _ _ acknowledged => Or.inl acknowledged

/-- Steps of the stream apart from acknowledgements. -/
theorem ConsumerSound.streamed {stream : SignalStream} {loops : LoopName → LoopTask}
    (sound : ConsumerSound config past before) (valid : stream.WellFormed)
    (forward : before.stream.Forward stream)
    (acknowledged : ∀ id, stream.Acknowledged id → before.stream.Acknowledged id)
    (loopsSound : ∀ loop, loops loop = before.loops loop ∨
      LoopSound (before :: past) { before with stream := stream, loops := loops }
        (loops loop)) :
    ConsumerSound config (before :: past)
      { before with stream := stream, loops := loops } := by
  have frame : ConsumerFrame before { before with stream := stream, loops := loops } :=
    ⟨fun _ _ found => found, forward, fun _ member => member⟩
  exact sound.stepped frame valid (fun _ _ found => Or.inl found)
    (fun _ _ found => Or.inl found) loopsSound
    (fun _ coroutine found _ member => Or.inl ⟨coroutine, found, member⟩)
    (fun _ _ running => Or.inl ⟨running, fun old found => ⟨old, found, rfl⟩⟩)
    (fun id _ _ isAcknowledged => Or.inl (acknowledged id isAcknowledged))

theorem ConsumerSound.onLayer {action : AggregationAction}
    (sound : ConsumerSound config past before) (apart : action.ofMerge = false)
    (moved : onLayer config before action = some after) :
    ConsumerSound config (before :: past) after := by
  obtain ⟨layer, stepped, rfl⟩ := Option.map_eq_some_iff.mp moved
  exact sound.layered apart stepped rfl rfl rfl (fun _ => Or.inl rfl)

theorem ConsumerSound.stopped (sound : ConsumerSound config past before)
    (moved : Pipeline.onLayer config (cancelLoop (cancelLoop before .consumer) .reclaim)
      .stopFlush = some after) : ConsumerSound config (before :: past) after := by
  obtain ⟨layer, stepped, rfl⟩ := Option.map_eq_some_iff.mp moved
  obtain ⟨layer₁, groups₁, stream₁, deadLetters₁, loops₁⟩ := cancelLoop_kept before .consumer
  obtain ⟨layer₂, groups₂, stream₂, deadLetters₂, loops₂⟩ :=
    cancelLoop_kept (cancelLoop before .consumer) .reclaim
  rw [layer₂, layer₁] at stepped
  refine sound.layered rfl stepped (groups₂.trans groups₁) (stream₂.trans stream₁)
    (deadLetters₂.trans deadLetters₁) ?_
  intro loop
  rcases loops₂ loop with same | waiting
  · rw [same]
    exact loops₁ loop
  · exact Or.inr waiting

theorem ConsumerSound.crashed (sound : ConsumerSound config past before) :
    ConsumerSound config (before :: past) { before with
      layer := { before.layer with
        lastFlushed := fun _ => none, merges := fun _ => none, flush := none }
      enqueued := fun _ => false
      groups := fun _ => none
      permits := config.maxConcurrent
      loops := fun _ => .waiting } := by
  have frame : ConsumerFrame before { before with
      layer := { before.layer with
        lastFlushed := fun _ => none, merges := fun _ => none, flush := none }
      enqueued := fun _ => false
      groups := fun _ => none
      permits := config.maxConcurrent
      loops := fun _ => .waiting } :=
    ⟨fun _ _ found => found, before.stream.forward_refl, fun _ member => member⟩
  refine sound.stepped frame sound.stream (fun _ _ found => Or.inl found)
    (fun _ _ found => Or.inl found) (fun _ => Or.inr trivial) ?_ ?_
    (fun _ _ _ acknowledged => Or.inl acknowledged)
  · intro key coroutine impossible
    cases impossible
  · intro key task impossible
    cases impossible

theorem ConsumerSound.step {action : ConsumerAction}
    (sound : ConsumerSound config past before)
    (moved : consumerStep config before action = some after) :
    ConsumerSound config (before :: past) after := by
  cases consumerStep_step moved with
  | layered apart moved => exact sound.onLayer apart moved
  | published added =>
      exact sound.streamed (StreamGroup.wellFormed_add sound.stream added)
        (before.stream.forward_add added)
        (fun id => StreamGroup.acknowledged_add added) (fun _ => Or.inl rfl)
  | @read count lost =>
      refine sound.streamed (before.stream.wellFormed_readGroup sound.stream count)
        (before.stream.forward_readGroup count)
        (fun id => before.stream.acknowledged_readGroup count) ?_
      intro loop
      by_cases same : loop = .consumer
      · refine Or.inr ?_
        subst same
        simp only [Function.update_self]
        split
        · trivial
        · apply loopSound_routeRest
          intro message member
          have known : before.stream.fields message.id = some message.fields :=
            readFrom_known member
          exact ⟨readFrom_delivered sound.stream member, known⟩
      · exact Or.inl (by simp [same])
  | @autoclaimed ids lost =>
      refine sound.streamed (before.stream.wellFormed_autoclaim sound.stream ids)
        (before.stream.forward_autoclaim ids)
        (fun id => before.stream.acknowledged_autoclaim ids) ?_
      intro loop
      by_cases same : loop = .reclaim
      · refine Or.inr ?_
        subst same
        simp only [Function.update_self]
        split <;> trivial
      · exact Or.inl (by simp [same])
  | routed at' => exact sound.route at'
  | resumedLoop moved => exact sound.resumedLoop moved
  | startedWork moved => exact sound.startedWork moved
  | resumedWork moved => exact sound.resumedWork moved
  | resumedAck moved => exact sound.ackedWork moved
  | idled moved => exact sound.idled moved
  | stopped moved => exact sound.stopped moved
  | crashed => exact sound.crashed

end Runs

/-- In every run each message waits in the stream, is pending, or was accounted for while
it was pending: its EntityEvent was in its group's active Event or mapped, had no row, or
was judged late, or a copy of it was written to the dead-letter stream. -/
theorem acknowledged_accounted {config : AggregationConfig} {past : List ConsumerState}
    {state : ConsumerState}
    (trace : (consumerMachine config).Trace anyAction past state)
    {messageId : MessageId} {fields : SignalFields}
    (added : state.stream.fields messageId = some fields) :
    messageId ∈ state.stream.backlog ∨ (state.stream.pending messageId).isSome ∨
      Once (WhilePending messageId (Accounted config messageId fields)) past state := by
  have sound : ConsumerSound config past state := by
    apply trace.history_invariant
    · intro start begins
      rw [show start = ConsumerState.initial config from begins]
      exact consumerSound_initial config
    · intro history before action after _ held _ moved
      exact held.step moved
  by_cases waiting : messageId ∈ state.stream.backlog
  · exact Or.inl waiting
  · cases pending : state.stream.pending messageId with
    | some count => exact Or.inr (Or.inl rfl)
    | none =>
        have acknowledged : state.stream.Acknowledged messageId :=
          ⟨by rw [added]; rfl, waiting, pending⟩
        exact Or.inr (Or.inr (sound.accounted messageId fields added acknowledged))

/-! ## A run with a failed acknowledgement and a redelivery -/

def signal (entityEventId : UUID) : SignalFields := ⟨some "1", .uuid entityEventId⟩

def workOn (steps : Nat) (eventId : UUID) : List ConsumerAction :=
  .startWork sampleGroup ::
    List.replicate steps (.resumeWork sampleGroup (reply .done 1 eventId))

/-- The merge is stored but its acknowledgement fails; the reclaimed message finds
its EntityEvent merged. -/
def ackFailsOnce : List ConsumerAction :=
  [.storeEntityEvent (sampleEntityEvent 1 0), .publish 7 (signal 1), .read 10 false,
    .route .consumer, .resumeLoop .consumer .done 0] ++ workOn 3 10 ++
  [.resumeAck sampleGroup (.unreachable false), .autoclaim [7] false,
    .resumeLoop .reclaim .done 0, .route .reclaim, .resumeLoop .reclaim .done 0] ++
  workOn 1 11 ++ [.resumeAck sampleGroup .done, .idleOut sampleGroup]

theorem acknowledged_accounted_redelivered : ∃ past state,
    (consumerMachine defaultAggregationConfig).Trace anyAction past state ∧
    state.stream.Acknowledged 7 ∧
    Once (WhilePending 7 (Accounted defaultAggregationConfig 7 (signal 1))) past state := by
  obtain ⟨past, state, trace, tested⟩ :=
    Trace.of_free_run (consumerMachine defaultAggregationConfig)
      (fun state => decide (state.stream.Acknowledged 7) &&
        decide (state.stream.fields 7 = some (signal 1))) rfl
      ackFailsOnce (by decide +kernel)
  simp only [Bool.and_eq_true, decide_eq_true_eq] at tested
  obtain ⟨acknowledged, added⟩ := tested
  refine ⟨past, state, trace, acknowledged, ?_⟩
  rcases acknowledged_accounted trace added with waiting | pending | accounted
  · exact absurd waiting acknowledged.2.1
  · rw [acknowledged.2.2] at pending
    cases pending
  · exact accounted

end WealthFinder.Pipeline
