import WealthFinder.Pipeline.InFlightGuard

/-!
# Dead-lettering and the in-flight guard

`_route` checks the delivery count before `_enqueued`.  A message is written as out of
retries only once it was claimed with `max_retry` deliveries, and then whether or not
its EntityEvent is still queued or being merged.
-/

set_option autoImplicit false

namespace WealthFinder.Pipeline

open Machine

/-- The pending entry of the message has used up its deliveries. -/
def UsedUp (config : AggregationConfig) (messageId : MessageId) (state : ConsumerState) :
    Prop :=
  ∃ count : Nat, state.stream.pending messageId = some count ∧ config.maxRetry ≤ count

/-- The delivery count of a reclaimed message was that of its pending entry. -/
def Counted (past : List ConsumerState) (state : ConsumerState) (message : StreamMessage) :
    Prop :=
  ∀ count, message.deliveryCount = some count →
    Once (fun earlier => earlier.stream.pending message.id = some count) past state

def StageCounted (config : AggregationConfig) (past : List ConsumerState)
    (state : ConsumerState) : RouteStage → Prop
  | .publishDeadLetter message _ => Counted past state message ∧
      (message.fields.getValidId.isSome → message.outOfRetries config.maxRetry = true)
  | _ => True

def LoopCounted (config : AggregationConfig) (past : List ConsumerState)
    (state : ConsumerState) : LoopTask → Prop
  | .routing stage rest => StageCounted config past state stage ∧
      ∀ message ∈ rest, Counted past state message
  | _ => True

theorem outOfRetries_iff {message : StreamMessage} {maxRetry : Int} :
    message.outOfRetries maxRetry = true ↔
      ∃ count : Nat, message.deliveryCount = some count ∧ maxRetry ≤ count := by
  unfold StreamMessage.outOfRetries
  cases message.deliveryCount with
  | none => simp
  | some count => simp

structure RetrySound (config : AggregationConfig) (past : List ConsumerState)
    (state : ConsumerState) : Prop where
  loops : ∀ loop, LoopCounted config past state (state.loops loop)
  letters : ∀ copy ∈ state.deadLetters, copy.fields.getValidId.isSome →
    Once (UsedUp config copy.messageId) past state

section Steps
variable {config : AggregationConfig} {past : List ConsumerState}
  {before after : ConsumerState} {loop : LoopName}

theorem Counted.later {message : StreamMessage} (counted : Counted past before message) :
    Counted (before :: past) after message :=
  fun count is => (counted count is).later

theorem LoopCounted.later {task : LoopTask} (counted : LoopCounted config past before task) :
    LoopCounted config (before :: past) after task := by
  cases task with
  | waiting | pendingRange => trivial
  | routing stage rest =>
      refine ⟨?_, fun message member => (counted.2 message member).later⟩
      cases stage with
      | publishDeadLetter message reason => exact ⟨counted.1.1.later, counted.1.2⟩
      | next | ackDeadLetter | fetchEntityEvent | ackMissing | acquirePermit => trivial

theorem loopCounted_routeRest {rest : List StreamMessage}
    (counted : ∀ message ∈ rest, Counted past before message) :
    LoopCounted config past before (routeRest rest) := by
  cases rest with
  | nil => trivial
  | cons message rest => exact ⟨trivial, counted⟩

theorem loopCounted_afterAck {rest : List StreamMessage} (answer : Answer)
    (counted : ∀ message ∈ rest, Counted past before message) :
    LoopCounted config past before (afterAck answer rest) := by
  cases answer with
  | done | failed => exact loopCounted_routeRest counted
  | unreachable => trivial

theorem RetrySound.stepped (sound : RetrySound config past before)
    (loops : ∀ loop, after.loops loop = before.loops loop ∨
      LoopCounted config (before :: past) after (after.loops loop))
    (letters : ∀ copy ∈ after.deadLetters, copy ∈ before.deadLetters ∨
      (copy.fields.getValidId.isSome →
        Once (UsedUp config copy.messageId) (before :: past) after)) :
    RetrySound config (before :: past) after where
  loops := by
    intro loop
    rcases loops loop with same | counted
    · rw [same]
      exact (sound.loops loop).later
    · exact counted
  letters := by
    intro copy member valid
    rcases letters copy member with old | usedUp
    · exact (sound.letters copy old valid).later
    · exact usedUp valid

/-- A step of one loop that writes no dead letter. -/
theorem RetrySound.looped {task : LoopTask} (sound : RetrySound config past before)
    (loops : after.loops = Function.update before.loops loop task)
    (letters : after.deadLetters = before.deadLetters)
    (counted : LoopCounted config (before :: past) after task) :
    RetrySound config (before :: past) after := by
  refine sound.stepped ?_ ?_
  · intro other
    by_cases same : other = loop
    · rw [loops, same, Function.update_self]
      exact Or.inr counted
    · exact Or.inl (by rw [loops, Function.update_of_ne same])
  · rw [letters]
    exact fun copy member => Or.inl member

/-- Neither has a loop moved nor a dead letter been written. -/
def LoopsApart (before after : ConsumerState) : Prop :=
  after.loops = before.loops ∧ after.deadLetters = before.deadLetters

theorem RetrySound.apart (sound : RetrySound config past before)
    (apart : LoopsApart before after) :
    RetrySound config (before :: past) after := by
  obtain ⟨loops, letters⟩ := apart
  refine sound.stepped (fun loop => Or.inl (by rw [loops])) ?_
  rw [letters]
  exact fun copy member => Or.inl member

theorem RetrySound.route {message : StreamMessage} {rest : List StreamMessage}
    (sound : RetrySound config past before)
    (at' : before.loops loop = .routing .next (message :: rest)) :
    RetrySound config (before :: past) (route config before loop message rest) := by
  have held := sound.loops loop
  rw [at'] at held
  have counted (later : ConsumerState) : Counted (before :: past) later message :=
    (held.2 message List.mem_cons_self).later
  have others (later : ConsumerState) : ∀ other ∈ rest, Counted (before :: past) later other :=
    fun other member => (held.2 other (List.mem_cons_of_mem _ member)).later
  unfold Pipeline.route
  split
  · rename_i out
    exact sound.looped rfl rfl ⟨⟨counted _, fun _ => out⟩, others _⟩
  · split
    · rename_i malformed
      refine sound.looped rfl rfl ⟨⟨counted _, fun valid => ?_⟩, others _⟩
      rw [malformed] at valid
      cases valid
    · split
      · exact sound.looped rfl rfl (loopCounted_routeRest (others _))
      · exact sound.looped rfl rfl ⟨trivial, others _⟩

theorem RetrySound.deadLettered {message : StreamMessage} {reason : DeadLetterReason}
    {rest : List StreamMessage} {answer : Answer} {now : Timestamp}
    (sound : RetrySound config past before)
    (at' : before.loops loop = .routing (.publishDeadLetter message reason) rest) :
    RetrySound config (before :: past)
      (resumePublishDeadLetter before loop message reason rest answer now) := by
  have held := sound.loops loop
  rw [at'] at held
  obtain ⟨⟨counted, out⟩, others⟩ := held
  have usedUp (valid : message.fields.getValidId.isSome) :
      Once (UsedUp config message.id) past before := by
    obtain ⟨count, is, reached⟩ := outOfRetries_iff.mp (out valid)
    refine (counted count is).imp ?_
    intro earlier pending
    exact ⟨count, pending, reached⟩
  refine sound.stepped ?_ ?_
  · intro other
    by_cases same : other = loop
    · refine Or.inr ?_
      simp only [resumePublishDeadLetter, ConsumerState.setLoop, same, Function.update_self]
      cases answer with
      | done => exact ⟨trivial, fun other member => (others other member).later⟩
      | unreachable =>
          exact ⟨⟨counted.later, out⟩, fun other member => (others other member).later⟩
      | failed => exact loopCounted_routeRest fun other member => (others other member).later
    · exact Or.inl (by simp [resumePublishDeadLetter, ConsumerState.setLoop, same])
  · intro copy member
    simp only [resumePublishDeadLetter, ConsumerState.setLoop] at member
    split at member
    · rcases List.mem_cons.mp member with rfl | old
      · exact Or.inr fun valid => (usedUp valid).later
      · exact Or.inl old
    · exact Or.inl member

theorem counted_readFrom {stream : SignalStream} {count : Nat} {message : StreamMessage}
    (member : message ∈ (readFrom stream count).1) : message.deliveryCount = none := by
  obtain ⟨id, -, mapped⟩ := List.mem_filterMap.mp member
  obtain ⟨fields, -, rfl⟩ := Option.map_eq_some_iff.mp mapped
  rfl

theorem counted_reclaimed {stream : SignalStream} {claimed : List MessageId}
    {message : StreamMessage} (member : message ∈ reclaimed stream claimed) :
    stream.pending message.id = message.deliveryCount := by
  obtain ⟨id, -, bound⟩ := List.mem_filterMap.mp member
  obtain ⟨fields, -, mapped⟩ := Option.bind_eq_some_iff.mp bound
  obtain ⟨count, pending, rfl⟩ := Option.map_eq_some_iff.mp mapped
  exact pending

theorem RetrySound.resumedLoop {answer : Answer} {now : Timestamp}
    (sound : RetrySound config past before)
    (moved : resumeLoop before loop answer now = some after) :
    RetrySound config (before :: past) after := by
  have held := sound.loops loop
  unfold resumeLoop at moved
  split at moved
  · cases moved
  · split at moved <;> cases moved
    · refine sound.looped rfl rfl (loopCounted_routeRest fun message member count is => ?_)
      exact Or.inr ⟨before, List.mem_cons_self, (counted_reclaimed member).trans is⟩
    · exact sound.looped rfl rfl trivial
    · exact sound.looped rfl rfl trivial
  · rename_i stage rest at'
    rw [at'] at held
    have others (later : ConsumerState) : ∀ other ∈ rest, Counted (before :: past) later other :=
      fun other member => (held.2 other member).later
    split at moved
    · cases moved
    · cases moved
      exact sound.deadLettered at'
    · cases moved
      exact sound.looped rfl rfl (loopCounted_afterAck answer (others _))
    · rename_i entityEventId messageId
      cases moved
      unfold resumeFetchEntityEvent
      cases answer with
      | unreachable => exact sound.apart ⟨rfl, rfl⟩
      | failed => exact sound.looped rfl rfl (loopCounted_routeRest (others _))
      | done =>
          simp only
          split
          · exact sound.looped rfl rfl ⟨trivial, others _⟩
          · split
            · rename_i enqueued handed
              obtain ⟨coroutine, permits, rfl, -⟩ := enqueueWork_cases handed
              exact sound.looped rfl rfl (loopCounted_routeRest (others _))
            · exact sound.looped rfl rfl ⟨trivial, others _⟩
    · cases moved
      cases answer <;>
        exact sound.looped rfl rfl (loopCounted_afterAck _ (others _))
    · split at moved
      · obtain ⟨enqueued, handed, rfl⟩ := Option.map_eq_some_iff.mp moved
        obtain ⟨coroutine, permits, rfl, -⟩ := enqueueWork_cases handed
        exact sound.looped rfl rfl (loopCounted_routeRest (others _))
      · cases moved

theorem startWork_apart {key : GroupKey} (moved : startWork config before key = some after) :
    LoopsApart before after := by
  obtain ⟨coroutine, -, started⟩ := Option.bind_eq_some_iff.mp moved
  split at started
  · obtain ⟨layer, -, rfl⟩ := Option.map_eq_some_iff.mp started
    exact ⟨rfl, rfl⟩
  · cases started

theorem resumeWork_apart {key : GroupKey} {reply : Reply}
    (moved : resumeWork config before key reply = some after) : LoopsApart before after := by
  obtain ⟨coroutine, -, bound⟩ := Option.bind_eq_some_iff.mp moved
  obtain ⟨work, -, resumed⟩ := Option.bind_eq_some_iff.mp bound
  obtain ⟨layer, -, called⟩ := Option.map_eq_some_iff.mp resumed
  split at called <;> cases called <;> exact ⟨rfl, rfl⟩

theorem resumeAck_apart {key : GroupKey} {answer : Answer}
    (moved : resumeAck before key answer = some after) : LoopsApart before after := by
  obtain ⟨coroutine, -, bound⟩ := Option.bind_eq_some_iff.mp moved
  obtain ⟨work, -, resumed⟩ := Option.bind_eq_some_iff.mp bound
  split at resumed
  · cases resumed
    cases answer <;> exact ⟨rfl, rfl⟩
  · cases resumed

theorem idleOut_apart {key : GroupKey} (moved : idleOut before key = some after) :
    LoopsApart before after := by
  unfold idleOut at moved
  split at moved
  · cases moved
    exact ⟨rfl, rfl⟩
  · cases moved

theorem RetrySound.onLayer {action : AggregationAction} (sound : RetrySound config past before)
    (moved : onLayer config before action = some after) :
    RetrySound config (before :: past) after := by
  obtain ⟨layer, -, rfl⟩ := Option.map_eq_some_iff.mp moved
  exact sound.apart ⟨rfl, rfl⟩

theorem RetrySound.step {action : ConsumerAction} (sound : RetrySound config past before)
    (moved : consumerStep config before action = some after) :
    RetrySound config (before :: past) after := by
  cases consumerStep_step moved with
  | layered _ moved => exact sound.onLayer moved
  | published => exact sound.apart ⟨rfl, rfl⟩
  | read =>
      refine sound.looped rfl rfl ?_
      split
      · trivial
      · refine loopCounted_routeRest fun message member count is => ?_
        rw [counted_readFrom member] at is
        cases is
  | autoclaimed =>
      refine sound.looped rfl rfl ?_
      split <;> trivial
  | routed at' => exact sound.route at'
  | resumedLoop moved => exact sound.resumedLoop moved
  | startedWork moved => exact sound.apart (startWork_apart moved)
  | resumedWork moved => exact sound.apart (resumeWork_apart moved)
  | resumedAck moved => exact sound.apart (resumeAck_apart moved)
  | idled moved => exact sound.apart (idleOut_apart moved)
  | stopped moved =>
      obtain ⟨layer, -, rfl⟩ := Option.map_eq_some_iff.mp moved
      obtain ⟨-, -, -, letters₁, -⟩ := cancelLoop_kept before .consumer
      obtain ⟨-, -, -, letters₂, -⟩ :=
        cancelLoop_kept (cancelLoop before .consumer) .reclaim
      refine sound.stepped ?_ ?_
      · intro loop
        simp only
        rw [cancelLoop_loops, cancelLoop_loops]
        cases loop <;> exact Or.inr trivial
      · intro copy member
        refine Or.inl ?_
        rw [← letters₁, ← letters₂]
        exact member
  | crashed => exact sound.stepped (fun _ => Or.inr trivial) fun _ member => Or.inl member

end Steps

/-- In every run a well-formed message is in the dead-letter stream only if it was pending
with `max_retry` deliveries.  Below that a copy whose EntityEvent is in flight is skipped:
only the loop moves on.  From then on the copy is dead-lettered, in flight or not. -/
theorem deadLetter_needs_maxRetry {config : AggregationConfig} {past : List ConsumerState}
    {state : ConsumerState} (trace : (consumerMachine config).Trace anyAction past state) :
    (∀ copy ∈ state.deadLetters, copy.fields.getValidId.isSome →
      Once (UsedUp config copy.messageId) past state) ∧
    ∀ (loop : LoopName) (message : StreamMessage) (rest : List StreamMessage) (id : UUID),
      state.loops loop = .routing .next (message :: rest) →
      message.fields.getValidId = some id → state.enqueued id = true →
      Counted past state message ∧
      consumerStep config state (.route loop) = some (state.setLoop loop
        (if message.outOfRetries config.maxRetry then
          .routing (.publishDeadLetter message .retriesExhausted) rest
        else routeRest rest)) := by
  have sound : RetrySound config past state := by
    apply trace.history_invariant
    · intro start begins
      rw [show start = ConsumerState.initial config from begins]
      exact ⟨fun _ => trivial, fun _ member => absurd member List.not_mem_nil⟩
    · intro history before action after _ held _ moved
      exact held.step moved
  refine ⟨sound.letters, ?_⟩
  intro loop message rest id at' valid inFlight
  have held := sound.loops loop
  rw [at'] at held
  refine ⟨held.2 message List.mem_cons_self, ?_⟩
  simp only [consumerStep, at', route, valid, inFlight, if_true]
  split <;> rfl

/-! ## A queued EntityEvent whose message runs out of retries -/

def reclaimSecond : List ConsumerAction :=
  [.autoclaim [8] false, .resumeLoop .reclaim .done 0, .route .reclaim]

/-- The merge of the first EntityEvent is slow, and the message of the second, queued
behind it, is claimed twice. -/
def claimedWhileQueued : List ConsumerAction :=
  [.storeEntityEvent (sampleEntityEvent 1 0), .storeEntityEvent (sampleEntityEvent 2 1),
    .publish 7 (signal 1), .publish 8 (signal 2), .read 10 false,
    .route .consumer, .resumeLoop .consumer .done 0,
    .route .consumer, .resumeLoop .consumer .done 0, .startWork sampleGroup] ++
  reclaimSecond ++ reclaimSecond

theorem deadLetter_needs_maxRetry_queued : ∃ past state,
    (consumerMachine defaultAggregationConfig).Trace anyAction past state ∧
    state.unitsOf 2 (.group sampleGroup) = 1 ∧
    Once (UsedUp defaultAggregationConfig 8) past state := by
  obtain ⟨past, state, trace, seen⟩ :=
    Trace.of_run_view (consumerMachine defaultAggregationConfig) (fun _ _ => true)
      (fun state => (state.unitsOf 2 (.group sampleGroup), state.deadLetters))
      (1, [⟨8, signal 2, 3, 5, "1"⟩]) (fun _ _ _ _ _ => trivial) rfl
      (claimedWhileQueued ++ [.resumeLoop .reclaim .done 5]) (by decide +kernel)
  obtain ⟨queued, written⟩ := Prod.mk.inj seen
  have needed := (deadLetter_needs_maxRetry trace).1 ⟨8, signal 2, 3, 5, "1"⟩
    (by simp [written]) (by decide)
  exact ⟨past, state, trace, queued, needed⟩

/-- The dead letter is written while the EntityEvent waits in its group's queue. -/
theorem deadLetter_while_queued : ¬ ∀ past state,
    (consumerMachine defaultAggregationConfig).Trace anyAction past state →
      ∀ (loop : LoopName) (answer : Answer) (now : Timestamp) (after : ConsumerState)
        (message : StreamMessage) (rest : List StreamMessage) (id : UUID),
      state.loops loop = .routing (.publishDeadLetter message .retriesExhausted) rest →
      consumerStep defaultAggregationConfig state (.resumeLoop loop answer now) = some after →
      message.deadLetter now ∈ after.deadLetters → message.fields.getValidId = some id →
      ∀ key, state.unitsOf id (.group key) = 0 := by
  intro never
  obtain ⟨past, state, trace, seen⟩ :=
    Trace.of_run_view (consumerMachine defaultAggregationConfig) (fun _ _ => true)
      (fun state => (state.loops .reclaim, state.unitsOf 2 (.group sampleGroup),
        (consumerStep defaultAggregationConfig state
          (.resumeLoop .reclaim .done 5)).map ConsumerState.deadLetters))
      (.routing (.publishDeadLetter ⟨8, signal 2, some 3⟩ .retriesExhausted) [], 1,
        some [⟨8, signal 2, 3, 5, "1"⟩])
      (fun _ _ _ _ _ => trivial) rfl claimedWhileQueued (by decide +kernel)
  obtain ⟨at', rest⟩ := Prod.mk.inj seen
  obtain ⟨queued, writes⟩ := Prod.mk.inj rest
  obtain ⟨after, moved, written⟩ := Option.map_eq_some_iff.mp writes
  have none := never past state trace .reclaim .done 5 after _ _ 2 at' moved
    (by rw [written]; exact List.mem_cons_self) (by decide) sampleGroup
  rw [queued] at none
  cases none

end WealthFinder.Pipeline
