import WealthFinder.Pipeline.AggregationConsumer
import WealthFinder.Pipeline.AggregationSteps

/-!
# What one step of the aggregation consumer can change

The three invariants of the consumer, on its acknowledgements, on the work in flight and
on the retries, are case analyses of this relation.
-/

set_option autoImplicit false

namespace WealthFinder.Pipeline

/-- The steps of one loop or group are left to their own functions. -/
inductive ConsumerStep (config : AggregationConfig) (state : ConsumerState) :
    ConsumerAction → ConsumerState → Prop where
  | layered {label : ConsumerAction} {action : AggregationAction} {after : ConsumerState}
      (apart : action.ofMerge = false) (moved : onLayer config state action = some after) :
      ConsumerStep config state label after
  | published {messageId : MessageId} {fields : SignalFields} {stream : SignalStream}
      (added : state.stream.add messageId fields = some stream) :
      ConsumerStep config state (.publish messageId fields) { state with stream := stream }
  | read {count : Nat} {lost : Bool} (waiting : state.loops .consumer = .waiting) :
      ConsumerStep config state (.read count lost)
        ({ state with stream := (readFrom state.stream count).2 }.setLoop .consumer
          (if lost then .waiting else routeRest (readFrom state.stream count).1))
  | autoclaimed {ids : List MessageId} {lost : Bool}
      (waiting : state.loops .reclaim = .waiting) :
      ConsumerStep config state (.autoclaim ids lost)
        ({ state with stream := (state.stream.autoclaim ids).2 }.setLoop .reclaim
          (if lost || (state.stream.autoclaim ids).1.isEmpty then .waiting
            else .pendingRange (state.stream.autoclaim ids).1))
  | routed {loop : LoopName} {message : StreamMessage} {rest : List StreamMessage}
      (at' : state.loops loop = .routing .next (message :: rest)) :
      ConsumerStep config state (.route loop) (route config state loop message rest)
  | resumedLoop {loop : LoopName} {answer : Answer} {now : Timestamp} {after : ConsumerState}
      (moved : resumeLoop state loop answer now = some after) :
      ConsumerStep config state (.resumeLoop loop answer now) after
  | startedWork {key : GroupKey} {after : ConsumerState}
      (moved : startWork config state key = some after) :
      ConsumerStep config state (.startWork key) after
  | resumedWork {key : GroupKey} {reply : Reply} {after : ConsumerState}
      (moved : resumeWork config state key reply = some after) :
      ConsumerStep config state (.resumeWork key reply) after
  | resumedAck {key : GroupKey} {answer : Answer} {after : ConsumerState}
      (moved : resumeAck state key answer = some after) :
      ConsumerStep config state (.resumeAck key answer) after
  | idled {key : GroupKey} {after : ConsumerState}
      (moved : idleOut state key = some after) :
      ConsumerStep config state (.idleOut key) after
  | stopped {after : ConsumerState}
      (moved : onLayer config (cancelLoop (cancelLoop state .consumer) .reclaim) .stopFlush =
        some after) : ConsumerStep config state .stop after
  | crashed : ConsumerStep config state .crash { state with
      layer := { state.layer with
        lastFlushed := fun _ => none, merges := fun _ => none, flush := none }
      enqueued := fun _ => false
      groups := fun _ => none
      permits := config.maxConcurrent
      loops := fun _ => .waiting }

theorem consumerStep_step {config : AggregationConfig} {state after : ConsumerState}
    {action : ConsumerAction} (moved : consumerStep config state action = some after) :
    ConsumerStep config state action after := by
  cases action with
  | storeEntityEvent row => exact .layered rfl moved
  | expire key => exact .layered rfl moved
  | resumeFlush reply => exact .layered rfl moved
  | startFlush =>
      simp only [consumerStep] at moved
      split at moved
      · exact .layered rfl moved
      · cases moved
  | publish messageId fields =>
      obtain ⟨stream, added, rfl⟩ := Option.map_eq_some_iff.mp moved
      exact .published added
  | read count lost =>
      simp only [consumerStep] at moved
      split at moved
      · rename_i waiting
        cases moved
        exact .read waiting.1
      · cases moved
  | autoclaim ids lost =>
      simp only [consumerStep] at moved
      split at moved
      · rename_i waiting
        cases moved
        exact .autoclaimed waiting
      · cases moved
  | route loop =>
      simp only [consumerStep] at moved
      split at moved
      · rename_i message rest at'
        cases moved
        exact .routed at'
      · cases moved
  | resumeLoop loop answer now => exact .resumedLoop moved
  | startWork key => exact .startedWork moved
  | resumeWork key reply => exact .resumedWork moved
  | resumeAck key answer => exact .resumedAck moved
  | idleOut key => exact .idled moved
  | stop => exact .stopped moved
  | crash =>
      simp only [consumerStep] at moved
      obtain ⟨crashed, stepped, rfl⟩ := Option.map_eq_some_iff.mp moved
      obtain ⟨layer, crash, rfl⟩ := Option.map_eq_some_iff.mp stepped
      cases crash
      exact .crashed

theorem cancelLoop_kept (state : ConsumerState) (loop : LoopName) :
    (cancelLoop state loop).layer = state.layer ∧
    (cancelLoop state loop).groups = state.groups ∧
    (cancelLoop state loop).stream = state.stream ∧
    (cancelLoop state loop).deadLetters = state.deadLetters ∧
    ∀ other, (cancelLoop state loop).loops other = state.loops other ∨
      (cancelLoop state loop).loops other = .waiting := by
  have loops (kept : ConsumerState) (same : kept.loops = state.loops) (other : LoopName) :
      (kept.setLoop loop .waiting).loops other = state.loops other ∨
        (kept.setLoop loop .waiting).loops other = .waiting := by
    by_cases here : other = loop
    · exact Or.inr (by simp [ConsumerState.setLoop, here])
    · exact Or.inl (by simp [ConsumerState.setLoop, here, same])
  unfold cancelLoop
  split <;> exact ⟨rfl, rfl, rfl, rfl, loops _ rfl⟩

theorem cancelLoop_loops (state : ConsumerState) (loop : LoopName) :
    (cancelLoop state loop).loops = Function.update state.loops loop .waiting := by
  unfold cancelLoop
  split <;> rfl

end WealthFinder.Pipeline
