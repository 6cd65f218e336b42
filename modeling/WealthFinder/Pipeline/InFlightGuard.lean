import WealthFinder.InFlight
import WealthFinder.Pipeline.ConsumerAcks

/-!
# The in-flight guard of the aggregation consumer

`_enqueued` against the units of work of each EntityEvent: being handed over by a loop,
queued in a group or running there.  A running unit is finally reported by the callback
that discards its entry.  When the acknowledgement of `on_success` fails, the entry is
discarded again, which by then may be that of another delivery.
-/

set_option autoImplicit false

namespace WealthFinder.Pipeline

open Machine

/-- Where a unit of work is. -/
inductive WorkPlace where
  | loop (loop : LoopName)
  | group (key : GroupKey)
  deriving DecidableEq

/-- A loop hands the EntityEvent over from its check of `_enqueued` until the work is on
its group's queue or the hand-over has failed. -/
def RouteStage.handsOver (id : UUID) : RouteStage → Nat
  | .fetchEntityEvent entityEventId _ => if entityEventId = id then 1 else 0
  | .acquirePermit work => if work.entityEvent.entityEventId = id then 1 else 0
  | .next => 0
  | .publishDeadLetter _ _ => 0
  | .ackDeadLetter _ _ => 0
  | .ackMissing _ _ => 0

def LoopTask.handsOver (id : UUID) : LoopTask → Nat
  | .waiting => 0
  | .pendingRange _ => 0
  | .routing stage _ => stage.handsOver id

/-- `_merge` has called one of its callbacks. -/
def reported (merge : Option MergeTask) : Bool :=
  merge.any fun task => task.stage = .onSuccess ∨ task.stage = .onFailure

def Work.isOf (id : UUID) (work : Work) : Bool := work.entityEvent.entityEventId == id

/-- The works of the EntityEvent that its group has not finally reported. -/
def GroupCoroutine.unitsOf (coroutine : GroupCoroutine) (merge : Option MergeTask)
    (id : UUID) : Nat :=
  coroutine.queue.countP (Work.isOf id) +
    if reported merge then 0 else coroutine.running.toList.countP (Work.isOf id)

def ConsumerState.unitsOf (state : ConsumerState) (id : UUID) : WorkPlace → Nat
  | .loop loop => (state.loops loop).handsOver id
  | .group key =>
      match state.groups key with
      | none => 0
      | some coroutine => coroutine.unitsOf (state.layer.merges key) id

@[simp] theorem unitsOf_loop (state : ConsumerState) (id : UUID) (loop : LoopName) :
    state.unitsOf id (.loop loop) = (state.loops loop).handsOver id := rfl

/-- Each EntityEvent has at most one unit of work, and has one exactly when its id is in
`_enqueued`. -/
def GuardHolds (state : ConsumerState) : Prop :=
  ∀ id, (∀ place, state.unitsOf id place ≤ 1) ∧
    (∀ first second, 0 < state.unitsOf id first → 0 < state.unitsOf id second →
      first = second) ∧
    (state.enqueued id = true ↔ ∃ place, 0 < state.unitsOf id place)

/-- An acknowledgement sent by `on_success` may fail, or be cancelled with its loop, only
while no other delivery of the EntityEvent is in flight. -/
def FailsAlone (state : ConsumerState) : ConsumerAction → Prop
  | .resumeAck key answer => answer ≠ .done → ∀ coroutine work,
      state.groups key = some coroutine → coroutine.running = some work →
      (state.layer.merges key).map MergeTask.stage = some .onSuccess →
      state.enqueued work.entityEvent.entityEventId = false
  | .resumeLoop loop answer _ => answer ≠ .done → ∀ id messageId rest,
      state.loops loop = .routing (.ackMissing id messageId) rest →
      state.enqueued id = false
  | .stop => ∀ loop id messageId rest,
      state.loops loop = .routing (.ackMissing id messageId) rest →
      ∀ key, state.unitsOf id (.group key) = 0
  | _ => True

/-! ## Steps of the loops -/

section Steps
variable {config : AggregationConfig} {past : List ConsumerState}
  {before after : ConsumerState} {loop : LoopName} {key : GroupKey}

/-- Only one loop has moved. -/
structure LoopMoved (before after : ConsumerState) (loop : LoopName) (task : LoopTask) :
    Prop where
  loops : after.loops = Function.update before.loops loop task
  groups : after.groups = before.groups
  merges : after.layer.merges = before.layer.merges

namespace LoopMoved
variable {task : LoopTask} (moved : LoopMoved before after loop task)
include moved

theorem unitsOf_here (id : UUID) : after.unitsOf id (.loop loop) = task.handsOver id := by
  simp [ConsumerState.unitsOf, moved.loops]

theorem unitsOf_elsewhere (id : UUID) {place : WorkPlace} (apart : place ≠ .loop loop) :
    after.unitsOf id place = before.unitsOf id place := by
  cases place with
  | loop other =>
      have different : other ≠ loop := by
        rintro rfl
        exact apart rfl
      simp [ConsumerState.unitsOf, moved.loops, different]
  | group key => simp only [ConsumerState.unitsOf, moved.groups, moved.merges]

/-- The units of the loop are what they were, but for one EntityEvent. -/
theorem sameUnitsBut {id : UUID}
    (others : ∀ other, other ≠ id → task.handsOver other = (before.loops loop).handsOver other) :
    SameUnitsBut before.unitsOf after.unitsOf id (· = .loop loop) := by
  intro other place apart
  by_cases here : place = .loop loop
  · subst here
    rw [moved.unitsOf_here]
    exact others other (apart.resolve_right (not_not.mpr rfl))
  · exact moved.unitsOf_elsewhere other here

/-- The loop goes on with the same hand-over, or with none before and after. -/
theorem quiet (guard : InFlight before.enqueued before.unitsOf)
    (enqueued : after.enqueued = before.enqueued)
    (hands : ∀ id, task.handsOver id = (before.loops loop).handsOver id) :
    InFlight after.enqueued after.unitsOf := by
  rw [enqueued]
  refine guard.same ?_
  intro id place
  by_cases here : place = .loop loop
  · rw [here, moved.unitsOf_here]
    exact hands id
  · exact moved.unitsOf_elsewhere id here

/-- A hand-over ends without the work being enqueued. -/
theorem handOverEnds {id : UUID} (guard : InFlight before.enqueued before.unitsOf)
    (enqueued : after.enqueued = Function.update before.enqueued id false)
    (was : ∀ other, (before.loops loop).handsOver other = if id = other then 1 else 0)
    (ended : ∀ other, task.handsOver other = 0) :
    InFlight after.enqueued after.unitsOf := by
  rw [enqueued]
  refine guard.finish id (.loop loop) ?_ ?_ ?_
  · simp [was]
  · refine moved.sameUnitsBut ?_
    intro other apart
    rw [ended, was, if_neg (Ne.symm apart)]
  · rw [moved.unitsOf_here, ended]

end LoopMoved

@[simp] theorem handsOver_routeRest (id : UUID) (rest : List StreamMessage) :
    (routeRest rest).handsOver id = 0 := by
  cases rest <;> rfl

@[simp] theorem handsOver_afterAck (id : UUID) (answer : Answer) (rest : List StreamMessage) :
    (afterAck answer rest).handsOver id = 0 := by
  cases answer with
  | done | failed => exact handsOver_routeRest id rest
  | unreachable => rfl

theorem inFlight_route {message : StreamMessage} {rest : List StreamMessage}
    (guard : InFlight before.enqueued before.unitsOf)
    (at' : before.loops loop = .routing .next (message :: rest)) :
    InFlight (route config before loop message rest).enqueued
      (route config before loop message rest).unitsOf := by
  have idle (id : UUID) : (before.loops loop).handsOver id = 0 := by
    rw [at']
    rfl
  unfold route
  split
  · exact @LoopMoved.quiet before _ loop _ ⟨rfl, rfl, rfl⟩ guard rfl fun id => (idle id).symm
  · split
    · exact @LoopMoved.quiet before _ loop _ ⟨rfl, rfl, rfl⟩ guard rfl fun id => (idle id).symm
    · rename_i entityEventId valid
      split
      · refine @LoopMoved.quiet before _ loop _ ⟨rfl, rfl, rfl⟩ guard rfl fun id => ?_
        rw [handsOver_routeRest, idle]
      · rename_i unmarked
        have moved : LoopMoved before ((before.add entityEventId).setLoop loop
            (.routing (.fetchEntityEvent entityEventId message.id) rest)) loop
            (.routing (.fetchEntityEvent entityEventId message.id) rest) := ⟨rfl, rfl, rfl⟩
        refine guard.start entityEventId (.loop loop) (by simpa using unmarked)
          (moved.sameUnitsBut ?_) ?_
        · intro other apart
          rw [idle]
          exact if_neg (Ne.symm apart)
        · rw [moved.unitsOf_here, unitsOf_loop, idle]
          exact if_pos rfl

/-- The work goes from the loop to its group's queue. -/
theorem inFlight_handedOver {work : Work} {rest : List StreamMessage}
    (guard : InFlight before.enqueued before.unitsOf)
    (was : ∀ id, (before.loops loop).handsOver id =
      if work.entityEvent.entityEventId = id then 1 else 0)
    (enqueued : enqueueWork before work = some after) :
    InFlight (after.setLoop loop (routeRest rest)).enqueued
      (after.setLoop loop (routeRest rest)).unitsOf := by
  obtain ⟨coroutine, permits, rfl, origin⟩ := enqueueWork_cases enqueued
  have arrives (id : UUID) : coroutine.unitsOf
      (before.layer.merges work.entityEvent.groupKey) id =
        before.unitsOf id (.group work.entityEvent.groupKey) +
          if work.entityEvent.entityEventId = id then 1 else 0 := by
    rcases origin with ⟨old, found, rfl⟩ | ⟨absent, rfl⟩
    · simp only [ConsumerState.unitsOf, found, GroupCoroutine.unitsOf, List.countP_append,
        List.countP_singleton, Work.isOf, beq_iff_eq]
      omega
    · simp [ConsumerState.unitsOf, absent, GroupCoroutine.unitsOf, Work.isOf]
  let handed := { before with
    permits := permits
    groups := Function.update before.groups work.entityEvent.groupKey (some coroutine) }
  have there (id : UUID) : (handed.setLoop loop (routeRest rest)).unitsOf id
      (.group work.entityEvent.groupKey) =
        before.unitsOf id (.group work.entityEvent.groupKey) +
          if work.entityEvent.entityEventId = id then 1 else 0 := by
    rw [← arrives id]
    simp [handed, ConsumerState.setLoop, ConsumerState.unitsOf]
  have here (id : UUID) :
      (handed.setLoop loop (routeRest rest)).unitsOf id (.loop loop) = 0 := by
    simp [ConsumerState.setLoop]
  refine guard.handOn work.entityEvent.entityEventId (.loop loop)
    (.group work.entityEvent.groupKey) (by simp [was]) (by simp) ?_ (here _) ?_
  · intro id place apart
    cases place with
    | loop other =>
        by_cases same : other = loop
        · subst same
          have different : work.entityEvent.entityEventId ≠ id := by
            rintro rfl
            simp at apart
          rw [here, unitsOf_loop, was, if_neg different]
        · simp [ConsumerState.setLoop, same]
    | group key =>
        by_cases same : key = work.entityEvent.groupKey
        · subst same
          have different : work.entityEvent.entityEventId ≠ id := by
            rintro rfl
            simp at apart
          rw [there, if_neg different, Nat.add_zero]
        · simp [ConsumerState.unitsOf, ConsumerState.setLoop, same]
  · rw [there, if_pos rfl]

theorem inFlight_fetched {entityEventId : UUID} {messageId : MessageId}
    {rest : List StreamMessage} {answer : Answer} (sound : ConsumerSound config past before)
    (guard : InFlight before.enqueued before.unitsOf)
    (at' : before.loops loop = .routing (.fetchEntityEvent entityEventId messageId) rest) :
    InFlight (resumeFetchEntityEvent before loop entityEventId messageId rest answer).enqueued
      (resumeFetchEntityEvent before loop entityEventId messageId rest answer).unitsOf := by
  have was (id : UUID) : (before.loops loop).handsOver id =
      if entityEventId = id then 1 else 0 := by
    rw [at']
    rfl
  unfold resumeFetchEntityEvent
  cases answer with
  | unreachable => exact guard
  | failed =>
      exact @LoopMoved.handOverEnds before _ loop _ ⟨rfl, rfl, rfl⟩ _ guard rfl was fun id =>
        handsOver_routeRest id rest
  | done =>
      simp only
      split
      · exact @LoopMoved.handOverEnds before _ loop _ ⟨rfl, rfl, rfl⟩ _ guard rfl was fun _ => rfl
      · rename_i entityEvent found
        have key := sound.keyed entityEventId entityEvent found
        subst key
        split
        · rename_i enqueued handed
          exact inFlight_handedOver guard was handed
        · exact @LoopMoved.quiet before _ loop _ ⟨rfl, rfl, rfl⟩ guard rfl fun id => (was id).symm

theorem inFlight_ackedMissing {entityEventId : UUID} {messageId : MessageId}
    {rest : List StreamMessage} {answer : Answer}
    (guard : InFlight before.enqueued before.unitsOf)
    (at' : before.loops loop = .routing (.ackMissing entityEventId messageId) rest)
    (alone : answer ≠ .done → before.enqueued entityEventId = false) :
    InFlight (resumeAckMissing before loop entityEventId messageId rest answer).enqueued
      (resumeAckMissing before loop entityEventId messageId rest answer).unitsOf := by
  have moved : LoopMoved before (resumeAckMissing before loop entityEventId messageId rest answer)
      loop (afterAck answer rest) := by
    cases answer <;> exact ⟨rfl, rfl, rfl⟩
  have enqueued : (resumeAckMissing before loop entityEventId messageId rest answer).enqueued =
      before.enqueued := by
    have again (failed : answer ≠ .done) :
        Function.update before.enqueued entityEventId false = before.enqueued := by
      rw [← alone failed, Function.update_eq_self]
    cases answer with
    | done => rfl
    | unreachable | failed => exact again (by simp)
  refine moved.quiet guard enqueued ?_
  intro id
  rw [handsOver_afterAck, at']
  rfl

theorem inFlight_resumedLoop {answer : Answer} {now : Timestamp}
    (sound : ConsumerSound config past before)
    (guard : InFlight before.enqueued before.unitsOf)
    (alone : FailsAlone before (.resumeLoop loop answer now))
    (moved : resumeLoop before loop answer now = some after) :
    InFlight after.enqueued after.unitsOf := by
  unfold resumeLoop at moved
  split at moved
  · cases moved
  · rename_i claimed at'
    have idle (id : UUID) : (before.loops loop).handsOver id = 0 := by
      rw [at']
      rfl
    split at moved <;> cases moved
    · refine @LoopMoved.quiet before _ loop _ ⟨rfl, rfl, rfl⟩ guard rfl fun id => ?_
      rw [handsOver_routeRest, idle]
    · exact @LoopMoved.quiet before _ loop _ ⟨rfl, rfl, rfl⟩ guard rfl fun id => (idle id).symm
    · exact @LoopMoved.quiet before _ loop _ ⟨rfl, rfl, rfl⟩ guard rfl fun id => (idle id).symm
  · rename_i stage rest at'
    split at moved
    · cases moved
    · cases moved
      have idle (id : UUID) : (before.loops loop).handsOver id = 0 := by
        rw [at']
        rfl
      cases answer with
      | done | unreachable =>
          exact @LoopMoved.quiet before _ loop _ ⟨rfl, rfl, rfl⟩ guard rfl fun id => (idle id).symm
      | failed =>
          refine @LoopMoved.quiet before _ loop _ ⟨rfl, rfl, rfl⟩ guard rfl fun id => ?_
          rw [handsOver_routeRest, idle]
    · cases moved
      refine @LoopMoved.quiet before _ loop _ ⟨rfl, rfl, rfl⟩ guard rfl fun id => ?_
      rw [handsOver_afterAck, at']
      rfl
    · cases moved
      exact inFlight_fetched sound guard at'
    · cases moved
      exact inFlight_ackedMissing guard at' fun failed => alone failed _ _ _ at'
    · rename_i work
      split at moved
      · obtain ⟨enqueued, handed, rfl⟩ := Option.map_eq_some_iff.mp moved
        refine inFlight_handedOver guard (fun id => ?_) handed
        rw [at']
        rfl
      · cases moved

/-! ## Steps of the groups -/

/-- Only one group has moved. -/
structure GroupMoved (before after : ConsumerState) (key : GroupKey)
    (coroutine : GroupCoroutine) (merge : Option MergeTask) : Prop where
  groups : after.groups = Function.update before.groups key (some coroutine)
  merges : after.layer.merges = Function.update before.layer.merges key merge
  loops : after.loops = before.loops

namespace GroupMoved
variable {coroutine later : GroupCoroutine} {merge : Option MergeTask}
  (moved : GroupMoved before after key later merge)
include moved

theorem unitsOf_here (id : UUID) :
    after.unitsOf id (.group key) = later.unitsOf merge id := by
  simp [ConsumerState.unitsOf, moved.groups, moved.merges]

theorem unitsOf_elsewhere (id : UUID) {place : WorkPlace} (apart : place ≠ .group key) :
    after.unitsOf id place = before.unitsOf id place := by
  cases place with
  | loop loop => rw [unitsOf_loop, unitsOf_loop, moved.loops]
  | group other =>
      have different : other ≠ key := by
        rintro rfl
        exact apart rfl
      simp [ConsumerState.unitsOf, moved.groups, moved.merges, different]

theorem quiet (guard : InFlight before.enqueued before.unitsOf)
    (found : before.groups key = some coroutine)
    (enqueued : after.enqueued = before.enqueued)
    (units : ∀ id, later.unitsOf merge id =
      coroutine.unitsOf (before.layer.merges key) id) :
    InFlight after.enqueued after.unitsOf := by
  rw [enqueued]
  refine guard.same ?_
  intro id place
  by_cases here : place = .group key
  · rw [here, moved.unitsOf_here, units]
    simp [ConsumerState.unitsOf, found]
  · exact moved.unitsOf_elsewhere id here

/-- The running unit is finally reported. -/
theorem reports {work : Work} (guard : InFlight before.enqueued before.unitsOf)
    (found : before.groups key = some coroutine)
    (running : coroutine.running = some work)
    (unreported : reported (before.layer.merges key) = false)
    (queue : later.queue = coroutine.queue)
    (ended : reported merge = true ∨ later.running = none)
    (enqueued : after.enqueued =
      Function.update before.enqueued work.entityEvent.entityEventId false) :
    InFlight after.enqueued after.unitsOf := by
  have was (id : UUID) : before.unitsOf id (.group key) =
      coroutine.queue.countP (Work.isOf id) +
        if work.entityEvent.entityEventId = id then 1 else 0 := by
    simp [ConsumerState.unitsOf, found, GroupCoroutine.unitsOf, unreported, running, Work.isOf,
      List.countP_singleton]
  have stays (id : UUID) : after.unitsOf id (.group key) =
      coroutine.queue.countP (Work.isOf id) := by
    rw [moved.unitsOf_here, GroupCoroutine.unitsOf, queue]
    rcases ended with reported | stopped
    · simp [reported]
    · simp [stopped]
  have one := was work.entityEvent.entityEventId
  rw [if_pos rfl] at one
  have most := guard.atMostOne work.entityEvent.entityEventId (.group key)
  rw [enqueued]
  refine guard.finish work.entityEvent.entityEventId (.group key) (by omega) ?_ ?_
  · intro id place apart
    by_cases here : place = .group key
    · subst here
      rw [stays, was, if_neg, Nat.add_zero]
      rintro rfl
      simp at apart
    · exact moved.unitsOf_elsewhere id here
  · rw [stays]
    omega

end GroupMoved

theorem inFlight_started (sound : ConsumerSound config past before)
    (guard : InFlight before.enqueued before.unitsOf)
    (moved : startWork config before key = some after) :
    InFlight after.enqueued after.unitsOf := by
  obtain ⟨coroutine, found, started⟩ := Option.bind_eq_some_iff.mp moved
  split at started
  · rename_i work queue idle queued
    obtain ⟨layer, begun, rfl⟩ := Option.map_eq_some_iff.mp started
    obtain ⟨row, rowFound, merged⟩ := Option.bind_eq_some_iff.mp begun
    obtain ⟨-, stored, ofKey⟩ := sound.queued key coroutine found work
      (List.mem_append_left _ (by simp [queued]))
    subst ofKey
    cases stored.symm.trans rowFound
    split at merged
    · cases merged
    · rename_i free
      cases merged
      refine @GroupMoved.quiet before _ _ _ _ _ ⟨rfl, rfl, rfl⟩ guard found rfl fun id => ?_
      -- the work goes from the queue to the running one
      simp [GroupCoroutine.unitsOf, idle, queued, reported, List.countP_cons]
  · cases started

theorem resumeMerge_merges {layer after : AggregationState} {reply : Reply}
    (moved : resumeMerge config layer key reply = some after) :
    ∃ task stage, layer.merges key = some task ∧ reported (some task) = false ∧
      after.merges = Function.update layer.merges key (some { task with stage := stage }) := by
  have unreported : reported (layer.merges key) = false := by
    obtain ⟨task, running, resumed⟩ := Option.bind_eq_some_iff.mp moved
    rw [running]
    cases stage : task.stage with
    | onSuccess | onFailure => simp [stage] at resumed
    | getActiveEvent | isMerged | replace | upsert => simp [reported, stage]
  obtain ⟨task, running, step⟩ := resumeMerge_step moved
  have merges (state : AggregationState) (same : state.merges = layer.merges)
      (stage : MergeStage) : (state.setMerge key stage).merges =
        Function.update layer.merges key (some { task with stage := stage }) := by
    simp [AggregationState.setMerge, same, running]
  rw [running] at unreported
  have stepped : ∃ stage, after.merges =
      Function.update layer.merges key (some { task with stage := stage }) := by
    cases step with
    | again =>
        refine ⟨task.stage, ?_⟩
        have same : ({ task with stage := task.stage } : MergeTask) = task := rfl
        rw [same, ← running, Function.update_eq_self]
    | failed | read | mapped | late | merged | replacing | stored => exact ⟨_, merges _ rfl _⟩
  obtain ⟨stage, same⟩ := stepped
  exact ⟨task, stage, running, unreported, same⟩

theorem inFlight_resumedWork {reply : Reply}
    (guard : InFlight before.enqueued before.unitsOf)
    (moved : resumeWork config before key reply = some after) :
    InFlight after.enqueued after.unitsOf := by
  obtain ⟨coroutine, found, bound⟩ := Option.bind_eq_some_iff.mp moved
  obtain ⟨work, running, resumed⟩ := Option.bind_eq_some_iff.mp bound
  obtain ⟨layer, stepped, called⟩ := Option.map_eq_some_iff.mp resumed
  obtain ⟨task, stage, itsMerge, unreported, merges⟩ := resumeMerge_merges stepped
  rw [← itsMerge] at unreported
  have groups : before.groups = Function.update before.groups key (some coroutine) := by
    rw [← found, Function.update_eq_self]
  rw [merges, Function.update_self] at called
  cases stage with
  | onSuccess =>
      cases called
      exact @GroupMoved.reports before _ key _ _ _ ⟨groups, merges, rfl⟩ _ guard found running unreported rfl
        (Or.inl rfl) rfl
  | onFailure =>
      cases called
      have ended : Function.update layer.merges key none =
          Function.update before.layer.merges key none := by
        rw [merges, Function.update_idem]
      exact @GroupMoved.reports before _ key _ _ _ ⟨rfl, ended, rfl⟩ _ guard found running unreported rfl
        (Or.inr rfl) rfl
  | getActiveEvent | isMerged | replace | upsert =>
      cases called
      refine @GroupMoved.quiet before _ key _ _ _ ⟨groups, merges, rfl⟩ guard found rfl fun id => ?_
      rw [GroupCoroutine.unitsOf, GroupCoroutine.unitsOf, unreported]
      rfl

theorem inFlight_ackedWork {answer : Answer}
    (guard : InFlight before.enqueued before.unitsOf)
    (alone : FailsAlone before (.resumeAck key answer))
    (moved : resumeAck before key answer = some after) :
    InFlight after.enqueued after.unitsOf := by
  obtain ⟨coroutine, found, bound⟩ := Option.bind_eq_some_iff.mp moved
  obtain ⟨work, running, resumed⟩ := Option.bind_eq_some_iff.mp bound
  split at resumed
  · rename_i called
    have its : reported (before.layer.merges key) = true := by
      obtain ⟨task, itsMerge, stage⟩ := Option.map_eq_some_iff.mp called
      simp [itsMerge, reported, stage]
    have again (failed : answer ≠ .done) : Function.update before.enqueued
        work.entityEvent.entityEventId false = before.enqueued := by
      rw [← alone failed coroutine work found running called, Function.update_eq_self]
    have enqueued : after.enqueued = before.enqueued := by
      cases resumed
      cases answer with
      | done => rfl
      | unreachable | failed => exact again (by simp)
    have group : GroupMoved before after key { coroutine with running := none } none := by
      cases resumed
      cases answer <;> exact ⟨rfl, rfl, rfl⟩
    refine group.quiet guard found enqueued fun id => ?_
    simp [GroupCoroutine.unitsOf, its]
  · cases resumed

theorem inFlight_idled (guard : InFlight before.enqueued before.unitsOf)
    (moved : idleOut before key = some after) : InFlight after.enqueued after.unitsOf := by
  unfold idleOut at moved
  split at moved
  · rename_i found
    cases moved
    refine guard.same fun id place => ?_
    cases place with
    | loop loop => rfl
    | group other =>
        by_cases same : other = key
        · simp [ConsumerState.unitsOf, same, found, GroupCoroutine.unitsOf]
        · simp [ConsumerState.unitsOf, same]
  · cases moved

/-! ## Cancellation of the loops -/

/-- The EntityEvent whose entry a cancelled loop discards. -/
def LoopTask.onCancel : LoopTask → Option UUID
  | .routing (.fetchEntityEvent entityEventId _) _ => some entityEventId
  | .routing (.ackMissing entityEventId _) _ => some entityEventId
  | .routing (.acquirePermit work) _ => some work.entityEvent.entityEventId
  | _ => none

theorem cancelLoop_enqueued (state : ConsumerState) (loop : LoopName) (id : UUID) :
    (cancelLoop state loop).enqueued id =
      (state.enqueued id && decide ((state.loops loop).onCancel ≠ some id)) := by
  have discarded (other : UUID) : Function.update state.enqueued other false id =
      (state.enqueued id && decide (some other ≠ some id)) := by
    by_cases same : id = other
    · simp [same]
    · simp [same, Ne.symm same]
  unfold cancelLoop
  split
  · rename_i at'
    rw [at']
    exact discarded _
  · rename_i at'
    rw [at']
    exact discarded _
  · rename_i at'
    rw [at']
    exact discarded _
  · rename_i notFetching notMissing notAcquiring
    have nothing : (state.loops loop).onCancel = none := by
      unfold LoopTask.onCancel
      split
      · exact absurd ‹_› (notFetching _ _ _)
      · exact absurd ‹_› (notMissing _ _ _)
      · exact absurd ‹_› (notAcquiring _ _)
      · rfl
    simp [nothing, ConsumerState.setLoop]

/-- A hand-over is discarded, and so is the entry of a missing EntityEvent. -/
theorem onCancel_some {task : LoopTask} {id : UUID} (discards : task.onCancel = some id) :
    0 < task.handsOver id ∨ ∃ messageId rest, task = .routing (.ackMissing id messageId) rest := by
  unfold LoopTask.onCancel at discards
  split at discards
  · cases discards
    exact Or.inl (by simp [LoopTask.handsOver, RouteStage.handsOver])
  · cases discards
    exact Or.inr ⟨_, _, rfl⟩
  · cases discards
    exact Or.inl (by simp [LoopTask.handsOver, RouteStage.handsOver])
  · cases discards

theorem onCancel_of_handsOver {task : LoopTask} {id : UUID} (hands : 0 < task.handsOver id) :
    task.onCancel = some id := by
  cases task with
  | waiting | pendingRange => cases hands
  | routing stage rest =>
      cases stage with
      | next | publishDeadLetter | ackDeadLetter | ackMissing => cases hands
      | fetchEntityEvent other messageId =>
          simp only [LoopTask.handsOver, RouteStage.handsOver] at hands
          split at hands
          · rename_i same
            exact congrArg some same
          · cases hands
      | acquirePermit work =>
          simp only [LoopTask.handsOver, RouteStage.handsOver] at hands
          split at hands
          · rename_i same
            exact congrArg some same
          · cases hands

theorem inFlight_stopped (guard : InFlight before.enqueued before.unitsOf)
    (alone : FailsAlone before .stop)
    (moved : onLayer config (cancelLoop (cancelLoop before .consumer) .reclaim) .stopFlush =
      some after) : InFlight after.enqueued after.unitsOf := by
  obtain ⟨layer, stepped, rfl⟩ := Option.map_eq_some_iff.mp moved
  cases stepped
  obtain ⟨layer₁, groups₁, -⟩ := cancelLoop_kept before .consumer
  obtain ⟨layer₂, groups₂, -⟩ := cancelLoop_kept (cancelLoop before .consumer) .reclaim
  have enqueued (id : UUID) :
      (cancelLoop (cancelLoop before .consumer) .reclaim).enqueued id =
        (before.enqueued id && decide ((before.loops .consumer).onCancel ≠ some id) &&
          decide ((before.loops .reclaim).onCancel ≠ some id)) := by
    rw [cancelLoop_enqueued, cancelLoop_enqueued, cancelLoop_loops,
      Function.update_of_ne (by decide)]
  have loops (loop : LoopName) :
      (cancelLoop (cancelLoop before .consumer) .reclaim).loops loop = .waiting := by
    rw [cancelLoop_loops, cancelLoop_loops]
    cases loop <;> simp
  intro id
  have groups (key : GroupKey) :
      (cancelLoop (cancelLoop before .consumer) .reclaim).unitsOf id (.group key) =
        before.unitsOf id (.group key) := by
    simp only [ConsumerState.unitsOf, groups₂, groups₁, layer₂, layer₁]
  have idle (loop : LoopName) :
      (cancelLoop (cancelLoop before .consumer) .reclaim).unitsOf id (.loop loop) = 0 := by
    rw [unitsOf_loop, loops]
    rfl
  rcases guard id with ⟨unmarked, none⟩ | ⟨isMarked, place, one, others⟩
  · refine Or.inl ⟨by simp [enqueued, unmarked], ?_⟩
    intro place
    cases place with
    | loop loop => exact idle loop
    | group key => exact (groups key).trans (none _)
  · cases place with
    | loop loop =>
        -- the hand-over is discarded
        have discards : (before.loops loop).onCancel = some id :=
          onCancel_of_handsOver (by rw [← unitsOf_loop, one]; exact Nat.one_pos)
        refine Or.inl ⟨?_, ?_⟩
        · rw [show (_ : ConsumerState).enqueued id = _ from enqueued id]
          cases loop <;> simp [discards]
        · intro place
          cases place with
          | loop other => exact idle other
          | group key => exact (groups key).trans (others _ (by simp))
    | group key =>
        have kept (loop : LoopName) : (before.loops loop).onCancel ≠ some id := by
          intro discards
          rcases onCancel_some discards with hands | ⟨messageId, rest, missing⟩
          · rw [← unitsOf_loop, others (.loop loop) (by simp)] at hands
            cases hands
          · rw [alone loop id messageId rest missing key] at one
            cases one
        refine Or.inr ⟨?_, .group key, (groups key).trans one, ?_⟩
        · rw [show (_ : ConsumerState).enqueued id = _ from enqueued id]
          simp [isMarked, kept]
        · intro place apart
          cases place with
          | loop other => exact idle other
          | group other => exact (groups other).trans (others _ apart)

/-! ## Runs -/

theorem inFlight_onLayer {action : AggregationAction} (apart : action.ofMerge = false)
    (guard : InFlight before.enqueued before.unitsOf)
    (moved : onLayer config before action = some after) :
    InFlight after.enqueued after.unitsOf := by
  obtain ⟨layer, stepped, rfl⟩ := Option.map_eq_some_iff.mp moved
  obtain ⟨-, -, -, merges⟩ := aggregationStep_frame apart stepped
  refine guard.same ?_
  intro id place
  cases place with
  | loop loop => rfl
  | group key => simp only [ConsumerState.unitsOf, merges]

theorem inFlight_step {action : ConsumerAction} (sound : ConsumerSound config past before)
    (guard : InFlight before.enqueued before.unitsOf) (alone : FailsAlone before action)
    (moved : consumerStep config before action = some after) :
    InFlight after.enqueued after.unitsOf := by
  cases consumerStep_step moved with
  | layered apart moved => exact inFlight_onLayer apart guard moved
  | published => exact guard
  | read waiting =>
      refine @LoopMoved.quiet before _ .consumer _ ⟨rfl, rfl, rfl⟩ guard rfl fun id => ?_
      rw [waiting]
      split
      · rfl
      · exact handsOver_routeRest id _
  | autoclaimed waiting =>
      refine @LoopMoved.quiet before _ .reclaim _ ⟨rfl, rfl, rfl⟩ guard rfl fun id => ?_
      rw [waiting]
      split <;> rfl
  | routed at' => exact inFlight_route guard at'
  | resumedLoop moved => exact inFlight_resumedLoop sound guard alone moved
  | startedWork moved => exact inFlight_started sound guard moved
  | resumedWork moved => exact inFlight_resumedWork guard moved
  | resumedAck moved => exact inFlight_ackedWork guard alone moved
  | idled moved => exact inFlight_idled guard moved
  | stopped moved => exact inFlight_stopped guard alone moved
  | crashed =>
      refine InFlight.empty.same fun id place => ?_
      cases place <;> rfl

end Steps

/-- In every run in which the acknowledgements of `on_success` fail only while no other
delivery of their EntityEvent is in flight, the guard holds in every state. -/
theorem guard_of_failsAlone {config : AggregationConfig} {past : List ConsumerState}
    {state : ConsumerState} (trace : (consumerMachine config).Trace FailsAlone past state) :
    GuardHolds state := by
  have held : ConsumerSound config past state ∧ InFlight state.enqueued state.unitsOf := by
    apply trace.history_invariant
    · intro start begins
      rw [show start = ConsumerState.initial config from begins]
      refine ⟨consumerSound_initial config, InFlight.empty.same fun id place => ?_⟩
      cases place <;> rfl
    · intro history before action after _ held alone moved
      exact ⟨held.1.step moved, inFlight_step held.1 held.2 alone moved⟩
  intro id
  exact ⟨held.2.atMostOne id, fun _ _ => held.2.unique, held.2.marked_iff id⟩

/-! ## A reclaim before and after a failed acknowledgement -/

def deliverFirst : List ConsumerAction :=
  [.storeEntityEvent (sampleEntityEvent 1 0), .publish 7 (signal 1), .read 10 false,
    .route .consumer, .resumeLoop .consumer .done 0] ++ workOn 3 10

def redeliver : List ConsumerAction :=
  [.autoclaim [7] false, .resumeLoop .reclaim .done 0, .route .reclaim,
    .resumeLoop .reclaim .done 0]

def ackFails : ConsumerAction := .resumeAck sampleGroup (.unreachable false)

/-- What `FailsAlone` asks of the actions of the runs below. -/
def failsAlone (state : ConsumerState) : ConsumerAction → Bool
  | .resumeAck key _ => (state.groups key).all fun coroutine =>
      coroutine.running.all fun work => !state.enqueued work.entityEvent.entityEventId
  | .resumeLoop _ answer _ => answer = .done
  | .stop => false
  | _ => true

theorem failsAlone_sound {state : ConsumerState} {action : ConsumerAction}
    (checked : failsAlone state action = true) : FailsAlone state action := by
  cases action with
  | resumeAck key answer =>
      intro _ coroutine work found running _
      simpa [failsAlone, found, running] using checked
  | resumeLoop loop answer now =>
      intro failed
      exact absurd (by simpa [failsAlone] using checked) failed
  | stop => cases checked
  | storeEntityEvent | publish | read | autoclaim | route | startWork | resumeWork | idleOut
  | expire | startFlush | resumeFlush | crash => trivial

/-- The message is reclaimed after its acknowledgement has failed. -/
theorem guard_of_failsAlone_redelivered : ∃ past state,
    (consumerMachine defaultAggregationConfig).Trace FailsAlone past state ∧
    state.enqueued 1 = true ∧ GuardHolds state := by
  obtain ⟨past, state, trace, marked⟩ :=
    Trace.of_run (consumerMachine defaultAggregationConfig) failsAlone
      (fun state => state.enqueued 1) (fun _ _ _ _ => failsAlone_sound) rfl
      (deliverFirst ++ [ackFails] ++ redeliver) (by decide +kernel)
  exact ⟨past, state, trace, marked, guard_of_failsAlone trace⟩

/-- Reclaimed between the discard and the failed acknowledgement, the message has a unit
of work queued without an entry in `_enqueued`. -/
theorem guard_lost : ¬ ∀ past state,
    (consumerMachine defaultAggregationConfig).Trace anyAction past state →
      GuardHolds state := by
  intro always
  obtain ⟨past, state, trace, seen⟩ :=
    Trace.of_run_view (consumerMachine defaultAggregationConfig) (fun _ _ => true)
      (fun state => (state.enqueued 1, state.unitsOf 1 (.group sampleGroup))) (false, 1)
      (fun _ _ _ _ _ => trivial) rfl (deliverFirst ++ redeliver ++ [ackFails])
      (by decide +kernel)
  obtain ⟨unmarked, one⟩ := Prod.mk.inj seen
  obtain ⟨-, -, marked⟩ := always past state trace 1
  have isMarked := marked.mpr ⟨.group sampleGroup, by rw [one]; exact Nat.one_pos⟩
  rw [unmarked] at isMarked
  cases isMarked

end WealthFinder.Pipeline
