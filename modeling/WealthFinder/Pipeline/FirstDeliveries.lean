import WealthFinder.WorkLog
import WealthFinder.Pipeline.ConsumerAcks

/-!
# The order of first deliveries

The consumer loop routes the messages of the stream one at a time, so it hands them to
their groups in stream order, and a group runs what it was handed in that order, also
when it idles out and starts again in between.
-/

set_option autoImplicit false

namespace WealthFinder.Pipeline

open Machine

/-! ## What a process did -/

/-- The message that is being routed. -/
def RouteStage.inHand : RouteStage → List MessageId
  | .next => []
  | .publishDeadLetter message _ => [message.id]
  | .ackDeadLetter message _ => [message.id]
  | .fetchEntityEvent _ messageId => [messageId]
  | .ackMissing _ messageId => [messageId]
  | .acquirePermit work => [work.messageId]

/-- The messages delivered to a loop that it has not routed yet. -/
def LoopTask.delivered : LoopTask → List MessageId
  | .waiting => []
  | .pendingRange claimed => claimed
  | .routing stage rest => stage.inHand ++ rest.map StreamMessage.id

/-- The work that the loop puts on its group's queue when it resumes. -/
def ConsumerState.handOver (state : ConsumerState) (loop : LoopName) (answer : Answer) :
    Option Work :=
  match state.loops loop with
  | .routing (.fetchEntityEvent entityEventId messageId) _ =>
      if answer = .done then
        (state.layer.entityEvents entityEventId).bind fun entityEvent =>
          (enqueueWork state ⟨entityEvent, messageId⟩).map fun _ => ⟨entityEvent, messageId⟩
      else none
  | .routing (.acquirePermit work) _ => some work
  | _ => none

def runningOf (group : Option GroupCoroutine) : Option Work :=
  group.bind GroupCoroutine.running

def queueOf (group : Option GroupCoroutine) : List Work :=
  (group.map GroupCoroutine.queue).getD []

/-- What a step of a group's coroutine started or finished. -/
def workEvent (before after : Option GroupCoroutine) : Option (WorkEvent Work) :=
  match runningOf before, runningOf after with
  | none, some work => some (.started work)
  | some work, none => some (.finished work)
  | _, _ => none

/-- `published` is the stream in its order.  `handovers` and `logs` are those of the
running process: each work with the loop that handed it to its group, and what each
group did with its works. -/
structure ConsumerRun where
  state : ConsumerState
  published : List MessageId
  handovers : List (LoopName × Work)
  logs : GroupKey → WorkLog Work

namespace ConsumerRun

def initial (config : AggregationConfig) : ConsumerRun :=
  ⟨ConsumerState.initial config, [], [], fun _ => []⟩

variable (run : ConsumerRun)

def handedTo (key : GroupKey) : List (LoopName × Work) :=
  run.handovers.filter fun handover => handover.2.entityEvent.groupKey = key

/-- The messages of the hand-overs that the consumer loop made. -/
def firstHanded : List MessageId :=
  (run.handovers.filter fun handover => handover.1 = .consumer).map
    fun handover => handover.2.messageId

def handed (loop : LoopName) (work : Option Work) (after : ConsumerState) : ConsumerRun where
  state := after
  published := run.published
  handovers := run.handovers ++ (work.map fun work => (loop, work)).toList
  logs := WorkLog.addTo run.logs
    (work.map fun work => (work.entityEvent.groupKey, .enqueued work))

def worked (key : GroupKey) (after : ConsumerState) : ConsumerRun :=
  { run with
    state := after
    logs := WorkLog.addTo run.logs
      ((workEvent (run.state.groups key) (after.groups key)).map fun event => (key, event)) }

/-- A crash takes the process, its queues and what they did with it. -/
def next (after : ConsumerState) : ConsumerAction → ConsumerRun
  | .publish messageId _ => { run with
      state := after, published := run.published ++ [messageId] }
  | .resumeLoop loop answer _ => run.handed loop (run.state.handOver loop answer) after
  | .startWork key => run.worked key after
  | .resumeWork key _ => run.worked key after
  | .resumeAck key _ => run.worked key after
  | .crash => ⟨after, run.published, [], fun _ => []⟩
  | _ => { run with state := after }

end ConsumerRun

def consumerRunMachine (config : AggregationConfig) : Machine ConsumerRun ConsumerAction where
  init := fun run => run = ConsumerRun.initial config
  step := fun run action => (consumerStep config run.state action).map fun after =>
    run.next after action

/-! ## The invariant -/

/-- Handed over, in hand and still in the backlog: what the consumer loop has of the
stream is in stream order. -/
structure RunOrdered (run : ConsumerRun) : Prop where
  groups : ∀ key, (run.logs key).Accounts (runningOf (run.state.groups key))
    (queueOf (run.state.groups key))
  handed : ∀ key, (run.logs key).enqueued = (run.handedTo key).map Prod.snd
  ordered : (run.firstHanded ++ (run.state.loops .consumer).delivered ++
    run.state.stream.backlog).Sublist run.published
  distinct : run.published.Nodup
  known : ∀ id ∈ run.published, (run.state.stream.fields id).isSome

theorem runOrdered_initial (config : AggregationConfig) :
    RunOrdered (ConsumerRun.initial config) where
  groups := fun _ => WorkLog.accounts_nil
  handed := fun _ => rfl
  ordered := List.Sublist.refl _
  distinct := List.nodup_nil
  known := by
    intro id member
    cases member

section Steps
variable {run : ConsumerRun} {after : ConsumerState}

/-- The groups run and queue what they did, and the consumer loop drops messages at most. -/
theorem RunOrdered.quiet (sound : RunOrdered run)
    (groups : ∀ key, runningOf (after.groups key) = runningOf (run.state.groups key) ∧
      queueOf (after.groups key) = queueOf (run.state.groups key))
    (delivered : (after.loops .consumer).delivered.Sublist
      (run.state.loops .consumer).delivered)
    (backlog : after.stream.backlog = run.state.stream.backlog)
    (fields : after.stream.fields = run.state.stream.fields) :
    RunOrdered { run with state := after } where
  groups := by
    intro key
    rw [(groups key).1, (groups key).2]
    exact sound.groups key
  handed := sound.handed
  ordered := by
    rw [backlog]
    refine List.Sublist.trans ?_ sound.ordered
    exact (List.Sublist.append (List.Sublist.refl _) delivered).append (List.Sublist.refl _)
  distinct := sound.distinct
  known := by
    rw [fields]
    exact sound.known

theorem RunOrdered.published {messageId : MessageId} {fields : SignalFields}
    {stream : SignalStream} (sound : RunOrdered run)
    (added : run.state.stream.add messageId fields = some stream) :
    RunOrdered { run with
      state := { run.state with stream := stream }
      published := run.published ++ [messageId] } := by
  obtain ⟨fresh, rfl⟩ := StreamGroup.add_cases added
  have new : messageId ∉ run.published := by
    intro old
    have known := sound.known messageId old
    rw [fresh] at known
    cases known
  refine ⟨sound.groups, sound.handed, ?_, ?_, ?_⟩
  · simp only [ConsumerRun.firstHanded, ← List.append_assoc]
    exact List.Sublist.append sound.ordered (List.Sublist.refl _)
  · rw [List.nodup_append_comm]
    exact List.nodup_cons.mpr ⟨new, sound.distinct⟩
  · intro id member
    rcases List.mem_append.mp member with old | same
    · have apart : id ≠ messageId := fun same => new (same ▸ old)
      simpa [apart] using sound.known id old
    · simp [List.mem_singleton.mp same]

end Steps

/-! ## The loops -/

@[simp] theorem delivered_routeRest (rest : List StreamMessage) :
    (routeRest rest).delivered = rest.map StreamMessage.id := by
  cases rest <;> simp [routeRest, LoopTask.delivered, RouteStage.inHand]

theorem delivered_afterAck (answer : Answer) (rest : List StreamMessage) :
    (afterAck answer rest).delivered.Sublist (rest.map StreamMessage.id) := by
  cases answer with
  | done | failed => simp [afterAck]
  | unreachable => exact List.nil_sublist _

/-- The messages of some ids keep the order of the ids. -/
theorem messages_sublist {messageOf : MessageId → Option StreamMessage}
    (same : ∀ id message, messageOf id = some message → message.id = id)
    (ids : List MessageId) : ((ids.filterMap messageOf).map StreamMessage.id).Sublist ids := by
  induction ids with
  | nil => exact List.Sublist.refl _
  | cons id rest ih =>
      cases is : messageOf id with
      | none =>
          rw [List.filterMap_cons_none is]
          exact ih.cons _
      | some message =>
          rw [List.filterMap_cons_some is, List.map_cons, same id message is]
          exact ih.cons_cons _

theorem readFrom_sublist (stream : SignalStream) (count : Nat) :
    ((readFrom stream count).1.map StreamMessage.id).Sublist (stream.backlog.take count) := by
  refine messages_sublist ?_ _
  intro id message is
  obtain ⟨fields, -, rfl⟩ := Option.map_eq_some_iff.mp is
  rfl

theorem reclaimed_sublist (stream : SignalStream) (claimed : List MessageId) :
    ((reclaimed stream claimed).map StreamMessage.id).Sublist claimed := by
  refine messages_sublist ?_ _
  intro id message is
  obtain ⟨fields, -, mapped⟩ := Option.bind_eq_some_iff.mp is
  obtain ⟨count, -, rfl⟩ := Option.map_eq_some_iff.mp mapped
  rfl

/-- What a resumed loop does to the groups and to what it has of the stream. -/
inductive LoopResumed (before : ConsumerState) (loop : LoopName) (after : ConsumerState) :
    Option Work → Prop where
  | handed {work : Work} {rest : List MessageId} {enqueued : ConsumerState}
      (inHand : (before.loops loop).delivered = work.messageId :: rest)
      (put : enqueueWork before work = some enqueued) (groups : after.groups = enqueued.groups)
      (left : (after.loops loop).delivered = rest) : LoopResumed before loop after (some work)
  | kept (groups : after.groups = before.groups)
      (left : (after.loops loop).delivered.Sublist (before.loops loop).delivered) :
      LoopResumed before loop after none

section Loops
variable {before after : ConsumerState} {loop : LoopName}

@[simp] theorem setLoop_loops (state : ConsumerState) (task : LoopTask) :
    (state.setLoop loop task).loops loop = task := Function.update_self ..

theorem fetchEntityEvent_resumed {entityEventId : UUID} {messageId : MessageId}
    {rest : List StreamMessage} {answer : Answer}
    (at' : before.loops loop = .routing (.fetchEntityEvent entityEventId messageId) rest) :
    LoopResumed before loop
      (resumeFetchEntityEvent before loop entityEventId messageId rest answer)
      (before.handOver loop answer) := by
  have had : (before.loops loop).delivered = messageId :: rest.map StreamMessage.id := by
    rw [at']
    rfl
  unfold ConsumerState.handOver resumeFetchEntityEvent
  rw [at']
  cases answer with
  | unreachable => exact .kept rfl (List.Sublist.refl _)
  | failed =>
      refine .kept rfl ?_
      rw [had]
      simp
  | done =>
      simp only [if_true]
      cases found : before.layer.entityEvents entityEventId with
      | none =>
          refine .kept rfl ?_
          rw [had]
          simp [LoopTask.delivered, RouteStage.inHand]
      | some entityEvent =>
          simp only [Option.bind_some]
          cases put : enqueueWork before ⟨entityEvent, messageId⟩ with
          | none =>
              refine .kept rfl ?_
              rw [had]
              simp [LoopTask.delivered, RouteStage.inHand]
          | some enqueued =>
              exact .handed had put rfl (by simp)

theorem resumeLoop_resumed {answer : Answer} {now : Timestamp}
    (moved : resumeLoop before loop answer now = some after) :
    LoopResumed before loop after (before.handOver loop answer) := by
  unfold resumeLoop at moved
  split at moved
  · cases moved
  · rename_i claimed at'
    have none' : before.handOver loop answer = none := by rw [ConsumerState.handOver, at']
    rw [none']
    split at moved <;> cases moved
    · refine .kept rfl ?_
      rw [setLoop_loops, delivered_routeRest, at']
      exact reclaimed_sublist _ _
    · exact .kept rfl (by simp [LoopTask.delivered])
    · exact .kept rfl (by simp [LoopTask.delivered])
  · rename_i stage rest at'
    split at moved
    · cases moved
    · rename_i message reason
      have none' : before.handOver loop answer = none := by rw [ConsumerState.handOver, at']
      rw [none']
      cases moved
      refine .kept rfl ?_
      unfold resumePublishDeadLetter
      rw [at', setLoop_loops]
      cases answer with
      | done | unreachable => exact List.Sublist.refl _
      | failed =>
          rw [delivered_routeRest]
          exact (List.Sublist.refl _).cons _
    · rename_i message reason
      have none' : before.handOver loop answer = none := by rw [ConsumerState.handOver, at']
      rw [none']
      cases moved
      refine .kept rfl ?_
      rw [at', setLoop_loops]
      exact (delivered_afterAck answer rest).cons _
    · cases moved
      exact fetchEntityEvent_resumed at'
    · rename_i entityEventId messageId
      have none' : before.handOver loop answer = none := by rw [ConsumerState.handOver, at']
      rw [none']
      cases moved
      refine .kept (by cases answer <;> rfl) ?_
      unfold resumeAckMissing
      rw [at', setLoop_loops]
      exact (delivered_afterAck answer rest).cons _
    · rename_i work
      have some' : before.handOver loop answer = some work := by
        rw [ConsumerState.handOver, at']
      rw [some']
      split at moved
      · obtain ⟨enqueued, put, rfl⟩ := Option.map_eq_some_iff.mp moved
        exact .handed (by rw [at']; rfl) put rfl (by simp)
      · cases moved

end Loops

section Loops
variable {run : ConsumerRun} {after : ConsumerState}

theorem resumeLoop_apart {before : ConsumerState} {loop : LoopName} {answer : Answer}
    {now : Timestamp} (moved : resumeLoop before loop answer now = some after) :
    (∀ other, other ≠ loop → after.loops other = before.loops other) ∧
    after.stream.backlog = before.stream.backlog ∧ after.stream.fields = before.stream.fields := by
  have apart (state : ConsumerState) (same : state.loops = before.loops) (task : LoopTask)
      (other : LoopName) (different : other ≠ loop) :
      (state.setLoop loop task).loops other = before.loops other := by
    rw [← same]
    exact Function.update_of_ne different ..
  unfold resumeLoop at moved
  split at moved
  · cases moved
  · split at moved <;> cases moved <;> exact ⟨apart _ rfl _, rfl, rfl⟩
  · split at moved
    · cases moved
    · cases moved
      exact ⟨apart _ rfl _, rfl, rfl⟩
    · cases moved
      exact ⟨apart _ rfl _, ackApplied_backlog .., ackApplied_fields ..⟩
    · cases moved
      unfold resumeFetchEntityEvent
      split
      · exact ⟨fun _ _ => rfl, rfl, rfl⟩
      · exact ⟨apart _ rfl _, rfl, rfl⟩
      · split
        · exact ⟨apart _ rfl _, rfl, rfl⟩
        · split
          · rename_i enqueued put
            obtain ⟨coroutine, permits, rfl, -⟩ := enqueueWork_cases put
            exact ⟨apart _ rfl _, rfl, rfl⟩
          · exact ⟨apart _ rfl _, rfl, rfl⟩
    · cases moved
      unfold resumeAckMissing
      cases answer <;> exact ⟨apart _ rfl _, ackApplied_backlog .., ackApplied_fields ..⟩
    · split at moved
      · obtain ⟨enqueued, put, rfl⟩ := Option.map_eq_some_iff.mp moved
        obtain ⟨coroutine, permits, rfl, -⟩ := enqueueWork_cases put
        exact ⟨apart _ rfl _, rfl, rfl⟩
      · cases moved

theorem enqueueWork_queue {before enqueued : ConsumerState} {work : Work}
    (put : enqueueWork before work = some enqueued) :
    (∀ key, runningOf (enqueued.groups key) = runningOf (before.groups key)) ∧
    queueOf (enqueued.groups work.entityEvent.groupKey) =
      queueOf (before.groups work.entityEvent.groupKey) ++ [work] ∧
    ∀ key, key ≠ work.entityEvent.groupKey →
      queueOf (enqueued.groups key) = queueOf (before.groups key) := by
  obtain ⟨coroutine, permits, rfl, origin⟩ := enqueueWork_cases put
  have here : runningOf (some coroutine) = runningOf
      (before.groups work.entityEvent.groupKey) ∧
      queueOf (some coroutine) = queueOf (before.groups work.entityEvent.groupKey) ++ [work] := by
    rcases origin with ⟨old, found, rfl⟩ | ⟨absent, rfl⟩
    · rw [found]
      exact ⟨rfl, rfl⟩
    · rw [absent]
      exact ⟨rfl, rfl⟩
  refine ⟨?_, ?_, ?_⟩
  · intro key
    by_cases same : key = work.entityEvent.groupKey
    · rw [same]
      simpa using here.1
    · simp [same]
  · simpa using here.2
  · intro key apart
    simp [apart]

theorem RunOrdered.handedOver {loop : LoopName} {work : Work} {rest : List MessageId}
    {enqueued : ConsumerState} (sound : RunOrdered run)
    (put : enqueueWork run.state work = some enqueued) (groups : after.groups = enqueued.groups)
    (inHand : (run.state.loops loop).delivered = work.messageId :: rest)
    (left : (after.loops loop).delivered = rest)
    (apart : ∀ other, other ≠ loop → after.loops other = run.state.loops other)
    (backlog : after.stream.backlog = run.state.stream.backlog)
    (fields : after.stream.fields = run.state.stream.fields) :
    RunOrdered (run.handed loop (some work) after) := by
  obtain ⟨running, here, elsewhere⟩ := enqueueWork_queue put
  have logs : (run.handed loop (some work) after).logs = WorkLog.addTo run.logs
      ((some (WorkEvent.enqueued work)).map fun event =>
        (work.entityEvent.groupKey, event)) := rfl
  refine ⟨?_, ?_, ?_, sound.distinct, ?_⟩
  · intro key
    rw [logs, ConsumerRun.handed, groups, running]
    by_cases same : key = work.entityEvent.groupKey
    · rw [same, here, WorkLog.addTo_same]
      exact (sound.groups _).enqueue
    · rw [elsewhere key same, WorkLog.addTo_other same]
      exact sound.groups key
  · intro key
    have handedTo : (run.handed loop (some work) after).handedTo key = run.handedTo key ++
        (if work.entityEvent.groupKey = key then [(loop, work)] else []) := by
      simp only [ConsumerRun.handedTo, ConsumerRun.handed, Option.map_some, Option.toList_some,
        List.filter_append, List.filter_cons, List.filter_nil, decide_eq_true_eq]
    rw [logs, handedTo, List.map_append]
    by_cases same : key = work.entityEvent.groupKey
    · rw [same, WorkLog.addTo_same, if_pos rfl, WorkLog.enqueued_append, sound.handed]
      rfl
    · rw [WorkLog.addTo_other same, if_neg (Ne.symm same), sound.handed]
      exact (List.append_nil _).symm
  · have firstHanded : (run.handed loop (some work) after).firstHanded = run.firstHanded ++
        (if loop = .consumer then [work.messageId] else []) := by
      simp only [ConsumerRun.firstHanded, ConsumerRun.handed, Option.map_some,
        Option.toList_some, List.filter_append, List.filter_cons, List.filter_nil,
        decide_eq_true_eq, List.map_append]
      split <;> rfl
    have ordered := sound.ordered
    rw [firstHanded, ConsumerRun.handed, backlog]
    by_cases isFirst : loop = .consumer
    · subst isFirst
      rw [inHand] at ordered
      rw [left, if_pos rfl]
      simpa using ordered
    · rw [apart .consumer (Ne.symm isFirst), if_neg isFirst, List.append_nil]
      exact ordered
  · intro id member
    rw [ConsumerRun.handed, fields]
    exact sound.known id member

theorem RunOrdered.resumedLoop {loop : LoopName} {answer : Answer} {now : Timestamp}
    (sound : RunOrdered run) (moved : resumeLoop run.state loop answer now = some after) :
    RunOrdered (run.handed loop (run.state.handOver loop answer) after) := by
  obtain ⟨apart, backlog, fields⟩ := resumeLoop_apart moved
  have resumed := resumeLoop_resumed moved
  cases is : run.state.handOver loop answer with
  | none =>
      rw [is] at resumed
      cases resumed with
      | kept groups left =>
          have same : run.handed loop none after = { run with state := after } := by
            simp [ConsumerRun.handed, WorkLog.addTo]
          rw [same]
          refine sound.quiet (fun key => by rw [groups]; exact ⟨rfl, rfl⟩) ?_ backlog fields
          by_cases isLoop : .consumer = loop
          · exact isLoop ▸ left
          · rw [apart .consumer isLoop]
  | some work =>
      rw [is] at resumed
      cases resumed with
      | handed inHand put groups left =>
          exact sound.handedOver put groups inHand left apart backlog fields

end Loops

/-! ## The groups -/

/-- The coroutine of the group starts its next work, ends the one that runs, or neither. -/
inductive GroupWorked (before : ConsumerState) (key : GroupKey) (after : ConsumerState) :
    Prop where
  | same (groups : after.groups = before.groups)
  | started {work : Work} {queue : List Work}
      (was : before.groups key = some ⟨work :: queue, none⟩)
      (groups : after.groups = Function.update before.groups key (some ⟨queue, some work⟩))
  | ended {queue : List Work} {work : Work}
      (was : before.groups key = some ⟨queue, some work⟩)
      (groups : after.groups = Function.update before.groups key (some ⟨queue, none⟩))

/-- What the works of the groups leave alone. -/
structure StreamApart (before after : ConsumerState) : Prop where
  loops : after.loops = before.loops
  backlog : after.stream.backlog = before.stream.backlog
  fields : after.stream.fields = before.stream.fields

section Groups
variable {config : AggregationConfig} {before after : ConsumerState} {key : GroupKey}

theorem startWork_worked (moved : startWork config before key = some after) :
    GroupWorked before key after ∧ StreamApart before after := by
  obtain ⟨⟨queued, running⟩, found, started⟩ := Option.bind_eq_some_iff.mp moved
  split at started
  · rename_i work queue idle isQueued
    obtain ⟨layer, -, rfl⟩ := Option.map_eq_some_iff.mp started
    cases idle
    cases isQueued
    exact ⟨.started found rfl, rfl, rfl, rfl⟩
  · cases started

theorem resumeWork_worked {reply : Reply}
    (moved : resumeWork config before key reply = some after) :
    GroupWorked before key after ∧ StreamApart before after := by
  obtain ⟨⟨queue, running⟩, found, bound⟩ := Option.bind_eq_some_iff.mp moved
  obtain ⟨work, isRunning, resumed⟩ := Option.bind_eq_some_iff.mp bound
  obtain ⟨layer, -, called⟩ := Option.map_eq_some_iff.mp resumed
  cases isRunning
  split at called
  · cases called
    exact ⟨.same rfl, rfl, rfl, rfl⟩
  · cases called
    exact ⟨.ended found rfl, rfl, rfl, rfl⟩
  · cases called
    exact ⟨.same rfl, rfl, rfl, rfl⟩

theorem resumeAck_worked {answer : Answer} (moved : resumeAck before key answer = some after) :
    GroupWorked before key after ∧ StreamApart before after := by
  obtain ⟨⟨queue, running⟩, found, bound⟩ := Option.bind_eq_some_iff.mp moved
  obtain ⟨work, isRunning, resumed⟩ := Option.bind_eq_some_iff.mp bound
  cases isRunning
  split at resumed
  · cases resumed
    cases answer <;> exact ⟨.ended found rfl, rfl, ackApplied_backlog .., ackApplied_fields ..⟩
  · cases resumed

theorem idleOut_groups (moved : idleOut before key = some after) :
    (∀ other, runningOf (after.groups other) = runningOf (before.groups other) ∧
      queueOf (after.groups other) = queueOf (before.groups other)) ∧
    StreamApart before after := by
  unfold idleOut at moved
  split at moved
  · rename_i idle
    cases moved
    refine ⟨?_, rfl, rfl, rfl⟩
    intro other
    by_cases same : other = key
    · rw [same, idle]
      simp [runningOf, queueOf]
    · simp [same]
  · cases moved

variable {run : ConsumerRun}

theorem RunOrdered.worked (sound : RunOrdered run)
    (moved : GroupWorked run.state key after ∧ StreamApart run.state after) :
    RunOrdered (run.worked key after) := by
  obtain ⟨worked, loops, backlog, fields⟩ := moved
  have event : ∃ event, workEvent (run.state.groups key) (after.groups key) = event ∧
      (∀ other, other ≠ key → after.groups other = run.state.groups other) ∧
      WorkLog.Accounts (run.logs key ++ event.toList) (runningOf (after.groups key))
        (queueOf (after.groups key)) ∧ WorkLog.enqueued event.toList = [] := by
    have accounts := sound.groups key
    cases worked with
    | same groups =>
        refine ⟨none, ?_, by simp [groups], by simpa [groups] using accounts, rfl⟩
        rw [groups, workEvent]
        cases runningOf (run.state.groups key) <;> rfl
    | @started work queue was groups =>
        rw [was] at accounts
        refine ⟨some (.started work), by simp [was, groups, workEvent, runningOf], ?_, ?_, rfl⟩
        · intro other apart
          rw [groups, Function.update_of_ne apart]
        · rw [groups, Function.update_self]
          exact WorkLog.Accounts.start accounts
    | @ended queue work was groups =>
        rw [was] at accounts
        refine ⟨some (.finished work), by simp [was, groups, workEvent, runningOf], ?_, ?_, rfl⟩
        · intro other apart
          rw [groups, Function.update_of_ne apart]
        · rw [groups, Function.update_self]
          exact WorkLog.Accounts.finish accounts
  obtain ⟨event, is, others, accounts, noWork⟩ := event
  have logs : (run.worked key after).logs =
      WorkLog.addTo run.logs (event.map fun event => (key, event)) := by
    rw [← is]
    rfl
  refine ⟨?_, ?_, ?_, sound.distinct, ?_⟩
  · intro other
    rw [logs, ConsumerRun.worked]
    by_cases same : other = key
    · rw [same, WorkLog.addTo_same]
      exact accounts
    · rw [WorkLog.addTo_other same, others other same]
      exact sound.groups other
  · intro other
    have handed := sound.handed other
    rw [logs]
    by_cases same : other = key
    · rw [same, WorkLog.addTo_same, WorkLog.enqueued_append, noWork, List.append_nil, ← same]
      exact handed
    · rw [WorkLog.addTo_other same]
      exact handed
  · rw [ConsumerRun.worked, loops, backlog]
    exact sound.ordered
  · intro id member
    rw [ConsumerRun.worked, fields]
    exact sound.known id member

end Groups

/-! ## Every step -/

section Every
variable {config : AggregationConfig} {run : ConsumerRun} {after : ConsumerState}

theorem RunOrdered.apart (sound : RunOrdered run) (groups : after.groups = run.state.groups)
    (delivered : (after.loops .consumer).delivered.Sublist
      (run.state.loops .consumer).delivered)
    (backlog : after.stream.backlog = run.state.stream.backlog)
    (fields : after.stream.fields = run.state.stream.fields) :
    RunOrdered { run with state := after } := by
  refine sound.quiet ?_ delivered backlog fields
  intro key
  rw [groups]
  exact ⟨rfl, rfl⟩

theorem delivered_route {loop : LoopName} {message : StreamMessage}
    {rest : List StreamMessage} :
    ((route config run.state loop message rest).loops loop).delivered.Sublist
      (LoopTask.routing .next (message :: rest)).delivered := by
  unfold route
  split
  · rw [setLoop_loops]
    exact List.Sublist.refl _
  · split
    · rw [setLoop_loops]
      exact List.Sublist.refl _
    · split
      · rw [setLoop_loops, delivered_routeRest]
        exact (List.Sublist.refl _).cons _
      · rw [setLoop_loops]
        exact List.Sublist.refl _

theorem RunOrdered.route {loop : LoopName} {message : StreamMessage}
    {rest : List StreamMessage} (sound : RunOrdered run)
    (at' : run.state.loops loop = .routing .next (message :: rest)) :
    RunOrdered { run with state := route config run.state loop message rest } := by
  have delivered := @delivered_route config run loop message rest
  have apart (other : LoopName) (different : other ≠ loop) :
      (Pipeline.route config run.state loop message rest).loops other =
        run.state.loops other := by
    unfold Pipeline.route
    split
    · exact Function.update_of_ne different ..
    · split
      · exact Function.update_of_ne different ..
      · split <;> exact Function.update_of_ne different ..
  have kept : (Pipeline.route config run.state loop message rest).groups = run.state.groups ∧
      (Pipeline.route config run.state loop message rest).stream = run.state.stream := by
    unfold Pipeline.route
    split
    · exact ⟨rfl, rfl⟩
    · split
      · exact ⟨rfl, rfl⟩
      · split <;> exact ⟨rfl, rfl⟩
  refine sound.apart kept.1 ?_ (by rw [kept.2]) (by rw [kept.2])
  by_cases isLoop : .consumer = loop
  · rw [isLoop, at']
    exact delivered
  · rw [apart .consumer isLoop]

theorem RunOrdered.read {count : Nat} {lost : Bool} (sound : RunOrdered run)
    (isWaiting : run.state.loops .consumer = .waiting) :
    RunOrdered { run with
      state := { run.state with stream := (readFrom run.state.stream count).2 }.setLoop .consumer
        (if lost then .waiting else routeRest (readFrom run.state.stream count).1) } := by
  refine ⟨sound.groups, sound.handed, ?_, sound.distinct, sound.known⟩
  have ordered := sound.ordered
  rw [isWaiting, ← List.take_append_drop count run.state.stream.backlog,
    show LoopTask.waiting.delivered = [] from rfl, List.append_nil,
    ← List.append_assoc] at ordered
  refine List.Sublist.trans ?_ ordered
  refine List.Sublist.append (List.Sublist.append (List.Sublist.refl _) ?_) ?_
  · rw [setLoop_loops]
    cases lost with
    | true => exact List.nil_sublist _
    | false =>
        simp only [Bool.false_eq_true, if_false, delivered_routeRest]
        exact readFrom_sublist _ _
  · exact List.Sublist.refl (run.state.stream.backlog.drop count)

theorem RunOrdered.stopped (sound : RunOrdered run)
    (moved : onLayer config (cancelLoop (cancelLoop run.state .consumer) .reclaim) .stopFlush =
      some after) : RunOrdered { run with state := after } := by
  obtain ⟨layer, -, rfl⟩ := Option.map_eq_some_iff.mp moved
  obtain ⟨-, groups, stream, -⟩ := cancelLoop_kept (cancelLoop run.state .consumer) .reclaim
  obtain ⟨-, groups', stream', -⟩ := cancelLoop_kept run.state .consumer
  refine sound.apart (groups.trans groups') ?_ (by rw [stream, stream']) (by rw [stream, stream'])
  rw [cancelLoop_loops, cancelLoop_loops]
  exact List.nil_sublist _

theorem RunOrdered.crashed (sound : RunOrdered run) (groups : after.groups = fun _ => none)
    (loops : after.loops = fun _ => .waiting) (stream : after.stream = run.state.stream) :
    RunOrdered ⟨after, run.published, [], fun _ => []⟩ where
  groups := by
    rw [groups]
    exact fun _ => WorkLog.accounts_nil
  handed := fun _ => rfl
  ordered := by
    rw [loops, stream]
    exact (List.sublist_append_right _ _).trans sound.ordered
  distinct := sound.distinct
  known := by
    rw [stream]
    exact sound.known

theorem RunOrdered.step {action : ConsumerAction} (sound : RunOrdered run)
    (moved : consumerStep config run.state action = some after) :
    RunOrdered (run.next after action) := by
  have layered {action : AggregationAction}
      (moved : onLayer config run.state action = some after) :
      RunOrdered { run with state := after } := by
    obtain ⟨layer, -, rfl⟩ := Option.map_eq_some_iff.mp moved
    exact sound.apart rfl (List.Sublist.refl _) rfl rfl
  cases action with
  | storeEntityEvent row => exact layered moved
  | expire key => exact layered moved
  | resumeFlush reply => exact layered moved
  | startFlush =>
      simp only [consumerStep] at moved
      split at moved
      · exact layered moved
      · cases moved
  | publish messageId fields =>
      obtain ⟨stream, added, rfl⟩ := Option.map_eq_some_iff.mp moved
      exact sound.published added
  | read count lost =>
      simp only [consumerStep] at moved
      split at moved
      · rename_i idle
        cases moved
        exact sound.read idle.1
      · cases moved
  | autoclaim ids lost =>
      simp only [consumerStep] at moved
      split at moved
      · cases moved
        exact sound.apart rfl (List.Sublist.refl _) rfl rfl
      · cases moved
  | route loop =>
      simp only [consumerStep] at moved
      split at moved
      · rename_i at'
        cases moved
        exact sound.route at'
      · cases moved
  | resumeLoop loop answer now => exact sound.resumedLoop moved
  | startWork key => exact sound.worked (startWork_worked moved)
  | resumeWork key reply => exact sound.worked (resumeWork_worked moved)
  | resumeAck key answer => exact sound.worked (resumeAck_worked moved)
  | idleOut key =>
      obtain ⟨groups, loops, backlog, fields⟩ := idleOut_groups moved
      exact sound.quiet groups (by rw [loops]) backlog fields
  | stop => exact sound.stopped moved
  | crash =>
      simp only [consumerStep] at moved
      obtain ⟨crashed, stepped, rfl⟩ := Option.map_eq_some_iff.mp moved
      obtain ⟨layer, -, rfl⟩ := Option.map_eq_some_iff.mp stepped
      exact sound.crashed rfl rfl rfl

theorem runOrdered_of_trace {past : List ConsumerRun}
    (trace : (consumerRunMachine config).Trace anyAction past run) : RunOrdered run := by
  apply trace.invariant
  · intro start begins
    rw [show start = ConsumerRun.initial config from begins]
    exact runOrdered_initial config
  · intro before action next sound _ stepped
    obtain ⟨after, moved, rfl⟩ := Option.map_eq_some_iff.mp stepped
    exact sound.step moved

end Every

/-! ## First deliveries of one group -/

/-- Two places of a list, the one before the other. -/
theorem pair_sublist {Item : Type} {items : List Item} {i j : Nat} {first second : Item}
    (earlier : i < j) (there : items[i]? = some first) (then' : items[j]? = some second) :
    [first, second].Sublist items := by
  obtain ⟨inside, rfl⟩ := List.getElem?_eq_some_iff.mp there
  obtain ⟨inside', rfl⟩ := List.getElem?_eq_some_iff.mp then'
  have ordered : items.Pairwise fun first second => [first, second].Sublist items :=
    List.pairwise_iff_forall_sublist.mpr id
  exact List.pairwise_iff_getElem.mp ordered i j inside inside' earlier

/-- Without repetition a pair has one order. -/
theorem pair_order {Item : Type} {items : List Item} (distinct : items.Nodup)
    {first second : Item} (ordered : [first, second].Sublist items) :
    first ≠ second ∧ ¬ [second, first].Sublist items := by
  induction items with
  | nil => cases ordered
  | cons head rest ih =>
      obtain ⟨fresh, distinct⟩ := List.nodup_cons.mp distinct
      cases ordered with
      | cons _ inRest =>
          obtain ⟨apart, only⟩ := ih distinct inRest
          refine ⟨apart, ?_⟩
          intro reversed
          cases reversed with
          | cons _ inRest' => exact only inRest'
          | cons_cons _ _ => exact fresh (inRest.subset (by simp))
      | cons_cons _ later =>
          have member : second ∈ rest := later.subset (by simp)
          refine ⟨fun same => fresh (same ▸ member), ?_⟩
          intro reversed
          cases reversed with
          | cons _ inRest => exact fresh (inRest.subset (by simp))
          | cons_cons _ _ => exact fresh member

theorem RunOrdered.handed_in_order {run : ConsumerRun} (sound : RunOrdered run)
    {key : GroupKey} {i j : Nat} {first second : Work} (earlier : i < j)
    (there : (run.handedTo key)[i]? = some (.consumer, first))
    (then' : (run.handedTo key)[j]? = some (.consumer, second)) :
    [first.messageId, second.messageId].Sublist run.published := by
  have pair := (pair_sublist earlier there then').trans List.filter_sublist
  have inFirst : [first.messageId, second.messageId].Sublist run.firstHanded := by
    unfold ConsumerRun.firstHanded
    simpa using (pair.filter fun handover => handover.1 = .consumer).map
      fun handover => handover.2.messageId
  refine inFirst.trans (List.Sublist.trans ?_ sound.ordered)
  rw [List.append_assoc]
  exact List.sublist_append_left _ _

/-- Of two messages that the consumer loop delivered and handed to one group, the earlier
one of the stream is handed over first; and when the group starts the merge of the
later one, it has started and finished that of the earlier one. -/
theorem first_deliveries_in_order (config : AggregationConfig) (past : List ConsumerRun)
    (run : ConsumerRun) (trace : (consumerRunMachine config).Trace anyAction past run)
    (key : GroupKey) (i j : Nat) (first second : Work)
    (firstHanded : (run.handedTo key)[i]? = some (.consumer, first))
    (secondHanded : (run.handedTo key)[j]? = some (.consumer, second))
    (inStream : [first.messageId, second.messageId].Sublist run.published) :
    i < j ∧
    (∀ (place : Nat) (work : Work), (run.logs key).started[place]? = some work →
      ∃ loop, (run.handedTo key)[place]? = some (loop, work)) ∧
    ∀ (before : WorkLog Work) (work : Work) (after : WorkLog Work),
      run.logs key = before ++ .started work :: after → before.started.length = j →
      work = second ∧
        before.started[i]? = some first ∧ before.finished[i]? = some first := by
  have sound := runOrdered_of_trace trace
  obtain ⟨apart, only⟩ := pair_order sound.distinct inStream
  have earlier : i < j := by
    rcases Nat.lt_trichotomy i j with before | same | later
    · exact before
    · subst same
      rw [firstHanded] at secondHanded
      cases secondHanded
      exact absurd rfl apart
    · exact absurd (sound.handed_in_order later secondHanded firstHanded) only
  have enqueued (place : Nat) : (run.logs key).enqueued[place]? =
      ((run.handedTo key)[place]?).map Prod.snd := by
    rw [sound.handed key, List.getElem?_map]
  refine ⟨earlier, ?_, ?_⟩
  · intro place work started
    have queued := (sound.groups key).getElem?_started started
    rw [enqueued place] at queued
    obtain ⟨⟨loop, same⟩, found, rfl⟩ := Option.map_eq_some_iff.mp queued
    exact ⟨loop, found⟩
  · intro before work after split count
    obtain ⟨starts, done⟩ := (sound.groups key).inOrder.started_at split
    rw [count, enqueued j, secondHanded] at starts
    obtain ⟨hasStarted, hasFinished⟩ := done i (count ▸ earlier)
    rw [enqueued i, firstHanded] at hasStarted hasFinished
    exact ⟨(Option.some.inj starts).symm, hasStarted, hasFinished⟩

/-- The group idles out between two messages and starts again for the second. -/
def idlesBetween : List ConsumerAction :=
  [.storeEntityEvent (sampleEntityEvent 1 0), .storeEntityEvent (sampleEntityEvent 2 0),
    .publish 7 (signal 1), .publish 8 (signal 2), .read 1 false, .route .consumer,
    .resumeLoop .consumer .done 0] ++ workOn 3 10 ++
  [.resumeAck sampleGroup .done, .idleOut sampleGroup, .read 1 false, .route .consumer,
    .resumeLoop .consumer .done 0] ++ workOn 1 11

theorem first_deliveries_in_order_restarted : ∃ past run,
    (consumerRunMachine defaultAggregationConfig).Trace anyAction past run ∧
    (run.logs sampleGroup).started =
      [⟨sampleEntityEvent 1 0, 7⟩, ⟨sampleEntityEvent 2 0, 8⟩] ∧
    0 < 1 ∧ ∀ (before : WorkLog Work) (work : Work) (after : WorkLog Work),
      run.logs sampleGroup = before ++ .started work :: after → before.started.length = 1 →
      work = ⟨sampleEntityEvent 2 0, 8⟩ ∧
        before.finished[0]? = some ⟨sampleEntityEvent 1 0, 7⟩ := by
  obtain ⟨past, run, trace, seen⟩ :=
    Trace.of_run_view (consumerRunMachine defaultAggregationConfig) (fun _ _ => true)
      (fun run => (run.handedTo sampleGroup, run.published, (run.logs sampleGroup).started))
      ([(.consumer, ⟨sampleEntityEvent 1 0, 7⟩), (.consumer, ⟨sampleEntityEvent 2 0, 8⟩)],
        [7, 8], [⟨sampleEntityEvent 1 0, 7⟩, ⟨sampleEntityEvent 2 0, 8⟩])
      (fun _ _ _ _ _ => trivial) rfl idlesBetween (by decide +kernel)
  simp only [Prod.mk.injEq] at seen
  obtain ⟨handed, published, started⟩ := seen
  obtain ⟨earlier, -, merged⟩ :=
    first_deliveries_in_order defaultAggregationConfig past run trace sampleGroup 0 1
      ⟨sampleEntityEvent 1 0, 7⟩ ⟨sampleEntityEvent 2 0, 8⟩ (by rw [handed]; rfl)
      (by rw [handed]; rfl) (by rw [published])
  refine ⟨past, run, trace, started, earlier, ?_⟩
  intro before work after split count
  obtain ⟨second, -, finished⟩ := merged before work after split count
  exact ⟨second, finished⟩

end WealthFinder.Pipeline
