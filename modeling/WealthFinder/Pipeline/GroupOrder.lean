import WealthFinder.WorkLog
import WealthFinder.Pipeline.GroupPermits

/-!
# The order of a group's units of work

One GroupCoroutine with whoever enqueues on it, and then the coroutines of the service,
each with the log of its units.  The idle check and the removal from the registry are
one turn of the event loop, so an enqueue comes before both or finds no group.
-/

set_option autoImplicit false

namespace WealthFinder.Pipeline

open Machine

/-! ## One coroutine -/

inductive WorkOutcome where
  | returned
  | raised
  deriving DecidableEq, Repr

inductive CoroutineAction where
  | enqueue (work : Work)
  /-- `queue.get()` returns. -/
  | take
  | finishWork (outcome : WorkOutcome)
  /-- `wait_for` times out; the queue is as it was. -/
  | timeout
  | handleTimeout

/-- The unit of work that runs. -/
def GroupPhase.unit : GroupPhase → Option Work
  | .running work => some work
  | _ => none

/-- What a turn makes of the coroutine, and what it adds to the log.  A work that raises
is logged as critical and skipped. -/
def coroutineStep (task : GroupTask) :
    CoroutineAction → Option (GroupTask × Option (WorkEvent Work))
  | .enqueue work => some (task.enqueue work, some (.enqueued work))
  | .take =>
      match task.phase, task.queue with
      | .waiting, work :: queue =>
          some ({ task with queue := queue, phase := .running work }, some (.started work))
      | _, _ => none
  | .finishWork _ =>
      task.phase.unit.map fun work =>
        ({ task with phase := .waiting }, some (.finished work))
  | .timeout =>
      if task.phase = .waiting then some ({ task with phase := .timedOut }, none) else none
  | .handleTimeout =>
      if task.phase = .timedOut then
        some (if task.queue ≠ [] then ({ task with phase := .waiting }, none)
          else ({ task with phase := .ended }, some .retired))
      else none

structure CoroutineRun where
  task : GroupTask
  log : WorkLog Work

def CoroutineRun.next (run : CoroutineRun) (step : GroupTask × Option (WorkEvent Work)) :
    CoroutineRun :=
  ⟨step.1, run.log ++ step.2.toList⟩

def coroutineMachine : Machine CoroutineRun CoroutineAction where
  init := fun run => ∃ groupKey, run = ⟨⟨groupKey, [], .waiting⟩, []⟩
  step := fun run action => (coroutineStep run.task action).map run.next

/-- The coroutine goes on by itself, and its units end as `outcomes` says. -/
def ownAction (outcomes : Work → WorkOutcome) (run : CoroutineRun) : CoroutineAction → Prop
  | .take => True
  | .finishWork outcome => run.task.phase.unit.map outcomes = some outcome
  | .handleTimeout => True
  | .enqueue _ => False
  | .timeout => False

structure CoroutineSound (run : CoroutineRun) : Prop where
  accounts : run.log.Accounts run.task.phase.unit run.task.queue
  retired : run.task.phase = .ended ↔ .retired ∈ run.log

theorem CoroutineSound.step {run after : CoroutineRun} {action : CoroutineAction}
    (sound : CoroutineSound run) (stepped : coroutineMachine.step run action = some after) :
    CoroutineSound after := by
  obtain ⟨⟨task, event⟩, moved, rfl⟩ := Option.map_eq_some_iff.mp stepped
  have accounts := sound.accounts
  have retired := sound.retired
  cases action with
  | enqueue work =>
      cases moved
      exact ⟨accounts.enqueue, by simpa [CoroutineRun.next, GroupTask.enqueue] using retired⟩
  | take =>
      simp only [coroutineStep] at moved
      split at moved
      · rename_i work queue isWaiting isQueued
        cases moved
        rw [isWaiting, isQueued] at accounts
        refine ⟨accounts.start, ?_⟩
        rw [isWaiting] at retired
        simpa [CoroutineRun.next] using retired
      · cases moved
  | finishWork outcome =>
      obtain ⟨work, running, same⟩ := Option.map_eq_some_iff.mp moved
      cases same
      rw [running] at accounts
      refine ⟨accounts.finish, ?_⟩
      have alive : run.task.phase ≠ .ended := by
        intro ended
        rw [ended] at running
        cases running
      simpa [CoroutineRun.next, alive] using retired
  | timeout =>
      simp only [coroutineStep] at moved
      split at moved
      · rename_i isWaiting
        cases moved
        rw [isWaiting] at accounts retired
        exact ⟨by simpa [CoroutineRun.next, GroupPhase.unit] using accounts,
          by simpa [CoroutineRun.next] using retired⟩
      · cases moved
  | handleTimeout =>
      simp only [coroutineStep] at moved
      split at moved
      · rename_i timedOut
        rw [timedOut] at accounts retired
        split at moved
        · cases moved
          exact ⟨by simpa [CoroutineRun.next, GroupPhase.unit] using accounts,
            by simpa [CoroutineRun.next] using retired⟩
        · rename_i idle
          cases moved
          have empty := not_not.mp idle
          rw [empty] at accounts
          refine ⟨?_, by simp [CoroutineRun.next]⟩
          have first : .retired ∉ run.log := by simpa using retired
          have ended := accounts.retire first
          simpa [CoroutineRun.next, GroupPhase.unit, empty] using ended
      · cases moved

theorem coroutineSound_of_trace {past : List CoroutineRun} {run : CoroutineRun}
    (trace : coroutineMachine.Trace anyAction past run) : CoroutineSound run := by
  apply trace.invariant
  · intro start begins
    obtain ⟨groupKey, rfl⟩ := begins
    exact ⟨WorkLog.accounts_nil, by simp⟩
  · intro before action after sound _ stepped
    exact sound.step stepped

/-! ## No unit is stranded -/

section Drain
variable {outcomes : Work → WorkOutcome}

/-- One turn of the coroutine itself. -/
theorem reaches_turn {run : CoroutineRun} {action : CoroutineAction}
    {step : GroupTask × Option (WorkEvent Work)} (own : ownAction outcomes run action)
    (stepped : coroutineStep run.task action = some step) :
    Reaches coroutineMachine (ownAction outcomes) run (run.next step) :=
  .single ⟨action, own, congrArg (Option.map run.next) stepped⟩

/-- The units of the queue are run one after the other, however they end. -/
theorem drains_waiting (queue : List Work) (run : CoroutineRun)
    (isWaiting : run.task.phase = .waiting) (isQueue : run.task.queue = queue) :
    ∃ later, Reaches coroutineMachine (ownAction outcomes) run later ∧
      later.log.enqueued = run.log.enqueued ∧
      later.log.finished = run.log.finished ++ queue := by
  induction queue generalizing run with
  | nil => exact ⟨run, .refl, rfl, (List.append_nil _).symm⟩
  | cons work rest ih =>
      let running : GroupTask := { run.task with queue := rest, phase := .running work }
      let taken := run.next (running, some (.started work))
      let ended := taken.next ({ running with phase := .waiting }, some (.finished work))
      have take : Reaches coroutineMachine (ownAction outcomes) run taken := by
        refine @reaches_turn outcomes run .take _ trivial ?_
        simp only [coroutineStep, isWaiting, isQueue]
        rfl
      have finish : Reaches coroutineMachine (ownAction outcomes) taken ended :=
        @reaches_turn outcomes taken (.finishWork (outcomes work)) _ rfl rfl
      obtain ⟨later, reached, enqueued, finished⟩ := ih ended rfl rfl
      refine ⟨later, (take.trans finish).trans reached, enqueued.trans ?_, finished.trans ?_⟩
      · simp [ended, taken, CoroutineRun.next, WorkEvent.enqueued?]
      · simp [ended, taken, CoroutineRun.next, WorkEvent.finished?]

theorem CoroutineSound.drains {run : CoroutineRun} (sound : CoroutineSound run)
    (alive : run.task.phase ≠ .ended) (outcomes : Work → WorkOutcome) :
    ∃ later, Reaches coroutineMachine (ownAction outcomes) run later ∧
      later.log.enqueued = run.log.enqueued ∧ later.log.finished = run.log.enqueued := by
  have accounts := sound.accounts
  cases is : run.task.phase with
  | ended => exact absurd is alive
  | waiting =>
      obtain ⟨later, reached, enqueued, finished⟩ := drains_waiting run.task.queue run is rfl
      rw [is] at accounts
      refine ⟨later, reached, enqueued, ?_⟩
      rw [finished, accounts.waiting, accounts.busy]
      simp [GroupPhase.unit]
  | running work =>
      let ended := run.next ({ run.task with phase := .waiting }, some (.finished work))
      have finish : Reaches coroutineMachine (ownAction outcomes) run ended := by
        refine @reaches_turn outcomes run (.finishWork (outcomes work)) _ ?_ ?_
        · simp [ownAction, is, GroupPhase.unit]
        · simp [coroutineStep, is, GroupPhase.unit]
      obtain ⟨later, reached, enqueued, finished⟩ := drains_waiting run.task.queue ended rfl rfl
      rw [is] at accounts
      refine ⟨later, finish.trans reached, enqueued.trans ?_, finished.trans ?_⟩
      · simp [ended, CoroutineRun.next, WorkEvent.enqueued?]
      · rw [accounts.waiting, accounts.busy]
        simp [ended, CoroutineRun.next, WorkEvent.finished?, GroupPhase.unit]
  | timedOut =>
      rw [is] at accounts
      cases waiting : run.task.queue with
      | nil =>
          refine ⟨run, .refl, rfl, ?_⟩
          rw [accounts.waiting, accounts.busy, waiting]
          simp [GroupPhase.unit]
      | cons work rest =>
          let again := run.next ({ run.task with phase := .waiting }, none)
          have handle : Reaches coroutineMachine (ownAction outcomes) run again := by
            refine @reaches_turn outcomes run .handleTimeout _ trivial ?_
            simp [coroutineStep, is, waiting]
          obtain ⟨later, reached, enqueued, finished⟩ :=
            drains_waiting run.task.queue again rfl rfl
          refine ⟨later, handle.trans reached, enqueued.trans ?_, finished.trans ?_⟩
          · simp [again, CoroutineRun.next]
          · rw [accounts.waiting, accounts.busy]
            simp [again, CoroutineRun.next, GroupPhase.unit]

end Drain

/-! ## The coroutines of the service -/

/-- Which coroutine's log the action adds to, and what. -/
def GroupsState.observe (state : GroupsState) :
    GroupsAction → Option (Nat × WorkEvent Work)
  | .processEntityEvent work => (state.getGroup work).1.map fun index => (index, .enqueued work)
  | .cancelWaiter _ => none
  | .resumeGetGroup position =>
      (state.semaphore.resume position).bind fun (acquired, semaphore) =>
        acquired.map fun work =>
          (({ state with semaphore := semaphore }.getGroupAcquired
            work.entityEvent.groupKey).1, .enqueued work)
  | .take index =>
      (state.coroutines[index]?.bind fun task => task.queue.head?).map
        fun work => (index, .started work)
  | .finishWork index =>
      (state.coroutines[index]?.bind fun task => task.phase.unit).map
        fun work => (index, .finished work)
  | .timeout _ => none
  | .handleTimeout index =>
      state.coroutines[index]?.bind fun task =>
        if task.queue ≠ [] then none else some (index, .retired)

/-- `logs` are those of the coroutines in the order in which these were made. -/
structure ServiceRun where
  groups : GroupsState
  logs : Nat → WorkLog Work

def serviceMachine (config : AggregationConfig) : Machine ServiceRun GroupsAction where
  init := fun run => run = ⟨GroupsState.initial config, fun _ => []⟩
  step := fun run action => (groupsStep run.groups action).map fun groups =>
    ⟨groups, WorkLog.addTo run.logs (run.groups.observe action)⟩

/-- What an action does to the coroutines: none moves, a live one takes a turn, or a new
one gets its first unit. -/
inductive CoroutinesStep (before after : List GroupTask) :
    Option (Nat × WorkEvent Work) → Prop where
  | unmoved (same : after = before) : CoroutinesStep before after none
  | moved {index : Nat} {task : GroupTask} {change : GroupTask → GroupTask}
      {action : CoroutineAction} {event : Option (WorkEvent Work)}
      (found : before[index]? = some task) (alive : task.phase ≠ .ended)
      (stepped : coroutineStep task action = some (change task, event))
      (is : after = before.modify index change) :
      CoroutinesStep before after (event.map fun event => (index, event))
  | started {groupKey : GroupKey} {work : Work}
      (is : after = before ++ [⟨groupKey, [work], .waiting⟩]) :
      CoroutinesStep before after (some (before.length, .enqueued work))

section Observe
variable {config : AggregationConfig} {state : GroupsState}

/-- A work put on the registered coroutine of its group. -/
theorem enqueue_step {held : Nat} (sound : GroupsSound config held state) {index : Nat}
    {work : Work} (registered : state.groups work.entityEvent.groupKey = some index)
    {before : List GroupTask} (same : state.coroutines = before) :
    CoroutinesStep before (state.enqueue index work).coroutines (some (index, .enqueued work)) := by
  obtain ⟨task, found, -, isLive⟩ := sound.registered _ index registered
  rw [same] at found
  have alive : task.phase ≠ .ended := by simpa [GroupTask.isLive] using isLive
  exact @CoroutinesStep.moved before _ index task (·.enqueue work) (.enqueue work)
    (some (.enqueued work)) found alive rfl (by rw [← same]; rfl)

/-- With the permit in hand, the work goes to the registered coroutine or to a new one. -/
theorem getGroupAcquired_step (sound : GroupsSound config 1 state) (work : Work) :
    CoroutinesStep state.coroutines
      ((state.getGroupAcquired work.entityEvent.groupKey).2.enqueue
        (state.getGroupAcquired work.entityEvent.groupKey).1 work).coroutines
      (some ((state.getGroupAcquired work.entityEvent.groupKey).1, .enqueued work)) := by
  simp only [GroupsState.getGroupAcquired]
  cases registered : state.groups work.entityEvent.groupKey with
  | some index =>
      have given : GroupsSound config 0 { state with semaphore := state.semaphore.release } :=
        sound.moved (by simp)
      exact enqueue_step given registered rfl
  | none =>
      refine @CoroutinesStep.started _ _ work.entityEvent.groupKey work ?_
      simp only [GroupsState.startGroup, GroupsState.enqueue, GroupsState.updateTask]
      rw [List.modify_eq_take_drop]
      simp [GroupTask.enqueue]

theorem groupsStep_coroutines (sound : GroupsSound config 0 state) {action : GroupsAction}
    {after : GroupsState} (stepped : groupsStep state action = some after) :
    CoroutinesStep state.coroutines after.coroutines (state.observe action) := by
  cases action with
  | processEntityEvent work =>
      cases stepped
      simp only [GroupsState.processEntityEvent, GroupsState.observe, GroupsState.getGroup]
      cases registered : state.groups work.entityEvent.groupKey with
      | some index => exact enqueue_step sound registered rfl
      | none =>
          rcases returned : state.semaphore.acquire work with ⟨_ | _, semaphore⟩
          · exact .unmoved rfl
          · exact getGroupAcquired_step
              (sound.moved (Semaphore.permits_acquire_now returned)) work
  | cancelWaiter position =>
      cases stepped
      exact .unmoved rfl
  | resumeGetGroup position =>
      obtain ⟨⟨acquired, semaphore⟩, returned, rfl⟩ := Option.map_eq_some_iff.mp stepped
      simp only [GroupsState.observe, returned, Option.bind_some]
      cases acquired with
      | none => exact .unmoved rfl
      | some work =>
          exact getGroupAcquired_step
            (sound.moved (Semaphore.permits_resume_acquired returned)) work
  | take index =>
      obtain ⟨task, found, taken⟩ := Option.bind_eq_some_iff.mp stepped
      split at taken
      · rename_i work queue isWaiting isQueued
        cases taken
        simp only [GroupsState.observe, found, Option.bind_some, isQueued, List.head?_cons,
          Option.map_some]
        refine @CoroutinesStep.moved _ _ index task _ .take (some (.started work)) found
          (by simp [isWaiting]) ?_ rfl
        simp only [coroutineStep, isWaiting, isQueued]
      · cases taken
  | finishWork index =>
      obtain ⟨task, found, went⟩ := Option.bind_eq_some_iff.mp stepped
      split at went
      · rename_i runs
        cases went
        cases is : task.phase with
        | waiting | timedOut | ended =>
            rw [is] at runs
            cases runs
        | running work =>
            simp only [GroupsState.observe, found, Option.bind_some, is, GroupPhase.unit,
              Option.map_some]
            refine @CoroutinesStep.moved _ _ index task _ (.finishWork .returned)
              (some (.finished work)) found (by simp [is]) ?_ rfl
            simp only [coroutineStep, is, GroupPhase.unit, Option.map_some]
      · cases went
  | timeout index =>
      obtain ⟨task, found, went⟩ := Option.bind_eq_some_iff.mp stepped
      split at went
      · rename_i isWaiting
        cases went
        have phase : task.phase = .waiting := by simpa using isWaiting
        refine @CoroutinesStep.moved _ _ index task _ .timeout none found (by simp [phase]) ?_ rfl
        simp only [coroutineStep, if_pos phase]
      · cases went
  | handleTimeout index =>
      obtain ⟨task, found, handled⟩ := Option.bind_eq_some_iff.mp stepped
      split at handled
      · rename_i timedOut
        cases handled
        simp only [GroupsState.observe, found, Option.bind_some]
        split
        · rename_i queued
          refine @CoroutinesStep.moved _ _ index task ({ · with phase := .waiting })
            .handleTimeout none found (by simp [timedOut]) ?_ rfl
          simp only [coroutineStep, if_pos timedOut, if_pos queued]
        · rename_i idle
          refine @CoroutinesStep.moved _ _ index task ({ · with phase := .ended })
            .handleTimeout (some .retired) found (by simp [timedOut]) ?_ rfl
          simp only [coroutineStep, if_pos timedOut, if_neg idle]
      · cases handled

end Observe

/-! ## Every run of the service -/

/-- Each coroutine is a run of its own, and one that has retired gets no unit. -/
structure ServiceSound (config : AggregationConfig) (run : ServiceRun) : Prop where
  groups : GroupsSound config 0 run.groups
  runs : ∀ (index : Nat) (task : GroupTask), run.groups.coroutines[index]? = some task →
    ∃ past, coroutineMachine.Trace anyAction past ⟨task, run.logs index⟩
  unused : ∀ index, run.groups.coroutines.length ≤ index → run.logs index = []
  quiet : ∀ index before after, run.logs index = before ++ .retired :: after →
    WorkLog.enqueued after = []

theorem serviceSound_initial (config : AggregationConfig) :
    ServiceSound config ⟨GroupsState.initial config, fun _ => []⟩ where
  groups := groupsSound_initial config
  runs := by
    intro index task found
    simp [GroupsState.initial] at found
  unused := fun _ _ => rfl
  quiet := by
    intro index before after split
    exact absurd split.symm (List.append_ne_nil_of_right_ne_nil _ (List.cons_ne_nil _ _))

section Step
variable {config : AggregationConfig} {run : ServiceRun}

/-- The log of a coroutine that has not ended has no place after a retirement. -/
theorem ServiceSound.not_retired (sound : ServiceSound config run) {index : Nat}
    {task : GroupTask} (found : run.groups.coroutines[index]? = some task)
    (alive : task.phase ≠ .ended) : .retired ∉ run.logs index := by
  obtain ⟨past, trace⟩ := sound.runs index task found
  intro retired
  exact alive ((coroutineSound_of_trace trace).retired.mpr retired)

theorem ServiceSound.moved (sound : ServiceSound config run) {groups : GroupsState}
    (groupsSound : GroupsSound config 0 groups) {observed : Option (Nat × WorkEvent Work)}
    (step : CoroutinesStep run.groups.coroutines groups.coroutines observed) :
    ServiceSound config ⟨groups, WorkLog.addTo run.logs observed⟩ := by
  cases step with
  | unmoved same =>
      refine ⟨groupsSound, ?_, ?_, sound.quiet⟩
      · rw [same]
        exact sound.runs
      · rw [same]
        exact sound.unused
  | @moved index task change action event found alive stepped is =>
      refine ⟨groupsSound, ?_, ?_, ?_⟩
      · intro place there at'
        rw [is] at at'
        rcases getElem?_modify_cases found at' with ⟨rfl, rfl⟩ | ⟨apart, old⟩
        · obtain ⟨past, trace⟩ := sound.runs place task found
          refine ⟨_, trace.next action trivial ?_⟩
          simp only [coroutineMachine, stepped, Option.map_some, CoroutineRun.next,
            WorkLog.addTo_same]
        · simp only [WorkLog.addTo_other apart]
          exact sound.runs place there old
      · intro place beyond
        rw [is, List.length_modify] at beyond
        have apart : place ≠ index := by
          have within := (List.getElem?_eq_some_iff.mp found).1
          omega
        simp only [WorkLog.addTo_other apart]
        exact sound.unused place beyond
      · intro place before after split
        by_cases apart : place ≠ index
        · simp only [WorkLog.addTo_other apart] at split
          exact sound.quiet place before after split
        obtain rfl := not_not.mp apart
        simp only [WorkLog.addTo_same] at split
        cases event with
        | none => exact sound.quiet place before after (by simpa using split)
        | some event =>
            rcases WorkLog.split_append split with ⟨-, -, rfl⟩ | ⟨rest, rfl, old⟩
            · rfl
            · exact absurd (old ▸ by simp) (sound.not_retired found alive)
  | @started groupKey work is =>
      have new : run.logs run.groups.coroutines.length = [] := sound.unused _ (le_refl _)
      have observed : (some (run.groups.coroutines.length, WorkEvent.enqueued work)) =
          (some (WorkEvent.enqueued work)).map
            fun event => (run.groups.coroutines.length, event) := rfl
      rw [observed]
      refine ⟨groupsSound, ?_, ?_, ?_⟩
      · intro place there at'
        rw [is] at at'
        rcases getElem?_append_cases at' with ⟨rfl, rfl⟩ | ⟨within, old⟩
        · have begun : coroutineMachine.Trace anyAction [] ⟨⟨groupKey, [], .waiting⟩, []⟩ :=
            .start ⟨groupKey, rfl⟩
          refine ⟨_, begun.next (.enqueue work) trivial ?_⟩
          simp only [WorkLog.addTo_same, new]
          rfl
        · have apart : place ≠ run.groups.coroutines.length := by omega
          simp only [WorkLog.addTo_other apart]
          exact sound.runs place there old
      · intro place beyond
        rw [is, List.length_append, List.length_singleton] at beyond
        have apart : place ≠ run.groups.coroutines.length := by omega
        simp only [WorkLog.addTo_other apart]
        exact sound.unused place (by omega)
      · intro place before after split
        by_cases apart : place ≠ run.groups.coroutines.length
        · simp only [WorkLog.addTo_other apart] at split
          exact sound.quiet place before after split
        obtain rfl := not_not.mp apart
        simp only [WorkLog.addTo_same, new] at split
        rcases @WorkLog.split_append _ [] _ _ _ _ split with ⟨-, impossible, -⟩ | ⟨rest, -, old⟩
        · cases impossible
        · exact absurd old.symm (List.append_ne_nil_of_right_ne_nil _ (List.cons_ne_nil _ _))

end Step

theorem serviceSound_of_trace {config : AggregationConfig} {past : List ServiceRun}
    {run : ServiceRun} (trace : (serviceMachine config).Trace anyAction past run) :
    ServiceSound config run := by
  apply trace.invariant
  · intro start begins
    rw [show start = _ from begins]
    exact serviceSound_initial config
  · intro before action after sound _ stepped
    obtain ⟨groups, moved, rfl⟩ := Option.map_eq_some_iff.mp stepped
    exact sound.moved (sound.groups.step moved) (groupsStep_coroutines sound.groups moved)

/-- Units are started in the order of the queue, one at a time, and a coroutine retires
once, with every unit finished.  However its units end, a coroutine that has not retired
gets through all of them.  A coroutine of the service is such a run, and after it retired
nothing is enqueued on it. -/
theorem group_units_in_order (config : AggregationConfig) :
    (∀ past run, coroutineMachine.Trace anyAction past run →
      run.log.InOrder ∧ run.log.started <+: run.log.enqueued ∧
      run.log.count .retired ≤ 1 ∧
      (.retired ∉ run.log → ∀ outcomes, ∃ later,
        Reaches coroutineMachine (ownAction outcomes) run later ∧
        later.log.enqueued = run.log.enqueued ∧ later.log.finished = run.log.enqueued)) ∧
    ∀ past run, (serviceMachine config).Trace anyAction past run →
      ∀ (index : Nat) (task : GroupTask), run.groups.coroutines[index]? = some task →
        (∃ before, coroutineMachine.Trace anyAction before ⟨task, run.logs index⟩) ∧
        ∀ before after, run.logs index = before ++ .retired :: after →
          WorkLog.enqueued after = [] := by
  constructor
  · intro past run trace
    have sound := coroutineSound_of_trace trace
    refine ⟨sound.accounts.inOrder, ⟨_, sound.accounts.waiting.symm⟩,
      sound.accounts.inOrder.retired_once, ?_⟩
    intro unretired outcomes
    exact sound.drains (fun ended => unretired (sound.retired.mp ended)) outcomes
  · intro past run trace index task found
    have sound := serviceSound_of_trace trace
    exact ⟨sound.runs index task found, sound.quiet index⟩

/-- The first coroutine has idled out when its group gets another unit; and two units are
run though both raise. -/
theorem group_units_in_order_restarted :
    (∃ past run task,
      (serviceMachine { defaultAggregationConfig with maxConcurrent := 1 }).Trace anyAction
        past run ∧ run.groups.coroutines[0]? = some task ∧
      run.logs 0 = [.enqueued (workOf 1 "00700"), .started (workOf 1 "00700"),
        .finished (workOf 1 "00700"), .retired] ∧
      ∀ before after, run.logs 0 = before ++ .retired :: after →
        WorkLog.enqueued after = []) ∧
    ∃ past run later, coroutineMachine.Trace anyAction past run ∧
      run.log.started = [workOf 1 "00700"] ∧
      Reaches coroutineMachine (ownAction fun _ => .raised) run later ∧
      later.log.finished = [workOf 1 "00700", workOf 2 "00700"] := by
  constructor
  · obtain ⟨past, run, trace, seen⟩ :=
      Trace.of_run_view (serviceMachine { defaultAggregationConfig with maxConcurrent := 1 })
        (fun _ _ => true) (fun run => (run.groups.coroutines.length, run.logs 0))
        (2, [.enqueued (workOf 1 "00700"), .started (workOf 1 "00700"),
          .finished (workOf 1 "00700"), .retired])
        (fun _ _ _ _ _ => trivial) rfl endsAndStartsAgain (by decide +kernel)
    obtain ⟨made, log⟩ := Prod.mk.injEq .. ▸ seen
    obtain ⟨task, found⟩ : ∃ task, run.groups.coroutines[0]? = some task :=
      ⟨_, List.getElem?_eq_getElem (by omega)⟩
    exact ⟨past, run, task, trace, found, log,
      ((group_units_in_order _).2 past run trace 0 _ found).2⟩
  · obtain ⟨past, run, trace, seen⟩ :=
      Trace.of_run_view coroutineMachine (fun _ _ => true)
        (fun run : CoroutineRun => (run.log.enqueued, run.log.started,
          decide (.retired ∈ run.log)))
        ([workOf 1 "00700", workOf 2 "00700"], [workOf 1 "00700"], false)
        (fun _ _ _ _ _ => trivial) ⟨sampleGroup, rfl⟩
        [.enqueue (workOf 1 "00700"), .enqueue (workOf 2 "00700"), .take] (by decide +kernel)
    simp only [Prod.mk.injEq, decide_eq_false_iff_not] at seen
    obtain ⟨enqueued, started, unretired⟩ := seen
    obtain ⟨-, -, -, drains⟩ :=
      (group_units_in_order defaultAggregationConfig).1 past run trace
    obtain ⟨later, reached, -, finished⟩ := drains unretired fun _ => .raised
    exact ⟨past, run, later, trace, started, reached, finished.trans enqueued⟩

end WealthFinder.Pipeline
