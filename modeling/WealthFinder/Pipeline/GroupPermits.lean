import WealthFinder.Semaphore
import WealthFinder.Pipeline.AggregationConsumer

/-!
# Group lifecycle and permits

`_get_group`, `_on_idle` and the GroupCoroutine objects they make, one turn of the
event loop a step.  `process_entity_event` calls `_get_group` and puts its work on the
group it got in one turn, since `enqueue` never suspends; it waits only for a permit
of the group semaphore.  An ended coroutine stays in the list of those made, so that a
work put on one would be seen.
-/

set_option autoImplicit false

namespace WealthFinder.Pipeline

open Machine

/-- Where `_run` of a GroupCoroutine is: in `wait_for`, past a timeout whose handler has
not run yet, running a unit of work, or returned. -/
inductive GroupPhase where
  | waiting
  | timedOut
  | running (work : Work)
  | ended
  deriving DecidableEq

/-- A GroupCoroutine object. -/
structure GroupTask where
  groupKey : GroupKey
  queue : List Work
  phase : GroupPhase
  deriving DecidableEq

namespace GroupTask

def enqueue (task : GroupTask) (work : Work) : GroupTask :=
  { task with queue := task.queue ++ [work] }

def isLive (task : GroupTask) : Bool := task.phase != .ended

end GroupTask

/-- `coroutines` are the GroupCoroutine objects in the order they were made, and
`groups` names the registered ones by their place in it. -/
structure GroupsState where
  semaphore : Semaphore Work
  coroutines : List GroupTask
  groups : GroupKey → Option Nat

namespace GroupsState

def initial (config : AggregationConfig) : GroupsState where
  semaphore := Semaphore.ofValue config.maxConcurrent
  coroutines := []
  groups := fun _ => none

variable (state : GroupsState)

def updateTask (index : Nat) (change : GroupTask → GroupTask) : GroupsState :=
  { state with coroutines := state.coroutines.modify index change }

def enqueue (index : Nat) (work : Work) : GroupsState :=
  state.updateTask index (·.enqueue work)

/-- `GroupCoroutine(...)` and its registration. -/
def startGroup (groupKey : GroupKey) : Nat × GroupsState :=
  (state.coroutines.length,
    { state with
      coroutines := state.coroutines ++ [⟨groupKey, [], .waiting⟩]
      groups := Function.update state.groups groupKey (some state.coroutines.length) })

/-- The rest of `_get_group` once `acquire` has returned. -/
def getGroupAcquired (groupKey : GroupKey) : Nat × GroupsState :=
  match state.groups groupKey with
  | some index => (index, { state with semaphore := state.semaphore.release })
  | none => state.startGroup groupKey

/-- `_get_group` up to its return, or with no group up to its wait for a permit. -/
def getGroup (work : Work) : Option Nat × GroupsState :=
  match state.groups work.entityEvent.groupKey with
  | some index => (some index, state)
  | none =>
      match state.semaphore.acquire work with
      | (true, semaphore) =>
          let (index, got) :=
            { state with semaphore := semaphore }.getGroupAcquired work.entityEvent.groupKey
          (some index, got)
      | (false, semaphore) => (none, { state with semaphore := semaphore })

/-- `process_entity_event` of an EntityEvent that was found. -/
def processEntityEvent (work : Work) : GroupsState :=
  match state.getGroup work with
  | (some index, got) => got.enqueue index work
  | (none, waiting) => waiting

/-- The wait for a permit is over. -/
def resumeGetGroup (position : Nat) : Option GroupsState :=
  (state.semaphore.resume position).map fun (acquired, semaphore) =>
    let resumed := { state with semaphore := semaphore }
    match acquired with
    | none => resumed
    | some work =>
        let (index, got) := resumed.getGroupAcquired work.entityEvent.groupKey
        got.enqueue index work

def onIdle (groupKey : GroupKey) : GroupsState :=
  { state with
    groups := Function.update state.groups groupKey none
    semaphore := state.semaphore.release }

/-- The handler of the timeout. -/
def handleTimeout (index : Nat) : Option GroupsState :=
  state.coroutines[index]?.bind fun task =>
    if task.phase = .timedOut then
      some (if task.queue ≠ [] then state.updateTask index ({ · with phase := .waiting })
        else (state.onIdle task.groupKey).updateTask index ({ · with phase := .ended }))
    else none

/-- `queue.get()` returns. -/
def take (index : Nat) : Option GroupsState :=
  state.coroutines[index]?.bind fun task =>
    match task.phase, task.queue with
    | .waiting, work :: queue =>
        some (state.updateTask index
          fun task => { task with queue := queue, phase := .running work })
    | _, _ => none

/-- A phase of `_run` is over and it goes on with the next. -/
def goOn (index : Nat) (leaves : GroupPhase → Bool) (phase : GroupPhase) :
    Option GroupsState :=
  state.coroutines[index]?.bind fun task =>
    if leaves task.phase then some (state.updateTask index ({ · with phase := phase }))
    else none

end GroupsState

/-! ## The machine -/

inductive GroupsAction where
  | processEntityEvent (work : Work)
  /-- The task of a caller that waits for a permit is cancelled. -/
  | cancelWaiter (position : Nat)
  | resumeGetGroup (position : Nat)
  | take (index : Nat)
  /-- The merge returns or raises. -/
  | finishWork (index : Nat)
  | timeout (index : Nat)
  | handleTimeout (index : Nat)

def GroupPhase.isRunning : GroupPhase → Bool
  | .running _ => true
  | _ => false

def groupsStep (state : GroupsState) : GroupsAction → Option GroupsState
  | .processEntityEvent work => some (state.processEntityEvent work)
  | .cancelWaiter position =>
      some { state with semaphore := state.semaphore.cancel position }
  | .resumeGetGroup position => state.resumeGetGroup position
  | .take index => state.take index
  | .finishWork index => state.goOn index GroupPhase.isRunning .waiting
  | .timeout index => state.goOn index (· == .waiting) .timedOut
  | .handleTimeout index => state.handleTimeout index

def groupsMachine (config : AggregationConfig) : Machine GroupsState GroupsAction where
  init := fun state => state = GroupsState.initial config
  step := groupsStep

/-! ## The invariant -/

namespace GroupTask

/-- The works of a coroutine are of its group, and an ended one has none left. -/
structure Ok (task : GroupTask) : Prop where
  queued : ∀ work ∈ task.queue, work.entityEvent.groupKey = task.groupKey
  running : ∀ work, task.phase = .running work → work.entityEvent.groupKey = task.groupKey
  ended : task.phase = .ended → task.queue = []

theorem Ok.isLive_of_queued {task : GroupTask} (ok : task.Ok) {work : Work}
    (queued : work ∈ task.queue) : task.isLive = true := by
  simp only [isLive, bne_iff_ne, ne_eq]
  intro ended
  rw [ok.ended ended] at queued
  cases queued

end GroupTask

def GroupsState.live (state : GroupsState) : Nat := state.coroutines.countP GroupTask.isLive

/-- The live coroutines are the registered ones, and every permit is free, handed to a
waiter, of a live group or one of the `held` that a step is about to use. -/
structure GroupsSound (config : AggregationConfig) (held : Nat) (state : GroupsState) :
    Prop where
  registered : ∀ groupKey index, state.groups groupKey = some index →
    ∃ task, state.coroutines[index]? = some task ∧ task.groupKey = groupKey ∧
      task.isLive = true
  alive : ∀ index task, state.coroutines[index]? = some task → task.isLive = true →
    state.groups task.groupKey = some index
  ok : ∀ (index : Nat) (task : GroupTask), state.coroutines[index]? = some task → task.Ok
  conserved : state.semaphore.permits + state.live + held = config.maxConcurrent

theorem groupsSound_initial (config : AggregationConfig) :
    GroupsSound config 0 (GroupsState.initial config) where
  registered := by
    intro groupKey index is
    cases is
  alive := by
    intro index task is
    simp [GroupsState.initial] at is
  ok := by
    intro index task is
    simp [GroupsState.initial] at is
  conserved := by
    simp [GroupsState.initial, GroupsState.live]

namespace GroupsSound

variable {config : AggregationConfig} {held : Nat} {state : GroupsState}

/-- Only where the permits are has changed. -/
theorem moved (sound : GroupsSound config held state) {semaphore : Semaphore Work}
    {holding : Nat} (same : semaphore.permits + holding = state.semaphore.permits + held) :
    GroupsSound config holding { state with semaphore := semaphore } where
  registered := sound.registered
  alive := sound.alive
  ok := sound.ok
  conserved := by
    have conserved := sound.conserved
    simp only [GroupsState.live] at conserved ⊢
    omega

theorem updateTask (sound : GroupsSound config held state) {index : Nat} {task : GroupTask}
    (found : state.coroutines[index]? = some task) {change : GroupTask → GroupTask}
    (sameGroup : (change task).groupKey = task.groupKey) (was : task.isLive = true)
    (stays : (change task).isLive = true) (ok : (change task).Ok) :
    GroupsSound config held (state.updateTask index change) where
  registered := by
    intro groupKey place is
    obtain ⟨there, at_, ofKey, isLive⟩ := sound.registered groupKey place is
    simp only [GroupsState.updateTask, List.getElem?_modify]
    by_cases same : index = place
    · subst same
      rw [found, Option.some.injEq] at at_
      subst at_
      exact ⟨change task, by simp [found], sameGroup.trans ofKey, stays⟩
    · exact ⟨there, by simp [same, at_], ofKey, isLive⟩
  alive := by
    intro place there is isLive
    rcases getElem?_modify_cases found is with ⟨rfl, rfl⟩ | ⟨-, old⟩
    · rw [sameGroup]
      exact sound.alive place task found was
    · exact sound.alive place there old isLive
  ok := by
    intro place there is
    rcases getElem?_modify_cases found is with ⟨-, rfl⟩ | ⟨-, old⟩
    · exact ok
    · exact sound.ok place there old
  conserved := by
    have counted := countP_modify GroupTask.isLive change found
    have conserved := sound.conserved
    rw [was, stays] at counted
    simp only [GroupsState.live, GroupsState.updateTask] at conserved ⊢
    omega

theorem enqueue (sound : GroupsSound config held state) {index : Nat} {work : Work}
    (registered : state.groups work.entityEvent.groupKey = some index) :
    GroupsSound config held (state.enqueue index work) := by
  obtain ⟨task, found, ofKey, isLive⟩ := sound.registered _ index registered
  have ok := sound.ok index task found
  refine sound.updateTask found rfl isLive isLive ⟨?_, ok.running, ?_⟩
  · intro queued member
    rcases List.mem_append.mp member with old | new
    · exact ok.queued queued old
    · rw [List.mem_singleton.mp new]
      exact ofKey.symm
  · intro ended
    simp [GroupTask.isLive, show task.phase = .ended from ended] at isLive

theorem startGroup (sound : GroupsSound config 1 state) {groupKey : GroupKey}
    (absent : state.groups groupKey = none) :
    GroupsSound config 0 (state.startGroup groupKey).2 ∧
      (state.startGroup groupKey).2.groups groupKey = some (state.startGroup groupKey).1 := by
  refine ⟨⟨?_, ?_, ?_, ?_⟩, by simp [GroupsState.startGroup]⟩
  · intro other index is
    rcases of_update_some is with ⟨rfl, rfl⟩ | ⟨-, old⟩
    · exact ⟨⟨other, [], .waiting⟩, by simp [GroupsState.startGroup], rfl, rfl⟩
    · obtain ⟨task, found, ofKey, isLive⟩ := sound.registered other index old
      refine ⟨task, ?_, ofKey, isLive⟩
      exact (List.getElem?_append_left (List.getElem?_eq_some_iff.mp found).1).trans found
  · intro index task is isLive
    rcases getElem?_append_cases is with ⟨rfl, rfl⟩ | ⟨-, old⟩
    · exact Function.update_self ..
    · have registered := sound.alive index task old isLive
      have other : task.groupKey ≠ groupKey := by
        intro same
        rw [same, absent] at registered
        cases registered
      exact (Function.update_of_ne other ..).trans registered
  · intro index task is
    rcases getElem?_append_cases is with ⟨-, rfl⟩ | ⟨-, old⟩
    · exact ⟨by simp, by simp, by simp⟩
    · exact sound.ok index task old
  · have conserved := sound.conserved
    simp only [GroupsState.live, GroupsState.startGroup, List.countP_append] at conserved ⊢
    simp only [GroupTask.isLive, List.countP_singleton] at conserved ⊢
    simpa [Nat.add_assoc] using conserved

/-- With a permit in hand `_get_group` returns the registered coroutine. -/
theorem getGroupAcquired (sound : GroupsSound config 1 state) {groupKey : GroupKey}
    {index : Nat} {got : GroupsState}
    (returned : state.getGroupAcquired groupKey = (index, got)) :
    GroupsSound config 0 got ∧ got.groups groupKey = some index := by
  simp only [GroupsState.getGroupAcquired] at returned
  split at returned
  · rename_i other registered
    cases returned
    exact ⟨sound.moved (by simp), registered⟩
  · rename_i absent
    have started := sound.startGroup absent
    rw [returned] at started
    exact started

theorem processEntityEvent (sound : GroupsSound config 0 state) (work : Work) :
    GroupsSound config 0 (state.processEntityEvent work) := by
  simp only [GroupsState.processEntityEvent, GroupsState.getGroup]
  cases registered : state.groups work.entityEvent.groupKey with
  | some index => exact sound.enqueue registered
  | none =>
      rcases returned : state.semaphore.acquire work with ⟨_ | _, semaphore⟩
      · have waiting := Semaphore.permits_acquire_waiting returned
        exact sound.moved (congrArg (· + 0) waiting)
      · have holding := sound.moved (Semaphore.permits_acquire_now returned)
        obtain ⟨got, registered⟩ := holding.getGroupAcquired rfl
        exact got.enqueue registered

theorem resumeGetGroup (sound : GroupsSound config 0 state) {position : Nat}
    {after : GroupsState} (resumed : state.resumeGetGroup position = some after) :
    GroupsSound config 0 after := by
  obtain ⟨⟨acquired, semaphore⟩, returned, rfl⟩ := Option.map_eq_some_iff.mp resumed
  cases acquired with
  | none =>
      have left := Semaphore.permits_resume_cancelled returned
      exact sound.moved (congrArg (· + 0) left)
  | some work =>
      have holding := sound.moved (Semaphore.permits_resume_acquired returned)
      obtain ⟨got, registered⟩ := holding.getGroupAcquired rfl
      exact got.enqueue registered

theorem idleEnd (sound : GroupsSound config 0 state) {index : Nat} {task : GroupTask}
    (found : state.coroutines[index]? = some task) (was : task.isLive = true)
    (idle : task.queue = []) :
    GroupsSound config 0
      ((state.onIdle task.groupKey).updateTask index ({ · with phase := .ended })) where
  registered := by
    intro groupKey place is
    have other : groupKey ≠ task.groupKey := by
      rintro rfl
      simp [GroupsState.updateTask, GroupsState.onIdle] at is
    simp only [GroupsState.updateTask, GroupsState.onIdle, Function.update_of_ne other] at is
    obtain ⟨there, at_, ofKey, isLive⟩ := sound.registered groupKey place is
    have apart : index ≠ place := by
      rintro rfl
      rw [found, Option.some.injEq] at at_
      exact other (at_ ▸ ofKey.symm)
    exact ⟨there, by simp [GroupsState.updateTask, GroupsState.onIdle, apart, at_], ofKey,
      isLive⟩
  alive := by
    intro place there is isLive
    rcases getElem?_modify_cases found is with ⟨-, rfl⟩ | ⟨apart, old⟩
    · simp [GroupTask.isLive] at isLive
    · have registered := sound.alive place there old isLive
      have other : there.groupKey ≠ task.groupKey := by
        intro sameGroup
        rw [sameGroup, sound.alive index task found was, Option.some.injEq] at registered
        exact apart registered.symm
      simp only [GroupsState.updateTask, GroupsState.onIdle, Function.update_of_ne other]
      exact registered
  ok := by
    intro place there is
    rcases getElem?_modify_cases found is with ⟨-, rfl⟩ | ⟨-, old⟩
    · exact ⟨(sound.ok index task found).queued, by simp, fun _ => idle⟩
    · exact sound.ok place there old
  conserved := by
    have counted := countP_modify GroupTask.isLive ({ · with phase := .ended }) found
    have conserved := sound.conserved
    rw [was] at counted
    simp only [GroupTask.isLive, bne_self_eq_false, Bool.toNat_true, Bool.toNat_false]
      at counted
    simp only [GroupsState.live, GroupsState.updateTask, GroupsState.onIdle,
      Semaphore.permits_release] at conserved ⊢
    omega

theorem handleTimeout (sound : GroupsSound config 0 state) {index : Nat}
    {after : GroupsState} (handled : state.handleTimeout index = some after) :
    GroupsSound config 0 after := by
  obtain ⟨task, found, handled⟩ := Option.bind_eq_some_iff.mp handled
  have ok := sound.ok index task found
  split at handled
  · rename_i timedOut
    have was : task.isLive = true := by simp [GroupTask.isLive, timedOut]
    cases handled
    split
    · exact sound.updateTask found rfl was rfl ⟨ok.queued, by simp, by simp⟩
    · rename_i idle
      exact sound.idleEnd found was (not_not.mp idle)
  · cases handled

theorem take (sound : GroupsSound config 0 state) {index : Nat} {after : GroupsState}
    (taken : state.take index = some after) : GroupsSound config 0 after := by
  obtain ⟨task, found, taken⟩ := Option.bind_eq_some_iff.mp taken
  have ok := sound.ok index task found
  split at taken
  · rename_i work queue isWaiting isQueued
    have was : task.isLive = true := by simp [GroupTask.isLive, isWaiting]
    cases taken
    refine sound.updateTask found rfl was rfl ⟨?_, ?_, by simp⟩
    · intro other member
      exact ok.queued other (isQueued ▸ List.mem_cons_of_mem work member)
    · intro other is
      cases is
      exact ok.queued work (isQueued ▸ List.mem_cons_self)
  · cases taken

theorem goOn (sound : GroupsSound config 0 state) {index : Nat}
    {leaves : GroupPhase → Bool} {phase : GroupPhase} {after : GroupsState}
    (fromLive : leaves .ended = false) (toLive : phase ≠ .ended)
    (idle : ∀ work, phase ≠ .running work) (went : state.goOn index leaves phase = some after) :
    GroupsSound config 0 after := by
  obtain ⟨task, found, went⟩ := Option.bind_eq_some_iff.mp went
  have ok := sound.ok index task found
  split at went
  · rename_i left
    have was : task.isLive = true := by
      simp only [GroupTask.isLive, bne_iff_ne]
      intro ended
      rw [ended, fromLive] at left
      cases left
    cases went
    refine sound.updateTask found rfl was (bne_iff_ne.mpr toLive) ⟨ok.queued, ?_, ?_⟩
    · intro work is
      exact absurd is (idle work)
    · intro ended
      exact absurd ended toLive
  · cases went

theorem step (sound : GroupsSound config 0 state) {action : GroupsAction}
    {after : GroupsState} (stepped : groupsStep state action = some after) :
    GroupsSound config 0 after := by
  cases action with
  | processEntityEvent work =>
      cases stepped
      exact sound.processEntityEvent work
  | cancelWaiter position =>
      cases stepped
      exact sound.moved (by simp)
  | resumeGetGroup position => exact sound.resumeGetGroup stepped
  | take index => exact sound.take stepped
  | finishWork index =>
      simp only [groupsStep] at stepped
      exact sound.goOn rfl (by simp) (by simp) stepped
  | timeout index =>
      simp only [groupsStep] at stepped
      exact sound.goOn rfl (by simp) (by simp) stepped
  | handleTimeout index => exact sound.handleTimeout stepped

end GroupsSound

/-! ## Every run -/

/-- The step put the work last on the queue of the coroutine at `index`. -/
def PutOn (state after : GroupsState) (index : Nat) (work : Work) : Prop :=
  after.coroutines[index]?.map GroupTask.queue =
    some ((state.coroutines[index]?.map GroupTask.queue).getD [] ++ [work])

/-- In every order of calls, waits for a permit, cancellations, idle timeouts and ends of
merges: the free permits, the live groups and the permits handed to a waiter add up to
`max_concurrent`; a group has one live coroutine and one merge at a time; and a work is
put only on the live coroutine registered for its group. -/
theorem group_lifecycle {config : AggregationConfig} {past : List GroupsState}
    {state : GroupsState} (trace : (groupsMachine config).Trace anyAction past state) :
    state.semaphore.value + state.live + state.semaphore.handed = config.maxConcurrent ∧
    (∀ (first second : Nat) (task other : GroupTask),
      state.coroutines[first]? = some task → state.coroutines[second]? = some other →
      task.isLive = true → other.isLive = true → task.groupKey = other.groupKey →
      first = second) ∧
    (∀ (first second : Nat) (task other : GroupTask) (work otherWork : Work),
      state.coroutines[first]? = some task → state.coroutines[second]? = some other →
      task.phase = .running work → other.phase = .running otherWork →
      work.entityEvent.groupKey = otherWork.entityEvent.groupKey → first = second) ∧
    ∀ (action : GroupsAction) (after : GroupsState) (index : Nat) (work : Work),
      groupsStep state action = some after → PutOn state after index work →
      ∃ task, after.coroutines[index]? = some task ∧ task.isLive = true ∧
        after.groups work.entityEvent.groupKey = some index := by
  have sound : GroupsSound config 0 state := by
    apply trace.invariant
    · intro start begins
      rw [show start = GroupsState.initial config from begins]
      exact groupsSound_initial config
    · intro before action after held _ stepped
      exact held.step stepped
  have one (first second : Nat) (task other : GroupTask)
      (is : state.coroutines[first]? = some task)
      (otherIs : state.coroutines[second]? = some other) (isLive : task.isLive = true)
      (otherLive : other.isLive = true) (same : task.groupKey = other.groupKey) :
      first = second := by
    have registered := sound.alive first task is isLive
    rw [same, sound.alive second other otherIs otherLive, Option.some.injEq] at registered
    exact registered.symm
  refine ⟨?_, one, ?_, ?_⟩
  · have conserved := sound.conserved
    simp only [Semaphore.permits] at conserved
    omega
  · intro first second task other work otherWork is otherIs runs otherRuns same
    apply one first second task other is otherIs
    · simp [GroupTask.isLive, runs]
    · simp [GroupTask.isLive, otherRuns]
    · rw [← (sound.ok first task is).running work runs, same,
        (sound.ok second other otherIs).running otherWork otherRuns]
  · intro action after index work stepped put
    have sound' := sound.step stepped
    obtain ⟨task, found, queue⟩ := Option.map_eq_some_iff.mp put
    have queued : work ∈ task.queue := by simp [queue]
    have ok := sound'.ok index task found
    have isLive := ok.isLive_of_queued queued
    refine ⟨task, found, isLive, ?_⟩
    rw [ok.queued work queued]
    exact sound'.alive index task found isLive

/-! ## A group that ends and starts again, and a cancelled waiter -/

def workOf (id : UUID) (stockCode : String) : Work :=
  ⟨{ sampleEntityEvent id 0 with stockCode := stockCode }, id⟩

/-- With one permit: group 00700 runs and idles out, 00005 takes its permit, and the next
waiter of 00005 is cancelled after it got the permit, which goes to 00700. -/
def endsAndStartsAgain : List GroupsAction :=
  [.processEntityEvent (workOf 1 "00700"), .processEntityEvent (workOf 2 "00005"),
    .take 0, .finishWork 0, .timeout 0, .handleTimeout 0,
    .processEntityEvent (workOf 3 "00005"), .resumeGetGroup 0, .take 1,
    .processEntityEvent (workOf 4 "00700"), .finishWork 1, .timeout 1, .handleTimeout 1,
    .cancelWaiter 0, .resumeGetGroup 0]

theorem group_lifecycle_restarted : ∃ past state,
    (groupsMachine { defaultAggregationConfig with maxConcurrent := 1 }).Trace anyAction
      past state ∧
    (state.live, state.semaphore.handed, state.coroutines.length) = (0, 1, 2) ∧
    state.semaphore.value + state.live + state.semaphore.handed = 1 ∧
    ∃ after task, groupsStep state (.resumeGetGroup 0) = some after ∧
      after.coroutines[2]? = some task ∧ task.isLive = true := by
  obtain ⟨past, state, trace, seen⟩ :=
    Trace.of_run_view (groupsMachine { defaultAggregationConfig with maxConcurrent := 1 })
      (fun _ _ => true)
      (fun state => ((state.live, state.semaphore.handed, state.coroutines.length),
        (groupsStep state (.resumeGetGroup 0)).map fun after =>
          after.coroutines[2]?.map GroupTask.queue))
      ((0, 1, 2), some (some [workOf 4 "00700"]))
      (fun _ _ _ _ _ => trivial) rfl endsAndStartsAgain (by decide +kernel)
  obtain ⟨counts, putting⟩ := Prod.mk.injEq .. ▸ seen
  obtain ⟨after, stepped, queue⟩ := Option.map_eq_some_iff.mp putting
  have lifecycle := group_lifecycle trace
  have absent : state.coroutines[2]? = none := by
    rw [List.getElem?_eq_none_iff]
    simp only [Prod.mk.injEq] at counts
    omega
  have put : PutOn state after 2 (workOf 4 "00700") := by
    simp [PutOn, absent, queue]
  obtain ⟨task, found, isLive, -⟩ := lifecycle.2.2.2 _ after 2 _ stepped put
  exact ⟨past, state, trace, counts, lifecycle.1, after, task, stepped, found, isLive⟩

end WealthFinder.Pipeline
