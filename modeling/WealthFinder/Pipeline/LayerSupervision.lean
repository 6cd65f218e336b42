import Mathlib.Data.List.Nodup
import Mathlib.Tactic.FinCases
import WealthFinder.Machine
import WealthFinder.Tables

/-!
# Supervision of the layer Tasks

A crashed layer is restarted through three turns of the event loop: the end of its
Task, the Task's done-callback and the restart timer.  Shutdown may begin between
any two of them.
-/

set_option autoImplicit false

namespace WealthFinder.Pipeline

open Machine

inductive Layer where
  | entityAnalysis
  | aggregation
  | scoring
  | cache
  deriving DecidableEq, Repr

/-- How a Task ends: `task.cancelled()`, `task.exception()` or neither. -/
inductive TaskEnd where
  | returned
  | raised
  | cancelled
  deriving DecidableEq, Repr

/-- A done Task's callback runs in a later turn of the loop, after which the Task is
settled. -/
inductive TaskPhase where
  | running
  | ended (outcome : TaskEnd)
  | settled (outcome : TaskEnd)
  deriving DecidableEq, Repr

/-- `monitored` Tasks have `_on_done` as their done-callback. -/
structure LayerTask where
  layer : Layer
  monitored : Bool
  cancelRequested : Bool
  phase : TaskPhase
  deriving DecidableEq, Repr

/-- `tasks` are the Tasks created so far, `timers` the pending `_restart` calls. -/
structure LifespanState where
  tasks : List LayerTask
  layerTasks : Layer → Option Nat
  timers : List Layer
  shuttingDown : Bool

namespace LifespanState

def empty : LifespanState := ⟨[], fun _ => none, [], false⟩

/-- `layer_tasks[layer] = asyncio.create_task(...)`. -/
def spawn (state : LifespanState) (layer : Layer) (monitored : Bool) : LifespanState :=
  { state with
    tasks := state.tasks ++ [⟨layer, monitored, false, .running⟩]
    layerTasks := Function.update state.layerTasks layer (some state.tasks.length) }

/-- `layer_tasks[layer] = _make_monitored(layer, start)`. -/
def makeMonitored (state : LifespanState) (layer : Layer) : LifespanState :=
  state.spawn layer true

/-- The lifespan up to its `yield`. -/
def startup : LifespanState :=
  ((empty.makeMonitored .entityAnalysis).makeMonitored .aggregation).spawn .scoring false

def restart (state : LifespanState) (layer : Layer) : LifespanState :=
  if state.shuttingDown then state else state.makeMonitored layer

/-- `_on_done`, besides its logging. -/
def onDone (state : LifespanState) (layer : Layer) (outcome : TaskEnd) : LifespanState :=
  if state.shuttingDown then state
  else
    match outcome with
    | .returned => state
    | .cancelled => state
    | .raised => { state with timers := state.timers ++ [layer] }

def isRegistered (state : LifespanState) (id : Nat) : Bool :=
  [Layer.entityAnalysis, .aggregation, .scoring, .cache].any fun layer =>
    state.layerTasks layer = some id

/-- `_cancel_layer_tasks` up to its `gather`. -/
def cancelLayerTasks (state : LifespanState) : LifespanState :=
  { state with
    shuttingDown := true
    tasks := state.tasks.mapIdx fun id task =>
      if state.isRegistered id && task.phase = .running then
        { task with cancelRequested := true }
      else task }

def setTask (state : LifespanState) (id : Nat) (task : LayerTask) : LifespanState :=
  { state with tasks := state.tasks.set id task }

end LifespanState

inductive LifespanAction where
  /-- The Task's coroutine ends, in whatever way. -/
  | finish (id : Nat) (outcome : TaskEnd)
  | runCallback (id : Nat)
  | fireTimer (position : Nat)
  /-- Something cancels the Task. -/
  | cancel (id : Nat)
  | beginShutdown

def lifespanStep (state : LifespanState) : LifespanAction → Option LifespanState
  | .finish id outcome =>
      (state.tasks[id]?).bind fun task =>
        if task.phase = .running then
          some (state.setTask id { task with phase := .ended outcome })
        else none
  | .runCallback id =>
      (state.tasks[id]?).bind fun task =>
        match task.monitored, task.phase with
        | true, .ended outcome =>
            some ((state.setTask id { task with phase := .settled outcome }).onDone
              task.layer outcome)
        | _, _ => none
  | .fireTimer position =>
      (state.timers[position]?).map fun layer =>
        { state with timers := state.timers.eraseIdx position }.restart layer
  | .cancel id =>
      (state.tasks[id]?).bind fun task =>
        if task.phase = .running then
          some (state.setTask id { task with cancelRequested := true })
        else none
  | .beginShutdown =>
      if state.shuttingDown then none else some state.cancelLayerTasks

def lifespanMachine : Machine LifespanState LifespanAction where
  init := fun state => state = LifespanState.startup
  step := lifespanStep

/-! ## The invariant -/

def Layer.isMonitored : Layer → Bool
  | .entityAnalysis | .aggregation => true
  | .scoring | .cache => false

/-- Every monitored Task is registered unless its crash has been dealt with, and a
restart timer belongs to a layer whose registered Task has crashed. -/
structure LifespanSound (state : LifespanState) : Prop where
  kinds : ∀ (id : Nat) (task : LayerTask), state.tasks[id]? = some task →
    task.monitored = task.layer.isMonitored
  registered : ∀ (id : Nat) (task : LayerTask), state.tasks[id]? = some task →
    task.monitored = true → task.phase ≠ .settled .raised → state.layerTasks task.layer = some id
  waiting : ∀ layer ∈ state.timers, layer.isMonitored = true ∧
    ∃ (id : Nat) (task : LayerTask), state.layerTasks layer = some id ∧ state.tasks[id]? = some task ∧
    task.phase = .settled .raised
  once : state.timers.Nodup
  cancelled : state.shuttingDown = true → ∀ (id : Nat) (task : LayerTask),
    state.tasks[id]? = some task → task.monitored = true → task.phase = .running → task.cancelRequested = true

section
variable {state : LifespanState}

/-- A Task that is not settled moves on, or is cancelled. -/
theorem LifespanSound.setTask (sound : LifespanSound state) {id : Nat} {task later : LayerTask}
    (found : state.tasks[id]? = some task) (layer : later.layer = task.layer)
    (monitored : later.monitored = task.monitored)
    (unsettled : ∀ outcome, task.phase ≠ .settled outcome)
    (cancelled : later.phase = .running → task.phase = .running ∧
      (task.cancelRequested = true → later.cancelRequested = true)) :
    LifespanSound (state.setTask id later) where
  kinds := by
    intro other current is
    rcases getElem?_set_cases found is with ⟨-, rfl⟩ | ⟨-, old⟩
    · rw [layer, monitored]
      exact sound.kinds id task found
    · exact sound.kinds other current old
  registered := by
    intro other current is watched open'
    rcases getElem?_set_cases found is with ⟨rfl, rfl⟩ | ⟨-, old⟩
    · have known := sound.registered other task found (monitored ▸ watched)
        (unsettled .raised)
      exact layer ▸ known
    · exact sound.registered other current old watched open'
  waiting := by
    intro waitingLayer member
    obtain ⟨isMonitored, other, crashed, registered, is, settled⟩ :=
      sound.waiting waitingLayer member
    refine ⟨isMonitored, other, crashed, registered, ?_, settled⟩
    have apart : other ≠ id := by
      rintro rfl
      rw [found, Option.some.injEq] at is
      exact unsettled .raised (is ▸ settled)
    simpa [LifespanState.setTask, List.getElem?_set_ne (Ne.symm apart)] using is
  once := sound.once
  cancelled := by
    intro shutting other current is watched running
    rcases getElem?_set_cases found is with ⟨rfl, rfl⟩ | ⟨-, old⟩
    · obtain ⟨wasRunning, kept⟩ := cancelled running
      exact kept (sound.cancelled shutting other task found (monitored ▸ watched) wasRunning)
    · exact sound.cancelled shutting other current old watched running

/-- A new Task of a layer whose earlier Tasks have all crashed and been dealt with. -/
theorem LifespanSound.makeMonitored (sound : LifespanSound state) {layer : Layer}
    (isMonitored : layer.isMonitored = true) (idle : layer ∉ state.timers)
    (crashed : ∀ (id : Nat) (task : LayerTask), state.tasks[id]? = some task →
      task.layer = layer → task.phase = .settled .raised)
    (serving : state.shuttingDown = false) : LifespanSound (state.makeMonitored layer) where
  kinds := by
    intro id task is
    rcases getElem?_append_cases is with ⟨-, rfl⟩ | ⟨-, old⟩
    · exact isMonitored.symm
    · exact sound.kinds id task old
  registered := by
    intro id task is watched open'
    rcases getElem?_append_cases is with ⟨rfl, rfl⟩ | ⟨-, old⟩
    · simp [LifespanState.makeMonitored, LifespanState.spawn]
    · have apart : task.layer ≠ layer := fun same => open' (crashed id task old same)
      simpa [LifespanState.makeMonitored, LifespanState.spawn, apart] using
        sound.registered id task old watched open'
  waiting := by
    intro other member
    have apart : other ≠ layer := fun same => idle (same ▸ member)
    obtain ⟨watched, id, task, registered, is, settled⟩ := sound.waiting other member
    refine ⟨watched, id, task, ?_, ?_, settled⟩
    · simpa [LifespanState.makeMonitored, LifespanState.spawn, apart] using registered
    · have within : id < state.tasks.length := (List.getElem?_eq_some_iff.mp is).1
      simpa [LifespanState.makeMonitored, LifespanState.spawn,
        List.getElem?_append_left within] using is
  once := sound.once
  cancelled := by
    intro shutting
    exact absurd (serving.symm.trans shutting) (by decide)

/-- While a restart timer waits, every Task of its layer has crashed. -/
theorem LifespanSound.crashed (sound : LifespanSound state) {layer : Layer}
    (member : layer ∈ state.timers) {id : Nat} {task : LayerTask}
    (is : state.tasks[id]? = some task) (same : task.layer = layer) :
    task.phase = .settled .raised := by
  obtain ⟨isMonitored, last, lastTask, registered, present, settled⟩ :=
    sound.waiting layer member
  by_contra open'
  have watched : task.monitored = true := by
    rw [sound.kinds id task is, same, isMonitored]
  have known := sound.registered id task is watched open'
  rw [same, registered, Option.some.injEq] at known
  subst known
  rw [present, Option.some.injEq] at is
  exact open' (is ▸ settled)

theorem LifespanSound.eraseTimer (sound : LifespanSound state) (position : Nat) :
    LifespanSound { state with timers := state.timers.eraseIdx position } where
  kinds := sound.kinds
  registered := sound.registered
  waiting := fun layer member => sound.waiting layer (List.mem_of_mem_eraseIdx member)
  once := sound.once.sublist (List.eraseIdx_sublist _ _)
  cancelled := sound.cancelled

theorem not_mem_eraseIdx {α : Type} {items : List α} {item : α} {position : Nat}
    (distinct : items.Nodup) (at' : items[position]? = some item) :
    item ∉ items.eraseIdx position := by
  intro member
  obtain ⟨other, apart, is⟩ := List.mem_eraseIdx_iff_getElem?.mp member
  obtain ⟨within, first⟩ := List.getElem?_eq_some_iff.mp at'
  obtain ⟨otherWithin, second⟩ := List.getElem?_eq_some_iff.mp is
  exact apart ((distinct.getElem_inj_iff).mp (second.trans first.symm))

theorem LifespanSound.fireTimer (sound : LifespanSound state) {position : Nat} {layer : Layer}
    (at' : state.timers[position]? = some layer) :
    LifespanSound
      ({ state with timers := state.timers.eraseIdx position }.restart layer) := by
  have member := List.mem_of_getElem? at'
  unfold LifespanState.restart
  split
  · exact sound.eraseTimer position
  · rename_i serving
    exact (sound.eraseTimer position).makeMonitored (sound.waiting layer member).1
      (not_mem_eraseIdx sound.once at') (fun _ _ is same => sound.crashed member is same)
      (by simpa using serving)

theorem LifespanSound.runCallback (sound : LifespanSound state) {id : Nat} {task : LayerTask}
    {outcome : TaskEnd} (found : state.tasks[id]? = some task)
    (watched : task.monitored = true) (ended : task.phase = .ended outcome) :
    LifespanSound ((state.setTask id { task with phase := .settled outcome }).onDone
      task.layer outcome) := by
  have between : LifespanSound (state.setTask id { task with phase := .settled outcome }) :=
    sound.setTask found rfl rfl (by simp [ended]) (by simp)
  have within : id < state.tasks.length := (List.getElem?_eq_some_iff.mp found).1
  unfold LifespanState.onDone
  split
  · exact between
  · cases outcome with
    | returned | cancelled => exact between
    | raised =>
        refine ⟨between.kinds, between.registered, ?_, ?_, between.cancelled⟩
        · intro layer member
          rcases List.mem_append.mp member with old | new
          · exact between.waiting layer old
          · rw [List.mem_singleton.mp new]
            refine ⟨(sound.kinds id task found).symm.trans watched, id, _,
              sound.registered id task found watched (by simp [ended]),
              List.getElem?_set_self within, rfl⟩
        · have idle : task.layer ∉ state.timers := by
            intro waits
            have crashed := sound.crashed waits found rfl
            rw [ended] at crashed
            cases crashed
          rw [List.nodup_append]
          refine ⟨sound.once, List.nodup_singleton _, ?_⟩
          intro layer member other new same
          rw [List.mem_singleton.mp new] at same
          exact idle (same ▸ member)

theorem isRegistered_of_registered {layer : Layer} {id : Nat}
    (registered : state.layerTasks layer = some id) : state.isRegistered id = true := by
  simp only [LifespanState.isRegistered, List.any_eq_true, decide_eq_true_eq]
  refine ⟨layer, ?_, registered⟩
  cases layer <;> simp

theorem LifespanSound.cancelLayerTasks (sound : LifespanSound state) :
    LifespanSound state.cancelLayerTasks := by
  have back {id : Nat} {later : LayerTask}
      (is : state.cancelLayerTasks.tasks[id]? = some later) :
      ∃ task, state.tasks[id]? = some task ∧ later.layer = task.layer ∧
        later.monitored = task.monitored ∧ later.phase = task.phase ∧
        (state.isRegistered id = true → task.phase = .running →
          later.cancelRequested = true) := by
    simp only [LifespanState.cancelLayerTasks, List.getElem?_mapIdx] at is
    obtain ⟨task, found, rfl⟩ := Option.map_eq_some_iff.mp is
    refine ⟨task, found, ?_⟩
    split
    · exact ⟨rfl, rfl, rfl, fun _ _ => rfl⟩
    · rename_i apart
      refine ⟨rfl, rfl, rfl, fun registered running => ?_⟩
      exact absurd (by simp [registered, running]) apart
  constructor
  · intro id later is
    obtain ⟨task, found, layer, monitored, -, -⟩ := back is
    rw [layer, monitored]
    exact sound.kinds id task found
  · intro id later is watched open'
    obtain ⟨task, found, layer, monitored, phase, -⟩ := back is
    rw [layer]
    exact sound.registered id task found (monitored ▸ watched) (phase ▸ open')
  · intro layer member
    obtain ⟨isMonitored, id, task, registered, is, settled⟩ := sound.waiting layer member
    refine ⟨isMonitored, id, task, registered, ?_, settled⟩
    simp [LifespanState.cancelLayerTasks, is, settled]
  · exact sound.once
  · intro _ id later is watched running
    obtain ⟨task, found, layer, monitored, phase, cancels⟩ := back is
    have registered := sound.registered id task found (monitored ▸ watched)
      (by rw [← phase, running]; simp)
    exact cancels (isRegistered_of_registered registered) (phase ▸ running)

/-- What a step can do. -/
inductive LifespanStep (state : LifespanState) : LifespanAction → LifespanState → Prop where
  | finished {id : Nat} {task : LayerTask} {outcome : TaskEnd}
      (found : state.tasks[id]? = some task) (running : task.phase = .running) :
      LifespanStep state (.finish id outcome)
        (state.setTask id { task with phase := .ended outcome })
  | calledBack {id : Nat} {task : LayerTask} {outcome : TaskEnd}
      (found : state.tasks[id]? = some task) (watched : task.monitored = true)
      (ended : task.phase = .ended outcome) :
      LifespanStep state (.runCallback id)
        ((state.setTask id { task with phase := .settled outcome }).onDone task.layer outcome)
  | fired {position : Nat} {layer : Layer} (at' : state.timers[position]? = some layer) :
      LifespanStep state (.fireTimer position)
        ({ state with timers := state.timers.eraseIdx position }.restart layer)
  | cancelled {id : Nat} {task : LayerTask} (found : state.tasks[id]? = some task)
      (running : task.phase = .running) :
      LifespanStep state (.cancel id) (state.setTask id { task with cancelRequested := true })
  | shutDown : LifespanStep state .beginShutdown state.cancelLayerTasks

theorem lifespanStep_step {after : LifespanState} {action : LifespanAction}
    (moved : lifespanStep state action = some after) : LifespanStep state action after := by
  cases action with
  | finish id outcome =>
      obtain ⟨task, found, moved⟩ := Option.bind_eq_some_iff.mp moved
      split at moved
      · rename_i running
        cases moved
        exact .finished found running
      · cases moved
  | runCallback id =>
      obtain ⟨task, found, moved⟩ := Option.bind_eq_some_iff.mp moved
      split at moved
      · rename_i outcome watched ended
        cases moved
        exact .calledBack found watched ended
      · cases moved
  | fireTimer position =>
      obtain ⟨layer, at', rfl⟩ := Option.map_eq_some_iff.mp moved
      exact .fired at'
  | cancel id =>
      obtain ⟨task, found, moved⟩ := Option.bind_eq_some_iff.mp moved
      split at moved
      · rename_i running
        cases moved
        exact .cancelled found running
      · cases moved
  | beginShutdown =>
      simp only [lifespanStep] at moved
      split at moved
      · cases moved
      · cases moved
        exact .shutDown

theorem LifespanSound.step {after : LifespanState} {action : LifespanAction}
    (sound : LifespanSound state) (moved : lifespanStep state action = some after) :
    LifespanSound after := by
  cases lifespanStep_step moved with
  | finished found running =>
      exact sound.setTask found rfl rfl (by simp [running]) (by simp)
  | calledBack found watched ended => exact sound.runCallback found watched ended
  | fired at' => exact sound.fireTimer at'
  | cancelled found running =>
      exact sound.setTask found rfl rfl (by simp [running]) fun _ => ⟨running, fun _ => rfl⟩
  | shutDown => exact sound.cancelLayerTasks

theorem lifespanSound_startup : LifespanSound LifespanState.startup where
  kinds := by
    intro id task is
    have member := List.mem_of_getElem? is
    fin_cases member <;> rfl
  registered := by
    intro id task is watched open'
    match id, is with
    | 0, is => cases is; rfl
    | 1, is => cases is; rfl
    | 2, is => cases is; cases watched
  waiting := fun _ member => absurd member List.not_mem_nil
  once := List.nodup_nil
  cancelled := fun impossible => nomatch impossible

/-! ## What a step does to the Tasks -/

def TaskPhase.stopped : TaskPhase → Bool
  | .running => false
  | .ended outcome | .settled outcome => outcome ≠ .raised

/-- The layer's Task ended without a crash. -/
def LayerStopped (state : LifespanState) (layer : Layer) : Prop :=
  ∃ (id : Nat) (task : LayerTask), state.tasks[id]? = some task ∧ task.layer = layer ∧
    task.monitored = true ∧ task.phase.stopped = true

/-- The number of Tasks ever created for the layer. -/
def created (state : LifespanState) (layer : Layer) : Nat :=
  (state.tasks.map LayerTask.layer).count layer

/-- Tasks are never removed, keep their layer and stay stopped. -/
def TasksKept (state after : LifespanState) : Prop :=
  ∀ (id : Nat) (task : LayerTask), state.tasks[id]? = some task →
    ∃ later : LayerTask, after.tasks[id]? = some later ∧ later.layer = task.layer ∧
      later.monitored = task.monitored ∧
      (task.phase.stopped = true → later.phase.stopped = true)

theorem layers_setTask {id : Nat} {task later : LayerTask}
    (found : state.tasks[id]? = some task) (layer : later.layer = task.layer) :
    (state.setTask id later).tasks.map LayerTask.layer = state.tasks.map LayerTask.layer := by
  have within : id < state.tasks.length := (List.getElem?_eq_some_iff.mp found).1
  apply List.ext_getElem?
  intro other
  simp only [LifespanState.setTask, List.getElem?_map]
  by_cases same : other = id
  · subst same
    rw [List.getElem?_set_self within, found, Option.map_some, Option.map_some, layer]
  · rw [List.getElem?_set_ne (Ne.symm same)]

theorem tasksKept_setTask {id : Nat} {task later : LayerTask}
    (found : state.tasks[id]? = some task) (layer : later.layer = task.layer)
    (monitored : later.monitored = task.monitored)
    (stopped : task.phase.stopped = true → later.phase.stopped = true) :
    TasksKept state (state.setTask id later) := by
  intro other current is
  have within : id < state.tasks.length := (List.getElem?_eq_some_iff.mp found).1
  by_cases same : other = id
  · subst same
    rw [found, Option.some.injEq] at is
    subst is
    exact ⟨later, List.getElem?_set_self within, layer, monitored, stopped⟩
  · exact ⟨current, by simp [LifespanState.setTask, Ne.symm same, is], rfl, rfl,
      fun stopped => stopped⟩

theorem tasksKept_refl (state : LifespanState) : TasksKept state state :=
  fun _ task is => ⟨task, is, rfl, rfl, fun stopped => stopped⟩

/-- A step leaves the layers' Tasks as they are, but for a restart before shutdown. -/
theorem lifespanStep_tasks {after : LifespanState} {action : LifespanAction}
    (moved : lifespanStep state action = some after) :
    TasksKept state after ∧
    (after.tasks.map LayerTask.layer = state.tasks.map LayerTask.layer ∨
      ∃ layer ∈ state.timers, state.shuttingDown = false ∧
        after.tasks.map LayerTask.layer = state.tasks.map LayerTask.layer ++ [layer]) ∧
    (state.shuttingDown = true → after.shuttingDown = true) := by
  cases lifespanStep_step moved with
  | finished found running =>
      exact ⟨tasksKept_setTask found rfl rfl (by simp [running, TaskPhase.stopped]),
        Or.inl (layers_setTask found rfl), fun shutting => shutting⟩
  | @calledBack id task outcome found watched ended =>
      have kept : TasksKept state
          (state.setTask id { task with phase := .settled outcome }) :=
        tasksKept_setTask found rfl rfl (by simp [ended, TaskPhase.stopped])
      have layers : (state.setTask id
          { task with phase := .settled outcome }).tasks.map LayerTask.layer =
            state.tasks.map LayerTask.layer := layers_setTask found rfl
      unfold LifespanState.onDone
      split
      · exact ⟨kept, Or.inl layers, fun shutting => shutting⟩
      · cases outcome <;> exact ⟨kept, Or.inl layers, fun shutting => shutting⟩
  | @fired position layer at' =>
      unfold LifespanState.restart
      split
      · exact ⟨tasksKept_refl _, Or.inl rfl, fun shutting => shutting⟩
      · rename_i serving
        refine ⟨?_, Or.inr ⟨layer, List.mem_of_getElem? at', by simpa using serving, ?_⟩,
          fun shutting => shutting⟩
        · intro id task is
          have within : id < state.tasks.length := (List.getElem?_eq_some_iff.mp is).1
          refine ⟨task, ?_, rfl, rfl, fun stopped => stopped⟩
          simpa [LifespanState.makeMonitored, LifespanState.spawn,
            List.getElem?_append_left within] using is
        · simp [LifespanState.makeMonitored, LifespanState.spawn]
  | cancelled found =>
      exact ⟨tasksKept_setTask found rfl rfl fun stopped => stopped,
        Or.inl (layers_setTask found rfl), fun shutting => shutting⟩
  | shutDown =>
      have same (id : Nat) (task : LayerTask) :
          (if state.isRegistered id && task.phase = .running then
            { task with cancelRequested := true } else task : LayerTask).layer = task.layer ∧
          (if state.isRegistered id && task.phase = .running then
            { task with cancelRequested := true } else task : LayerTask).monitored =
              task.monitored ∧
          (if state.isRegistered id && task.phase = .running then
            { task with cancelRequested := true } else task : LayerTask).phase =
              task.phase := by
        split <;> exact ⟨rfl, rfl, rfl⟩
      refine ⟨?_, Or.inl ?_, fun _ => rfl⟩
      · intro id task is
        refine ⟨_, by simp only [LifespanState.cancelLayerTasks, List.getElem?_mapIdx, is,
          Option.map_some], (same id task).1, (same id task).2.1, ?_⟩
        rw [(same id task).2.2]
        exact fun stopped => stopped
      · apply List.ext_getElem?
        intro id
        simp only [LifespanState.cancelLayerTasks, List.getElem?_map, List.getElem?_mapIdx,
          Option.map_map]
        congr 1
        funext task
        exact (same id task).1

end

/-! ## Runs -/

def NoTaskAfterShutdown (state after : LifespanState) : Prop :=
  state.shuttingDown = true →
    after.shuttingDown = true ∧ ∀ layer, created after layer = created state layer

def NeverRestarted (state after : LifespanState) : Prop :=
  ∀ layer, LayerStopped state layer →
    LayerStopped after layer ∧ created after layer = created state layer

theorem noTaskAfterShutdown_step {state after : LifespanState} {action : LifespanAction}
    (moved : lifespanStep state action = some after) : NoTaskAfterShutdown state after := by
  intro shutting
  obtain ⟨-, layers, stays⟩ := lifespanStep_tasks moved
  refine ⟨stays shutting, fun layer => ?_⟩
  rcases layers with same | ⟨_, _, serving, _⟩
  · unfold created
    rw [same]
  · exact absurd (serving.symm.trans shutting) (by decide)

theorem neverRestarted_step {state after : LifespanState} {action : LifespanAction}
    (sound : LifespanSound state) (moved : lifespanStep state action = some after) :
    NeverRestarted state after := by
  rintro layer ⟨id, task, is, sameLayer, watched, stopped⟩
  obtain ⟨kept, layers, -⟩ := lifespanStep_tasks moved
  obtain ⟨later, found, laterLayer, laterWatched, stays⟩ := kept id task is
  refine ⟨⟨id, later, found, laterLayer.trans sameLayer, laterWatched.trans watched,
    stays stopped⟩, ?_⟩
  unfold created
  rcases layers with same | ⟨other, waits, -, grown⟩
  · rw [same]
  · have apart : other ≠ layer := by
      rintro rfl
      have crashed := sound.crashed waits is sameLayer
      simp [crashed, TaskPhase.stopped] at stopped
    rw [grown, List.count_append, List.count_singleton]
    simp [apart]

theorem lifespanSound_of_trace {allowed : LifespanState → LifespanAction → Prop}
    {past : List LifespanState} {state : LifespanState}
    (trace : lifespanMachine.Trace allowed past state) : LifespanSound state := by
  apply trace.invariant
  · intro start begins
    cases begins
    exact lifespanSound_startup
  · intro before action after sound _ moved
    exact sound.step moved

/-- In every order of crashes, callbacks, timers, stops, cancellations and shutdown: a
monitored layer has at most one unfinished Task; it is registered, and cancelled once
shutdown has begun; no Task is created after that, nor for a layer that stopped. -/
theorem one_task_per_layer {past : List LifespanState} {state : LifespanState}
    (trace : lifespanMachine.Trace anyAction past state) :
    (∀ (first second : Nat) (task other : LayerTask), state.tasks[first]? = some task →
      state.tasks[second]? = some other → task.layer.isMonitored = true →
      other.layer = task.layer → task.phase = .running → other.phase = .running →
      first = second) ∧
    (∀ (id : Nat) (task : LayerTask), state.tasks[id]? = some task →
      task.layer.isMonitored = true → task.phase = .running →
      state.layerTasks task.layer = some id ∧
        (state.shuttingDown = true → task.cancelRequested = true)) ∧
    ((state :: past).Pairwise fun later earlier => NoTaskAfterShutdown earlier later) ∧
    (state :: past).Pairwise fun later earlier => NeverRestarted earlier later := by
  have sound := lifespanSound_of_trace trace
  have registered (id : Nat) (task : LayerTask) (is : state.tasks[id]? = some task)
      (isMonitored : task.layer.isMonitored = true) (running : task.phase = .running) :
      state.layerTasks task.layer = some id :=
    sound.registered id task is ((sound.kinds id task is).trans isMonitored)
      (by simp [running])
  refine ⟨?_, ?_, ?_, ?_⟩
  · intro first second task other is otherIs isMonitored same running otherRunning
    have one := registered first task is isMonitored running
    have two := registered second other otherIs (same ▸ isMonitored) otherRunning
    rw [same, one, Option.some.injEq] at two
    exact two
  · intro id task is isMonitored running
    exact ⟨registered id task is isMonitored running, fun shutting =>
      sound.cancelled shutting id task is ((sound.kinds id task is).trans isMonitored) running⟩
  · refine trace.pairwise ?_ ?_
    · intro first second third early late shutting
      obtain ⟨still, same⟩ := early shutting
      obtain ⟨stays, kept⟩ := late still
      exact ⟨stays, fun layer => (kept layer).trans (same layer)⟩
    · intro past before action after _ _ moved
      exact noTaskAfterShutdown_step moved
  · refine trace.pairwise ?_ ?_
    · intro first second third early late layer stopped
      obtain ⟨still, same⟩ := early layer stopped
      obtain ⟨stays, kept⟩ := late layer still
      exact ⟨stays, kept.trans same⟩
    · intro past before action after earlier _ moved
      exact neverRestarted_step (lifespanSound_of_trace earlier) moved

/-! ## A crash, a restart, and a timer that fires during shutdown -/

def crashesAroundShutdown : List LifespanAction :=
  [.finish 0 .raised, .runCallback 0, .fireTimer 0, .finish 1 .raised, .runCallback 1,
    .beginShutdown, .fireTimer 0, .finish 3 .cancelled, .runCallback 3]

theorem one_task_per_layer_shutdown : ∃ past state,
    lifespanMachine.Trace anyAction past state ∧
    state.tasks.map LayerTask.layer =
      [.entityAnalysis, .aggregation, .scoring, .entityAnalysis] ∧
    ((state :: past).Pairwise fun later earlier => NoTaskAfterShutdown earlier later) ∧
    (state :: past).Pairwise fun later earlier => NeverRestarted earlier later := by
  obtain ⟨past, state, trace, layers⟩ :=
    Trace.of_run_view lifespanMachine (fun _ _ => true)
      (fun state => state.tasks.map LayerTask.layer)
      [.entityAnalysis, .aggregation, .scoring, .entityAnalysis]
      (fun _ _ _ _ _ => trivial) rfl crashesAroundShutdown (by decide)
  exact ⟨past, state, trace, layers, (one_task_per_layer trace).2.2⟩

end WealthFinder.Pipeline
