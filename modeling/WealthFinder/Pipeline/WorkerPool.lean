import Mathlib.Data.Rat.Defs
import Mathlib.Algebra.Order.Ring.Rat
import WealthFinder.InFlight
import WealthFinder.Semaphore
import WealthFinder.WorkLog
import WealthFinder.Pipeline.EntityAnalysis

/-!
# The worker pool and the article guard

`WorkerPool.dispatch` and `CleanedNewsConsumer` from `_route` to `_analyse`, one turn of
the event loop a step.  The tasks of a batch start in any order and run beside those of
the other loop's batch.  A dispatch waits in the semaphore, or it holds a slot and sleeps
through a backoff or runs its work.
-/

set_option autoImplicit false

namespace WealthFinder.Pipeline

open Machine

/-- Seconds of the event loop's clock. -/
abbrev LoopTime := ℚ

/-- A call of `dispatch` with the work of `_analyse`. -/
structure Dispatch where
  cleanedId : UUID
  messageId : MessageId
  deriving DecidableEq

/-- Where a dispatch with a slot is suspended, `asleep` in the loop over the backoff. -/
inductive WorkerStage where
  | asleep
  | findEntityEvents
  | ack
  deriving DecidableEq

/-- `cancelled` says that the task's cancellation has not reached it yet. -/
structure Worker where
  dispatch : Dispatch
  stage : WorkerStage
  cancelled : Bool
  deriving DecidableEq

inductive PoolEvent where
  | triggered (deadline : LoopTime)
  | started (dispatch : Dispatch) (time : LoopTime)
  deriving DecidableEq

/-- What an await of `_analyse` gives: it returns, or it raises LLMRateLimitError, another
error, or that the stream Redis is unreachable. -/
inductive AnalyseOutcome where
  | done
  | rateLimited
  | failed
  | unreachable
  deriving DecidableEq

/-- `workers` hold the slots of the pool, and `log` has the backoffs and the works that
started, in their order. -/
structure PoolState where
  semaphore : Semaphore Dispatch
  workers : List Worker
  rateLimitUntil : LoopTime
  time : LoopTime
  processing : UUID → Bool
  hkStockList : Nat
  log : List PoolEvent

namespace PoolState

def initial (config : EntityAnalysisConfig) (time : LoopTime) : PoolState where
  semaphore := Semaphore.ofValue config.maxConcurrent
  workers := []
  rateLimitUntil := 0
  time := time
  processing := fun _ => false
  hkStockList := 0
  log := []

variable (state : PoolState)

def add (cleanedId : UUID) : PoolState :=
  { state with processing := Function.update state.processing cleanedId true }

def discard (cleanedId : UUID) : PoolState :=
  { state with processing := Function.update state.processing cleanedId false }

/-! ## `WorkerPool` -/

def triggerBackoff (rateLimitBackoffS : Int) : PoolState :=
  let deadline := state.time + rateLimitBackoffS
  { state with rateLimitUntil := deadline, log := state.log ++ [.triggered deadline] }

/-- The test of the loop over the backoff.  The work starts in the turn that leaves it. -/
def startOrSleep (dispatch : Dispatch) : WorkerStage × PoolState :=
  if 0 < state.rateLimitUntil - state.time then (.asleep, state)
  else (.findEntityEvents,
    { state with log := state.log ++ [.started dispatch state.time] })

/-- `dispatch` once it holds a slot. -/
def holdSlot (dispatch : Dispatch) : PoolState :=
  let (stage, tested) := state.startOrSleep dispatch
  { tested with workers := tested.workers ++ [⟨dispatch, stage, false⟩] }

def dispatch (work : Dispatch) : PoolState :=
  match state.semaphore.acquire work with
  | (true, semaphore) => { state with semaphore := semaphore }.holdSlot work
  | (false, semaphore) => { state with semaphore := semaphore }

/-- The way out of `dispatch` and `_process_one` with a slot. -/
def leave (index : Nat) (worker : Worker) : PoolState :=
  { state with
    workers := state.workers.eraseIdx index
    semaphore := state.semaphore.release }.discard worker.dispatch.cleanedId

/-- The wait for a slot is over.  A cancelled one leaves by the `finally` of
`_process_one`. -/
def resumeAcquire (position : Nat) : Option PoolState :=
  state.semaphore.waiters[position]?.bind fun waiter =>
    (state.semaphore.resume position).map fun (acquired, semaphore) =>
      match acquired with
      | some work => { state with semaphore := semaphore }.holdSlot work
      | none => { state with semaphore := semaphore }.discard waiter.caller.cleanedId

/-- `asyncio.sleep` returns, be it early, and the loop tests again. -/
def resumeSleep (index : Nat) : Option PoolState :=
  state.workers[index]?.bind fun worker =>
    if worker.stage = .asleep ∧ worker.cancelled = false then
      let (stage, tested) := state.startOrSleep worker.dispatch
      some { tested with workers := tested.workers.set index { worker with stage := stage } }
    else none

/-! ## `CleanedNewsConsumer` -/

def processOne (cleanedId : UUID) (messageId : MessageId) : PoolState :=
  if state.hkStockList = 0 then state
  else if state.processing cleanedId then state
  else (state.add cleanedId).dispatch ⟨cleanedId, messageId⟩

/-- `_push_dead_letter` needs neither the pool nor the guard. -/
def route (config : EntityAnalysisConfig) (message : StreamMessage) : PoolState :=
  if message.outOfRetries config.maxRetry then state
  else
    match message.fields.getValidId with
    | none => state
    | some cleanedId => state.processOne cleanedId message.id

/-- `_analyse` goes on after an await.  One `except` is there for both of its awaits. -/
def resumeAnalyse (rateLimitBackoffS : Int) (index : Nat) (outcome : AnalyseOutcome) :
    Option PoolState :=
  state.workers[index]?.bind fun worker =>
    match worker.stage, outcome with
    | .asleep, _ => none
    | .findEntityEvents, .done =>
        some { state with workers := state.workers.set index { worker with stage := .ack } }
    | _, .rateLimited => some ((state.triggerBackoff rateLimitBackoffS).leave index worker)
    | _, _ => some (state.leave index worker)

/-! ## Cancellation -/

def cancelWorker (index : Nat) : PoolState :=
  { state with workers := state.workers.modify index ({ · with cancelled := true }) }

/-- CancelledError leaves the await that the task is suspended at. -/
def raiseCancelled (index : Nat) : Option PoolState :=
  state.workers[index]?.bind fun worker =>
    if worker.cancelled then some (state.leave index worker) else none

end PoolState

/-! ## The machine -/

inductive PoolAction where
  /-- The task of a message of either loop's batch starts. -/
  | route (message : StreamMessage)
  | cancelWaiter (position : Nat)
  | resumeAcquire (position : Nat)
  | resumeSleep (index : Nat)
  | resumeAnalyse (index : Nat) (outcome : AnalyseOutcome)
  | cancelWorker (index : Nat)
  | raiseCancelled (index : Nat)
  | triggerBackoff
  /-- The clock reads `time`, which is never earlier than it read before. -/
  | tick (time : LoopTime)
  | refreshStockList (entries : Nat)

def poolStep (config : EntityAnalysisConfig) (rateLimitBackoffS : Int) (state : PoolState) :
    PoolAction → Option PoolState
  | .route message => some (state.route config message)
  | .cancelWaiter position =>
      some { state with semaphore := state.semaphore.cancel position }
  | .resumeAcquire position => state.resumeAcquire position
  | .resumeSleep index => state.resumeSleep index
  | .resumeAnalyse index outcome => state.resumeAnalyse rateLimitBackoffS index outcome
  | .cancelWorker index => some (state.cancelWorker index)
  | .raiseCancelled index => state.raiseCancelled index
  | .triggerBackoff => some (state.triggerBackoff rateLimitBackoffS)
  | .tick time => if state.time ≤ time then some { state with time := time } else none
  | .refreshStockList entries =>
      some { state with hkStockList := if entries = 0 then state.hkStockList else entries }

def poolMachine (config : EntityAnalysisConfig) (rateLimitBackoffS : Int) :
    Machine PoolState PoolAction where
  init := fun state => ∃ time, state = PoolState.initial config time
  step := poolStep config rateLimitBackoffS

/-! ## What a turn does to the slots, the guard and the clock -/

/-- The dispatches in flight and the ids that are marked. -/
structure ArticleGuard where
  inFlight : List Dispatch
  processing : UUID → Bool

/-- What the backoff depends on. -/
structure BackoffClock where
  rateLimitUntil : LoopTime
  time : LoopTime
  log : List PoolEvent

namespace PoolState

variable (state : PoolState)

/-- The dispatches in flight, those that wait for a slot first. -/
def inFlight : List Dispatch :=
  state.semaphore.callers ++ state.workers.map Worker.dispatch

/-- The works that have started and not ended. -/
def running : Nat := state.workers.countP fun worker => worker.stage != .asleep

/-- The slots are free, handed to a waiter or held. -/
def slots : Nat := state.semaphore.permits + state.workers.length

def guard : ArticleGuard := ⟨state.inFlight, state.processing⟩

def clock : BackoffClock := ⟨state.rateLimitUntil, state.time, state.log⟩

end PoolState

/-- A dispatch begins with its id marked, ends with it released, or none does. -/
inductive GuardMoved (before after : ArticleGuard) : Prop where
  | kept (order : after.inFlight.Perm before.inFlight)
      (marks : after.processing = before.processing)
  | begun (dispatch : Dispatch) (fresh : before.processing dispatch.cleanedId = false)
      (order : after.inFlight.Perm (dispatch :: before.inFlight))
      (marks : after.processing =
        Function.update before.processing dispatch.cleanedId true)
  | ended (dispatch : Dispatch) (order : before.inFlight.Perm (dispatch :: after.inFlight))
      (marks : after.processing =
        Function.update before.processing dispatch.cleanedId false)

/-- Time goes on, a backoff is set, or a work starts with none in force. -/
inductive BackoffMoved (rateLimitBackoffS : Int) : BackoffClock → BackoffClock → Prop where
  | kept {until' time later : LoopTime} {log : List PoolEvent} (goesOn : time ≤ later) :
      BackoffMoved rateLimitBackoffS ⟨until', time, log⟩ ⟨until', later, log⟩
  | triggered (until' time : LoopTime) (log : List PoolEvent) :
      BackoffMoved rateLimitBackoffS ⟨until', time, log⟩
        ⟨time + rateLimitBackoffS, time, log ++ [.triggered (time + rateLimitBackoffS)]⟩
  | started {until' time : LoopTime} {log : List PoolEvent} (dispatch : Dispatch)
      (free : until' ≤ time) :
      BackoffMoved rateLimitBackoffS ⟨until', time, log⟩
        ⟨until', time, log ++ [.started dispatch time]⟩

structure PoolMoved (rateLimitBackoffS : Int) (before after : PoolState) : Prop where
  slots : after.slots = before.slots
  guard : GuardMoved before.guard after.guard
  backoff : BackoffMoved rateLimitBackoffS before.clock after.clock

section Moves
variable {state before after : PoolState} {rateLimitBackoffS : Int}

theorem BackoffMoved.refl (clock : BackoffClock) :
    BackoffMoved rateLimitBackoffS clock clock := .kept le_rfl

/-- The test of the backoff is seen in the clock's part alone. -/
theorem startOrSleep_spec (state : PoolState) (dispatch : Dispatch) :
    (state.startOrSleep dispatch).2.semaphore = state.semaphore ∧
    (state.startOrSleep dispatch).2.workers = state.workers ∧
    (state.startOrSleep dispatch).2.processing = state.processing ∧
    BackoffMoved rateLimitBackoffS state.clock (state.startOrSleep dispatch).2.clock := by
  unfold PoolState.startOrSleep
  split
  · exact ⟨rfl, rfl, rfl, .refl _⟩
  · rename_i none'
    exact ⟨rfl, rfl, rfl, .started dispatch (sub_nonpos.mp (not_lt.mp none'))⟩

/-- A slot that was had is held by one more worker. -/
theorem holdSlot_spec (state : PoolState) (dispatch : Dispatch) :
    (state.holdSlot dispatch).slots = state.slots + 1 ∧
    (state.holdSlot dispatch).inFlight = state.inFlight ++ [dispatch] ∧
    (state.holdSlot dispatch).processing = state.processing ∧
    BackoffMoved rateLimitBackoffS state.clock (state.holdSlot dispatch).clock := by
  obtain ⟨semaphore, workers, processing, backoff⟩ :=
    @startOrSleep_spec rateLimitBackoffS state dispatch
  refine ⟨?_, ?_, processing, backoff⟩
  · simp [PoolState.holdSlot, PoolState.slots, semaphore, workers, Nat.add_assoc]
  · simp [PoolState.holdSlot, PoolState.inFlight, semaphore, workers]

/-- `dispatch` takes a slot or waits for one, and is in flight either way. -/
theorem dispatch_spec (state : PoolState) (work : Dispatch) :
    (state.dispatch work).slots = state.slots ∧
    (state.dispatch work).inFlight.Perm (work :: state.inFlight) ∧
    (state.dispatch work).processing = state.processing ∧
    BackoffMoved rateLimitBackoffS state.clock (state.dispatch work).clock := by
  unfold PoolState.dispatch
  split
  · rename_i semaphore acquired
    obtain ⟨slots, inFlight, processing, backoff⟩ :=
      @holdSlot_spec rateLimitBackoffS { state with semaphore := semaphore } work
    have permits := Semaphore.permits_acquire_now acquired
    have callers := Semaphore.callers_acquire_now acquired
    refine ⟨?_, ?_, processing, backoff⟩
    · rw [slots]
      simp only [PoolState.slots]
      omega
    · rw [inFlight]
      simp only [PoolState.inFlight, callers]
      exact List.perm_append_singleton ..
  · rename_i semaphore waiting
    have permits := Semaphore.permits_acquire_waiting waiting
    have callers := Semaphore.callers_acquire_waiting waiting
    refine ⟨?_, ?_, rfl, .refl _⟩
    · simp only [PoolState.slots, permits]
    · simp only [PoolState.inFlight, callers, List.append_assoc]
      exact List.perm_middle

theorem processOne_moved (state : PoolState) (cleanedId : UUID) (messageId : MessageId) :
    PoolMoved rateLimitBackoffS state (state.processOne cleanedId messageId) := by
  unfold PoolState.processOne
  split
  · exact ⟨rfl, .kept (List.Perm.refl _) rfl, .refl _⟩
  · split
    · exact ⟨rfl, .kept (List.Perm.refl _) rfl, .refl _⟩
    · rename_i unmarked
      obtain ⟨slots, inFlight, processing, backoff⟩ :=
        @dispatch_spec rateLimitBackoffS (state.add cleanedId) ⟨cleanedId, messageId⟩
      have fresh : state.processing cleanedId = false := Bool.eq_false_iff.mpr unmarked
      exact ⟨slots, .begun ⟨cleanedId, messageId⟩ fresh inFlight processing, backoff⟩

theorem route_moved (config : EntityAnalysisConfig) (state : PoolState)
    (message : StreamMessage) :
    PoolMoved rateLimitBackoffS state (state.route config message) := by
  unfold PoolState.route
  split
  · exact ⟨rfl, .kept (List.Perm.refl _) rfl, .refl _⟩
  · split
    · exact ⟨rfl, .kept (List.Perm.refl _) rfl, .refl _⟩
    · exact processOne_moved state _ _

theorem resumeAcquire_moved {position : Nat}
    (resumed : state.resumeAcquire position = some after) :
    PoolMoved rateLimitBackoffS state after := by
  obtain ⟨waiter, found, resumed⟩ := Option.bind_eq_some_iff.mp resumed
  obtain ⟨⟨acquired, semaphore⟩, returned, rfl⟩ := Option.map_eq_some_iff.mp resumed
  obtain ⟨callers, same⟩ := Semaphore.callers_resume found returned
  cases acquired with
  | some work =>
      obtain rfl := same work rfl
      obtain ⟨slots, inFlight, processing, backoff⟩ := @holdSlot_spec rateLimitBackoffS
        { state with semaphore := semaphore } waiter.caller
      have permits := Semaphore.permits_resume_acquired returned
      have order : ({ state with semaphore := semaphore }.holdSlot waiter.caller).inFlight.Perm
          state.inFlight := by
        rw [inFlight]
        exact (List.perm_append_singleton ..).trans (callers.symm.append_right _)
      refine ⟨?_, .kept order processing, backoff⟩
      rw [slots]
      simp only [PoolState.slots]
      omega
  | none =>
      have permits := Semaphore.permits_resume_cancelled returned
      refine ⟨?_, .ended waiter.caller (callers.append_right _) rfl, .refl _⟩
      simp only [PoolState.slots, PoolState.discard, permits]

/-- The worker of a place gives back its slot and releases its id. -/
theorem leave_spec {index : Nat} {worker : Worker}
    (found : state.workers[index]? = some worker) :
    (state.leave index worker).slots = state.slots ∧
      GuardMoved state.guard (state.leave index worker).guard := by
  obtain ⟨inside, rfl⟩ := List.getElem?_eq_some_iff.mp found
  have reordered : (state.workers.map Worker.dispatch).Perm
      (state.workers[index].dispatch :: (state.workers.eraseIdx index).map Worker.dispatch) :=
    (List.getElem_cons_eraseIdx_perm inside).symm.map Worker.dispatch
  constructor
  · have fewer := List.length_eraseIdx_of_lt inside
    simp only [PoolState.slots, PoolState.leave, PoolState.discard, Semaphore.permits_release]
    omega
  · refine .ended state.workers[index].dispatch ?_ rfl
    simp only [PoolState.guard, PoolState.inFlight, PoolState.leave, PoolState.discard,
      Semaphore.callers_release]
    exact (reordered.append_left _).trans List.perm_middle

theorem resumeSleep_moved {index : Nat} (resumed : state.resumeSleep index = some after) :
    PoolMoved rateLimitBackoffS state after := by
  obtain ⟨worker, found, resumed⟩ := Option.bind_eq_some_iff.mp resumed
  split at resumed
  · rw [Option.some.injEq] at resumed
    subst resumed
    obtain ⟨semaphore, workers, processing, backoff⟩ :=
      @startOrSleep_spec rateLimitBackoffS state worker.dispatch
    refine ⟨?_, .kept ?_ processing, backoff⟩
    · simp only [PoolState.slots, semaphore, workers, List.length_set]
    · simp only [PoolState.guard, PoolState.inFlight, semaphore, workers]
      rw [map_set_same Worker.dispatch found]
      rfl
  · cases resumed

theorem resumeAnalyse_moved {index : Nat} {outcome : AnalyseOutcome}
    (resumed : state.resumeAnalyse rateLimitBackoffS index outcome = some after) :
    PoolMoved rateLimitBackoffS state after := by
  obtain ⟨worker, found, resumed⟩ := Option.bind_eq_some_iff.mp resumed
  obtain ⟨slots, guard⟩ := leave_spec found
  split at resumed
  · cases resumed
  · cases resumed
    refine ⟨?_, .kept ?_ rfl, .refl _⟩
    · simp only [PoolState.slots, List.length_set]
    · simp only [PoolState.guard, PoolState.inFlight]
      rw [map_set_same Worker.dispatch found]
      rfl
  · cases resumed
    exact ⟨slots, guard, .triggered ..⟩
  · cases resumed
    exact ⟨slots, guard, .refl _⟩

theorem poolStep_moved {config : EntityAnalysisConfig} {action : PoolAction}
    (stepped : poolStep config rateLimitBackoffS state action = some after) :
    PoolMoved rateLimitBackoffS state after := by
  cases action with
  | route message =>
      cases stepped
      exact route_moved config state message
  | cancelWaiter position =>
      cases stepped
      refine ⟨?_, .kept ?_ rfl, .refl _⟩
      · simp only [PoolState.slots, Semaphore.permits_cancel]
      · simp only [PoolState.guard, PoolState.inFlight, Semaphore.callers_cancel]
        rfl
  | resumeAcquire position => exact resumeAcquire_moved stepped
  | resumeSleep index => exact resumeSleep_moved stepped
  | resumeAnalyse index outcome => exact resumeAnalyse_moved stepped
  | cancelWorker index =>
      cases stepped
      refine ⟨?_, .kept ?_ rfl, .refl _⟩
      · simp only [PoolState.slots, PoolState.cancelWorker, List.length_modify]
      · simp only [PoolState.guard, PoolState.inFlight, PoolState.cancelWorker]
        rw [map_modify_same Worker.dispatch]
        intro worker
        rfl
  | raiseCancelled index =>
      obtain ⟨worker, found, raised⟩ := Option.bind_eq_some_iff.mp stepped
      split at raised
      · cases raised
        obtain ⟨slots, guard⟩ := leave_spec found
        exact ⟨slots, guard, .refl _⟩
      · cases raised
  | triggerBackoff =>
      cases stepped
      exact ⟨rfl, .kept (List.Perm.refl _) rfl, .triggered ..⟩
  | tick time =>
      simp only [poolStep] at stepped
      split at stepped
      · rename_i later
        cases stepped
        exact ⟨rfl, .kept (List.Perm.refl _) rfl, .kept later⟩
      · cases stepped
  | refreshStockList entries =>
      cases stepped
      exact ⟨rfl, .kept (List.Perm.refl _) rfl, .refl _⟩

end Moves

/-! ## The invariant -/

def dispatchesOf (dispatches : List Dispatch) (cleanedId : UUID) (_ : Unit) : Nat :=
  dispatches.countP fun dispatch => dispatch.cleanedId = cleanedId

theorem dispatchesOf_cons (dispatch : Dispatch) (rest : List Dispatch) (cleanedId : UUID)
    (place : Unit) : dispatchesOf (dispatch :: rest) cleanedId place =
      dispatchesOf rest cleanedId place + if dispatch.cleanedId = cleanedId then 1 else 0 := by
  simp [dispatchesOf, List.countP_cons]

theorem dispatchesOf_others (dispatch : Dispatch) (rest : List Dispatch) :
    SameUnitsBut (dispatchesOf rest) (dispatchesOf (dispatch :: rest)) dispatch.cleanedId
      (· = ()) := by
  intro cleanedId place apart
  have other : dispatch.cleanedId ≠ cleanedId := by
    rcases apart with apart | apart
    · exact apart.symm
    · exact absurd rfl apart
  rw [dispatchesOf_cons, if_neg other, Nat.add_zero]

theorem dispatchesOf_perm {first second : List Dispatch} (order : first.Perm second) :
    dispatchesOf first = dispatchesOf second := by
  funext cleanedId place
  exact order.countP_eq _

def ArticleGuard.Sound (guard : ArticleGuard) : Prop :=
  InFlight guard.processing (dispatchesOf guard.inFlight)

/-- Each work started after every deadline set before it. -/
def Waited (log : List PoolEvent) : Prop :=
  ∀ (before : List PoolEvent) (dispatch : Dispatch) (time : LoopTime) (after : List PoolEvent),
    log = before ++ .started dispatch time :: after →
    ∀ deadline, .triggered deadline ∈ before → deadline ≤ time

structure BackoffClock.Sound (rateLimitBackoffS : Int) (clock : BackoffClock) : Prop where
  deadlines : ∀ deadline, .triggered deadline ∈ clock.log →
    deadline ≤ clock.rateLimitUntil ∧ deadline ≤ clock.time + rateLimitBackoffS
  waited : Waited clock.log

structure PoolSound (config : EntityAnalysisConfig) (rateLimitBackoffS : Int)
    (state : PoolState) : Prop where
  slots : state.slots = config.maxConcurrent
  guard : state.guard.Sound
  clock : state.clock.Sound rateLimitBackoffS

theorem poolSound_initial (config : EntityAnalysisConfig) (rateLimitBackoffS : Int)
    (time : LoopTime) :
    PoolSound config rateLimitBackoffS (PoolState.initial config time) := by
  refine ⟨rfl, InFlight.empty, ?_, ?_⟩
  · intro deadline member
    cases member
  · intro before dispatch time after split
    exact absurd split.symm (List.append_ne_nil_of_right_ne_nil _ (List.cons_ne_nil _ _))

section Sound
variable {rateLimitBackoffS : Int}

theorem ArticleGuard.Sound.moved {before after : ArticleGuard} (sound : before.Sound)
    (moved : GuardMoved before after) : after.Sound := by
  unfold ArticleGuard.Sound
  cases moved with
  | kept order marks =>
      rw [marks, dispatchesOf_perm order]
      exact sound
  | begun dispatch fresh order marks =>
      rw [marks, dispatchesOf_perm order]
      refine sound.start dispatch.cleanedId () fresh (dispatchesOf_others _ _) ?_
      rw [dispatchesOf_cons, if_pos rfl]
  | ended dispatch order marks =>
      have units := dispatchesOf_cons dispatch after.inFlight dispatch.cleanedId ()
      rw [if_pos rfl, ← dispatchesOf_perm order] at units
      have most := sound.atMostOne dispatch.cleanedId ()
      rw [marks]
      refine sound.finish dispatch.cleanedId () (by omega) ?_ (by omega)
      intro cleanedId place apart
      rw [dispatchesOf_perm order]
      exact (dispatchesOf_others dispatch after.inFlight cleanedId place apart).symm

theorem BackoffClock.Sound.moved {before after : BackoffClock}
    (sound : before.Sound rateLimitBackoffS)
    (moved : BackoffMoved rateLimitBackoffS before after) :
    after.Sound rateLimitBackoffS := by
  cases moved with
  | kept goesOn =>
      refine ⟨?_, sound.waited⟩
      intro deadline member
      obtain ⟨inForce, ahead⟩ := sound.deadlines deadline member
      exact ⟨inForce, ahead.trans (add_le_add_left goesOn _)⟩
  | triggered until' time log =>
      constructor
      · intro deadline member
        rcases List.mem_append.mp member with old | new
        · obtain ⟨-, ahead⟩ := sound.deadlines deadline old
          exact ⟨ahead, ahead⟩
        · cases List.mem_singleton.mp new
          exact ⟨le_rfl, le_rfl⟩
      · intro before dispatch at' after split
        rcases WorkLog.split_append split with ⟨-, impossible, -⟩ | ⟨rest, -, old⟩
        · cases impossible
        · exact sound.waited before dispatch at' rest old
  | started dispatch free =>
      constructor
      · intro deadline member
        rcases List.mem_append.mp member with old | new
        · exact sound.deadlines deadline old
        · cases List.mem_singleton.mp new
      · intro before other at' after split deadline member
        rcases WorkLog.split_append split with ⟨rfl, same, -⟩ | ⟨rest, -, old⟩
        · cases same
          exact (sound.deadlines deadline member).1.trans free
        · exact sound.waited before other at' rest old deadline member

theorem GuardMoved.released {before after : ArticleGuard} (moved : GuardMoved before after)
    {dispatch : Dispatch} (was : dispatch ∈ before.inFlight)
    (gone : dispatch ∉ after.inFlight) : after.processing dispatch.cleanedId = false := by
  cases moved with
  | kept order marks => exact absurd (order.mem_iff.mpr was) gone
  | begun other fresh order marks =>
      exact absurd (order.mem_iff.mpr (List.mem_cons_of_mem _ was)) gone
  | ended other order marks =>
      rcases List.mem_cons.mp (order.mem_iff.mp was) with rfl | left
      · rw [marks]
        exact Function.update_self ..
      · exact absurd left gone

theorem poolSound_of_trace {config : EntityAnalysisConfig} {past : List PoolState}
    {state : PoolState} (trace : (poolMachine config rateLimitBackoffS).Trace anyAction past
      state) : PoolSound config rateLimitBackoffS state := by
  apply trace.invariant
  · intro start begins
    obtain ⟨time, rfl⟩ := begins
    exact poolSound_initial config rateLimitBackoffS time
  · intro before action after sound _ stepped
    have moved := poolStep_moved stepped
    exact ⟨moved.slots.trans sound.slots, sound.guard.moved moved.guard,
      sound.clock.moved moved.backoff⟩

end Sound

/-! ## Every run -/

/-- In every order of deliveries, outcomes, cancellations and backoffs: at most
`max_concurrent` works run; a work starts past every deadline that was set before it; an
article has one dispatch in flight at most; its id is marked just as long; and a
dispatch that ends, however it does, releases it. -/
theorem pool_limits (config : EntityAnalysisConfig) (rateLimitBackoffS : Int)
    (past : List PoolState) (state : PoolState)
    (trace : (poolMachine config rateLimitBackoffS).Trace anyAction past state) :
    state.running ≤ config.maxConcurrent ∧
    (∀ (before : List PoolEvent) (dispatch : Dispatch) (time : LoopTime)
      (after : List PoolEvent), state.log = before ++ .started dispatch time :: after →
      ∀ deadline, .triggered deadline ∈ before → deadline ≤ time) ∧
    (∀ cleanedId : UUID,
      (state.inFlight.filter fun dispatch => dispatch.cleanedId = cleanedId).length ≤ 1) ∧
    (∀ cleanedId : UUID, state.processing cleanedId = true ↔
      ∃ dispatch ∈ state.inFlight, dispatch.cleanedId = cleanedId) ∧
    ∀ (action : PoolAction) (after : PoolState),
      poolStep config rateLimitBackoffS state action = some after →
      ∀ dispatch ∈ state.inFlight, dispatch ∉ after.inFlight →
        after.processing dispatch.cleanedId = false := by
  have sound := poolSound_of_trace trace
  refine ⟨?_, sound.clock.waited, ?_, ?_, ?_⟩
  · have slots := sound.slots
    have held : state.running ≤ state.workers.length := List.countP_le_length
    simp only [PoolState.slots] at slots
    omega
  · intro cleanedId
    rw [← List.countP_eq_length_filter]
    exact sound.guard.atMostOne cleanedId ()
  · intro cleanedId
    refine (sound.guard.marked_iff cleanedId).trans ?_
    simp only [exists_const, dispatchesOf, List.countP_pos_iff, decide_eq_true_eq]
    exact Iff.rfl
  · intro action after stepped dispatch was gone
    exact (poolStep_moved stepped).guard.released was gone

def cleanedMessage (messageId : MessageId) (cleanedId : UUID) (deliveryCount : Option Nat) :
    PoolAction :=
  .route ⟨messageId, ⟨some "1", .uuid cleanedId⟩, deliveryCount⟩

/-- With one slot: the first article is rate-limited, its redelivery is skipped while it
is in flight, and the second sleeps through a backoff that is extended meanwhile. -/
def backsOffTwice : List PoolAction :=
  [.refreshStockList 5, cleanedMessage 1 10 none, cleanedMessage 2 20 none,
    cleanedMessage 3 10 (some 1), .resumeAnalyse 0 .rateLimited, .resumeAcquire 0, .tick 30,
    .resumeSleep 0, .triggerBackoff, .tick 60, .resumeSleep 0, .tick 91, .resumeSleep 0,
    .cancelWorker 0]

theorem pool_limits_backedOff : ∃ past state,
    (poolMachine ⟨1, 3⟩ 60).Trace anyAction past state ∧
    state.log = [.started ⟨10, 1⟩ 0, .triggered 60, .triggered 90, .started ⟨20, 2⟩ 91] ∧
    state.running ≤ 1 ∧ (90 : LoopTime) ≤ 91 ∧
    ∃ after, poolStep ⟨1, 3⟩ 60 state (.raiseCancelled 0) = some after ∧
      after.processing 20 = false := by
  obtain ⟨past, state, trace, seen⟩ :=
    Trace.of_run_view (poolMachine ⟨1, 3⟩ 60) (fun _ _ => true)
      (fun state => (state.log, state.inFlight,
        (poolStep ⟨1, 3⟩ 60 state (.raiseCancelled 0)).map PoolState.inFlight))
      ([.started ⟨10, 1⟩ 0, .triggered 60, .triggered 90, .started ⟨20, 2⟩ 91], [⟨20, 2⟩],
        some [])
      (fun _ _ _ _ _ => trivial) ⟨0, rfl⟩ backsOffTwice (by decide +kernel)
  simp only [Prod.mk.injEq] at seen
  obtain ⟨log, inFlight, raised⟩ := seen
  obtain ⟨after, stepped, none'⟩ := Option.map_eq_some_iff.mp raised
  obtain ⟨running, waited, -, -, released⟩ := pool_limits ⟨1, 3⟩ 60 past state trace
  have free := released _ after stepped ⟨20, 2⟩ (by simp [inFlight]) (by simp [none'])
  have slept := waited [.started ⟨10, 1⟩ 0, .triggered 60, .triggered 90] ⟨20, 2⟩ 91 [] log 90
    (by simp)
  exact ⟨past, state, trace, log, running, slept, after, stepped, free⟩

end WealthFinder.Pipeline
