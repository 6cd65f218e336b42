import WealthFinder.Progress
import WealthFinder.SemaphoreProgress
import WealthFinder.Ingestion.CrawlOutcomes

/-!
# A crawl comes to its end

Every turn of a worker lowers what is left to do, and as long as a worker has not ended
some worker can take a turn: the permits of those inside come back, and no waiter is
forgotten.
-/

set_option autoImplicit false

namespace WealthFinder.Ingestion

open Machine

variable {Target Metadata : Type} {config : CrawlConfig} {source : ArticleSource Target Metadata}
  {state after : FanOutState Target Metadata} {maxConcurrent : Nat} {errorLog : List String}
  {targets : List Target} {index : Nat} {semaphore left : Semaphore Nat}
  {worker next : ArticleWorker Target Metadata}

/-! ## What is left to do -/

/-- A bound on the turns a worker has yet to take. -/
def WorkerStage.rank (config : CrawlConfig) : WorkerStage Metadata → Nat
  | .precheck => 2 * config.maxRetry + 6
  | .waiting => 2 * config.maxRetry + 5
  | .jitter => 2 * config.maxRetry + 4
  | .fetching (.requesting attempt _) => 2 * (config.maxRetry - attempt) + 3
  | .fetching (.backingOff attempt _) => 2 * (config.maxRetry - attempt) + 2
  | .fetching (.ended _) => 2
  | .parsing _ => 1
  | .ended _ => 0

def FanOutState.work (config : CrawlConfig) (state : FanOutState Target Metadata) : Nat :=
  (state.workers.map fun worker => worker.stage.rank config).sum

/-- Reaching the stage of a `fetch` costs no turn more than its own. -/
theorem rank_articleStage (target : Target) (stage : FetchStage) :
    (FanOutState.articleStage config source target stage).rank config ≤
      (WorkerStage.fetching stage : WorkerStage Metadata).rank config := by
  cases stage with
  | ended how =>
      cases how with
      | returned response =>
          simp only [FanOutState.articleStage]
          split
          · exact Nat.le_succ 1
          · exact Nat.zero_le 2
      | _ => exact Nat.zero_le 2
  | _ => exact Nat.le_refl _

theorem rank_ended (target : Target) (how : FetchEnd) :
    (FanOutState.articleStage config source target (.ended how)).rank config < 2 := by
  cases how with
  | returned response =>
      simp only [FanOutState.articleStage]
      split
      · exact Nat.lt_succ_self 1
      · exact Nat.succ_pos 1
  | _ => exact Nat.succ_pos 1

theorem rank_nextAttempt (target : Target) (url : String) (attempt : Nat)
    (lastExc : Option String) :
    (FanOutState.articleStage config source target
      (nextAttempt config url (attempt + 1) lastExc)).rank config <
        2 * (config.maxRetry - attempt) + 2 := by
  unfold nextAttempt
  split
  · rename_i more
    have own := @rank_articleStage _ _ config source target (.requesting (attempt + 1) lastExc)
    simp only [WorkerStage.rank] at own ⊢
    omega
  · have ended := @rank_ended _ _ config source target (retriesExhausted config url lastExc)
    omega

theorem InsideStep.rank_lt (step : InsideStep config source worker next) :
    next.stage.rank config < worker.stage.rank config := by
  cases step with
  | began target heard =>
      have first := @rank_nextAttempt _ _ config source target (source.url target) 0 none
      simp only [WorkerStage.rank]
      exact first.trans_le (by omega)
  | slept target heard attempt lastExc => exact rank_nextAttempt target _ attempt lastExc
  | answered target heard attempt lastExc answer =>
      simp only [resumeGet]
      split
      · have ended := @rank_ended _ _ config source target
        exact (ended _).trans_le (by simp only [WorkerStage.rank]; omega)
      · split
        · exact (rank_articleStage target _).trans_lt (Nat.lt_succ_self _)
        · exact (rank_nextAttempt target _ attempt _).trans (Nat.lt_succ_self _)
  | parsed target heard response => exact Nat.zero_lt_one

theorem WorkerTurn.rank_lt
    (turn : WorkerTurn config source errorLog index semaphore left worker next) :
    next.stage.rank config < worker.stage.rank config := by
  cases turn with
  | checkRaised target heard text => exact Nat.succ_pos _
  | skipped target heard logged => exact Nat.succ_pos _
  | acquired target heard notLogged now => exact Nat.lt_add_of_pos_right Nat.two_pos
  | queued target heard notLogged waits => exact Nat.lt_succ_self _
  | admitted target heard position resumed => exact Nat.lt_succ_self _
  | inside step goesOn => exact step.rank_lt
  | left step ends => exact step.rank_lt

theorem work_lt (turned : Turned config source state after) :
    after.work config < state.work config := by
  obtain ⟨index, worker, next, turn⟩ := turned
  have lower := turn.turn.rank_lt
  have moved := @sum_map_set _ _ next _ _ (fun worker => worker.stage.rank config) turn.found
  simp only [FanOutState.work, turn.workers]
  omega

/-! ## Who waits -/

/-- The waiters of the semaphore are the workers that wait, each once. -/
structure QueueSound (semaphore : Semaphore Nat) (workers : List (ArticleWorker Target Metadata)) :
    Prop where
  once : semaphore.callers.Nodup
  waits : ∀ index, index ∈ semaphore.callers ↔
    ∃ worker, workers[index]? = some worker ∧ worker.stage = .waiting

theorem QueueSound.set {workers : List (ArticleWorker Target Metadata)}
    (sound : QueueSound semaphore workers) (found : workers[index]? = some worker)
    (once : left.callers.Nodup)
    (others : ∀ other, other ≠ index → (other ∈ left.callers ↔ other ∈ semaphore.callers))
    (own : index ∈ left.callers ↔ next.stage = .waiting) :
    QueueSound left (workers.set index next) := by
  refine ⟨once, ?_⟩
  intro other
  by_cases same : other = index
  · subst same
    have within : other < workers.length := (List.getElem?_eq_some_iff.mp found).1
    rw [own, List.getElem?_set_self within]
    simp
  · rw [others other same, sound.waits other, List.getElem?_set_ne (Ne.symm same)]

theorem callers_ne_nil (waits : index ∈ semaphore.callers) : semaphore.waiters ≠ [] := by
  intro none'
  simp [Semaphore.callers, Semaphore.callersIn, none'] at waits

theorem InsideStep.notWaiting (step : InsideStep config source worker next) :
    worker.stage ≠ .waiting ∧ next.stage ≠ .waiting := by
  have inside := step.isInside
  constructor
  · intro waiting
    rw [waiting] at inside
    cases inside.1
  · intro waiting
    rw [waiting] at inside
    cases inside.2

theorem QueueSound.turn {workers : List (ArticleWorker Target Metadata)}
    (sound : QueueSound semaphore workers) (found : workers[index]? = some worker)
    (turn : WorkerTurn config source errorLog index semaphore left worker next) :
    QueueSound left (workers.set index next) := by
  have absent (notWaiting : worker.stage ≠ .waiting) : index ∉ semaphore.callers := by
    intro waits
    obtain ⟨other, there, waiting⟩ := (sound.waits index).mp waits
    rw [found] at there
    exact notWaiting (Option.some.inj there ▸ waiting)
  have same (callers : left.callers = semaphore.callers) (before : worker.stage ≠ .waiting)
      (after : next.stage ≠ .waiting) : QueueSound left (workers.set index next) := by
    refine sound.set found (callers ▸ sound.once) ?_ ?_
    · intro other _
      rw [callers]
    · rw [callers]
      exact iff_of_false (absent before) after
  cases turn with
  | checkRaised target heard text => exact same rfl nofun nofun
  | skipped target heard logged => exact same rfl nofun nofun
  | acquired target heard notLogged now =>
      exact same (Semaphore.callers_acquire_now now) nofun nofun
  | queued target heard notLogged waits =>
      have callers := Semaphore.callers_acquire_waiting waits
      refine sound.set found ?_ ?_ ?_
      · rw [callers, List.nodup_append_comm]
        exact List.nodup_cons.mpr ⟨absent nofun, sound.once⟩
      · intro other differs
        simp [callers, differs]
      · simp [callers]
  | admitted target heard position resumed =>
      obtain ⟨waiter, there, -⟩ := Option.bind_eq_some_iff.mp resumed
      obtain ⟨order, who⟩ := Semaphore.callers_resume there resumed
      rw [← who index rfl] at order
      have distinct := List.nodup_cons.mp (order.nodup_iff.mp sound.once)
      refine sound.set found distinct.2 ?_ ?_
      · intro other differs
        simp [order.mem_iff, differs]
      · exact iff_of_false distinct.1 nofun
  | inside step goesOn => exact same rfl step.notWaiting.1 step.notWaiting.2
  | left step ends =>
      exact same (Semaphore.callers_release _) step.notWaiting.1 step.notWaiting.2

/-! ## Some worker can go on -/

structure SemaphoreLive (semaphore : Semaphore Nat) : Prop where
  uncancelled : Semaphore.Uncancelled semaphore.waiters
  noneForgotten : semaphore.NoneForgotten

theorem SemaphoreLive.turn (live : SemaphoreLive semaphore)
    (turn : WorkerTurn config source errorLog index semaphore left worker next) :
    SemaphoreLive left := by
  have acquires {now : Bool} (acquired : semaphore.acquire index = (now, left)) :
      SemaphoreLive left :=
    ⟨Semaphore.uncancelled_acquire live.uncancelled acquired,
      Semaphore.noneForgotten_acquire live.noneForgotten acquired⟩
  cases turn with
  | checkRaised target heard text => exact live
  | skipped target heard logged => exact live
  | acquired target heard notLogged now => exact acquires now
  | queued target heard notLogged waits => exact acquires waits
  | admitted target heard position resumed =>
      exact ⟨Semaphore.uncancelled_resume live.uncancelled resumed,
        Semaphore.noneForgotten_resume resumed⟩
  | inside step goesOn => exact live
  | left step ends =>
      exact ⟨Semaphore.uncancelled_release live.uncancelled,
        Semaphore.noneForgotten_release semaphore⟩

structure CrawlLive (config : CrawlConfig) (source : ArticleSource Target Metadata)
    (maxConcurrent : Nat) (errorLog : List String) (targets : List Target)
    (state : FanOutState Target Metadata) : Prop where
  sound : FanOutSound config source maxConcurrent errorLog targets state
  queue : QueueSound state.semaphore state.workers
  semaphore : SemaphoreLive state.semaphore

theorem crawlLive_initial :
    CrawlLive config source maxConcurrent errorLog targets
      (FanOutState.initial maxConcurrent errorLog targets : FanOutState Target Metadata) := by
  refine ⟨fanOutSound_initial, ⟨List.nodup_nil, ?_⟩, ⟨?_, Semaphore.noneForgotten_ofValue _⟩⟩
  · intro index
    refine iff_of_false List.not_mem_nil ?_
    rintro ⟨worker, found, waiting⟩
    obtain ⟨target, -, rfl⟩ := List.mem_map.mp (List.mem_of_getElem? found)
    cases waiting
  · intro waiter member
    cases member

theorem CrawlLive.step {action : CrawlAction}
    (live : CrawlLive config source maxConcurrent errorLog targets state)
    (stepped : fanOutStep config source state action = some after) :
    CrawlLive config source maxConcurrent errorLog targets after := by
  have sound := live.sound.step stepped
  rcases fanOutStep_cases stepped with ⟨index, worker, next, turn⟩ | ⟨url, rfl⟩
  · refine ⟨sound, ?_, live.semaphore.turn turn.turn⟩
    rw [turn.workers]
    exact live.queue.turn turn.found turn.turn
  · exact ⟨sound, live.queue, live.semaphore⟩

/-- The action is one of the workers', and the state allows it. -/
def CanTurn (config : CrawlConfig) (source : ArticleSource Target Metadata)
    (state : FanOutState Target Metadata) : Prop :=
  ∃ action after, CrawlAction.isOwn action = true ∧
    fanOutStep config source state action = some after

theorem canTurn_inside (sound : ArticleSound config source worker)
    (found : state.workers[index]? = some worker) (inside : worker.stage.isInside = true) :
    CanTurn config source state := by
  obtain ⟨target, stage, heard⟩ := worker
  cases stage with
  | jitter =>
      refine ⟨.slept index, ?_⟩
      simp [fanOutStep, found, FanOutState.resumeSleep, CrawlAction.isOwn]
  | fetching stage =>
      cases stage with
      | requesting attempt lastExc =>
          refine ⟨.answered index (.raised ""), ?_⟩
          simp [fanOutStep, found, FanOutState.resumeRequest, CrawlAction.isOwn]
      | backingOff attempt lastExc =>
          refine ⟨.slept index, ?_⟩
          simp [fanOutStep, found, FanOutState.resumeSleep, CrawlAction.isOwn]
      | ended how =>
          cases sound with
          | cleared counted bound => cases counted
  | parsing response =>
      refine ⟨.parsed index, ?_⟩
      simp [fanOutStep, found, FanOutState.resumeParsing, CrawlAction.isOwn]
  | _ => cases inside

/-- A waiting worker is admitted, or a permit is held inside. -/
theorem CrawlLive.canTurn_waiting
    (live : CrawlLive config source maxConcurrent errorLog targets state)
    (positive : 0 < maxConcurrent) (found : state.workers[index]? = some worker)
    (waiting : worker.stage = .waiting) : CanTurn config source state := by
  have queued := (live.queue.waits index).mpr ⟨worker, found, waiting⟩
  by_cases resumable : Semaphore.Resumable state.semaphore.waiters
  · obtain ⟨position, caller, semaphore, resumed⟩ :=
      Semaphore.resume_of_resumable live.semaphore.uncancelled resumable
    obtain ⟨waiter, there, -⟩ := Option.bind_eq_some_iff.mp resumed
    obtain ⟨order, who⟩ := Semaphore.callers_resume there resumed
    rw [← who caller rfl] at order
    obtain ⟨other, otherFound, otherWaits⟩ :=
      (live.queue.waits caller).mp (order.mem_iff.mpr List.mem_cons_self)
    refine ⟨.admitted position, ?_⟩
    simp [fanOutStep, FanOutState.resumeAcquire, resumed, otherFound, otherWaits,
      CrawlAction.isOwn]
  · have none' := Semaphore.permits_eq_zero live.semaphore.noneForgotten
      (callers_ne_nil queued) resumable
    have total := live.sound.permits
    have holders : 0 < state.workers.countP fun worker => worker.stage.isInside := by omega
    obtain ⟨holder, member, inside⟩ := List.countP_pos_iff.mp holders
    obtain ⟨place, there⟩ := List.mem_iff_getElem?.mp member
    exact canTurn_inside (live.sound.workers holder member) there inside

theorem CrawlLive.canTurn (live : CrawlLive config source maxConcurrent errorLog targets state)
    (positive : 0 < maxConcurrent) {worker : ArticleWorker Target Metadata}
    (member : worker ∈ state.workers) (works : worker.stage.isEnded = false) :
    CanTurn config source state := by
  obtain ⟨index, found⟩ := List.mem_iff_getElem?.mp member
  cases stage : worker.stage with
  | precheck =>
      refine ⟨.prechecked index none, ?_⟩
      simp [fanOutStep, found, stage, CrawlAction.isOwn]
  | waiting => exact live.canTurn_waiting positive found stage
  | ended how =>
      rw [stage] at works
      cases works
  | _ => exact canTurn_inside (live.sound.workers worker member) found (by rw [stage]; rfl)

/-! ## The end -/

def FanOutState.Done (state : FanOutState Target Metadata) : Prop :=
  ∀ worker ∈ state.workers, worker.stage.isEnded = true

/-- Only the workers take turns. -/
def ownActions (_ : FanOutState Target Metadata) (action : CrawlAction) : Prop :=
  action.isOwn = true

theorem crawlLive {past : List (FanOutState Target Metadata)}
    (trace : Trace (fanOutMachine config source maxConcurrent errorLog targets) anyAction
      past state) : CrawlLive config source maxConcurrent errorLog targets state := by
  refine trace.invariant ?_ ?_
  · rintro state rfl
    exact crawlLive_initial
  · intro state action after live _ moved
    exact live.step moved

/-- With a permit to give, a crawl can always go on to its end, and after at most
`2 * max_retry + 6` turns for each target it has ended. -/
theorem crawl_ends (positive : 0 < maxConcurrent) {past : List (FanOutState Target Metadata)} :
    (Trace (fanOutMachine config source maxConcurrent errorLog targets) anyAction past state →
      ∃ final, Reaches (fanOutMachine config source maxConcurrent errorLog targets) ownActions
        state final ∧ final.Done ∧ final.gather ≠ .running) ∧
    (Trace (fanOutMachine config source maxConcurrent errorLog targets) ownActions past state →
      past.length + state.work config ≤ targets.length * (2 * config.maxRetry + 6)) := by
  have lowers (property : FanOutState Target Metadata → Prop) :
      Lowers (fanOutMachine config source maxConcurrent errorLog targets) ownActions property
        (FanOutState.work config) := by
    intro state action after _ own stepped
    exact work_lt (fanOutStep_turned own stepped)
  have preserved (state : FanOutState Target Metadata) (action : CrawlAction)
      (after : FanOutState Target Metadata)
      (live : CrawlLive config source maxConcurrent errorLog targets state)
      (_ : ownActions state action) (stepped : fanOutStep config source state action = some after) :
      CrawlLive config source maxConcurrent errorLog targets after :=
    live.step stepped
  have progress (state : FanOutState Target Metadata)
      (live : CrawlLive config source maxConcurrent errorLog targets state)
      (notDone : ¬ state.Done) : CanTurn config source state := by
    simp only [FanOutState.Done, not_forall, Bool.not_eq_true] at notDone
    obtain ⟨worker, member, works⟩ := notDone
    exact live.canTurn positive member works
  constructor
  · intro trace
    obtain ⟨final, reaches, done⟩ :=
      reaches_finished (lowers _) preserved progress (crawlLive trace)
    have live := reaches.invariant preserved (crawlLive trace)
    refine ⟨final, reaches, done, ?_⟩
    intro running
    have gathered := live.sound.gather
    rw [running] at gathered
    obtain ⟨⟨worker, member, works⟩, -⟩ := gathered
    rw [done worker member] at works
    cases works
  · intro trace
    refine trace.length_le (lowers fun _ => True) ?_ (fun _ _ _ => trivial)
    rintro state rfl
    simp [FanOutState.work, FanOutState.initial, Function.comp_def, WorkerStage.rank]

theorem crawl_ends_sample :
    ∃ final, Reaches sampleCrawl ownActions (FanOutState.initial 1 ["http://c"] sampleTargets)
      final ∧ final.Done ∧ final.gather ≠ .running :=
  (crawl_ends (by decide)).1 (Trace.start rfl)

end WealthFinder.Ingestion
