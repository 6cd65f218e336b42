import WealthFinder.Ingestion.CrawlOutcomes
import WealthFinder.Ingestion.IngestionStore

/-!
# The crawls of the service one by one

Each crawl of the service runs as `fanOutMachine`; what the other executions write to the
error log are the urls that another crawl writes there.  So a url that was in the error log
before a crawl began is not requested by it.
-/

set_option autoImplicit false

namespace WealthFinder.Ingestion

open Machine

variable {config : IngestionConfig} {state after : IngestionState} {index : Nat}
  {task next : CrawlTask} {effect : Effect} {past : List IngestionState}

/-! ## What a turn does to the workers -/

/-- The crawl with the error log as it is now. -/
def FanOutState.looking {Target Metadata : Type} (crawl : FanOutState Target Metadata)
    (world : CrawlWorld) : FanOutState Target Metadata :=
  { crawl with errorLog := world.loggedUrls }

/-- A turn leaves the workers alone, starts them, or is a turn of one of them. -/
theorem TaskTurn.workers (turn : TaskTurn config state task next effect) :
    (∃ stage, next = { task with stage := stage }) ∨
    (effect = .quiet ∧ ∃ targets,
      next = task.startWorkers config state.world.loggedUrls targets) ∨
    (effect = .quiet ∧ ∃ crawl action moved, task.crawl = some crawl ∧
      CrawlAction.isOwn action = true ∧ fanOutStep config.crawl (articleSource config.libraries task.sourceName)
        (crawl.looking state.world) action = some moved ∧
      next = { task with crawl := some moved }) := by
  cases turn with
  | started stage targets => exact Or.inr (Or.inl ⟨rfl, targets, rfl⟩)
  | worked running action own stepped =>
      exact Or.inr (Or.inr ⟨rfl, _, action, _, running, own, stepped, rfl⟩)
  | _ => exact Or.inl ⟨_, rfl⟩

theorem loggedUrls_turning (turning : Turning config state after index task next effect) :
    after.world.loggedUrls = state.world.loggedUrls ∨
      ∃ row, effect = .logged row ∧
        after.world.loggedUrls = row.url :: state.world.loggedUrls := by
  obtain rfl := turning.after
  cases effect with
  | logged row => exact Or.inr ⟨row, rfl, rfl⟩
  | _ => exact Or.inl rfl

/-- The error log only grows. -/
theorem loggedUrls_grow {action : IngestionAction}
    (stepped : ingestionStep config state action = some after) :
    ∀ url ∈ state.world.loggedUrls, url ∈ after.world.loggedUrls := by
  intro url member
  cases ingestionStep_cases stepped with
  | turned turning =>
      rcases loggedUrls_turning turning with same | ⟨row, -, more⟩
      · rw [same]
        exact member
      · rw [more]
        exact List.mem_cons_of_mem _ member
  | _ => exact member

/-! ## The runs of the crawls -/

/-- The task has not started its workers, or is not there yet. -/
def Unstarted (state : IngestionState) (index : Nat) : Prop :=
  ∀ task, state.tasks[index]? = some task → task.crawl = none

/-- The crawl has run as `fanOutMachine`, from an error log that holds all that was there
before it began. -/
structure CrawlSeen (config : IngestionConfig) (past : List IngestionState)
    (state : IngestionState) (index : Nat) (task : CrawlTask)
    (crawl : FanOutState (CrawlTarget task.sourceName) StockCodeMetadata) : Prop where
  run : ∃ errorLog targets history,
    Trace (fanOutMachine config.crawl (articleSource config.libraries task.sourceName)
      (config.maxConcurrent task.sourceName) errorLog targets) anyAction history
        (crawl.looking state.world) ∧
    ∀ earlier ∈ past, Unstarted earlier index →
      ∀ url ∈ earlier.world.loggedUrls, url ∈ errorLog

/-- Another execution writes to the error log, or nothing does. -/
theorem CrawlSeen.stays {later : IngestionState} {stage : TaskStage}
    {crawl : FanOutState (CrawlTarget task.sourceName) StockCodeMetadata}
    (seen : CrawlSeen config past state index task crawl)
    (found : state.tasks[index]? = some task) (running : task.crawl = some crawl)
    (logged : later.world.loggedUrls = state.world.loggedUrls ∨
      ∃ url, later.world.loggedUrls = url :: state.world.loggedUrls) :
    CrawlSeen config (state :: past) later index { task with stage := stage } crawl := by
  obtain ⟨errorLog, targets, history, trace, before⟩ := seen.run
  have covers : ∀ earlier ∈ state :: past, Unstarted earlier index →
      ∀ url ∈ earlier.world.loggedUrls, url ∈ errorLog := by
    intro earlier member unstarted
    rcases List.mem_cons.mp member with rfl | old
    · rw [unstarted task found] at running
      cases running
    · exact before earlier old unstarted
  rcases logged with same | ⟨url, more⟩
  · refine ⟨errorLog, targets, history, ?_, covers⟩
    unfold FanOutState.looking
    rw [same]
    exact trace
  · refine ⟨errorLog, targets, _, trace.next (.logUrl url) trivial ?_, covers⟩
    unfold FanOutState.looking
    rw [more]
    rfl

def CrawlsSeen (config : IngestionConfig) (past : List IngestionState) (state : IngestionState) :
    Prop :=
  ∀ index task crawl, state.tasks[index]? = some task → task.crawl = some crawl →
    CrawlSeen config past state index task crawl

theorem crawlsSeen_turning (seen : CrawlsSeen config past state)
    (grown : ∀ earlier ∈ past, ∀ url ∈ earlier.world.loggedUrls, url ∈ state.world.loggedUrls)
    (turning : Turning config state after index task next effect) :
    CrawlsSeen config (state :: past) after := by
  have logged : after.world.loggedUrls = state.world.loggedUrls ∨
      ∃ url, after.world.loggedUrls = url :: state.world.loggedUrls := by
    rcases loggedUrls_turning turning with same | ⟨row, -, more⟩
    · exact Or.inl same
    · exact Or.inr ⟨row.url, more⟩
  have quiet (is : effect = .quiet) : after.world = state.world := by
    subst is
    obtain rfl := turning.after
    rfl
  intro place other crawl found running
  have tasks : after.tasks = state.tasks.set index next := by
    obtain rfl := turning.after
    simp [IngestionState.setTask]
  rw [tasks] at found
  rcases getElem?_set_cases turning.found found with ⟨rfl, rfl⟩ | ⟨-, old⟩
  · rcases turning.turn.workers with
      ⟨stage, rfl⟩ | ⟨is, targets, rfl⟩ | ⟨is, before, action, moved, there, own, stepped, rfl⟩
    · exact (seen place task crawl turning.found running).stays turning.found running logged
    · cases running
      refine ⟨state.world.loggedUrls, targets, [], ?_, ?_⟩
      · rw [quiet is]
        exact Trace.start rfl
      · intro earlier member _ url isLogged
        rcases List.mem_cons.mp member with rfl | old
        · exact isLogged
        · exact grown earlier old url isLogged
    · cases running
      obtain ⟨errorLog, targets, history, trace, covers⟩ :=
        (seen place task before turning.found there).run
      have same : moved.looking after.world = moved := by
        obtain ⟨worker, old, new, turn⟩ := fanOutStep_turned own stepped
        have kept : moved.errorLog = state.world.loggedUrls := turn.errorLog
        unfold FanOutState.looking
        rw [quiet is, ← kept]
      refine ⟨errorLog, targets, before.looking state.world :: history, ?_, ?_⟩
      · rw [same]
        exact trace.next action trivial stepped
      · intro earlier member unstarted
        rcases List.mem_cons.mp member with rfl | old
        · rw [unstarted task turning.found] at there
          cases there
        · exact covers earlier old unstarted
  · exact (seen place other crawl old running).stays old running logged

theorem crawlsSeen (trace : Trace (ingestionMachine config) anyAction past state) :
    CrawlsSeen config past state := by
  refine trace.history_invariant ?_ ?_
  · rintro start rfl index task crawl found
    cases found
  · intro past before action later earlier seen _ stepped
    have moved : ingestionStep config before action = some later := stepped
    have grown (first : IngestionState) (member : first ∈ past) :
        ∀ url ∈ first.world.loggedUrls, url ∈ before.world.loggedUrls := by
      have grows (one other third : IngestionState)
          (left : ∀ url ∈ one.world.loggedUrls, url ∈ other.world.loggedUrls)
          (right : ∀ url ∈ other.world.loggedUrls, url ∈ third.world.loggedUrls) :
          ∀ url ∈ one.world.loggedUrls, url ∈ third.world.loggedUrls :=
        fun url logged => right url (left url logged)
      exact earlier.relates_past grows (fun _ _ _ _ _ _ step => loggedUrls_grow step) first member
    intro index task crawl found running
    cases ingestionStep_cases moved with
    | accepted executionId sourceName =>
        rcases getElem?_append_cases found with ⟨-, rfl⟩ | ⟨-, old⟩
        · cases running
        · exact (seen index task crawl old running).stays old running (Or.inl rfl)
    | turned turning =>
        exact crawlsSeen_turning seen grown turning index task crawl found running
    | cleaned own isOwn cleaned =>
        exact (seen index task crawl found running).stays found running (Or.inl rfl)
    | crashed =>
        simp only [IngestionState.crash, List.getElem?_map, Option.map_eq_some_iff] at found
        obtain ⟨old, -, rfl⟩ := found
        cases running

theorem CrawlSeen.sound {crawl : FanOutState (CrawlTarget task.sourceName) StockCodeMetadata}
    (seen : CrawlSeen config past state index task crawl) :
    ∃ errorLog targets, FanOutSound config.crawl
      (articleSource config.libraries task.sourceName) (config.maxConcurrent task.sourceName)
        errorLog targets (crawl.looking state.world) ∧
      ∀ earlier ∈ past, Unstarted earlier index →
        ∀ url ∈ earlier.world.loggedUrls, url ∈ errorLog := by
  obtain ⟨errorLog, targets, history, trace, covers⟩ := seen.run
  exact ⟨errorLog, targets, fanOutSound trace, covers⟩

/-- Each crawl of the service runs as `fanOutMachine`, has no more workers inside than its
source allows, and requests no url that the error log held before its workers started. -/
theorem concurrent_crawls_polite
    (trace : Trace (ingestionMachine config) anyAction past state) {task : CrawlTask}
    {crawl : FanOutState (CrawlTarget task.sourceName) StockCodeMetadata}
    (found : state.tasks[index]? = some task) (running : task.crawl = some crawl) :
    (∃ errorLog targets history, Trace (fanOutMachine config.crawl
      (articleSource config.libraries task.sourceName) (config.maxConcurrent task.sourceName)
        errorLog targets) anyAction history (crawl.looking state.world)) ∧
    crawl.workers.countP (fun worker => worker.stage.isInside) ≤
      config.maxConcurrent task.sourceName ∧
    ∀ earlier ∈ past, Unstarted earlier index →
      ∀ url ∈ earlier.world.loggedUrls, url ∉ crawl.requested := by
  have seen := crawlsSeen trace index task crawl found running
  obtain ⟨errorLog, targets, sound, covers⟩ := seen.sound
  obtain ⟨log, aims, history, run, -⟩ := seen.run
  refine ⟨⟨log, aims, history, run⟩, ?_, ?_⟩
  · have total : crawl.semaphore.permits +
        crawl.workers.countP (fun worker => worker.stage.isInside) =
          config.maxConcurrent task.sourceName := sound.permits
    omega
  · intro earlier member unstarted url logged asked
    exact sound.notLogged asked (covers earlier member unstarted url logged)

/-- The first crawl does not find the article, and the second one meets its url in the
error log. -/
def loggedForTheSecond : List IngestionAction :=
  let listPage : Discovery := .listPage fun _ => .response ⟨200, "", [], ""⟩
  [.accept "one" .aastocks, .accept "two" .aastocks, .discovered 0 listPage,
    .worked 0 (.prechecked 0 none), .worked 0 (.slept 0),
    .worked 0 (.answered 0 (.response ⟨404, "", [], ""⟩)), .gathered 0,
    .begun 0 ⟨20, 0, ""⟩, .saved 0 .done, .discovered 1 listPage,
    .worked 1 (.prechecked 0 none)]

theorem concurrent_crawls_polite_sample :
    ∃ (state : IngestionState) (task : CrawlTask)
      (crawl : FanOutState (CrawlTarget task.sourceName) StockCodeMetadata),
      state.tasks[1]? = some task ∧ task.crawl = some crawl ∧
      state.world.loggedUrls = ["http://a"] ∧ crawl.requested = [] ∧
      crawl.workers.countP (fun worker => worker.stage.isInside) ≤ 1 := by
  obtain ⟨past, state, trace, seen⟩ := Trace.of_free_run (ingestionMachine sampleConfig)
    (fun state => state.world.loggedUrls = ["http://a"] ∧
      (state.tasks[1]?.bind fun task => task.crawl.map fun crawl => crawl.requested) = some [])
    rfl loggedForTheSecond (by decide +kernel)
  obtain ⟨logged, asked⟩ := of_decide_eq_true seen
  obtain ⟨task, found, asked⟩ := Option.bind_eq_some_iff.mp asked
  obtain ⟨crawl, running, asked⟩ := Option.map_eq_some_iff.mp asked
  exact ⟨state, task, crawl, found, running, logged, asked,
    (concurrent_crawls_polite trace found running).2.1⟩

end WealthFinder.Ingestion
