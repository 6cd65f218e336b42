import WealthFinder.Ingestion.CrawlsInService

/-!
# Where a cleaned article comes from

From the response of a page or the entry of a feed, over the crawl's result and the stored
row, to the cleaned row: however the crawls and the cleaning layer interleave, each article
that is offered for analysis can be traced back.
-/

set_option autoImplicit false

namespace WealthFinder.Ingestion

open Machine

variable {config : IngestionConfig} {state after : IngestionState} {index : Nat}
  {task next : CrawlTask} {effect : Effect} {past : List IngestionState}

/-! ## Where items come from -/

/-- The task has read the item from a page, or is about to take it from the feed. -/
def CrawlTask.Read (config : IngestionConfig) (task : CrawlTask) (item : ArticleItem) : Prop :=
  (∃ crawl, task.crawl = some crawl ∧ ∃ worker ∈ crawl.workers, ∃ response,
    GetAnswer.response response ∈ worker.heard.gets ∧ response.isSuccess ∧
    parseArticle (articleSource config.libraries task.sourceName) worker.target response =
      .succeeded item) ∨
  ∃ entry rest found, task.stage = .reading (entry :: rest) found ∧
    processEntry entry = some item

/-- A worker of the task has ended with the failure. -/
def CrawlTask.Failed (task : CrawlTask) (failure : CrawlFailItem) : Prop :=
  ∃ crawl, task.crawl = some crawl ∧
    ∃ worker ∈ crawl.workers, worker.stage = .ended (.failed failure)

def FoundIn (config : IngestionConfig) (sourceName : CrawlSourceName) (item : ArticleItem)
    (state : IngestionState) : Prop :=
  ∃ task ∈ state.tasks, task.sourceName = sourceName ∧ task.Read config item

def FailedIn (sourceName : CrawlSourceName) (executionId : String) (failure : CrawlFailItem)
    (state : IngestionState) : Prop :=
  ∃ task ∈ state.tasks, task.sourceName = sourceName ∧ task.executionId = executionId ∧
    task.Failed failure

theorem processEntry_some {entry : FeedEntry} {item : ArticleItem}
    (taken : processEntry entry = some item) :
    item.sourceUrl = entry.url ∧ item.body ≠ "" ∧ strip item.body = item.body := by
  unfold processEntry at taken
  cases read : entry.description with
  | none =>
      rw [read] at taken
      cases taken
  | some description =>
      simp only [read] at taken
      split at taken
      · cases taken
      · rename_i visible
        cases taken
        exact ⟨rfl, visible, strip_strip description⟩

/-- A text that was read is not blank and has no blanks around it. -/
theorem CrawlTask.Read.body {item : ArticleItem} (read : task.Read config item) :
    item.body ≠ "" ∧ strip item.body = item.body := by
  rcases read with
    ⟨crawl, -, worker, -, response, -, -, parsed⟩ | ⟨entry, rest, found, -, taken⟩
  · obtain ⟨-, visible, stripped, -⟩ := parseArticle_succeeded parsed
    exact ⟨visible, stripped⟩
  · exact (processEntry_some taken).2

section Gathered
variable {crawl : FanOutState (CrawlTarget task.sourceName) StockCodeMetadata}

/-- The successes of a crawl were read by its workers. -/
theorem CrawlSeen.successes (seen : CrawlSeen config past state index task crawl)
    (running : task.crawl = some crawl) :
    ∀ item ∈ crawl.result.successes, task.Read config item := by
  intro item member
  obtain ⟨errorLog, targets, sound, -⟩ := seen.sound
  have listed : item ∈ crawl.workers.flatMap fun worker => worker.stage.successes :=
    sound.successes.mem_iff.mp member
  obtain ⟨worker, there, left⟩ := List.mem_flatMap.mp listed
  have ended : worker.stage = .ended (.succeeded item) := by
    unfold WorkerStage.successes at left
    split at left
    · rename_i stage
      rw [stage, List.mem_singleton.mp left]
    · cases left
  have alone := (sound.workers worker there).fetched_succeeded ended
  obtain ⟨response, ⟨got, answered⟩, success, parsed⟩ := fetchOneArticle_succeeded alone
  exact Or.inl ⟨crawl, running, worker, there, response, Heard.mem_of_answers answered, success,
    parsed⟩

theorem CrawlSeen.failures (seen : CrawlSeen config past state index task crawl)
    (running : task.crawl = some crawl) :
    ∀ failure ∈ crawl.result.failures, task.Failed failure := by
  intro failure member
  obtain ⟨errorLog, targets, sound, -⟩ := seen.sound
  have listed : failure ∈ crawl.workers.flatMap fun worker => worker.stage.failures :=
    sound.failures.mem_iff.mp member
  obtain ⟨worker, there, left⟩ := List.mem_flatMap.mp listed
  refine ⟨crawl, running, worker, there, ?_⟩
  unfold WorkerStage.failures at left
  split at left
  · rename_i stage
    rw [stage, List.mem_singleton.mp left]
  · cases left

end Gathered

/-! ## What a task has yet to persist -/

namespace TaskStage

def items : TaskStage → List ArticleItem
  | .reading _ found => found
  | .persisting _ successes => successes
  | .savingFailure _ _ _ successes => successes
  | .inserting _ _ successes => successes
  | .announcing _ successes => successes
  | _ => []

def failures : TaskStage → List CrawlFailItem
  | .persisting failures _ => failures
  | .savingFailure _ _ failures _ => failures
  | _ => []

def rawRow : TaskStage → Option RawNewsRow
  | .inserting row _ _ => some row
  | _ => none

def errorRow : TaskStage → Option CrawlErrorRow
  | .savingFailure row _ _ _ => some row
  | _ => none

end TaskStage

structure RowOf (row : RawNewsRow) (sourceName : CrawlSourceName) (item : ArticleItem) : Prop where
  sourceName : row.sourceName = sourceName.value
  sourceUrl : row.sourceUrl = item.sourceUrl
  title : row.title = item.title
  body : row.body = item.body
  publishedAt : row.publishedAt = item.publishedAt

structure ErrorRowOf (row : CrawlErrorRow) (sourceName : CrawlSourceName)
    (failure : CrawlFailItem) : Prop where
  sourceName : row.sourceName = sourceName.value
  url : row.url = failure.sourceUrl
  errorType : row.errorType = failure.errorType
  errorCode : row.errorCode = failure.errorCode
  attemptCount : row.attemptCount = failure.attemptCount

/-- What a task's turn leaves to be persisted it had before, or has just read. -/
structure Hands (config : IngestionConfig) (task next : CrawlTask) : Prop where
  sourceName : next.sourceName = task.sourceName
  executionId : next.executionId = task.executionId
  items : ∀ item ∈ next.stage.items, item ∈ task.stage.items ∨ task.Read config item
  failures : ∀ failure ∈ next.stage.failures,
    failure ∈ task.stage.failures ∨ task.Failed failure
  rawRow : ∀ row, next.stage.rawRow = some row → task.stage.rawRow = some row ∨
    ∃ item ∈ task.stage.items, RowOf row task.sourceName item
  errorRow : ∀ row, next.stage.errorRow = some row → task.stage.errorRow = some row ∨
    ∃ failure ∈ task.stage.failures, row.executionId = task.executionId ∧
      ErrorRowOf row task.sourceName failure

theorem Hands.of_less {stage : TaskStage} (items : stage.items ⊆ task.stage.items)
    (failures : stage.failures ⊆ task.stage.failures)
    (rawRow : stage.rawRow = none ∨ stage.rawRow = task.stage.rawRow)
    (errorRow : stage.errorRow = none ∨ stage.errorRow = task.stage.errorRow) :
    Hands config task { task with stage := stage } := by
  refine ⟨rfl, rfl, fun item member => Or.inl (items member),
    fun failure member => Or.inl (failures member), ?_, ?_⟩
  · intro row is
    change stage.rawRow = some row at is
    rcases rawRow with none' | same
    · rw [none'] at is
      cases is
    · exact Or.inl (same ▸ is)
  · intro row is
    change stage.errorRow = some row at is
    rcases errorRow with none' | same
    · rw [none'] at is
      cases is
    · exact Or.inl (same ▸ is)

theorem Hands.of_nothing {stage : TaskStage} (items : stage.items = [])
    (failures : stage.failures = []) (rawRow : stage.rawRow = none)
    (errorRow : stage.errorRow = none) : Hands config task { task with stage := stage } := by
  refine Hands.of_less ?_ ?_ (Or.inl rawRow) (Or.inl errorRow)
  · rw [items]
    exact List.nil_subset _
  · rw [failures]
    exact List.nil_subset _

theorem Hands.readsOn {entries : List FeedEntry} {found : List ArticleItem}
    (read : ∀ item ∈ found, item ∈ task.stage.items ∨ task.Read config item) :
    Hands config task (task.readsOn entries found) := by
  refine ⟨rfl, rfl, ?_, ?_, ?_, ?_⟩ <;> unfold CrawlTask.readsOn <;> cases entries.isEmpty
  · exact read
  · exact read
  · intro failure member
    cases member
  · intro failure member
    cases member
  · intro row is
    cases is
  · intro row is
    cases is
  · intro row is
    cases is
  · intro row is
    cases is

theorem Hands.fails (text : String) : Hands config task (task.fails text) := by
  refine Hands.of_nothing ?_ ?_ ?_ ?_ <;> rfl

theorem firstAttempt_cases (maxRetry : Int) (suspended returned : TaskStage) :
    firstAttempt maxRetry suspended returned = suspended ∨
      firstAttempt maxRetry suspended returned = returned := by
  unfold firstAttempt
  split
  · exact Or.inl rfl
  · exact Or.inr rfl

theorem Hands.begunFailure {failure : CrawlFailItem} {failures : List CrawlFailItem}
    {successes : List ArticleItem}
    (stage : task.stage = .persisting (failure :: failures) successes) (draw : Draw) :
    Hands config task
      { task with
        stage := firstAttempt config.dbMaxRetry
          (.savingFailure (task.errorRow failure draw) 1 failures successes)
          (.persisting failures successes) } := by
  have items : task.stage.items = successes := by rw [stage]; rfl
  have before : task.stage.failures = failure :: failures := by rw [stage]; rfl
  rcases firstAttempt_cases config.dbMaxRetry
      (.savingFailure (task.errorRow failure draw) 1 failures successes)
      (.persisting failures successes) with is | is
  · rw [is]
    refine ⟨rfl, rfl, ?_, ?_, nofun, ?_⟩
    · intro item member
      exact Or.inl (items ▸ member)
    · intro other member
      exact Or.inl (before ▸ List.mem_cons_of_mem _ member)
    · intro row same
      cases same
      exact Or.inr ⟨failure, before ▸ List.mem_cons_self, rfl, ⟨rfl, rfl, rfl, rfl, rfl⟩⟩
  · rw [is]
    refine Hands.of_less ?_ ?_ (Or.inl rfl) (Or.inl rfl)
    · rw [items]
      exact List.Subset.refl _
    · rw [before]
      exact List.subset_cons_self _ _

theorem Hands.begunSuccess {item : ArticleItem} {rest : List ArticleItem}
    (stage : task.stage = .persisting [] (item :: rest)) (draw : Draw) (rawHash : String)
    (extraMetadata : Option String) :
    Hands config task
      { task with
        stage := firstAttempt config.dbMaxRetry
          (.inserting (task.rawRow item draw rawHash extraMetadata) 1 rest)
          (.persisting [] rest) } := by
  have items : task.stage.items = item :: rest := by rw [stage]; rfl
  rcases firstAttempt_cases config.dbMaxRetry
      (.inserting (task.rawRow item draw rawHash extraMetadata) 1 rest)
      (.persisting [] rest) with is | is
  · rw [is]
    refine ⟨rfl, rfl, ?_, nofun, ?_, nofun⟩
    · intro other member
      exact Or.inl (items ▸ List.mem_cons_of_mem _ member)
    · intro row same
      cases same
      exact Or.inr ⟨item, items ▸ List.mem_cons_self, ⟨rfl, rfl, rfl, rfl, rfl⟩⟩
  · rw [is]
    refine Hands.of_less ?_ (List.nil_subset _) (Or.inl rfl) (Or.inl rfl)
    rw [items]
    exact List.subset_cons_self _ _

theorem TaskTurn.hands (seen : CrawlsSeen config past state)
    (found : state.tasks[index]? = some task)
    (turn : TaskTurn config state task next effect) : Hands config task next := by
  cases turn with
  | started stage targets => exact ⟨rfl, rfl, nofun, nofun, nofun, nofun⟩
  | opened stage entries =>
      refine Hands.readsOn ?_
      intro item member
      cases member
  | failedFatally stage text => exact ⟨rfl, rfl, nofun, nofun, nofun, nofun⟩
  | discoveryFailed stage text => exact Hands.fails text
  | @read entry rest before more stage taken =>
      refine Hands.readsOn ?_
      intro item member
      have earlier (old : item ∈ before) : item ∈ task.stage.items := by
        rw [stage]
        exact old
      rcases taken with rfl | rfl
      · exact Or.inl (earlier member)
      · rcases List.mem_append.mp member with old | new
        · exact Or.inl (earlier old)
        · exact Or.inr (Or.inr ⟨entry, rest, before, stage, Option.mem_toList.mp new⟩)
  | readFailed stage text => exact Hands.fails text
  | worked running action own stepped =>
      exact ⟨rfl, rfl, fun _ member => Or.inl member, fun _ member => Or.inl member,
        fun _ same => Or.inl same, fun _ same => Or.inl same⟩
  | gathered stage running returned =>
      have own := seen index task _ found running
      refine ⟨rfl, rfl, ?_, ?_, nofun, nofun⟩
      · intro item member
        exact Or.inr (own.successes running item member)
      · intro failure member
        exact Or.inr (own.failures running failure member)
  | gatherFailed stage text => exact Hands.fails text
  | begunFailure stage draw made =>
      rw [made]
      exact Hands.begunFailure stage draw
  | begunSuccess stage draw made =>
      obtain ⟨rawHash, extraMetadata, rfl⟩ := made
      exact Hands.begunSuccess stage draw rawHash extraMetadata
  | unhashed stage id =>
      refine Hands.of_less ?_ (List.nil_subset _) (Or.inl rfl) (Or.inl rfl)
      rw [stage]
      exact List.subset_cons_self _ _
  | undumped stage id text => exact Hands.fails text
  | concluded stage => exact ⟨rfl, rfl, nofun, nofun, nofun, nofun⟩
  | saved stage goesTo does =>
      rcases goesTo with rfl | ⟨-, rfl⟩
      · refine Hands.of_less ?_ ?_ (Or.inl rfl) (Or.inl rfl) <;> rw [stage] <;>
          exact List.Subset.refl _
      · refine Hands.of_less ?_ ?_ (Or.inl rfl) (Or.inr ?_) <;> rw [stage]
        · exact List.Subset.refl _
        · exact List.Subset.refl _
        · rfl
  | inserted stage goesTo does =>
      rcases goesTo with rfl | ⟨-, rfl⟩
      · refine Hands.of_less ?_ (List.nil_subset _) (Or.inl rfl) (Or.inl rfl)
        rw [stage]
        exact List.Subset.refl _
      · refine Hands.of_less ?_ (List.nil_subset _) (Or.inr ?_) (Or.inl rfl) <;> rw [stage]
        · exact List.Subset.refl _
        · rfl
  | replied stage =>
      refine Hands.of_less ?_ (List.nil_subset _) (Or.inl rfl) (Or.inl rfl)
      rw [stage]
      exact List.Subset.refl _
  | announced stage stream =>
      refine Hands.of_less ?_ (List.nil_subset _) (Or.inl rfl) (Or.inl rfl)
      rw [stage]
      exact List.Subset.refl _
  | notAnnounced stage =>
      refine Hands.of_less ?_ (List.nil_subset _) (Or.inl rfl) (Or.inl rfl)
      rw [stage]
      exact List.Subset.refl _
  | completed stage does => exact ⟨rfl, rfl, nofun, nofun, nofun, nofun⟩
  | completionFailed stage does text => exact Hands.fails text

/-- What a turn writes is the row that the task had at hand. -/
theorem TaskTurn.stores {row : RawNewsRow}
    (turn : TaskTurn config state task next (.stored row)) : task.stage.rawRow = some row := by
  cases turn with
  | replied stage =>
      rw [stage]
      rfl
  | inserted stage goesTo does =>
      rcases does with is | is
      · cases is
      · cases is
        rw [stage]
        rfl
  | saved stage goesTo does => rcases does with is | is <;> cases is
  | completed stage does => rcases does with ⟨is, -⟩ | is <;> cases is
  | completionFailed stage does text => rcases does with is | is <;> cases is

theorem TaskTurn.logs {row : CrawlErrorRow}
    (turn : TaskTurn config state task next (.logged row)) : task.stage.errorRow = some row := by
  cases turn with
  | saved stage goesTo does =>
      rcases does with is | is
      · cases is
      · cases is
        rw [stage]
        rfl
  | inserted stage goesTo does => rcases does with is | is <;> cases is
  | completed stage does => rcases does with ⟨is, -⟩ | is <;> cases is
  | completionFailed stage does text => rcases does with is | is <;> cases is

/-! ## Rows and their origins -/

def Origin (config : IngestionConfig) (past : List IngestionState) (state : IngestionState)
    (row : RawNewsRow) : Prop :=
  ∃ sourceName item, RowOf row sourceName item ∧ Once (FoundIn config sourceName item) past state

def ErrorOrigin (past : List IngestionState) (state : IngestionState) (row : CrawlErrorRow) :
    Prop :=
  ∃ sourceName failure, ErrorRowOf row sourceName failure ∧
    Once (FailedIn sourceName row.executionId failure) past state

theorem Origin.later {row : RawNewsRow} (origin : Origin config past state row) :
    Origin config (state :: past) after row := by
  obtain ⟨sourceName, item, holds, once⟩ := origin
  exact ⟨sourceName, item, holds, once.later⟩

theorem ErrorOrigin.later {row : CrawlErrorRow} (origin : ErrorOrigin past state row) :
    ErrorOrigin (state :: past) after row := by
  obtain ⟨sourceName, failure, holds, once⟩ := origin
  exact ⟨sourceName, failure, holds, once.later⟩

/-- All that a task has at hand was found or has failed before. -/
structure TaskAccounted (config : IngestionConfig) (past : List IngestionState)
    (state : IngestionState) (task : CrawlTask) : Prop where
  items : ∀ item ∈ task.stage.items, Once (FoundIn config task.sourceName item) past state
  failures : ∀ failure ∈ task.stage.failures,
    Once (FailedIn task.sourceName task.executionId failure) past state
  rawRow : ∀ row, task.stage.rawRow = some row → Origin config past state row
  errorRow : ∀ row, task.stage.errorRow = some row → ErrorOrigin past state row

structure Accounted (config : IngestionConfig) (past : List IngestionState)
    (state : IngestionState) : Prop where
  tasks : ∀ task ∈ state.tasks, TaskAccounted config past state task
  stored : ∀ row ∈ state.world.rawNews, Origin config past state row
  logged : ∀ row ∈ state.world.errorLog, ErrorOrigin past state row

theorem TaskAccounted.later (accounted : TaskAccounted config past state task) :
    TaskAccounted config (state :: past) after task := by
  constructor
  · intro item member
    exact (accounted.items item member).later
  · intro failure member
    exact (accounted.failures failure member).later
  · intro row same
    exact (accounted.rawRow row same).later
  · intro row same
    exact (accounted.errorRow row same).later

theorem TaskAccounted.of_nothing (stage : task.stage = .discovering ∨ task.stage = .ended) :
    TaskAccounted config past state task := by
  rcases stage with stage | stage <;> constructor <;> rw [stage] <;> nofun

theorem TaskAccounted.handsOn (accounted : TaskAccounted config past state task)
    (found : state.tasks[index]? = some task) (hands : Hands config task next) :
    TaskAccounted config (state :: past) after next := by
  have there := List.mem_of_getElem? found
  constructor
  · intro item member
    rw [hands.sourceName]
    rcases hands.items item member with old | read
    · exact (accounted.items item old).later
    · have now : Once (FoundIn config task.sourceName item) past state :=
        Once.now ⟨task, there, rfl, read⟩
      exact now.later
  · intro failure member
    rw [hands.sourceName, hands.executionId]
    rcases hands.failures failure member with old | failed
    · exact (accounted.failures failure old).later
    · have now : Once (FailedIn task.sourceName task.executionId failure) past state :=
        Once.now ⟨task, there, rfl, rfl, failed⟩
      exact now.later
  · intro row same
    rcases hands.rawRow row same with old | ⟨item, member, holds⟩
    · exact (accounted.rawRow row old).later
    · exact ⟨task.sourceName, item, holds, (accounted.items item member).later⟩
  · intro row same
    rcases hands.errorRow row same with old | ⟨failure, member, execution, holds⟩
    · exact (accounted.errorRow row old).later
    · refine ⟨task.sourceName, failure, holds, ?_⟩
      rw [execution]
      exact (accounted.failures failure member).later

theorem Accounted.turning (accounted : Accounted config past state)
    (seen : CrawlsSeen config past state)
    (turning : Turning config state after index task next effect) :
    Accounted config (state :: past) after := by
  have there := List.mem_of_getElem? turning.found
  have own := accounted.tasks task there
  constructor
  · intro other member
    rcases mem_of_setTask turning member with old | rfl
    · exact (accounted.tasks other old).later
    · exact own.handsOn turning.found (turning.turn.hands seen turning.found)
  · intro row member
    obtain rfl := turning.after
    cases effect with
    | stored new =>
        rcases List.mem_cons.mp member with rfl | old
        · exact (own.rawRow row turning.turn.stores).later
        · exact (accounted.stored row old).later
    | _ => exact (accounted.stored row member).later
  · intro row member
    obtain rfl := turning.after
    cases effect with
    | logged new =>
        rcases List.mem_cons.mp member with rfl | old
        · exact (own.errorRow row turning.turn.logs).later
        · exact (accounted.logged row old).later
    | _ => exact (accounted.logged row member).later

theorem accounted (trace : Trace (ingestionMachine config) anyAction past state) :
    Accounted config past state := by
  refine trace.history_invariant ?_ ?_
  · rintro start rfl
    constructor
    · intro task member
      cases member
    · intro row member
      cases member
    · intro row member
      cases member
  · intro past before action later earlier accounted _ stepped
    cases ingestionStep_cases stepped with
    | accepted executionId sourceName =>
        refine ⟨?_, fun row member => (accounted.stored row member).later,
          fun row member => (accounted.logged row member).later⟩
        intro task member
        rcases List.mem_append.mp member with old | new
        · exact (accounted.tasks task old).later
        · rw [List.mem_singleton.mp new]
          exact .of_nothing (Or.inl rfl)
    | turned turning => exact accounted.turning (crawlsSeen earlier) turning
    | cleaned own isOwn cleaned =>
        exact ⟨fun task member => (accounted.tasks task member).later,
          fun row member => (accounted.stored row member).later,
          fun row member => (accounted.logged row member).later⟩
    | crashed =>
        refine ⟨?_, fun row member => (accounted.stored row member).later,
          fun row member => (accounted.logged row member).later⟩
        intro task member
        obtain ⟨old, -, rfl⟩ := List.mem_map.mp member
        exact .of_nothing (Or.inr rfl)

/-! ## Cleaned articles -/

theorem verdicts_in_service (retries : 1 ≤ config.dbMaxRetry)
    (trace : Trace (ingestionMachine config) anyAction past state) :
    VerdictsSound config.clean state.cleaner := by
  refine @Trace.history_invariant _ _ _ _
    (fun _ state => VerdictsSound config.clean state.cleaner) ?_ ?_ past state trace
  · rintro start rfl
    exact verdictsSound_initial
  · intro past before action later earlier sound _ stepped
    refine (ingestionStep_reaches (storeSound earlier) stepped).invariant ?_ sound
    intro cleaner own moved held _ cleaned
    exact held.step retries cleaned

theorem FoundIn.body {sourceName : CrawlSourceName} {item : ArticleItem}
    (found : Once (FoundIn config sourceName item) past state) :
    item.body ≠ "" ∧ strip item.body = item.body := by
  rcases found with ⟨task, -, -, read⟩ | ⟨earlier, -, task, -, -, read⟩
  · exact read.body
  · exact read.body

/-- A cleaned article is the normalised text of a stored one, which a crawl has read from a
page or a feed of its source; a logged error is how a worker of its execution ended. -/
theorem cleaned_article_provenance (retries : 1 ≤ config.dbMaxRetry)
    (trace : Trace (ingestionMachine config) anyAction past state) :
    (∀ cleaned ∈ state.cleaner.cleanedNews, ∃ row ∈ state.world.rawNews,
      row.rawId = cleaned.rawId ∧
      cleaned.titleCleaned = config.tools.normalise row.title ∧
      cleaned.bodyCleaned = config.tools.normalise row.body ∧
      config.bodyMinLength ≤ cleaned.bodyCleaned.length ∧
      ∃ sourceName item, RowOf row sourceName item ∧ item.body ≠ "" ∧
        strip item.body = item.body ∧ Once (FoundIn config sourceName item) past state) ∧
    ∀ row ∈ state.world.errorLog, ∃ sourceName failure, ErrorRowOf row sourceName failure ∧
      Once (FailedIn sourceName row.executionId failure) past state := by
  have accounted := accounted trace
  have verdicts := verdicts_in_service retries trace
  have sound := storeSound trace
  refine ⟨?_, accounted.logged⟩
  intro cleaned member
  obtain ⟨raw, found, verdict⟩ := verdicts.rows cleaned member
  obtain ⟨-, -, title, body, long⟩ := validate_accepts verdict
  obtain ⟨row, stored, same⟩ := sound.known cleaned.rawId (by rw [found]; rfl)
  obtain ⟨twin, foundTwin, sameTitle, sameBody⟩ := sound.stored row stored
  rw [same, found] at foundTwin
  cases foundTwin
  obtain ⟨sourceName, item, holds, once⟩ := accounted.stored row stored
  refine ⟨row, stored, same, ?_, ?_, long, sourceName, item, holds, ?_⟩
  · rw [title, sameTitle]
    rfl
  · rw [body, sameBody]
    rfl
  · obtain ⟨visible, stripped⟩ := FoundIn.body once
    exact ⟨visible, stripped, once⟩

theorem cleaned_article_provenance_sample : ∃ (past : List IngestionState)
    (state : IngestionState),
    state.cleaner.cleanedNews = [⟨100, 11, "HSI", "HSI up", 0⟩] ∧
    ∃ row ∈ state.world.rawNews, row.rawId = 11 ∧
      ∃ sourceName item, RowOf row sourceName item ∧
        Once (FoundIn sampleConfig sourceName item) past state := by
  obtain ⟨past, state, trace, -, -, cleaned⟩ := twoCrawls_reaches
  have member : (⟨100, 11, "HSI", "HSI up", 0⟩ : CleanedNews) ∈ state.cleaner.cleanedNews := by
    rw [cleaned]
    exact List.mem_singleton_self _
  obtain ⟨row, stored, same, -, -, -, sourceName, item, holds, -, -, once⟩ :=
    (cleaned_article_provenance (by decide) trace).1 _ member
  exact ⟨past, state, cleaned, row, stored, same, sourceName, item, holds, once⟩

end WealthFinder.Ingestion
