import WealthFinder.Ingestion.IngestionService

/-!
# What a step of the data-ingestion service can do

A step moves one crawl task and changes the shared tables and streams as its `Effect` says,
or it accepts a request, is a step of the cleaning layer, or stops the process.
-/

set_option autoImplicit false

namespace WealthFinder.Ingestion

variable {config : IngestionConfig} {state after : IngestionState} {index : Nat}
  {task next : CrawlTask}

/-! ## Effects -/

/-- What a task's turn does outside of the task. -/
inductive Effect where
  | quiet
  | drew (id : UUID)
  | logged (row : CrawlErrorRow)
  | stored (row : RawNewsRow)
  | announced (rawId : UUID) (stream : StreamGroup MessageId RawIdField)
  | signalled (signal : CompletedSignal)

namespace Effect

def apply (state : IngestionState) : Effect → IngestionState
  | .quiet => state
  | .drew id => { state with drawn := id :: state.drawn }
  | .logged row =>
      { state with world := { state.world with errorLog := row :: state.world.errorLog } }
  | .stored row =>
      { state with world := state.world.store row, cleaner := state.storeRaw row }
  | .announced rawId stream =>
      { state with
        world := { state.world with inserted := rawId :: state.world.inserted }
        cleaner := { state.cleaner with stream := stream } }
  | .signalled signal =>
      { state with world := { state.world with completed := signal :: state.world.completed } }

/-- What the database and the streams accept. -/
def Accepted (state : IngestionState) : Effect → Prop
  | .drew id => id ∉ state.drawn
  | .stored row => ¬ Taken state.world row
  | .announced rawId stream =>
      ∃ messageId, state.cleaner.stream.add messageId (.uuid rawId) = some stream
  | _ => True

@[simp] theorem apply_tasks (effect : Effect) : (effect.apply state).tasks = state.tasks := by
  cases effect <;> rfl

end Effect

/-! ## One task -/

/-- The turns of a task with their effects. -/
inductive TaskTurn (config : IngestionConfig) (state : IngestionState) :
    CrawlTask → CrawlTask → Effect → Prop where
  | started {task : CrawlTask} (stage : task.stage = .discovering)
      (targets : List (CrawlTarget task.sourceName)) :
      TaskTurn config state task (task.startWorkers config state.world.loggedUrls targets) .quiet
  | opened {task : CrawlTask} (stage : task.stage = .discovering) (entries : List FeedEntry) :
      TaskTurn config state task (task.readsOn entries []) .quiet
  | failedFatally {task : CrawlTask} (stage : task.stage = .discovering) (text : String) :
      TaskTurn config state task (task.failsFatally text) .quiet
  | discoveryFailed {task : CrawlTask} (stage : task.stage = .discovering) (text : String) :
      TaskTurn config state task (task.fails text) .quiet
  | read {task : CrawlTask} {entry : FeedEntry} {rest : List FeedEntry}
      {found more : List ArticleItem} (stage : task.stage = .reading (entry :: rest) found)
      (taken : more = found ∨ more = found ++ (processEntry entry).toList) :
      TaskTurn config state task (task.readsOn rest more) .quiet
  | readFailed {task : CrawlTask} {entries : List FeedEntry} {found : List ArticleItem}
      (stage : task.stage = .reading entries found) (text : String) :
      TaskTurn config state task (task.fails text) .quiet
  | worked {task : CrawlTask}
      {crawl moved : FanOutState (CrawlTarget task.sourceName) StockCodeMetadata}
      (running : task.crawl = some crawl) (action : CrawlAction) (own : action.isOwn = true)
      (stepped : fanOutStep config.crawl (articleSource config.libraries task.sourceName)
        { crawl with errorLog := state.world.loggedUrls } action = some moved) :
      TaskTurn config state task { task with crawl := some moved } .quiet
  | gathered {task : CrawlTask}
      {crawl : FanOutState (CrawlTarget task.sourceName) StockCodeMetadata}
      (stage : task.stage = .gathering) (running : task.crawl = some crawl)
      (returned : crawl.gather = .returned) :
      TaskTurn config state task
        { task with stage := .persisting crawl.result.failures crawl.result.successes } .quiet
  | gatherFailed {task : CrawlTask} (stage : task.stage = .gathering) (text : String) :
      TaskTurn config state task (task.fails text) .quiet
  | begunFailure {task : CrawlTask} {failure : CrawlFailItem} {failures : List CrawlFailItem}
      {successes : List ArticleItem} {row : CrawlErrorRow}
      (stage : task.stage = .persisting (failure :: failures) successes) (draw : Draw)
      (made : row = task.errorRow failure draw) :
      TaskTurn config state task
        { task with
          stage := firstAttempt config.dbMaxRetry (.savingFailure row 1 failures successes)
            (.persisting failures successes) }
        (.drew draw.id)
  | begunSuccess {task : CrawlTask} {item : ArticleItem} {rest : List ArticleItem}
      {row : RawNewsRow} (stage : task.stage = .persisting [] (item :: rest)) (draw : Draw)
      (made : ∃ rawHash extraMetadata, row = task.rawRow item draw rawHash extraMetadata) :
      TaskTurn config state task
        { task with
          stage := firstAttempt config.dbMaxRetry (.inserting row 1 rest) (.persisting [] rest) }
        (.drew draw.id)
  | unhashed {task : CrawlTask} {item : ArticleItem} {rest : List ArticleItem}
      (stage : task.stage = .persisting [] (item :: rest)) (id : UUID) :
      TaskTurn config state task { task with stage := .persisting [] rest } (.drew id)
  | undumped {task : CrawlTask} {item : ArticleItem} {rest : List ArticleItem}
      (stage : task.stage = .persisting [] (item :: rest)) (id : UUID) (text : String) :
      TaskTurn config state task (task.fails text) (.drew id)
  | concluded {task : CrawlTask} (stage : task.stage = .persisting [] []) :
      TaskTurn config state task
        { task with stage := .completing ⟨task.executionId, .success, none⟩ false } .quiet
  | saved {task : CrawlTask} {row : CrawlErrorRow} {attempt : Nat}
      {failures : List CrawlFailItem} {successes : List ArticleItem} {later : TaskStage}
      {effect : Effect} (stage : task.stage = .savingFailure row attempt failures successes)
      (goesTo : later = .persisting failures successes ∨
        ((attempt : Int) ≠ config.dbMaxRetry ∧
          later = .savingFailure row (attempt + 1) failures successes))
      (does : effect = .quiet ∨ effect = .logged row) :
      TaskTurn config state task { task with stage := later } effect
  | inserted {task : CrawlTask} {row : RawNewsRow} {attempt : Nat}
      {successes : List ArticleItem} {later : TaskStage} {effect : Effect}
      (stage : task.stage = .inserting row attempt successes)
      (goesTo : later = .persisting [] successes ∨
        ((attempt : Int) ≠ config.dbMaxRetry ∧ later = .inserting row (attempt + 1) successes))
      (does : effect = .quiet ∨ effect = .stored row) :
      TaskTurn config state task { task with stage := later } effect
  | replied {task : CrawlTask} {row : RawNewsRow} {attempt : Nat}
      {successes : List ArticleItem}
      (stage : task.stage = .inserting row attempt successes) :
      TaskTurn config state task { task with stage := .announcing row.rawId successes }
        (.stored row)
  | announced {task : CrawlTask} {rawId : UUID} {successes : List ArticleItem}
      (stage : task.stage = .announcing rawId successes)
      (stream : StreamGroup MessageId RawIdField) :
      TaskTurn config state task { task with stage := .persisting [] successes }
        (.announced rawId stream)
  | notAnnounced {task : CrawlTask} {rawId : UUID} {successes : List ArticleItem}
      (stage : task.stage = .announcing rawId successes) :
      TaskTurn config state task { task with stage := .persisting [] successes } .quiet
  | completed {task : CrawlTask} {signal : CompletedSignal} {handled : Bool} {effect : Effect}
      (stage : task.stage = .completing signal handled)
      (does : effect = .quiet ∧ handled = true ∨ effect = .signalled signal) :
      TaskTurn config state task { task with stage := .ended } effect
  | completionFailed {task : CrawlTask} {signal : CompletedSignal} {effect : Effect}
      (stage : task.stage = .completing signal false)
      (does : effect = .quiet ∨ effect = .signalled signal) (text : String) :
      TaskTurn config state task (task.fails text) effect

/-- The task at `index` takes a turn. -/
structure Turning (config : IngestionConfig) (state after : IngestionState) (index : Nat)
    (task next : CrawlTask) (effect : Effect) : Prop where
  found : state.tasks[index]? = some task
  turn : TaskTurn config state task next effect
  accepted : effect.Accepted state
  after : after = (effect.apply state).setTask index next

inductive IngestionCases (config : IngestionConfig) (state : IngestionState) :
    IngestionState → Prop where
  | accepted (executionId : String) (sourceName : CrawlSourceName) :
      IngestionCases config state
        { state with tasks := state.tasks ++ [⟨executionId, sourceName, none, .discovering⟩] }
  | turned {after : IngestionState} {index : Nat} {task next : CrawlTask} {effect : Effect}
      (turning : Turning config state after index task next effect) :
      IngestionCases config state after
  | cleaned {cleaner : State} (action : Action) (own : action.isCleaning = true)
      (stepped : step config.clean state.cleaner action = some cleaner) :
      IngestionCases config state { state with cleaner := cleaner }
  | crashed : IngestionCases config state state.crash

/-! ## Turns that write nothing -/

theorem resumeDiscovery_turn {discovery : Discovery}
    (resumed : task.resumeDiscovery config state.world.loggedUrls discovery = some next) :
    TaskTurn config state task next .quiet := by
  unfold CrawlTask.resumeDiscovery at resumed
  split at resumed
  · rename_i stage
    obtain ⟨found, -, rfl⟩ := Option.map_eq_some_iff.mp resumed
    cases found with
    | error raised =>
        cases raised with
        | fatal text => exact .failedFatally stage text
        | raised text => exact .discoveryFailed stage text
    | ok found =>
        cases found with
        | targets targets => exact .started stage targets
        | entries entries => exact .opened stage entries
  · cases resumed

theorem resumeReading_turn {raised : Option String}
    (resumed : task.resumeReading state.world.loggedUrls raised = some next) :
    TaskTurn config state task next .quiet := by
  unfold CrawlTask.resumeReading at resumed
  split at resumed
  · rename_i stage
    cases raised with
    | some text =>
        cases resumed
        exact .readFailed stage text
    | none =>
        cases resumed
        refine .read stage ?_
        split
        · exact Or.inl rfl
        · exact Or.inr rfl
  · cases resumed

theorem resumeWorker_turn {action : CrawlAction}
    (resumed : task.resumeWorker config state.world.loggedUrls action = some next) :
    TaskTurn config state task next .quiet := by
  unfold CrawlTask.resumeWorker at resumed
  split at resumed
  · rename_i own
    obtain ⟨crawl, running, resumed⟩ := Option.bind_eq_some_iff.mp resumed
    obtain ⟨moved, stepped, rfl⟩ := Option.map_eq_some_iff.mp resumed
    exact .worked running action own stepped
  · cases resumed

theorem resumeGather_turn (resumed : task.resumeGather = some next) :
    TaskTurn config state task next .quiet := by
  unfold CrawlTask.resumeGather at resumed
  split at resumed
  · rename_i crawl stage running
    cases gather : crawl.gather with
    | running =>
        rw [gather] at resumed
        cases resumed
    | returned =>
        rw [gather] at resumed
        cases resumed
        exact .gathered stage running gather
    | raised text =>
        rw [gather] at resumed
        cases resumed
        exact .gatherFailed stage text
  · cases resumed

theorem conclude_turn (resumed : task.conclude = some next) :
    TaskTurn config state task next .quiet := by
  unfold CrawlTask.conclude at resumed
  split at resumed
  · rename_i stage
    cases resumed
    exact .concluded stage
  · cases resumed

theorem turn_turned {move : CrawlTask → Option CrawlTask}
    (turns : ∀ task next, move task = some next → TaskTurn config state task next .quiet)
    (stepped : state.turn index move = some after) : IngestionCases config state after := by
  obtain ⟨task, found, stepped⟩ := Option.bind_eq_some_iff.mp stepped
  obtain ⟨next, moved, rfl⟩ := Option.map_eq_some_iff.mp stepped
  exact .turned ⟨found, turns task next moved, trivial, rfl⟩

theorem beginItem_turn {draw : Draw} (begun : task.beginItem config draw = some next) :
    TaskTurn config state task next (.drew draw.id) := by
  unfold CrawlTask.beginItem at begun
  split at begun
  · rename_i stage
    cases begun
    exact .begunFailure stage draw rfl
  · rename_i item rest stage
    cases begun
    unfold CrawlTask.beginSuccess
    cases config.tools.computeHash (config.tools.normalise item.title) with
    | none => exact .unhashed stage draw.id
    | some rawHash =>
        cases item.extraMetadata with
        | none => exact .begunSuccess stage draw ⟨rawHash, none, rfl⟩
        | some metadata =>
            simp only
            cases config.tools.dumps metadata with
            | none => exact .undumped stage draw.id draw.errorText
            | some json => exact .begunSuccess stage draw ⟨rawHash, some json, rfl⟩
  · cases begun

/-! ## Turns that write -/

theorem afterError_cases {maxRetry : Int} {attempt : Nat} {again swallowed : TaskStage}
    (error : OpError) :
    afterError maxRetry attempt again swallowed error = swallowed ∨
      ((attempt : Int) ≠ maxRetry ∧ afterError maxRetry attempt again swallowed error = again) := by
  cases error with
  | transient =>
      simp only [afterError]
      split
      · exact Or.inl rfl
      · rename_i more
        exact Or.inr ⟨more, rfl⟩
  | _ => exact Or.inl rfl

/-- An attempt of the INSERT into the error log leaves the tables alone or adds its row. -/
theorem attempted_insertCrawlError (row : CrawlErrorRow) (outcome : Attempt)
    (world : CrawlWorld) :
    stateAfter (attempted (insertCrawlError row) outcome world) = world ∨
      stateAfter (attempted (insertCrawlError row) outcome world) =
        { world with errorLog := row :: world.errorLog } := by
  have inserted : stateAfter (insertCrawlError row world) = world ∨
      stateAfter (insertCrawlError row world) =
        { world with errorLog := row :: world.errorLog } := by
    unfold insertCrawlError
    split
    · exact Or.inl rfl
    · exact Or.inr rfl
  cases outcome with
  | done => exact inserted
  | transient applied | permanent applied =>
      cases applied with
      | true => exact inserted
      | false => exact Or.inl rfl

theorem resumeSaving_turned {outcome : Attempt} (found : state.tasks[index]? = some task)
    (stepped : state.resumeSaving config index task outcome = some after) :
    IngestionCases config state after := by
  unfold IngestionState.resumeSaving at stepped
  split at stepped
  · rename_i row attempt failures successes stage
    cases stepped
    have tables := attempted_insertCrawlError row outcome state.world
    cases ended : attempted (insertCrawlError row) outcome state.world with
    | ok result world =>
        rw [ended] at tables
        rcases tables with same | added
        · cases same
          exact .turned ⟨found, .saved stage (Or.inl rfl) (Or.inl rfl), trivial, rfl⟩
        · cases added
          exact .turned ⟨found, .saved stage (Or.inl rfl) (Or.inr rfl), trivial, rfl⟩
    | error error world =>
        rw [ended] at tables
        rcases tables with same | added
        · cases same
          exact .turned ⟨found, .saved stage (afterError_cases error) (Or.inl rfl), trivial, rfl⟩
        · cases added
          exact .turned ⟨found, .saved stage (afterError_cases error) (Or.inr rfl), trivial, rfl⟩
  · cases stepped

theorem resumeInserting_turned {outcome : Attempt} (found : state.tasks[index]? = some task)
    (stepped : state.resumeInserting config index task outcome = some after) :
    IngestionCases config state after := by
  unfold IngestionState.resumeInserting at stepped
  split at stepped
  · rename_i row attempt successes stage
    cases stepped
    by_cases taken : Taken state.world row
    · have kept : ¬ (outcome.applied = true ∧ ¬ Taken state.world row) := fun both => both.2 taken
      simp only [if_neg kept]
      rcases attempted_taken taken outcome with nothing | ⟨error, raised⟩
      · rw [nothing]
        exact .turned ⟨found, .inserted stage (Or.inl rfl) (Or.inl rfl), trivial, rfl⟩
      · rw [raised]
        exact .turned ⟨found, .inserted stage (afterError_cases error) (Or.inl rfl), trivial, rfl⟩
    · have stored := insertRawNews_free taken
      cases outcome with
      | done =>
          have replies : attempted (insertRawNews row) .done state.world =
              .ok (some row.rawId) (state.world.store row) := stored
          rw [replies, if_pos ⟨rfl, taken⟩]
          exact .turned ⟨found, .replied stage, taken, rfl⟩
      | transient applied =>
          cases applied with
          | true =>
              have lost : attempted (insertRawNews row) (.transient true) state.world =
                  .error .transient (state.world.store row) := by
                simp only [attempted, stored, if_true, stateAfter]
              rw [lost, if_pos ⟨rfl, taken⟩]
              exact .turned ⟨found, .inserted stage (afterError_cases .transient) (Or.inr rfl),
                taken, rfl⟩
          | false =>
              exact .turned ⟨found, .inserted stage (afterError_cases .transient) (Or.inl rfl),
                trivial, rfl⟩
      | permanent applied =>
          cases applied with
          | true =>
              have lost : attempted (insertRawNews row) (.permanent true) state.world =
                  .error .connectionOrInterface (state.world.store row) := by
                simp only [attempted, stored, if_true, stateAfter]
              rw [lost, if_pos ⟨rfl, taken⟩]
              exact .turned ⟨found, .inserted stage (Or.inl rfl) (Or.inr rfl), taken, rfl⟩
          | false =>
              exact .turned ⟨found, .inserted stage (Or.inl rfl) (Or.inl rfl), trivial, rfl⟩
  · cases stepped

theorem resumeAnnouncing_turned {outcome : Attempt} {messageId : MessageId}
    (found : state.tasks[index]? = some task)
    (stepped : state.resumeAnnouncing index task outcome messageId = some after) :
    IngestionCases config state after := by
  unfold IngestionState.resumeAnnouncing at stepped
  split at stepped
  · rename_i rawId successes stage
    simp only at stepped
    split at stepped
    · obtain ⟨stream, added, rfl⟩ := Option.map_eq_some_iff.mp stepped
      exact .turned ⟨found, .announced stage stream, ⟨messageId, added⟩, rfl⟩
    · cases stepped
      exact .turned ⟨found, .notAnnounced stage, trivial, rfl⟩
  · cases stepped

theorem resumeCompleting_turned {outcome : Attempt} {text : String}
    (found : state.tasks[index]? = some task)
    (stepped : state.resumeCompleting index task outcome text = some after) :
    IngestionCases config state after := by
  unfold IngestionState.resumeCompleting at stepped
  split at stepped
  · rename_i signal handled stage
    cases stepped
    cases handled with
    | true =>
        rw [if_pos (Or.inr rfl)]
        cases applied : outcome.applied with
        | true => exact .turned ⟨found, .completed stage (Or.inr rfl), trivial, rfl⟩
        | false => exact .turned ⟨found, .completed stage (Or.inl ⟨rfl, rfl⟩), trivial, rfl⟩
    | false =>
        by_cases done : outcome = .done
        · subst done
          exact .turned ⟨found, .completed stage (Or.inr rfl), trivial, rfl⟩
        · have raised : ¬ (outcome = .done ∨ false = true) := by
            rintro (answered | impossible)
            · exact done answered
            · cases impossible
          rw [if_neg raised]
          cases applied : outcome.applied with
          | true =>
              exact .turned ⟨found, .completionFailed stage (Or.inr rfl) text, trivial, rfl⟩
          | false =>
              exact .turned ⟨found, .completionFailed stage (Or.inl rfl) text, trivial, rfl⟩
  · cases stepped

theorem ingestionStep_cases {action : IngestionAction}
    (stepped : ingestionStep config state action = some after) :
    IngestionCases config state after := by
  cases action with
  | accept executionId sourceName =>
      cases stepped
      exact .accepted executionId sourceName
  | discovered index discovery =>
      exact turn_turned (fun _ _ resumed => resumeDiscovery_turn resumed) stepped
  | entryRead index raised =>
      exact turn_turned (fun _ _ resumed => resumeReading_turn resumed) stepped
  | worked index action =>
      exact turn_turned (fun _ _ resumed => resumeWorker_turn resumed) stepped
  | gathered index => exact turn_turned (fun _ _ resumed => resumeGather_turn resumed) stepped
  | begun index draw =>
      simp only [ingestionStep, IngestionState.begin] at stepped
      split at stepped
      · cases stepped
      · rename_i fresh
        obtain ⟨moved, turned, rfl⟩ := Option.map_eq_some_iff.mp stepped
        obtain ⟨task, found, turned⟩ := Option.bind_eq_some_iff.mp turned
        obtain ⟨next, begun, rfl⟩ := Option.map_eq_some_iff.mp turned
        exact .turned ⟨found, beginItem_turn begun, fresh, rfl⟩
  | concluded index => exact turn_turned (fun _ _ resumed => conclude_turn resumed) stepped
  | saved index outcome =>
      obtain ⟨task, found, stepped⟩ := Option.bind_eq_some_iff.mp stepped
      exact resumeSaving_turned found stepped
  | inserted index outcome =>
      obtain ⟨task, found, stepped⟩ := Option.bind_eq_some_iff.mp stepped
      exact resumeInserting_turned found stepped
  | announced index outcome messageId =>
      obtain ⟨task, found, stepped⟩ := Option.bind_eq_some_iff.mp stepped
      exact resumeAnnouncing_turned found stepped
  | completed index outcome text =>
      obtain ⟨task, found, stepped⟩ := Option.bind_eq_some_iff.mp stepped
      exact resumeCompleting_turned found stepped
  | cleaned action =>
      simp only [ingestionStep] at stepped
      split at stepped
      · rename_i own
        obtain ⟨cleaner, moved, rfl⟩ := Option.map_eq_some_iff.mp stepped
        exact .cleaned action own moved
      · cases stepped
  | crash =>
      cases stepped
      exact .crashed

end WealthFinder.Ingestion
