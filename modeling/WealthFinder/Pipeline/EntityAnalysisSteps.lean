import WealthFinder.Pipeline.EntityAnalysis

/-!
# What a step of the entity analysis layer can do

A step either moves one task, or leaves every task where it is, up to new tasks that
have not started and loops that drop theirs.
-/

set_option autoImplicit false

namespace WealthFinder.Pipeline

namespace AnalysisStage

/-- The article that is in flight because of the task. -/
def holds : AnalysisStage → Option UUID
  | .acquireSlot cleanedId | .fetchCleanedNews cleanedId | .fetchExistingIds cleanedId _
  | .runSkill cleanedId _ | .persistEntities cleanedId _ _ | .publish cleanedId _ _
  | .ack cleanedId => some cleanedId
  | .route | .publishDeadLetter _ | .ackDeadLetter _ | .done => none

/-- What the task has read of its article. -/
def article : AnalysisStage → Option CleanedNews
  | .fetchExistingIds _ article | .runSkill _ article | .persistEntities _ article _ =>
      some article
  | .acquireSlot _ | .fetchCleanedNews _ | .publish _ _ _ | .ack _ | .route
  | .publishDeadLetter _ | .ackDeadLetter _ | .done => none

end AnalysisStage

@[simp] theorem announce_holds (cleanedId : UUID) (ids : List UUID) :
    (announce cleanedId ids).holds = some cleanedId := by
  cases ids <;> rfl

@[simp] theorem announce_article (cleanedId : UUID) (ids : List UUID) :
    (announce cleanedId ids).article = none := by
  cases ids <;> rfl

/-! ## Tasks of the loops -/

namespace AnalysisState

variable {state : AnalysisState}

theorem taskAt_of_loops {other : AnalysisState} (same : other.loops = state.loops)
    (loop : LoopName) (index : Nat) : other.taskAt loop index = state.taskAt loop index := by
  simp only [taskAt, same]

theorem taskAt_setLoop_ne {loop other : LoopName} (apart : other ≠ loop)
    (work : AnalysisLoop) (index : Nat) :
    (state.setLoop loop work).taskAt other index = state.taskAt other index := by
  simp [taskAt, setLoop, apart]

theorem taskAt_setLoop_batch (loop : LoopName) (tasks : List AnalysisTask) (index : Nat) :
    (state.setLoop loop (.batch tasks)).taskAt loop index = tasks[index]? := by
  simp [taskAt, setLoop]

theorem taskAt_setTask_self {loop : LoopName} {index : Nat} {old task : AnalysisTask}
    (found : state.taskAt loop index = some old) :
    (state.setTask loop index task).taskAt loop index = some task := by
  cases work : state.loops loop with
  | waiting => simp [taskAt, work] at found
  | pendingRange claimed => simp [taskAt, work] at found
  | batch tasks =>
      have inside : tasks[index]? = some old := by simpa [taskAt, work] using found
      have bound : index < tasks.length := (List.getElem?_eq_some_iff.mp inside).1
      simp only [setTask, work, taskAt_setLoop_batch, List.getElem?_set_self bound]

theorem taskAt_setTask_ne {loop other : LoopName} {index position : Nat}
    (apart : (other, position) ≠ (loop, index)) (task : AnalysisTask) :
    (state.setTask loop index task).taskAt other position = state.taskAt other position := by
  cases work : state.loops loop with
  | waiting => simp only [setTask, work]
  | pendingRange claimed => simp only [setTask, work]
  | batch tasks =>
      by_cases same : other = loop
      · subst same
        have moved : index ≠ position := by
          intro equal
          exact apart (by rw [equal])
        simp only [setTask, work, taskAt_setLoop_batch, List.getElem?_set_ne moved]
        simp only [taskAt, work]
      · simp only [setTask, work, taskAt_setLoop_ne same]

theorem setTask_eq (loop : LoopName) (index : Nat) (task : AnalysisTask) :
    ∃ loops, state.setTask loop index task = { state with loops := loops } := by
  cases work : state.loops loop with
  | waiting => exact ⟨state.loops, by simp only [setTask, work]⟩
  | pendingRange claimed => exact ⟨state.loops, by simp only [setTask, work]⟩
  | batch tasks =>
      refine ⟨Function.update state.loops loop (.batch (tasks.set index task)), ?_⟩
      simp only [setTask, work, setLoop]

end AnalysisState

/-! ## One task -/

/-- What one run of a message's task to its next await can do. -/
inductive StageStep (config : EntityAnalysisConfig) (message : StreamMessage)
    (state : AnalysisState) : AnalysisStage → AnalysisState → AnalysisStage → Prop where
  | exhausted (out : message.outOfRetries config.maxRetry = true) :
      StageStep config message state .route state (.publishDeadLetter .retriesExhausted)
  | malformed (invalid : message.fields.getValidId = none) :
      StageStep config message state .route state (.publishDeadLetter .malformed)
  | skipped : StageStep config message state .route state .done
  | taken {cleanedId : UUID} (valid : message.fields.getValidId = some cleanedId)
      (ready : state.hkStockList ≠ 0) (free : state.processing cleanedId = false) :
      StageStep config message state .route (state.add cleanedId) (.acquireSlot cleanedId)
  | deadLettered {reason : DeadLetterReason} (letter : DeadLetter)
      (copied : letter.messageId = message.id ∧ letter.fields = message.fields)
      {stage : AnalysisStage}
      (next : stage = .ackDeadLetter reason ∨ stage = .publishDeadLetter reason ∨
        stage = .done) :
      StageStep config message state (.publishDeadLetter reason)
        { state with deadLetters := letter :: state.deadLetters } stage
  | deadLetterFailed {reason : DeadLetterReason} {stage : AnalysisStage}
      (next : stage = .publishDeadLetter reason ∨ stage = .done) :
      StageStep config message state (.publishDeadLetter reason) state stage
  | deadLetterAcked {reason : DeadLetterReason} (answer : Answer) :
      StageStep config message state (.ackDeadLetter reason)
        (state.ack answer message.id) .done
  | slotAcquired {cleanedId : UUID} :
      StageStep config message state (.acquireSlot cleanedId)
        { state with slots := state.slots - 1 } (.fetchCleanedNews cleanedId)
  | notFound {cleanedId : UUID} (absent : state.articles cleanedId = none) :
      StageStep config message state (.fetchCleanedNews cleanedId) state (.ack cleanedId)
  | fetched {cleanedId : UUID} {article : CleanedNews}
      (found : state.articles cleanedId = some article) :
      StageStep config message state (.fetchCleanedNews cleanedId) state
        (.fetchExistingIds cleanedId article)
  | notStored {cleanedId : UUID} {article : CleanedNews} {order : RowOrder EntityEvent}
      (existing : fetchEntityEventIdsBySourceUrl order state.entityEvents
        article.sourceUrl = []) :
      StageStep config message state (.fetchExistingIds cleanedId article) state
        (.runSkill cleanedId article)
  | stored {cleanedId : UUID} {article : CleanedNews} {order : RowOrder EntityEvent}
      {entityEventId : UUID} {rest : List UUID}
      (existing : fetchEntityEventIdsBySourceUrl order state.entityEvents
        article.sourceUrl = entityEventId :: rest) :
      StageStep config message state (.fetchExistingIds cleanedId article) state
        (.publish cleanedId entityEventId rest)
  | analysed {cleanedId : UUID} {article : CleanedNews} (entities : List VerifiedEntity) :
      StageStep config message state (.runSkill cleanedId article) state
        (.persistEntities cleanedId article entities)
  | persisted {cleanedId : UUID} {article : CleanedNews} {entities : List VerifiedEntity}
      {stamps : List EntityStamp} {rows : List EntityEvent} {ids : List UUID}
      (stored : persistEntities article state.entityEvents (entities.zip stamps) =
        some (rows, ids)) :
      StageStep config message state (.persistEntities cleanedId article entities)
        { state with entityEvents := rows } (announce cleanedId ids)
  | persistedUnseen {cleanedId : UUID} {article : CleanedNews}
      {entities : List VerifiedEntity} {stamps : List EntityStamp}
      {rows : List EntityEvent} {ids : List UUID}
      (stored : persistEntities article state.entityEvents (entities.zip stamps) =
        some (rows, ids)) :
      StageStep config message state (.persistEntities cleanedId article entities)
        ({ state with entityEvents := rows }.release cleanedId) .done
  | published {cleanedId entityEventId : UUID} {rest : List UUID} :
      StageStep config message state (.publish cleanedId entityEventId rest)
        { state with completed := entityEventId :: state.completed }
        (announce cleanedId rest)
  | publishedUnseen {cleanedId entityEventId : UUID} {rest : List UUID} :
      StageStep config message state (.publish cleanedId entityEventId rest)
        { state with completed := entityEventId :: state.completed }
        (.publish cleanedId entityEventId rest)
  | publishedFailed {cleanedId entityEventId : UUID} {rest : List UUID} :
      StageStep config message state (.publish cleanedId entityEventId rest)
        ({ state with completed := entityEventId :: state.completed }.release cleanedId)
        .done
  | retried {cleanedId entityEventId : UUID} {rest : List UUID} :
      StageStep config message state (.publish cleanedId entityEventId rest) state
        (.publish cleanedId entityEventId rest)
  | acked {cleanedId : UUID} (answer : Answer) :
      StageStep config message state (.ack cleanedId)
        ((state.ack answer message.id).release cleanedId) .done
  | failed {stage : AnalysisStage} {cleanedId : UUID}
      (holding : stage.holds = some cleanedId) :
      StageStep config message state stage (state.release cleanedId) .done

section Stage
variable {config : EntityAnalysisConfig} {message : StreamMessage}
  {state after : AnalysisState} {next : AnalysisStage} {reply : AnalysisReply}

theorem routeCleaned_step (state : AnalysisState) (message : StreamMessage) :
    StageStep config message state .route (routeCleaned config state message).1
      (routeCleaned config state message).2 := by
  unfold routeCleaned
  split
  · rename_i out
    exact .exhausted out
  · split
    · rename_i invalid
      exact .malformed invalid
    · rename_i cleanedId valid
      split
      · exact .skipped
      · rename_i ready
        split
        · exact .skipped
        · rename_i free
          exact .taken valid ready (by simpa using free)

theorem resumeDeadLetter_step (state : AnalysisState) (reason : DeadLetterReason) :
    StageStep config message state (.publishDeadLetter reason)
      (resumeDeadLetter state message reason reply).1
      (resumeDeadLetter state message reason reply).2 := by
  have copied : (message.deadLetter reply.now).messageId = message.id ∧
      (message.deadLetter reply.now).fields = message.fields := ⟨rfl, rfl⟩
  unfold resumeDeadLetter
  cases reply.answer with
  | done => exact .deadLettered _ copied (Or.inl rfl)
  | unreachable applied =>
      cases applied with
      | true => exact .deadLettered _ copied (Or.inr (Or.inl rfl))
      | false => exact .deadLetterFailed (Or.inl rfl)
  | failed applied =>
      cases applied with
      | true => exact .deadLettered _ copied (Or.inr (Or.inr rfl))
      | false => exact .deadLetterFailed (Or.inr rfl)

theorem resumePersistEntities_step (state : AnalysisState) (cleanedId : UUID)
    (article : CleanedNews) (entities : List VerifiedEntity) :
    StageStep config message state (.persistEntities cleanedId article entities)
      (resumePersistEntities state cleanedId article entities reply).1
      (resumePersistEntities state cleanedId article entities reply).2 := by
  unfold resumePersistEntities
  split
  · exact .failed rfl
  · rename_i rows ids stored
    cases reply.answer with
    | done => exact .persisted stored
    | unreachable applied =>
        cases applied with
        | true => exact .persistedUnseen stored
        | false => exact .failed rfl
    | failed applied =>
        cases applied with
        | true => exact .persistedUnseen stored
        | false => exact .failed rfl

theorem resumePublish_step (state : AnalysisState) (cleanedId entityEventId : UUID)
    (rest : List UUID) (answer : Answer) :
    StageStep config message state (.publish cleanedId entityEventId rest)
      (resumePublish state cleanedId entityEventId rest answer).1
      (resumePublish state cleanedId entityEventId rest answer).2 := by
  unfold resumePublish
  cases answer with
  | done => exact .published
  | unreachable applied =>
      cases applied with
      | true => exact .publishedUnseen
      | false => exact .retried
  | failed applied =>
      cases applied with
      | true => exact .publishedFailed
      | false => exact .failed rfl

theorem resumeStage_step {stage : AnalysisStage}
    (resumed : resumeStage state message reply stage = some (after, next)) :
    StageStep config message state stage after next := by
  cases stage with
  | route => simp [resumeStage] at resumed
  | publishDeadLetter reason =>
      have moved := @resumeDeadLetter_step config message reply state reason
      rwa [Option.some.inj resumed] at moved
  | ackDeadLetter reason =>
      cases resumed
      exact .deadLetterAcked reply.answer
  | acquireSlot cleanedId =>
      simp only [resumeStage] at resumed
      split at resumed
      · cases resumed
        exact .slotAcquired
      · cases resumed
  | fetchCleanedNews cleanedId =>
      simp only [resumeStage] at resumed
      split at resumed
      · split at resumed
        · rename_i absent
          cases resumed
          exact .notFound absent
        · rename_i article found
          cases resumed
          exact .fetched found
      · cases resumed
        exact .failed rfl
  | fetchExistingIds cleanedId article =>
      simp only [resumeStage] at resumed
      split at resumed
      · split at resumed
        · rename_i existing
          cases resumed
          exact .notStored existing
        · rename_i entityEventId rest existing
          cases resumed
          exact .stored existing
      · cases resumed
        exact .failed rfl
  | runSkill cleanedId article =>
      simp only [resumeStage] at resumed
      split at resumed
      · cases resumed
        exact .analysed reply.entities
      · cases resumed
        exact .failed rfl
  | persistEntities cleanedId article entities =>
      simp only [resumeStage] at resumed
      split at resumed
      · have moved :=
          @resumePersistEntities_step config message reply state cleanedId article entities
        rwa [Option.some.inj resumed] at moved
      · cases resumed
  | publish cleanedId entityEventId rest =>
      have moved :=
        @resumePublish_step config message state cleanedId entityEventId rest reply.answer
      rwa [Option.some.inj resumed] at moved
  | ack cleanedId =>
      cases resumed
      exact .acked reply.answer
  | done => simp [resumeStage] at resumed

end Stage

/-! ## What one task changes for the others -/

@[simp] theorem AnalysisState.ack_fields (state : AnalysisState) (answer : Answer)
    (messageId : MessageId) : (state.ack answer messageId).stream.fields =
      state.stream.fields := by
  simp [AnalysisState.ack]

section Insert
variable {article : CleanedNews} {rows final : List EntityEvent}

theorem insertEntityEvent_cases {row : EntityEvent} {inserted : Bool}
    (done : insertEntityEvent rows row = some (final, inserted)) :
    (final = rows ∧ inserted = false) ∨ (final = rows ++ [row] ∧ inserted = true) := by
  simp only [insertEntityEvent] at done
  split at done
  · cases done
    exact Or.inl ⟨rfl, rfl⟩
  · split at done
    · cases done
    · cases done
      exact Or.inr ⟨rfl, rfl⟩

/-- A row that was not there before is one of the article, and its id is returned. -/
theorem persistEntities_new {pairs : List (VerifiedEntity × EntityStamp)} {ids : List UUID}
    (stored : persistEntities article rows pairs = some (final, ids)) :
    ∀ row ∈ final, row ∈ rows ∨ (row.sourceId = article.cleanedId ∧
      row.sourceUrl = article.sourceUrl ∧ row.entityEventId ∈ ids) := by
  induction pairs generalizing rows ids with
  | nil =>
      cases stored
      exact fun _ member => Or.inl member
  | cons pair rest ih =>
      obtain ⟨entity, stamp⟩ := pair
      obtain ⟨⟨mid, inserted⟩, first, mapped⟩ := Option.bind_eq_some_iff.mp stored
      obtain ⟨⟨last, later⟩, restStored, equal⟩ := Option.map_eq_some_iff.mp mapped
      cases equal
      intro row member
      rcases insertEntityEvent_cases first with ⟨rfl, rfl⟩ | ⟨rfl, rfl⟩
      · exact ih restStored row member
      · rcases ih restStored row member with old | ⟨source, url, listed⟩
        · rcases List.mem_append.mp old with old | new
          · exact Or.inl old
          · rw [List.mem_singleton.mp new]
            exact Or.inr ⟨rfl, rfl, List.mem_cons_self⟩
        · exact Or.inr ⟨source, url, List.mem_cons_of_mem _ listed⟩

end Insert

namespace StageStep

variable {config : EntityAnalysisConfig} {message : StreamMessage}
  {before after : AnalysisState} {stage next : AnalysisStage}
  (step : StageStep config message before stage after next)
include step

theorem loops : after.loops = before.loops := by
  cases step <;> rfl

/-- A task found after the step is the one that moved or was there before. -/
theorem taskAt_cases {loop other : LoopName} {index position : Nat} {task : AnalysisTask}
    (found : before.taskAt loop index = some ⟨message, stage⟩)
    (is : (after.setTask loop index ⟨message, next⟩).taskAt other position = some task) :
    ((other, position) = (loop, index) ∧ task = ⟨message, next⟩) ∨
      ((other, position) ≠ (loop, index) ∧ before.taskAt other position = some task) := by
  by_cases same : (other, position) = (loop, index)
  · cases same
    have foundAfter : after.taskAt loop index = some ⟨message, stage⟩ := by
      rw [AnalysisState.taskAt_of_loops step.loops]
      exact found
    rw [AnalysisState.taskAt_setTask_self foundAfter, Option.some.injEq] at is
    exact Or.inl ⟨rfl, is.symm⟩
  · rw [AnalysisState.taskAt_setTask_ne same,
      AnalysisState.taskAt_of_loops step.loops] at is
    exact Or.inr ⟨same, is⟩

theorem articles : after.articles = before.articles := by
  cases step <;> rfl

theorem hkStockList : after.hkStockList = before.hkStockList := by
  cases step <;> rfl

theorem fields : after.stream.fields = before.stream.fields := by
  cases step with
  | deadLetterAcked answer => exact before.ack_fields answer message.id
  | acked answer => exact before.ack_fields answer message.id
  | _ => rfl

theorem completed : ∀ id ∈ before.completed, id ∈ after.completed := by
  intro id member
  cases step with
  | published => exact List.mem_cons_of_mem _ member
  | publishedUnseen => exact List.mem_cons_of_mem _ member
  | publishedFailed => exact List.mem_cons_of_mem _ member
  | _ => exact member

/-- The dead letters of a step are copies of the task's message. -/
theorem deadLetters : after.deadLetters = before.deadLetters ∨ ∃ letter reason,
    stage = .publishDeadLetter reason ∧ after.deadLetters = letter :: before.deadLetters ∧
      letter.messageId = message.id ∧ letter.fields = message.fields := by
  cases step with
  | deadLettered letter copied _ =>
      exact Or.inr ⟨letter, _, rfl, rfl, copied.1, copied.2⟩
  | _ => exact Or.inl rfl

theorem rows : after.entityEvents = before.entityEvents ∨
    ∃ cleanedId article entities stamps ids,
      stage = .persistEntities cleanedId article entities ∧
      persistEntities article before.entityEvents (entities.zip stamps) =
        some (after.entityEvents, ids) := by
  cases step with
  | persisted stored => exact Or.inr ⟨_, _, _, _, _, rfl, stored⟩
  | persistedUnseen stored => exact Or.inr ⟨_, _, _, _, _, rfl, stored⟩
  | _ => exact Or.inl rfl

/-- A step acknowledges its own message, and only where it says so. -/
theorem stream : after.stream = before.stream ∨
    ((∃ answer, after.stream = ackApplied before.stream answer message.id) ∧
      ((∃ reason, stage = .ackDeadLetter reason) ∨ ∃ cleanedId, stage = .ack cleanedId)) := by
  cases step with
  | deadLetterAcked answer => exact Or.inr ⟨⟨answer, rfl⟩, Or.inl ⟨_, rfl⟩⟩
  | acked answer => exact Or.inr ⟨⟨answer, rfl⟩, Or.inr ⟨_, rfl⟩⟩
  | _ => exact Or.inl rfl

/-- A task goes on with its article, takes one that was free, or lets go. -/
theorem holding {cleanedId : UUID} (holds : next.holds = some cleanedId) :
    (stage.holds = some cleanedId ∧ after.processing = before.processing) ∨
      (stage = .route ∧ message.fields.getValidId = some cleanedId ∧
        before.processing cleanedId = false ∧ before.hkStockList ≠ 0 ∧
        next = .acquireSlot cleanedId ∧
        after.processing = Function.update before.processing cleanedId true) := by
  cases step with
  | taken valid ready free =>
      cases holds
      exact Or.inr ⟨rfl, valid, free, ready, rfl, rfl⟩
  | deadLettered letter copied outcome =>
      rcases outcome with rfl | rfl | rfl <;> cases holds
  | deadLetterFailed outcome => rcases outcome with rfl | rfl <;> cases holds
  | persisted stored =>
      rw [announce_holds] at holds
      exact Or.inl ⟨holds, rfl⟩
  | published =>
      rw [announce_holds] at holds
      exact Or.inl ⟨holds, rfl⟩
  | _ => first
    | exact Or.inl ⟨holds, rfl⟩
    | cases holds

theorem processing {cleanedId : UUID} (inFlight : before.processing cleanedId = true)
    (apart : stage.holds ≠ some cleanedId) : after.processing cleanedId = true := by
  have released : ∀ other : UUID, some other ≠ some cleanedId →
      Function.update before.processing other false cleanedId = true := by
    intro other different
    have distinct : cleanedId ≠ other := by
      intro same
      exact different (by rw [same])
    rw [Function.update_of_ne distinct]
    exact inFlight
  cases step with
  | taken valid ready free =>
      simp only [AnalysisState.add, Function.update_apply]
      split
      · rfl
      · exact inFlight
  | persistedUnseen stored => exact released _ apart
  | publishedFailed => exact released _ apart
  | acked answer => exact released _ apart
  | failed holding => exact released _ (holding ▸ apart)
  | _ => exact inFlight

end StageStep

/-! ## Steps that move no task -/

/-- What a step that moves no task leaves of the state. -/
structure Background (before after : AnalysisState) : Prop where
  entityEvents : after.entityEvents = before.entityEvents
  completed : after.completed = before.completed
  deadLetters : after.deadLetters = before.deadLetters
  articles : ∀ cleanedId article, before.articles cleanedId = some article →
    after.articles cleanedId = some article
  keyed : ∀ cleanedId article, after.articles cleanedId = some article →
    before.articles cleanedId = some article ∨ article.cleanedId = cleanedId
  stream : before.stream.Extends after.stream
  tasks : ∀ loop index task, after.taskAt loop index = some task →
    (before.taskAt loop index = some task ∧ after.processing = before.processing ∧
        (after.hkStockList = 0 → before.hkStockList = 0)) ∨
      (task.stage = .route ∧ after.stream.fields task.message.id = some task.message.fields)

theorem routeBatch_taskAt {state : AnalysisState} {loop : LoopName} {index : Nat}
    {messages : List StreamMessage} {task : AnalysisTask}
    (found : (state.setLoop loop (routeBatch messages)).taskAt loop index = some task) :
    task.stage = .route ∧ task.message ∈ messages := by
  cases messages with
  | nil => simp [routeBatch, AnalysisState.taskAt, AnalysisState.setLoop] at found
  | cons message rest =>
      rw [routeBatch, AnalysisState.taskAt_setLoop_batch] at found
      have member := List.mem_of_getElem? found
      obtain ⟨other, listed, rfl⟩ := List.mem_map.mp member
      exact ⟨rfl, listed⟩

theorem idle_taskAt {state : AnalysisState} {loop : LoopName} {index : Nat}
    {work : AnalysisLoop} (idle : ∀ tasks, work ≠ .batch tasks) {task : AnalysisTask}
    (found : (state.setLoop loop work).taskAt loop index = some task) : False := by
  cases work with
  | waiting => simp [AnalysisState.taskAt, AnalysisState.setLoop] at found
  | pendingRange claimed => simp [AnalysisState.taskAt, AnalysisState.setLoop] at found
  | batch tasks => exact idle tasks rfl

/-- A loop is given other work, which starts with messages of the stream if with any. -/
theorem background_setLoop {before : AnalysisState} {stream : SignalStream}
    (extended : before.stream.Extends stream) {loop : LoopName} {work : AnalysisLoop}
    (started : ∀ index task,
      ({ before with stream := stream }.setLoop loop work).taskAt loop index = some task →
      task.stage = .route ∧ stream.fields task.message.id = some task.message.fields) :
    Background before ({ before with stream := stream }.setLoop loop work) where
  entityEvents := rfl
  completed := rfl
  deadLetters := rfl
  articles := fun _ _ found => found
  keyed := fun _ _ found => Or.inl found
  stream := extended
  tasks := by
    intro other index task found
    by_cases same : other = loop
    · subst same
      exact Or.inr (started index task found)
    · rw [AnalysisState.taskAt_setLoop_ne same] at found
      exact Or.inl ⟨found, rfl, fun empty => empty⟩

/-- No task is left. -/
theorem background_idle {before after : AnalysisState}
    (entityEvents : after.entityEvents = before.entityEvents)
    (completed : after.completed = before.completed)
    (deadLetters : after.deadLetters = before.deadLetters)
    (articles : after.articles = before.articles) (stream : after.stream = before.stream)
    (idle : ∀ loop, after.loops loop = .waiting) : Background before after where
  entityEvents := entityEvents
  completed := completed
  deadLetters := deadLetters
  articles := by
    intro _ _ found
    rw [articles]
    exact found
  keyed := by
    intro _ _ found
    rw [articles] at found
    exact Or.inl found
  stream := by
    rw [stream]
    exact before.stream.extends_refl
  tasks := by
    intro loop index task found
    simp [AnalysisState.taskAt, idle loop] at found

theorem cancelTask_eq (state : AnalysisState) (task : AnalysisTask) :
    ∃ processing slots, cancelTask state task =
      { state with processing := processing, slots := slots } := by
  unfold cancelTask
  cases task.stage <;> exact ⟨_, _, rfl⟩

theorem foldl_cancelTask_eq (state : AnalysisState) (tasks : List AnalysisTask) :
    ∃ processing slots, tasks.foldl cancelTask state =
      { state with processing := processing, slots := slots } := by
  induction tasks generalizing state with
  | nil => exact ⟨state.processing, state.slots, rfl⟩
  | cons task rest ih =>
      obtain ⟨processing, slots, cancelled⟩ := cancelTask_eq state task
      obtain ⟨laterProcessing, laterSlots, folded⟩ := ih (cancelTask state task)
      refine ⟨laterProcessing, laterSlots, ?_⟩
      rw [List.foldl_cons, folded, cancelled]

theorem cancelAnalysisLoop_eq (state : AnalysisState) (loop : LoopName) :
    ∃ processing slots, cancelAnalysisLoop state loop = { state with
      processing := processing
      slots := slots
      loops := Function.update state.loops loop .waiting } := by
  unfold cancelAnalysisLoop
  cases state.loops loop with
  | waiting => exact ⟨_, _, rfl⟩
  | pendingRange claimed => exact ⟨_, _, rfl⟩
  | batch tasks =>
      obtain ⟨processing, slots, folded⟩ := foldl_cancelTask_eq state tasks
      refine ⟨processing, slots, ?_⟩
      simp only [folded, AnalysisState.setLoop]

/-! ## The whole step -/

inductive AnalysisMove (config : EntityAnalysisConfig) (before : AnalysisState)
    (action : AnalysisAction) : AnalysisState → Prop where
  | background {after : AnalysisState} (kept : Background before after) :
      AnalysisMove config before action after
  | task {loop : LoopName} {index : Nat} {message : StreamMessage}
      {stage next : AnalysisStage} {mid : AnalysisState}
      (found : before.taskAt loop index = some ⟨message, stage⟩)
      (moved : StageStep config message before stage mid next)
      (routed : stage = .route → action = .route loop index) :
      AnalysisMove config before action (mid.setTask loop index ⟨message, next⟩)

section Step
variable {config : EntityAnalysisConfig} {before after : AnalysisState}

theorem readStep_background {count : Nat} {lost : Bool}
    (moved : analysisStep config before (.read count lost) = some after) :
    Background before after := by
  simp only [analysisStep] at moved
  split at moved
  · cases moved
    refine background_setLoop (before.stream.extends_readGroup count) ?_
    intro index task found
    cases lost with
    | true => exact (idle_taskAt (by simp) found).elim
    | false =>
        obtain ⟨stage, member⟩ := routeBatch_taskAt found
        have known := readFrom_known member
        exact ⟨stage, known⟩
  · cases moved

theorem autoclaimStep_background {ids : List MessageId} {lost : Bool}
    (moved : analysisStep config before (.autoclaim ids lost) = some after) :
    Background before after := by
  simp only [analysisStep] at moved
  split at moved
  · cases moved
    refine background_setLoop (before.stream.extends_autoclaim ids) ?_
    intro index task found
    split at found
    · exact (idle_taskAt (by simp) found).elim
    · exact (idle_taskAt (by simp) found).elim
  · cases moved

theorem resumeReclaimStep_background {answer : Answer}
    (moved : analysisStep config before (.resumeReclaim answer) = some after) :
    Background before after := by
  simp only [analysisStep] at moved
  split at moved
  · rename_i claimed pendingRange
    cases moved
    refine background_setLoop before.stream.extends_refl ?_
    intro index task found
    split at found
    · obtain ⟨stage, member⟩ := routeBatch_taskAt found
      exact ⟨stage, reclaimed_known member⟩
    · exact (idle_taskAt (by simp) found).elim
  · cases moved
  · cases moved

theorem endBatchStep_background {loop : LoopName}
    (moved : analysisStep config before (.endBatch loop) = some after) :
    Background before after := by
  simp only [analysisStep] at moved
  split at moved
  · split at moved
    · cases moved
      refine background_setLoop before.stream.extends_refl ?_
      intro index task found
      exact (idle_taskAt (by simp) found).elim
    · cases moved
  · cases moved
  · cases moved

theorem stopStep_background
    (moved : analysisStep config before .stop = some after) : Background before after := by
  obtain ⟨processing, slots, consumer⟩ := cancelAnalysisLoop_eq before .consumer
  obtain ⟨laterProcessing, laterSlots, reclaim⟩ :=
    cancelAnalysisLoop_eq (cancelAnalysisLoop before .consumer) .reclaim
  cases moved
  rw [reclaim, consumer]
  refine background_idle rfl rfl rfl rfl rfl ?_
  intro loop
  cases loop <;> simp

theorem analysisStep_cases {action : AnalysisAction}
    (moved : analysisStep config before action = some after) :
    AnalysisMove config before action after := by
  cases action with
  | storeArticle article =>
      simp only [analysisStep] at moved
      split at moved
      · cases moved
      · rename_i absent
        cases moved
        refine .background ⟨rfl, rfl, rfl, ?_, ?_, before.stream.extends_refl, ?_⟩
        · intro cleanedId other found
          have apart : cleanedId ≠ article.cleanedId := by
            intro same
            rw [same] at found
            simp [found] at absent
          simpa [apart] using found
        · intro cleanedId other found
          by_cases same : cleanedId = article.cleanedId
          · subst same
            have equal : article = other := by simpa using found
            exact Or.inr (by rw [equal])
          · exact Or.inl (by simpa [same] using found)
        · intro loop index task found
          exact Or.inl ⟨found, rfl, fun empty => empty⟩
  | publish messageId fields =>
      obtain ⟨stream, added, rfl⟩ := Option.map_eq_some_iff.mp moved
      refine .background ⟨rfl, rfl, rfl, fun _ _ found => found,
        fun _ _ found => Or.inl found, before.stream.extends_add added, ?_⟩
      intro loop index task found
      exact Or.inl ⟨found, rfl, fun empty => empty⟩
  | read count lost => exact .background (readStep_background moved)
  | autoclaim ids lost => exact .background (autoclaimStep_background moved)
  | resumeReclaim answer => exact .background (resumeReclaimStep_background moved)
  | route loop index =>
      simp only [analysisStep] at moved
      split at moved
      · rename_i message found
        cases moved
        exact .task found (routeCleaned_step before message) (fun _ => rfl)
      · cases moved
  | resume loop index reply =>
      simp only [analysisStep] at moved
      obtain ⟨⟨message, stage⟩, found, mapped⟩ := Option.bind_eq_some_iff.mp moved
      obtain ⟨⟨mid, next⟩, resumed, rfl⟩ := Option.map_eq_some_iff.mp mapped
      refine .task found (resumeStage_step resumed) ?_
      intro routing
      subst routing
      cases resumed
  | endBatch loop => exact .background (endBatchStep_background moved)
  | refreshStockList entries =>
      cases moved
      refine .background ⟨rfl, rfl, rfl, fun _ _ found => found,
        fun _ _ found => Or.inl found, before.stream.extends_refl, ?_⟩
      intro loop index task found
      refine Or.inl ⟨found, rfl, ?_⟩
      intro empty
      by_cases none : entries = 0
      · simpa [none] using empty
      · simp [none] at empty
  | stop => exact .background (stopStep_background moved)
  | crash =>
      cases moved
      exact .background (background_idle rfl rfl rfl rfl rfl fun _ => rfl)

end Step

end WealthFinder.Pipeline
