import WealthFinder.Pipeline.EntityAnalysisSteps

/-!
# Delivery of the EntityEvents

The rows of an article are announced by the task that stored them or by a later
delivery of one of the article's messages.  Which of its rows are still to be
announced is known at every stage of a task, because an article is in flight in one
task at a time.
-/

set_option autoImplicit false

namespace WealthFinder.Pipeline

open Machine

/-- The rows of the article are announced, up to those in `rest`. -/
def AnnouncedBut (state : AnalysisState) (cleanedId : UUID) (rest : List UUID) : Prop :=
  ∀ row ∈ state.entityEvents, row.sourceId = cleanedId →
    row.entityEventId ∈ state.completed ∨ row.entityEventId ∈ rest

def NotStored (state : AnalysisState) (cleanedId : UUID) : Prop :=
  ∀ row ∈ state.entityEvents, row.sourceId ≠ cleanedId

def DeadLettered (state : AnalysisState) (messageId : MessageId) : Prop :=
  ∃ letter ∈ state.deadLetters, letter.messageId = messageId

/-! ## What a task knows -/

def AnalysisStageSound (state : AnalysisState) (message : StreamMessage) : AnalysisStage → Prop
  | .ackDeadLetter _ => DeadLettered state message.id
  | .runSkill cleanedId _ => NotStored state cleanedId
  | .persistEntities cleanedId _ _ => NotStored state cleanedId
  | .publish cleanedId entityEventId rest =>
      AnnouncedBut state cleanedId (entityEventId :: rest)
  | .ack cleanedId => AnnouncedBut state cleanedId []
  | .route | .publishDeadLetter _ | .acquireSlot _ | .fetchCleanedNews _
  | .fetchExistingIds _ _ | .done => True

structure AnalysisTaskSound (state : AnalysisState) (task : AnalysisTask) : Prop where
  known : state.stream.fields task.message.id = some task.message.fields
  valid : ∀ cleanedId, task.stage.holds = some cleanedId →
    task.message.fields.getValidId = some cleanedId
  inFlight : ∀ cleanedId, task.stage.holds = some cleanedId →
    state.processing cleanedId = true
  read : ∀ cleanedId article, task.stage.holds = some cleanedId →
    task.stage.article = some article → state.articles cleanedId = some article
  rows : AnalysisStageSound state task.message task.stage

structure AnalysisSound (state : AnalysisState) : Prop where
  keyed : ∀ cleanedId article, state.articles cleanedId = some article →
    article.cleanedId = cleanedId
  made : ∀ row ∈ state.entityEvents, ∃ article,
    state.articles row.sourceId = some article ∧ row.sourceUrl = article.sourceUrl
  tasks : ∀ loop index task, state.taskAt loop index = some task → AnalysisTaskSound state task
  alone : ∀ loop index task other position second cleanedId,
    state.taskAt loop index = some task → state.taskAt other position = some second →
    task.stage.holds = some cleanedId → second.stage.holds = some cleanedId →
    (loop, index) = (other, position)

theorem analysisSound_initial (config : EntityAnalysisConfig) :
    AnalysisSound (AnalysisState.initial config) where
  keyed := by intro _ _ found; cases found
  made := by intro _ member; cases member
  tasks := by intro _ _ _ found; cases found
  alone := by intro _ _ _ _ _ _ _ found; cases found

theorem analysisStageSound_announce {state : AnalysisState} {message : StreamMessage}
    {cleanedId : UUID} {ids : List UUID} :
    AnalysisStageSound state message (announce cleanedId ids) ↔ AnnouncedBut state cleanedId ids := by
  cases ids <;> rfl

theorem analysisTaskSound_loops {state : AnalysisState} {loops : LoopName → AnalysisLoop}
    {task : AnalysisTask} (sound : AnalysisTaskSound state task) :
    AnalysisTaskSound { state with loops := loops } task :=
  ⟨sound.known, sound.valid, sound.inFlight, sound.read, sound.rows⟩

theorem analysisTaskSound_route {state : AnalysisState} {task : AnalysisTask}
    (starts : task.stage = .route)
    (known : state.stream.fields task.message.id = some task.message.fields) :
    AnalysisTaskSound state task := by
  obtain ⟨message, stage⟩ := task
  cases starts
  constructor
  · exact known
  · intro cleanedId held
    cases held
  · intro cleanedId held
    cases held
  · intro cleanedId article held
    cases held
  · trivial

theorem analysisStageSound_of_same {before after : AnalysisState}
    (entityEvents : after.entityEvents = before.entityEvents)
    (completed : after.completed = before.completed)
    (deadLetters : after.deadLetters = before.deadLetters) {message : StreamMessage}
    {stage : AnalysisStage} (sound : AnalysisStageSound before message stage) :
    AnalysisStageSound after message stage := by
  cases stage <;>
    simp only [AnalysisStageSound, AnnouncedBut, NotStored, DeadLettered, entityEvents, completed,
      deadLetters] at sound ⊢
  all_goals exact sound

/-! ## A step of the task -/

section Moved
variable {config : EntityAnalysisConfig} {message : StreamMessage}
  {before after : AnalysisState} {stage next : AnalysisStage}

/-- A new row is one of the article whose entities the task stores. -/
theorem StageStep.newRow (step : StageStep config message before stage after next)
    (sound : AnalysisSound before) (task : AnalysisTaskSound before ⟨message, stage⟩)
    {row : EntityEvent} (member : row ∈ after.entityEvents) :
    row ∈ before.entityEvents ∨ ∃ article entities,
      stage = .persistEntities row.sourceId article entities ∧
        before.articles row.sourceId = some article ∧
        row.sourceUrl = article.sourceUrl := by
  rcases step.rows with same | ⟨cleanedId, article, entities, stamps, ids, rfl, stored⟩
  · exact Or.inl (same ▸ member)
  · rcases persistEntities_new stored row member with old | ⟨source, url, -⟩
    · exact Or.inl old
    · have read := task.read cleanedId article rfl rfl
      have ofArticle : row.sourceId = cleanedId := by
        rw [source, sound.keyed cleanedId article read]
      subst ofArticle
      exact Or.inr ⟨article, entities, rfl, read, url⟩

theorem mem_fetchEntityEventIds {order : RowOrder EntityEvent} {rows : List EntityEvent}
    {row : EntityEvent} (member : row ∈ rows) :
    row.entityEventId ∈ fetchEntityEventIdsBySourceUrl order rows row.sourceUrl := by
  apply List.mem_map_of_mem
  rw [(order.perm _).mem_iff]
  exact List.mem_filter.mpr ⟨member, by simp⟩

theorem StageStep.read (step : StageStep config message before stage after next)
    (task : AnalysisTaskSound before ⟨message, stage⟩) {cleanedId : UUID} {article : CleanedNews}
    (holds : next.holds = some cleanedId) (reads : next.article = some article) :
    before.articles cleanedId = some article := by
  cases step with
  | fetched found =>
      cases holds
      cases reads
      exact found
  | notStored existing => exact task.read cleanedId article holds reads
  | analysed entities => exact task.read cleanedId article holds reads
  | deadLettered letter copied outcome =>
      rcases outcome with rfl | rfl | rfl <;> cases holds
  | deadLetterFailed outcome => rcases outcome with rfl | rfl <;> cases holds
  | persisted stored =>
      rw [announce_article] at reads
      cases reads
  | published =>
      rw [announce_article] at reads
      cases reads
  | _ => cases reads

/-- What the next stage knows of the article's rows. -/
theorem StageStep.stageSound (step : StageStep config message before stage after next)
    (sound : AnalysisSound before) (task : AnalysisTaskSound before ⟨message, stage⟩) :
    AnalysisStageSound after message next := by
  have rows := task.rows
  cases step with
  | deadLettered letter copied outcome =>
      rcases outcome with rfl | rfl | rfl
      · exact ⟨letter, List.mem_cons_self, copied.1⟩
      · trivial
      · trivial
  | deadLetterFailed outcome => rcases outcome with rfl | rfl <;> trivial
  | notFound absent =>
      intro row member ofArticle
      obtain ⟨article, found, -⟩ := sound.made row member
      rw [ofArticle, absent] at found
      cases found
  | @notStored cleanedId article order existing =>
      intro row member ofArticle
      obtain ⟨other, found, url⟩ := sound.made row member
      have read := task.read cleanedId article rfl rfl
      rw [ofArticle, read] at found
      cases found
      have listed := @mem_fetchEntityEventIds order _ _ member
      rw [url, existing] at listed
      cases listed
  | @stored cleanedId article order entityEventId rest existing =>
      intro row member ofArticle
      obtain ⟨other, found, url⟩ := sound.made row member
      have read := task.read cleanedId article rfl rfl
      rw [ofArticle, read] at found
      cases found
      have listed := @mem_fetchEntityEventIds order _ _ member
      rw [url, existing] at listed
      exact Or.inr listed
  | analysed entities => exact rows
  | persisted stored =>
      rw [analysisStageSound_announce]
      intro row member ofArticle
      rcases persistEntities_new stored row member with old | ⟨-, -, listed⟩
      · exact absurd ofArticle (rows row old)
      · exact Or.inr listed
  | published =>
      rw [analysisStageSound_announce]
      intro row member ofArticle
      rcases rows row member ofArticle with announced | listed
      · exact Or.inl (List.mem_cons_of_mem _ announced)
      · rcases List.mem_cons.mp listed with first | later
        · exact Or.inl (first ▸ List.mem_cons_self)
        · exact Or.inr later
  | publishedUnseen =>
      intro row member ofArticle
      rcases rows row member ofArticle with announced | listed
      · exact Or.inl (List.mem_cons_of_mem _ announced)
      · exact Or.inr listed
  | retried => exact rows
  | _ => trivial

theorem StageStep.taskSound (step : StageStep config message before stage after next)
    (sound : AnalysisSound before) (task : AnalysisTaskSound before ⟨message, stage⟩) :
    AnalysisTaskSound after ⟨message, next⟩ where
  known := by
    rw [step.fields]
    exact task.known
  valid := by
    intro cleanedId holds
    rcases step.holding holds with ⟨held, -⟩ | ⟨-, valid, -⟩
    · exact task.valid cleanedId held
    · exact valid
  inFlight := by
    intro cleanedId holds
    rcases step.holding holds with ⟨held, same⟩ | ⟨-, -, -, -, -, updated⟩
    · rw [same]
      exact task.inFlight cleanedId held
    · simp [updated]
  read := by
    intro cleanedId article holds reads
    rw [step.articles]
    exact step.read task holds reads
  rows := step.stageSound sound task

/-! ## The other tasks -/

theorem StageStep.announcedBut (step : StageStep config message before stage after next)
    (sound : AnalysisSound before) (task : AnalysisTaskSound before ⟨message, stage⟩)
    {cleanedId : UUID} (apart : stage.holds ≠ some cleanedId) {rest : List UUID}
    (announced : AnnouncedBut before cleanedId rest) : AnnouncedBut after cleanedId rest := by
  intro row member ofArticle
  rcases step.newRow sound task member with old | ⟨article, entities, persisting, -⟩
  · rcases announced row old ofArticle with done | listed
    · exact Or.inl (step.completed _ done)
    · exact Or.inr listed
  · rw [persisting, ofArticle] at apart
    exact absurd rfl apart

theorem StageStep.notStored_kept (step : StageStep config message before stage after next)
    (sound : AnalysisSound before) (task : AnalysisTaskSound before ⟨message, stage⟩)
    {cleanedId : UUID} (apart : stage.holds ≠ some cleanedId)
    (absent : NotStored before cleanedId) : NotStored after cleanedId := by
  intro row member ofArticle
  rcases step.newRow sound task member with old | ⟨article, entities, persisting, -⟩
  · exact absent row old ofArticle
  · rw [persisting, ofArticle] at apart
    exact absurd rfl apart

theorem StageStep.deadLettered_kept (step : StageStep config message before stage after next)
    {messageId : MessageId} (moved : DeadLettered before messageId) :
    DeadLettered after messageId := by
  obtain ⟨letter, member, same⟩ := moved
  rcases step.deadLetters with kept | ⟨other, reason, -, added, -⟩
  · exact ⟨letter, kept ▸ member, same⟩
  · exact ⟨letter, added ▸ List.mem_cons_of_mem other member, same⟩

theorem StageStep.otherTask (step : StageStep config message before stage after next)
    (sound : AnalysisSound before) (task : AnalysisTaskSound before ⟨message, stage⟩)
    {other : AnalysisTask} (soundOther : AnalysisTaskSound before other)
    (apart : ∀ cleanedId, other.stage.holds = some cleanedId →
      stage.holds ≠ some cleanedId) : AnalysisTaskSound after other where
  known := by
    rw [step.fields]
    exact soundOther.known
  valid := soundOther.valid
  inFlight := by
    intro cleanedId holds
    exact step.processing (soundOther.inFlight cleanedId holds) (apart cleanedId holds)
  read := by
    intro cleanedId article holds reads
    rw [step.articles]
    exact soundOther.read cleanedId article holds reads
  rows := by
    have rows := soundOther.rows
    cases other with
    | mk copy place =>
        cases place with
        | ackDeadLetter reason => exact step.deadLettered_kept rows
        | runSkill cleanedId article =>
            exact step.notStored_kept sound task (apart cleanedId rfl) rows
        | persistEntities cleanedId article entities =>
            exact step.notStored_kept sound task (apart cleanedId rfl) rows
        | publish cleanedId entityEventId rest =>
            exact step.announcedBut sound task (apart cleanedId rfl) rows
        | ack cleanedId => exact step.announcedBut sound task (apart cleanedId rfl) rows
        | _ => trivial

end Moved

/-! ## The invariant of every run -/

theorem AnalysisSound.setTask {config : EntityAnalysisConfig} {before mid : AnalysisState}
    {loop : LoopName} {index : Nat} {message : StreamMessage}
    {stage next : AnalysisStage} (sound : AnalysisSound before)
    (found : before.taskAt loop index = some ⟨message, stage⟩)
    (step : StageStep config message before stage mid next) :
    AnalysisSound (mid.setTask loop index ⟨message, next⟩) := by
  have task := sound.tasks loop index _ found
  have apartFrom : ∀ other position second, (other, position) ≠ (loop, index) →
      before.taskAt other position = some second → ∀ cleanedId,
      second.stage.holds = some cleanedId → stage.holds ≠ some cleanedId := by
    intro other position second apart foundSecond cleanedId holds held
    exact apart (sound.alone other position second loop index _ cleanedId foundSecond found
      holds held)
  have aloneNext : ∀ other position second cleanedId, (other, position) ≠ (loop, index) →
      before.taskAt other position = some second → second.stage.holds = some cleanedId →
      next.holds ≠ some cleanedId := by
    intro other position second cleanedId apart foundSecond holds holdsNext
    rcases step.holding holdsNext with ⟨held, -⟩ | ⟨-, -, free, -⟩
    · exact apartFrom other position second apart foundSecond cleanedId holds held
    · have inFlight := (sound.tasks other position second foundSecond).inFlight cleanedId holds
      rw [free] at inFlight
      cases inFlight
  obtain ⟨loops, moved⟩ := @AnalysisState.setTask_eq mid loop index ⟨message, next⟩
  constructor
  · intro cleanedId article known
    rw [moved] at known
    exact sound.keyed cleanedId article (step.articles ▸ known)
  · intro row member
    rw [moved] at member ⊢
    rcases step.newRow sound task member with old | ⟨article, entities, -, read, url⟩
    · obtain ⟨article, read, url⟩ := sound.made row old
      exact ⟨article, by rw [step.articles]; exact read, url⟩
    · exact ⟨article, by rw [step.articles]; exact read, url⟩
  · intro other position second foundSecond
    rcases step.taskAt_cases found foundSecond with ⟨-, rfl⟩ | ⟨apart, foundBefore⟩
    · rw [moved]
      exact analysisTaskSound_loops (step.taskSound sound task)
    · rw [moved]
      exact analysisTaskSound_loops (step.otherTask sound task
        (sound.tasks other position second foundBefore)
        (apartFrom other position second apart foundBefore))
  · intro first place one second position two cleanedId foundOne foundTwo holdsOne holdsTwo
    rcases step.taskAt_cases found foundOne with ⟨hereOne, rfl⟩ | ⟨apartOne, beforeOne⟩
    · rcases step.taskAt_cases found foundTwo with ⟨hereTwo, rfl⟩ | ⟨apartTwo, beforeTwo⟩
      · rw [hereOne, hereTwo]
      · exact absurd holdsOne
          (aloneNext second position two cleanedId apartTwo beforeTwo holdsTwo)
    · rcases step.taskAt_cases found foundTwo with ⟨hereTwo, rfl⟩ | ⟨apartTwo, beforeTwo⟩
      · exact absurd holdsTwo (aloneNext first place one cleanedId apartOne beforeOne holdsOne)
      · exact sound.alone first place one second position two cleanedId beforeOne beforeTwo
          holdsOne holdsTwo

theorem AnalysisSound.background {before after : AnalysisState}
    (sound : AnalysisSound before) (kept : Background before after) :
    AnalysisSound after where
  keyed := by
    intro cleanedId article known
    rcases kept.keyed cleanedId article known with old | new
    · exact sound.keyed cleanedId article old
    · exact new
  made := by
    intro row member
    rw [kept.entityEvents] at member
    obtain ⟨article, found, url⟩ := sound.made row member
    exact ⟨article, kept.articles _ _ found, url⟩
  tasks := by
    intro loop index task found
    rcases kept.tasks loop index task found with ⟨old, same, -⟩ | ⟨started, known⟩
    · have held := sound.tasks loop index task old
      refine ⟨kept.stream.fields _ _ held.known, held.valid, ?_, ?_, ?_⟩
      · intro cleanedId holds
        rw [same]
        exact held.inFlight cleanedId holds
      · intro cleanedId article holds reads
        exact kept.articles _ _ (held.read cleanedId article holds reads)
      · exact analysisStageSound_of_same kept.entityEvents kept.completed kept.deadLetters held.rows
    · exact analysisTaskSound_route started known
  alone := by
    intro loop index task other position second cleanedId foundTask foundSecond holdsTask
      holdsSecond
    rcases kept.tasks loop index task foundTask with ⟨oldTask, -⟩ | ⟨started, -⟩
    · rcases kept.tasks other position second foundSecond with ⟨oldSecond, -⟩ | ⟨started, -⟩
      · exact sound.alone loop index task other position second cleanedId oldTask oldSecond
          holdsTask holdsSecond
      · rw [started] at holdsSecond
        cases holdsSecond
    · rw [started] at holdsTask
      cases holdsTask

theorem AnalysisSound.step {config : EntityAnalysisConfig} {before after : AnalysisState}
    {action : AnalysisAction} (sound : AnalysisSound before)
    (moved : analysisStep config before action = some after) : AnalysisSound after := by
  cases analysisStep_cases moved with
  | background kept => exact sound.background kept
  | task found step routed => exact sound.setTask found step

theorem analysisSound_of_trace {config : EntityAnalysisConfig}
    {allowed : AnalysisState → AnalysisAction → Prop} {past : List AnalysisState}
    {state : AnalysisState}
    (trace : Trace (analysisMachine config) allowed past state) : AnalysisSound state := by
  apply trace.invariant
  · intro initial starts
    cases starts
    exact analysisSound_initial config
  · intro before action after sound _ moved
    exact sound.step moved

/-! ## Every row is announced or on record -/

/-- The message can still be delivered, or a copy of it is a dead letter. -/
def OnRecord (state : AnalysisState) (messageId : MessageId) : Prop :=
  (state.stream.pending messageId).isSome ∨ DeadLettered state messageId

/-- A message of the article satisfies the predicate. -/
def SomeMessage (state : AnalysisState) (cleanedId : UUID)
    (property : MessageId → Prop) : Prop :=
  ∃ messageId fields, state.stream.fields messageId = some fields ∧
    fields.getValidId = some cleanedId ∧ property messageId

/-- A copy of a message of the article is routed only while the message is pending. -/
def RoutedPending (cleanedId : UUID) (state : AnalysisState) (action : AnalysisAction) :
    Prop :=
  ∀ loop index message, action = .route loop index →
    state.taskAt loop index = some ⟨message, .route⟩ →
    message.fields.getValidId = some cleanedId → (state.stream.pending message.id).isSome

structure ArticleSound (cleanedId : UUID) (state : AnalysisState) : Prop where
  held : ∀ loop index task, state.taskAt loop index = some task →
    task.stage.holds = some cleanedId → OnRecord state task.message.id
  accounted : ∀ row ∈ state.entityEvents, row.sourceId = cleanedId →
    row.entityEventId ∈ state.completed ∨ SomeMessage state cleanedId (OnRecord state)

theorem articleSound_initial (config : EntityAnalysisConfig) (cleanedId : UUID) :
    ArticleSound cleanedId (AnalysisState.initial config) where
  held := by intro _ _ _ found; cases found
  accounted := by intro _ member; cases member

section Recorded
variable {config : EntityAnalysisConfig} {message : StreamMessage}
  {before after : AnalysisState} {stage next : AnalysisStage}

theorem StageStep.next_of_ack {cleanedId : UUID}
    (step : StageStep config message before (.ack cleanedId) after next) :
    next = .done := by
  cases step <;> rfl

/-- Only a task that is through with its article takes a message off the record. -/
theorem StageStep.onRecord (step : StageStep config message before stage after next)
    (task : AnalysisTaskSound before ⟨message, stage⟩) {messageId : MessageId}
    (recorded : OnRecord before messageId) :
    OnRecord after messageId ∨ (messageId = message.id ∧ ∃ cleanedId, stage = .ack cleanedId) := by
  rcases recorded with pending | moved
  · rcases step.stream with same | ⟨⟨answer, acked⟩, place⟩
    · exact Or.inl (Or.inl (same ▸ pending))
    · by_cases own : messageId = message.id
      · subst own
        rcases place with ⟨reason, rfl⟩ | ⟨cleanedId, rfl⟩
        · exact Or.inl (Or.inr (step.deadLettered_kept task.rows))
        · exact Or.inr ⟨rfl, cleanedId, rfl⟩
      · refine Or.inl (Or.inl ?_)
        rw [acked, ackApplied]
        split
        · simpa [StreamGroup.ack, own] using pending
        · exact pending
  · exact Or.inl (Or.inr (step.deadLettered_kept moved))

end Recorded

theorem ArticleSound.setTask {config : EntityAnalysisConfig} {before mid : AnalysisState}
    {action : AnalysisAction} {loop : LoopName} {index : Nat} {message : StreamMessage}
    {stage next : AnalysisStage} {cleanedId : UUID} (sound : AnalysisSound before)
    (article : ArticleSound cleanedId before)
    (permitted : RoutedPending cleanedId before action)
    (found : before.taskAt loop index = some ⟨message, stage⟩)
    (step : StageStep config message before stage mid next)
    (routed : stage = .route → action = .route loop index) :
    ArticleSound cleanedId (mid.setTask loop index ⟨message, next⟩) := by
  have task := sound.tasks loop index _ found
  -- the task that acknowledges the article's message has announced all of its rows
  have through : ∀ messageId fields, before.stream.fields messageId = some fields →
      fields.getValidId = some cleanedId → OnRecord before messageId →
      OnRecord mid messageId ∨ stage = .ack cleanedId := by
    intro messageId fields known valid recorded
    rcases step.onRecord task recorded with kept | ⟨rfl, other, rfl⟩
    · exact Or.inl kept
    · have own := task.known
      rw [known] at own
      cases own
      have same := task.valid other rfl
      rw [valid] at same
      cases same
      exact Or.inr rfl
  obtain ⟨loops, moved⟩ := @AnalysisState.setTask_eq mid loop index ⟨message, next⟩
  constructor
  · intro other position second foundSecond holds
    rcases step.taskAt_cases found foundSecond with ⟨-, rfl⟩ | ⟨apart, foundBefore⟩
    · rw [moved]
      have recorded : OnRecord before message.id := by
        rcases step.holding holds with ⟨held, -⟩ | ⟨starts, valid, -⟩
        · exact article.held loop index _ found held
        · subst starts
          exact Or.inl (permitted loop index message (routed rfl) found valid)
      rcases step.onRecord task recorded with kept | ⟨-, other, rfl⟩
      · exact kept
      · rw [step.next_of_ack] at holds
        cases holds
    · have soundSecond := sound.tasks other position second foundBefore
      rw [moved]
      rcases through second.message.id second.message.fields soundSecond.known
        (soundSecond.valid cleanedId holds) (article.held other position second foundBefore holds)
        with kept | rfl
      · exact kept
      · exact absurd (sound.alone other position second loop index _ cleanedId foundBefore
          found holds rfl) apart
  · intro row member ofArticle
    rw [moved] at member ⊢
    rcases step.newRow sound task member with old | ⟨made, entities, persisting, -⟩
    · rcases article.accounted row old ofArticle with announced | ⟨id, fields, known, valid, recorded⟩
      · exact Or.inl (step.completed _ announced)
      · rcases through id fields known valid recorded with kept | rfl
        · exact Or.inr ⟨id, fields, by rw [step.fields]; exact known, valid, kept⟩
        · rcases task.rows row old ofArticle with announced | listed
          · exact Or.inl (step.completed _ announced)
          · cases listed
    · subst persisting
      rw [ofArticle] at task found step
      have recorded := article.held loop index _ found rfl
      rcases step.onRecord task recorded with kept | ⟨-, other, acking⟩
      · exact Or.inr ⟨message.id, message.fields, by rw [step.fields]; exact task.known,
          task.valid cleanedId rfl, kept⟩
      · cases acking

theorem ArticleSound.background {before after : AnalysisState} {cleanedId : UUID}
    (article : ArticleSound cleanedId before) (kept : Background before after) :
    ArticleSound cleanedId after := by
  have recorded : ∀ messageId, OnRecord before messageId → OnRecord after messageId := by
    intro messageId held
    rcases held with pending | moved
    · exact Or.inl (kept.stream.pending messageId pending)
    · right
      rw [DeadLettered, kept.deadLetters]
      exact moved
  constructor
  · intro loop index task found holds
    rcases kept.tasks loop index task found with ⟨old, -⟩ | ⟨started, -⟩
    · exact recorded _ (article.held loop index task old holds)
    · rw [started] at holds
      cases holds
  · intro row member ofArticle
    rw [kept.entityEvents] at member
    rcases article.accounted row member ofArticle with announced | ⟨id, fields, known, valid, held⟩
    · exact Or.inl (kept.completed ▸ announced)
    · exact Or.inr ⟨id, fields, kept.stream.fields id fields known, valid, recorded id held⟩

theorem articleSound_of_trace {config : EntityAnalysisConfig} {cleanedId : UUID}
    {past : List AnalysisState} {state : AnalysisState}
    (trace : Trace (analysisMachine config) (RoutedPending cleanedId) past state) :
    ArticleSound cleanedId state := by
  have both : AnalysisSound state ∧ ArticleSound cleanedId state := by
    apply trace.invariant
    · intro initial starts
      cases starts
      exact ⟨analysisSound_initial config, articleSound_initial config cleanedId⟩
    · intro before action after held permitted moved
      obtain ⟨sound, article⟩ := held
      refine ⟨sound.step moved, ?_⟩
      cases analysisStep_cases moved with
      | background kept => exact article.background kept
      | task found step routed => exact article.setTask sound permitted found step routed
  exact both.2

/-- A stored EntityEvent is announced, or a message of its article is pending or has a
copy among the dead letters. -/
theorem entityEvent_announced_or_onRecord (config : EntityAnalysisConfig) (row : EntityEvent)
    {past : List AnalysisState} {state : AnalysisState}
    (trace : Trace (analysisMachine config) (RoutedPending row.sourceId) past state)
    (stored : row ∈ state.entityEvents) :
    row.entityEventId ∈ state.completed ∨
      SomeMessage state row.sourceId fun messageId =>
        (state.stream.pending messageId).isSome ∨
          ∃ letter ∈ state.deadLetters, letter.messageId = messageId :=
  (articleSound_of_trace trace).accounted row stored rfl

/-! ## Runs that lose the announcement -/

def sampleArticle : CleanedNews := ⟨1, "https://example.com/article", "HKEX", some 0⟩

def sampleEntity : VerifiedEntity := ⟨"HKEX", "00700", .earnings, none, .positive, 1⟩

def cleanedSignal (cleanedId : UUID) : SignalFields := ⟨some "1", .uuid cleanedId⟩

def analysisReply (answer : Answer) (entities : List VerifiedEntity) (ids : List UUID) :
    AnalysisReply :=
  ⟨answer, .stored EntityEvent, entities, ids.map fun id => ⟨id, 0⟩, 0⟩

/-- The loop's first task is routed and its next awaits are answered. -/
def analyse (loop : LoopName) (entities : List VerifiedEntity) (ids : List UUID)
    (answers : List Answer) : List AnalysisAction :=
  .route loop 0 :: answers.map fun answer => .resume loop 0 (analysisReply answer entities ids)

def deliver : List AnalysisAction :=
  [.storeArticle sampleArticle, .publish 7 (cleanedSignal 1), .refreshStockList 1,
    .read 10 false]

def reclaim : List AnalysisAction := [.autoclaim [7] false, .resumeReclaim .done]

/-- A crash after the commit, a redelivery that SADI does not answer, and a third
delivery, which is out of retries. -/
def outOfRetriesRun : List AnalysisAction :=
  deliver ++ analyse .consumer [sampleEntity] [11] (List.replicate 5 .done) ++
  [.crash, .refreshStockList 1] ++ reclaim ++
  analyse .reclaim [] [] [.done, .failed false] ++ [.endBatch .reclaim] ++ reclaim ++
  analyse .reclaim [] [] [.done, .done]

/-- A reclaimed copy is routed once the first delivery, which found no entity, is
acknowledged; the crash comes after its commit. -/
def staleCopyRun : List AnalysisAction :=
  deliver ++ analyse .consumer [] [] (List.replicate 5 .done) ++ reclaim ++
  [.resume .consumer 0 (analysisReply .done [] [])] ++
  analyse .reclaim [sampleEntity] [11] (List.replicate 5 .done) ++ [.crash]

structure DeliveryView where
  rows : List EntityEvent
  fields : MessageId → Option SignalFields
  completed : List UUID
  pending : Bool
  deadLetters : List MessageId

def deliveryView (state : AnalysisState) : DeliveryView :=
  ⟨state.entityEvents, state.stream.fields, state.completed,
    (state.stream.pending 7).isSome, state.deadLetters.map DeadLetter.messageId⟩

def sampleRow : EntityEvent := entityRow sampleArticle sampleEntity ⟨11, 0⟩

def onlySampleMessage : MessageId → Option SignalFields :=
  Function.update (fun _ => none) 7 (some (cleanedSignal 1))

theorem onlySampleMessage_known {messageId : MessageId} {fields : SignalFields}
    (known : onlySampleMessage messageId = some fields) : messageId = 7 := by
  by_contra other
  simp [onlySampleMessage, other] at known

/-- Out of retries, and through a copy routed late, a row loses its last pending
message unannounced. -/
theorem entityEvent_unannounced :
    (¬ ∀ past state row,
      Trace (analysisMachine defaultEntityAnalysisConfig) anyAction past state →
      row ∈ state.entityEvents → row.entityEventId ∈ state.completed ∨
        SomeMessage state row.sourceId fun messageId =>
          (state.stream.pending messageId).isSome) ∧
    ∃ past state, Trace (analysisMachine defaultEntityAnalysisConfig) anyAction past state ∧
      sampleRow ∈ state.entityEvents ∧ sampleRow.entityEventId ∉ state.completed ∧
      state.deadLetters = [] ∧
      ¬ SomeMessage state sampleRow.sourceId fun messageId =>
        (state.stream.pending messageId).isSome := by
  have lost : ∀ state letters, deliveryView state =
      ⟨[sampleRow], onlySampleMessage, [], false, letters⟩ →
      ¬ SomeMessage state sampleRow.sourceId fun messageId =>
        (state.stream.pending messageId).isSome := by
    intro state letters seen message
    obtain ⟨messageId, fields, known, -, pending⟩ := message
    have entries : state.stream.fields = onlySampleMessage :=
      congrArg DeliveryView.fields seen
    have settled : (state.stream.pending 7).isSome = false :=
      congrArg DeliveryView.pending seen
    rw [entries] at known
    simp [onlySampleMessage_known known, settled] at pending
  constructor
  · intro claim
    obtain ⟨past, state, trace, seen⟩ :=
      @Trace.of_run_view _ _ anyAction _ (analysisMachine defaultEntityAnalysisConfig)
        (fun _ _ => true) deliveryView ⟨[sampleRow], onlySampleMessage, [], false, [7]⟩
        (fun _ _ _ _ _ => trivial) _ rfl outOfRetriesRun rfl
    have rows : state.entityEvents = [sampleRow] := congrArg DeliveryView.rows seen
    have completed : state.completed = [] := congrArg DeliveryView.completed seen
    rcases claim past state sampleRow trace (by simp [rows]) with announced | message
    · simp [completed] at announced
    · exact lost state [7] seen message
  · obtain ⟨past, state, trace, seen⟩ :=
      @Trace.of_run_view _ _ anyAction _ (analysisMachine defaultEntityAnalysisConfig)
        (fun _ _ => true) deliveryView ⟨[sampleRow], onlySampleMessage, [], false, []⟩
        (fun _ _ _ _ _ => trivial) _ rfl staleCopyRun rfl
    have rows : state.entityEvents = [sampleRow] := congrArg DeliveryView.rows seen
    have completed : state.completed = [] := congrArg DeliveryView.completed seen
    have letters : state.deadLetters.map DeadLetter.messageId = [] :=
      congrArg DeliveryView.deadLetters seen
    exact ⟨past, state, trace, by simp [rows], by simp [completed], by simpa using letters,
      lost state [] seen⟩

def routedPendingCheck (cleanedId : UUID) (state : AnalysisState) : AnalysisAction → Bool
  | .route loop index =>
      match state.taskAt loop index with
      | some task => decide (task.message.fields.getValidId ≠ some cleanedId) ||
          (state.stream.pending task.message.id).isSome
      | none => true
  | _ => true

theorem routedPendingCheck_sound {cleanedId : UUID} {state : AnalysisState}
    {action : AnalysisAction} (checked : routedPendingCheck cleanedId state action = true) :
    RoutedPending cleanedId state action := by
  intro loop index message routes found valid
  subst routes
  simpa [routedPendingCheck, found, valid] using checked

theorem entityEvent_announced_or_onRecord_outOfRetries : ∃ past state,
    Trace (analysisMachine defaultEntityAnalysisConfig) (RoutedPending 1) past state ∧
    sampleRow ∈ state.entityEvents ∧ state.completed = [] ∧
    SomeMessage state 1 fun messageId => (state.stream.pending messageId).isSome ∨
      ∃ letter ∈ state.deadLetters, letter.messageId = messageId := by
  obtain ⟨past, state, trace, seen⟩ :=
    @Trace.of_run_view _ _ (RoutedPending 1) _ (analysisMachine defaultEntityAnalysisConfig)
      (routedPendingCheck 1) deliveryView ⟨[sampleRow], onlySampleMessage, [], false, [7]⟩
      (fun _ _ _ _ checked => routedPendingCheck_sound checked) _ rfl outOfRetriesRun rfl
  have rows : state.entityEvents = [sampleRow] := congrArg DeliveryView.rows seen
  have completed : state.completed = [] := congrArg DeliveryView.completed seen
  have stored : sampleRow ∈ state.entityEvents := by simp [rows]
  refine ⟨past, state, trace, stored, completed, ?_⟩
  rcases entityEvent_announced_or_onRecord defaultEntityAnalysisConfig sampleRow trace stored
    with announced | recorded
  · simp [completed] at announced
  · exact recorded

end WealthFinder.Pipeline
