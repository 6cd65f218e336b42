import WealthFinder.Refinement
import WealthFinder.Tables
import WealthFinder.Ingestion.CleaningVerdicts
import WealthFinder.Ingestion.IngestionTurns

/-!
# Articles and announcements under concurrent crawls

However the crawl tasks interleave with each other and with the cleaning layer, an article
is stored once and announced at most once, and only after it is stored.  So the layer runs
in the environment that it is modelled in.
-/

set_option autoImplicit false

namespace WealthFinder.Ingestion

open Machine

variable {config : IngestionConfig} {state after : IngestionState} {index : Nat}
  {task next : CrawlTask} {effect : Effect}

/-! ## What the cleaning layer leaves alone -/

theorem fields_of_cleaning {clean : CleanConfig} {cleaner moved : State} {action : Action}
    (own : action.isCleaning = true) (stepped : step clean cleaner action = some moved) :
    moved.stream.fields = cleaner.stream.fields := by
  cases action with
  | insertRaw raw => cases own
  | announce messageId field => cases own
  | crash => cases own
  | readMessages count replied =>
      rw [← Option.some.inj stepped, (enqueue_frame _ _ _ _).2.2.2.2]
  | reclaimPending idle replied =>
      rw [← Option.some.inj stepped, (enqueue_frame _ _ _ _).2.2.2.2]
  | dequeue worker =>
      obtain ⟨message, rest, -, -, ⟨-, rfl⟩ | ⟨rawId, -, rfl⟩⟩ := dequeue_cases stepped
      · rfl
      · rfl
  | resume worker reply => exact (resume_step stepped).frame.2.2.2

theorem WorkerStep.stored {clean : CleanConfig} {cleaner moved : State} {worker : Nat}
    {reply : Reply} (resumed : WorkerStep clean cleaner worker reply moved) {rawId : UUID}
    (found : (moved.rawNews rawId).isSome) : (cleaner.rawNews rawId).isSome := by
  cases resumed with
  | @marked messageId marked reason attempt outcome suspended applied =>
      have updated : (updateDeleted cleaner.rawNews marked reason rawId).isSome := found
      by_cases same : rawId = marked
      · subst same
        simpa [updateDeleted] using updated
      · simpa [updateDeleted, same] using updated
  | _ => exact found

theorem stored_of_cleaning {clean : CleanConfig} {cleaner moved : State} {action : Action}
    (own : action.isCleaning = true) (stepped : step clean cleaner action = some moved)
    {rawId : UUID} (found : (moved.rawNews rawId).isSome) : (cleaner.rawNews rawId).isSome := by
  by_cases resumed : ∃ worker reply, action = .resume worker reply
  · obtain ⟨worker, reply, rfl⟩ := resumed
    exact (resume_step stepped).stored found
  · obtain ⟨raw, is⟩ := Option.isSome_iff_exists.mp found
    cases action with
    | insertRaw raw => cases own
    | announce messageId field => cases own
    | crash => cases own
    | resume worker reply => exact absurd ⟨worker, reply, rfl⟩ resumed
    | readMessages count replied =>
        have same := (enqueue_frame cleaner (cleaner.stream.readGroup count).1
          (cleaner.stream.readGroup count).2 replied).1
        rw [← Option.some.inj stepped] at found
        exact same ▸ found
    | reclaimPending idle replied =>
        have same := (enqueue_frame cleaner (cleaner.stream.autoclaim (cleaner.claimable idle)).1
          (cleaner.stream.autoclaim (cleaner.claimable idle)).2 replied).1
        rw [← Option.some.inj stepped] at found
        exact same ▸ found
    | dequeue worker =>
        obtain ⟨message, rest, -, -, ⟨-, rfl⟩ | ⟨other, -, rfl⟩⟩ := dequeue_cases stepped
        · exact found
        · exact found

/-! ## The invariant -/

/-- The `raw_id` that a task has drawn for the article it is about to store or announce. -/
def TaskStage.holds : TaskStage → Option UUID
  | .inserting row _ _ => some row.rawId
  | .announcing rawId _ => some rawId
  | _ => none

def CrawlTask.holdsId (id : UUID) (task : CrawlTask) : Bool := task.stage.holds = some id

def CrawlWorld.HasArticle (world : CrawlWorld) (rawId : UUID) : Prop :=
  ∃ row ∈ world.rawNews, row.rawId = rawId

/-- No two rows agree in a unique column. -/
def Distinct (one other : RawNewsRow) : Prop :=
  one.sourceUrl ≠ other.sourceUrl ∧ one.rawId ≠ other.rawId ∧ one.rawHash ≠ other.rawHash

structure StoreSound (state : IngestionState) : Prop where
  distinct : state.world.rawNews.Pairwise Distinct
  stored : ∀ row ∈ state.world.rawNews, ∃ raw, state.cleaner.rawNews row.rawId = some raw ∧
    raw.title = row.title ∧ raw.body = row.body
  known : ∀ rawId, (state.cleaner.rawNews rawId).isSome → state.world.HasArticle rawId
  announcing : ∀ task ∈ state.tasks, ∀ rawId successes,
    task.stage = .announcing rawId successes → state.world.HasArticle rawId
  inserted : ∀ rawId ∈ state.world.inserted, state.world.HasArticle rawId
  messages : ∀ messageId field, state.cleaner.stream.fields messageId = some field →
    ∃ rawId ∈ state.world.inserted, field = .uuid rawId
  once : ∀ one other rawId, state.cleaner.stream.fields one = some (.uuid rawId) →
    state.cleaner.stream.fields other = some (.uuid rawId) → one = other
  ids : ∀ id, state.tasks.countP (CrawlTask.holdsId id) + state.world.inserted.count id ≤
    if id ∈ state.drawn then 1 else 0

theorem storeSound_initial : StoreSound IngestionState.initial := by
  constructor
  · exact .nil
  · intro row member
    cases member
  · intro rawId found
    cases found
  · intro task member
    cases member
  · intro rawId member
    cases member
  · intro messageId field found
    cases found
  · intro one other rawId found
    cases found
  · intro id
    exact Nat.zero_le _

/-! ## Turns of the tasks -/

@[simp] theorem holds_firstAttempt {maxRetry : Int} {suspended returned : TaskStage} :
    (firstAttempt maxRetry suspended returned).holds =
      if 1 ≤ maxRetry then suspended.holds else returned.holds := by
  unfold firstAttempt
  split <;> rfl

@[simp] theorem holds_readsOn (task : CrawlTask) (entries : List FeedEntry)
    (found : List ArticleItem) : (task.readsOn entries found).stage.holds = none := by
  unfold CrawlTask.readsOn
  cases entries.isEmpty <;> rfl

/-- The ids that a turn draws, keeps, gives to the stream or lets go. -/
theorem TaskTurn.holds (turn : TaskTurn config state task next effect) :
    match effect with
    | .drew id => task.stage.holds = none ∧
        (next.stage.holds = none ∨ next.stage.holds = some id)
    | .announced rawId _ => task.stage.holds = some rawId ∧ next.stage.holds = none
    | _ => next.stage.holds = none ∨ next.stage.holds = task.stage.holds := by
  cases turn with
  | started stage targets => exact Or.inl rfl
  | opened stage entries => exact Or.inl (holds_readsOn _ _ _)
  | failedFatally stage text => exact Or.inl rfl
  | discoveryFailed stage text => exact Or.inl rfl
  | read stage taken => exact Or.inl (holds_readsOn _ _ _)
  | readFailed stage text => exact Or.inl rfl
  | worked running action own stepped => exact Or.inr rfl
  | gathered stage running returned => exact Or.inl rfl
  | gatherFailed stage text => exact Or.inl rfl
  | begunFailure stage draw made =>
      rw [stage]
      refine ⟨rfl, Or.inl ?_⟩
      rw [holds_firstAttempt]
      split <;> rfl
  | begunSuccess stage draw made =>
      obtain ⟨rawHash, extraMetadata, rfl⟩ := made
      rw [stage]
      refine ⟨rfl, ?_⟩
      rw [holds_firstAttempt]
      split
      · exact Or.inr rfl
      · exact Or.inl rfl
  | unhashed stage id =>
      rw [stage]
      exact ⟨rfl, Or.inl rfl⟩
  | undumped stage id text =>
      rw [stage]
      exact ⟨rfl, Or.inl rfl⟩
  | concluded stage => exact Or.inl rfl
  | saved stage goesTo does =>
      have nothing : ∀ {later : TaskStage}, later.holds = none → later.holds = none ∨
          later.holds = task.stage.holds := Or.inl
      rcases does with rfl | rfl <;> rcases goesTo with rfl | ⟨-, rfl⟩ <;> exact nothing rfl
  | inserted stage goesTo does =>
      rcases does with rfl | rfl <;> rcases goesTo with rfl | ⟨-, rfl⟩ <;> rw [stage] <;>
        first | exact Or.inl rfl | exact Or.inr rfl
  | replied stage =>
      rw [stage]
      exact Or.inr rfl
  | announced stage stream =>
      rw [stage]
      exact ⟨rfl, rfl⟩
  | notAnnounced stage => exact Or.inl rfl
  | completed stage does =>
      rcases does with ⟨rfl, -⟩ | rfl
      · exact Or.inl rfl
      · exact Or.inl rfl
  | completionFailed stage does text =>
      rcases does with rfl | rfl
      · exact Or.inl rfl
      · exact Or.inl rfl

theorem not_announcing_readsOn (task : CrawlTask) (entries : List FeedEntry)
    (found : List ArticleItem) (rawId : UUID) (successes : List ArticleItem) :
    (task.readsOn entries found).stage ≠ .announcing rawId successes := by
  intro announces
  have nothing := holds_readsOn task entries found
  rw [announces] at nothing
  cases nothing

theorem not_announcing_firstAttempt {maxRetry : Int} {suspended returned : TaskStage}
    {rawId : UUID} {successes : List ArticleItem}
    (suspends : suspended ≠ .announcing rawId successes)
    (returns : returned ≠ .announcing rawId successes) :
    firstAttempt maxRetry suspended returned ≠ .announcing rawId successes := by
  unfold firstAttempt
  split
  · exact suspends
  · exact returns

/-- What a task announces it has stored, in this turn or before. -/
theorem TaskTurn.announcing (turn : TaskTurn config state task next effect) {rawId : UUID}
    {successes : List ArticleItem} (announces : next.stage = .announcing rawId successes) :
    task.stage = .announcing rawId successes ∨
      ∃ row, effect = .stored row ∧ row.rawId = rawId := by
  cases turn with
  | opened stage entries => exact absurd announces (not_announcing_readsOn _ _ _ _ _)
  | read stage taken => exact absurd announces (not_announcing_readsOn _ _ _ _ _)
  | worked running action own stepped => exact Or.inl announces
  | begunFailure stage draw made =>
      exact absurd announces (not_announcing_firstAttempt nofun nofun)
  | begunSuccess stage draw made =>
      exact absurd announces (not_announcing_firstAttempt nofun nofun)
  | saved stage goesTo does =>
      rcases goesTo with rfl | ⟨-, rfl⟩
      · cases announces
      · cases announces
  | inserted stage goesTo does =>
      rcases goesTo with rfl | ⟨-, rfl⟩
      · cases announces
      · cases announces
  | @replied row attempt rest stage =>
      cases announces
      exact Or.inr ⟨row, rfl, rfl⟩
  | _ => cases announces

theorem TaskTurn.announcingBefore {rawId : UUID} {stream : StreamGroup MessageId RawIdField}
    (turn : TaskTurn config state task next (.announced rawId stream)) :
    ∃ successes, task.stage = .announcing rawId successes := by
  cases turn with
  | announced stage stream => exact ⟨_, stage⟩
  | saved stage goesTo does => rcases does with is | is <;> cases is
  | inserted stage goesTo does => rcases does with is | is <;> cases is
  | completed stage does => rcases does with ⟨is, -⟩ | is <;> cases is
  | completionFailed stage does text => rcases does with is | is <;> cases is

/-! ## The steps -/

theorem CrawlWorld.HasArticle.stays (turning : Turning config state after index task next effect)
    {rawId : UUID} (has : state.world.HasArticle rawId) : after.world.HasArticle rawId := by
  obtain ⟨row, member, is⟩ := has
  rw [turning.after]
  cases effect with
  | stored new => exact ⟨row, List.mem_cons_of_mem new member, is⟩
  | _ => exact ⟨row, member, is⟩

theorem distinct_of_free {world : CrawlWorld} {row : RawNewsRow} (free : ¬ Taken world row) :
    ∀ other ∈ world.rawNews, Distinct row other := by
  intro other member
  refine ⟨?_, ?_, ?_⟩
  · intro same
    exact free ⟨other, member, Or.inl same.symm⟩
  · intro same
    exact free ⟨other, member, Or.inr (Or.inl same.symm)⟩
  · intro same
    exact free ⟨other, member, Or.inr (Or.inr same.symm)⟩

theorem holds_toNat (id : UUID) (task : CrawlTask) :
    (task.holdsId id).toNat = if task.stage.holds = some id then 1 else 0 := by
  unfold CrawlTask.holdsId
  by_cases held : task.stage.holds = some id
  · rw [if_pos held, decide_eq_true held]
    rfl
  · rw [if_neg held, decide_eq_false held]
    rfl

theorem StoreSound.ids_turning (sound : StoreSound state)
    (turning : Turning config state after index task next effect) (id : UUID) :
    after.tasks.countP (CrawlTask.holdsId id) + after.world.inserted.count id ≤
      if id ∈ after.drawn then 1 else 0 := by
  have before := sound.ids id
  have holds := turning.turn.holds
  have counted := @countP_set _ _ next _ _ (CrawlTask.holdsId id) turning.found
  have tasks : after.tasks = state.tasks.set index next := by
    rw [turning.after]
    simp [IngestionState.setTask]
  have nothing : (none : Option UUID) ≠ some id := nofun
  rw [holds_toNat, holds_toNat] at counted
  rw [tasks]
  -- a turn that draws nothing holds what it held, or less
  have kept (world : after.world.inserted = state.world.inserted)
      (drawn : after.drawn = state.drawn)
      (less : next.stage.holds = none ∨ next.stage.holds = task.stage.holds) :
      (state.tasks.set index next).countP (CrawlTask.holdsId id) +
        after.world.inserted.count id ≤ if id ∈ after.drawn then 1 else 0 := by
    rw [world, drawn]
    rcases less with none' | same
    · rw [none', if_neg nothing] at counted
      omega
    · rw [same] at counted
      omega
  cases effect with
  | quiet => exact kept (by rw [turning.after]; rfl) (by rw [turning.after]; rfl) holds
  | logged row => exact kept (by rw [turning.after]; rfl) (by rw [turning.after]; rfl) holds
  | stored row => exact kept (by rw [turning.after]; rfl) (by rw [turning.after]; rfl) holds
  | signalled signal => exact kept (by rw [turning.after]; rfl) (by rw [turning.after]; rfl) holds
  | drew drawn =>
      obtain ⟨none', later⟩ := holds
      have world : after.world.inserted = state.world.inserted := by rw [turning.after]; rfl
      have more : after.drawn = drawn :: state.drawn := by rw [turning.after]; rfl
      have fresh : drawn ∉ state.drawn := turning.accepted
      rw [world, more]
      rw [none', if_neg nothing] at counted
      by_cases same : id = drawn
      · subst same
        rw [if_neg fresh] at before
        rw [if_pos List.mem_cons_self]
        split at counted <;> omega
      · have apart : next.stage.holds ≠ some id := by
          rcases later with is | is
          · rw [is]
            nofun
          · rw [is]
            exact fun equal => same (Option.some.inj equal).symm
        have member : id ∈ drawn :: state.drawn ↔ id ∈ state.drawn := by simp [same]
        rw [if_neg apart] at counted
        simp only [member]
        omega
  | announced rawId stream =>
      obtain ⟨held, none'⟩ := holds
      have world : after.world.inserted = rawId :: state.world.inserted := by
        rw [turning.after]; rfl
      have drawn : after.drawn = state.drawn := by rw [turning.after]; rfl
      rw [world, drawn, List.count_cons]
      rw [held, none', if_neg nothing] at counted
      by_cases same : id = rawId
      · subst same
        rw [if_pos rfl] at counted
        simp only [beq_self_eq_true, if_true]
        omega
      · have apart : some rawId ≠ some id := fun equal => same (Option.some.inj equal).symm
        rw [if_neg apart] at counted
        have differs : (rawId == id) = false := beq_eq_false_iff_ne.mpr (Ne.symm same)
        rw [differs]
        simp only [Bool.false_eq_true, if_false]
        omega

theorem mem_of_setTask {other : CrawlTask} (turning : Turning config state after index task next effect)
    (member : other ∈ after.tasks) : other ∈ state.tasks ∨ other = next := by
  rw [turning.after] at member
  simp only [IngestionState.setTask, Effect.apply_tasks] at member
  exact List.mem_or_eq_of_mem_set member

theorem StoreSound.announcing_turning (sound : StoreSound state)
    (turning : Turning config state after index task next effect) :
    ∀ other ∈ after.tasks, ∀ rawId successes,
      other.stage = .announcing rawId successes → after.world.HasArticle rawId := by
  intro other member rawId successes announces
  rcases mem_of_setTask turning member with old | rfl
  · exact (sound.announcing other old rawId successes announces).stays turning
  · rcases turning.turn.announcing announces with before | ⟨row, rfl, rfl⟩
    · have there := List.mem_of_getElem? turning.found
      exact (sound.announcing task there rawId successes before).stays turning
    · rw [turning.after]
      exact ⟨row, List.mem_cons_self, rfl⟩

/-- The turns that leave the rows and the messages alone. -/
theorem StoreSound.carried (sound : StoreSound state)
    (turning : Turning config state after index task next effect)
    (rawNews : after.world.rawNews = state.world.rawNews)
    (inserted : after.world.inserted = state.world.inserted)
    (cleaner : after.cleaner = state.cleaner) : StoreSound after := by
  have has (rawId : UUID) (held : state.world.HasArticle rawId) : after.world.HasArticle rawId :=
    held.stays turning
  constructor
  · rw [rawNews]
    exact sound.distinct
  · rw [rawNews, cleaner]
    exact sound.stored
  · intro rawId found
    rw [cleaner] at found
    exact has rawId (sound.known rawId found)
  · exact sound.announcing_turning turning
  · intro rawId member
    rw [inserted] at member
    exact has rawId (sound.inserted rawId member)
  · rw [cleaner, inserted]
    exact sound.messages
  · rw [cleaner]
    exact sound.once
  · exact sound.ids_turning turning

theorem StoreSound.storing {row : RawNewsRow} (sound : StoreSound state)
    (turning : Turning config state after index task next (.stored row)) : StoreSound after := by
  have free : ¬ Taken state.world row := turning.accepted
  have ids := sound.ids_turning turning
  have announcing := sound.announcing_turning turning
  have has (rawId : UUID) (held : state.world.HasArticle rawId) : after.world.HasArticle rawId :=
    held.stays turning
  have cleaner : after.cleaner = state.storeRaw row := by rw [turning.after]; rfl
  have rawNews : after.world.rawNews = row :: state.world.rawNews := by rw [turning.after]; rfl
  have inserted : after.world.inserted = state.world.inserted := by rw [turning.after]; rfl
  constructor
  · rw [rawNews]
    exact List.pairwise_cons.mpr ⟨distinct_of_free free, sound.distinct⟩
  · intro other member
    rw [rawNews] at member
    rw [cleaner]
    rcases List.mem_cons.mp member with rfl | old
    · exact ⟨⟨other.rawId, other.title, other.body, false, none⟩,
        Function.update_self _ _ _, rfl, rfl⟩
    · obtain ⟨raw, found, same⟩ := sound.stored other old
      have apart : other.rawId ≠ row.rawId := (distinct_of_free free other old).2.1.symm
      exact ⟨raw, (Function.update_of_ne apart _ _).trans found, same⟩
  · intro rawId found
    rw [cleaner] at found
    by_cases same : rawId = row.rawId
    · exact ⟨row, rawNews ▸ List.mem_cons_self, same.symm⟩
    · have old : (state.cleaner.rawNews rawId).isSome := by
        simpa [IngestionState.storeRaw, same] using found
      exact has rawId (sound.known rawId old)
  · exact announcing
  · intro rawId member
    rw [inserted] at member
    exact has rawId (sound.inserted rawId member)
  · rw [cleaner, inserted]
    exact sound.messages
  · rw [cleaner]
    exact sound.once
  · exact ids

/-- The message of an announcement is new, and so is its article to the stream. -/
theorem StoreSound.announcingNow {rawId : UUID} {stream : StreamGroup MessageId RawIdField}
    (sound : StoreSound state)
    (turning : Turning config state after index task next (.announced rawId stream)) :
    StoreSound after := by
  have ids := sound.ids_turning turning
  have announcing := sound.announcing_turning turning
  have has (other : UUID) (held : state.world.HasArticle other) : after.world.HasArticle other :=
    held.stays turning
  have rawNews : after.world.rawNews = state.world.rawNews := by rw [turning.after]; rfl
  have inserted : after.world.inserted = rawId :: state.world.inserted := by
    rw [turning.after]; rfl
  have cleaner : after.cleaner = { state.cleaner with stream := stream } := by
    rw [turning.after]; rfl
  obtain ⟨successes, stage⟩ := turning.turn.announcingBefore
  have there := List.mem_of_getElem? turning.found
  obtain ⟨messageId, added⟩ := turning.accepted
  obtain ⟨unused, rfl⟩ := StreamGroup.add_cases added
  have unannounced (other : MessageId) :
      state.cleaner.stream.fields other ≠ some (.uuid rawId) := by
    intro found
    obtain ⟨known, member, same⟩ := sound.messages other _ found
    cases same
    have held : 0 < state.tasks.countP (CrawlTask.holdsId rawId) := by
      refine List.countP_pos_iff.mpr ⟨task, there, ?_⟩
      simp [CrawlTask.holdsId, TaskStage.holds, stage]
    have counted : 0 < state.world.inserted.count rawId := List.count_pos_iff.mpr member
    have total := sound.ids rawId
    split at total <;> omega
  constructor
  · rw [rawNews]
    exact sound.distinct
  · rw [rawNews, cleaner]
    exact sound.stored
  · intro other found
    rw [cleaner] at found
    exact has other (sound.known other found)
  · exact announcing
  · intro other member
    rw [inserted] at member
    rcases List.mem_cons.mp member with rfl | old
    · exact has other (sound.announcing task there other successes stage)
    · exact has other (sound.inserted other old)
  · intro other field found
    rw [cleaner] at found
    rw [inserted]
    rcases of_update_some found with ⟨-, rfl⟩ | ⟨-, old⟩
    · exact ⟨rawId, List.mem_cons_self, rfl⟩
    · obtain ⟨known, member, is⟩ := sound.messages other field old
      exact ⟨known, List.mem_cons_of_mem _ member, is⟩
  · intro one other known foundOne foundOther
    rw [cleaner] at foundOne foundOther
    rcases of_update_some foundOne with ⟨rfl, is⟩ | ⟨-, oldOne⟩
    · rcases of_update_some foundOther with ⟨rfl, -⟩ | ⟨-, oldOther⟩
      · rfl
      · cases is
        exact absurd oldOther (unannounced other)
    · rcases of_update_some foundOther with ⟨rfl, is⟩ | ⟨-, oldOther⟩
      · cases is
        exact absurd oldOne (unannounced one)
      · exact sound.once one other known oldOne oldOther
  · exact ids

theorem StoreSound.turning (sound : StoreSound state)
    (turning : Turning config state after index task next effect) : StoreSound after := by
  cases effect with
  | stored row => exact sound.storing turning
  | announced rawId stream => exact sound.announcingNow turning
  | _ =>
      obtain rfl := turning.after
      exact sound.carried turning rfl rfl rfl

theorem StoreSound.cleaning {cleaner : State} {action : Action} (sound : StoreSound state)
    (own : action.isCleaning = true)
    (stepped : step config.clean state.cleaner action = some cleaner) :
    StoreSound { state with cleaner := cleaner } := by
  have fields := fields_of_cleaning own stepped
  refine { sound with stored := ?_, known := ?_, messages := ?_, once := ?_ }
  · intro row member
    obtain ⟨raw, found, title, body⟩ := sound.stored row member
    obtain ⟨later, foundLater, laterTitle, laterBody, -⟩ :=
      (step_grows stepped).articles row.rawId raw found
    exact ⟨later, foundLater, laterTitle.trans title, laterBody.trans body⟩
  · intro rawId found
    exact sound.known rawId (stored_of_cleaning own stepped found)
  · rw [fields]
    exact sound.messages
  · rw [fields]
    exact sound.once

theorem countP_map_ended (tasks : List CrawlTask) (id : UUID) :
    (tasks.map fun task => { task with crawl := none, stage := .ended }).countP
      (CrawlTask.holdsId id) = 0 := by
  rw [List.countP_eq_zero]
  intro task member
  obtain ⟨old, -, rfl⟩ := List.mem_map.mp member
  simp [CrawlTask.holdsId, TaskStage.holds]

theorem StoreSound.step {action : IngestionAction} (sound : StoreSound state)
    (stepped : ingestionStep config state action = some after) : StoreSound after := by
  cases ingestionStep_cases stepped with
  | accepted executionId sourceName =>
      refine { sound with announcing := ?_, ids := ?_ }
      · intro task member rawId successes announces
        rcases List.mem_append.mp member with old | new
        · exact sound.announcing task old rawId successes announces
        · rw [List.mem_singleton.mp new] at announces
          cases announces
      · intro id
        have before := sound.ids id
        simpa [CrawlTask.holdsId, TaskStage.holds] using before
  | turned turning => exact sound.turning turning
  | cleaned action own moved => exact sound.cleaning own moved
  | crashed =>
      refine { sound with announcing := ?_, ids := ?_ }
      · intro task member rawId successes announces
        obtain ⟨old, -, rfl⟩ := List.mem_map.mp member
        cases announces
      · intro id
        have fewer : state.crash.tasks.countP (CrawlTask.holdsId id) ≤
            state.tasks.countP (CrawlTask.holdsId id) := by
          rw [IngestionState.crash, countP_map_ended]
          exact Nat.zero_le _
        exact (Nat.add_le_add_right fewer _).trans (sound.ids id)

theorem storeSound {past : List IngestionState}
    (trace : Trace (ingestionMachine config) anyAction past state) : StoreSound state := by
  refine trace.invariant ?_ ?_
  · rintro state rfl
    exact storeSound_initial
  · intro state action after sound _ moved
    exact sound.step moved

/-! ## Two crawls of one feed -/

def sampleConfig : IngestionConfig where
  crawl := ⟨2, 500⟩
  maxConcurrent := fun _ => 1
  workerConcurrency := 1
  bodyMinLength := 5
  dbMaxRetry := 2
  tools := ⟨id, some, fun _ => some ""⟩
  libraries := sampleLibraries
  linkHrefs := fun _ => .ok [some "http://a", none, some "http://a"]

def sampleFeed : ParsedFeed :=
  ⟨false, "", [⟨" HSI ", "http://m", none, " HSI up "⟩]⟩

/-- Both crawls find the article before either stores it; the reply of the first INSERT is
lost. -/
def twoCrawls : List IngestionAction :=
  [.accept "one" .mingpao, .accept "two" .mingpao, .discovered 0 (.feed (.ok sampleFeed) none),
    .discovered 1 (.feed (.ok sampleFeed) none), .entryRead 0 none, .entryRead 1 none,
    .begun 0 ⟨10, 0, ""⟩, .begun 1 ⟨11, 0, ""⟩, .inserted 0 (.transient false), .inserted 1 .done,
    .inserted 0 .done, .announced 1 .done 7, .concluded 0, .completed 0 .done "",
    .cleaned (.readMessages 10 true), .cleaned (.dequeue 0), .cleaned (.resume 0 ⟨.done, 100, 0⟩),
    .cleaned (.resume 0 ⟨.done, 100, 0⟩), .cleaned (.resume 0 ⟨.done, 100, 0⟩)]

theorem twoCrawls_reaches : ∃ past state,
    Trace (ingestionMachine sampleConfig) anyAction past state ∧
      state.world.rawNews.map RawNewsRow.rawId = [11] ∧ state.world.inserted = [11] ∧
      state.cleaner.cleanedNews = [⟨100, 11, "HSI", "HSI up", 0⟩] := by
  obtain ⟨past, state, trace, seen⟩ := Trace.of_free_run (ingestionMachine sampleConfig)
    (fun state => state.world.rawNews.map RawNewsRow.rawId = [11] ∧
      state.world.inserted = [11] ∧
      state.cleaner.cleanedNews = [⟨100, 11, "HSI", "HSI up", 0⟩]) rfl twoCrawls
    (by decide +kernel)
  exact ⟨past, state, trace, of_decide_eq_true seen⟩

/-! ## What the streams and tables promise -/

/-- However many crawls run at once, no two rows share a url, an id or a hash; each message
names a stored article, and no two messages the same one; and the cleaning layer finds the
title and the body that were stored. -/
theorem articles_announced_once {past : List IngestionState}
    (trace : Trace (ingestionMachine config) anyAction past state) :
    (state.world.rawNews.Pairwise fun one other => one.sourceUrl ≠ other.sourceUrl ∧
      one.rawId ≠ other.rawId ∧ one.rawHash ≠ other.rawHash) ∧
    (∀ messageId field, state.cleaner.stream.fields messageId = some field →
      ∃ row ∈ state.world.rawNews, field = .uuid row.rawId ∧
        (∃ raw, state.cleaner.rawNews row.rawId = some raw ∧ raw.title = row.title ∧
          raw.body = row.body) ∧
        ∀ other, state.cleaner.stream.fields other = some field → other = messageId) := by
  have sound := storeSound trace
  refine ⟨sound.distinct, ?_⟩
  intro messageId field found
  obtain ⟨rawId, member, rfl⟩ := sound.messages messageId field found
  obtain ⟨row, stored, rfl⟩ := sound.inserted rawId member
  refine ⟨row, stored, rfl, sound.stored row stored, ?_⟩
  intro other foundOther
  exact sound.once other messageId row.rawId foundOther found

theorem articles_announced_once_sample : ∃ state : IngestionState,
    state.world.inserted = [11] ∧
    ∀ messageId field, state.cleaner.stream.fields messageId = some field →
      ∃ row ∈ state.world.rawNews, field = .uuid row.rawId ∧
        (∃ raw, state.cleaner.rawNews row.rawId = some raw ∧ raw.title = row.title ∧
          raw.body = row.body) ∧
        ∀ other, state.cleaner.stream.fields other = some field → other = messageId := by
  obtain ⟨past, state, trace, -, inserted, -⟩ := twoCrawls_reaches
  exact ⟨state, inserted, (articles_announced_once trace).2⟩

/-! ## The environment of the cleaning layer -/

theorem turning_reaches (sound : StoreSound state)
    (turning : Turning config state after index task next effect) :
    Reaches (cleaningMachine config.clean) anyAction state.cleaner after.cleaner := by
  apply Reaches.of_stutter
  cases effect with
  | stored row =>
      have free : ¬ Taken state.world row := turning.accepted
      obtain rfl := turning.after
      have absent : state.cleaner.rawNews row.rawId = none := by
        by_contra present
        obtain ⟨other, member, same⟩ :=
          sound.known row.rawId (Option.isSome_iff_ne_none.mpr present)
        exact free ⟨other, member, Or.inr (Or.inl same)⟩
      refine Or.inr ⟨.insertRaw ⟨row.rawId, row.title, row.body, false, none⟩, trivial, ?_⟩
      exact if_pos ⟨absent, rfl⟩
  | announced rawId stream =>
      obtain ⟨successes, stage⟩ := turning.turn.announcingBefore
      obtain ⟨messageId, added⟩ := turning.accepted
      obtain rfl := turning.after
      obtain ⟨row, member, rfl⟩ :=
        sound.announcing task (List.mem_of_getElem? turning.found) _ _ stage
      obtain ⟨raw, found, -⟩ := sound.stored row member
      refine Or.inr ⟨.announce messageId (.uuid row.rawId), trivial, ?_⟩
      have known : (state.cleaner.rawNews row.rawId).isSome := by rw [found]; rfl
      simp only [cleaningMachine, step, if_pos known, added]
      rfl
  | _ =>
      obtain rfl := turning.after
      exact Or.inl rfl

theorem ingestionStep_reaches {action : IngestionAction} (sound : StoreSound state)
    (stepped : ingestionStep config state action = some after) :
    Reaches (cleaningMachine config.clean) anyAction state.cleaner after.cleaner := by
  cases ingestionStep_cases stepped with
  | accepted executionId sourceName => exact .of_stutter (Or.inl rfl)
  | turned turning => exact turning_reaches sound turning
  | cleaned own isOwn cleaned => exact .of_stutter (Or.inr ⟨own, trivial, cleaned⟩)
  | crashed => exact .of_stutter (Or.inr ⟨.crash, trivial, rfl⟩)

/-- Whatever the crawls do, the cleaning layer beside them runs as `cleaningMachine`: the
rows it meets are new and not deleted, and what is announced is stored. -/
theorem cleaning_in_service {past : List IngestionState}
    (trace : Trace (ingestionMachine config) anyAction past state) :
    ∃ history, Trace (cleaningMachine config.clean) anyAction history state.cleaner ∧
      ∀ earlier ∈ past, earlier.cleaner ∈ state.cleaner :: history := by
  refine trace.refines ?_ ?_
  · rintro start rfl
    rfl
  · intro past before action later earlier _ stepped
    exact ingestionStep_reaches (storeSound earlier) stepped

theorem cleaning_in_service_sample : ∃ (cleaner : State) (history : List State),
    cleaner.cleanedNews = [⟨100, 11, "HSI", "HSI up", 0⟩] ∧
      Trace (cleaningMachine sampleConfig.clean) anyAction history cleaner := by
  obtain ⟨past, state, trace, -, -, cleaned⟩ := twoCrawls_reaches
  obtain ⟨history, seen, -⟩ := cleaning_in_service trace
  exact ⟨state.cleaner, history, cleaned, seen⟩

end WealthFinder.Ingestion
