import WealthFinder.Ingestion.Cleaning

/-!
# What one step of the cleaning layer can change

No action deletes a row, a signal or a stream entry, or rewrites the title and
body of an article.  `Grows` says so once, and what a message owes to the tables is
stable under it.
-/

set_option autoImplicit false

namespace WealthFinder.Ingestion

/-! ## Facts about one article -/

/-- A committed `cleaned_news` row of the article has been announced. -/
def PublishedArticle (state : State) (rawId : UUID) : Prop :=
  ∃ row ∈ state.cleanedNews, row.rawId = rawId ∧ row.cleanedId ∈ state.published

def RejectedArticle (state : State) (rawId : UUID) : Prop :=
  ∃ raw, state.rawNews rawId = some raw ∧ raw.isDeleted = true

/-- Nothing is left to do for the article. -/
def SettledArticle (state : State) (rawId : UUID) : Prop :=
  RejectedArticle state rawId ∨ PublishedArticle state rawId

def PassesValidation (config : CleanConfig) (state : State) (rawId : UUID) : Prop :=
  ∃ raw, state.rawNews rawId = some raw ∧ (validate config raw).isRight = true

def FailsValidation (config : CleanConfig) (state : State) (rawId : UUID) : Prop :=
  ∃ raw, state.rawNews rawId = some raw ∧ (validate config raw).isLeft = true

theorem not_passes_of_fails {config : CleanConfig} {state : State} {rawId : UUID}
    (fails : FailsValidation config state rawId) :
    ¬ PassesValidation config state rawId := by
  rintro ⟨raw, found, right⟩
  obtain ⟨other, same, left⟩ := fails
  rw [found, Option.some.injEq] at same
  subst same
  cases verdict : validate config raw <;> simp [verdict] at left right

/-! ## Growth -/

structure Grows (before after : State) : Prop where
  fields : ∀ id field, before.stream.fields id = some field →
    after.stream.fields id = some field
  articles : ∀ rawId raw, before.rawNews rawId = some raw →
    ∃ later, after.rawNews rawId = some later ∧ later.title = raw.title ∧
      later.body = raw.body ∧ (raw.isDeleted = true → later.isDeleted = true)
  cleaned : ∀ row ∈ before.cleanedNews, row ∈ after.cleanedNews
  published : ∀ cleanedId ∈ before.published, cleanedId ∈ after.published

theorem Grows.refl (state : State) : Grows state state :=
  ⟨fun _ _ h => h, fun _ raw h => ⟨raw, h, rfl, rfl, id⟩, fun _ h => h, fun _ h => h⟩

theorem validate_congr (config : CleanConfig) {raw later : RawNews}
    (title : later.title = raw.title) (body : later.body = raw.body) :
    validate config later = validate config raw := by
  simp only [validate, title, body]

namespace Grows
variable {before after : State} (grows : Grows before after)
include grows

theorem publishedArticle {rawId : UUID} (published : PublishedArticle before rawId) :
    PublishedArticle after rawId := by
  obtain ⟨row, member, ofArticle, announced⟩ := published
  exact ⟨row, grows.cleaned row member, ofArticle, grows.published _ announced⟩

theorem settledArticle {rawId : UUID} (settled : SettledArticle before rawId) :
    SettledArticle after rawId := by
  rcases settled with ⟨raw, found, deleted⟩ | published
  · obtain ⟨later, foundLater, -, -, deletedLater⟩ := grows.articles rawId raw found
    exact Or.inl ⟨later, foundLater, deletedLater deleted⟩
  · exact Or.inr (grows.publishedArticle published)

theorem passesValidation {config : CleanConfig} {rawId : UUID}
    (passes : PassesValidation config before rawId) :
    PassesValidation config after rawId := by
  obtain ⟨raw, found, right⟩ := passes
  obtain ⟨later, foundLater, title, body, -⟩ := grows.articles rawId raw found
  exact ⟨later, foundLater, by rwa [validate_congr config title body]⟩

theorem failsValidation {config : CleanConfig} {rawId : UUID}
    (fails : FailsValidation config before rawId) :
    FailsValidation config after rawId := by
  obtain ⟨raw, found, left⟩ := fails
  obtain ⟨later, foundLater, title, body, -⟩ := grows.articles rawId raw found
  exact ⟨later, foundLater, by rwa [validate_congr config title body]⟩

end Grows

@[simp] theorem setWorker_workers (state : State) (worker : Nat) (next : Worker) :
    (state.setWorker worker next).workers =
      Function.update state.workers worker next := rfl

theorem grows_setWorker {before state : State} (grows : Grows before state)
    (worker : Nat) (next : Worker) : Grows before (state.setWorker worker next) :=
  ⟨grows.fields, grows.articles, grows.cleaned, grows.published⟩

theorem grows_updateDeleted (state : State) (rawId : UUID) (reason : String) :
    Grows state { state with rawNews := updateDeleted state.rawNews rawId reason } := by
  refine ⟨fun _ _ h => h, ?_, fun _ h => h, fun _ h => h⟩
  intro other raw found
  by_cases same : other = rawId
  · subst same
    exact ⟨{ raw with isDeleted := true, deletedReason := some reason },
      by simp [updateDeleted, found], rfl, rfl, fun _ => rfl⟩
  · exact ⟨raw, by simpa [updateDeleted, same] using found, rfl, rfl, id⟩

/-! ## Resuming a worker -/

theorem afterWrite_cases (config : CleanConfig) (attempt : Nat) (outcome : Attempt)
    (retrying returned : Worker) :
    afterWrite config attempt outcome retrying returned = .waiting ∨
    afterWrite config attempt outcome retrying returned = retrying ∨
    (outcome = .done ∧ afterWrite config attempt outcome retrying returned = returned) := by
  cases outcome with
  | done => exact Or.inr (Or.inr ⟨rfl, rfl⟩)
  | transient applied =>
      by_cases last : (attempt : Int) = config.maxRetry
      · simp [afterWrite, runWithRetryTurn, last]
      · simp [afterWrite, runWithRetryTurn, last]
  | permanent applied => exact Or.inl rfl

theorem startWrite_of_retry {config : CleanConfig} (retries : 1 ≤ config.maxRetry)
    (suspended returned : Worker) : startWrite config suspended returned = suspended :=
  if_pos retries

/-- Everything a resumed worker can do to the layer. -/
inductive WorkerStep (config : CleanConfig) (state : State) (worker : Nat)
    (reply : Reply) : State → Prop where
  | failed (suspended : state.workers worker ≠ .waiting) :
      WorkerStep config state worker reply (state.setWorker worker .waiting)
  | skipped {messageId : MessageId} {rawId : UUID}
      (suspended : state.workers worker = .fetchRawNews messageId rawId)
      (gone : fetchRawNews state.rawNews rawId = none) :
      WorkerStep config state worker reply (state.setWorker worker (.ack messageId))
  | rejecting {messageId : MessageId} {rawId : UUID} {raw : RawNews} {reason : String}
      (suspended : state.workers worker = .fetchRawNews messageId rawId)
      (found : fetchRawNews state.rawNews rawId = some raw)
      (verdict : validate config raw = .inl reason) :
      WorkerStep config state worker reply (state.setWorker worker
        (startWrite config (.markDeleted messageId rawId reason 1) (.ack messageId)))
  | accepted {messageId : MessageId} {rawId : UUID} {raw : RawNews}
      {title body : String}
      (suspended : state.workers worker = .fetchRawNews messageId rawId)
      (found : fetchRawNews state.rawNews rawId = some raw)
      (verdict : validate config raw = .inr (title, body)) :
      WorkerStep config state worker reply
        (state.setWorker worker (.alreadyCleaned messageId rawId title body))
  | marked {messageId : MessageId} {rawId : UUID} {reason : String} {attempt : Nat}
      (outcome : Attempt)
      (suspended : state.workers worker = .markDeleted messageId rawId reason attempt)
      (applied : outcome.applied = true) :
      WorkerStep config state worker reply
        ({ state with
          rawNews := updateDeleted state.rawNews rawId reason }.setWorker worker
          (afterWrite config attempt outcome
            (.markDeleted messageId rawId reason (attempt + 1)) (.ack messageId)))
  | markLost {messageId : MessageId} {rawId : UUID} {reason : String} {attempt : Nat}
      (outcome : Attempt)
      (suspended : state.workers worker = .markDeleted messageId rawId reason attempt)
      (lost : outcome ≠ .done) :
      WorkerStep config state worker reply (state.setWorker worker
        (afterWrite config attempt outcome
          (.markDeleted messageId rawId reason (attempt + 1)) (.ack messageId)))
  | duplicate {messageId : MessageId} {rawId : UUID} {title body : String}
      (suspended : state.workers worker = .alreadyCleaned messageId rawId title body)
      (answered : reply.outcome = .done)
      (found : alreadyCleaned state.cleanedNews rawId = true) :
      WorkerStep config state worker reply (state.setWorker worker (.ack messageId))
  | unseen {messageId : MessageId} {rawId : UUID} {title body : String}
      (suspended : state.workers worker = .alreadyCleaned messageId rawId title body)
      (answered : reply.outcome = .done)
      (absent : alreadyCleaned state.cleanedNews rawId = false) :
      WorkerStep config state worker reply (state.setWorker worker (startWrite config
        (.insertCleanedNews messageId ⟨reply.cleanedId, rawId, title, body, reply.now⟩ 1)
        (.publishCleaned messageId ⟨reply.cleanedId, rawId, title, body, reply.now⟩)))
  | inserted {messageId : MessageId} {cleaned : CleanedNews} {attempt : Nat}
      (outcome : Attempt)
      (suspended : state.workers worker = .insertCleanedNews messageId cleaned attempt)
      (fresh : cleanedIdTaken state.cleanedNews cleaned.cleanedId = false) :
      WorkerStep config state worker reply
        ({ state with cleanedNews := cleaned :: state.cleanedNews }.setWorker worker
          (afterWrite config attempt outcome
            (.insertCleanedNews messageId cleaned (attempt + 1))
            (.publishCleaned messageId cleaned)))
  | insertLost {messageId : MessageId} {cleaned : CleanedNews} {attempt : Nat}
      (outcome : Attempt)
      (suspended : state.workers worker = .insertCleanedNews messageId cleaned attempt)
      (lost : outcome ≠ .done) :
      WorkerStep config state worker reply (state.setWorker worker
        (afterWrite config attempt outcome
          (.insertCleanedNews messageId cleaned (attempt + 1))
          (.publishCleaned messageId cleaned)))
  | published {messageId : MessageId} {cleaned : CleanedNews} {next : Worker}
      (suspended : state.workers worker = .publishCleaned messageId cleaned)
      (moved : next = .ack messageId ∨ next = .waiting) :
      WorkerStep config state worker reply
        ({ state with published := cleaned.cleanedId :: state.published }.setWorker
          worker next)
  | acked {messageId : MessageId}
      (suspended : state.workers worker = .ack messageId) :
      WorkerStep config state worker reply
        ({ state with stream := state.stream.ack messageId }.setWorker worker .waiting)

theorem resumeFetch_step {config : CleanConfig} {state : State} {worker : Nat}
    {messageId : MessageId} {rawId : UUID} (reply : Reply)
    (suspended : state.workers worker = .fetchRawNews messageId rawId) :
    WorkerStep config state worker reply
      (resumeFetch config state worker messageId rawId reply.outcome) := by
  have busy : state.workers worker ≠ .waiting := by simp [suspended]
  cases outcome : reply.outcome with
  | done =>
      cases found : fetchRawNews state.rawNews rawId with
      | none => simpa [resumeFetch, found] using WorkerStep.skipped suspended found
      | some raw =>
          cases verdict : validate config raw with
          | inl reason =>
              simpa [resumeFetch, found, verdict] using
                WorkerStep.rejecting suspended found verdict
          | inr cleaned =>
              obtain ⟨title, body⟩ := cleaned
              simpa [resumeFetch, found, verdict] using
                WorkerStep.accepted suspended found verdict
  | transient applied => exact WorkerStep.failed busy
  | permanent applied => exact WorkerStep.failed busy

theorem resumeMarkDeleted_step {config : CleanConfig} {state : State} {worker : Nat}
    {messageId : MessageId} {rawId : UUID} {reason : String} {attempt : Nat}
    (reply : Reply)
    (suspended : state.workers worker = .markDeleted messageId rawId reason attempt) :
    WorkerStep config state worker reply
      (resumeMarkDeleted config state worker messageId rawId reason attempt
        reply.outcome) := by
  by_cases applied : reply.outcome.applied = true
  · simpa [resumeMarkDeleted, applied] using
      WorkerStep.marked reply.outcome suspended applied
  · have lost : reply.outcome ≠ .done := by
      intro answered
      exact applied (by rw [answered]; rfl)
    simpa [resumeMarkDeleted, applied] using
      @WorkerStep.markLost config _ _ reply _ _ _ _ reply.outcome suspended lost

theorem resumeAlreadyCleaned_step {config : CleanConfig} {state : State} {worker : Nat}
    {messageId : MessageId} {rawId : UUID} {title body : String} (reply : Reply)
    (suspended : state.workers worker = .alreadyCleaned messageId rawId title body) :
    WorkerStep config state worker reply
      (resumeAlreadyCleaned config state worker messageId rawId title body reply) := by
  have busy : state.workers worker ≠ .waiting := by simp [suspended]
  cases outcome : reply.outcome with
  | done =>
      cases found : alreadyCleaned state.cleanedNews rawId with
      | true =>
          simpa [resumeAlreadyCleaned, outcome, found] using
            WorkerStep.duplicate suspended outcome found
      | false =>
          simpa [resumeAlreadyCleaned, outcome, found] using
            WorkerStep.unseen suspended outcome found
  | transient applied =>
      simpa [resumeAlreadyCleaned, outcome] using WorkerStep.failed busy
  | permanent applied =>
      simpa [resumeAlreadyCleaned, outcome] using WorkerStep.failed busy

theorem resumeInsert_step {config : CleanConfig} {state : State} {worker : Nat}
    {messageId : MessageId} {cleaned : CleanedNews} {attempt : Nat}
    (reply : Reply)
    (suspended : state.workers worker = .insertCleanedNews messageId cleaned attempt) :
    WorkerStep config state worker reply
      (resumeInsert config state worker messageId cleaned attempt reply.outcome) := by
  have busy : state.workers worker ≠ .waiting := by simp [suspended]
  cases conflict : cleanedIdTaken state.cleanedNews cleaned.cleanedId with
  | true =>
      by_cases answered : reply.outcome = .done
      · simpa [resumeInsert, conflict, answered] using WorkerStep.failed busy
      · simpa [resumeInsert, conflict, answered] using
          @WorkerStep.insertLost config _ _ reply _ _ _ reply.outcome suspended answered
  | false =>
      cases applied : reply.outcome.applied with
      | true =>
          simpa [resumeInsert, conflict, applied] using
            @WorkerStep.inserted config _ _ reply _ _ _ reply.outcome suspended conflict
      | false =>
          have lost : reply.outcome ≠ .done := by
            intro answered
            rw [answered] at applied
            cases applied
          simpa [resumeInsert, conflict, applied] using
            @WorkerStep.insertLost config _ _ reply _ _ _ reply.outcome suspended lost

theorem resume_step {config : CleanConfig} {state after : State} {worker : Nat}
    {reply : Reply} (moved : resume config state worker reply = some after) :
    WorkerStep config state worker reply after := by
  unfold resume at moved
  split at moved
  · cases moved
  · rename_i suspended
    exact Option.some.inj moved ▸ resumeFetch_step reply suspended
  · rename_i suspended
    exact Option.some.inj moved ▸ resumeMarkDeleted_step reply suspended
  · rename_i suspended
    exact Option.some.inj moved ▸ resumeAlreadyCleaned_step reply suspended
  · rename_i suspended
    exact Option.some.inj moved ▸ resumeInsert_step reply suspended
  · rename_i messageId cleaned suspended
    have busy : state.workers worker ≠ .waiting := by simp [suspended]
    rw [← Option.some.inj moved]
    cases applied : reply.outcome.applied with
    | true =>
        by_cases answered : reply.outcome = .done
        · simpa [resumePublish, answered, Attempt.applied] using
            @WorkerStep.published config _ _ reply _ _ _ suspended (Or.inl rfl)
        · simpa [resumePublish, applied, answered] using
            @WorkerStep.published config _ _ reply _ _ _ suspended (Or.inr rfl)
    | false =>
        have lost : reply.outcome ≠ .done := by
          intro answered
          rw [answered] at applied
          cases applied
        simpa [resumePublish, applied, lost] using WorkerStep.failed busy
  · rename_i messageId suspended
    have busy : state.workers worker ≠ .waiting := by simp [suspended]
    rw [← Option.some.inj moved]
    cases applied : reply.outcome.applied with
    | true =>
        simpa [resumeAck, applied] using @WorkerStep.acked config _ _ reply _ suspended
    | false => simpa [resumeAck, applied] using WorkerStep.failed busy

/-- A resumption leaves the queue and the other workers alone, and the tables
and streams only grow. -/
theorem WorkerStep.frame {config : CleanConfig} {state after : State} {worker : Nat}
    {reply : Reply} (moved : WorkerStep config state worker reply after) :
    after.queue = state.queue ∧ Grows state after ∧
      (∀ other, other ≠ worker → after.workers other = state.workers other) ∧
      after.stream.fields = state.stream.fields := by
  have still (next : Worker) (other : Nat) (apart : other ≠ worker) :
      Function.update state.workers worker next other = state.workers other := by
    simp [apart]
  have same := Grows.refl state
  cases moved with
  | failed => exact ⟨rfl, grows_setWorker same _ _, still _, rfl⟩
  | skipped => exact ⟨rfl, grows_setWorker same _ _, still _, rfl⟩
  | rejecting => exact ⟨rfl, grows_setWorker same _ _, still _, rfl⟩
  | accepted => exact ⟨rfl, grows_setWorker same _ _, still _, rfl⟩
  | marked =>
      exact ⟨rfl, grows_setWorker (grows_updateDeleted state _ _) _ _, still _, rfl⟩
  | markLost => exact ⟨rfl, grows_setWorker same _ _, still _, rfl⟩
  | duplicate => exact ⟨rfl, grows_setWorker same _ _, still _, rfl⟩
  | unseen => exact ⟨rfl, grows_setWorker same _ _, still _, rfl⟩
  | inserted =>
      exact ⟨rfl, ⟨same.fields, same.articles,
        fun _ member => List.mem_cons_of_mem _ member, same.published⟩, still _, rfl⟩
  | insertLost => exact ⟨rfl, grows_setWorker same _ _, still _, rfl⟩
  | published =>
      exact ⟨rfl, ⟨same.fields, same.articles, same.cleaned,
        fun _ member => List.mem_cons_of_mem _ member⟩, still _, rfl⟩
  | acked =>
      exact ⟨rfl, ⟨same.fields, same.articles, same.cleaned, same.published⟩,
        still _, rfl⟩

/-! ## The other actions -/

theorem enqueue_frame (state : State) (ids : List MessageId)
    (stream : StreamGroup MessageId RawIdField) (replied : Bool) :
    (enqueue state ids stream replied).rawNews = state.rawNews ∧
      (enqueue state ids stream replied).cleanedNews = state.cleanedNews ∧
      (enqueue state ids stream replied).published = state.published ∧
      (enqueue state ids stream replied).workers = state.workers ∧
      (enqueue state ids stream replied).stream = stream := by
  unfold enqueue
  split
  · split <;> exact ⟨rfl, rfl, rfl, rfl, rfl⟩
  · exact ⟨rfl, rfl, rfl, rfl, rfl⟩

theorem dequeue_cases {config : CleanConfig} {state after : State} {worker : Nat}
    (moved : dequeue config state worker = some after) :
    ∃ message rest, worker < config.workerConcurrency ∧ state.queue = message :: rest ∧
      ((message.rawId = none ∧ after = { state with queue := rest }) ∨
        ∃ rawId, message.rawId = some rawId ∧
          after = { state with queue := rest }.setWorker worker
            (.fetchRawNews message.messageId rawId)) := by
  unfold dequeue at moved
  split at moved
  · rename_i idle
    split at moved
    · cases moved
    · rename_i message rest queued
      refine ⟨message, rest, idle.1, queued, ?_⟩
      cases named : message.rawId with
      | none => simp [named] at moved; exact Or.inl ⟨rfl, moved.symm⟩
      | some rawId => simp [named] at moved; exact Or.inr ⟨rawId, rfl, moved.symm⟩
  · cases moved

theorem resume_busy {config : CleanConfig} {state after : State} {worker : Nat}
    {reply : Reply} (moved : resume config state worker reply = some after) :
    state.workers worker ≠ .waiting := by
  intro idle
  simp [resume, idle] at moved

/-- Only a resumed worker writes, inserts or publishes. -/
theorem step_frame {config : CleanConfig} {state after : State} {action : Action}
    (moved : step config state action = some after)
    (elsewhere : ∀ worker reply, action ≠ .resume worker reply) :
    after.cleanedNews = state.cleanedNews ∧ after.published = state.published ∧
      ∀ worker, after.workers worker = state.workers worker ∨
        after.workers worker = .waiting ∨
        (worker < config.workerConcurrency ∧
          ∃ messageId rawId, after.workers worker = .fetchRawNews messageId rawId) := by
  cases action with
  | insertRaw raw =>
      simp only [step] at moved
      split at moved
      · cases moved
        exact ⟨rfl, rfl, fun _ => Or.inl rfl⟩
      · cases moved
  | announce messageId field =>
      simp only [step] at moved
      split at moved
      · split at moved
        · obtain ⟨stream, -, rfl⟩ := Option.map_eq_some_iff.mp moved
          exact ⟨rfl, rfl, fun _ => Or.inl rfl⟩
        · cases moved
      · obtain ⟨stream, -, rfl⟩ := Option.map_eq_some_iff.mp moved
        exact ⟨rfl, rfl, fun _ => Or.inl rfl⟩
  | readMessages count replied =>
      rw [← Option.some.inj moved]
      obtain ⟨-, cleaned, published, workers, -⟩ := enqueue_frame state
        (state.stream.readGroup count).1 (state.stream.readGroup count).2 replied
      exact ⟨cleaned, published, fun worker => Or.inl (congrFun workers worker)⟩
  | reclaimPending idle replied =>
      rw [← Option.some.inj moved]
      obtain ⟨-, cleaned, published, workers, -⟩ := enqueue_frame state
        (state.stream.autoclaim (state.claimable idle)).1
        (state.stream.autoclaim (state.claimable idle)).2 replied
      exact ⟨cleaned, published, fun worker => Or.inl (congrFun workers worker)⟩
  | dequeue worker =>
      obtain ⟨message, rest, within, -, ⟨-, rfl⟩ | ⟨rawId, -, rfl⟩⟩ := dequeue_cases moved
      · exact ⟨rfl, rfl, fun _ => Or.inl rfl⟩
      · refine ⟨rfl, rfl, fun other => ?_⟩
        by_cases same : other = worker
        · exact Or.inr (Or.inr ⟨same ▸ within, message.messageId, rawId, by simp [same]⟩)
        · exact Or.inl (by simp [same])
  | resume worker reply => exact absurd rfl (elsewhere worker reply)
  | crash =>
      cases moved
      exact ⟨rfl, rfl, fun _ => Or.inr (Or.inl rfl)⟩

/-- Only the configured workers ever run. -/
theorem worker_lt_of_busy {config : CleanConfig} {allowed : State → Action → Prop}
    {past : List State} {state : State}
    (trace : (cleaningMachine config).Trace allowed past state) :
    ∀ worker, state.workers worker ≠ .waiting → worker < config.workerConcurrency := by
  apply trace.invariant
  · intro start begins worker busy
    rw [show start = initial from begins] at busy
    exact absurd rfl busy
  · intro before action after held _ moved worker busy
    by_cases resumed : ∃ other reply, action = .resume other reply
    · obtain ⟨other, reply, rfl⟩ := resumed
      by_cases same : worker = other
      · exact held worker (same ▸ resume_busy moved)
      · rw [(resume_step moved).frame.2.2.1 worker same] at busy
        exact held worker busy
    · obtain ⟨-, -, workers⟩ := step_frame moved
        (fun other reply same => resumed ⟨other, reply, same⟩)
      rcases workers worker with same | idle | ⟨within, -⟩
      · exact held worker (same ▸ busy)
      · exact absurd idle busy
      · exact within

end WealthFinder.Ingestion
