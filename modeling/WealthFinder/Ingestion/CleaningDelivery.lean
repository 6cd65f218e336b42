import WealthFinder.Tables
import WealthFinder.Ingestion.CleaningSteps

/-!
# When the cleaner acknowledges an article

The insert, the publish and the acknowledgement are separate awaits, and the
early return for an article that already has a row skips the publish.  A lost
publish followed by a redelivery therefore swallows the article.  Every run in
which the early return meets only announced articles acknowledges soundly.
-/

set_option autoImplicit false

namespace WealthFinder.Ingestion

open Machine

/-- An acknowledged message names an article that is missing, was rejected, or
has an announced row. -/
def AckSound (state : State) : Prop :=
  ∀ messageId, state.stream.Acknowledged messageId →
    ∃ rawId, state.stream.fields messageId = some (.uuid rawId) ∧
      (state.rawNews rawId = none ∨ SettledArticle state rawId)

/-- An article with a committed row and an acknowledged message was announced. -/
def NothingSwallowed (state : State) : Prop :=
  ∀ row ∈ state.cleanedNews,
    (∃ messageId, state.stream.fields messageId = some (.uuid row.rawId) ∧
      state.stream.Acknowledged messageId) →
    PublishedArticle state row.rawId

/-- The early return of step 4 is taken only for an article one of whose rows
has been announced. -/
def earlyReturnAnnounced (state : State) : Action → Prop
  | .resume worker reply => ∀ messageId rawId title body,
      state.workers worker = .alreadyCleaned messageId rawId title body →
      reply.outcome = .done → alreadyCleaned state.cleanedNews rawId = true →
      PublishedArticle state rawId
  | _ => True

/-! ## The invariant -/

/-- What a suspended worker relies on. -/
def WorkerSound (config : CleanConfig) (state : State) : Worker → Prop
  | .waiting => True
  | .fetchRawNews messageId rawId =>
      state.stream.fields messageId = some (.uuid rawId)
  | .markDeleted messageId rawId _ _ =>
      state.stream.fields messageId = some (.uuid rawId) ∧
        FailsValidation config state rawId
  | .alreadyCleaned messageId rawId _ _ =>
      state.stream.fields messageId = some (.uuid rawId) ∧
        PassesValidation config state rawId
  | .insertCleanedNews messageId cleaned _ =>
      state.stream.fields messageId = some (.uuid cleaned.rawId) ∧
        PassesValidation config state cleaned.rawId
  | .publishCleaned messageId cleaned =>
      state.stream.fields messageId = some (.uuid cleaned.rawId) ∧
        cleaned ∈ state.cleanedNews
  | .ack messageId => ∃ rawId,
      state.stream.fields messageId = some (.uuid rawId) ∧ SettledArticle state rawId

theorem WorkerSound.grow {config : CleanConfig} {before after : State}
    (grows : Grows before after) {worker : Worker}
    (sound : WorkerSound config before worker) : WorkerSound config after worker := by
  cases worker with
  | waiting => trivial
  | fetchRawNews messageId rawId => exact grows.fields _ _ sound
  | markDeleted messageId rawId reason attempt =>
      exact ⟨grows.fields _ _ sound.1, grows.failsValidation sound.2⟩
  | alreadyCleaned messageId rawId title body =>
      exact ⟨grows.fields _ _ sound.1, grows.passesValidation sound.2⟩
  | insertCleanedNews messageId cleaned attempt =>
      exact ⟨grows.fields _ _ sound.1, grows.passesValidation sound.2⟩
  | publishCleaned messageId cleaned =>
      exact ⟨grows.fields _ _ sound.1, grows.cleaned _ sound.2⟩
  | ack messageId =>
      obtain ⟨rawId, known, settled⟩ := sound
      exact ⟨rawId, grows.fields _ _ known, grows.settledArticle settled⟩

structure DeliverySound (config : CleanConfig) (state : State) : Prop where
  stream : state.stream.WellFormed
  stored : ∀ messageId rawId, state.stream.fields messageId = some (.uuid rawId) →
    ∃ raw, state.rawNews rawId = some raw
  queued : ∀ message ∈ state.queue, ∀ rawId, message.rawId = some rawId →
    state.stream.fields message.messageId = some (.uuid rawId)
  workers : ∀ worker, WorkerSound config state (state.workers worker)
  rows : ∀ row ∈ state.cleanedNews, PassesValidation config state row.rawId
  rejected : ∀ rawId, RejectedArticle state rawId → FailsValidation config state rawId
  acknowledged : ∀ messageId, state.stream.Acknowledged messageId →
    ∃ rawId, state.stream.fields messageId = some (.uuid rawId) ∧
      SettledArticle state rawId

theorem deliverySound_initial (config : CleanConfig) : DeliverySound config initial where
  stream := StreamGroup.wellFormed_empty
  stored := by intro _ _ known; cases known
  queued := by intro _ member; cases member
  workers := fun _ => trivial
  rows := by intro _ member; cases member
  rejected := by rintro _ ⟨_, found, _⟩; cases found
  acknowledged := fun _ acknowledged =>
    absurd acknowledged (StreamGroup.not_acknowledged_empty _)

theorem DeliverySound.ackSound {config : CleanConfig} {state : State}
    (sound : DeliverySound config state) : AckSound state := by
  intro messageId acknowledged
  obtain ⟨rawId, known, settled⟩ := sound.acknowledged messageId acknowledged
  exact ⟨rawId, known, Or.inr settled⟩

theorem DeliverySound.nothingSwallowed {config : CleanConfig} {state : State}
    (sound : DeliverySound config state) : NothingSwallowed state := by
  rintro row member ⟨messageId, known, acknowledged⟩
  obtain ⟨rawId, same, settled⟩ := sound.acknowledged messageId acknowledged
  have article : rawId = row.rawId := by
    rw [known, Option.some.injEq] at same
    exact (RawIdField.uuid.inj same).symm
  subst article
  rcases settled with rejected | published
  · exact absurd (sound.rows row member) (not_passes_of_fails (sound.rejected _ rejected))
  · exact published

/-! ## Reading, reclaiming and announcing -/

theorem toStreamMessages_mem {entries : List (MessageId × RawIdField)}
    {messages : List StreamMessage} (converted : toStreamMessages entries = some messages)
    {message : StreamMessage} (member : message ∈ messages) {rawId : UUID}
    (named : message.rawId = some rawId) :
    (message.messageId, RawIdField.uuid rawId) ∈ entries := by
  induction entries generalizing messages with
  | nil =>
      simp only [toStreamMessages, Option.some.injEq] at converted
      subst converted
      cases member
  | cons entry rest ih =>
      obtain ⟨id, field⟩ := entry
      cases field with
      | absent => cases converted
      | invalid =>
          obtain ⟨tail, tailConverted, rfl⟩ := Option.map_eq_some_iff.mp converted
          rcases List.mem_cons.mp member with rfl | member
          · cases named
          · exact List.mem_cons_of_mem _ (ih tailConverted member)
      | uuid other =>
          obtain ⟨tail, tailConverted, rfl⟩ := Option.map_eq_some_iff.mp converted
          rcases List.mem_cons.mp member with rfl | member
          · cases named
            exact List.mem_cons_self
          · exact List.mem_cons_of_mem _ (ih tailConverted member)

theorem withFields_mem {stream : StreamGroup MessageId RawIdField}
    {ids : List MessageId} {id : MessageId} {field : RawIdField}
    (member : (id, field) ∈ withFields stream ids) : stream.fields id = some field := by
  obtain ⟨other, -, found⟩ := List.mem_filterMap.mp member
  obtain ⟨value, known, pair⟩ := Option.map_eq_some_iff.mp found
  cases pair
  exact known

theorem enqueue_queued {state : State} {ids : List MessageId}
    {stream : StreamGroup MessageId RawIdField} {replied : Bool}
    {message : StreamMessage}
    (member : message ∈ (enqueue state ids stream replied).queue) :
    message ∈ state.queue ∨ ∀ rawId, message.rawId = some rawId →
      stream.fields message.messageId = some (.uuid rawId) := by
  unfold enqueue at member
  split at member
  · split at member
    · rename_i messages converted
      rcases List.mem_append.mp member with old | new
      · exact Or.inl old
      · right
        intro rawId named
        exact withFields_mem (toStreamMessages_mem converted new named)
    · exact Or.inl member
  · exact Or.inl member

/-- A command of the reader loops changes only delivery bookkeeping. -/
theorem DeliverySound.received {config : CleanConfig} {state : State}
    (sound : DeliverySound config state) {ids : List MessageId}
    {stream : StreamGroup MessageId RawIdField} (replied : Bool)
    (valid : stream.WellFormed) (same : stream.fields = state.stream.fields)
    (acknowledged : ∀ id, stream.Acknowledged id → state.stream.Acknowledged id) :
    DeliverySound config (enqueue state ids stream replied) := by
  obtain ⟨rawNews, cleanedNews, published, workers, newStream⟩ :=
    enqueue_frame state ids stream replied
  have grows : Grows state (enqueue state ids stream replied) := by
    refine ⟨?_, ?_, ?_, ?_⟩
    · intro id field known
      rw [newStream, same]
      exact known
    · intro rawId raw found
      exact ⟨raw, by rw [rawNews]; exact found, rfl, rfl, id⟩
    · intro row member
      rw [cleanedNews]
      exact member
    · intro cleanedId member
      rw [published]
      exact member
  constructor
  · rw [newStream]
    exact valid
  · intro messageId rawId known
    rw [newStream, same] at known
    rw [rawNews]
    exact sound.stored messageId rawId known
  · intro message member rawId named
    rw [newStream]
    rcases enqueue_queued member with old | new
    · rw [same]
      exact sound.queued message old rawId named
    · exact new rawId named
  · intro worker
    rw [workers]
    exact (sound.workers worker).grow grows
  · intro row member
    rw [cleanedNews] at member
    exact grows.passesValidation (sound.rows row member)
  · rintro rawId ⟨raw, found, deleted⟩
    rw [rawNews] at found
    exact grows.failsValidation (sound.rejected rawId ⟨raw, found, deleted⟩)
  · intro messageId done
    rw [newStream] at done
    obtain ⟨rawId, known, settled⟩ :=
      sound.acknowledged messageId (acknowledged messageId done)
    exact ⟨rawId, grows.fields _ _ known, grows.settledArticle settled⟩

theorem DeliverySound.announced {config : CleanConfig} {state : State}
    (sound : DeliverySound config state) {messageId : MessageId} {field : RawIdField}
    {stream : StreamGroup MessageId RawIdField}
    (added : state.stream.add messageId field = some stream)
    (ready : ∀ rawId, field = .uuid rawId → ∃ raw, state.rawNews rawId = some raw) :
    DeliverySound config { state with stream := stream } := by
  have grows : Grows state { state with stream := stream } :=
    ⟨fun _ _ known => StreamGroup.fields_add added known,
      fun _ raw found => ⟨raw, found, rfl, rfl, id⟩, fun _ h => h, fun _ h => h⟩
  constructor
  · exact StreamGroup.wellFormed_add sound.stream added
  · intro other rawId known
    obtain ⟨-, rfl⟩ := StreamGroup.add_cases added
    rcases of_update_some known with ⟨-, same⟩ | ⟨-, old⟩
    · exact ready rawId same.symm
    · exact sound.stored other rawId old
  · intro message member rawId named
    exact grows.fields _ _ (sound.queued message member rawId named)
  · exact fun worker => (sound.workers worker).grow grows
  · exact fun row member => grows.passesValidation (sound.rows row member)
  · exact fun rawId rejected => grows.failsValidation (sound.rejected rawId rejected)
  · intro other done
    obtain ⟨rawId, known, settled⟩ :=
      sound.acknowledged other (StreamGroup.acknowledged_add added done)
    exact ⟨rawId, grows.fields _ _ known, grows.settledArticle settled⟩

theorem DeliverySound.rawInserted {config : CleanConfig} {state : State}
    (sound : DeliverySound config state) {raw : RawNews}
    (absent : state.rawNews raw.rawId = none) (alive : raw.isDeleted = false) :
    DeliverySound config { state with
      rawNews := Function.update state.rawNews raw.rawId (some raw) } := by
  have grows : Grows state { state with
      rawNews := Function.update state.rawNews raw.rawId (some raw) } := by
    refine ⟨fun _ _ h => h, ?_, fun _ h => h, fun _ h => h⟩
    intro rawId old found
    have apart : rawId ≠ raw.rawId := by
      rintro rfl
      rw [absent] at found
      cases found
    exact ⟨old, by simpa [apart] using found, rfl, rfl, id⟩
  constructor
  · exact sound.stream
  · intro messageId rawId known
    obtain ⟨old, found⟩ := sound.stored messageId rawId known
    obtain ⟨later, foundLater, -⟩ := grows.articles rawId old found
    exact ⟨later, foundLater⟩
  · exact sound.queued
  · exact fun worker => (sound.workers worker).grow grows
  · exact fun row member => grows.passesValidation (sound.rows row member)
  · rintro rawId ⟨other, found, deleted⟩
    rcases of_update_some found with ⟨-, rfl⟩ | ⟨-, old⟩
    · rw [alive] at deleted
      cases deleted
    · exact grows.failsValidation (sound.rejected rawId ⟨other, old, deleted⟩)
  · intro messageId done
    obtain ⟨rawId, known, settled⟩ := sound.acknowledged messageId done
    exact ⟨rawId, known, grows.settledArticle settled⟩

/-! ## Resuming a worker -/

theorem fetchRawNews_some {rawNews : UUID → Option RawNews} {rawId : UUID}
    {raw : RawNews} (found : fetchRawNews rawNews rawId = some raw) :
    rawNews rawId = some raw := by
  unfold fetchRawNews at found
  split at found
  · rename_i other stored
    split at found
    · cases found
    · exact found ▸ stored
  · cases found

theorem fetchRawNews_none {rawNews : UUID → Option RawNews} {rawId : UUID}
    {raw : RawNews} (gone : fetchRawNews rawNews rawId = none)
    (stored : rawNews rawId = some raw) : raw.isDeleted = true := by
  by_contra alive
  simp [fetchRawNews, stored, alive] at gone

theorem updateDeleted_self {rawNews : UUID → Option RawNews} {rawId : UUID}
    {raw : RawNews} (stored : rawNews rawId = some raw) (reason : String) :
    updateDeleted rawNews rawId reason rawId =
      some { raw with isDeleted := true, deletedReason := some reason } := by
  simp [updateDeleted, stored]

/-- Once the resumed worker and the rows it wrote are sound, the rest of the
invariant follows from growth. -/
theorem DeliverySound.resumed {config : CleanConfig} {state after : State}
    {worker : Nat} {reply : Reply} (sound : DeliverySound config state)
    (moved : WorkerStep config state worker reply after)
    (valid : after.stream.WellFormed)
    (resumedSound : WorkerSound config after (after.workers worker))
    (rows : ∀ row ∈ after.cleanedNews,
      row ∈ state.cleanedNews ∨ PassesValidation config state row.rawId)
    (rejected : ∀ rawId, RejectedArticle after rawId →
      RejectedArticle state rawId ∨ FailsValidation config state rawId)
    (acknowledged : ∀ messageId, after.stream.Acknowledged messageId →
      state.stream.Acknowledged messageId ∨ ∃ rawId,
        state.stream.fields messageId = some (.uuid rawId) ∧
          SettledArticle state rawId) :
    DeliverySound config after := by
  obtain ⟨queue, grows, others, fields⟩ := moved.frame
  constructor
  · exact valid
  · intro messageId rawId known
    rw [fields] at known
    obtain ⟨raw, found⟩ := sound.stored messageId rawId known
    obtain ⟨later, foundLater, -⟩ := grows.articles rawId raw found
    exact ⟨later, foundLater⟩
  · intro message member rawId named
    rw [queue] at member
    exact grows.fields _ _ (sound.queued message member rawId named)
  · intro other
    by_cases same : other = worker
    · exact same ▸ resumedSound
    · rw [others other same]
      exact (sound.workers other).grow grows
  · intro row member
    rcases rows row member with old | passes
    · exact grows.passesValidation (sound.rows row old)
    · exact grows.passesValidation passes
  · intro rawId deleted
    rcases rejected rawId deleted with old | fails
    · exact grows.failsValidation (sound.rejected rawId old)
    · exact grows.failsValidation fails
  · intro messageId done
    have settledBefore : ∃ rawId,
        state.stream.fields messageId = some (.uuid rawId) ∧
          SettledArticle state rawId := by
      rcases acknowledged messageId done with old | new
      · exact sound.acknowledged messageId old
      · exact new
    obtain ⟨rawId, known, settled⟩ := settledBefore
    exact ⟨rawId, grows.fields _ _ known, grows.settledArticle settled⟩

/-- A worker that only goes on writes no row and acknowledges nothing. -/
theorem DeliverySound.wentOn {config : CleanConfig} {state after : State} {worker : Nat}
    {reply : Reply} (sound : DeliverySound config state)
    (moved : WorkerStep config state worker reply after)
    (stream : after.stream = state.stream) (rawNews : after.rawNews = state.rawNews)
    (cleanedNews : after.cleanedNews = state.cleanedNews)
    (resumedSound : WorkerSound config after (after.workers worker)) :
    DeliverySound config after := by
  refine sound.resumed moved (stream ▸ sound.stream) resumedSound ?_ ?_ ?_
  · intro row member
    rw [cleanedNews] at member
    exact Or.inl member
  · intro rawId deleted
    rw [RejectedArticle, rawNews] at deleted
    exact Or.inl deleted
  · intro messageId done
    rw [stream] at done
    exact Or.inl done

/-- After an attempt of a write the worker waits, tries again, or is past the write. -/
theorem workerSound_afterWrite {config : CleanConfig} {state : State} {attempt : Nat}
    {outcome : Attempt} {retrying returned : Worker}
    (again : WorkerSound config state retrying)
    (past : outcome = .done → WorkerSound config state returned) :
    WorkerSound config state (afterWrite config attempt outcome retrying returned) := by
  rcases afterWrite_cases config attempt outcome retrying returned with
    next | next | ⟨done, next⟩
  · rw [next]
    trivial
  · rw [next]
    exact again
  · rw [next]
    exact past done

theorem DeliverySound.workerStep {config : CleanConfig} (retries : 1 ≤ config.maxRetry)
    {state after : State} {worker : Nat} {reply : Reply}
    (sound : DeliverySound config state)
    (early : earlyReturnAnnounced state (.resume worker reply))
    (moved : WorkerStep config state worker reply after) : DeliverySound config after := by
  have held := sound.workers worker
  have grows := moved.frame.2.1
  have resumed := sound.resumed moved
  -- every case but `acked`, `marked` and `inserted` leaves the tables alone
  have wentOn := sound.wentOn moved
  cases moved with
  | failed suspended => exact wentOn rfl rfl rfl (by simp [WorkerSound])
  | @skipped messageId rawId suspended gone =>
      rw [suspended] at held
      obtain ⟨raw, stored⟩ := sound.stored messageId rawId held
      have settled : SettledArticle state rawId :=
        Or.inl ⟨raw, stored, fetchRawNews_none gone stored⟩
      refine wentOn rfl rfl rfl ?_
      simpa using ⟨rawId, held, grows.settledArticle settled⟩
  | @rejecting messageId rawId raw reason suspended found verdict =>
      rw [suspended] at held
      have fails : FailsValidation config state rawId :=
        ⟨raw, fetchRawNews_some found, by simp [verdict]⟩
      refine wentOn rfl rfl rfl ?_
      rw [setWorker_workers, Function.update_self, startWrite_of_retry retries]
      exact ⟨held, grows.failsValidation fails⟩
  | @accepted messageId rawId raw title body suspended found verdict =>
      rw [suspended] at held
      have passes : PassesValidation config state rawId :=
        ⟨raw, fetchRawNews_some found, by simp [verdict]⟩
      refine wentOn rfl rfl rfl ?_
      rw [setWorker_workers, Function.update_self]
      exact ⟨held, grows.passesValidation passes⟩
  | @marked messageId rawId reason attempt outcome suspended applied =>
      rw [suspended] at held
      obtain ⟨known, raw, stored, left⟩ := held
      refine resumed sound.stream ?_
        (fun _ member => Or.inl member) ?_ (fun _ done => Or.inl done)
      · rw [setWorker_workers, Function.update_self]
        refine workerSound_afterWrite ?_ ?_
        · exact ⟨known, grows.failsValidation ⟨raw, stored, left⟩⟩
        · intro done
          exact ⟨rawId, known, Or.inl ⟨_, updateDeleted_self stored reason, rfl⟩⟩
      · intro other rejected
        obtain ⟨found, same, deleted⟩ := rejected
        by_cases marked : other = rawId
        · subst marked
          exact Or.inr ⟨raw, stored, left⟩
        · exact Or.inl ⟨found, by simpa [State.setWorker, updateDeleted, marked] using same,
            deleted⟩
  | @markLost messageId rawId reason attempt outcome suspended lost =>
      rw [suspended] at held
      refine wentOn rfl rfl rfl ?_
      rw [setWorker_workers, Function.update_self]
      refine workerSound_afterWrite ⟨held.1, grows.failsValidation held.2⟩ ?_
      intro answered
      exact absurd answered lost
  | @duplicate messageId rawId title body suspended answered found =>
      rw [suspended] at held
      have published := early messageId rawId title body suspended answered found
      refine wentOn rfl rfl rfl ?_
      rw [setWorker_workers, Function.update_self]
      exact ⟨rawId, held.1, Or.inr (grows.publishedArticle published)⟩
  | @unseen messageId rawId title body suspended answered absent =>
      rw [suspended] at held
      refine wentOn rfl rfl rfl ?_
      rw [setWorker_workers, Function.update_self, startWrite_of_retry retries]
      exact ⟨held.1, grows.passesValidation held.2⟩
  | @inserted messageId cleaned attempt outcome suspended fresh =>
      rw [suspended] at held
      refine resumed sound.stream ?_ ?_
        (fun _ deleted => Or.inl deleted) (fun _ done => Or.inl done)
      · rw [setWorker_workers, Function.update_self]
        refine workerSound_afterWrite ⟨held.1, grows.passesValidation held.2⟩ ?_
        intro done
        exact ⟨held.1, List.mem_cons_self⟩
      · intro row member
        rcases List.mem_cons.mp member with rfl | old
        · exact Or.inr held.2
        · exact Or.inl old
  | @insertLost messageId cleaned attempt outcome suspended lost =>
      rw [suspended] at held
      refine wentOn rfl rfl rfl ?_
      rw [setWorker_workers, Function.update_self]
      refine workerSound_afterWrite ⟨held.1, grows.passesValidation held.2⟩ ?_
      intro answered
      exact absurd answered lost
  | @published messageId cleaned next suspended choice =>
      rw [suspended] at held
      refine wentOn rfl rfl rfl ?_
      rw [setWorker_workers, Function.update_self]
      rcases choice with rfl | rfl
      · exact ⟨cleaned.rawId, held.1,
          Or.inr ⟨cleaned, held.2, rfl, List.mem_cons_self⟩⟩
      · trivial
  | @acked messageId suspended =>
      rw [suspended] at held
      refine resumed
        (StreamGroup.wellFormed_ack state.stream sound.stream messageId)
        (by simp [WorkerSound])
        (fun _ member => Or.inl member) (fun _ deleted => Or.inl deleted) ?_
      intro other done
      rcases StreamGroup.acknowledged_ack state.stream messageId done with rfl | old
      · exact Or.inr held
      · exact Or.inl old

/-! ## Whole runs -/

theorem DeliverySound.dequeued {config : CleanConfig} {state after : State}
    {worker : Nat} (sound : DeliverySound config state)
    (moved : dequeue config state worker = some after) :
    DeliverySound config after := by
  obtain ⟨message, rest, -, queued, cases⟩ := dequeue_cases moved
  have kept : ∀ other ∈ rest, ∀ rawId, other.rawId = some rawId →
      state.stream.fields other.messageId = some (.uuid rawId) := by
    intro other member
    exact sound.queued other (queued ▸ List.mem_cons_of_mem _ member)
  rcases cases with ⟨-, rfl⟩ | ⟨rawId, named, rfl⟩
  · exact { sound with queued := kept }
  · have known := sound.queued message (queued ▸ List.mem_cons_self) rawId named
    refine { sound with queued := kept, workers := ?_ }
    intro other
    by_cases same : other = worker
    · rw [same, setWorker_workers, Function.update_self]
      exact known
    · rw [setWorker_workers, Function.update_of_ne same]
      exact sound.workers other

theorem DeliverySound.crashed {config : CleanConfig} {state : State}
    (sound : DeliverySound config state) :
    DeliverySound config { state with queue := [], workers := fun _ => .waiting } :=
  { sound with
    queued := by intro _ member; cases member
    workers := fun _ => trivial }

theorem DeliverySound.step {config : CleanConfig} (retries : 1 ≤ config.maxRetry)
    {state after : State} {action : Action} (sound : DeliverySound config state)
    (early : earlyReturnAnnounced state action)
    (moved : step config state action = some after) : DeliverySound config after := by
  cases action with
  | insertRaw raw =>
      simp only [Ingestion.step] at moved
      split at moved
      · rename_i fresh
        exact Option.some.inj moved ▸ sound.rawInserted fresh.1 fresh.2
      · cases moved
  | announce messageId field =>
      cases field with
      | absent =>
          obtain ⟨stream, added, rfl⟩ := Option.map_eq_some_iff.mp moved
          exact sound.announced added (by simp)
      | invalid =>
          obtain ⟨stream, added, rfl⟩ := Option.map_eq_some_iff.mp moved
          exact sound.announced added (by simp)
      | uuid rawId =>
          simp only [Ingestion.step] at moved
          split at moved
          · rename_i stored
            obtain ⟨stream, added, rfl⟩ := Option.map_eq_some_iff.mp moved
            refine sound.announced added ?_
            rintro other ⟨rfl⟩
            exact Option.isSome_iff_exists.mp stored
          · cases moved
  | readMessages count replied =>
      rw [← Option.some.inj moved]
      exact sound.received replied
        (StreamGroup.wellFormed_readGroup state.stream sound.stream count) rfl
        (fun _ => StreamGroup.acknowledged_readGroup state.stream count)
  | reclaimPending idle replied =>
      rw [← Option.some.inj moved]
      exact sound.received replied
        (StreamGroup.wellFormed_autoclaim state.stream sound.stream (state.claimable idle)) rfl
        (fun _ => StreamGroup.acknowledged_autoclaim state.stream (state.claimable idle))
  | dequeue worker => exact sound.dequeued moved
  | resume worker reply => exact sound.workerStep retries early (resume_step moved)
  | crash =>
      rw [← Option.some.inj moved]
      exact sound.crashed

theorem DeliverySound.of_trace {config : CleanConfig} (retries : 1 ≤ config.maxRetry)
    {past : List State} {state : State}
    (trace : (cleaningMachine config).Trace earlyReturnAnnounced past state) :
    DeliverySound config state := by
  apply trace.invariant
  · intro start begins
    rw [show start = initial from begins]
    exact deliverySound_initial config
  · intro before action after sound early moved
    exact sound.step retries early moved

/-- With at least one attempt per write, every run whose early returns meet
announced articles acknowledges soundly and swallows nothing. -/
theorem ackSound_of_earlyReturnAnnounced {config : CleanConfig}
    (retries : 1 ≤ config.maxRetry) {past : List State} {state : State}
    (trace : (cleaningMachine config).Trace earlyReturnAnnounced past state) :
    AckSound state ∧ NothingSwallowed state := by
  have sound := DeliverySound.of_trace retries trace
  exact ⟨sound.ackSound, sound.nothingSwallowed⟩

/-! ## Two runs -/

def failPublish (worker : Nat) (applied : Bool) : Action :=
  .resume worker ⟨.permanent applied, 0, 0⟩

/-- First delivery up to the publish, which fails; then the reclaimed copy. -/
def publishThenRedeliver (applied : Bool) : List Action :=
  [.insertRaw sampleRaw, .announce 7 (.uuid 1), .readMessages 10 true, .dequeue 0,
    succeed 0, succeed 0, succeed 0, failPublish 0 applied,
    .reclaimPending [7] true, .dequeue 0, succeed 0, succeed 0, succeed 0]

def earlyReturnCheck (state : State) : Action → Bool
  | .resume worker _ =>
      match state.workers worker with
      | .alreadyCleaned _ rawId _ _ =>
          !alreadyCleaned state.cleanedNews rawId ||
            state.cleanedNews.any fun row =>
              row.rawId == rawId && state.published.contains row.cleanedId
      | _ => true
  | _ => true

theorem earlyReturnCheck_sound {state : State} {action : Action}
    (checked : earlyReturnCheck state action = true) :
    earlyReturnAnnounced state action := by
  cases action with
  | resume worker reply =>
      intro messageId rawId title body suspended _ found
      simpa [earlyReturnCheck, suspended, found, PublishedArticle] using checked
  | insertRaw | announce | readMessages | reclaimPending | dequeue | crash => trivial

/-- The publish reached the server and only its reply was lost. -/
theorem ackSound_of_earlyReturnAnnounced_redelivered : ∃ past state,
    (cleaningMachine defaultConfig).Trace earlyReturnAnnounced past state ∧
    state.stream.Acknowledged 7 ∧ state.published ≠ [] ∧
    AckSound state ∧ NothingSwallowed state := by
  obtain ⟨past, state, trace, tested⟩ :=
    Trace.of_run (cleaningMachine defaultConfig) earlyReturnCheck
      (fun state => decide (state.stream.Acknowledged 7 ∧ state.published ≠ []))
      (fun _ _ _ _ => earlyReturnCheck_sound) rfl (publishThenRedeliver true) (by decide)
  obtain ⟨acknowledged, announced⟩ := of_decide_eq_true tested
  exact ⟨past, state, trace, acknowledged, announced,
    ackSound_of_earlyReturnAnnounced (by decide) trace⟩

/-- The publish never happened, and the second delivery acknowledges. -/
theorem redelivery_swallows : ¬ ∀ config past state,
    (cleaningMachine config).Trace anyAction past state →
    AckSound state ∧ NothingSwallowed state := by
  intro claim
  obtain ⟨past, state, trace, tested⟩ :=
    Trace.of_free_run (cleaningMachine defaultConfig)
      (fun state => decide (state.stream.fields 7 = some (.uuid 1) ∧
        state.stream.Acknowledged 7 ∧ alreadyCleaned state.cleanedNews 1 = true ∧
        state.published = []))
      rfl (publishThenRedeliver false) (by decide)
  obtain ⟨known, acknowledged, cleaned, silent⟩ := of_decide_eq_true tested
  obtain ⟨row, member, ofArticle⟩ : ∃ row ∈ state.cleanedNews, row.rawId = 1 := by
    simpa [alreadyCleaned] using cleaned
  obtain ⟨-, swallowed⟩ := claim defaultConfig past state trace
  obtain ⟨other, -, -, announced⟩ :=
    swallowed row member ⟨7, ofArticle ▸ known, acknowledged⟩
  rw [silent] at announced
  cases announced

end WealthFinder.Ingestion
