import WealthFinder.Tables
import WealthFinder.Ingestion.CleaningDelivery

/-!
# The verdicts of the cleaner

Redeliveries, lost replies and workers that overlap do not change what becomes of an
article: `validate` of its text is the only thing that decides.  So no article is both
cleaned and rejected, and every reason and every cleaned text is the one of its raw row.
-/

set_option autoImplicit false

namespace WealthFinder.Ingestion

open Machine

variable {config : CleanConfig} {state after : State}

/-! ## The tables only grow -/

theorem grows_of_same (rawNews : after.rawNews = state.rawNews)
    (cleanedNews : after.cleanedNews = state.cleanedNews)
    (published : after.published = state.published)
    (fields : after.stream.fields = state.stream.fields) : Grows state after := by
  constructor
  · intro id field known
    rw [fields]
    exact known
  · intro rawId raw found
    exact ⟨raw, by rw [rawNews, found], rfl, rfl, id⟩
  · intro row member
    rw [cleanedNews]
    exact member
  · intro cleanedId member
    rw [published]
    exact member

theorem enqueue_grows {ids : List MessageId} {stream : StreamGroup MessageId RawIdField}
    (fields : stream.fields = state.stream.fields) (replied : Bool) :
    Grows state (enqueue state ids stream replied) := by
  obtain ⟨rawNews, cleanedNews, published, -, same⟩ := enqueue_frame state ids stream replied
  exact grows_of_same rawNews cleanedNews published (by rw [same, fields])

theorem step_grows {action : Action} (moved : step config state action = some after) :
    Grows state after := by
  cases action with
  | insertRaw raw =>
      simp only [step] at moved
      split at moved
      · rename_i fresh
        cases moved
        refine ⟨fun _ _ known => known, ?_, fun _ member => member, fun _ member => member⟩
        intro rawId old found
        have apart : rawId ≠ raw.rawId := by
          rintro rfl
          rw [fresh.1] at found
          cases found
        exact ⟨old, by simpa [apart] using found, rfl, rfl, id⟩
      · cases moved
  | announce messageId field =>
      have added : ∃ stream, state.stream.add messageId field = some stream ∧
          after = { state with stream := stream } := by
        simp only [step] at moved
        split at moved
        · split at moved
          · obtain ⟨stream, added, is⟩ := Option.map_eq_some_iff.mp moved
            exact ⟨stream, added, is.symm⟩
          · cases moved
        · obtain ⟨stream, added, is⟩ := Option.map_eq_some_iff.mp moved
          exact ⟨stream, added, is.symm⟩
      obtain ⟨stream, added, rfl⟩ := added
      exact ⟨fun _ _ known => StreamGroup.fields_add added known,
        fun _ raw found => ⟨raw, found, rfl, rfl, id⟩, fun _ member => member,
        fun _ member => member⟩
  | resume worker reply => exact (resume_step moved).frame.2.1
  | dequeue worker =>
      obtain ⟨message, rest, -, -, ⟨-, rfl⟩ | ⟨rawId, -, rfl⟩⟩ := dequeue_cases moved
      · exact grows_of_same rfl rfl rfl rfl
      · exact grows_of_same rfl rfl rfl rfl
  | crash =>
      cases moved
      exact grows_of_same rfl rfl rfl rfl
  | readMessages count replied =>
      rw [← Option.some.inj moved]
      refine enqueue_grows ?_ replied
      rfl
  | reclaimPending idle replied =>
      rw [← Option.some.inj moved]
      refine enqueue_grows ?_ replied
      rfl

/-- Only a resumed worker marks a row. -/
theorem step_rawNews {action : Action} (moved : step config state action = some after)
    (elsewhere : ∀ worker reply, action ≠ .resume worker reply) {rawId : UUID} {raw : RawNews}
    (found : after.rawNews rawId = some raw) :
    state.rawNews rawId = some raw ∨ raw.isDeleted = false := by
  cases action with
  | insertRaw new =>
      simp only [step] at moved
      split at moved
      · rename_i fresh
        cases moved
        rcases of_update_some found with ⟨-, rfl⟩ | ⟨-, old⟩
        · exact Or.inr fresh.2
        · exact Or.inl old
      · cases moved
  | announce messageId field =>
      simp only [step] at moved
      split at moved
      · split at moved
        · obtain ⟨stream, -, rfl⟩ := Option.map_eq_some_iff.mp moved
          exact Or.inl found
        · cases moved
      · obtain ⟨stream, -, rfl⟩ := Option.map_eq_some_iff.mp moved
        exact Or.inl found
  | resume worker reply => exact absurd rfl (elsewhere worker reply)
  | dequeue worker =>
      obtain ⟨message, rest, -, -, ⟨-, rfl⟩ | ⟨rawId, -, rfl⟩⟩ := dequeue_cases moved
      · exact Or.inl found
      · exact Or.inl found
  | crash =>
      cases moved
      exact Or.inl found
  | readMessages count replied =>
      have same := (enqueue_frame state (state.stream.readGroup count).1
        (state.stream.readGroup count).2 replied).1
      cases moved
      exact Or.inl (same ▸ found)
  | reclaimPending idle replied =>
      have same := (enqueue_frame state (state.stream.autoclaim (state.claimable idle)).1
        (state.stream.autoclaim (state.claimable idle)).2 replied).1
      cases moved
      exact Or.inl (same ▸ found)

/-! ## The invariant -/

/-- `validate` says this of the stored article. -/
def Judged (config : CleanConfig) (state : State) (rawId : UUID)
    (verdict : String ⊕ (String × String)) : Prop :=
  ∃ raw, state.rawNews rawId = some raw ∧ validate config raw = verdict

theorem Grows.judged {rawId : UUID} {verdict : String ⊕ (String × String)}
    (grows : Grows state after) (judged : Judged config state rawId verdict) :
    Judged config after rawId verdict := by
  obtain ⟨raw, found, is⟩ := judged
  obtain ⟨later, foundLater, title, body, -⟩ := grows.articles rawId raw found
  exact ⟨later, foundLater, by rw [validate_congr config title body, is]⟩

def RowJudged (config : CleanConfig) (state : State) (row : CleanedNews) : Prop :=
  Judged config state row.rawId (.inr (row.titleCleaned, row.bodyCleaned))

/-- What a suspended worker has found out. -/
def WorkerJudged (config : CleanConfig) (state : State) : Worker → Prop
  | .markDeleted _ rawId reason _ => Judged config state rawId (.inl reason)
  | .alreadyCleaned _ rawId title body => Judged config state rawId (.inr (title, body))
  | .insertCleanedNews _ cleaned _ => RowJudged config state cleaned
  | .publishCleaned _ cleaned => cleaned ∈ state.cleanedNews
  | _ => True

theorem WorkerJudged.grow (grows : Grows state after) {worker : Worker}
    (judged : WorkerJudged config state worker) : WorkerJudged config after worker := by
  cases worker with
  | markDeleted messageId rawId reason attempt => exact grows.judged judged
  | alreadyCleaned messageId rawId title body => exact grows.judged judged
  | insertCleanedNews messageId cleaned attempt => exact grows.judged judged
  | publishCleaned messageId cleaned => exact grows.cleaned cleaned judged
  | _ => trivial

def RejectedFor (config : CleanConfig) (raw : RawNews) : Prop :=
  ∃ reason, raw.deletedReason = some reason ∧ validate config raw = .inl reason

structure VerdictsSound (config : CleanConfig) (state : State) : Prop where
  workers : ∀ worker, WorkerJudged config state (state.workers worker)
  rows : ∀ row ∈ state.cleanedNews, RowJudged config state row
  rejected : ∀ rawId raw, state.rawNews rawId = some raw → raw.isDeleted = true →
    RejectedFor config raw
  announced : ∀ cleanedId ∈ state.published, ∃ row ∈ state.cleanedNews,
    row.cleanedId = cleanedId

theorem verdictsSound_initial : VerdictsSound config initial := by
  refine ⟨fun _ => trivial, ?_, ?_, ?_⟩
  · intro row member
    cases member
  · intro rawId raw found
    cases found
  · intro cleanedId member
    cases member

/-- What a step adds is judged, and the rest grows. -/
theorem VerdictsSound.carried (sound : VerdictsSound config state) (grows : Grows state after)
    (workers : ∀ worker, after.workers worker = state.workers worker ∨
      WorkerJudged config after (after.workers worker))
    (rows : ∀ row ∈ after.cleanedNews, row ∈ state.cleanedNews ∨ RowJudged config state row)
    (rejected : ∀ rawId raw, after.rawNews rawId = some raw → raw.isDeleted = true →
      state.rawNews rawId = some raw ∨ RejectedFor config raw)
    (announced : ∀ cleanedId ∈ after.published, cleanedId ∈ state.published ∨
      ∃ row ∈ state.cleanedNews, row.cleanedId = cleanedId) :
    VerdictsSound config after := by
  constructor
  · intro worker
    rcases workers worker with same | judged
    · rw [same]
      exact (sound.workers worker).grow grows
    · exact judged
  · intro row member
    rcases rows row member with old | judged
    · exact grows.judged (sound.rows row old)
    · exact grows.judged judged
  · intro rawId raw found deleted
    rcases rejected rawId raw found deleted with old | rejected
    · exact sound.rejected rawId raw old deleted
    · exact rejected
  · intro cleanedId member
    rcases announced cleanedId member with old | ⟨row, stored, is⟩
    · obtain ⟨row, stored, is⟩ := sound.announced cleanedId old
      exact ⟨row, grows.cleaned row stored, is⟩
    · exact ⟨row, grows.cleaned row stored, is⟩

theorem judged_afterWrite {attempt : Nat} {outcome : Attempt} {retrying returned : Worker}
    (again : WorkerJudged config state retrying)
    (past : outcome = .done → WorkerJudged config state returned) :
    WorkerJudged config state (afterWrite config attempt outcome retrying returned) := by
  rcases afterWrite_cases config attempt outcome retrying returned with
    next | next | ⟨done, next⟩
  · rw [next]
    trivial
  · rw [next]
    exact again
  · rw [next]
    exact past done

/-! ## Resuming a worker -/

theorem judged_others {worker : Nat} {next : Worker}
    (judged : WorkerJudged config after next) (other : Nat) :
    Function.update state.workers worker next other = state.workers other ∨
      WorkerJudged config after (Function.update state.workers worker next other) := by
  by_cases same : other = worker
  · right
    rw [same, Function.update_self]
    exact judged
  · left
    rw [Function.update_of_ne same]

/-- The worker goes on and writes nothing. -/
theorem VerdictsSound.goesOn (sound : VerdictsSound config state) (worker : Nat) {next : Worker}
    (judged : WorkerJudged config state next) :
    VerdictsSound config (state.setWorker worker next) :=
  sound.carried (grows_setWorker (Grows.refl state) worker next)
    (judged_others (judged.grow (grows_setWorker (Grows.refl state) worker next)))
    (fun _ member => Or.inl member) (fun _ _ found _ => Or.inl found)
    (fun _ member => Or.inl member)

theorem VerdictsSound.workerStep (retries : 1 ≤ config.maxRetry) {worker : Nat} {reply : Reply}
    (sound : VerdictsSound config state)
    (moved : WorkerStep config state worker reply after) : VerdictsSound config after := by
  have held := sound.workers worker
  have grows := moved.frame.2.1
  cases moved with
  | failed suspended => exact sound.goesOn worker trivial
  | skipped suspended gone => exact sound.goesOn worker trivial
  | @rejecting messageId rawId raw reason suspended found verdict =>
      rw [startWrite_of_retry retries]
      exact sound.goesOn worker ⟨raw, fetchRawNews_some found, verdict⟩
  | @accepted messageId rawId raw title body suspended found verdict =>
      exact sound.goesOn worker ⟨raw, fetchRawNews_some found, verdict⟩
  | @marked messageId rawId reason attempt outcome suspended applied =>
      rw [suspended] at held
      obtain ⟨raw, stored, verdict⟩ := held
      refine sound.carried grows ?_ (fun _ member => Or.inl member) ?_
        (fun _ member => Or.inl member)
      · refine judged_others (judged_afterWrite ?_ fun _ => trivial)
        exact grows.judged ⟨raw, stored, verdict⟩
      · intro other found is deleted
        by_cases same : other = rawId
        · right
          subst same
          have now : updateDeleted state.rawNews other reason other = some found := is
          rw [updateDeleted_self stored] at now
          cases now
          exact ⟨reason, rfl, verdict⟩
        · left
          have now : updateDeleted state.rawNews rawId reason other = some found := is
          rwa [updateDeleted, Function.update_of_ne same] at now
  | @markLost messageId rawId reason attempt outcome suspended lost =>
      rw [suspended] at held
      exact sound.goesOn worker (judged_afterWrite held fun _ => trivial)
  | duplicate suspended answered found => exact sound.goesOn worker trivial
  | @unseen messageId rawId title body suspended answered absent =>
      rw [suspended] at held
      rw [startWrite_of_retry retries]
      exact sound.goesOn worker held
  | @inserted messageId cleaned attempt outcome suspended fresh =>
      rw [suspended] at held
      refine sound.carried grows ?_ ?_ (fun _ _ found _ => Or.inl found)
        (fun _ member => Or.inl member)
      · refine judged_others (judged_afterWrite (grows.judged held) fun _ => ?_)
        exact List.mem_cons_self
      · intro row member
        rcases List.mem_cons.mp member with rfl | old
        · exact Or.inr held
        · exact Or.inl old
  | @insertLost messageId cleaned attempt outcome suspended lost =>
      rw [suspended] at held
      refine sound.goesOn worker (judged_afterWrite held ?_)
      intro answered
      exact absurd answered lost
  | @published messageId cleaned next suspended choice =>
      rw [suspended] at held
      refine sound.carried grows ?_ (fun _ member => Or.inl member)
        (fun _ _ found _ => Or.inl found) ?_
      · refine judged_others ?_
        rcases choice with rfl | rfl
        · trivial
        · trivial
      · intro cleanedId member
        rcases List.mem_cons.mp member with rfl | old
        · exact Or.inr ⟨cleaned, held, rfl⟩
        · exact Or.inl old
  | acked suspended =>
      exact sound.carried grows (judged_others trivial) (fun _ member => Or.inl member)
        (fun _ _ found _ => Or.inl found) (fun _ member => Or.inl member)

/-! ## Whole runs -/

theorem VerdictsSound.step (retries : 1 ≤ config.maxRetry) {action : Action}
    (sound : VerdictsSound config state) (moved : step config state action = some after) :
    VerdictsSound config after := by
  by_cases resumed : ∃ worker reply, action = .resume worker reply
  · obtain ⟨worker, reply, rfl⟩ := resumed
    exact sound.workerStep retries (resume_step moved)
  · have elsewhere (worker : Nat) (reply : Reply) : action ≠ .resume worker reply :=
      fun same => resumed ⟨worker, reply, same⟩
    obtain ⟨cleanedNews, published, workers⟩ := step_frame moved elsewhere
    refine sound.carried (step_grows moved) ?_ ?_ ?_ ?_
    · intro worker
      rcases workers worker with same | idle | ⟨-, messageId, rawId, fetching⟩
      · exact Or.inl same
      · right
        rw [idle]
        trivial
      · right
        rw [fetching]
        trivial
    · intro row member
      exact Or.inl (cleanedNews ▸ member)
    · intro rawId raw found deleted
      rcases step_rawNews moved elsewhere found with old | alive
      · exact Or.inl old
      · rw [alive] at deleted
        cases deleted
    · intro cleanedId member
      exact Or.inl (published ▸ member)

theorem verdictsSound (retries : 1 ≤ config.maxRetry) {past : List State}
    (trace : Trace (cleaningMachine config) anyAction past state) :
    VerdictsSound config state := by
  refine trace.invariant ?_ ?_
  · rintro state rfl
    exact verdictsSound_initial
  · intro state action after sound _ moved
    exact sound.step retries moved

theorem Grows.trans {first second third : State} (before : Grows first second)
    (later : Grows second third) : Grows first third := by
  constructor
  · intro id field known
    exact later.fields id field (before.fields id field known)
  · intro rawId raw found
    obtain ⟨middle, foundMiddle, title, body, deleted⟩ := before.articles rawId raw found
    obtain ⟨last, foundLast, lastTitle, lastBody, lastDeleted⟩ :=
      later.articles rawId middle foundMiddle
    exact ⟨last, foundLast, lastTitle.trans title, lastBody.trans body,
      fun rejected => lastDeleted (deleted rejected)⟩
  · intro row member
    exact later.cleaned row (before.cleaned row member)
  · intro cleanedId member
    exact later.published cleanedId (before.published cleanedId member)

/-! ## What `validate` says -/

theorem validate_accepts {raw : RawNews} {title body : String}
    (verdict : validate config raw = .inr (title, body)) :
    raw.title ≠ "" ∧ raw.body ≠ "" ∧ title = config.normalise raw.title ∧
      body = config.normalise raw.body ∧ config.bodyMinLength ≤ body.length := by
  unfold validate at verdict
  split at verdict
  · cases verdict
  · rename_i filled
    rw [not_or] at filled
    split at verdict
    · cases verdict
    · rename_i long
      cases verdict
      exact ⟨filled.1, filled.2, rfl, rfl, Int.not_lt.mp long⟩

theorem validate_rejects {raw : RawNews} {reason : String}
    (verdict : validate config raw = .inl reason) :
    (reason = "EMPTY_FIELD" ∧ (raw.title = "" ∨ raw.body = "")) ∨
      (reason = "BODY_TOO_SHORT" ∧ raw.title ≠ "" ∧ raw.body ≠ "" ∧
        ((config.normalise raw.body).length : Int) < config.bodyMinLength) := by
  unfold validate at verdict
  split at verdict
  · rename_i empty
    cases verdict
    exact Or.inl ⟨rfl, empty⟩
  · rename_i filled
    rw [not_or] at filled
    split at verdict
    · rename_i short
      cases verdict
      exact Or.inr ⟨rfl, filled.1, filled.2, short⟩
    · cases verdict

/-- A cleaned row is what `validate` makes of its raw row and a rejected row has the reason
`validate` gives, so no article is both; what is announced is stored; and neither a text nor
a verdict ever changes. -/
theorem cleaning_verdicts (retries : 1 ≤ config.maxRetry) {past : List State}
    (trace : Trace (cleaningMachine config) anyAction past state) :
    (∀ row ∈ state.cleanedNews, ∃ raw, state.rawNews row.rawId = some raw ∧
      raw.isDeleted = false ∧ raw.title ≠ "" ∧ raw.body ≠ "" ∧
      row.titleCleaned = config.normalise raw.title ∧
      row.bodyCleaned = config.normalise raw.body ∧
      config.bodyMinLength ≤ row.bodyCleaned.length) ∧
    (∀ rawId raw, state.rawNews rawId = some raw → raw.isDeleted = true →
      (raw.deletedReason = some "EMPTY_FIELD" ∧ (raw.title = "" ∨ raw.body = "")) ∨
      (raw.deletedReason = some "BODY_TOO_SHORT" ∧ raw.title ≠ "" ∧ raw.body ≠ "" ∧
        ((config.normalise raw.body).length : Int) < config.bodyMinLength)) ∧
    (∀ cleanedId ∈ state.published, ∃ row ∈ state.cleanedNews, row.cleanedId = cleanedId) ∧
    ∀ earlier ∈ past, (∀ row ∈ earlier.cleanedNews, row ∈ state.cleanedNews) ∧
      ∀ rawId raw, earlier.rawNews rawId = some raw →
        ∃ later, state.rawNews rawId = some later ∧ later.title = raw.title ∧
          later.body = raw.body ∧ (raw.isDeleted = true → later.isDeleted = true) := by
  have sound := verdictsSound retries trace
  refine ⟨?_, ?_, sound.announced, ?_⟩
  · intro row member
    obtain ⟨raw, stored, verdict⟩ := sound.rows row member
    have alive : raw.isDeleted = false := by
      by_contra deleted
      obtain ⟨reason, -, rejected⟩ :=
        sound.rejected row.rawId raw stored (Bool.not_eq_false _ ▸ deleted)
      rw [verdict] at rejected
      cases rejected
    obtain ⟨title, body, cleanedTitle, cleanedBody, long⟩ := validate_accepts verdict
    exact ⟨raw, stored, alive, title, body, cleanedTitle, cleanedBody, long⟩
  · intro rawId raw stored deleted
    obtain ⟨reason, is, rejected⟩ := sound.rejected rawId raw stored deleted
    rw [is]
    simpa using validate_rejects rejected
  · intro earlier member
    have stepwise (past : List State) (state : State) (action : Action) (after : State)
        (_ : Trace (cleaningMachine config) anyAction past state) (_ : anyAction state action)
        (moved : step config state action = some after) : Grows state after :=
      step_grows moved
    have grows := @Trace.relates_past _ _ _ _ Grows (fun _ _ _ => Grows.trans) stepwise _ _
      trace earlier member
    exact ⟨grows.cleaned, grows.articles⟩

/-- A good article and one without a body. -/
def oneOfEach : List Action :=
  [.insertRaw sampleRaw, .insertRaw { sampleRaw with rawId := 2, body := "" },
    .announce 7 (.uuid 1), .announce 8 (.uuid 2), .readMessages 10 true, .dequeue 0, .dequeue 1,
    succeed 0, succeed 1, succeed 0, succeed 1, succeed 0, succeed 0]

theorem cleaning_verdicts_sample : ∃ state : State,
    (state.cleanedNews.map CleanedNews.rawId = [1] ∧
      (state.rawNews 2).bind RawNews.deletedReason = some "EMPTY_FIELD") ∧
    ∀ cleanedId ∈ state.published, ∃ row ∈ state.cleanedNews, row.cleanedId = cleanedId := by
  obtain ⟨past, state, trace, seen⟩ := Trace.of_free_run (cleaningMachine defaultConfig)
    (fun state => state.cleanedNews.map CleanedNews.rawId = [1] ∧
      (state.rawNews 2).bind RawNews.deletedReason = some "EMPTY_FIELD") rfl oneOfEach
    (by decide +kernel)
  exact ⟨state, of_decide_eq_true seen, (cleaning_verdicts (by decide) trace).2.2.1⟩

end WealthFinder.Ingestion
