import WealthFinder.Ingestion.CleaningSteps

/-!
# One cleaned article per raw article

`_already_cleaned` and the insert are two awaits, and a reclaim may deliver a
message whose first copy is still being cleaned.  Two workers that both pass the
check both insert.  A run in which nobody else is about to insert the article
whenever a check comes back empty keeps `raw_id` unique.
-/

set_option autoImplicit false

namespace WealthFinder.Ingestion

open Machine

/-- No two rows of one article, and no article announced under two ids. -/
structure OneCleanedRow (state : State) : Prop where
  rows : (state.cleanedNews.map CleanedNews.rawId).Nodup
  signals : ∀ cleanedId ∈ state.published,
    ∃ row ∈ state.cleanedNews, row.cleanedId = cleanedId
  announced : ∀ first ∈ state.cleanedNews, ∀ second ∈ state.cleanedNews,
    first.rawId = second.rawId → first.cleanedId ∈ state.published →
    second.cleanedId ∈ state.published → first.cleanedId = second.cleanedId

/-- The row a worker is about to insert, perhaps not for the first time. -/
def Worker.inserting : Worker → Option CleanedNews
  | .insertCleanedNews _ cleaned _ => some cleaned
  | _ => none

def Worker.publishing : Worker → Option CleanedNews
  | .publishCleaned _ cleaned => some cleaned
  | _ => none

/-- While a check that comes back empty is answered, no other worker is about to
insert a row of the same article. -/
def insertsApart (state : State) : Action → Prop
  | .resume worker reply => ∀ messageId rawId title body,
      state.workers worker = .alreadyCleaned messageId rawId title body →
      reply.outcome = .done → alreadyCleaned state.cleanedNews rawId = false →
      ∀ other cleaned, other ≠ worker →
        (state.workers other).inserting = some cleaned → cleaned.rawId ≠ rawId
  | _ => True

/-! ## What a resumed worker can start and commit -/

theorem inserting_afterWrite {config : CleanConfig} {attempt : Nat} {outcome : Attempt}
    {retrying returned : Worker} {cleaned : CleanedNews}
    (inserting : (afterWrite config attempt outcome retrying returned).inserting =
      some cleaned) :
    retrying.inserting = some cleaned ∨ returned.inserting = some cleaned := by
  rcases afterWrite_cases config attempt outcome retrying returned with
    next | next | ⟨-, next⟩
  · simp [next, Worker.inserting] at inserting
  · exact Or.inl (next ▸ inserting)
  · exact Or.inr (next ▸ inserting)

theorem publishing_afterWrite {config : CleanConfig} {attempt : Nat} {outcome : Attempt}
    {retrying returned : Worker} {cleaned : CleanedNews}
    (publishing : (afterWrite config attempt outcome retrying returned).publishing =
      some cleaned) :
    retrying.publishing = some cleaned ∨
      (outcome = .done ∧ returned.publishing = some cleaned) := by
  rcases afterWrite_cases config attempt outcome retrying returned with
    next | next | ⟨answered, next⟩
  · simp [next, Worker.publishing] at publishing
  · exact Or.inl (next ▸ publishing)
  · exact Or.inr ⟨answered, next ▸ publishing⟩

/-- A worker comes to insert a row only by finding none of the article. -/
theorem WorkerStep.inserting {config : CleanConfig} {state after : State}
    {worker : Nat} {reply : Reply} (moved : WorkerStep config state worker reply after)
    (other : Nat) (cleaned : CleanedNews)
    (inserting : (after.workers other).inserting = some cleaned) :
    (state.workers other).inserting = some cleaned ∨
      (other = worker ∧ reply.outcome = .done ∧
        alreadyCleaned state.cleanedNews cleaned.rawId = false ∧
        ∃ messageId title body, state.workers worker =
          .alreadyCleaned messageId cleaned.rawId title body) := by
  by_cases same : other = worker
  · subst same
    cases moved with
    | failed | skipped | accepted | duplicate | acked =>
        simp [Worker.inserting] at inserting
    | rejecting =>
        simp only [setWorker_workers, Function.update_self, startWrite] at inserting
        split at inserting <;> simp [Worker.inserting] at inserting
    | marked | markLost =>
        simp only [setWorker_workers, Function.update_self] at inserting
        rcases inserting_afterWrite inserting with next | next <;>
          simp [Worker.inserting] at next
    | @unseen messageId rawId title body suspended answered absent =>
        simp only [setWorker_workers, Function.update_self, startWrite] at inserting
        split at inserting
        · cases inserting
          exact Or.inr ⟨rfl, answered, absent, messageId, title, body, suspended⟩
        · cases inserting
    | inserted _ suspended | insertLost _ suspended =>
        simp only [setWorker_workers, Function.update_self] at inserting
        rcases inserting_afterWrite inserting with next | next
        · exact Or.inl (by rw [suspended]; exact next)
        · cases next
    | published suspended choice =>
        rcases choice with rfl | rfl <;> simp [Worker.inserting] at inserting
  · rw [moved.frame.2.2.1 other same] at inserting
    exact Or.inl inserting

theorem WorkerStep.cleanedNews {config : CleanConfig} {state after : State}
    {worker : Nat} {reply : Reply} (moved : WorkerStep config state worker reply after) :
    after.cleanedNews = state.cleanedNews ∨
      ∃ cleaned, (state.workers worker).inserting = some cleaned ∧
        cleanedIdTaken state.cleanedNews cleaned.cleanedId = false ∧
        after.cleanedNews = cleaned :: state.cleanedNews := by
  cases moved with
  | @inserted messageId cleaned attempt outcome suspended fresh =>
      exact Or.inr ⟨cleaned, by simp [suspended, Worker.inserting], fresh, rfl⟩
  | failed | skipped | rejecting | accepted | marked | markLost | duplicate | unseen
  | insertLost | published | acked => exact Or.inl rfl

/-- A worker comes to publish a row only once the row is committed. -/
theorem WorkerStep.publishing {config : CleanConfig} (retries : 1 ≤ config.maxRetry)
    {state after : State} {worker : Nat} {reply : Reply}
    (moved : WorkerStep config state worker reply after) (other : Nat)
    (cleaned : CleanedNews)
    (publishing : (after.workers other).publishing = some cleaned) :
    (state.workers other).publishing = some cleaned ∨ cleaned ∈ after.cleanedNews := by
  by_cases same : other = worker
  · subst same
    cases moved with
    | failed | skipped | accepted | duplicate | acked =>
        simp [Worker.publishing] at publishing
    | rejecting | unseen =>
        simp [startWrite_of_retry retries, Worker.publishing] at publishing
    | marked | markLost =>
        simp only [setWorker_workers, Function.update_self] at publishing
        rcases publishing_afterWrite publishing with next | ⟨-, next⟩ <;>
          simp [Worker.publishing] at next
    | inserted _ suspended fresh =>
        simp only [setWorker_workers, Function.update_self] at publishing
        rcases publishing_afterWrite publishing with next | ⟨-, next⟩
        · cases next
        · cases next
          exact Or.inr List.mem_cons_self
    | insertLost _ suspended lost =>
        simp only [setWorker_workers, Function.update_self] at publishing
        rcases publishing_afterWrite publishing with next | ⟨answered, -⟩
        · cases next
        · exact absurd answered lost
    | published suspended choice =>
        rcases choice with rfl | rfl <;> simp [Worker.publishing] at publishing
  · rw [moved.frame.2.2.1 other same] at publishing
    exact Or.inl publishing

theorem WorkerStep.signals {config : CleanConfig} {state after : State}
    {worker : Nat} {reply : Reply} (moved : WorkerStep config state worker reply after) :
    after.published = state.published ∨
      ∃ cleaned, (state.workers worker).publishing = some cleaned ∧
        after.published = cleaned.cleanedId :: state.published := by
  cases moved with
  | @published messageId cleaned next suspended choice =>
      exact Or.inr ⟨cleaned, by simp [suspended, Worker.publishing], rfl⟩
  | failed | skipped | rejecting | accepted | marked | markLost | duplicate | unseen
  | inserted | insertLost | acked => exact Or.inl rfl

/-! ## The invariant -/

structure OverlapSound (state : State) : Prop where
  rows : (state.cleanedNews.map CleanedNews.rawId).Nodup
  inserting : ∀ worker cleaned, (state.workers worker).inserting = some cleaned →
    ∀ row ∈ state.cleanedNews, row.rawId = cleaned.rawId →
      row.cleanedId = cleaned.cleanedId
  apart : ∀ first second cleaned other, first ≠ second →
    (state.workers first).inserting = some cleaned →
    (state.workers second).inserting = some other → cleaned.rawId ≠ other.rawId
  publishing : ∀ worker cleaned, (state.workers worker).publishing = some cleaned →
    cleaned ∈ state.cleanedNews
  signals : ∀ cleanedId ∈ state.published,
    ∃ row ∈ state.cleanedNews, row.cleanedId = cleanedId

theorem overlapSound_initial : OverlapSound initial where
  rows := List.nodup_nil
  inserting := by intro _ _ inserting; cases inserting
  apart := by intro _ _ _ _ _ inserting; cases inserting
  publishing := by intro _ _ publishing; cases publishing
  signals := by intro _ member; cases member

theorem OverlapSound.oneCleanedRow {state : State} (sound : OverlapSound state) :
    OneCleanedRow state where
  rows := sound.rows
  signals := sound.signals
  announced := by
    intro first firstRow second secondRow sameArticle _ _
    rw [List.inj_on_of_nodup_map sound.rows firstRow secondRow sameArticle]

theorem alreadyCleaned_false {cleanedNews : List CleanedNews} {rawId : UUID}
    (absent : alreadyCleaned cleanedNews rawId = false) :
    ∀ row ∈ cleanedNews, row.rawId ≠ rawId := by
  intro row member same
  rw [alreadyCleaned, List.any_eq_false] at absent
  exact absent row member (by simp [same])

theorem cleanedIdTaken_false {cleanedNews : List CleanedNews} {cleanedId : UUID}
    (fresh : cleanedIdTaken cleanedNews cleanedId = false) :
    ∀ row ∈ cleanedNews, row.cleanedId ≠ cleanedId := by
  intro row member same
  rw [cleanedIdTaken, List.any_eq_false] at fresh
  exact fresh row member (by simp [same])

/-- The primary key refuses the second insert of one worker, and the others are
about to insert other articles. -/
theorem OverlapSound.committed {state after : State} {worker : Nat}
    {cleaned : CleanedNews} (sound : OverlapSound state)
    (inserting : (state.workers worker).inserting = some cleaned)
    (fresh : cleanedIdTaken state.cleanedNews cleaned.cleanedId = false)
    (committed : after.cleanedNews = cleaned :: state.cleanedNews) :
    (after.cleanedNews.map CleanedNews.rawId).Nodup ∧
    ∀ other row, (state.workers other).inserting = some row →
      ∀ stored ∈ after.cleanedNews, stored.rawId = row.rawId →
        stored.cleanedId = row.cleanedId := by
  have unseen : ∀ row ∈ state.cleanedNews, row.rawId ≠ cleaned.rawId := by
    intro row member same
    exact cleanedIdTaken_false fresh row member
      (sound.inserting worker cleaned inserting row member same)
  rw [committed]
  refine ⟨?_, ?_⟩
  · rw [List.map_cons, List.nodup_cons]
    refine ⟨?_, sound.rows⟩
    intro member
    obtain ⟨row, stored, same⟩ := List.mem_map.mp member
    exact unseen row stored same
  · intro other row otherInserting stored member same
    rcases List.mem_cons.mp member with rfl | old
    · by_cases sameWorker : other = worker
      · subst sameWorker
        rw [inserting, Option.some.injEq] at otherInserting
        rw [otherInserting]
      · exact absurd same.symm
          (sound.apart other worker row stored sameWorker otherInserting inserting)
    · exact sound.inserting other row otherInserting stored old same

theorem OverlapSound.workerStep {config : CleanConfig} (retries : 1 ≤ config.maxRetry)
    {state after : State} {worker : Nat} {reply : Reply} (sound : OverlapSound state)
    (apart : insertsApart state (.resume worker reply))
    (moved : WorkerStep config state worker reply after) : OverlapSound after := by
  have grows := moved.frame.2.1
  have tables : (after.cleanedNews.map CleanedNews.rawId).Nodup ∧
      ∀ other row, (state.workers other).inserting = some row →
        ∀ stored ∈ after.cleanedNews, stored.rawId = row.rawId →
          stored.cleanedId = row.cleanedId := by
    rcases moved.cleanedNews with same | ⟨cleaned, inserting, fresh, committed⟩
    · rw [same]
      exact ⟨sound.rows, sound.inserting⟩
    · exact sound.committed inserting fresh committed
  -- a worker that just passed the check faces neither rows nor rivals
  have started : ∀ (cleaned : CleanedNews) messageId title body,
      state.workers worker = .alreadyCleaned messageId cleaned.rawId title body →
      reply.outcome = .done → alreadyCleaned state.cleanedNews cleaned.rawId = false →
      after.cleanedNews = state.cleanedNews ∧
        ∀ other row, other ≠ worker → (after.workers other).inserting = some row →
          row.rawId ≠ cleaned.rawId := by
    intro cleaned messageId title body suspended answered absent
    refine ⟨?_, ?_⟩
    · rcases moved.cleanedNews with same | ⟨row, inserting, -, -⟩
      · exact same
      · simp [suspended, Worker.inserting] at inserting
    · intro other row rival inserting
      rw [moved.frame.2.2.1 other rival] at inserting
      exact apart messageId cleaned.rawId title body suspended answered absent other row
        rival inserting
  constructor
  · exact tables.1
  · intro other cleaned inserting row member same
    rcases moved.inserting other cleaned inserting with
      before | ⟨-, answered, absent, messageId, title, body, suspended⟩
    · exact tables.2 other cleaned before row member same
    · rw [(started cleaned messageId title body suspended answered absent).1] at member
      exact absurd same (alreadyCleaned_false absent row member)
  · intro first second cleaned other distinct firstInserting secondInserting
    rcases moved.inserting first cleaned firstInserting with
      firstBefore | ⟨rfl, answered, absent, messageId, title, body, suspended⟩
    · rcases moved.inserting second other secondInserting with
        secondBefore | ⟨rfl, answered, absent, messageId, title, body, suspended⟩
      · exact sound.apart first second cleaned other distinct firstBefore secondBefore
      · exact (started other messageId title body suspended answered absent).2 first
          cleaned distinct firstInserting
    · exact ((started cleaned messageId title body suspended answered absent).2 second
        other distinct.symm secondInserting).symm
  · intro other cleaned publishing
    rcases moved.publishing retries other cleaned publishing with before | committed
    · exact grows.cleaned cleaned (sound.publishing other cleaned before)
    · exact committed
  · intro cleanedId announced
    have kept : cleanedId ∈ state.published →
        ∃ row ∈ after.cleanedNews, row.cleanedId = cleanedId := by
      intro old
      obtain ⟨row, member, same⟩ := sound.signals cleanedId old
      exact ⟨row, grows.cleaned row member, same⟩
    rcases moved.signals with same | ⟨cleaned, publishing, added⟩
    · exact kept (same ▸ announced)
    · rw [added] at announced
      rcases List.mem_cons.mp announced with rfl | old
      · exact ⟨cleaned, grows.cleaned cleaned (sound.publishing worker cleaned publishing),
          rfl⟩
      · exact kept old

/-! ## Whole runs -/

theorem OverlapSound.framed {state after : State} (sound : OverlapSound state)
    (cleanedNews : after.cleanedNews = state.cleanedNews)
    (published : after.published = state.published)
    (workers : ∀ worker, after.workers worker = state.workers worker ∨
      ((after.workers worker).inserting = none ∧
        (after.workers worker).publishing = none)) :
    OverlapSound after := by
  have inserting : ∀ worker cleaned, (after.workers worker).inserting = some cleaned →
      (state.workers worker).inserting = some cleaned := by
    intro worker cleaned found
    rcases workers worker with same | ⟨idle, -⟩
    · rwa [same] at found
    · simp [idle] at found
  have publishing : ∀ worker cleaned, (after.workers worker).publishing = some cleaned →
      (state.workers worker).publishing = some cleaned := by
    intro worker cleaned found
    rcases workers worker with same | ⟨-, idle⟩
    · rwa [same] at found
    · simp [idle] at found
  constructor
  · rw [cleanedNews]
    exact sound.rows
  · rw [cleanedNews]
    intro worker cleaned found
    exact sound.inserting worker cleaned (inserting worker cleaned found)
  · intro first second cleaned other distinct firstFound secondFound
    exact sound.apart first second cleaned other distinct
      (inserting first cleaned firstFound) (inserting second other secondFound)
  · rw [cleanedNews]
    intro worker cleaned found
    exact sound.publishing worker cleaned (publishing worker cleaned found)
  · rw [cleanedNews, published]
    exact sound.signals

theorem OverlapSound.step {config : CleanConfig} (retries : 1 ≤ config.maxRetry)
    {state after : State} {action : Action} (sound : OverlapSound state)
    (apart : insertsApart state action) (moved : step config state action = some after) :
    OverlapSound after := by
  by_cases resumed : ∃ worker reply, action = .resume worker reply
  · obtain ⟨worker, reply, rfl⟩ := resumed
    exact sound.workerStep retries apart (resume_step moved)
  · obtain ⟨cleanedNews, published, workers⟩ := step_frame moved
      (fun worker reply same => resumed ⟨worker, reply, same⟩)
    refine sound.framed cleanedNews published ?_
    intro worker
    rcases workers worker with same | idle | ⟨-, messageId, rawId, fetching⟩
    · exact Or.inl same
    · exact Or.inr (by simp [idle, Worker.inserting, Worker.publishing])
    · exact Or.inr (by simp [fetching, Worker.inserting, Worker.publishing])

/-- With at least one attempt per write, every run in which an empty check meets
no other insert of its article keeps one row and one announced id per article. -/
theorem oneCleanedRow_of_insertsApart {config : CleanConfig}
    (retries : 1 ≤ config.maxRetry) {past : List State} {state : State}
    (trace : (cleaningMachine config).Trace insertsApart past state) :
    OneCleanedRow state := by
  have sound : OverlapSound state := by
    apply trace.invariant
    · intro start begins
      rw [show start = initial from begins]
      exact overlapSound_initial
    · intro before action after sound apart moved
      exact sound.step retries apart moved
  exact sound.oneCleanedRow

/-! ## Two runs -/

def insertsApartCheck (config : CleanConfig) (state : State) : Action → Bool
  | .resume worker _ =>
      match state.workers worker with
      | .alreadyCleaned _ rawId _ _ =>
          (List.range config.workerConcurrency).all fun other =>
            other == worker || (state.workers other).inserting.all (·.rawId != rawId)
      | _ => true
  | _ => true

theorem insertsApartCheck_sound {config : CleanConfig} {past : List State}
    {state : State} {action : Action}
    (trace : (cleaningMachine config).Trace insertsApart past state)
    (checked : insertsApartCheck config state action = true) :
    insertsApart state action := by
  cases action with
  | resume worker reply =>
      intro messageId rawId title body suspended _ _ other cleaned rival inserting
      have busy : state.workers other ≠ .waiting := by
        intro idle
        simp [idle, Worker.inserting] at inserting
      have within := worker_lt_of_busy trace other busy
      simp only [insertsApartCheck, suspended, List.all_eq_true, List.mem_range] at checked
      simpa [rival, inserting] using checked other within
  | insertRaw | announce | readMessages | reclaimPending | dequeue | crash => trivial

/-- The message is reclaimed while its first copy is being inserted.  `overlap`
says whether the second copy is checked before that insert. -/
def reclaimDuringInsert (overlap : Bool) : List Action :=
  [.insertRaw sampleRaw, .announce 7 (.uuid 1), .readMessages 10 true, .dequeue 0,
    succeed 0, succeed 0, .reclaimPending [7] true, .dequeue 1, succeed 1] ++
    (if overlap then [succeed 1, succeed 0, succeed 1] else [succeed 0, succeed 1]) ++
    [succeed 0, succeed 1]

/-- The second copy finds the row of the first. -/
theorem oneCleanedRow_of_insertsApart_reclaimed : ∃ past state,
    (cleaningMachine defaultConfig).Trace insertsApart past state ∧
    state.published ≠ [] ∧ OneCleanedRow state := by
  obtain ⟨past, state, trace, tested⟩ :=
    Trace.of_run (cleaningMachine defaultConfig) (insertsApartCheck defaultConfig)
      (fun state => decide (state.published ≠ []))
      (fun _ _ _ => insertsApartCheck_sound) rfl (reclaimDuringInsert false) (by decide)
  exact ⟨past, state, trace, of_decide_eq_true tested,
    oneCleanedRow_of_insertsApart (by decide) trace⟩

/-- Both copies pass the check, insert and publish. -/
theorem reclaim_duplicates : ¬ ∀ config past state,
    (cleaningMachine config).Trace anyAction past state → OneCleanedRow state := by
  intro claim
  obtain ⟨past, state, trace, tested⟩ :=
    Trace.of_free_run (cleaningMachine defaultConfig)
      (fun state => decide (state.cleanedNews.map CleanedNews.rawId = [1, 1] ∧
        state.published = [101, 100]))
      rfl (reclaimDuringInsert true) (by decide)
  obtain ⟨rows, -⟩ := of_decide_eq_true tested
  have unique := (claim defaultConfig past state trace).rows
  rw [rows] at unique
  exact absurd unique (by decide)

end WealthFinder.Ingestion
