import WealthFinder.Ingestion.CrawlRounds

/-!
# Announcements of stored raw articles

When the reply of an applied INSERT or the publish after it is lost, the row stays
unannounced: every later INSERT of the url is absorbed and skips the publish.  A run
without such a loss announces every row it stores.
-/

set_option autoImplicit false

namespace WealthFinder.Ingestion

open Machine

section Executions
variable {Metadata : Type} {tools : TextTools Metadata} {maxRetry : Int} {world : CrawlWorld}

/-! ## One execution -/

/-- Every round announces the row it stores, from the world it meets. -/
def EachAnnounced (tools : TextTools Metadata) (maxRetry : Int) (sourceName : CrawlSourceName)
    (errorText : String) :
    CrawlWorld → List (CrawlSuccessItem Metadata × ItemAnswers) → Prop
  | _, [] => True
  | world, (item, answers) :: rest =>
      RowAnnounced tools maxRetry sourceName world item answers ∧
        match persistSuccess tools maxRetry sourceName errorText item answers world with
        | .ok _ next => EachAnnounced tools maxRetry sourceName errorText next rest
        | .error _ _ => True

def decideEachAnnounced (tools : TextTools Metadata) (maxRetry : Int)
    (sourceName : CrawlSourceName) (errorText : String) :
    ∀ world successes, Decidable
      (EachAnnounced tools maxRetry sourceName errorText world successes)
  | _, [] => isTrue trivial
  | world, (item, answers) :: rest =>
      have : Decidable (match persistSuccess tools maxRetry sourceName errorText item answers
          world with
        | .ok _ next => EachAnnounced tools maxRetry sourceName errorText next rest
        | .error _ _ => True) :=
        match persistSuccess tools maxRetry sourceName errorText item answers world with
        | .ok _ next => decideEachAnnounced tools maxRetry sourceName errorText next rest
        | .error _ _ => isTrue trivial
      inferInstanceAs (Decidable (_ ∧ _))

/-- No INSERT of the execution that stores its row loses its reply, and the publish
after it is applied. -/
def CrawlCall.announces (tools : TextTools Metadata) (maxRetry : Int)
    (call : CrawlCall Metadata) (world : CrawlWorld) : Prop :=
  match call.crawler with
  | .returned failures successes =>
      EachAnnounced tools maxRetry call.sourceName call.errorText
        (stateAfter (persistFailures maxRetry call.executionId call.sourceName failures world))
        successes
  | _ => True

instance (call : CrawlCall Metadata) (world : CrawlWorld) :
    Decidable (call.announces tools maxRetry world) :=
  have (crawler : CrawlerEnd Metadata) : Decidable (match crawler with
      | .returned failures successes => EachAnnounced tools maxRetry call.sourceName
          call.errorText (stateAfter
            (persistFailures maxRetry call.executionId call.sourceName failures world)) successes
      | _ => True) :=
    match crawler with
    | .returned _ _ => decideEachAnnounced _ _ _ _ _ _
    | .fatal _ => isTrue trivial
    | .raised _ => isTrue trivial
  this call.crawler

section Loop
variable {sourceName : CrawlSourceName} {errorText : String}
  {successes : List (CrawlSuccessItem Metadata × ItemAnswers)}

/-- A property that every round of the loop keeps. -/
theorem persistSuccesses_leaves {property : CrawlWorld → Prop}
    (round : ∀ entry ∈ successes, Keeps property
      (persistSuccess tools maxRetry sourceName errorText entry.1 entry.2)) :
    Keeps property (persistSuccesses tools maxRetry sourceName errorText successes) := by
  induction successes with
  | nil => exact keeps_pure ()
  | cons entry rest ih =>
      refine (round entry List.mem_cons_self).bind ?_
      intro _
      exact ih fun other member => round other (List.mem_cons_of_mem _ member)

theorem allAnnounced_loop (announced : AllAnnounced world)
    (each : EachAnnounced tools maxRetry sourceName errorText world successes) :
    AllAnnounced (stateAfter
      (persistSuccesses tools maxRetry sourceName errorText successes world)) := by
  induction successes generalizing world with
  | nil => exact announced
  | cons entry rest ih =>
      obtain ⟨item, answers⟩ := entry
      obtain ⟨first, others⟩ := each
      have round : AllAnnounced (stateAfter
          (persistSuccess tools maxRetry sourceName errorText item answers world)) :=
        allAnnounced_round announced first
      rw [persistSuccesses]
      cases ended : persistSuccess tools maxRetry sourceName errorText item answers world with
      | ok value next =>
          rw [ended] at round others
          rw [bind_of_ok ended]
          exact ih round others
      | error raised next =>
          rw [ended] at round
          rw [bind_of_error ended]
          exact round

/-- The first row that is stored without its announcement stays so to the loop's end,
since the later rounds draw other ids. -/
theorem unannounced_loop (sound : ArticlesSound world)
    (fresh : (successes.map fun entry => entry.2.rawId).Nodup)
    (lost : ¬ EachAnnounced tools maxRetry sourceName errorText world successes) :
    ∃ row, Unannounced row (stateAfter
      (persistSuccesses tools maxRetry sourceName errorText successes world)) := by
  induction successes generalizing world with
  | nil => exact absurd trivial lost
  | cons entry rest ih =>
      obtain ⟨item, answers⟩ := entry
      obtain ⟨first, others⟩ := List.nodup_cons.mp fresh
      rw [persistSuccesses]
      by_cases kept : RowAnnounced tools maxRetry sourceName world item answers
      · have round : ArticlesSound (stateAfter
            (persistSuccess tools maxRetry sourceName errorText item answers world)) :=
          articlesSound_round sound
        cases ended : persistSuccess tools maxRetry sourceName errorText item answers world with
        | ok value next =>
            rw [ended] at round
            rw [bind_of_ok ended]
            apply ih round others
            intro each
            apply lost
            refine ⟨kept, ?_⟩
            rw [ended]
            exact each
        | error raised next =>
            refine absurd ⟨kept, ?_⟩ lost
            rw [ended]
            trivial
      · have round : ∃ row, row.rawId = answers.rawId ∧ Unannounced row (stateAfter
            (persistSuccess tools maxRetry sourceName errorText item answers world)) :=
          unannounced_round sound kept
        obtain ⟨row, own, unannounced⟩ := round
        refine ⟨row, bind_leaves unannounced ?_⟩
        intro _
        apply persistSuccesses_leaves
        intro other member state
        apply unannounced_kept
        intro same
        apply first
        exact List.mem_map.mpr ⟨other, member, same.symm.trans own⟩

end Loop

section Execution
variable {property : CrawlWorld → Prop} {before : CrawlWorld} {call : CrawlCall Metadata}

/-- A property of the stored rows and the announcements alone. -/
def OfArticles (property : CrawlWorld → Prop) : Prop :=
  ∀ world errorLog completed, property world →
    property { world with errorLog := errorLog, completed := completed }

theorem publishCompleted_keeps (articles : OfArticles property) (executionId : String)
    (status : CrawlStatus) (detail : Option String) (answer : Attempt) (errorText : String) :
    Keeps property (publishCompleted executionId status detail answer errorText) := by
  refine publish_keeps ?_ answer errorText
  intro world holds
  exact articles world world.errorLog _ holds

/-- The handler of `execute` leaves rows and announcements alone. -/
theorem execute_leaves (articles : OfArticles property)
    (left : property (stateAfter (crawlAndPersist tools maxRetry call before))) :
    property (stateAfter (execute tools maxRetry call before)) := by
  refine tryCatch_leaves left ?_
  intro text world holds
  refine tryCatch_leaves ?_ fun _ => keeps_pure ()
  exact publishCompleted_keeps articles _ _ _ _ _ world holds

theorem execute_leaves_unreturned (articles : OfArticles property)
    (unreturned : ∀ failures successes, call.crawler ≠ .returned failures successes)
    (holds : property before) : property (stateAfter (execute tools maxRetry call before)) := by
  apply execute_leaves articles
  unfold crawlAndPersist
  cases crawled : call.crawler with
  | raised text => exact holds
  | fatal text => exact publishCompleted_keeps articles _ _ _ _ _ before holds
  | returned failures successes => exact absurd crawled (unreturned failures successes)

theorem execute_leaves_returned (articles : OfArticles property)
    {failures : List (CrawlFailItem × FailureAnswers)}
    {successes : List (CrawlSuccessItem Metadata × ItemAnswers)}
    (crawled : call.crawler = .returned failures successes)
    (left : property (stateAfter (persistSuccesses tools maxRetry call.sourceName call.errorText
      successes (stateAfter
        (persistFailures maxRetry call.executionId call.sourceName failures before))))) :
    property (stateAfter (execute tools maxRetry call before)) := by
  apply execute_leaves articles
  unfold crawlAndPersist
  rw [crawled]
  refine bind_leaves ?_ fun _ => publishCompleted_keeps articles _ _ _ _ _
  rw [persistResults, bind_of_ok (persistFailures_ok failures before)]
  exact left

theorem persistFailures_leaves (articles : OfArticles property) (holds : property before)
    (failures : List (CrawlFailItem × FailureAnswers)) : property (stateAfter
      (persistFailures maxRetry call.executionId call.sourceName failures before)) := by
  refine persistFailures_keeps ?_ failures before holds
  intro world rows held
  exact articles world rows world.completed held

theorem execute_keeps (articles : OfArticles property)
    (round : ∀ item answers, answers.rawId ∈ call.rawIds → Keeps property
      (persistSuccess tools maxRetry call.sourceName call.errorText item answers))
    (holds : property before) : property (stateAfter (execute tools maxRetry call before)) := by
  by_cases returned : ∃ failures successes, call.crawler = .returned failures successes
  · obtain ⟨failures, successes, crawled⟩ := returned
    apply execute_leaves_returned articles crawled
    refine persistSuccesses_leaves ?_ _ (persistFailures_leaves articles holds failures)
    intro entry member
    apply round
    rw [CrawlCall.rawIds, crawled]
    exact List.mem_map_of_mem member
  · apply execute_leaves_unreturned articles _ holds
    exact fun failures successes is => returned ⟨failures, successes, is⟩

theorem allAnnounced_execute (announced : AllAnnounced before)
    (announces : call.announces tools maxRetry before) :
    AllAnnounced (stateAfter (execute tools maxRetry call before)) := by
  have articles : OfArticles AllAnnounced := fun _ _ _ holds => holds
  cases crawled : call.crawler with
  | returned failures successes =>
      apply execute_leaves_returned articles crawled
      apply allAnnounced_loop (persistFailures_leaves articles announced failures)
      rw [CrawlCall.announces, crawled] at announces
      exact announces
  | fatal text | raised text =>
      apply execute_leaves_unreturned articles _ announced
      intro failures successes is
      cases crawled.symm.trans is

theorem articlesSound_execute (sound : ArticlesSound before) :
    ArticlesSound (stateAfter (execute tools maxRetry call before)) := by
  apply execute_keeps _ _ sound
  · exact fun _ _ _ holds => ⟨holds.published⟩
  · exact fun item answers _ world holds => articlesSound_round holds

/-- Fresh ids never announce an old row. -/
theorem unannounced_execute {row : RawNewsRow} (fresh : call.drawsFresh before)
    (unannounced : Unannounced row before) :
    Unannounced row (stateAfter (execute tools maxRetry call before)) := by
  apply execute_keeps _ _ unannounced
  · exact fun _ _ _ holds => holds
  · intro item answers drawn world holds
    refine unannounced_kept ?_ holds
    intro same
    exact fresh.2 row unannounced.1 (same ▸ drawn)

theorem unannounced_of_execute (sound : ArticlesSound before) (fresh : call.drawsFresh before)
    (lost : ¬ call.announces tools maxRetry before) :
    ∃ row, Unannounced row (stateAfter (execute tools maxRetry call before)) := by
  have articles : OfArticles fun world => ∃ row, Unannounced row world :=
    fun _ _ _ holds => holds
  have soundArticles : OfArticles ArticlesSound := fun _ _ _ holds => ⟨holds.published⟩
  cases crawled : call.crawler with
  | returned failures successes =>
      apply execute_leaves_returned articles crawled
      have drawn := fresh.1
      rw [CrawlCall.rawIds, crawled] at drawn
      rw [CrawlCall.announces, crawled] at lost
      exact unannounced_loop (persistFailures_leaves soundArticles sound failures) drawn lost
  | fatal text | raised text =>
      rw [CrawlCall.announces, crawled] at lost
      exact absurd trivial lost

end Execution

/-! ## Runs -/

/-- Some attempt of the write gets its reply. -/
def succeedsWithin (maxRetry : Int) (attempts : Nat → Attempt) : Nat → Nat → Bool
  | 0, _ => false
  | remaining + 1, attempt =>
      match runWithRetryTurn maxRetry attempt (attempts attempt) with
      | .returned => true
      | .raised => false
      | .again => succeedsWithin maxRetry attempts remaining (attempt + 1)

/-- The crawler returned, and every database and stream operation of the execution
succeeds. -/
def CrawlCall.allSucceed (maxRetry : Int) (call : CrawlCall Metadata) : Bool :=
  match call.crawler with
  | .returned failures successes =>
      (failures.all fun entry => succeedsWithin maxRetry entry.2.insert maxRetry.toNat 1) &&
      (successes.all fun entry => succeedsWithin maxRetry entry.2.insert maxRetry.toNat 1 &&
        decide (entry.2.publish = .done)) &&
      decide (call.publishSuccess = .done)
  | _ => false

def CrawlCall.urls (call : CrawlCall Metadata) : List String :=
  match call.crawler with
  | .returned _ successes => successes.map fun entry => entry.1.sourceUrl
  | _ => []

/-- Each row that is stored for a url of the results was announced. -/
def CrawlCall.storedAnnounced (call : CrawlCall Metadata) (after : CrawlWorld) : Prop :=
  ∀ url ∈ call.urls, ∀ row ∈ after.rawNews, row.sourceUrl = url → row.rawId ∈ after.inserted

instance (call : CrawlCall Metadata) (after : CrawlWorld) :
    Decidable (call.storedAnnounced after) :=
  inferInstanceAs (Decidable (∀ url ∈ call.urls, _))

theorem crawlMachine_step {call : CrawlCall Metadata} {after : CrawlWorld}
    (moved : (crawlMachine tools maxRetry).step world call = some after) :
    call.drawsFresh world ∧ after = stateAfter (execute tools maxRetry call world) := by
  have step : (if call.drawsFresh world then
      some (stateAfter (execute tools maxRetry call world)) else none) = some after := moved
  split at step
  · rename_i fresh
    exact ⟨fresh, (Option.some.inj step).symm⟩
  · cases step

theorem allAnnounced_run {past : List CrawlWorld}
    (trace : (crawlMachine tools maxRetry).Trace
      (fun world call => call.announces tools maxRetry world) past world) :
    AllAnnounced world := by
  apply trace.invariant
  · rintro state rfl row member
    cases member
  · intro state call after announced announces moved
    obtain ⟨-, rfl⟩ := crawlMachine_step moved
    exact allAnnounced_execute announced announces

theorem articlesSound_run {past : List CrawlWorld}
    (trace : (crawlMachine tools maxRetry).Trace anyAction past world) :
    ArticlesSound world := by
  apply trace.invariant
  · rintro state rfl
    constructor
    intro id published
    cases published
  · intro state call after sound _ moved
    obtain ⟨-, rfl⟩ := crawlMachine_step moved
    exact articlesSound_execute sound

theorem unannounced_reaches {row : RawNewsRow} {later : CrawlWorld}
    (unannounced : Unannounced row world)
    (reaches : (crawlMachine tools maxRetry).Reaches anyAction world later) :
    Unannounced row later := by
  apply reaches.invariant _ unannounced
  intro state call after held _ moved
  obtain ⟨fresh, rfl⟩ := crawlMachine_step moved
  exact unannounced_execute fresh held

/-- While no execution loses the reply or the announcement of a row it stores, a
successful execution leaves the stored rows of its urls announced.  An execution that
does lose one leaves a row that no later execution of its url announces. -/
theorem stored_announced (tools : TextTools Metadata) (maxRetry : Int) :
    (∀ past world, (crawlMachine tools maxRetry).Trace
        (fun world call => call.announces tools maxRetry world) past world →
      ∀ (call : CrawlCall Metadata) (after : CrawlWorld),
        call.announces tools maxRetry world →
        (crawlMachine tools maxRetry).step world call = some after →
        call.allSucceed maxRetry = true → call.storedAnnounced after) ∧
    (∀ past world, (crawlMachine tools maxRetry).Trace anyAction past world →
      ∀ (call : CrawlCall Metadata) (after : CrawlWorld),
        ¬ call.announces tools maxRetry world →
        (crawlMachine tools maxRetry).step world call = some after →
        ∃ row ∈ after.rawNews, ∀ later,
          (crawlMachine tools maxRetry).Reaches anyAction after later →
          ∀ (next : CrawlCall Metadata) (final : CrawlWorld), row.sourceUrl ∈ next.urls →
            (crawlMachine tools maxRetry).step later next = some final →
            ¬ next.storedAnnounced final) := by
  constructor
  · intro past world trace call after announces moved _ url _ row stored _
    exact allAnnounced_run (trace.next call announces moved) row stored
  · intro past world trace call after lost moved
    obtain ⟨fresh, rfl⟩ := crawlMachine_step moved
    obtain ⟨row, unannounced⟩ := unannounced_of_execute (articlesSound_run trace) fresh lost
    refine ⟨row, unannounced.1, ?_⟩
    intro later reaches next final among taken announced
    have still := unannounced_reaches unannounced
      (reaches.tail ⟨next, trivial, taken⟩)
    exact still.2 (announced row.sourceUrl among row still.1 rfl)

end Executions

/-! ## A lost announcement -/

/-- One article is found; its INSERT may need a second attempt. -/
def crawlOf (executionId : String) (rawId : UUID) (first publish : Attempt) : CrawlCall Unit :=
  ⟨executionId, .mingpao,
    .returned [] [(⟨"Title", "Body", "https://news/1", none, none⟩,
      ⟨rawId, 0, fun attempt => if attempt = 1 then first else .done, publish⟩)],
    .done, .done, .done, ""⟩

theorem crawlMachine_moves {Metadata : Type} {tools : TextTools Metadata} {maxRetry : Int}
    {world : CrawlWorld} {call : CrawlCall Metadata} (fresh : call.drawsFresh world) :
    (crawlMachine tools maxRetry).step world call =
      some (stateAfter (execute tools maxRetry call world)) :=
  if_pos fresh

/-- The INSERT needs a second attempt and the reply of the publish is lost. -/
def onceRetried : CrawlWorld :=
  stateAfter (execute plainTools 3 (crawlOf "exec-1" 7 (.transient false) (.permanent true))
    .empty)

/-- The INSERT is applied without a reply, and the second attempt is absorbed. -/
def onceLost : CrawlWorld :=
  stateAfter (execute plainTools 3 (crawlOf "exec-1" 7 (.transient true) .done) .empty)

def secondCrawl : CrawlCall Unit := crawlOf "exec-2" 8 .done .done

theorem stored_announced_retried :
    (secondCrawl.allSucceed 3 = true ∧ secondCrawl.storedAnnounced
      (stateAfter (execute plainTools 3 secondCrawl onceRetried))) ∧
    ∃ row ∈ onceLost.rawNews, ∀ (next : CrawlCall Unit) (final : CrawlWorld),
      row.sourceUrl ∈ next.urls →
        (crawlMachine plainTools 3).step onceLost next = some final →
          ¬ next.storedAnnounced final := by
  have start : (crawlMachine plainTools 3).init .empty := rfl
  constructor
  · have succeeds : secondCrawl.allSucceed 3 = true := by decide +kernel
    have before : (crawlMachine plainTools 3).Trace
        (fun world call => call.announces plainTools 3 world) [.empty] onceRetried :=
      (Trace.start start).next (crawlOf "exec-1" 7 (.transient false) (.permanent true))
        (by decide +kernel) (crawlMachine_moves (by decide +kernel))
    refine ⟨succeeds, ?_⟩
    exact (stored_announced plainTools 3).1 _ onceRetried before secondCrawl _
      (by decide +kernel) (crawlMachine_moves (by decide +kernel)) succeeds
  · obtain ⟨row, stored, never⟩ := (stored_announced plainTools 3).2 [] .empty (.start start)
      (crawlOf "exec-1" 7 (.transient true) .done) onceLost (by decide +kernel)
      (crawlMachine_moves (by decide +kernel))
    exact ⟨row, stored, never onceLost .refl⟩

def unpublished : CrawlCall Unit := crawlOf "exec-1" 7 .done (.permanent false)

/-- The publish of the first execution fails.  The second one finds the url again, all
its operations succeed, and the stored row is on no message. -/
theorem stored_unannounced : ¬ ∀ past world,
    (crawlMachine plainTools 3).Trace anyAction past world →
      ∀ (call : CrawlCall Unit) (after : CrawlWorld),
        (crawlMachine plainTools 3).step world call = some after →
          call.allSucceed 3 = true → call.storedAnnounced after := by
  intro always
  have first : (crawlMachine plainTools 3).step .empty unpublished =
      some (stateAfter (execute plainTools 3 unpublished .empty)) :=
    crawlMachine_moves (by decide +kernel)
  have announced : secondCrawl.storedAnnounced (stateAfter (execute plainTools 3 secondCrawl
      (stateAfter (execute plainTools 3 unpublished .empty)))) :=
    always _ _ ((Trace.start rfl).next unpublished trivial first) secondCrawl _
      (crawlMachine_moves (by decide +kernel)) (by decide +kernel)
  revert announced
  decide +kernel

end WealthFinder.Ingestion
