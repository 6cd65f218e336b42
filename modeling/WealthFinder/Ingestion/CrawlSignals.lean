import WealthFinder.Ingestion.CrawlService

/-!
# The terminal signal of a crawl execution

The SUCCESS signal is sent inside the `try` whose handler sends the FAILED signal.  An
execution's signal is consistent unless SUCCESS reached the stream, its reply was lost
and FAILED reached the stream after it.
-/

set_option autoImplicit false

namespace WealthFinder.Ingestion

section Signals
variable {Metadata : Type} {tools : TextTools Metadata} {maxRetry : Int}

/-- What an execution put on `stream:crawl_completed`, newest first. -/
def sentSignals (before after : CrawlWorld) : List CompletedSignal :=
  after.completed.take (after.completed.length - before.completed.length)

/-- `execute` returns, sends at most one of SUCCESS and FAILED, and sends SUCCESS only
after the loops over the crawler's results have run to their end. -/
structure TerminalConsistent (tools : TextTools Metadata) (maxRetry : Int)
    (before : CrawlWorld) (call : CrawlCall Metadata) : Prop where
  returns : ∃ after, execute tools maxRetry call before = .ok () after
  notBoth : ∀ one ∈ sentSignals before (stateAfter (execute tools maxRetry call before)),
    ∀ other ∈ sentSignals before (stateAfter (execute tools maxRetry call before)),
      one.status = other.status
  complete : ∀ signal ∈ sentSignals before (stateAfter (execute tools maxRetry call before)),
    signal.status = .success →
      ∃ failures successes persisted, call.crawler = .returned failures successes ∧
        persistResults tools maxRetry call failures successes before = .ok () persisted

/-- The item's `extra_metadata` can be serialised where its loop round gets there. -/
def CrawlSuccessItem.persistable (tools : TextTools Metadata)
    (item : CrawlSuccessItem Metadata) : Bool :=
  (tools.computeHash (tools.normalise item.title)).isNone ||
    item.extraMetadata.all fun metadata => (tools.dumps metadata).isSome

/-- The SUCCESS signal is sent, and both it and the FAILED signal reach the stream. -/
def CrawlCall.signalsTwice (tools : TextTools Metadata) (call : CrawlCall Metadata) : Prop :=
  ∃ failures successes, call.crawler = .returned failures successes ∧
    (∀ entry ∈ successes, entry.1.persistable tools = true) ∧
    call.publishSuccess ≠ .done ∧ call.publishSuccess.applied = true ∧
    call.publishFailed.applied = true

/-! ## The loops -/

section Loops
variable {errorText : String} {sourceName : CrawlSourceName}
  {signals : List CompletedSignal} {world : CrawlWorld}

theorem insertAndPublish_keeps (row : RawNewsRow) (answers : ItemAnswers) :
    Keeps (fun world => world.completed = signals) (insertAndPublish maxRetry row answers) := by
  intro world same
  have insert : Keeps (fun world => world.completed = signals) (insertRawNews row) := by
    intro state holds
    unfold insertRawNews
    split
    · exact holds
    · split <;> exact holds
  have left : (stateAfter (executeReturning maxRetry (insertRawNews row) answers.insert
      world)).completed = signals := executeReturning_keeps insert world same
  unfold insertAndPublish
  split
  · rename_i ended
    rw [ended] at left
    exact left
  · rename_i ended
    rw [ended] at left
    exact left
  · rename_i ended
    rw [ended] at left
    have announce : Keeps (fun world : CrawlWorld => world.completed = signals)
        (publish (fun world => { world with inserted := row.rawId :: world.inserted })
          answers.publish "") := by
      refine publish_keeps ?_ answers.publish ""
      exact fun world holds => holds
    exact announce _ left

theorem persistSuccess_keeps (item : CrawlSuccessItem Metadata) (answers : ItemAnswers) :
    Keeps (fun world => world.completed = signals)
      (persistSuccess tools maxRetry sourceName errorText item answers) := by
  unfold persistSuccess
  split
  · exact keeps_pure ()
  · refine Keeps.bind ?_ fun extraMetadata => insertAndPublish_keeps _ _
    unfold extraMetadataJson
    split
    · exact keeps_pure none
    · split
      · exact keeps_pure _
      · exact keeps_throw _

theorem persistSuccesses_keeps
    (successes : List (CrawlSuccessItem Metadata × ItemAnswers)) :
    Keeps (fun world => world.completed = signals)
      (persistSuccesses tools maxRetry sourceName errorText successes) := by
  induction successes with
  | nil => exact keeps_pure ()
  | cons entry rest ih => exact (persistSuccess_keeps _ _).bind fun _ => ih

theorem insertAndPublish_ok (row : RawNewsRow) (answers : ItemAnswers) :
    ∃ after, insertAndPublish maxRetry row answers world = .ok () after := by
  unfold insertAndPublish
  split <;> exact ⟨_, rfl⟩

/-- A round of the loop returns, or raises because of the item's metadata. -/
theorem persistSuccess_end (item : CrawlSuccessItem Metadata) (answers : ItemAnswers) :
    if item.persistable tools then
      ∃ after, persistSuccess tools maxRetry sourceName errorText item answers world =
        .ok () after
    else
      persistSuccess tools maxRetry sourceName errorText item answers world =
        .error errorText world := by
  unfold persistSuccess CrawlSuccessItem.persistable
  cases tools.computeHash (tools.normalise item.title) with
  | none => exact ⟨world, rfl⟩
  | some rawHash =>
      unfold extraMetadataJson
      cases item.extraMetadata with
      | none => exact insertAndPublish_ok _ answers
      | some metadata =>
          cases dumped : tools.dumps metadata with
          | none =>
              simp only [Option.isNone_some, Bool.false_or, Option.all_some, dumped,
                Option.isSome_none, Bool.false_eq_true, if_false]
              rfl
          | some json =>
              simp only [Option.isNone_some, Bool.false_or, Option.all_some, dumped,
                Option.isSome_some, if_true]
              exact insertAndPublish_ok _ answers

theorem persistSuccesses_ok {successes : List (CrawlSuccessItem Metadata × ItemAnswers)}
    (persistable : ∀ entry ∈ successes, entry.1.persistable tools = true) :
    ∃ after, persistSuccesses tools maxRetry sourceName errorText successes world =
      .ok () after := by
  induction successes generalizing world with
  | nil => exact ⟨world, rfl⟩
  | cons entry rest ih =>
      obtain ⟨item, answers⟩ := entry
      have round := @persistSuccess_end _ tools maxRetry errorText sourceName world item answers
      rw [if_pos (persistable (item, answers) List.mem_cons_self)] at round
      obtain ⟨next, ended⟩ := round
      rw [persistSuccesses, bind_of_ok ended]
      exact ih fun other member => persistable other (List.mem_cons_of_mem _ member)

/-- The loop raises if it meets an item whose metadata can't be serialised. -/
theorem persistSuccesses_error
    {successes : List (CrawlSuccessItem Metadata × ItemAnswers)}
    (raises : ¬ ∀ entry ∈ successes, entry.1.persistable tools = true) :
    ∃ after, persistSuccesses tools maxRetry sourceName errorText successes world =
      .error errorText after := by
  induction successes generalizing world with
  | nil => exact absurd (fun _ member => absurd member List.not_mem_nil) raises
  | cons entry rest ih =>
      obtain ⟨item, answers⟩ := entry
      have round := @persistSuccess_end _ tools maxRetry errorText sourceName world item answers
      by_cases first : item.persistable tools = true
      · rw [if_pos first] at round
        obtain ⟨next, ended⟩ := round
        rw [persistSuccesses, bind_of_ok ended]
        apply ih
        intro others
        apply raises
        intro other member
        rcases List.mem_cons.mp member with rfl | later
        · exact first
        · exact others other later
      · rw [if_neg first] at round
        exact ⟨world, by rw [persistSuccesses, bind_of_error round]⟩

theorem persistResults_completed {call : CrawlCall Metadata} {before after : CrawlWorld}
    {failures : List (CrawlFailItem × FailureAnswers)}
    {successes : List (CrawlSuccessItem Metadata × ItemAnswers)}
    (left : stateAfter (persistResults tools maxRetry call failures successes before) = after) :
    after.completed = before.completed := by
  have keeps : Keeps (fun world => world.completed = before.completed)
      (persistResults tools maxRetry call failures successes) := by
    refine (persistFailures_keeps ?_ failures).bind fun _ => persistSuccesses_keeps successes
    exact fun _ _ same => same
  rw [← left]
  exact keeps before rfl

theorem persistResults_ok (call : CrawlCall Metadata)
    (failures : List (CrawlFailItem × FailureAnswers))
    {successes : List (CrawlSuccessItem Metadata × ItemAnswers)}
    (persistable : ∀ entry ∈ successes, entry.1.persistable tools = true) :
    ∃ after, persistResults tools maxRetry call failures successes world = .ok () after ∧
      after.completed = world.completed := by
  obtain ⟨after, ended⟩ := @persistSuccesses_ok _ tools maxRetry call.errorText call.sourceName
    (stateAfter (persistFailures maxRetry call.executionId call.sourceName failures world))
    successes persistable
  have results : persistResults tools maxRetry call failures successes world = .ok () after := by
    rw [persistResults, bind_of_ok (persistFailures_ok failures world)]
    exact ended
  exact ⟨after, results, persistResults_completed (congrArg stateAfter results)⟩

theorem persistResults_error (call : CrawlCall Metadata)
    (failures : List (CrawlFailItem × FailureAnswers))
    {successes : List (CrawlSuccessItem Metadata × ItemAnswers)}
    (raises : ¬ ∀ entry ∈ successes, entry.1.persistable tools = true) :
    ∃ after, persistResults tools maxRetry call failures successes world =
      .error call.errorText after ∧ after.completed = world.completed := by
  obtain ⟨after, ended⟩ := @persistSuccesses_error _ tools maxRetry call.errorText
    call.sourceName
    (stateAfter (persistFailures maxRetry call.executionId call.sourceName failures world))
    successes raises
  have results : persistResults tools maxRetry call failures successes world =
      .error call.errorText after := by
    rw [persistResults, bind_of_ok (persistFailures_ok failures world)]
    exact ended
  exact ⟨after, results, persistResults_completed (congrArg stateAfter results)⟩

end Loops

/-! ## The signals -/

theorem publishCompleted_end (executionId errorText : String) (status : CrawlStatus)
    (detail : Option String) (answer : Attempt) (world : CrawlWorld) :
    ∃ signals after, after.completed = signals ++ world.completed ∧
      signals.map CompletedSignal.status = (if answer.applied then [status] else []) ∧
      publishCompleted executionId status detail answer errorText world =
        if answer = .done then .ok () after else .error errorText after := by
  unfold publishCompleted publish
  cases answer.applied with
  | true => exact ⟨[⟨executionId, status, detail⟩], _, rfl, rfl, rfl⟩
  | false => exact ⟨[], world, rfl, rfl, rfl⟩

/-- The last handler swallows its own failure. -/
theorem execute_of_error {call : CrawlCall Metadata} {before next : CrawlWorld} {text : String}
    (raised : crawlAndPersist tools maxRetry call before = .error text next) :
    ∃ signals after, execute tools maxRetry call before = .ok () after ∧
      after.completed = signals ++ next.completed ∧
      signals.map CompletedSignal.status =
        if call.publishFailed.applied then [.failed] else [] := by
  obtain ⟨signals, after, completed, statuses, ended⟩ :=
    publishCompleted_end call.executionId "" .failed (some text) call.publishFailed next
  refine ⟨signals, after, ?_, completed, statuses⟩
  rw [execute, tryCatch_of_error raised]
  split at ended
  · exact tryCatch_of_ok ended
  · exact tryCatch_of_error ended

theorem sentSignals_of {before after : CrawlWorld} {signals : List CompletedSignal}
    (completed : after.completed = signals ++ before.completed) :
    sentSignals before after = signals := by
  simp [sentSignals, completed]

def OnlyFailed (signals : List CompletedSignal) : Prop :=
  ∀ signal ∈ signals, signal.status = .failed

theorem onlyFailed_of_statuses {signals : List CompletedSignal} {reached : Bool}
    (statuses : signals.map CompletedSignal.status = if reached then [.failed] else []) :
    OnlyFailed signals := by
  intro signal member
  have mapped : signal.status ∈ signals.map CompletedSignal.status :=
    List.mem_map.mpr ⟨signal, member, rfl⟩
  rw [statuses] at mapped
  cases reached with
  | true => simpa using mapped
  | false => cases mapped

theorem not_same_of_both {signals : List CompletedSignal}
    (both : signals.map CompletedSignal.status = [.failed, .success]) :
    ¬ ∀ one ∈ signals, ∀ other ∈ signals, one.status = other.status := by
  intro same
  have present (status : CrawlStatus) (among : status ∈ [CrawlStatus.failed, .success]) :
      ∃ signal ∈ signals, signal.status = status := by
    rw [← both] at among
    exact List.mem_map.mp among
  obtain ⟨one, oneSent, isFailed⟩ := present .failed (by simp)
  obtain ⟨other, otherSent, isSuccess⟩ := present .success (by simp)
  have equal := same one oneSent other otherSent
  rw [isFailed, isSuccess] at equal
  cases equal

/-- A crawl that ends without results sends only FAILED. -/
theorem execute_unreturned {call : CrawlCall Metadata} (before : CrawlWorld)
    (unreturned : ∀ failures successes, call.crawler ≠ .returned failures successes) :
    ∃ signals after, execute tools maxRetry call before = .ok () after ∧
      after.completed = signals ++ before.completed ∧ OnlyFailed signals := by
  cases crawled : call.crawler with
  | raised text =>
      have raised : crawlAndPersist tools maxRetry call before = .error text before := by
        rw [crawlAndPersist, crawled]
        rfl
      obtain ⟨signals, after, ended, completed, statuses⟩ := execute_of_error raised
      exact ⟨signals, after, ended, completed, onlyFailed_of_statuses statuses⟩
  | fatal text =>
      obtain ⟨first, next, sent, statuses, ended⟩ := publishCompleted_end call.executionId
        call.errorText .failed (some text) call.publishFatal before
      have crawl : crawlAndPersist tools maxRetry call before =
          if call.publishFatal = .done then .ok () next else .error call.errorText next := by
        rw [crawlAndPersist, crawled]
        exact ended
      by_cases done : call.publishFatal = .done
      · rw [if_pos done] at crawl
        exact ⟨first, next, tryCatch_of_ok crawl, sent, onlyFailed_of_statuses statuses⟩
      · rw [if_neg done] at crawl
        obtain ⟨second, after, ended, completed, again⟩ := execute_of_error crawl
        refine ⟨second ++ first, after, ended, ?_, ?_⟩
        · rw [completed, sent, List.append_assoc]
        · intro signal member
          rcases List.mem_append.mp member with late | early
          · exact onlyFailed_of_statuses again signal late
          · exact onlyFailed_of_statuses statuses signal early
  | returned failures successes => exact absurd crawled (unreturned failures successes)

/-- So does one whose loop over the successes raises. -/
theorem execute_unpersisted {call : CrawlCall Metadata} (before : CrawlWorld)
    {failures : List (CrawlFailItem × FailureAnswers)}
    {successes : List (CrawlSuccessItem Metadata × ItemAnswers)}
    (crawled : call.crawler = .returned failures successes)
    (raises : ¬ ∀ entry ∈ successes, entry.1.persistable tools = true) :
    ∃ signals after, execute tools maxRetry call before = .ok () after ∧
      after.completed = signals ++ before.completed ∧ OnlyFailed signals := by
  obtain ⟨persisted, ended, same⟩ :=
    @persistResults_error _ tools maxRetry before call failures successes raises
  have raised : crawlAndPersist tools maxRetry call before = .error call.errorText persisted := by
    rw [crawlAndPersist, crawled]
    exact bind_of_error ended
  obtain ⟨signals, after, returned, completed, statuses⟩ := execute_of_error raised
  exact ⟨signals, after, returned, same ▸ completed, onlyFailed_of_statuses statuses⟩

/-- After the loops SUCCESS is sent, and FAILED if that raises. -/
theorem execute_persisted {call : CrawlCall Metadata} (before : CrawlWorld)
    {failures : List (CrawlFailItem × FailureAnswers)}
    {successes : List (CrawlSuccessItem Metadata × ItemAnswers)}
    (crawled : call.crawler = .returned failures successes)
    (persistable : ∀ entry ∈ successes, entry.1.persistable tools = true) :
    ∃ persisted signals after,
      persistResults tools maxRetry call failures successes before = .ok () persisted ∧
      execute tools maxRetry call before = .ok () after ∧
      after.completed = signals ++ before.completed ∧
      signals.map CompletedSignal.status =
        (if call.publishSuccess ≠ .done ∧ call.publishFailed.applied then [.failed] else []) ++
          if call.publishSuccess.applied then [.success] else [] := by
  obtain ⟨persisted, ended, same⟩ :=
    @persistResults_ok _ tools maxRetry before call failures successes persistable
  obtain ⟨first, next, sent, statuses, published⟩ := publishCompleted_end call.executionId
    call.errorText .success none call.publishSuccess persisted
  have crawl : crawlAndPersist tools maxRetry call before =
      if call.publishSuccess = .done then .ok () next else .error call.errorText next := by
    rw [crawlAndPersist, crawled, ← published]
    exact bind_of_ok ended
  by_cases done : call.publishSuccess = .done
  · rw [if_pos done] at crawl
    refine ⟨persisted, first, next, ended, tryCatch_of_ok crawl, same ▸ sent, ?_⟩
    have unsent : ¬ (call.publishSuccess ≠ .done ∧ call.publishFailed.applied = true) :=
      fun raised => raised.1 done
    rw [statuses, if_neg unsent, List.nil_append]
  · rw [if_neg done] at crawl
    obtain ⟨second, after, returned, completed, again⟩ := execute_of_error crawl
    refine ⟨persisted, second ++ first, after, ended, returned, ?_, ?_⟩
    · rw [completed, sent, same, List.append_assoc]
    · rw [List.map_append, again, statuses]
      simp [done]

/-- An execution that sends nothing but FAILED is consistent. -/
theorem terminalConsistent_failed {call : CrawlCall Metadata} {before after : CrawlWorld}
    {signals : List CompletedSignal} (ended : execute tools maxRetry call before = .ok () after)
    (completed : after.completed = signals ++ before.completed) (failed : OnlyFailed signals) :
    TerminalConsistent tools maxRetry before call := by
  have sent : sentSignals before (stateAfter (execute tools maxRetry call before)) =
      signals := by
    rw [ended]
    exact sentSignals_of completed
  refine ⟨⟨after, ended⟩, ?_, ?_⟩
  · rw [sent]
    intro one oneSent other otherSent
    rw [failed one oneSent, failed other otherSent]
  · rw [sent]
    intro signal member succeeded
    rw [failed signal member] at succeeded
    cases succeeded

/-- Where the loops run to their end, only the two publishes after them matter. -/
theorem terminalConsistent_persisted {call : CrawlCall Metadata} {before : CrawlWorld}
    {failures : List (CrawlFailItem × FailureAnswers)}
    {successes : List (CrawlSuccessItem Metadata × ItemAnswers)}
    (crawled : call.crawler = .returned failures successes)
    (persistable : ∀ entry ∈ successes, entry.1.persistable tools = true) :
    TerminalConsistent tools maxRetry before call ↔ ¬ (call.publishSuccess ≠ .done ∧
      call.publishSuccess.applied = true ∧ call.publishFailed.applied = true) := by
  obtain ⟨persisted, signals, after, persists, ended, completed, statuses⟩ :=
    @execute_persisted _ tools maxRetry call before failures successes crawled persistable
  have sent : sentSignals before (stateAfter (execute tools maxRetry call before)) =
      signals := by
    rw [ended]
    exact sentSignals_of completed
  constructor
  · intro consistent twice
    obtain ⟨raised, succeeded, failed⟩ := twice
    have both : signals.map CompletedSignal.status = [.failed, .success] := by
      rw [statuses, if_pos ⟨raised, failed⟩, if_pos succeeded]
      rfl
    exact not_same_of_both both (sent ▸ consistent.notBoth)
  · intro once
    have status (signal : CompletedSignal) (member : signal ∈ signals) :
        signal.status ∈ (if call.publishSuccess ≠ .done ∧ call.publishFailed.applied = true
          then [CrawlStatus.failed] else []) ++
            if call.publishSuccess.applied then [.success] else [] := by
      rw [← statuses]
      exact List.mem_map.mpr ⟨signal, member, rfl⟩
    refine ⟨⟨after, ended⟩, ?_, ?_⟩
    · rw [sent]
      intro one oneSent other otherSent
      have first := status one oneSent
      have second := status other otherSent
      by_cases failed : call.publishSuccess ≠ .done ∧ call.publishFailed.applied = true
      · have lost : ¬ call.publishSuccess.applied = true :=
          fun applied => once ⟨failed.1, applied, failed.2⟩
        rw [if_pos failed, if_neg lost] at first second
        simp only [List.append_nil, List.mem_singleton] at first second
        rw [first, second]
      · rw [if_neg failed, List.nil_append] at first second
        split at first
        · rw [if_pos ‹_›] at second
          rw [List.mem_singleton.mp first, List.mem_singleton.mp second]
        · cases first
    · intro signal member succeeded
      exact ⟨failures, successes, persisted, crawled, persists⟩

/-- The terminal signal of an execution is consistent for every behaviour but one: the
SUCCESS signal reaches the stream, its publish raises, and so does the FAILED signal. -/
theorem terminalConsistent_iff (tools : TextTools Metadata) (maxRetry : Int)
    (before : CrawlWorld) (call : CrawlCall Metadata) :
    TerminalConsistent tools maxRetry before call ↔ ¬ call.signalsTwice tools := by
  by_cases returned : ∃ failures successes, call.crawler = .returned failures successes
  · obtain ⟨failures, successes, crawled⟩ := returned
    by_cases persistable : ∀ entry ∈ successes, entry.1.persistable tools = true
    · rw [terminalConsistent_persisted crawled persistable]
      apply not_congr
      constructor
      · intro raised
        exact ⟨failures, successes, crawled, persistable, raised⟩
      · rintro ⟨_, _, _, _, raised⟩
        exact raised
    · obtain ⟨signals, after, ended, completed, failed⟩ :=
        @execute_unpersisted _ tools maxRetry call before failures successes crawled persistable
      refine iff_of_true (terminalConsistent_failed ended completed failed) ?_
      rintro ⟨itsFailures, itsSuccesses, same, all, -⟩
      cases crawled.symm.trans same
      exact persistable all
  · have unreturned : ∀ failures successes, call.crawler ≠ .returned failures successes :=
      fun failures successes is => returned ⟨failures, successes, is⟩
    obtain ⟨signals, after, ended, completed, failed⟩ :=
      @execute_unreturned _ tools maxRetry call before unreturned
    refine iff_of_true (terminalConsistent_failed ended completed failed) ?_
    rintro ⟨failures, successes, same, -⟩
    exact unreturned failures successes same

end Signals

/-! ## A lost reply to the SUCCESS signal -/

/-- The crawl finds nothing, the XADD of SUCCESS is applied but its reply is lost. -/
def successReplyLost : CrawlCall Unit :=
  ⟨"exec-1", .hkex, .returned [] [], .done, .permanent true, .done, "connection lost"⟩

/-- Both signals of the execution are on the stream. -/
theorem signalsTwice_lost : ¬ ∀ (before : CrawlWorld) (call : CrawlCall Unit),
    TerminalConsistent plainTools 3 before call := by
  intro always
  have both : (sentSignals .empty (stateAfter (execute plainTools 3 successReplyLost
      .empty))).map CompletedSignal.status = [.failed, .success] := by
    decide +kernel
  exact not_same_of_both both (always .empty successReplyLost).notBoth

end WealthFinder.Ingestion
