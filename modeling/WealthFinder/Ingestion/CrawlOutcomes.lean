import Mathlib.Data.List.DropRight
import WealthFinder.Ingestion.ArticleSources
import WealthFinder.Ingestion.CrawlInvariant

/-!
# What a crawl's workers leave

Whatever the interleaving, the results are those of the workers run one after the other
on the same answers.  At no time do more workers hold a permit than there are, and no url
is requested that the error log held when the crawl began.
-/

set_option autoImplicit false

namespace WealthFinder.Ingestion

open Machine

variable {Target Metadata : Type} {config : CrawlConfig} {source : ArticleSource Target Metadata}
  {state : FanOutState Target Metadata} {maxConcurrent : Nat} {errorLog : List String}
  {targets : List Target} {worker : ArticleWorker Target Metadata}

/-! ## A crawl -/

def sampleTargets : List String := ["http://a", "http://b", "http://c"]

/-- AAStocks with one permit, two attempts, and `http://c` in the error log. -/
def sampleCrawl : Machine (FanOutState String StockCodeMetadata) CrawlAction :=
  fanOutMachine ⟨2, 500⟩ (aastocks sampleLibraries) 1 ["http://c"] sampleTargets

/-- `http://a` times out once and is read, and `http://b` waits and is not found. -/
def sampleTurns : List CrawlAction :=
  [.prechecked 0 none, .prechecked 1 none, .prechecked 2 none, .slept 0,
    .answered 0 (.requestError "timed out"), .slept 0,
    .answered 0 (.response samplePageResponse), .admitted 0, .slept 1,
    .answered 1 (.response ⟨404, "", [], ""⟩)]

theorem sampleCrawl_reaches (test : FanOutState String StockCodeMetadata → Bool)
    (ran : (sampleCrawl.run (fun _ _ => true)
      (FanOutState.initial 1 ["http://c"] sampleTargets) sampleTurns).any test = true) :
    ∃ history final, Trace sampleCrawl anyAction history final ∧ test final = true :=
  Trace.of_free_run sampleCrawl test rfl sampleTurns ran

/-! ## The results are those of the workers one after the other -/

/-- A target and all that the worker for it is told. -/
structure ToldWorker (Target : Type) where
  target : Target
  logged : Except String Bool
  answers : Nat → GetAnswer

def ArticleWorker.told (worker : ArticleWorker Target Metadata) : ToldWorker Target :=
  ⟨worker.target, worker.heard.logged.getD (.ok true), worker.heard.answers⟩

/-- A plain loop over the workers, which the first that raises ends. -/
def crawlOneByOne (config : CrawlConfig) (source : ArticleSource Target Metadata) :
    List (ToldWorker Target) → CrawlResult Metadata → Except String (CrawlResult Metadata)
  | [], result => .ok result
  | told :: rest, result =>
      match articleWorker config source told.target told.logged told.answers with
      | .raised text => .error text
      | how => crawlOneByOne config source rest (result.add how)

theorem ArticleSound.told {how : ArticleEnd Metadata} (sound : ArticleSound config source worker)
    (ended : worker.stage = .ended how) :
    articleWorker config source worker.told.target worker.told.logged worker.told.answers =
      how := by
  obtain ⟨logged, heard, rfl⟩ := sound.ended ended
  rw [ArticleWorker.told, heard]
  rfl

theorem crawlOneByOne_ended {workers : List (ArticleWorker Target Metadata)}
    (sound : ∀ worker ∈ workers, ArticleSound config source worker)
    (ended : ∀ worker ∈ workers, worker.stage.isEnded = true ∧ ¬ worker.stage.HasRaised)
    (result : CrawlResult Metadata) :
    ∃ final, crawlOneByOne config source (workers.map ArticleWorker.told) result = .ok final ∧
      final.successes = result.successes ++ workers.flatMap (fun worker =>
        worker.stage.successes) ∧
      final.failures = result.failures ++ workers.flatMap fun worker =>
        worker.stage.failures := by
  induction workers generalizing result with
  | nil => exact ⟨result, rfl, (List.append_nil _).symm, (List.append_nil _).symm⟩
  | cons worker rest ih =>
      obtain ⟨isEnded, unraised⟩ := ended worker List.mem_cons_self
      obtain ⟨how, stage⟩ : ∃ how, worker.stage = .ended how := by
        cases stage : worker.stage with
        | ended how => exact ⟨how, rfl⟩
        | _ =>
            rw [stage] at isEnded
            cases isEnded
      have alone := (sound worker List.mem_cons_self).told stage
      obtain ⟨final, ran, successes, failures⟩ :=
        ih (fun other member => sound other (List.mem_cons_of_mem _ member))
          (fun other member => ended other (List.mem_cons_of_mem _ member)) (result.add how)
      have recorded : result.add how = result.record worker.stage := by
        rw [stage]
        rfl
      refine ⟨final, ?_, ?_, ?_⟩
      · rw [List.map_cons, crawlOneByOne, alone]
        cases how with
        | raised text => exact absurd ⟨text, stage⟩ unraised
        | _ => exact ran
      · rw [successes, recorded, successes_record, List.flatMap_cons, List.append_assoc]
      · rw [failures, recorded, failures_record, List.flatMap_cons, List.append_assoc]

/-- What `gather` leaves is what a plain loop over the workers leaves, and it raises only
what a worker raises. -/
theorem gathered_as_one_by_one {past : List (FanOutState Target Metadata)}
    (trace : Trace (fanOutMachine config source maxConcurrent errorLog targets) anyAction
      past state) :
    state.workers.map ArticleWorker.target = targets ∧
    (state.gather = .returned →
      ∃ result, crawlOneByOne config source (state.workers.map ArticleWorker.told)
          CrawlResult.empty = .ok result ∧
        state.result.successes.Perm result.successes ∧
        state.result.failures.Perm result.failures) ∧
    ∀ text, state.gather = .raised text →
      ∃ worker ∈ state.workers, articleWorker config source worker.told.target
        worker.told.logged worker.told.answers = .raised text := by
  have sound := fanOutSound trace
  have gathered := sound.gather
  refine ⟨sound.targets, ?_, ?_⟩
  · intro returned
    rw [returned] at gathered
    obtain ⟨result, ran, successes, failures⟩ :=
      crawlOneByOne_ended sound.workers gathered CrawlResult.empty
    refine ⟨result, ran, ?_, ?_⟩
    · rw [successes]
      exact sound.successes
    · rw [failures]
      exact sound.failures
  · intro text raised
    rw [raised] at gathered
    obtain ⟨worker, member, stage⟩ := gathered
    exact ⟨worker, member, (sound.workers worker member).told stage⟩

theorem gathered_as_one_by_one_sample :
    ∃ state : FanOutState String StockCodeMetadata, state.gather = .returned ∧
      ∃ result, crawlOneByOne ⟨2, 500⟩ (aastocks sampleLibraries)
          (state.workers.map ArticleWorker.told) CrawlResult.empty = .ok result ∧
        state.result.successes.Perm result.successes ∧
        state.result.failures.Perm result.failures := by
  obtain ⟨history, state, trace, returned⟩ :=
    sampleCrawl_reaches (fun state => state.gather = .returned) (by decide +kernel)
  have returned := of_decide_eq_true returned
  exact ⟨state, returned, (gathered_as_one_by_one trace).2.1 returned⟩

/-! ## What the workers ask for -/

theorem ArticleSound.requests_le (sound : ArticleSound config source worker) :
    worker.heard.gets.length + worker.stage.inFlight ≤ config.maxRetry := by
  cases sound with
  | unchecked target => exact Nat.zero_le _
  | checkRaised target text => exact Nat.zero_le _
  | skipped target => exact Nat.zero_le _
  | @cleared target stage gets counted bound =>
      cases stage with
      | precheck => cases counted
      | waiting => exact counted.trans_le (Nat.zero_le _)
      | jitter => exact counted.trans_le (Nat.zero_le _)
      | fetching stage =>
          cases stage with
          | requesting attempt lastExc =>
              obtain ⟨rfl, within⟩ := counted
              exact within
          | backingOff attempt lastExc =>
              obtain ⟨rfl, more⟩ := counted
              exact Nat.le_of_lt more
          | ended how => cases counted
      | parsing response => exact counted
      | ended how => exact counted

theorem ArticleSound.cleared_of_request {url : String} (sound : ArticleSound config source worker)
    (asked : url ∈ worker.requests source) :
    url = source.url worker.target ∧ worker.heard.logged = some (.ok false) := by
  refine ⟨(List.mem_replicate.mp asked).2, ?_⟩
  cases sound with
  | unchecked target => cases asked
  | checkRaised target text => cases asked
  | skipped target => cases asked
  | cleared counted bound => rfl

theorem count_requests_le {workers : List (ArticleWorker Target Metadata)}
    (sound : ∀ worker ∈ workers, ArticleSound config source worker) (url : String) :
    (workers.flatMap (ArticleWorker.requests source)).count url ≤
      config.maxRetry * (workers.map ArticleWorker.target).countP fun target =>
        source.url target = url := by
  induction workers with
  | nil => exact Nat.zero_le _
  | cons worker rest ih =>
      have few := (sound worker List.mem_cons_self).requests_le
      have others := ih fun other member => sound other (List.mem_cons_of_mem _ member)
      rw [List.flatMap_cons, List.count_append, List.map_cons, List.countP_cons,
        ArticleWorker.requests, List.count_replicate, Nat.mul_add]
      by_cases same : source.url worker.target = url
      · simp only [same, beq_self_eq_true, decide_true, if_true, Nat.mul_one]
        omega
      · simp only [beq_eq_false_iff_ne.mpr same, decide_eq_false same, Bool.false_eq_true,
          if_false]
        omega

theorem FanOutSound.notLogged {url : String}
    (sound : FanOutSound config source maxConcurrent errorLog targets state)
    (asked : url ∈ state.requested) : url ∉ errorLog := by
  obtain ⟨worker, member, asked⟩ := List.mem_flatMap.mp (sound.requested.mem_iff.mp asked)
  obtain ⟨rfl, cleared⟩ := (sound.workers worker member).cleared_of_request asked
  exact sound.cleared worker member cleared

/-- At no time are there more holders or requests than permits, a url is requested
`max_retry` times for each of its targets at most, and never one that was logged. -/
theorem fanOut_polite {past : List (FanOutState Target Metadata)}
    (trace : Trace (fanOutMachine config source maxConcurrent errorLog targets) anyAction
      past state) :
    state.workers.countP (fun worker => worker.stage.isInside) ≤ maxConcurrent ∧
    state.workers.countP (fun worker => worker.stage.inFlight = 1) ≤ maxConcurrent ∧
    (∀ url, state.requested.count url ≤
      config.maxRetry * targets.countP fun target => source.url target = url) ∧
    ∀ url ∈ state.requested, url ∉ errorLog := by
  have sound := fanOutSound trace
  have holders : state.workers.countP (fun worker => worker.stage.isInside) ≤ maxConcurrent := by
    have total := sound.permits
    omega
  refine ⟨holders, Nat.le_trans (List.countP_mono_left ?_) holders, ?_,
    fun _ asked => sound.notLogged asked⟩
  · intro worker _ asks
    obtain ⟨target, stage, heard⟩ := worker
    cases stage with
    | fetching stage => rfl
    | _ => cases asks
  · intro url
    rw [sound.requested.count_eq, ← sound.targets]
    exact count_requests_le sound.workers url

theorem fanOut_polite_sample :
    ∃ state : FanOutState String StockCodeMetadata,
      state.requested = ["http://b", "http://a", "http://a"] ∧
      (∀ url, state.requested.count url ≤
        2 * sampleTargets.countP fun target => target = url) ∧
      ∀ url ∈ state.requested, url ∉ ["http://c"] := by
  obtain ⟨history, state, trace, requested⟩ :=
    sampleCrawl_reaches (fun state => state.requested = ["http://b", "http://a", "http://a"])
      (by decide +kernel)
  exact ⟨state, of_decide_eq_true requested, (fanOut_polite trace).2.2⟩

/-! ## What the results are made of -/

theorem strip_strip (text : String) : strip (strip text) = strip text := by
  have stripped (part : List Char) : Pipeline.strip part =
      (part.dropWhile Pipeline.isSpace).rdropWhile Pipeline.isSpace := rfl
  have twice : Pipeline.strip (Pipeline.strip text.toList) = Pipeline.strip text.toList := by
    rw [stripped (Pipeline.strip text.toList), stripped text.toList]
    have begins : ((text.toList.dropWhile Pipeline.isSpace).rdropWhile
        Pipeline.isSpace).dropWhile Pipeline.isSpace =
        (text.toList.dropWhile Pipeline.isSpace).rdropWhile Pipeline.isSpace := by
      rw [List.dropWhile_eq_self_iff]
      intro some'
      have begun := List.rdropWhile_prefix Pipeline.isSpace
        (text.toList.dropWhile Pipeline.isSpace)
      have positive : 0 < (text.toList.dropWhile Pipeline.isSpace).length :=
        Nat.lt_of_lt_of_le some' begun.length_le
      rw [begun.getElem some']
      exact List.dropWhile_get_zero_not _ _ positive
    rw [begins, List.rdropWhile_idempotent]
  rw [strip, strip, String.toList_ofList, twice]

theorem fetchFrom_returned {url : String} {answers : Nat → GetAnswer} {remaining attempt : Nat}
    {lastExc : Option String} {response : HttpResponse}
    (returned : (fetchFrom config url answers remaining attempt lastExc).how =
      .returned response) :
    ∃ got, answers got = .response response ∧ response.isSuccess := by
  induction remaining generalizing attempt lastExc with
  | zero => cases returned
  | succ remaining ih =>
      cases answered : attemptEnd url (answers attempt) with
      | ends how =>
          simp only [fetchFrom, answered] at returned
          exact ⟨attempt, attemptEnd_returned (returned ▸ answered)⟩
      | failed exc =>
          simp only [fetchFrom, answered] at returned
          exact ih returned

theorem Heard.mem_of_answers {heard : Heard} {attempt : Nat} {response : HttpResponse}
    (answered : heard.answers attempt = .response response) :
    .response response ∈ heard.gets := by
  unfold Heard.answers at answered
  cases got : heard.gets[attempt - 1]? with
  | none =>
      rw [List.getD_eq_getElem?_getD, got] at answered
      cases answered
  | some answer =>
      rw [List.getD_eq_getElem?_getD, got] at answered
      exact List.mem_of_getElem? (got.trans (congrArg some answered))

/-- The text of an article is what was read, without blanks around it, and not empty. -/
theorem parseArticle_succeeded {target : Target} {response : HttpResponse}
    {item : CrawlSuccessItem Metadata}
    (parsed : parseArticle source target response = .succeeded item) :
    item.sourceUrl = source.url target ∧ item.body ≠ "" ∧ strip item.body = item.body ∧
      ∃ body, source.body response = .extracted (some body) ∧ item.body = strip body := by
  cases read : source.body response with
  | failed code =>
      rw [parseArticle, read] at parsed
      cases parsed
  | extracted body =>
      cases body with
      | none =>
          rw [parseArticle, read] at parsed
          cases parsed
      | some body =>
          simp only [parseArticle, read] at parsed
          split at parsed
          · cases parsed
          · rename_i visible
            split at parsed
            · cases parsed
            · cases parsed
              exact ⟨rfl, visible, strip_strip body, body, rfl, rfl⟩

theorem fetchOneArticle_succeeded {target : Target} {answers : Nat → GetAnswer}
    {item : CrawlSuccessItem Metadata}
    (ended : fetchOneArticle config source target answers = .succeeded item) :
    ∃ response, (∃ got, answers got = .response response) ∧ response.isSuccess ∧
      parseArticle source target response = .succeeded item := by
  unfold fetchOneArticle at ended
  cases how : (fetch config (source.url target) answers).how with
  | returned response =>
      rw [how] at ended
      obtain ⟨got, answered, success⟩ := fetchFrom_returned how
      exact ⟨response, ⟨got, answered⟩, success, ended⟩
  | _ =>
      rw [how] at ended
      cases ended

theorem fetchOneArticle_failed {target : Target} {answers : Nat → GetAnswer}
    {item : CrawlFailItem} (ended : fetchOneArticle config source target answers = .failed item) :
    ((∃ detail, (fetch config (source.url target) answers).how = .blocked detail) ∧
      item = ⟨source.url target, CrawlErrorCode.urlGetFailed.errorType,
        CrawlErrorCode.urlGetFailed.errorCode, config.maxRetry⟩) ∨
    ∃ response code, (∃ got, answers got = .response response) ∧ response.isSuccess ∧
      source.body response = .failed code ∧
      item = ⟨source.url target, code.errorType, code.errorCode, 1⟩ := by
  unfold fetchOneArticle at ended
  cases how : (fetch config (source.url target) answers).how with
  | blocked detail =>
      rw [how] at ended
      cases ended
      exact Or.inl ⟨⟨detail, rfl⟩, rfl⟩
  | returned response =>
      rw [how] at ended
      obtain ⟨got, answered, success⟩ := fetchFrom_returned how
      cases read : source.body response with
      | failed code =>
          rw [concludeFetch, parseArticle, read] at ended
          cases ended
          exact Or.inr ⟨response, code, ⟨got, answered⟩, success, read, rfl⟩
      | extracted body =>
          cases body with
          | none =>
              rw [concludeFetch, parseArticle, read] at ended
              cases ended
          | some body =>
              simp only [concludeFetch, parseArticle, read] at ended
              split at ended
              · cases ended
              · split at ended
                · cases ended
                · cases ended
  | _ =>
      rw [how] at ended
      cases ended

theorem ArticleSound.fetched {how : ArticleEnd Metadata} (sound : ArticleSound config source worker)
    (ended : worker.stage = .ended how) (quiet : how ≠ .skipped)
    (calm : ∀ text, how ≠ .raised text) :
    fetchOneArticle config source worker.target worker.heard.answers = how := by
  obtain ⟨logged, -, is⟩ := sound.ended ended
  cases logged with
  | error text => exact absurd is (calm text)
  | ok found =>
      cases found with
      | true => exact absurd is quiet
      | false => exact is.symm

theorem ArticleSound.fetched_succeeded {item : CrawlSuccessItem Metadata}
    (sound : ArticleSound config source worker)
    (ended : worker.stage = .ended (.succeeded item)) :
    fetchOneArticle config source worker.target worker.heard.answers = .succeeded item := by
  apply sound.fetched ended
  · intro same
    cases same
  · intro text same
    cases same

theorem ArticleSound.fetched_failed {item : CrawlFailItem}
    (sound : ArticleSound config source worker)
    (ended : worker.stage = .ended (.failed item)) :
    fetchOneArticle config source worker.target worker.heard.answers = .failed item := by
  apply sound.fetched ended
  · intro same
    cases same
  · intro text same
    cases same

/-- The items a worker leaves about a url. -/
def ArticleWorker.itemsOf (worker : ArticleWorker Target Metadata) (url : String) : Nat :=
  (worker.stage.successes.countP fun item => item.sourceUrl = url) +
    worker.stage.failures.countP fun item => item.sourceUrl = url

theorem ArticleSound.itemsOf_le (sound : ArticleSound config source worker) (url : String) :
    worker.itemsOf url ≤ if source.url worker.target = url then 1 else 0 := by
  cases stage : worker.stage with
  | ended how =>
      cases how with
      | succeeded item =>
          have alone := sound.fetched_succeeded stage
          obtain ⟨response, -, -, parsed⟩ := fetchOneArticle_succeeded alone
          obtain ⟨same, -⟩ := parseArticle_succeeded parsed
          simp [ArticleWorker.itemsOf, stage, WorkerStage.successes, WorkerStage.failures,
            List.countP_cons, same]
      | failed item =>
          have alone := sound.fetched_failed stage
          have same : item.sourceUrl = source.url worker.target := by
            rcases fetchOneArticle_failed alone with ⟨-, rfl⟩ | ⟨response, code, -, -, -, rfl⟩
            · rfl
            · rfl
          simp [ArticleWorker.itemsOf, stage, WorkerStage.successes, WorkerStage.failures,
            List.countP_cons, same]
      | _ => simp [ArticleWorker.itemsOf, stage, WorkerStage.successes, WorkerStage.failures]
  | _ => simp [ArticleWorker.itemsOf, stage, WorkerStage.successes, WorkerStage.failures]

theorem items_count_le {workers : List (ArticleWorker Target Metadata)}
    (sound : ∀ worker ∈ workers, ArticleSound config source worker) (url : String) :
    ((workers.flatMap fun worker => worker.stage.successes).countP fun item =>
        item.sourceUrl = url) +
      ((workers.flatMap fun worker => worker.stage.failures).countP fun item =>
        item.sourceUrl = url) ≤
      (workers.map ArticleWorker.target).countP fun target => source.url target = url := by
  induction workers with
  | nil => exact Nat.le_refl 0
  | cons worker rest ih =>
      have one := (sound worker List.mem_cons_self).itemsOf_le url
      have others := ih fun other member => sound other (List.mem_cons_of_mem _ member)
      simp only [List.flatMap_cons, List.countP_append, List.map_cons, List.countP_cons,
        decide_eq_true_eq]
      unfold ArticleWorker.itemsOf at one
      omega

/-- An item is what a worker's own 2xx response or failure says, with a text that is not
blank, and a url has no more items than targets. -/
theorem crawled_items {past : List (FanOutState Target Metadata)}
    (trace : Trace (fanOutMachine config source maxConcurrent errorLog targets) anyAction
      past state) :
    (∀ item ∈ state.result.successes, ∃ worker ∈ state.workers, ∃ response body,
      .response response ∈ worker.heard.gets ∧ response.isSuccess ∧
      source.body response = .extracted (some body) ∧
      item.sourceUrl = source.url worker.target ∧ item.body = strip body ∧
      item.body ≠ "" ∧ strip item.body = item.body) ∧
    (∀ item ∈ state.result.failures, ∃ worker ∈ state.workers,
      ((∃ detail, (fetch config (source.url worker.target) worker.heard.answers).how =
          .blocked detail) ∧
        item = ⟨source.url worker.target, "CRAWL", "SADI-6101", config.maxRetry⟩) ∨
      ∃ response code, .response response ∈ worker.heard.gets ∧ response.isSuccess ∧
        source.body response = .failed code ∧
        item = ⟨source.url worker.target, code.errorType, code.errorCode, 1⟩) ∧
    ∀ url, (state.result.successes.countP fun item => item.sourceUrl = url) +
        (state.result.failures.countP fun item => item.sourceUrl = url) ≤
      targets.countP fun target => source.url target = url := by
  have sound := fanOutSound trace
  refine ⟨?_, ?_, ?_⟩
  · intro item member
    obtain ⟨worker, there, member⟩ := List.mem_flatMap.mp (sound.successes.mem_iff.mp member)
    have ended : worker.stage = .ended (.succeeded item) := by
      unfold WorkerStage.successes at member
      split at member
      · rename_i stage
        rw [stage, List.mem_singleton.mp member]
      · cases member
    have alone := (sound.workers worker there).fetched_succeeded ended
    obtain ⟨response, ⟨got, answered⟩, success, parsed⟩ := fetchOneArticle_succeeded alone
    obtain ⟨sameUrl, visible, stripped, body, read, is⟩ := parseArticle_succeeded parsed
    exact ⟨worker, there, response, body, Heard.mem_of_answers answered, success, read,
      sameUrl, is, visible, stripped⟩
  · intro item member
    obtain ⟨worker, there, member⟩ := List.mem_flatMap.mp (sound.failures.mem_iff.mp member)
    have ended : worker.stage = .ended (.failed item) := by
      unfold WorkerStage.failures at member
      split at member
      · rename_i stage
        rw [stage, List.mem_singleton.mp member]
      · cases member
    have alone := (sound.workers worker there).fetched_failed ended
    refine ⟨worker, there, ?_⟩
    rcases fetchOneArticle_failed alone with blocked | ⟨response, code, ⟨got, answered⟩, rest⟩
    · exact Or.inl blocked
    · exact Or.inr ⟨response, code, Heard.mem_of_answers answered, rest⟩
  · intro url
    rw [sound.successes.countP_eq, sound.failures.countP_eq, ← sound.targets]
    exact items_count_le sound.workers url

theorem crawled_items_sample :
    ∃ state : FanOutState String StockCodeMetadata,
      state.result.successes = [⟨"HSI", "HSI up", "http://a", none, none⟩] ∧
      state.result.failures = [⟨"http://b", "CRAWL", "SADI-6101", 2⟩] ∧
      ∀ url, (state.result.successes.countP fun item => item.sourceUrl = url) +
          (state.result.failures.countP fun item => item.sourceUrl = url) ≤
        sampleTargets.countP fun target => target = url := by
  obtain ⟨history, state, trace, left⟩ :=
    sampleCrawl_reaches (fun state =>
      state.result = ⟨[⟨"HSI", "HSI up", "http://a", none, none⟩],
        [⟨"http://b", "CRAWL", "SADI-6101", 2⟩]⟩) (by decide +kernel)
  have left := of_decide_eq_true left
  exact ⟨state, by rw [left], by rw [left], (crawled_items trace).2.2⟩

/-! ## A list page -/

/-- However often the list page links an article, its url is requested `max_retry` times
at most and gets one item at most. -/
theorem aastocks_article_once {libraries : ParserLibraries} {hrefs : List (Option String)}
    {state : FanOutState String StockCodeMetadata}
    {past : List (FanOutState String StockCodeMetadata)}
    (trace : Trace (fanOutMachine config (aastocks libraries) maxConcurrent errorLog
      (extractArticleUrls hrefs)) anyAction past state) (url : String) :
    state.requested.count url ≤ config.maxRetry ∧
    (state.result.successes.countP fun item => item.sourceUrl = url) +
      (state.result.failures.countP fun item => item.sourceUrl = url) ≤ 1 ∧
    (url ∈ state.requested → url ∉ errorLog ∧
      ∃ href, some href ∈ hrefs ∧ href ≠ "" ∧ url = absoluteUrl href) := by
  have sound := fanOutSound trace
  have once : (extractArticleUrls hrefs).countP (fun target => target = url) ≤ 1 := by
    have distinct : (extractArticleUrls hrefs).Nodup := extractUrlsFrom_nodup hrefs List.nodup_nil
    have counted := List.nodup_iff_count_le_one.mp distinct url
    exact counted
  have targets := sound.targets
  refine ⟨?_, ?_, ?_⟩
  · rw [sound.requested.count_eq]
    refine (count_requests_le sound.workers url).trans ?_
    rw [targets]
    have most := Nat.mul_le_mul_left config.maxRetry once
    rwa [Nat.mul_one] at most
  · rw [sound.successes.countP_eq, sound.failures.countP_eq]
    refine (items_count_le sound.workers url).trans ?_
    rw [targets]
    exact once
  · intro asked
    obtain ⟨worker, member, asked⟩ :=
      List.mem_flatMap.mp (sound.requested.mem_iff.mp asked)
    obtain ⟨rfl, cleared⟩ := (sound.workers worker member).cleared_of_request asked
    have linked : worker.target ∈ extractArticleUrls hrefs :=
      targets ▸ List.mem_map_of_mem member
    rcases mem_extractUrlsFrom.mp linked with none' | found
    · cases none'
    · exact ⟨sound.cleared worker member cleared, found⟩

theorem aastocks_article_once_sample :
    ∃ state : FanOutState String StockCodeMetadata,
      state.requested = ["https://www.aastocks.com/a"] ∧
      state.requested.count "https://www.aastocks.com/a" ≤ 2 := by
  obtain ⟨history, state, trace, requested⟩ :=
    Trace.of_free_run
      (fanOutMachine ⟨2, 500⟩ (aastocks sampleLibraries) 1 []
        (extractArticleUrls [some "/a", none, some "/a"]))
      (fun state => state.requested = ["https://www.aastocks.com/a"]) rfl
      [.prechecked 0 none, .slept 0] (by decide +kernel)
  exact ⟨state, of_decide_eq_true requested,
    (aastocks_article_once trace "https://www.aastocks.com/a").1⟩

end WealthFinder.Ingestion
