import WealthFinder.Tables
import WealthFinder.Ingestion.CrawlWorkerTurns

/-!
# What holds while a crawl's workers interleave

A worker is always on the way to where it would end on its own.  The permits are free,
handed over or held by a worker inside, and the results, the requests and the future of
`gather` follow from where the workers are.
-/

set_option autoImplicit false

namespace WealthFinder.Ingestion

variable {Target Metadata : Type} {config : CrawlConfig} {source : ArticleSource Target Metadata}
  {state after : FanOutState Target Metadata} {errorLog : List String} {index : Nat}
  {semaphore left : Semaphore Nat} {worker next : ArticleWorker Target Metadata}

/-! ## Where a worker is bound for -/

/-- How a worker past the error log ends from here on. -/
def WorkerStage.outcome (config : CrawlConfig) (source : ArticleSource Target Metadata)
    (target : Target) (answers : Nat → GetAnswer) : WorkerStage Metadata → ArticleEnd Metadata
  | .fetching stage =>
      concludeFetch config source target (stage.outcome config (source.url target) answers)
  | .parsing response => parseArticle source target response
  | .ended how => how
  | _ => fetchOneArticle config source target answers

theorem outcome_articleStage (target : Target) (answers : Nat → GetAnswer) (stage : FetchStage) :
    (FanOutState.articleStage config source target stage).outcome config source target answers =
      concludeFetch config source target
        (stage.outcome config (source.url target) answers) := by
  cases stage with
  | ended how =>
      cases how with
      | returned response =>
          simp only [FanOutState.articleStage]
          split <;> rfl
      | _ => rfl
  | _ => rfl

/-- The attempts of a `fetch` are counted by the answers it has got. -/
def FetchStage.Counted (config : CrawlConfig) (answered : Nat) : FetchStage → Prop
  | .requesting attempt _ => attempt = answered + 1 ∧ attempt ≤ config.maxRetry
  | .backingOff attempt _ => attempt = answered ∧ attempt < config.maxRetry
  | .ended _ => answered ≤ config.maxRetry

def WorkerStage.Counted (config : CrawlConfig) (answered : Nat) : WorkerStage Metadata → Prop
  | .precheck => False
  | .waiting => answered = 0
  | .jitter => answered = 0
  | .fetching (.ended _) => False
  | .fetching stage => stage.Counted config answered
  | .parsing _ => answered ≤ config.maxRetry
  | .ended _ => answered ≤ config.maxRetry

theorem counted_articleStage {answered : Nat} {stage : FetchStage} (target : Target)
    (counted : stage.Counted config answered) :
    (FanOutState.articleStage config source target stage).Counted config answered := by
  cases stage with
  | ended how =>
      cases how with
      | returned response =>
          simp only [FanOutState.articleStage]
          split
          · exact counted
          · exact counted
      | _ => exact counted
  | _ => exact counted

theorem counted_nextAttempt {url : String} {answered : Nat} (lastExc : Option String)
    (within : answered ≤ config.maxRetry) :
    (nextAttempt config url (answered + 1) lastExc).Counted config answered := by
  unfold nextAttempt
  split
  · rename_i more
    exact ⟨rfl, more⟩
  · exact within

theorem counted_resumeGet {url : String} {attempt : Nat} (answer : GetAnswer)
    (within : attempt ≤ config.maxRetry) :
    (resumeGet config url attempt answer).Counted config attempt := by
  unfold resumeGet
  split
  · exact within
  · split
    · rename_i more
      exact ⟨rfl, more⟩
    · exact counted_nextAttempt _ within

/-- These are the first answers. -/
def Agrees (gets : List GetAnswer) (answers : Nat → GetAnswer) : Prop :=
  ∀ place answer, gets[place]? = some answer → answers (place + 1) = answer

theorem Agrees.init {gets : List GetAnswer} {answer : GetAnswer} {answers : Nat → GetAnswer}
    (agrees : Agrees (gets ++ [answer]) answers) :
    Agrees gets answers ∧ answers (gets.length + 1) = answer := by
  constructor
  · intro place got found
    have within : place < gets.length := (List.getElem?_eq_some_iff.mp found).1
    exact agrees place got (by rwa [List.getElem?_append_left within])
  · exact agrees gets.length answer List.getElem?_concat_length

theorem Heard.agrees (heard : Heard) : Agrees heard.gets heard.answers := by
  intro place answer found
  simp [Heard.answers, found]

inductive ArticleSound (config : CrawlConfig) (source : ArticleSource Target Metadata) :
    ArticleWorker Target Metadata → Prop where
  | unchecked (target : Target) : ArticleSound config source ⟨target, .precheck, ⟨none, []⟩⟩
  | checkRaised (target : Target) (text : String) :
      ArticleSound config source
        ⟨target, .ended (.raised text), ⟨some (.error text), []⟩⟩
  | skipped (target : Target) :
      ArticleSound config source ⟨target, .ended .skipped, ⟨some (.ok true), []⟩⟩
  | cleared {target : Target} {stage : WorkerStage Metadata} {gets : List GetAnswer}
      (counted : stage.Counted config gets.length)
      (bound : ∀ answers, Agrees gets answers →
        stage.outcome config source target answers =
          fetchOneArticle config source target answers) :
      ArticleSound config source ⟨target, stage, ⟨some (.ok false), gets⟩⟩

theorem ArticleSound.inside (sound : ArticleSound config source worker)
    (step : InsideStep config source worker next) : ArticleSound config source next := by
  cases step with
  | began target heard =>
      cases sound with
      | @cleared _ _ gets counted bound =>
          have none : gets.length = 0 := counted
          refine .cleared (counted_articleStage target ?_) ?_
          · rw [none]
            exact counted_nextAttempt _ (Nat.zero_le _)
          · intro answers _
            rw [outcome_articleStage, outcome_startFetch]
            rfl
  | slept target heard attempt lastExc =>
      cases sound with
      | cleared counted bound =>
          obtain ⟨rfl, more⟩ := counted
          refine .cleared (counted_articleStage target ?_) ?_
          · exact counted_nextAttempt _ (Nat.le_of_lt more)
          · intro answers agrees
            rw [outcome_articleStage, outcome_nextAttempt]
            exact bound answers agrees
  | answered target heard attempt lastExc answer =>
      cases sound with
      | cleared counted bound =>
          obtain ⟨rfl, within⟩ := counted
          refine .cleared (counted_articleStage target ?_) ?_
          · rw [List.length_append]
            exact counted_resumeGet answer within
          · intro answers agrees
            obtain ⟨earlier, rfl⟩ := agrees.init
            rw [outcome_articleStage, outcome_resumeGet lastExc within]
            exact bound answers earlier
  | parsed target heard response =>
      cases sound with
      | cleared counted bound => exact .cleared counted bound

theorem ArticleSound.turn (sound : ArticleSound config source worker)
    (turn : WorkerTurn config source errorLog index semaphore left worker next) :
    ArticleSound config source next := by
  cases turn with
  | checkRaised target heard text =>
      cases sound with
      | unchecked => exact .checkRaised target text
      | cleared counted bound => cases counted
  | skipped target heard logged =>
      cases sound with
      | unchecked => exact .skipped target
      | cleared counted bound => cases counted
  | acquired target heard notLogged now =>
      cases sound with
      | unchecked => exact .cleared rfl fun _ _ => rfl
      | cleared counted bound => cases counted
  | queued target heard notLogged waits =>
      cases sound with
      | unchecked => exact .cleared rfl fun _ _ => rfl
      | cleared counted bound => cases counted
  | admitted target heard position resumed =>
      cases sound with
      | cleared counted bound => exact .cleared counted bound
  | inside step goesOn => exact sound.inside step
  | left step ends => exact sound.inside step

/-- A worker that has ended did so as it would have on its own. -/
theorem ArticleSound.ended {how : ArticleEnd Metadata} (sound : ArticleSound config source worker)
    (ended : worker.stage = .ended how) :
    ∃ logged, worker.heard.logged = some logged ∧
      how = articleWorker config source worker.target logged worker.heard.answers := by
  cases sound with
  | unchecked target => cases ended
  | checkRaised target text =>
      cases ended
      exact ⟨_, rfl, rfl⟩
  | skipped target =>
      cases ended
      exact ⟨_, rfl, rfl⟩
  | @cleared target stage gets counted bound =>
      have same := bound _ (Heard.agrees ⟨some (.ok false), gets⟩)
      cases ended
      exact ⟨_, rfl, same⟩

/-! ## What the workers hold, have asked for and leave -/

namespace WorkerStage

/-- The worker holds a permit. -/
def isInside : WorkerStage Metadata → Bool
  | .jitter => true
  | .fetching _ => true
  | .parsing _ => true
  | _ => false

/-- The requests it waits for. -/
def inFlight : WorkerStage Metadata → Nat
  | .fetching (.requesting _ _) => 1
  | _ => 0

def successes : WorkerStage Metadata → List (CrawlSuccessItem Metadata)
  | .ended (.succeeded item) => [item]
  | _ => []

def failures : WorkerStage Metadata → List CrawlFailItem
  | .ended (.failed item) => [item]
  | _ => []

end WorkerStage

/-- A url for each request of the worker. -/
def ArticleWorker.requests (source : ArticleSource Target Metadata)
    (worker : ArticleWorker Target Metadata) : List String :=
  List.replicate (worker.heard.gets.length + worker.stage.inFlight) (source.url worker.target)

theorem isInside_articleStage (target : Target) (stage : FetchStage) :
    (FanOutState.articleStage config source target stage).isInside =
      !(FanOutState.articleStage config source target stage).isEnded := by
  cases stage with
  | ended how =>
      cases how with
      | returned response =>
          simp only [FanOutState.articleStage]
          split <;> rfl
      | _ => rfl
  | _ => rfl

theorem InsideStep.isInside (step : InsideStep config source worker next) :
    worker.stage.isInside = true ∧ next.stage.isInside = !next.stage.isEnded := by
  cases step with
  | began target heard => exact ⟨rfl, isInside_articleStage target _⟩
  | slept target heard attempt lastExc => exact ⟨rfl, isInside_articleStage target _⟩
  | answered target heard attempt lastExc answer => exact ⟨rfl, isInside_articleStage target _⟩
  | parsed target heard response => exact ⟨rfl, rfl⟩

theorem isEnded_of_isInside {stage : WorkerStage Metadata} (inside : stage.isInside = true) :
    stage.isEnded = false := by
  cases stage with
  | ended how => cases inside
  | _ => rfl

theorem WorkerTurn.goesOn
    (turn : WorkerTurn config source errorLog index semaphore left worker next) :
    worker.stage.isEnded = false := by
  cases turn with
  | inside step goesOn => exact isEnded_of_isInside step.isInside.1
  | left step ends => exact isEnded_of_isInside step.isInside.1
  | _ => rfl

theorem WorkerTurn.permits
    (turn : WorkerTurn config source errorLog index semaphore left worker next) :
    left.permits + next.stage.isInside.toNat =
      semaphore.permits + worker.stage.isInside.toNat := by
  cases turn with
  | checkRaised target heard text => rfl
  | skipped target heard logged => rfl
  | acquired target heard notLogged now => exact Semaphore.permits_acquire_now now
  | queued target heard notLogged waits => exact Semaphore.permits_acquire_waiting waits
  | admitted target heard position resumed => exact Semaphore.permits_resume_acquired resumed
  | inside step goesOn => rw [step.isInside.1, step.isInside.2, goesOn, Bool.not_false]
  | left step ends =>
      rw [step.isInside.1, step.isInside.2, ends, Semaphore.permits_release]
      rfl

theorem WorkerTurn.target
    (turn : WorkerTurn config source errorLog index semaphore left worker next) :
    next.target = worker.target := by
  cases turn with
  | inside step goesOn => cases step <;> rfl
  | left step ends => cases step <;> rfl
  | _ => rfl

theorem InsideStep.answered_length (step : InsideStep config source worker next) :
    next.heard.gets.length = worker.stage.inFlight + worker.heard.gets.length := by
  cases step with
  | answered target heard attempt lastExc answer =>
      rw [List.length_append]
      exact Nat.add_comm _ _
  | _ => exact (Nat.zero_add _).symm

theorem WorkerTurn.requests
    (turn : WorkerTurn config source errorLog index semaphore left worker next) :
    next.requests source = next.request source ++ worker.requests source := by
  have made : next.request source =
      List.replicate next.stage.inFlight (source.url next.target) := by
    unfold ArticleWorker.request
    cases next.stage with
    | fetching stage => cases stage <;> rfl
    | _ => rfl
  have answered : next.heard.gets.length =
      worker.stage.inFlight + worker.heard.gets.length := by
    cases turn with
    | inside step goesOn => exact step.answered_length
    | left step ends => exact step.answered_length
    | _ => exact (Nat.zero_add _).symm
  rw [made, ArticleWorker.requests, ArticleWorker.requests, turn.target,
    ← List.replicate_add, answered]
  congr 1
  omega

theorem successes_record (result : CrawlResult Metadata) (stage : WorkerStage Metadata) :
    (result.record stage).successes = result.successes ++ stage.successes := by
  cases stage with
  | ended how =>
      cases how with
      | succeeded item => rfl
      | _ => exact (List.append_nil _).symm
  | _ => exact (List.append_nil _).symm

theorem failures_record (result : CrawlResult Metadata) (stage : WorkerStage Metadata) :
    (result.record stage).failures = result.failures ++ stage.failures := by
  cases stage with
  | ended how =>
      cases how with
      | failed item => rfl
      | _ => exact (List.append_nil _).symm
  | _ => exact (List.append_nil _).symm

theorem leaves_nothing {stage : WorkerStage Metadata} (goesOn : stage.isEnded = false) :
    stage.successes = [] ∧ stage.failures = [] := by
  cases stage with
  | ended how => cases goesOn
  | _ => exact ⟨rfl, rfl⟩

end WealthFinder.Ingestion
