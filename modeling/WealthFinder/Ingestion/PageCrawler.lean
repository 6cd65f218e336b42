import Mathlib.Algebra.Group.Nat.Defs
import WealthFinder.Ingestion.CrawlService

/-!
# Fetching a page

`PageCrawler.fetch`, once as a whole and once as the stretches between its awaits, which
the workers of a crawl interleave.  What is left of a `fetch` after some stretches ends as
the whole does on the same answers.
-/

set_option autoImplicit false

namespace WealthFinder.Ingestion

/-! ## One attempt -/

/-- What is read of an `httpx.Response`.  `errorText` is what `raise_for_status` says of it
when it raises. -/
structure HttpResponse where
  statusCode : Nat
  text : String
  content : List UInt8
  errorText : String
  deriving DecidableEq

def HttpResponse.isSuccess (response : HttpResponse) : Prop :=
  200 ≤ response.statusCode ∧ response.statusCode < 300

instance (response : HttpResponse) : Decidable response.isSuccess :=
  inferInstanceAs (Decidable (_ ∧ _))

/-- How `client.get` ends: a response, an `httpx.RequestError`, or another exception. -/
inductive GetAnswer where
  | response (response : HttpResponse)
  | requestError (text : String)
  | raised (text : String)
  deriving DecidableEq

structure CrawlConfig where
  maxRetry : Nat
  retryBaseWaitMs : Nat

/-- How `fetch` ends: it returns, or it raises CrawlRateLimitedException,
CrawlBlockedException or something else. -/
inductive FetchEnd where
  | returned (response : HttpResponse)
  | rateLimited (detail : String)
  | blocked (detail : String)
  | raised (text : String)
  deriving DecidableEq

/-- The body of the `try` ends `fetch`, or raises what the last `except` catches. -/
inductive AttemptEnd where
  | ends (how : FetchEnd)
  | failed (exc : String)
  deriving DecidableEq

def attemptEnd (url : String) : GetAnswer → AttemptEnd
  | .requestError text => .failed text
  | .raised text => .ends (.raised text)
  | .response response =>
      if response.statusCode = 429 then .ends (.rateLimited ("HTTP 429 for " ++ url))
      else if 400 ≤ response.statusCode ∧ response.statusCode < 500 then
        .ends (.blocked ("HTTP " ++ toString response.statusCode ++ " for " ++ url))
      -- `raise_for_status` passes 2xx only
      else if response.isSuccess then .ends (.returned response)
      else .failed response.errorText

theorem attemptEnd_returned {url : String} {answer : GetAnswer} {response : HttpResponse}
    (returned : attemptEnd url answer = .ends (.returned response)) :
    answer = .response response ∧ response.isSuccess := by
  cases answer with
  | requestError text => cases returned
  | raised text => cases returned
  | response got =>
      simp only [attemptEnd] at returned
      split at returned
      · cases returned
      · split at returned
        · cases returned
        · split at returned
          · rename_i success
            cases returned
            exact ⟨rfl, success⟩
          · cases returned

/-! ## The whole of `fetch` -/

def CrawlConfig.retryWaitMs (config : CrawlConfig) (attempt : Nat) : Nat :=
  config.retryBaseWaitMs * 2 ^ (attempt - 1)

/-- The last line of `fetch`; `lastExc` is printed as `None` when no request was made. -/
def retriesExhausted (config : CrawlConfig) (url : String) (lastExc : Option String) : FetchEnd :=
  .blocked ("All " ++ toString config.maxRetry ++ " retries exhausted for " ++ url ++ ": " ++
    lastExc.getD "None")

structure FetchRun where
  how : FetchEnd
  requests : Nat
  waitsMs : List Nat

section Fetch
variable (config : CrawlConfig) (url : String)

/-- The loop with `remaining` attempts to come, the next one numbered `attempt`. -/
def fetchFrom (answers : Nat → GetAnswer) : Nat → Nat → Option String → FetchRun
  | 0, _, lastExc => ⟨retriesExhausted config url lastExc, 0, []⟩
  | remaining + 1, attempt, _ =>
      match attemptEnd url (answers attempt) with
      | .ends how => ⟨how, 1, []⟩
      | .failed exc =>
          let later := fetchFrom answers remaining (attempt + 1) (some exc)
          { later with
            requests := later.requests + 1
            waitsMs := if attempt < config.maxRetry then
                config.retryWaitMs attempt :: later.waitsMs
              else later.waitsMs }

def fetch (answers : Nat → GetAnswer) : FetchRun :=
  fetchFrom config url answers config.maxRetry 1 none

/-! ## The stretches between its awaits -/

/-- Where `fetch` is: in `client.get`, in `asyncio.sleep`, or ended. -/
inductive FetchStage where
  | requesting (attempt : Nat) (lastExc : Option String)
  | backingOff (attempt : Nat) (lastExc : Option String)
  | ended (how : FetchEnd)
  deriving DecidableEq

/-- The head of the loop. -/
def nextAttempt (attempt : Nat) (lastExc : Option String) : FetchStage :=
  if attempt ≤ config.maxRetry then .requesting attempt lastExc
  else .ended (retriesExhausted config url lastExc)

def startFetch : FetchStage := nextAttempt config url 1 none

/-- `client.get` ends. -/
def resumeGet (attempt : Nat) (answer : GetAnswer) : FetchStage :=
  match attemptEnd url answer with
  | .ends how => .ended how
  | .failed exc =>
      if attempt < config.maxRetry then .backingOff attempt (some exc)
      else nextAttempt config url (attempt + 1) (some exc)

/-- How the `fetch` ends from here on. -/
def FetchStage.outcome (answers : Nat → GetAnswer) : FetchStage → FetchEnd
  | .requesting attempt lastExc =>
      (fetchFrom config url answers (config.maxRetry + 1 - attempt) attempt lastExc).how
  | .backingOff attempt lastExc =>
      (fetchFrom config url answers (config.maxRetry - attempt) (attempt + 1) lastExc).how
  | .ended how => how

end Fetch

section Outcome
variable {config : CrawlConfig} {url : String} {answers : Nat → GetAnswer}

theorem outcome_nextAttempt (attempt : Nat) (lastExc : Option String) :
    (nextAttempt config url (attempt + 1) lastExc).outcome config url answers =
      (fetchFrom config url answers (config.maxRetry - attempt) (attempt + 1) lastExc).how := by
  unfold nextAttempt
  split
  · simp only [FetchStage.outcome, Nat.add_sub_add_right]
  · rename_i beyond
    have none : config.maxRetry - attempt = 0 := by omega
    rw [none]
    rfl

theorem outcome_startFetch :
    (startFetch config url).outcome config url answers = (fetch config url answers).how :=
  outcome_nextAttempt 0 none

theorem outcome_resumeGet {attempt : Nat} (lastExc : Option String)
    (within : attempt ≤ config.maxRetry) :
    (resumeGet config url attempt (answers attempt)).outcome config url answers =
      (FetchStage.requesting attempt lastExc).outcome config url answers := by
  have counted : config.maxRetry + 1 - attempt = (config.maxRetry - attempt) + 1 := by omega
  simp only [FetchStage.outcome, counted, fetchFrom, resumeGet]
  cases attemptEnd url (answers attempt) with
  | ends how => rfl
  | failed exc =>
      by_cases more : attempt < config.maxRetry
      · simp only [if_pos more]
      · simp only [if_neg more]
        exact outcome_nextAttempt attempt (some exc)

end Outcome

/-! ## What a `fetch` promises -/

/-- The exception after which `fetch` tries again. -/
def failureOf (url : String) (answer : GetAnswer) : Option String :=
  match attemptEnd url answer with
  | .ends _ => none
  | .failed exc => some exc

/-- What the attempts from `first` on leave, the exception before them being `lastExc`. -/
structure FetchedFrom (config : CrawlConfig) (url : String) (answers : Nat → GetAnswer)
    (remaining first : Nat) (lastExc : Option String) (run : FetchRun) : Prop where
  requests : run.requests ≤ remaining
  waits : run.waitsMs = (List.range' first (run.requests - 1)).map config.retryWaitMs
  repeated : ∀ later, later + 1 < run.requests →
    (failureOf url (answers (first + later))).isSome
  decided : (∃ later, run.requests = later + 1 ∧
      attemptEnd url (answers (first + later)) = .ends run.how) ∨
    (run.requests = remaining ∧ ∃ exc, run.how = retriesExhausted config url exc ∧
      ((remaining = 0 ∧ exc = lastExc) ∨
        ∃ later, remaining = later + 1 ∧ exc = failureOf url (answers (first + later)) ∧
          exc.isSome))

theorem fetchedFrom (config : CrawlConfig) (url : String) (answers : Nat → GetAnswer)
    (remaining first : Nat) (lastExc : Option String)
    (ends : first + remaining = config.maxRetry + 1) :
    FetchedFrom config url answers remaining first lastExc
      (fetchFrom config url answers remaining first lastExc) := by
  induction remaining generalizing first lastExc with
  | zero =>
      refine ⟨Nat.le_refl 0, rfl, ?_, Or.inr ⟨rfl, lastExc, rfl, Or.inl ⟨rfl, rfl⟩⟩⟩
      intro later below
      cases below
  | succ remaining ih =>
      cases answered : attemptEnd url (answers first) with
      | ends how =>
          simp only [fetchFrom, answered]
          refine ⟨Nat.succ_le_succ (Nat.zero_le _), rfl, ?_, Or.inl ⟨0, rfl, answered⟩⟩
          intro later below
          exact absurd below (by simp)
      | failed exc =>
          have after := ih (first + 1) (some exc) (by omega)
          have failed : failureOf url (answers first) = some exc := by
            simp only [failureOf, answered]
          simp only [fetchFrom, answered]
          have shifted (later : Nat) : first + 1 + later = first + (later + 1) := by omega
          have few := after.requests
          refine ⟨Nat.succ_le_succ few, ?_, ?_, ?_⟩
          · rw [after.waits]
            cases made : (fetchFrom config url answers remaining (first + 1) (some exc)).requests with
            | zero =>
                have last : ¬ first < config.maxRetry := by
                  rcases after.decided with ⟨later, some', -⟩ | ⟨none', -⟩
                  · omega
                  · omega
                rw [if_neg last]
                rfl
            | succ later =>
                have goesOn : first < config.maxRetry := by omega
                rw [if_pos goesOn]
                rfl
          · intro later below
            cases later with
            | zero => simp [failed]
            | succ later =>
                have earlier := after.repeated later (Nat.lt_of_succ_lt_succ below)
                rwa [shifted] at earlier
          · rcases after.decided with ⟨later, made, ended⟩ | ⟨made, last, how, unlucky⟩
            · rw [shifted] at ended
              exact Or.inl ⟨later + 1, congrArg (· + 1) made, ended⟩
            · refine Or.inr ⟨congrArg (· + 1) made, last, how, Or.inr ?_⟩
              rcases unlucky with ⟨none', is⟩ | ⟨later, more, is, failing⟩
              · exact ⟨0, by omega, by rw [is]; exact failed.symm, by rw [is]; rfl⟩
              · rw [shifted] at is
                exact ⟨later + 1, by omega, is, failing⟩

/-- The outcome of the first attempt that ends `fetch`, or `max_retry` attempts in vain. -/
structure FetchContract (config : CrawlConfig) (url : String) (answers : Nat → GetAnswer)
    (run : FetchRun) : Prop where
  requests : run.requests ≤ config.maxRetry
  waits : run.waitsMs =
    (List.range (run.requests - 1)).map fun earlier => config.retryBaseWaitMs * 2 ^ earlier
  repeated : ∀ attempt, 0 < attempt → attempt < run.requests →
    (failureOf url (answers attempt)).isSome
  decided : (0 < run.requests ∧ attemptEnd url (answers run.requests) = .ends run.how) ∨
    (run.requests = config.maxRetry ∧
      run.how = retriesExhausted config url
        (if config.maxRetry = 0 then none else failureOf url (answers config.maxRetry)) ∧
      ∀ attempt, 0 < attempt → attempt ≤ config.maxRetry →
        (failureOf url (answers attempt)).isSome)
  returned : ∀ response, run.how = .returned response →
    answers run.requests = .response response ∧ response.isSuccess

theorem fetch_contract (config : CrawlConfig) (url : String) (answers : Nat → GetAnswer) :
    FetchContract config url answers (fetch config url answers) := by
  have made := fetchedFrom config url answers config.maxRetry 1 none (Nat.add_comm _ _)
  have earlier (attempt : Nat) (positive : 0 < attempt)
      (before : attempt < (fetch config url answers).requests) :
      (failureOf url (answers attempt)).isSome := by
    obtain ⟨later, rfl⟩ : ∃ later, attempt = 1 + later := ⟨attempt - 1, by omega⟩
    exact made.repeated later (by rwa [Nat.add_comm] at before)
  have decided : (0 < (fetch config url answers).requests ∧
      attemptEnd url (answers (fetch config url answers).requests) =
        .ends (fetch config url answers).how) ∨
      ((fetch config url answers).requests = config.maxRetry ∧
        (fetch config url answers).how = retriesExhausted config url
          (if config.maxRetry = 0 then none else failureOf url (answers config.maxRetry)) ∧
        ∀ attempt, 0 < attempt → attempt ≤ config.maxRetry →
          (failureOf url (answers attempt)).isSome) := by
    rcases made.decided with ⟨later, count, ended⟩ | ⟨count, exc, how, unlucky⟩
    · left
      refine ⟨?_, ?_⟩
      · exact count ▸ Nat.succ_pos later
      · rw [Nat.add_comm] at ended
        rwa [← count] at ended
    · right
      refine ⟨count, ?_, ?_⟩
      · rcases unlucky with ⟨none', rfl⟩ | ⟨later, more, rfl, -⟩
        · rw [if_pos none']
          exact how
        · rw [if_neg (by omega), more, Nat.add_comm]
          exact how
      · intro attempt positive within
        rcases Nat.lt_or_eq_of_le within with before | rfl
        · exact earlier attempt positive (count ▸ before)
        · rcases unlucky with ⟨none', -⟩ | ⟨later, more, rfl, failing⟩
          · omega
          · rw [more, Nat.add_comm]
            exact failing
  refine ⟨made.requests, ?_, earlier, decided, ?_⟩
  · rw [fetch, made.waits, List.range'_eq_map_range, List.map_map]
    apply List.map_congr_left
    intro waited _
    simp [CrawlConfig.retryWaitMs]
  · intro response is
    rcases decided with ⟨-, ended⟩ | ⟨-, how, -⟩
    · exact attemptEnd_returned (is ▸ ended)
    · rw [is] at how
      cases how

end WealthFinder.Ingestion
