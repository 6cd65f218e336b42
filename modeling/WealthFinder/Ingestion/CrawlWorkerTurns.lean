import WealthFinder.Ingestion.CrawlWorkers

/-!
# What a turn of a worker does

One stretch of a worker's code moves this worker alone.  `WorkerTurn` says where it can
go and what becomes of its permit, and `Turn` what the rest of the crawl sees of it.
-/

set_option autoImplicit false

namespace WealthFinder.Ingestion

variable {Target Metadata : Type} {config : CrawlConfig} {source : ArticleSource Target Metadata}
  {state after : FanOutState Target Metadata} {index : Nat}
  {worker next : ArticleWorker Target Metadata}

/-! ## What the rest of the crawl sees -/

/-- The request a worker has just made. -/
def ArticleWorker.request (source : ArticleSource Target Metadata)
    (worker : ArticleWorker Target Metadata) : List String :=
  match worker.stage with
  | .fetching (.requesting _ _) => [source.url worker.target]
  | _ => []

def CrawlResult.record (result : CrawlResult Metadata) :
    WorkerStage Metadata → CrawlResult Metadata
  | .ended how => result.add how
  | _ => result

namespace FanOutState

/-- The future of `gather` once a worker is at `stage`. -/
def gatherAt (state : FanOutState Target Metadata) : WorkerStage Metadata → Gather
  | .ended how => state.gatherAfter how
  | _ => state.gather

variable (state : FanOutState Target Metadata) (source : ArticleSource Target Metadata)
  (index : Nat) (worker : ArticleWorker Target Metadata)

@[simp] theorem suspend_errorLog :
    (state.suspend source index worker).errorLog = state.errorLog := by
  unfold suspend
  split <;> rfl

@[simp] theorem suspend_semaphore :
    (state.suspend source index worker).semaphore = state.semaphore := by
  unfold suspend
  split <;> rfl

@[simp] theorem suspend_workers :
    (state.suspend source index worker).workers = state.workers.set index worker := by
  unfold suspend
  split <;> rfl

@[simp] theorem suspend_result :
    (state.suspend source index worker).result = state.result.record worker.stage := by
  unfold suspend CrawlResult.record
  cases worker.stage with
  | fetching stage => cases stage <;> rfl
  | _ => rfl

@[simp] theorem suspend_requested :
    (state.suspend source index worker).requested =
      worker.request source ++ state.requested := by
  unfold suspend ArticleWorker.request
  cases worker.stage with
  | fetching stage => cases stage <;> rfl
  | _ => rfl

@[simp] theorem suspend_gather :
    (state.suspend source index worker).gather =
      { state with workers := state.workers.set index worker }.gatherAt worker.stage := by
  unfold suspend gatherAt
  cases worker.stage with
  | fetching stage => cases stage <;> rfl
  | _ => rfl

end FanOutState

/-! ## Where a worker goes -/

/-- A stretch inside of `async with semaphore`. -/
inductive InsideStep (config : CrawlConfig) (source : ArticleSource Target Metadata) :
    ArticleWorker Target Metadata → ArticleWorker Target Metadata → Prop where
  | began (target : Target) (heard : Heard) :
      InsideStep config source ⟨target, .jitter, heard⟩
        ⟨target, FanOutState.articleStage config source target
          (startFetch config (source.url target)), heard⟩
  | slept (target : Target) (heard : Heard) (attempt : Nat) (lastExc : Option String) :
      InsideStep config source ⟨target, .fetching (.backingOff attempt lastExc), heard⟩
        ⟨target, FanOutState.articleStage config source target
          (nextAttempt config (source.url target) (attempt + 1) lastExc), heard⟩
  | answered (target : Target) (heard : Heard) (attempt : Nat) (lastExc : Option String)
      (answer : GetAnswer) :
      InsideStep config source ⟨target, .fetching (.requesting attempt lastExc), heard⟩
        ⟨target, FanOutState.articleStage config source target
          (resumeGet config (source.url target) attempt answer),
          ⟨heard.logged, heard.gets ++ [answer]⟩⟩
  | parsed (target : Target) (heard : Heard) (response : HttpResponse) :
      InsideStep config source ⟨target, .parsing response, heard⟩
        ⟨target, .ended (parseArticle source target response), heard⟩

/-- The turns of the worker at `index` with the semaphore before and after. -/
inductive WorkerTurn (config : CrawlConfig) (source : ArticleSource Target Metadata)
    (errorLog : List String) (index : Nat) :
    Semaphore Nat → Semaphore Nat →
      ArticleWorker Target Metadata → ArticleWorker Target Metadata → Prop where
  | checkRaised {semaphore : Semaphore Nat} (target : Target) (heard : Heard) (text : String) :
      WorkerTurn config source errorLog index semaphore semaphore ⟨target, .precheck, heard⟩
        ⟨target, .ended (.raised text), ⟨some (.error text), heard.gets⟩⟩
  | skipped {semaphore : Semaphore Nat} (target : Target) (heard : Heard)
      (logged : source.url target ∈ errorLog) :
      WorkerTurn config source errorLog index semaphore semaphore ⟨target, .precheck, heard⟩
        ⟨target, .ended .skipped, ⟨some (.ok true), heard.gets⟩⟩
  | acquired {semaphore left : Semaphore Nat} (target : Target) (heard : Heard)
      (notLogged : source.url target ∉ errorLog)
      (now : semaphore.acquire index = (true, left)) :
      WorkerTurn config source errorLog index semaphore left ⟨target, .precheck, heard⟩
        ⟨target, .jitter, ⟨some (.ok false), heard.gets⟩⟩
  | queued {semaphore left : Semaphore Nat} (target : Target) (heard : Heard)
      (notLogged : source.url target ∉ errorLog)
      (waits : semaphore.acquire index = (false, left)) :
      WorkerTurn config source errorLog index semaphore left ⟨target, .precheck, heard⟩
        ⟨target, .waiting, ⟨some (.ok false), heard.gets⟩⟩
  | admitted {semaphore left : Semaphore Nat} (target : Target) (heard : Heard)
      (position : Nat) (resumed : semaphore.resume position = some (some index, left)) :
      WorkerTurn config source errorLog index semaphore left ⟨target, .waiting, heard⟩
        ⟨target, .jitter, heard⟩
  | inside {semaphore : Semaphore Nat} {worker next : ArticleWorker Target Metadata}
      (step : InsideStep config source worker next) (goesOn : next.stage.isEnded = false) :
      WorkerTurn config source errorLog index semaphore semaphore worker next
  | left {semaphore : Semaphore Nat} {worker next : ArticleWorker Target Metadata}
      (step : InsideStep config source worker next) (ends : next.stage.isEnded = true) :
      WorkerTurn config source errorLog index semaphore semaphore.release worker next

structure Turn (config : CrawlConfig) (source : ArticleSource Target Metadata)
    (state after : FanOutState Target Metadata) (index : Nat)
    (worker next : ArticleWorker Target Metadata) : Prop where
  found : state.workers[index]? = some worker
  turn : WorkerTurn config source state.errorLog index state.semaphore after.semaphore worker next
  errorLog : after.errorLog = state.errorLog
  workers : after.workers = state.workers.set index next
  result : after.result = state.result.record next.stage
  requested : after.requested = next.request source ++ state.requested
  gather : after.gather =
    { state with workers := state.workers.set index next }.gatherAt next.stage

def Turned (config : CrawlConfig) (source : ArticleSource Target Metadata)
    (state after : FanOutState Target Metadata) : Prop :=
  ∃ index worker next, Turn config source state after index worker next

/-- The action is one of the crawl's own workers. -/
def CrawlAction.isOwn : CrawlAction → Bool
  | .logUrl _ => false
  | _ => true

namespace FanOutState

theorem turn_suspend {semaphore : Semaphore Nat} (found : state.workers[index]? = some worker)
    (turn : WorkerTurn config source state.errorLog index state.semaphore semaphore worker next) :
    Turn config source state ({ state with semaphore := semaphore }.suspend source index next)
      index worker next :=
  ⟨found, by rwa [suspend_semaphore], suspend_errorLog _ _ _ _, suspend_workers _ _ _ _,
    suspend_result _ _ _ _, suspend_requested _ _ _ _, suspend_gather _ _ _ _⟩

theorem turn_suspendInside (found : state.workers[index]? = some worker)
    (step : InsideStep config source worker next) :
    Turn config source state (state.suspendInside source index next) index worker next := by
  unfold suspendInside
  cases ends : next.stage.isEnded with
  | false => exact turn_suspend found (.inside step ends)
  | true =>
      have leaves := turn_suspend found (.left step ends)
      exact ⟨found, by simpa using leaves.turn, suspend_errorLog _ _ _ _,
        suspend_workers _ _ _ _, suspend_result _ _ _ _, suspend_requested _ _ _ _,
        suspend_gather _ _ _ _⟩

/-! ## The steps -/

theorem resumePrecheck_turned {target : Target} {heard : Heard}
    (found : state.workers[index]? = some ⟨target, .precheck, heard⟩) (raised : Option String) :
    Turned config source state
      (state.resumePrecheck source index ⟨target, .precheck, heard⟩ raised) := by
  cases raised with
  | some text => exact ⟨_, _, _, turn_suspend found (.checkRaised target heard text)⟩
  | none =>
      simp only [resumePrecheck]
      split
      · rename_i logged
        exact ⟨_, _, _, turn_suspend found (.skipped target heard logged)⟩
      · rename_i notLogged
        cases acquired : state.semaphore.acquire index with
        | mk now semaphore =>
            cases now with
            | true => exact ⟨_, _, _, turn_suspend found (.acquired target heard notLogged acquired)⟩
            | false => exact ⟨_, _, _, turn_suspend found (.queued target heard notLogged acquired)⟩

theorem resumeAcquire_turned {position : Nat}
    (stepped : state.resumeAcquire source position = some after) :
    Turned config source state after := by
  simp only [resumeAcquire, Option.bind_eq_some_iff] at stepped
  obtain ⟨⟨acquired, semaphore⟩, resumed, index, is, ⟨target, stage, heard⟩, found, stepped⟩ :=
    stepped
  cases is
  cases stage with
  | waiting =>
      cases stepped
      exact ⟨_, _, _, turn_suspend found (.admitted target heard position resumed)⟩
  | _ => cases stepped

theorem resumeSleep_turned (found : state.workers[index]? = some worker)
    (stepped : state.resumeSleep config source index worker = some after) :
    Turned config source state after := by
  obtain ⟨target, stage, heard⟩ := worker
  cases stage with
  | jitter =>
      cases stepped
      exact ⟨_, _, _, turn_suspendInside found (.began target heard)⟩
  | fetching stage =>
      cases stage with
      | backingOff attempt lastExc =>
          cases stepped
          exact ⟨_, _, _, turn_suspendInside found (.slept target heard attempt lastExc)⟩
      | _ => cases stepped
  | _ => cases stepped

theorem resumeRequest_turned (found : state.workers[index]? = some worker) {answer : GetAnswer}
    (stepped : state.resumeRequest config source index worker answer = some after) :
    Turned config source state after := by
  obtain ⟨target, stage, heard⟩ := worker
  cases stage with
  | fetching stage =>
      cases stage with
      | requesting attempt lastExc =>
          cases stepped
          exact ⟨_, _, _, turn_suspendInside found (.answered target heard attempt lastExc answer)⟩
      | _ => cases stepped
  | _ => cases stepped

theorem resumeParsing_turned (found : state.workers[index]? = some worker)
    (stepped : state.resumeParsing source index worker = some after) :
    Turned config source state after := by
  obtain ⟨target, stage, heard⟩ := worker
  cases stage with
  | parsing response =>
      cases stepped
      exact ⟨_, _, _, turn_suspendInside found (.parsed target heard response)⟩
  | _ => cases stepped

end FanOutState

theorem fanOutStep_turned {action : CrawlAction} (own : action.isOwn = true)
    (stepped : fanOutStep config source state action = some after) :
    Turned config source state after := by
  cases action with
  | logUrl url => cases own
  | prechecked index raised =>
      obtain ⟨⟨target, stage, heard⟩, found, stepped⟩ := Option.bind_eq_some_iff.mp stepped
      cases stage with
      | precheck =>
          cases stepped
          exact FanOutState.resumePrecheck_turned found raised
      | _ => cases stepped
  | admitted position => exact FanOutState.resumeAcquire_turned stepped
  | slept index =>
      obtain ⟨worker, found, stepped⟩ := Option.bind_eq_some_iff.mp stepped
      exact FanOutState.resumeSleep_turned found stepped
  | answered index answer =>
      obtain ⟨worker, found, stepped⟩ := Option.bind_eq_some_iff.mp stepped
      exact FanOutState.resumeRequest_turned found stepped
  | parsed index =>
      obtain ⟨worker, found, stepped⟩ := Option.bind_eq_some_iff.mp stepped
      exact FanOutState.resumeParsing_turned found stepped

/-- A worker takes a turn, or another crawl writes to the error log. -/
theorem fanOutStep_cases {action : CrawlAction}
    (stepped : fanOutStep config source state action = some after) :
    Turned config source state after ∨
      ∃ url, after = { state with errorLog := url :: state.errorLog } := by
  cases action with
  | logUrl url =>
      cases stepped
      exact Or.inr ⟨url, rfl⟩
  | _ => exact Or.inl (fanOutStep_turned rfl stepped)

end WealthFinder.Ingestion
