import WealthFinder.Ingestion.CrawlAccounts

/-!
# The invariant of a crawl

`gather` is done exactly when a worker has raised or all have ended, and the accounts of
the workers balance in every reachable state.
-/

set_option autoImplicit false

namespace WealthFinder.Ingestion

open Machine

variable {Target Metadata : Type} {config : CrawlConfig} {source : ArticleSource Target Metadata}
  {state after : FanOutState Target Metadata} {maxConcurrent : Nat} {errorLog : List String}
  {targets : List Target} {index : Nat} {worker next : ArticleWorker Target Metadata}

/-! ## The future of `gather` -/

def WorkerStage.HasRaised (stage : WorkerStage Metadata) : Prop :=
  ∃ text, stage = .ended (.raised text)

def GatherSound (workers : List (ArticleWorker Target Metadata)) : Gather → Prop
  | .running => (∃ worker ∈ workers, worker.stage.isEnded = false) ∧
      ∀ worker ∈ workers, ¬ worker.stage.HasRaised
  | .returned => ∀ worker ∈ workers, worker.stage.isEnded = true ∧ ¬ worker.stage.HasRaised
  | .raised text => ∃ worker ∈ workers, worker.stage = .ended (.raised text)

theorem notRaised_of_goesOn {stage : WorkerStage Metadata} (goesOn : stage.isEnded = false) :
    ¬ stage.HasRaised := by
  rintro ⟨text, rfl⟩
  cases goesOn

/-- A worker that was there before the change and is not the one it is about. -/
theorem mem_set_of_ne {workers : List (ArticleWorker Target Metadata)}
    {other : ArticleWorker Target Metadata} (found : workers[index]? = some worker)
    (member : other ∈ workers) (differs : other ≠ worker) : other ∈ workers.set index next := by
  obtain ⟨place, there⟩ := List.mem_iff_getElem?.mp member
  have apart : index ≠ place := by
    rintro rfl
    rw [found] at there
    exact differs (Option.some.inj there).symm
  exact List.mem_iff_getElem?.mpr ⟨place, by rwa [List.getElem?_set_ne apart]⟩

theorem mem_set_self {workers : List (ArticleWorker Target Metadata)}
    (found : workers[index]? = some worker) : next ∈ workers.set index next :=
  List.mem_set (List.getElem?_eq_some_iff.mp found).1 next

theorem GatherSound.goesOn (sound : GatherSound state.workers state.gather)
    (found : state.workers[index]? = some worker) (worked : worker.stage.isEnded = false)
    (goesOn : next.stage.isEnded = false) :
    GatherSound (state.workers.set index next) state.gather := by
  have before : worker ∈ state.workers := List.mem_of_getElem? found
  cases gather : state.gather with
  | running =>
      rw [gather] at sound
      refine ⟨⟨next, mem_set_self found, goesOn⟩, ?_⟩
      intro other member
      rcases List.mem_or_eq_of_mem_set member with earlier | rfl
      · exact sound.2 other earlier
      · exact notRaised_of_goesOn goesOn
  | returned =>
      rw [gather] at sound
      have done := (sound worker before).1
      rw [worked] at done
      cases done
  | raised text =>
      rw [gather] at sound
      obtain ⟨other, member, raised⟩ := sound
      refine ⟨other, mem_set_of_ne found member ?_, raised⟩
      rintro rfl
      rw [raised] at worked
      cases worked

theorem GatherSound.ends {workers : List (ArticleWorker Target Metadata)}
    {how : ArticleEnd Metadata} (sound : GatherSound workers state.gather)
    (moved : state.workers = workers.set index next) (found : workers[index]? = some worker)
    (worked : worker.stage.isEnded = false) (ended : next.stage = .ended how) :
    GatherSound state.workers (state.gatherAfter how) := by
  have before : worker ∈ workers := List.mem_of_getElem? found
  have after : next ∈ state.workers := moved ▸ mem_set_self found
  have earlier (other : ArticleWorker Target Metadata) (member : other ∈ state.workers) :
      other ∈ workers ∨ other = next :=
    List.mem_or_eq_of_mem_set (moved ▸ member)
  cases gather : state.gather with
  | running =>
      rw [gather] at sound
      by_cases raised : next.stage.HasRaised
      · obtain ⟨text, raised⟩ := raised
        rw [ended] at raised
        cases raised
        unfold FanOutState.gatherAfter
        rw [gather]
        exact ⟨next, after, ended⟩
      · have unraised (other : ArticleWorker Target Metadata) (member : other ∈ state.workers) :
            ¬ other.stage.HasRaised := by
          rcases earlier other member with old | rfl
          · exact sound.2 other old
          · exact raised
        have falls : state.gatherAfter how =
            if state.workers.all fun worker => worker.stage.isEnded then
              .returned else .running := by
          unfold FanOutState.gatherAfter
          rw [gather]
          cases how with
          | raised text => exact absurd ⟨text, ended⟩ raised
          | _ => rfl
        rw [falls]
        split
        · rename_i all
          intro other member
          exact ⟨List.all_eq_true.mp all other member, unraised other member⟩
        · rename_i notAll
          simp only [List.all_eq_true, not_forall, Bool.not_eq_true] at notAll
          obtain ⟨other, member, works⟩ := notAll
          exact ⟨⟨other, member, works⟩, unraised⟩
  | returned =>
      rw [gather] at sound
      have done := (sound worker before).1
      rw [worked] at done
      cases done
  | raised text =>
      rw [gather] at sound
      obtain ⟨other, member, raised⟩ := sound
      have same : state.gatherAfter how = .raised text := by
        unfold FanOutState.gatherAfter
        rw [gather]
      rw [same, moved]
      refine ⟨other, mem_set_of_ne found member ?_, raised⟩
      rintro rfl
      rw [raised] at worked
      cases worked

theorem GatherSound.turn (sound : GatherSound state.workers state.gather)
    (turn : Turn config source state after index worker next) :
    GatherSound after.workers after.gather := by
  rw [turn.workers, turn.gather]
  cases stage : next.stage with
  | ended how =>
      exact @GatherSound.ends _ _ { state with workers := state.workers.set index next } _ _ _ _ _
        sound rfl turn.found turn.turn.goesOn stage
  | _ => exact sound.goesOn turn.found turn.turn.goesOn (by rw [stage]; rfl)

/-! ## Every reachable state -/

structure FanOutSound (config : CrawlConfig) (source : ArticleSource Target Metadata)
    (maxConcurrent : Nat) (errorLog : List String) (targets : List Target)
    (state : FanOutState Target Metadata) : Prop where
  targets : state.workers.map ArticleWorker.target = targets
  workers : ∀ worker ∈ state.workers, ArticleSound config source worker
  permits : state.semaphore.permits +
    state.workers.countP (fun worker => worker.stage.isInside) = maxConcurrent
  successes : state.result.successes.Perm
    (state.workers.flatMap fun worker => worker.stage.successes)
  failures : state.result.failures.Perm
    (state.workers.flatMap fun worker => worker.stage.failures)
  requested : state.requested.Perm (state.workers.flatMap (ArticleWorker.requests source))
  gather : GatherSound state.workers state.gather
  logged : ∀ url ∈ errorLog, url ∈ state.errorLog
  cleared : ∀ worker ∈ state.workers, worker.heard.logged = some (.ok false) →
    source.url worker.target ∉ errorLog

theorem fanOutSound_initial :
    FanOutSound config source maxConcurrent errorLog targets
      (FanOutState.initial maxConcurrent errorLog targets : FanOutState Target Metadata) := by
  have starts (worker : ArticleWorker Target Metadata)
      (member : worker ∈ targets.map fun target => ⟨target, .precheck, ⟨none, []⟩⟩) :
      ∃ target, worker = ⟨target, .precheck, ⟨none, []⟩⟩ := by
    obtain ⟨target, -, rfl⟩ := List.mem_map.mp member
    exact ⟨target, rfl⟩
  constructor
  · simp [FanOutState.initial, Function.comp_def]
  · intro worker member
    obtain ⟨target, rfl⟩ := starts worker member
    exact .unchecked target
  · simp [FanOutState.initial, List.countP_eq_zero, WorkerStage.isInside]
  · simp [FanOutState.initial, CrawlResult.empty, List.flatMap_map, WorkerStage.successes]
  · simp [FanOutState.initial, CrawlResult.empty, List.flatMap_map, WorkerStage.failures]
  · simp [FanOutState.initial, List.flatMap_map, ArticleWorker.requests, WorkerStage.inFlight]
  · cases targets with
    | nil =>
        intro worker member
        cases member
    | cons target rest =>
        refine ⟨⟨⟨target, .precheck, ⟨none, []⟩⟩, List.mem_cons_self, rfl⟩, ?_⟩
        intro worker member
        obtain ⟨target, rfl⟩ := starts worker member
        exact notRaised_of_goesOn rfl
  · intro url member
    exact member
  · intro worker member cleared
    obtain ⟨target, rfl⟩ := starts worker member
    cases cleared

/-- Only a url that is not in the error log is cleared. -/
theorem WorkerTurn.cleared {logged : List String} {semaphore left : Semaphore Nat}
    (turn : WorkerTurn config source logged index semaphore left worker next)
    (cleared : next.heard.logged = some (.ok false)) :
    worker.heard.logged = some (.ok false) ∨ source.url next.target ∉ logged := by
  cases turn with
  | checkRaised target heard text => cases cleared
  | skipped target heard isLogged => cases cleared
  | acquired target heard notLogged now => exact Or.inr notLogged
  | queued target heard notLogged waits => exact Or.inr notLogged
  | admitted target heard position resumed => exact Or.inl cleared
  | inside step goesOn =>
      cases step <;> exact Or.inl cleared
  | left step ends =>
      cases step <;> exact Or.inl cleared

theorem FanOutSound.turn (sound : FanOutSound config source maxConcurrent errorLog targets state)
    (turn : Turn config source state after index worker next) :
    FanOutSound config source maxConcurrent errorLog targets after := by
  have before : worker ∈ state.workers := List.mem_of_getElem? turn.found
  have earlier (other : ArticleWorker Target Metadata) (member : other ∈ after.workers) :
      other ∈ state.workers ∨ other = next :=
    List.mem_or_eq_of_mem_set (turn.workers ▸ member)
  obtain ⟨noSuccess, noFailure⟩ := leaves_nothing turn.turn.goesOn
  constructor
  · rw [turn.workers, map_set_same _ turn.found turn.turn.target]
    exact sound.targets
  · intro other member
    rcases earlier other member with old | rfl
    · exact sound.workers other old
    · exact (sound.workers worker before).turn turn.turn
  · have moved := turn.turn.permits
    have counted := @countP_set _ _ next _ _ (fun worker => worker.stage.isInside) turn.found
    have total := sound.permits
    rw [turn.workers]
    omega
  · rw [turn.workers, turn.result, successes_record]
    refine ((sound.successes.append_right _).trans List.perm_append_comm).trans ?_
    refine (flatMap_set_perm _ turn.found ?_).symm
    rw [noSuccess, List.append_nil]
  · rw [turn.workers, turn.result, failures_record]
    refine ((sound.failures.append_right _).trans List.perm_append_comm).trans ?_
    refine (flatMap_set_perm _ turn.found ?_).symm
    rw [noFailure, List.append_nil]
  · rw [turn.workers, turn.requested]
    refine (sound.requested.append_left _).trans ?_
    refine (flatMap_set_perm _ turn.found ?_).symm
    rw [turn.turn.requests]
  · exact sound.gather.turn turn
  · rw [turn.errorLog]
    exact sound.logged
  · intro other member cleared
    rcases earlier other member with old | rfl
    · exact sound.cleared other old cleared
    · rcases turn.turn.cleared cleared with already | notLogged
      · rw [turn.turn.target]
        exact sound.cleared worker before already
      · intro logged
        exact notLogged (sound.logged _ logged)

theorem FanOutSound.step {action : CrawlAction}
    (sound : FanOutSound config source maxConcurrent errorLog targets state)
    (stepped : fanOutStep config source state action = some after) :
    FanOutSound config source maxConcurrent errorLog targets after := by
  rcases fanOutStep_cases stepped with ⟨index, worker, next, turn⟩ | ⟨url, rfl⟩
  · exact sound.turn turn
  · refine { sound with logged := ?_ }
    intro other member
    exact List.mem_cons_of_mem _ (sound.logged other member)

theorem fanOutSound {past : List (FanOutState Target Metadata)}
    (trace : Trace (fanOutMachine config source maxConcurrent errorLog targets) anyAction
      past state) : FanOutSound config source maxConcurrent errorLog targets state := by
  refine trace.invariant ?_ ?_
  · rintro state rfl
    exact fanOutSound_initial
  · intro state action after sound _ moved
    exact sound.step moved

end WealthFinder.Ingestion
