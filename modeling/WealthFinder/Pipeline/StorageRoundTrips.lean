import WealthFinder.Pipeline.EventScoreRepository
import WealthFinder.Pipeline.PersistEntities

/-!
# What is stored is read back

Both repositories: the row that the encoder writes column by column is what the decoder
reads.
-/

set_option autoImplicit false

namespace WealthFinder.Pipeline.Persistent

open Database

/-- An EntityEvent that `persist_entities` stores is fetched under the id that it is given,
as the caller holds it; a score that `persist_score_if_not_stale` returns is the one it
wrote, but for the times of the row and an earlier row's id. -/
theorem stored_values_come_back :
    (∀ maxRetry faults stamps entities (world after : Repository) result,
      persistEntities maxRetry faults stamps entities world = (result, after) →
      (∀ persisted, result = .ok persisted →
        ∀ entity ∈ persisted, StoresNewRow world after entity) ∧
      ∀ entity, StoresNewRow world after entity →
        (world.caller.objects entity).analysisOutcome.output.stockCode =
          (world.caller.objects entity).stock.stockCode →
        ∃ id now, after.caller.objects entity = (world.caller.objects entity).assigned id now ∧
          fetchEntityEvent after.stored id = .ok (some (after.caller.objects entity))) ∧
    ∀ maxRetry faults score stored (world after : ScoreRepository),
      persistScoreIfNotStale maxRetry faults score score.scoredAggregationUpdatedAt world =
        (.ok (some stored), after) →
      (∃ scoreId updatedAt createdAt, stored = storedAs score scoreId updatedAt createdAt) ∧
      (stored.scoreId = score.scoreId ∨ ∃ row ∈ world.stored.scores,
        row.eventId = score.eventId ∧ row.scoreId = stored.scoreId) := by
  refine ⟨?_, ?_⟩
  · intro maxRetry faults stamps entities world after result ran
    refine ⟨?_, ?_⟩
    · intro persisted returned entity among
      rw [returned] at ran
      exact persistEntities_returned ran among
    · intro entity stores codes
      exact persistEntities_fetched ran stores codes
  · intro maxRetry faults score stored world after ran
    exact persistScoreIfNotStale_returned ran

def sampleScore : EventScore where
  absFinalScore := 5
  baseRuleScore := 6
  stockImpactScore := 0
  direction := 1
  llmFallback := true
  ruleScoreDetail := ⟨"v1.0.0", ⟨9, 9, 8, 5⟩⟩
  llmScoreDetail := llmScorePlaceholder
  scoreId := 1
  eventId := 2
  scoredAt := 3
  scoredAggregationUpdatedAt := 4
  updatedAt := 3
  createdAt := 3

/-- The score's Event is stored in the version that it scores. -/
def unscoredWorld : ScoreRepository where
  nextConn := 0
  stored := {
    events := fun eventId => some ⟨eventId, sampleGroup, 0, 0, [], [], 4, none, 0, 0⟩
    scores := []
    now := fun _ => 5
    executed := 0 }
  sessions := fun _ => .idle
  caller := ()
  trace := []

theorem stored_values_come_back_sample :
    (∃ after, persistEntities 3 noFaults sampleStamps [0] unstoredWorld = (.ok [0], after) ∧
      ∃ id now, after.caller.objects 0 = (unstoredEntity "00700").assigned id now ∧
        fetchEntityEvent after.stored id = .ok (some (after.caller.objects 0))) ∧
    ∃ stored after, persistScoreIfNotStale 3 noFaults sampleScore 4 unscoredWorld =
        (.ok (some stored), after) ∧
      stored.scoreId = sampleScore.scoreId ∧
      ∃ scoreId updatedAt createdAt, stored = storedAs sampleScore scoreId updatedAt createdAt := by
  have entityRan : ∃ after, persistEntities 3 noFaults sampleStamps [0] unstoredWorld =
      (.ok [0], after) := by
    rcases persistEntities_cases 3 noFaults sampleStamps [0] unstoredWorld with
      ⟨unopened, -⟩ | ⟨-, raised, final, result, after, ran, turns, ended⟩
    · refine absurd ⟨1, Nat.le_refl 1, rfl, ?_⟩ unopened
      intro earlier from1 before
      omega
    · generalize callerIs : after.caller = last at turns
      cases turns with
      | failed fault fails => cases fails
      | taken answered newArticle isTaken => cases isTaken
      | skipped answered present rest => cases present
      | inserted answered newArticle newId rest =>
          cases rest with
          | done =>
              cases ended with
              | committed stored =>
                  refine ⟨after, ?_⟩
                  rw [ran, callerIs]
                  rfl
  have scoreRan : ∃ stored after, persistScoreIfNotStale 3 noFaults sampleScore 4 unscoredWorld =
      (.ok (some stored), after) := by
    obtain ⟨after, written⟩ : ∃ after, executeOnce { noFaults with exec := upsertScoreRow }
        ((scoreValues sampleScore 4).map Prod.snd) 1 unscoredWorld =
          (.ok (some (scoreRow (insertedScore sampleScore 4 5))), after) :=
      ⟨_, rfl⟩
    refine ⟨insertedScore sampleScore 4 5, after, ?_⟩
    unfold persistScoreIfNotStale executeReturning dbWriteWithRetry
    dsimp only
    rw [retryLoop_answered written]
    simp only [translatedErrors, rowToEventScore_scoreRow]
  obtain ⟨entityAfter, entityRan⟩ := entityRan
  obtain ⟨score, scoreAfter, scoreRan⟩ := scoreRan
  refine ⟨⟨entityAfter, entityRan, ?_⟩, score, scoreAfter, scoreRan, ?_⟩
  · obtain ⟨stores, comesBack⟩ := stored_values_come_back.1 3 noFaults sampleStamps [0]
      unstoredWorld entityAfter (.ok [0]) entityRan
    exact comesBack 0 (stores [0] rfl 0 (List.mem_singleton.mpr rfl)) rfl
  · obtain ⟨comesBack, own | ⟨row, among, -⟩⟩ := stored_values_come_back.2 3 noFaults sampleScore
      score unscoredWorld scoreAfter scoreRan
    · exact ⟨own, comesBack⟩
    · cases among

end WealthFinder.Pipeline.Persistent
