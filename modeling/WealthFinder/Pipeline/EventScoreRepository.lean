import WealthFinder.Pipeline.Scoring
import WealthFinder.Pipeline.StoredValues
import WealthFinder.Pipeline.TransactionEvents

/-!
# The rows of event_scores

`EventScoreRepository.persist_score_if_not_stale`, which reads back the row that its
statement returns.
-/

set_option autoImplicit false

namespace WealthFinder.Pipeline.Persistent

open Database

/-! ## The table -/

structure EventScoreRow where
  scoreId : UUID
  eventId : UUID
  absFinalScore : ℚ
  baseRuleScore : ℚ
  stockImpactScore : ℚ
  direction : Int
  llmFallback : Bool
  ruleScoreDetail : Json
  llmScoreDetail : Json
  scoredAt : Timestamp
  scoredAggregationUpdatedAt : Timestamp
  updatedAt : Timestamp
  createdAt : Timestamp

/-- `now` gives the time of the statement that is executed at that place. -/
structure ScoreTables where
  events : UUID → Option EventRow
  scores : List EventScoreRow
  now : Nat → Timestamp
  executed : Nat

def ScoreTables.tick (tables : ScoreTables) (scores : List EventScoreRow) : ScoreTables :=
  { tables with scores := scores, executed := tables.executed + 1 }

/-! ## `_UPSERT_EVENT_SCORE_SQL` -/

abbrev ScoreArguments := List (SqlValue UUID)

/-- `EXCLUDED`: the row that the SELECT yields, column by column. -/
def excludedOf (now : Timestamp) : ScoreArguments → Option EventScoreRow
  | [eventId, baseRuleScore, absFinalScore, stockImpactScore, direction, llmFallback,
      ruleScoreDetail, llmScoreDetail, scoreId, scoredAt, expected] => do
      some {
        scoreId := ← scoreId.toUuid
        eventId := ← eventId.toUuid
        baseRuleScore := ← baseRuleScore.toFloat
        absFinalScore := ← absFinalScore.toFloat
        stockImpactScore := ← stockImpactScore.toFloat
        direction := ← direction.toInteger
        llmFallback := ← llmFallback.toBoolean
        ruleScoreDetail := ← ruleScoreDetail.toJsonb
        llmScoreDetail := ← llmScoreDetail.toJsonb
        scoredAt := ← scoredAt.toTimestamp
        scoredAggregationUpdatedAt := ← expected.toTimestamp
        updatedAt := now
        createdAt := now }
  | _ => none

/-- DO UPDATE SET. -/
def updateScoreRow (row excluded : EventScoreRow) (now : Timestamp) : EventScoreRow :=
  { row with
    baseRuleScore := excluded.baseRuleScore
    absFinalScore := excluded.absFinalScore
    stockImpactScore := excluded.stockImpactScore
    direction := excluded.direction
    llmFallback := excluded.llmFallback
    ruleScoreDetail := excluded.ruleScoreDetail
    llmScoreDetail := excluded.llmScoreDetail
    scoredAt := excluded.scoredAt
    scoredAggregationUpdatedAt := excluded.scoredAggregationUpdatedAt
    updatedAt := now }

def scoreDataError : DriverError where
  kind := .otherPostgres
  constraintName := none
  text := "DataError('invalid input for query argument')"

def scoreIdTaken : DriverError where
  kind := .uniqueViolation
  constraintName := some "event_scores_pkey"
  text := "UniqueViolationError('duplicate key value violates unique constraint')"

/-- The statement, with the row that `RETURNING *` gives. -/
def upsertScoreRow (arguments : ScoreArguments) (tables : ScoreTables) :
    Except DriverError (ScoreTables × Option EventScoreRow) :=
  let now := tables.now tables.executed
  match excludedOf now arguments with
  | none => .error scoreDataError
  | some excluded =>
      if (tables.events excluded.eventId).any fun event =>
          decide (event.aggregationUpdatedAt = excluded.scoredAggregationUpdatedAt) then
        match tables.scores.find? fun row => row.eventId = excluded.eventId with
        | some row =>
            let updated := updateScoreRow row excluded now
            .ok (tables.tick (tables.scores.map fun other =>
              if other.eventId = excluded.eventId then updated else other), some updated)
        | none =>
            if tables.scores.any fun row => row.scoreId = excluded.scoreId then
              .error scoreIdTaken
            else .ok (tables.tick (tables.scores ++ [excluded]), some excluded)
      else .ok (tables.tick tables.scores, none)

/-! ## `persist_score_if_not_stale` -/

def asdict (output : RuleScore) : Json :=
  .object
    [("event_type_score", .number output.eventTypeScore),
      ("source_authority_score", .number output.sourceAuthorityScore),
      ("sentiment_strength_score", .number output.sentimentStrengthScore),
      ("source_heat_score", .number output.sourceHeatScore)]

def modelDump (output : LLMScore) : Json :=
  .object
    [("stock_impact_score", .number output.stockImpactScore),
      ("adjustment_reason", .ofString output.adjustmentReason)]

/-- A detail, with its output as this document. -/
def detailJson (version : String) (output : Json) : Json :=
  .object [("version", .ofString version), ("output", output)]

/-- `values`, in the order of its keys. -/
def scoreValues (score : EventScore) (expectedAggregationUpdatedAt : Timestamp) :
    List (String × SqlValue UUID) :=
  [("event_id", .uuid score.eventId),
    ("base_rule_score", .float score.baseRuleScore),
    ("abs_final_score", .float score.absFinalScore),
    ("stock_impact_score", .float score.stockImpactScore),
    ("direction", .integer score.direction),
    ("llm_fallback", .boolean score.llmFallback),
    ("rule_score_detail", .jsonb
      (detailJson score.ruleScoreDetail.version (asdict score.ruleScoreDetail.output))),
    ("llm_score_detail", .jsonb
      (detailJson score.llmScoreDetail.version (modelDump score.llmScoreDetail.output))),
    ("score_id", .uuid score.scoreId),
    ("scored_at", .timestamptz score.scoredAt),
    ("expected_aggregation_updated_at", .timestamptz expectedAggregationUpdatedAt)]

def ruleScoreFields : List String :=
  ["event_type_score", "source_authority_score", "sentiment_strength_score", "source_heat_score"]

/-- `RuleScore(**output)`. -/
def readRuleScore (output : Json) : Except DecodeError RuleScore :=
  if output.keys.all fun key => key ∈ ruleScoreFields then
    (do
      let eventTypeScore ← output.getNumber "event_type_score"
      let sourceAuthorityScore ← output.getNumber "source_authority_score"
      let sentimentStrengthScore ← output.getNumber "sentiment_strength_score"
      let sourceHeatScore ← output.getNumber "source_heat_score"
      .ok ⟨eventTypeScore, sourceAuthorityScore, sentimentStrengthScore, sourceHeatScore⟩
      : Except DecodeError RuleScore).mapError fun _ => .typeError
  else .error .typeError

/-- `LLMScore.model_validate(output)`. -/
def readLlmScore (output : Json) : Except DecodeError LLMScore :=
  (do
    let stockImpactScore ← output.getNumber "stock_impact_score"
    let adjustmentReason ← output.getString "adjustment_reason"
    .ok ⟨stockImpactScore, adjustmentReason⟩
    : Except DecodeError LLMScore).mapError fun _ => .valueError

def rowToEventScore (row : EventScoreRow) : Except DecodeError EventScore := do
  let ruleVersion ← row.ruleScoreDetail.getString "version"
  let ruleOutput ← readRuleScore (← row.ruleScoreDetail.get "output")
  let llmVersion ← row.llmScoreDetail.getString "version"
  let llmOutput ← readLlmScore (← row.llmScoreDetail.get "output")
  .ok {
    scoreId := row.scoreId
    eventId := row.eventId
    absFinalScore := row.absFinalScore
    baseRuleScore := row.baseRuleScore
    stockImpactScore := row.stockImpactScore
    direction := row.direction
    llmFallback := row.llmFallback
    ruleScoreDetail := ⟨ruleVersion, ruleOutput⟩
    llmScoreDetail := ⟨llmVersion, llmOutput⟩
    scoredAt := row.scoredAt
    scoredAggregationUpdatedAt := row.scoredAggregationUpdatedAt
    updatedAt := row.updatedAt
    createdAt := row.createdAt }

abbrev ScoreRepository := World ScoreArguments ScoreTables Unit

def raisedBy : DecodeError → Raised
  | .keyError => .other "KeyError"
  | .typeError => .other "TypeError"
  | .valueError => .other "ValueError"

def persistScoreIfNotStale (maxRetry : Int) (faults : Faults) (score : EventScore)
    (expectedAggregationUpdatedAt : Timestamp) (world : ScoreRepository) :
    Except Raised (Option EventScore) × ScoreRepository :=
  let env := { faults with exec := upsertScoreRow }
  match executeReturning maxRetry env
      ((scoreValues score expectedAggregationUpdatedAt).map Prod.snd) world with
  | (.error raised, after) => (.error raised, after)
  | (.ok none, after) => (.ok none, after)
  | (.ok (some row), after) =>
      match rowToEventScore row with
      | .ok stored => (.ok (some stored), after)
      | .error error => (.error (raisedBy error), after)

/-! ## Rows come back -/

def scoreRow (score : EventScore) : EventScoreRow where
  scoreId := score.scoreId
  eventId := score.eventId
  absFinalScore := score.absFinalScore
  baseRuleScore := score.baseRuleScore
  stockImpactScore := score.stockImpactScore
  direction := score.direction
  llmFallback := score.llmFallback
  ruleScoreDetail := detailJson score.ruleScoreDetail.version (asdict score.ruleScoreDetail.output)
  llmScoreDetail := detailJson score.llmScoreDetail.version (modelDump score.llmScoreDetail.output)
  scoredAt := score.scoredAt
  scoredAggregationUpdatedAt := score.scoredAggregationUpdatedAt
  updatedAt := score.updatedAt
  createdAt := score.createdAt

theorem excludedOf_scoreValues (score : EventScore) (expected now : Timestamp) :
    excludedOf now ((scoreValues score expected).map Prod.snd) =
      some (scoreRow (insertedScore score expected now)) := by
  rfl

theorem readRuleScore_asdict (output : RuleScore) : readRuleScore (asdict output) = .ok output := by
  have known : ((asdict output).keys.all fun key => decide (key ∈ ruleScoreFields)) = true := rfl
  have eventTypeScore : (asdict output).getNumber "event_type_score" =
      .ok output.eventTypeScore :=
    Json.getNumber_of_get (Json.get_cons_same _ _ _)
  have sourceAuthorityScore : (asdict output).getNumber "source_authority_score" =
      .ok output.sourceAuthorityScore := by
    refine Json.getNumber_of_get ?_
    rw [asdict, Json.get_cons_ne (by decide), Json.get_cons_same]
  have sentimentStrengthScore : (asdict output).getNumber "sentiment_strength_score" =
      .ok output.sentimentStrengthScore := by
    refine Json.getNumber_of_get ?_
    rw [asdict, Json.get_cons_ne (by decide), Json.get_cons_ne (by decide), Json.get_cons_same]
  have sourceHeatScore : (asdict output).getNumber "source_heat_score" =
      .ok output.sourceHeatScore := by
    refine Json.getNumber_of_get ?_
    rw [asdict, Json.get_cons_ne (by decide), Json.get_cons_ne (by decide),
      Json.get_cons_ne (by decide), Json.get_cons_same]
  rw [readRuleScore, if_pos known, eventTypeScore, sourceAuthorityScore, sentimentStrengthScore,
    sourceHeatScore]
  rfl

theorem readLlmScore_modelDump (output : LLMScore) :
    readLlmScore (modelDump output) = .ok output := by
  have stockImpactScore : (modelDump output).getNumber "stock_impact_score" =
      .ok output.stockImpactScore :=
    Json.getNumber_of_get (Json.get_cons_same _ _ _)
  have adjustmentReason : (modelDump output).getString "adjustment_reason" =
      .ok output.adjustmentReason := by
    refine Json.getString_of_get ?_
    rw [modelDump, Json.get_cons_ne (by decide), Json.get_cons_same]
  rw [readLlmScore, stockImpactScore, adjustmentReason]
  rfl

theorem rowToEventScore_scoreRow (score : EventScore) :
    rowToEventScore (scoreRow score) = .ok score := by
  have version : ∀ version output, (detailJson version output).getString "version" =
      .ok version := by
    intro version output
    exact Json.getString_of_get (Json.get_cons_same _ _ _)
  have output : ∀ version output, (detailJson version output).get "output" = .ok output := by
    intro version output
    rw [detailJson, Json.get_cons_ne (by decide), Json.get_cons_same]
  simp only [rowToEventScore, scoreRow, version, output, readRuleScore_asdict,
    readLlmScore_modelDump, bind, Except.bind]

/-! ## The statement's row -/

/-- The score as stored, under an id and at times that may not be its own. -/
def storedAs (score : EventScore) (scoreId : UUID) (updatedAt createdAt : Timestamp) :
    EventScore :=
  { score with scoreId := scoreId, updatedAt := updatedAt, createdAt := createdAt }

/-- The rows of the score's Event have its id, or one that an earlier row had. -/
def KeepsScoreId (earlier : List EventScoreRow) (score : EventScore) (rows : List EventScoreRow) :
    Prop :=
  ∀ row ∈ rows, row.eventId = score.eventId → row.scoreId = score.scoreId ∨
    ∃ old ∈ earlier, old.eventId = score.eventId ∧ old.scoreId = row.scoreId

theorem updateScoreRow_eq {row : EventScoreRow} {score : EventScore} {expected : Timestamp}
    (same : row.eventId = score.eventId) (now : Timestamp) :
    updateScoreRow row (scoreRow (insertedScore score expected now)) now =
      scoreRow (storedAs (insertedScore score expected now) row.scoreId now row.createdAt) := by
  rw [updateScoreRow, same]
  rfl

/-- What the statement does: nothing, or it updates the Event's row, or it inserts one. -/
theorem upsertScoreRow_cases {score : EventScore} {expected : Timestamp}
    {tables after : ScoreTables} {returned : Option EventScoreRow}
    (ran : upsertScoreRow ((scoreValues score expected).map Prod.snd) tables =
      .ok (after, returned)) :
    (after.scores = tables.scores ∧ returned = none) ∨
    (∃ row now, row ∈ tables.scores ∧ row.eventId = score.eventId ∧
      returned = some (updateScoreRow row (scoreRow (insertedScore score expected now)) now) ∧
      after.scores = tables.scores.map fun other =>
        if other.eventId = score.eventId then
          updateScoreRow row (scoreRow (insertedScore score expected now)) now
        else other) ∨
    ∃ now, returned = some (scoreRow (insertedScore score expected now)) ∧
      after.scores = tables.scores ++ [scoreRow (insertedScore score expected now)] := by
  simp only [upsertScoreRow, excludedOf_scoreValues] at ran
  split at ran
  · split at ran
    · rename_i row found
      cases ran
      have own := List.find?_some found
      rw [decide_eq_true_eq] at own
      exact Or.inr (Or.inl ⟨row, _, List.mem_of_find?_eq_some found, own, rfl, rfl⟩)
    · split at ran
      · cases ran
      · cases ran
        exact Or.inr (Or.inr ⟨_, rfl, rfl⟩)
  · cases ran
    exact Or.inl ⟨rfl, rfl⟩

theorem upsertScoreRow_returns {earlier : List EventScoreRow} {score : EventScore}
    {expected : Timestamp} {tables after : ScoreTables} {returned : Option EventScoreRow}
    (kept : KeepsScoreId earlier score tables.scores)
    (ran : upsertScoreRow ((scoreValues score expected).map Prod.snd) tables =
      .ok (after, returned)) :
    KeepsScoreId earlier score after.scores ∧ ∀ row, returned = some row →
      row ∈ after.scores ∧ ∃ scoreId now createdAt,
        row = scoreRow (storedAs (insertedScore score expected now) scoreId now createdAt) := by
  rcases upsertScoreRow_cases ran with
    ⟨unchanged, none⟩ | ⟨old, now, among, own, is, rows⟩ | ⟨now, is, rows⟩
  · refine ⟨?_, ?_⟩
    · rw [unchanged]
      exact kept
    · intro row impossible
      rw [none] at impossible
      cases impossible
  · refine ⟨?_, ?_⟩
    · rw [rows]
      intro row inside same
      obtain ⟨other, before, becomes⟩ := List.mem_map.mp inside
      by_cases replaced : other.eventId = score.eventId
      · rw [if_pos replaced] at becomes
        rw [← becomes]
        exact kept old among own
      · rw [if_neg replaced] at becomes
        rw [← becomes] at same
        exact absurd same replaced
    · intro row returns
      rw [is, Option.some.injEq] at returns
      refine ⟨?_, old.scoreId, now, old.createdAt, ?_⟩
      · rw [rows, ← returns]
        exact List.mem_map.mpr ⟨old, among, if_pos own⟩
      · rw [← returns, updateScoreRow_eq own]
  · refine ⟨?_, ?_⟩
    · rw [rows]
      intro row inside same
      rw [List.mem_append, List.mem_singleton] at inside
      rcases inside with before | inserted
      · exact kept row before same
      · rw [inserted]
        exact Or.inl rfl
    · intro row returns
      rw [is, Option.some.injEq] at returns
      refine ⟨?_, score.scoreId, now, now, ?_⟩
      · rw [rows, ← returns]
        exact List.mem_append_right _ List.mem_cons_self
      · rw [← returns]
        rfl

theorem upsertScoreRow_attempt {env : Environment ScoreArguments ScoreTables EventScoreRow}
    (upserts : env.exec = upsertScoreRow) {earlier : List EventScoreRow} {score : EventScore}
    {expected : Timestamp} (attempt : Nat) {before : ScoreRepository}
    (kept : KeepsScoreId earlier score before.stored.scores) :
    KeepsScoreId earlier score (executeOnce env
      ((scoreValues score expected).map Prod.snd) attempt before).2.stored.scores := by
  rcases executeOnce_stored env ((scoreValues score expected).map Prod.snd) attempt before with
    unchanged | ⟨row, executed⟩
  · rw [unchanged]
    exact kept
  · rw [upserts] at executed
    exact (upsertScoreRow_returns kept executed).1

/-- The score that a call returns is the one it was given, whatever attempts failed before:
only the times that the database sets differ, and the id where the Event had a row. -/
theorem persistScoreIfNotStale_returned {maxRetry : Int} {faults : Faults}
    {score stored : EventScore} {expected : Timestamp} {world after : ScoreRepository}
    (ran : persistScoreIfNotStale maxRetry faults score expected world =
      (.ok (some stored), after)) :
    (∃ scoreId updatedAt createdAt, stored =
      storedAs { score with scoredAggregationUpdatedAt := expected } scoreId updatedAt createdAt) ∧
    (stored.scoreId = score.scoreId ∨ ∃ row ∈ world.stored.scores,
      row.eventId = score.eventId ∧ row.scoreId = stored.scoreId) := by
  obtain ⟨env, envIs⟩ : ∃ env : Environment ScoreArguments ScoreTables EventScoreRow,
      env = { faults with exec := upsertScoreRow } := ⟨_, rfl⟩
  have upserts : env.exec = upsertScoreRow := by rw [envIs]
  have start : KeepsScoreId world.stored.scores score world.stored.scores := by
    intro row inside same
    exact Or.inr ⟨row, inside, same, rfl⟩
  have step : ∀ attempt (before : ScoreRepository),
      KeepsScoreId world.stored.scores score before.stored.scores →
      KeepsScoreId world.stored.scores score (executeOnce env
        ((scoreValues score expected).map Prod.snd) attempt before).2.stored.scores := by
    intro attempt before kept
    exact upsertScoreRow_attempt upserts attempt kept
  unfold persistScoreIfNotStale executeReturning dbWriteWithRetry at ran
  rw [← envIs] at ran
  dsimp only at ran
  cases looped : retryLoop maxRetry env.sleep
      (executeOnce env ((scoreValues score expected).map Prod.snd)) 1 world with
  | mk reply final =>
      rw [looped] at ran
      cases reply with
      | error raised => cases ran
      | ok answer =>
          cases answer with
          | none => cases ran
          | some row =>
              obtain ⟨last, before, kept, once⟩ :=
                retryLoop_ok (fun _ _ kept => kept) step start looped
              have executed := executeOnce_ok once
              rw [upserts] at executed
              obtain ⟨keeps, returns⟩ := upsertScoreRow_returns kept executed
              obtain ⟨inside, scoreId, now, createdAt, is⟩ := returns row rfl
              have decoded := rowToEventScore_scoreRow
                (storedAs (insertedScore score expected now) scoreId now createdAt)
              simp only [translatedErrors, is, decoded] at ran
              cases ran
              refine ⟨⟨scoreId, now, createdAt, rfl⟩, ?_⟩
              have sameId := keeps row inside
              rw [is] at sameId
              exact sameId rfl

/-! ## The scoring layer's statement -/

theorem find?_scoreRow (scores : List EventScore) (eventId : UUID) :
    (scores.map scoreRow).find? (fun row => row.eventId = eventId) =
      (scores.find? fun row => row.eventId = eventId).map scoreRow := by
  rw [List.find?_map]
  rfl

/-- On rows of scores the statement is `upsertEventScore`. -/
theorem upsertScoreRow_scores {scores : List EventScore} {tables : ScoreTables}
    (rows : tables.scores = scores.map scoreRow) (score : EventScore) (expected : Timestamp) :
    (∀ returned after,
      upsertEventScore tables.events scores score expected (tables.now tables.executed) =
        some (returned, after) →
      upsertScoreRow ((scoreValues score expected).map Prod.snd) tables =
        .ok (tables.tick (after.map scoreRow), returned.map scoreRow)) ∧
    (upsertEventScore tables.events scores score expected (tables.now tables.executed) = none →
      upsertScoreRow ((scoreValues score expected).map Prod.snd) tables = .error scoreIdTaken) := by
  obtain ⟨now, nowIs⟩ : ∃ now, now = tables.now tables.executed := ⟨_, rfl⟩
  rw [← nowIs]
  have eventId : (scoreRow (insertedScore score expected now)).eventId = score.eventId := rfl
  have version : (scoreRow (insertedScore score expected now)).scoredAggregationUpdatedAt =
      expected := rfl
  have scoreId : (scoreRow (insertedScore score expected now)).scoreId = score.scoreId := rfl
  simp only [upsertScoreRow, ← nowIs, excludedOf_scoreValues, eventId, version, scoreId, rows,
    upsertEventScore]
  by_cases fresh : (tables.events score.eventId).any
      (fun event => decide (event.aggregationUpdatedAt = expected)) = true
  · rw [if_pos fresh, if_pos fresh, find?_scoreRow]
    cases found : scores.find? fun row => row.eventId = score.eventId with
    | some row =>
        have own := List.find?_some found
        rw [decide_eq_true_eq] at own
        have same : (scoreRow row).eventId = score.eventId := own
        have updates : updateScoreRow (scoreRow row) (scoreRow (insertedScore score expected now))
            now = scoreRow (overwriteScore row score expected now) := rfl
        refine ⟨?_, ?_⟩
        · intro returned after is
          cases is
          simp only [Option.map_some, updates, List.map_map]
          congr 2
          refine congrArg tables.tick ?_
          refine List.map_congr_left ?_
          intro other _
          by_cases replaced : other.eventId = score.eventId
          · simp [replaced, scoreRow]
          · simp [replaced, scoreRow]
        · intro impossible
          cases impossible
    | none =>
        have taken : ((scores.map scoreRow).any fun row => decide (row.scoreId = score.scoreId)) =
            scores.any fun row => decide (row.scoreId = score.scoreId) := by
          rw [List.any_map]
          rfl
        simp only [Option.map_none, taken]
        by_cases collides : (scores.any fun row => decide (row.scoreId = score.scoreId)) = true
        · rw [if_pos collides, if_pos collides]
          refine ⟨?_, fun _ => rfl⟩
          intro returned after impossible
          cases impossible
        · rw [if_neg collides, if_neg collides]
          refine ⟨?_, ?_⟩
          · intro returned after is
            cases is
            rw [List.map_append]
            rfl
          · intro impossible
            cases impossible
  · rw [if_neg fresh, if_neg fresh]
    refine ⟨?_, ?_⟩
    · intro returned after is
      cases is
      rfl
    · intro impossible
      cases impossible

end WealthFinder.Pipeline.Persistent
