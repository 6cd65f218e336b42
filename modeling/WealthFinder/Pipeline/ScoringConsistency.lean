import WealthFinder.Pipeline.CommittedVersions
import WealthFinder.Pipeline.Scoring

/-!
# Optimistic scoring

A pass reads the Event and its constituents in two statements.  As long as the Event
keeps the version that the pass read, both reads are of that version, and the upsert
checks just this.
-/

set_option autoImplicit false

namespace WealthFinder.Pipeline

open Machine

/-- The `persist_events` transactions advance the versions of their Events. -/
def PersistsAdvance (state : ScoringState) : ScoringAction → Prop
  | .database action => Advancing state.database action
  | _ => True

namespace ScoringState

def eventRow (state : ScoringState) (eventId : UUID) : Option EventRow :=
  state.database.tables.events eventId

end ScoringState

/-! ## The committed versions -/

/-- Rows stay and never go back, and an Event whose version stays keeps its row and
its constituents. -/
def EventsAdvance (before after : ScoringState) : Prop :=
  ∀ eventId row, before.eventRow eventId = some row →
    ∃ later, after.eventRow eventId = some later ∧
      row.aggregationUpdatedAt ≤ later.aggregationUpdatedAt ∧
      (row.aggregationUpdatedAt = later.aggregationUpdatedAt →
        later = row ∧ after.constituentsOf eventId = before.constituentsOf eventId)

theorem EventsAdvance.of_same {before after : ScoringState}
    (database : after.database = before.database) (stored : after.stored = before.stored) :
    EventsAdvance before after := by
  intro eventId row found
  refine ⟨row, ?_, Int.le_refl _, fun _ => ⟨rfl, ?_⟩⟩
  · simpa only [ScoringState.eventRow, database] using found
  · simp only [ScoringState.constituentsOf, database, stored]

theorem EventsAdvance.trans {first second third : ScoringState}
    (early : EventsAdvance first second) (late : EventsAdvance second third) :
    EventsAdvance first third := by
  intro eventId row found
  obtain ⟨middle, foundMiddle, newer, sameEarly⟩ := early eventId row found
  obtain ⟨last, foundLast, newest, sameLate⟩ := late eventId middle foundMiddle
  refine ⟨last, foundLast, Int.le_trans newer newest, ?_⟩
  intro equal
  have stays : middle.aggregationUpdatedAt = last.aggregationUpdatedAt :=
    Int.le_antisymm newest (equal ▸ newer)
  obtain ⟨rowLate, constituentsLate⟩ := sameLate stays
  obtain ⟨rowEarly, constituentsEarly⟩ := sameEarly (equal.trans stays.symm)
  exact ⟨rowLate.trans rowEarly, constituentsLate.trans constituentsEarly⟩

/-- `stored` lists the `entity_events` rows. -/
structure StoredSound (state : ScoringState) : Prop where
  listed : ∀ id, id ∈ state.stored ↔ (state.database.entityEvents id).isSome
  distinct : state.stored.Nodup

theorem mapped_iff {tables : EventTables} {eventId id : UUID} :
    (tables.entityMap id).map EventEntityMap.eventId = some eventId ↔
      Member tables eventId id := by
  simp only [Option.map_eq_some_iff, Member]

theorem storedId_none {action : TransactionAction}
    (other : ∀ row, action ≠ .storeEntityEvent row) : storedId action = none := by
  cases action with
  | storeEntityEvent row => exact absurd rfl (other row)
  | _ => rfl

theorem StoredSound.step {state : ScoringState} {action : TransactionAction}
    {database : TransactionState} (stored : StoredSound state)
    (moved : transactionStep state.database action = some database) :
    StoredSound { state with
      database := database
      stored := state.stored ++ (storedId action).toList } := by
  rcases transactionStep_entityEvents moved with ⟨row, rfl, absent, added⟩ | ⟨other, same⟩
  · constructor
    · intro id
      rw [added]
      by_cases same : id = row.entityEventId
      · simp [storedId, same]
      · simpa [storedId, same] using stored.listed id
    · have fresh : row.entityEventId ∉ state.stored := by
        intro member
        have known := (stored.listed _).mp member
        rw [absent] at known
        cases known
      refine List.nodup_append.mpr ⟨stored.distinct, List.nodup_singleton _, ?_⟩
      intro id member other single same
      rw [same, List.mem_singleton.mp single] at member
      exact fresh member
  · rw [storedId_none other, Option.toList_none, List.append_nil]
    constructor
    · intro id
      rw [same]
      exact stored.listed id
    · exact stored.distinct

/-- The constituents at one version are read the same before and after. -/
theorem constituentsOf_step {state : ScoringState} {action : TransactionAction}
    {database : TransactionState} (stored : StoredSound state)
    (sound : DatabaseAdvances state.database)
    (moved : transactionStep state.database action = some database) {eventId : UUID}
    (members : ∀ id, Member database.tables eventId id ↔
      Member state.database.tables eventId id) :
    ({ state with
      database := database
      stored := state.stored ++ (storedId action).toList } : ScoringState).constituentsOf
        eventId = state.constituentsOf eventId := by
  have old : (state.stored.filter fun id =>
        ((database.tables.entityMap id).map EventEntityMap.eventId) = some eventId) =
      state.stored.filter fun id =>
        ((state.database.tables.entityMap id).map EventEntityMap.eventId) = some eventId := by
    apply List.filter_congr
    intro id _
    rw [decide_eq_decide, mapped_iff, mapped_iff]
    exact members id
  -- a new row is not mapped yet
  have new : ((storedId action).toList.filter fun id =>
      ((database.tables.entityMap id).map EventEntityMap.eventId) = some eventId) = [] := by
    apply List.filter_eq_nil_iff.mpr
    intro id member
    rw [decide_eq_true_eq, mapped_iff, members]
    intro mapped
    obtain ⟨mapping, found, -⟩ := mapped
    have known := sound.referenced id (by rw [found]; rfl)
    rcases transactionStep_entityEvents moved with ⟨row, rfl, absent, -⟩ | ⟨other, -⟩
    · have same : id = row.entityEventId := by simpa [storedId] using member
      rw [same, absent] at known
      cases known
    · rw [storedId_none other] at member
      cases member
  simp only [ScoringState.constituentsOf, List.filter_append, old, new, List.append_nil]
  apply List.filterMap_congr
  intro id member
  have listed := (List.mem_filter.mp member).1
  obtain ⟨row, known⟩ := Option.isSome_iff_exists.mp ((stored.listed id).mp listed)
  rw [known]
  exact transactionStep_keeps moved known

theorem eventsAdvance_step {state : ScoringState} {action : TransactionAction}
    {database : TransactionState} (stored : StoredSound state)
    (sound : DatabaseAdvances state.database)
    (moved : transactionStep state.database action = some database) :
    EventsAdvance state { state with
      database := database
      stored := state.stored ++ (storedId action).toList } := by
  intro eventId row found
  obtain ⟨later, foundLater, newer, same⟩ := (sound.advances moved).events eventId row found
  refine ⟨later, foundLater, newer, ?_⟩
  intro equal
  obtain ⟨sameRow, members⟩ := same equal
  exact ⟨sameRow, constituentsOf_step stored sound moved members⟩

/-! ## The upsert of a score -/

section Upsert
variable {events : UUID → Option EventRow} {scores after : List EventScore}
  {score : EventScore} {expected now : Timestamp} {returned : Option EventScore}

/-- What the upsert writes when it returns a row. -/
inductive ScoreWritten (scores : List EventScore) (score : EventScore)
    (expected now : Timestamp) : List EventScore → Prop where
  | inserted (absent : ∀ row ∈ scores, row.eventId ≠ score.eventId) :
      ScoreWritten scores score expected now (scores ++ [insertedScore score expected now])
  | updated (row : EventScore) (member : row ∈ scores) (same : row.eventId = score.eventId) :
      ScoreWritten scores score expected now (scores.map fun other =>
        if other.eventId = score.eventId then overwriteScore row score expected now else other)

theorem upsertEventScore_cases
    (ran : upsertEventScore events scores score expected now = some (returned, after)) :
    (returned = none ∧ after = scores) ∨ (returned.isSome ∧
      (∃ event, events score.eventId = some event ∧ event.aggregationUpdatedAt = expected) ∧
      ScoreWritten scores score expected now after) := by
  simp only [upsertEventScore] at ran
  split at ran
  · rename_i current
    have stored : ∃ event, events score.eventId = some event ∧
        event.aggregationUpdatedAt = expected := by
      simpa [Option.any_eq_true] using current
    split at ran
    · rename_i row found
      cases ran
      have member := List.mem_of_find?_eq_some found
      have same : row.eventId = score.eventId := by simpa using List.find?_some found
      exact Or.inr ⟨rfl, stored, .updated row member same⟩
    · rename_i absent
      split at ran
      · cases ran
      · cases ran
        refine Or.inr ⟨rfl, stored, .inserted ?_⟩
        intro row member
        simpa using List.find?_eq_none.mp absent row member
  · cases ran
    exact Or.inl ⟨rfl, rfl⟩

/-- A row after the upsert is an old one, or carries the new score. -/
theorem ScoreWritten.mem (written : ScoreWritten scores score expected now after)
    {row : EventScore} (member : row ∈ after) :
    row ∈ scores ∨ (row.eventId = score.eventId ∧
      row.scoredAggregationUpdatedAt = expected ∧
      row.toScoreFields = score.toScoreFields) := by
  cases written with
  | inserted absent =>
      rcases List.mem_append.mp member with old | new
      · exact Or.inl old
      · rw [List.mem_singleton.mp new]
        exact Or.inr ⟨rfl, rfl, rfl⟩
  | updated old oldMember same =>
      obtain ⟨other, otherMember, equal⟩ := List.mem_map.mp member
      split at equal
      · subst equal
        exact Or.inr ⟨same, rfl, rfl⟩
      · subst equal
        exact Or.inl otherMember

theorem ScoreWritten.distinct (written : ScoreWritten scores score expected now after)
    (distinct : (scores.map EventScore.eventId).Nodup) :
    (after.map EventScore.eventId).Nodup := by
  cases written with
  | inserted absent =>
      rw [List.map_append, List.nodup_append]
      refine ⟨distinct, List.nodup_singleton _, ?_⟩
      intro eventId member other single same
      obtain ⟨row, rowMember, equal⟩ := List.mem_map.mp member
      have ofScore : other = score.eventId := List.mem_singleton.mp single
      exact absent row rowMember (equal.trans (same.trans ofScore))
  | updated row member same =>
      have ids : ((scores.map fun other => if other.eventId = score.eventId then
          overwriteScore row score expected now else other).map EventScore.eventId) =
          scores.map EventScore.eventId := by
        rw [List.map_map]
        apply List.map_congr_left
        intro other _
        simp only [Function.comp]
        split
        · rename_i equal
          rw [equal]
          exact same
        · rfl
      rw [ids]
      exact distinct

theorem ScoreWritten.present (written : ScoreWritten scores score expected now after) :
    ∃ row ∈ after, row.eventId = score.eventId := by
  cases written with
  | inserted absent =>
      exact ⟨insertedScore score expected now, by simp, rfl⟩
  | updated row member same =>
      refine ⟨overwriteScore row score expected now, List.mem_map.mpr ⟨row, member, ?_⟩, same⟩
      rw [if_pos same]

/-- A row keeps its identity, and moves to the version checked. -/
theorem ScoreWritten.kept (written : ScoreWritten scores score expected now after)
    (distinct : (scores.map EventScore.eventId).Nodup) {old : EventScore}
    (member : old ∈ scores) : ∃ later ∈ after, later.eventId = old.eventId ∧
      later.scoreId = old.scoreId ∧ later.createdAt = old.createdAt ∧
      (later = old ∨
        (old.eventId = score.eventId ∧ later.scoredAggregationUpdatedAt = expected)) := by
  cases written with
  | inserted absent =>
      exact ⟨old, List.mem_append_left _ member, rfl, rfl, rfl, Or.inl rfl⟩
  | updated row rowMember same =>
      by_cases ofScore : old.eventId = score.eventId
      · have equal : old = row :=
          List.inj_on_of_nodup_map distinct member rowMember (ofScore.trans same.symm)
        subst equal
        refine ⟨overwriteScore old score expected now, List.mem_map.mpr ⟨old, member, ?_⟩,
          rfl, rfl, rfl, Or.inr ⟨ofScore, rfl⟩⟩
        rw [if_pos ofScore]
      · refine ⟨old, List.mem_map.mpr ⟨old, member, ?_⟩, rfl, rfl, rfl, Or.inl rfl⟩
        rw [if_neg ofScore]

end Upsert

/-! ## What a pass can do -/

/-- What one run of a pass to its next await can do. -/
inductive PassStep (config : ScoringConfig) (state : ScoringState) (number : Nat)
    (pass : ScorePass) : ScoringState → Prop where
  | ended : PassStep config state number pass (state.endPass number)
  | waits : PassStep config state number pass state
  | fetchedEvent {event : EventRow} (found : state.eventRow pass.eventId = some event) :
      PassStep config state number pass
        (state.setPass number ⟨pass.eventId, .fetchEntityEvents event⟩)
  | scored {event : EventRow} {fields : ScoreFields} (reply : ScoreReply)
      (stage : pass.stage = .fetchEntityEvents event)
      (computed : computeScore config event (state.constituentsOf pass.eventId) =
        some fields) :
      PassStep config state number pass (state.setPass number ⟨pass.eventId,
        .persistScore (buildScore fields pass.eventId event.aggregationUpdatedAt reply)
          event.aggregationUpdatedAt⟩)
  | persisted {score : EventScore} {expected now : Timestamp} {event : EventRow}
      {scores : List EventScore} {next : Option ScorePass}
      (stage : pass.stage = .persistScore score expected)
      (found : state.eventRow score.eventId = some event)
      (current : event.aggregationUpdatedAt = expected)
      (written : ScoreWritten state.scores score expected now scores)
      (goesOn : next = none ∨ next = some pass ∨ next = some ⟨pass.eventId, .publish⟩) :
      PassStep config state number pass { state with
        scores := scores
        wrote := (number, pass.eventId) :: state.wrote
        passes := Function.update state.passes number next }
  | published {next : Option ScorePass} (stage : pass.stage = .publish)
      (goesOn : next = none ∨ next = some pass) :
      PassStep config state number pass { state with
        scored := (number, pass.eventId) :: state.scored
        passes := Function.update state.passes number next }

section Pass
variable {config : ScoringConfig} {state : ScoringState} {number : Nat} {pass : ScorePass}
  {reply : ScoreReply}

theorem resumePersistScore_step {score : EventScore} {expected : Timestamp}
    (opened : state.passes number = some pass)
    (stage : pass.stage = .persistScore score expected) :
    PassStep config state number pass
      (resumePersistScore state number pass score expected reply) := by
  have stays : state.passes = Function.update state.passes number (some pass) := by
    rw [← opened, Function.update_eq_self]
  unfold resumePersistScore
  split
  · exact .ended
  · rename_i returned scores ran
    rcases upsertEventScore_cases ran with ⟨rfl, rfl⟩ | ⟨some', ⟨event, found, current⟩, written⟩
    · cases reply.answer with
      | done => exact .ended
      | unreachable applied => cases applied <;> exact .waits
      | failed applied => cases applied <;> exact .ended
    · have wrote := fun next goesOn =>
        @PassStep.persisted config state number pass score expected reply.now event scores next
          stage found current written goesOn
      cases reply.answer with
      | done =>
          simp only [some', if_true]
          exact wrote (some ⟨pass.eventId, .publish⟩) (Or.inr (Or.inr rfl))
      | unreachable applied =>
          cases applied with
          | true =>
              have same := wrote (some pass) (Or.inr (Or.inl rfl))
              rw [← stays] at same
              simpa only [some', if_true] using same
          | false => exact .waits
      | failed applied =>
          cases applied with
          | true =>
              simp only [some', if_true]
              exact wrote none (Or.inl rfl)
          | false => exact .ended

theorem resumePublishScore_step (opened : state.passes number = some pass)
    (stage : pass.stage = .publish) (answer : Answer) :
    PassStep config state number pass (resumePublishScore state number pass answer) := by
  have stays : state.passes = Function.update state.passes number (some pass) := by
    rw [← opened, Function.update_eq_self]
  have announced := fun next goesOn =>
    @PassStep.published config state number pass next stage goesOn
  unfold resumePublishScore
  cases answer with
  | done => exact announced none (Or.inl rfl)
  | unreachable applied =>
      cases applied with
      | true =>
          have same := announced (some pass) (Or.inr rfl)
          rwa [← stays] at same
      | false => exact .waits
  | failed applied =>
      cases applied with
      | true => exact announced none (Or.inl rfl)
      | false => exact .ended

theorem resumePass_step (opened : state.passes number = some pass) :
    PassStep config state number pass (resumePass config state number pass reply) := by
  unfold resumePass
  split
  · split
    · split
      · exact .ended
      · rename_i event found
        exact .fetchedEvent found
    · exact .ended
  · rename_i event stage
    split
    · have sameScore := computeScore_perm config event
        (reply.order.perm (state.constituentsOf pass.eventId))
      simp only [fetchEntityEventsForEvent, sameScore]
      split
      · exact .ended
      · rename_i fields computed
        exact .scored reply stage computed
    · exact .ended
  · rename_i score expected stage
    exact resumePersistScore_step opened stage
  · rename_i stage
    exact resumePublishScore_step opened stage reply.answer

end Pass

/-! ## The invariant -/

/-- The Event still has the row that was read, or a newer version. -/
def StillOrNewer (state : ScoringState) (eventId : UUID) (event : EventRow) : Prop :=
  ∃ current, state.eventRow eventId = some current ∧
    (current = event ∨ event.aggregationUpdatedAt < current.aggregationUpdatedAt)

/-- The score is of the Event's current version, or of an older one. -/
def ScoredFrom (config : ScoringConfig) (state : ScoringState) (score : EventScore) : Prop :=
  ∃ current, state.eventRow score.eventId = some current ∧
    score.scoredAggregationUpdatedAt ≤ current.aggregationUpdatedAt ∧
    (score.scoredAggregationUpdatedAt = current.aggregationUpdatedAt →
      computeScore config current (state.constituentsOf score.eventId) =
        some score.toScoreFields)

def PassSound (config : ScoringConfig) (state : ScoringState) (number : Nat)
    (pass : ScorePass) : Prop :=
  match pass.stage with
  | .fetchEvent => True
  | .fetchEntityEvents event => StillOrNewer state pass.eventId event
  | .persistScore score expected => score.eventId = pass.eventId ∧
      score.scoredAggregationUpdatedAt = expected ∧ ScoredFrom config state score
  | .publish => (number, pass.eventId) ∈ state.wrote

structure ScoringSound (config : ScoringConfig) (state : ScoringState) : Prop where
  database : DatabaseAdvances state.database
  stored : StoredSound state
  distinct : (state.scores.map EventScore.eventId).Nodup
  scores : ∀ score ∈ state.scores, ScoredFrom config state score
  passes : ∀ number pass, state.passes number = some pass →
    PassSound config state number pass
  scored : ∀ message ∈ state.scored, message ∈ state.wrote
  wrote : ∀ entry ∈ state.wrote, ∃ score ∈ state.scores, score.eventId = entry.2

theorem scoringSound_initial (config : ScoringConfig) :
    ScoringSound config ScoringState.initial where
  database := databaseAdvances_initial
  stored := ⟨by intro id; simp [ScoringState.initial, TransactionState.initial],
    List.nodup_nil⟩
  distinct := List.nodup_nil
  scores := by intro _ member; cases member
  passes := by intro _ _ opened; cases opened
  scored := by intro _ member; cases member
  wrote := by intro _ member; cases member

theorem StillOrNewer.advance {before after : ScoringState} {eventId : UUID}
    {event : EventRow} (held : StillOrNewer before eventId event)
    (advance : EventsAdvance before after) : StillOrNewer after eventId event := by
  obtain ⟨current, found, place⟩ := held
  obtain ⟨later, foundLater, newer, same⟩ := advance eventId current found
  refine ⟨later, foundLater, ?_⟩
  rcases place with rfl | older
  · rcases Int.lt_or_eq_of_le newer with moved | equal
    · exact Or.inr moved
    · exact Or.inl (same equal).1
  · exact Or.inr (Int.lt_of_lt_of_le older newer)

theorem ScoredFrom.advance {config : ScoringConfig} {before after : ScoringState}
    {score : EventScore} (held : ScoredFrom config before score)
    (advance : EventsAdvance before after) : ScoredFrom config after score := by
  obtain ⟨current, found, notNewer, computed⟩ := held
  obtain ⟨later, foundLater, newer, same⟩ := advance score.eventId current found
  refine ⟨later, foundLater, Int.le_trans notNewer newer, ?_⟩
  intro equal
  have stays : current.aggregationUpdatedAt = later.aggregationUpdatedAt :=
    Int.le_antisymm newer (equal ▸ notNewer)
  obtain ⟨rfl, constituents⟩ := same stays
  rw [constituents]
  exact computed equal

theorem PassSound.advance {config : ScoringConfig} {before after : ScoringState}
    {number : Nat} {pass : ScorePass} (held : PassSound config before number pass)
    (advance : EventsAdvance before after)
    (wrote : ∀ entry ∈ before.wrote, entry ∈ after.wrote) :
    PassSound config after number pass := by
  obtain ⟨eventId, stage⟩ := pass
  cases stage with
  | fetchEvent => trivial
  | fetchEntityEvents event => exact StillOrNewer.advance held advance
  | persistScore score expected =>
      obtain ⟨ofEvent, version, from'⟩ := held
      exact ⟨ofEvent, version, from'.advance advance⟩
  | publish => exact wrote _ held

/-- A row that was written carries the score of the version just checked. -/
theorem ScoredFrom.written {config : ScoringConfig} {state : ScoringState}
    {score row : EventScore} {expected : Timestamp} {event : EventRow}
    (held : ScoredFrom config state score)
    (version : score.scoredAggregationUpdatedAt = expected)
    (found : state.eventRow score.eventId = some event)
    (current : event.aggregationUpdatedAt = expected)
    (ofScore : row.eventId = score.eventId)
    (rowVersion : row.scoredAggregationUpdatedAt = expected)
    (fields : row.toScoreFields = score.toScoreFields) :
    state.eventRow row.eventId = some event ∧
      event.aggregationUpdatedAt = row.scoredAggregationUpdatedAt ∧
      computeScore config event (state.constituentsOf row.eventId) =
        some row.toScoreFields := by
  obtain ⟨other, foundOther, -, computed⟩ := held
  rw [found] at foundOther
  cases foundOther
  rw [ofScore, rowVersion, fields]
  exact ⟨found, current, computed (version.trans current.symm)⟩

/-! ## The steps -/

section Step
variable {config : ScoringConfig} {state after : ScoringState} {number : Nat}
  {pass : ScorePass}

theorem PassStep.advance (step : PassStep config state number pass after) :
    EventsAdvance state after := by
  cases step <;> exact EventsAdvance.of_same rfl rfl

theorem PassStep.wrote (step : PassStep config state number pass after) :
    ∀ entry ∈ state.wrote, entry ∈ after.wrote := by
  intro entry member
  cases step with
  | persisted stage found current written goesOn => exact List.mem_cons_of_mem _ member
  | _ => exact member

theorem PassStep.others (step : PassStep config state number pass after) {other : Nat}
    (apart : other ≠ number) : after.passes other = state.passes other := by
  cases step <;> simp [ScoringState.endPass, ScoringState.setPass, apart]

theorem PassStep.next (step : PassStep config state number pass after)
    (sound : PassSound config state number pass) {next : ScorePass}
    (opened : state.passes number = some pass) (goesOn : after.passes number = some next) :
    PassSound config after number next := by
  have carried := sound.advance step.advance step.wrote
  cases step with
  | ended => simp [ScoringState.endPass] at goesOn
  | waits =>
      rw [opened] at goesOn
      cases goesOn
      exact sound
  | @fetchedEvent event found =>
      have equal : ⟨pass.eventId, .fetchEntityEvents event⟩ = next := by
        simpa [ScoringState.setPass] using goesOn
      subst equal
      exact ⟨event, found, Or.inl rfl⟩
  | @scored event fields reply stage computed =>
      have equal : ⟨pass.eventId, .persistScore
          (buildScore fields pass.eventId event.aggregationUpdatedAt reply)
          event.aggregationUpdatedAt⟩ = next := by
        simpa [ScoringState.setPass] using goesOn
      subst equal
      simp only [PassSound, stage] at sound
      obtain ⟨current, found, place⟩ := sound
      refine ⟨rfl, rfl, current, found, ?_, ?_⟩
      · rcases place with rfl | older
        · exact Int.le_refl _
        · exact Int.le_of_lt older
      · intro equal
        rcases place with rfl | older
        · exact computed
        · exact absurd equal (Int.ne_of_lt older)
  | @persisted score expected now event scores following stage found current written next' =>
      have equal : following = some next := by simpa using goesOn
      rcases next' with rfl | rfl | rfl
      · cases equal
      · cases equal
        exact carried
      · cases equal
        exact List.mem_cons_self
  | @published following stage next' =>
      have equal : following = some next := by simpa using goesOn
      rcases next' with rfl | rfl
      · cases equal
      · cases equal
        exact carried

theorem PassStep.score (step : PassStep config state number pass after)
    (sound : PassSound config state number pass) {row : EventScore}
    (member : row ∈ after.scores) : row ∈ state.scores ∨
      ∃ event, state.eventRow row.eventId = some event ∧
        event.aggregationUpdatedAt = row.scoredAggregationUpdatedAt ∧
        computeScore config event (state.constituentsOf row.eventId) =
          some row.toScoreFields := by
  cases step with
  | @persisted score expected now event scores following stage found current written next' =>
      rcases written.mem member with old | ⟨ofScore, version, fields⟩
      · exact Or.inl old
      · simp only [PassSound, stage] at sound
        exact Or.inr ⟨event, sound.2.2.written sound.2.1 found current ofScore version fields⟩
  | _ => exact Or.inl member

theorem PassStep.sound (step : PassStep config state number pass after)
    (sound : ScoringSound config state) (opened : state.passes number = some pass) :
    ScoringSound config after := by
  have own := sound.passes number pass opened
  constructor
  · cases step <;> exact sound.database
  · cases step <;> exact ⟨sound.stored.listed, sound.stored.distinct⟩
  · cases step with
    | persisted stage found current written goesOn => exact written.distinct sound.distinct
    | _ => exact sound.distinct
  · intro score member
    rcases step.score own member with old | ⟨event, found, version, computed⟩
    · exact (sound.scores score old).advance step.advance
    · have here : ScoredFrom config state score :=
        ⟨event, found, Int.le_of_eq version.symm, fun _ => computed⟩
      exact here.advance step.advance
  · intro other another anotherOpened
    by_cases same : other = number
    · subst same
      exact step.next own opened anotherOpened
    · rw [step.others same] at anotherOpened
      exact (sound.passes other another anotherOpened).advance step.advance step.wrote
  · intro message member
    cases step with
    | published stage goesOn =>
        rcases List.mem_cons.mp member with rfl | old
        · simpa only [PassSound, stage] using own
        · exact sound.scored message old
    | persisted stage found current written goesOn =>
        exact List.mem_cons_of_mem _ (sound.scored message member)
    | _ => exact sound.scored message member
  · intro entry member
    cases step with
    | @persisted score expected now event scores following stage found current written next' =>
        rcases List.mem_cons.mp member with rfl | old
        · simp only [PassSound, stage] at own
          obtain ⟨row, rowMember, ofScore⟩ := written.present
          exact ⟨row, rowMember, ofScore.trans own.1⟩
        · obtain ⟨score', scoreMember, ofEntry⟩ := sound.wrote entry old
          obtain ⟨later, laterMember, same, -⟩ := written.kept sound.distinct scoreMember
          exact ⟨later, laterMember, same.trans ofEntry⟩
    | _ => exact sound.wrote entry member

theorem PassSound.ofPasses {passes : Nat → Option ScorePass} {nextPass : Nat}
    (sound : PassSound config state number pass) :
    PassSound config { state with passes := passes, nextPass := nextPass } number pass := by
  refine sound.advance (EventsAdvance.of_same rfl rfl) ?_
  exact fun _ member => member

theorem ScoringSound.passesChanged {passes : Nat → Option ScorePass} {nextPass : Nat}
    (sound : ScoringSound config state)
    (kept : ∀ number pass, passes number = some pass →
      state.passes number = some pass ∨ pass.stage = .fetchEvent) :
    ScoringSound config { state with passes := passes, nextPass := nextPass } where
  database := sound.database
  stored := ⟨sound.stored.listed, sound.stored.distinct⟩
  distinct := sound.distinct
  scores := fun score member =>
    (sound.scores score member).advance (EventsAdvance.of_same rfl rfl)
  passes := by
    intro number pass opened
    rcases kept number pass opened with old | starts
    · exact (sound.passes number pass old).ofPasses
    · simp only [PassSound, starts]
  scored := sound.scored
  wrote := sound.wrote

end Step

/-- Rows of `event_scores` stay, with their identity, and never go back. -/
def ScoresKept (before after : ScoringState) : Prop :=
  ∀ score ∈ before.scores, ∃ later ∈ after.scores, later.eventId = score.eventId ∧
    later.scoreId = score.scoreId ∧ later.createdAt = score.createdAt ∧
    score.scoredAggregationUpdatedAt ≤ later.scoredAggregationUpdatedAt

theorem ScoresKept.of_same {before after : ScoringState}
    (same : after.scores = before.scores) : ScoresKept before after := by
  intro score member
  rw [same]
  exact ⟨score, member, rfl, rfl, rfl, Int.le_refl _⟩

theorem ScoresKept.trans {first second third : ScoringState}
    (early : ScoresKept first second) (late : ScoresKept second third) :
    ScoresKept first third := by
  intro score member
  obtain ⟨middle, middleMember, event, id, created, newer⟩ := early score member
  obtain ⟨last, lastMember, event', id', created', newer'⟩ := late middle middleMember
  exact ⟨last, lastMember, event'.trans event, id'.trans id, created'.trans created,
    Int.le_trans newer newer'⟩

theorem PassStep.scoresKept {config : ScoringConfig} {state after : ScoringState}
    {number : Nat} {pass : ScorePass} (step : PassStep config state number pass after)
    (sound : ScoringSound config state) : ScoresKept state after := by
  cases step with
  | @persisted score expected now event scores following stage found current written next' =>
      intro old member
      obtain ⟨later, laterMember, event', id, created, place⟩ :=
        written.kept sound.distinct member
      refine ⟨later, laterMember, event', id, created, ?_⟩
      rcases place with rfl | ⟨ofScore, version⟩
      · exact Int.le_refl _
      · obtain ⟨other, foundOther, notNewer, -⟩ := sound.scores old member
        rw [ofScore, found] at foundOther
        cases foundOther
        rw [version, ← current]
        exact notNewer
  | _ => exact ScoresKept.of_same rfl

theorem ScoringSound.step {config : ScoringConfig} {state after : ScoringState}
    {action : ScoringAction} (sound : ScoringSound config state)
    (advancing : PersistsAdvance state action)
    (moved : scoringStep config state action = some after) :
    ScoringSound config after ∧ EventsAdvance state after ∧ ScoresKept state after := by
  cases action with
  | database action =>
      obtain ⟨database, stepped, rfl⟩ := Option.map_eq_some_iff.mp moved
      have advance := eventsAdvance_step sound.stored sound.database stepped
      refine ⟨?_, advance, ScoresKept.of_same rfl⟩
      constructor
      · exact sound.database.step advancing stepped
      · exact sound.stored.step stepped
      · exact sound.distinct
      · exact fun score member => (sound.scores score member).advance advance
      · exact fun number pass opened =>
          (sound.passes number pass opened).advance advance fun _ member => member
      · exact sound.scored
      · exact sound.wrote
  | startPass eventId =>
      cases moved
      refine ⟨sound.passesChanged ?_, EventsAdvance.of_same rfl rfl, ScoresKept.of_same rfl⟩
      intro number pass opened
      by_cases same : number = state.nextPass
      · have equal : ⟨eventId, .fetchEvent⟩ = pass := by
          simpa [ScoringState.setPass, same] using opened
        exact Or.inr (equal ▸ rfl)
      · exact Or.inl (by simpa [ScoringState.setPass, same] using opened)
  | resumePass number reply =>
      obtain ⟨pass, opened, rfl⟩ := Option.map_eq_some_iff.mp moved
      have step := @resumePass_step config state number pass reply opened
      exact ⟨step.sound sound opened, step.advance, step.scoresKept sound⟩
  | cancelPass number =>
      obtain ⟨pass, opened, rfl⟩ := Option.map_eq_some_iff.mp moved
      have step := @PassStep.ended config state number pass
      exact ⟨step.sound sound opened, step.advance, step.scoresKept sound⟩

theorem ScoringSound.of_trace {config : ScoringConfig} {past : List ScoringState}
    {state : ScoringState}
    (trace : Trace (scoringMachine config) PersistsAdvance past state) :
    ScoringSound config state := by
  apply trace.invariant
  · intro initial starts
    cases starts
    exact scoringSound_initial config
  · intro before action after sound advancing moved
    exact (sound.step advancing moved).1

/-! ## Whole runs -/

/-- A row's score was computed from a version that the Event had. -/
def ComputedIn (config : ScoringConfig) (state : ScoringState) (score : EventScore) :
    Prop :=
  ∃ event, state.eventRow score.eventId = some event ∧
    event.aggregationUpdatedAt = score.scoredAggregationUpdatedAt ∧
    computeScore config event (state.constituentsOf score.eventId) =
      some score.toScoreFields

theorem scores_computed {config : ScoringConfig} {past : List ScoringState}
    {state : ScoringState}
    (trace : Trace (scoringMachine config) PersistsAdvance past state) :
    ∀ score ∈ state.scores, ∃ earlier ∈ state :: past, ComputedIn config earlier score := by
  apply @Trace.history_invariant _ _ _ _ (fun past state => ∀ score ∈ state.scores,
    ∃ earlier ∈ state :: past, ComputedIn config earlier score) ?_ ?_ _ _ trace
  · intro initial starts
    cases starts
    intro score member
    cases member
  · intro past state action after before held advancing moved score member
    have sound := ScoringSound.of_trace before
    have kept : score ∈ state.scores →
        ∃ earlier ∈ after :: state :: past, ComputedIn config earlier score := by
      intro old
      obtain ⟨earlier, earlierMember, computed⟩ := held score old
      exact ⟨earlier, List.mem_cons_of_mem _ earlierMember, computed⟩
    cases action with
    | database action =>
        obtain ⟨database, -, rfl⟩ := Option.map_eq_some_iff.mp moved
        exact kept member
    | startPass eventId =>
        cases moved
        exact kept member
    | resumePass number reply =>
        obtain ⟨pass, opened, rfl⟩ := Option.map_eq_some_iff.mp moved
        have step := @resumePass_step config state number pass reply opened
        rcases step.score (sound.passes number pass opened) member with old | computed
        · exact kept old
        · exact ⟨state, List.mem_cons_of_mem _ List.mem_cons_self, computed⟩
    | cancelPass number =>
        obtain ⟨pass, -, rfl⟩ := Option.map_eq_some_iff.mp moved
        exact kept member

/-- Two states in which an Event has the same version hold the same row and the same
constituents. -/
def SameVersions (first second : ScoringState) : Prop :=
  ∀ eventId row other, first.eventRow eventId = some row →
    second.eventRow eventId = some other →
    row.aggregationUpdatedAt = other.aggregationUpdatedAt →
    other = row ∧ second.constituentsOf eventId = first.constituentsOf eventId

theorem EventsAdvance.sameVersions {before after : ScoringState}
    (advance : EventsAdvance before after) : SameVersions before after := by
  intro eventId row other found foundOther equal
  obtain ⟨later, foundLater, -, same⟩ := advance eventId row found
  rw [foundOther] at foundLater
  cases foundLater
  exact same equal

theorem SameVersions.symm {first second : ScoringState} (same : SameVersions first second) :
    SameVersions second first := by
  intro eventId row other found foundOther equal
  obtain ⟨rows, constituents⟩ := same eventId other row foundOther found equal.symm
  exact ⟨rows.symm, constituents.symm⟩

theorem sameVersions_of_trace {config : ScoringConfig} {past : List ScoringState}
    {state : ScoringState}
    (trace : Trace (scoringMachine config) PersistsAdvance past state) :
    ∀ first ∈ state :: past, ∀ second ∈ state :: past, SameVersions first second := by
  have ordered : (state :: past).Pairwise fun later earlier => EventsAdvance earlier later := by
    refine trace.pairwise (fun _ _ _ early late => early.trans late) ?_
    intro history before action after reached advancing moved
    exact ((ScoringSound.of_trace reached).step advancing moved).2.1
  have pairs : (state :: past).Pairwise SameVersions :=
    ordered.imp fun advance => advance.sameVersions.symm
  have symmetric : Std.Symm SameVersions := ⟨fun _ _ same => same.symm⟩
  refine fun first firstMember second secondMember =>
    pairs.forall_of_forall ?_ firstMember secondMember
  intro each _
  exact (EventsAdvance.of_same rfl rfl : EventsAdvance each each).sameVersions

/-- Whatever the interleaving and the failures: one score row an Event, computed from
exactly the version it names, which never goes back nor ahead; its identity stays;
and a pass announces only what it wrote. -/
theorem scoring_consistent (config : ScoringConfig) {past : List ScoringState}
    {state : ScoringState}
    (trace : Trace (scoringMachine config) PersistsAdvance past state) :
    (state.scores.map EventScore.eventId).Nodup ∧
    (∀ score ∈ state.scores,
      (∃ earlier ∈ state :: past, ComputedIn config earlier score) ∧
      (∀ earlier ∈ state :: past, ∀ event, earlier.eventRow score.eventId = some event →
        event.aggregationUpdatedAt = score.scoredAggregationUpdatedAt →
        computeScore config event (earlier.constituentsOf score.eventId) =
          some score.toScoreFields) ∧
      ∃ current, state.eventRow score.eventId = some current ∧
        score.scoredAggregationUpdatedAt ≤ current.aggregationUpdatedAt) ∧
    (∀ earlier ∈ past, ScoresKept earlier state) ∧
    (∀ message ∈ state.scored, message ∈ state.wrote) ∧
    ∀ entry ∈ state.wrote, ∃ score ∈ state.scores, score.eventId = entry.2 := by
  have sound := ScoringSound.of_trace trace
  refine ⟨sound.distinct, ?_, ?_, sound.scored, sound.wrote⟩
  · intro score member
    obtain ⟨source, sourceMember, event, found, version, computed⟩ :=
      scores_computed trace score member
    refine ⟨⟨source, sourceMember, event, found, version, computed⟩, ?_, ?_⟩
    · intro earlier earlierMember other foundOther versionOther
      obtain ⟨rows, constituents⟩ := sameVersions_of_trace trace source sourceMember earlier
        earlierMember score.eventId event other found foundOther
        (version.trans versionOther.symm)
      rw [rows, constituents]
      exact computed
    · obtain ⟨current, foundCurrent, notNewer, -⟩ := sound.scores score member
      exact ⟨current, foundCurrent, notNewer⟩
  · refine trace.relates_past (fun _ _ _ early late => early.trans late) ?_
    intro history before action after reached advancing moved
    exact ((ScoringSound.of_trace reached).step advancing moved).2.2

/-! ## A run with a pass overtaken by a flush -/

def advancingCheck (state : ScoringState) : ScoringAction → Bool
  | .database (.execute number) =>
      match state.database.calls number with
      | some call =>
          match call.pending, call.rest with
          | [], event :: _ =>
              match (call.view state.database.tables).events event.eventId with
              | some row => decide (row.aggregationUpdatedAt < event.aggregationUpdatedAt)
              | none => true
          | _, _ => true
      | none => true
  | _ => true

theorem advancingCheck_sound {state : ScoringState} {action : ScoringAction}
    (checked : advancingCheck state action = true) : PersistsAdvance state action := by
  cases action with
  | database action =>
      cases action with
      | execute number =>
          intro call event rest opened idle remaining
          left
          intro row found
          simpa [advancingCheck, opened, idle, remaining, found] using checked
      | _ => trivial
  | _ => trivial

def scoreReply (answer : Answer) (scoreId : UUID) : ScoreReply :=
  ⟨answer, .stored EntityEvent, scoreId, 2000, 2000⟩

def persistSnapshot (number : Nat) (snapshot : Event) : List ScoringAction :=
  .database (.start number sampleEnv [snapshot]) ::
    List.replicate (snapshot.entityEventIds.length + 1) (.database (.execute number)) ++
    [.database (.commit number)]

def awaits (number : Nat) (scoreId : UUID) (answers : List Answer) : List ScoringAction :=
  answers.map fun answer => .resumePass number (scoreReply answer scoreId)

/-- Pass 0 reads the first version and is overtaken; pass 1 scores the second one,
repeating an upsert whose reply was lost. -/
def overtakenPass : List ScoringAction :=
  [.database (.storeEntityEvent (sampleEntityEvent 1 0)),
    .database (.storeEntityEvent (sampleEntityEvent 2 0))] ++
  persistSnapshot 0 (sampleSnapshot 200 [1]) ++
  [.startPass 9] ++ awaits 0 50 [.done, .done] ++
  persistSnapshot 1 (sampleSnapshot 300 [1, 2]) ++ awaits 0 50 [.done] ++
  [.startPass 9] ++ awaits 1 51 [.done, .done, .unreachable true, .done, .done]

theorem scoring_consistent_overtaken : ∃ past state score,
    Trace (scoringMachine defaultScoringConfig) PersistsAdvance past state ∧
    state.scores = [score] ∧ state.scored = [(1, 9)] ∧ score.scoreId = 51 ∧
    score.scoredAggregationUpdatedAt = 300 ∧
    ∃ earlier ∈ state :: past, ComputedIn defaultScoringConfig earlier score := by
  have ran : ((scoringMachine defaultScoringConfig).run advancingCheck .initial
      overtakenPass).map (fun state => (state.scores.map fun score =>
        (score.scoreId, score.scoredAggregationUpdatedAt), state.scored)) =
      some ([(51, 300)], [(1, 9)]) := by
    decide +kernel
  obtain ⟨past, state, trace, seen⟩ :=
    @Trace.of_run_view _ _ PersistsAdvance _ (scoringMachine defaultScoringConfig)
      advancingCheck _ _ (fun _ _ _ _ checked => advancingCheck_sound checked) _ rfl
      overtakenPass ran
  simp only [Prod.mk.injEq] at seen
  obtain ⟨rows, messages⟩ := seen
  obtain ⟨score, single, fields⟩ := List.map_eq_singleton_iff.mp rows
  simp only [Prod.mk.injEq] at fields
  have member : score ∈ state.scores := by simp [single]
  have consistent := scoring_consistent defaultScoringConfig trace
  exact ⟨past, state, score, trace, single, messages, fields.1, fields.2,
    (consistent.2.1 score member).1⟩

end WealthFinder.Pipeline
