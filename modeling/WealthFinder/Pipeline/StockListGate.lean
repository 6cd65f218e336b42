import WealthFinder.Pipeline.EntityDeliveries

/-!
# The empty HK Stock List

While the list is empty no task works on a well-formed message, so nothing but the
retry check, which comes before the gate, can end one.
-/

set_option autoImplicit false

namespace WealthFinder.Pipeline

open Machine

/-- A message that the consumer can process. -/
def WellFormedSignal (fields : SignalFields) : Prop := fields.getValidId ≠ none

instance (fields : SignalFields) : Decidable (WellFormedSignal fields) :=
  inferInstanceAs (Decidable (_ ≠ _))

/-- No well-formed message that is out of retries is routed while the list is empty. -/
def RetriesLeft (config : EntityAnalysisConfig) (state : AnalysisState)
    (action : AnalysisAction) : Prop :=
  ∀ loop index message, action = .route loop index →
    state.taskAt loop index = some ⟨message, .route⟩ → state.hkStockList = 0 →
    WellFormedSignal message.fields → message.outOfRetries config.maxRetry = false

/-- What a stretch of a run may not do to the well-formed messages. -/
structure LeftAlone (before after : AnalysisState) : Prop where
  known : ∀ messageId fields, before.stream.fields messageId = some fields →
    after.stream.fields messageId = some fields
  acknowledged : ∀ messageId fields, after.stream.fields messageId = some fields →
    WellFormedSignal fields → after.stream.Acknowledged messageId →
    before.stream.Acknowledged messageId
  deadLettered : ∀ letter ∈ after.deadLetters, WellFormedSignal letter.fields →
    letter ∈ before.deadLetters
  pending : ∀ messageId fields, before.stream.fields messageId = some fields →
    WellFormedSignal fields → (before.stream.pending messageId).isSome →
    (after.stream.pending messageId).isSome

namespace LeftAlone

theorem refl (state : AnalysisState) : LeftAlone state state where
  known := fun _ _ known => known
  acknowledged := fun _ _ _ _ acknowledged => acknowledged
  deadLettered := fun _ member _ => member
  pending := fun _ _ _ _ pending => pending

theorem trans {first second third : AnalysisState} (early : LeftAlone first second)
    (late : LeftAlone second third) : LeftAlone first third where
  known := fun messageId fields known => late.known _ _ (early.known messageId fields known)
  acknowledged := by
    intro messageId fields known valid acknowledged
    have middle := late.acknowledged messageId fields known valid acknowledged
    obtain ⟨other, found⟩ := Option.isSome_iff_exists.mp middle.1
    have same := late.known messageId other found
    rw [known] at same
    cases same
    exact early.acknowledged messageId fields found valid middle
  deadLettered := fun letter member valid =>
    early.deadLettered letter (late.deadLettered letter member valid) valid
  pending := fun messageId fields known valid pending =>
    late.pending messageId fields (early.known _ _ known) valid
      (early.pending messageId fields known valid pending)

theorem of_background {before after : AnalysisState} (kept : Background before after) :
    LeftAlone before after where
  known := kept.stream.fields
  acknowledged := fun messageId _ _ _ acknowledged =>
    kept.stream.acknowledged messageId acknowledged
  deadLettered := fun _ member _ => kept.deadLetters ▸ member
  pending := fun messageId _ _ _ pending => kept.stream.pending messageId pending

end LeftAlone

/-! ## Tasks while the list is empty -/

/-- A task has not touched its message, or its message is malformed. -/
def GateShut (state : AnalysisState) : Prop :=
  state.hkStockList = 0 → ∀ loop index task, state.taskAt loop index = some task →
    WellFormedSignal task.message.fields → task.stage = .route ∨ task.stage = .done

section Moved
variable {config : EntityAnalysisConfig} {message : StreamMessage}
  {before after : AnalysisState} {stage next : AnalysisStage}

theorem StageStep.done_elim (step : StageStep config message before .done after next) :
    False := by
  cases step with
  | failed holding => cases holding

/-- Routed at the gate with retries left, a well-formed message is skipped. -/
theorem StageStep.skipped_of_empty
    (step : StageStep config message before .route after next)
    (empty : before.hkStockList = 0) (valid : WellFormedSignal message.fields)
    (retries : message.outOfRetries config.maxRetry = false) :
    next = .done ∧ after = before := by
  cases step with
  | exhausted out =>
      rw [retries] at out
      cases out
  | malformed invalid => exact absurd invalid valid
  | skipped => exact ⟨rfl, rfl⟩
  | taken found ready free => exact absurd empty ready
  | failed holding => cases holding

/-- A task of a malformed message leaves the other messages alone. -/
theorem StageStep.leftAlone_malformed
    (step : StageStep config message before stage after next)
    (known : before.stream.fields message.id = some message.fields)
    (malformed : ¬ WellFormedSignal message.fields) : LeftAlone before after where
  known := by
    intro messageId fields found
    rw [step.fields]
    exact found
  acknowledged := by
    intro messageId fields found valid acknowledged
    rcases step.stream with same | ⟨⟨answer, acked⟩, -⟩
    · exact same ▸ acknowledged
    · rw [acked] at acknowledged
      rcases acknowledged_ackApplied acknowledged with own | before
      · rw [step.fields, own, known] at found
        cases found
        exact absurd valid malformed
      · exact before
  deadLettered := by
    intro letter member valid
    rcases step.deadLetters with same | ⟨copy, reason, -, added, -, fields⟩
    · exact same ▸ member
    · rw [added] at member
      rcases List.mem_cons.mp member with own | old
      · rw [own, fields] at valid
        exact absurd valid malformed
      · exact old
  pending := by
    intro messageId fields found valid pending
    rcases step.stream with same | ⟨⟨answer, acked⟩, -⟩
    · exact same ▸ pending
    · have other : messageId ≠ message.id := by
        intro own
        rw [own, known] at found
        cases found
        exact malformed valid
      rw [acked, ackApplied]
      split
      · simpa [StreamGroup.ack, other] using pending
      · exact pending

end Moved

theorem LeftAlone.of_loops {before after : AnalysisState}
    {loops : LoopName → AnalysisLoop} (alone : LeftAlone before after) :
    LeftAlone before { after with loops := loops } :=
  ⟨alone.known, alone.acknowledged, alone.deadLettered, alone.pending⟩

theorem GateShut.step {config : EntityAnalysisConfig} {before after : AnalysisState}
    {action : AnalysisAction} (sound : AnalysisSound before) (shut : GateShut before)
    (permitted : RetriesLeft config before action)
    (moved : analysisStep config before action = some after) :
    GateShut after ∧ (before.hkStockList = 0 → LeftAlone before after) := by
  cases analysisStep_cases moved with
  | background kept =>
      refine ⟨?_, fun _ => LeftAlone.of_background kept⟩
      intro empty loop index task found valid
      rcases kept.tasks loop index task found with ⟨old, -, stays⟩ | ⟨started, -⟩
      · exact shut (stays empty) loop index task old valid
      · exact Or.inl started
  | @task loop index message stage next mid found step routed =>
      -- the moved task, while the list is empty
      have skipped : before.hkStockList = 0 → WellFormedSignal message.fields →
          next = .done ∧ mid = before := by
        intro empty valid
        rcases shut empty loop index _ found valid with starts | ends
        · subst starts
          have retries := permitted loop index message (routed rfl) found empty valid
          exact step.skipped_of_empty empty valid retries
        · subst ends
          exact step.done_elim.elim
      obtain ⟨loops, equal⟩ := @AnalysisState.setTask_eq mid loop index ⟨message, next⟩
      constructor
      · intro empty other position task foundTask valid
        have emptyBefore : before.hkStockList = 0 := by
          rw [equal] at empty
          rw [← step.hkStockList]
          exact empty
        rcases step.taskAt_cases found foundTask with ⟨-, rfl⟩ | ⟨-, foundBefore⟩
        · exact Or.inr (skipped emptyBefore valid).1
        · exact shut emptyBefore other position task foundBefore valid
      · intro empty
        rw [equal]
        apply LeftAlone.of_loops
        by_cases valid : WellFormedSignal message.fields
        · rw [(skipped empty valid).2]
          exact LeftAlone.refl before
        · exact step.leftAlone_malformed (sound.tasks loop index _ found).known valid

theorem gateShut_of_trace {config : EntityAnalysisConfig} {past : List AnalysisState}
    {state : AnalysisState}
    (trace : Trace (analysisMachine config) (RetriesLeft config) past state) :
    GateShut state := by
  have both : AnalysisSound state ∧ GateShut state := by
    apply trace.invariant
    · intro initial starts
      cases starts
      refine ⟨analysisSound_initial config, ?_⟩
      intro _ _ _ _ found
      cases found
    · intro before action after held permitted moved
      exact ⟨held.1.step moved, (held.2.step held.1 permitted moved).1⟩
  exact both.2

/-- The list is empty, and the messages routed have retries left. -/
def Outage (config : EntityAnalysisConfig) (state : AnalysisState)
    (action : AnalysisAction) : Prop :=
  state.hkStockList = 0 ∧ RetriesLeft config state action

/-- In a run that routes no well-formed message out of retries while the list is
empty, an outage of any length leaves every well-formed message alone. -/
theorem outage_leaves_alone (config : EntityAnalysisConfig) {past : List AnalysisState}
    {state final : AnalysisState}
    (trace : Trace (analysisMachine config) (RetriesLeft config) past state)
    (outage : Reaches (analysisMachine config) (Outage config) state final) :
    LeftAlone state final := by
  have along : AnalysisSound final ∧ GateShut final ∧ LeftAlone state final := by
    apply outage.invariant
    · intro before action after held permitted moved
      obtain ⟨sound, shut, alone⟩ := held
      obtain ⟨empty, retries⟩ := permitted
      obtain ⟨shutAfter, stepped⟩ := shut.step sound retries moved
      exact ⟨sound.step moved, shutAfter, alone.trans (stepped empty)⟩
    · exact ⟨analysisSound_of_trace trace, gateShut_of_trace trace, LeftAlone.refl state⟩
  exact along.2.2

/-! ## An outage longer than the retries -/

def retriesLeftCheck (config : EntityAnalysisConfig) (state : AnalysisState) :
    AnalysisAction → Bool
  | .route loop index =>
      match state.taskAt loop index with
      | some task => decide (¬ WellFormedSignal task.message.fields) ||
          !task.message.outOfRetries config.maxRetry
      | none => true
  | _ => true

theorem retriesLeftCheck_sound {config : EntityAnalysisConfig} {state : AnalysisState}
    {action : AnalysisAction} (checked : retriesLeftCheck config state action = true) :
    RetriesLeft config state action := by
  intro loop index message routes found _ valid
  subst routes
  simpa [retriesLeftCheck, found, valid] using checked

/-- One reclaim of message 7, whose task ends at the gate. -/
def reclaimAtGate : List AnalysisAction := reclaim ++ [.route .reclaim 0, .endBatch .reclaim]

def shortOutage : List AnalysisAction :=
  [.publish 7 (cleanedSignal 1), .read 10 false, .route .consumer 0, .endBatch .consumer,
    .refreshStockList 0] ++ reclaimAtGate

/-- The third delivery is dead-lettered although the list is still empty. -/
def longOutage : List AnalysisAction :=
  shortOutage ++ reclaim ++ analyse .reclaim [] [] [.done, .done]

theorem outage_leaves_alone_short :
    ∃ final, Reaches (analysisMachine defaultEntityAnalysisConfig)
        (Outage defaultEntityAnalysisConfig)
        (.initial defaultEntityAnalysisConfig) final ∧
      final.stream.pending 7 = some 2 ∧
      LeftAlone (.initial defaultEntityAnalysisConfig) final := by
  have ran : ((analysisMachine defaultEntityAnalysisConfig).run
      (fun state action => decide (state.hkStockList = 0) &&
        retriesLeftCheck defaultEntityAnalysisConfig state action)
      (.initial defaultEntityAnalysisConfig) shortOutage).map
      (fun final => final.stream.pending 7) = some (some 2) := by
    decide +kernel
  obtain ⟨final, found, pending⟩ := Option.map_eq_some_iff.mp ran
  have outage : Reaches (analysisMachine defaultEntityAnalysisConfig)
      (Outage defaultEntityAnalysisConfig) (.initial defaultEntityAnalysisConfig) final := by
    refine Reaches.of_run ?_ shortOutage found
    intro state action checked
    simp only [Bool.and_eq_true, decide_eq_true_eq] at checked
    exact ⟨checked.1, retriesLeftCheck_sound checked.2⟩
  exact ⟨final, outage, pending,
    outage_leaves_alone defaultEntityAnalysisConfig (Trace.start rfl) outage⟩

theorem long_outage_loses_message :
    ¬ ∀ past state final,
      Trace (analysisMachine defaultEntityAnalysisConfig) anyAction past state →
      Reaches (analysisMachine defaultEntityAnalysisConfig)
        (fun state _ => state.hkStockList = 0) state final →
      LeftAlone state final := by
  intro claim
  have ran : ((analysisMachine defaultEntityAnalysisConfig).run
      (fun state _ => decide (state.hkStockList = 0))
      (.initial defaultEntityAnalysisConfig) longOutage).any
      (fun final => decide (final.stream.fields 7 = some (cleanedSignal 1)) &&
        decide (final.stream.Acknowledged 7)) = true := by
    decide +kernel
  obtain ⟨final, found, tested⟩ := (Option.any_eq_true _ _).mp ran
  simp only [Bool.and_eq_true, decide_eq_true_eq] at tested
  have outage : Reaches (analysisMachine defaultEntityAnalysisConfig)
      (fun state _ => state.hkStockList = 0) (.initial defaultEntityAnalysisConfig) final := by
    refine Reaches.of_run ?_ longOutage found
    intro state action checked
    exact of_decide_eq_true checked
  have alone := claim [] _ final (Trace.start rfl) outage
  have acknowledged := alone.acknowledged 7 (cleanedSignal 1) tested.1 (by decide) tested.2
  exact StreamGroup.not_acknowledged_empty 7 acknowledged

end WealthFinder.Pipeline
