import WealthFinder.Pipeline.ScoringConsistency
import WealthFinder.Pipeline.ScoringConsumer

/-!
# What becomes of a signal to score

Every step of the consumers is a few steps of the passes beside them, so the passes
stay sound.  A signal is acknowledged only after its own pass returned, and then its
Event is scored at the signalled version or has moved on.
-/

set_option autoImplicit false

namespace WealthFinder.Pipeline.ScoringConsumer

open Machine

/-- The `persist_events` transactions advance the versions of their Events. -/
def Advances (state : State) : Action → Prop
  | .database action => Advancing state.scoring.database action
  | _ => True

/-! ## How a batch is routed -/

/-- The whole batch is skipped, or a pass is started for its first valid message. -/
inductive Routed (state : State) (consumer : Nat) (batch : List StreamMessage) :
    State → Prop where
  | skipped : Routed state consumer batch (state.setLoop consumer .reading)
  | taken {before rest : List StreamMessage} {message : StreamMessage} {eventId : UUID}
      (place : batch = before ++ message :: rest)
      (names : message.fields.id = .uuid eventId) :
      Routed state consumer batch (processOne state consumer message eventId rest)

theorem Routed.later {state after : State} {consumer : Nat} {batch : List StreamMessage}
    (routed : Routed state consumer batch after) (message : StreamMessage) :
    Routed state consumer (message :: batch) after := by
  cases routed with
  | skipped => exact .skipped
  | @taken before rest first eventId place names =>
      have longer : message :: batch = (message :: before) ++ first :: rest := by
        rw [place]
        rfl
      exact .taken longer names

theorem routeBatch_routed (state : State) (consumer : Nat) (batch : List StreamMessage) :
    Routed state consumer batch (routeBatch state consumer batch) := by
  induction batch with
  | nil => exact .skipped
  | cons message rest ih =>
      unfold routeBatch
      split
      · rename_i eventId names
        have here : message :: rest = [] ++ message :: rest := rfl
        exact .taken here names
      · exact ih.later message
      · exact ih.later message

/-! ## How a pass goes on -/

section Outcome
variable {config : ScoringConfig} {state : ScoringState} {number : Nat} {pass : ScorePass}
  {reply : ScoreReply}

theorem persistScoreOutcome_stale {score : EventScore} {expected : Timestamp}
    (returned : persistScoreOutcome state score expected reply = .returned) :
    (∀ event, state.eventRow score.eventId = some event →
      event.aggregationUpdatedAt ≠ expected) ∧
    resumePersistScore state number pass score expected reply = state.endPass number := by
  cases ran : upsertEventScore state.database.tables.events state.scores score expected
      reply.now with
  | none =>
      rw [persistScoreOutcome, ran] at returned
      cases returned
  | some written =>
      obtain ⟨row, scores⟩ := written
      rw [persistScoreOutcome, ran] at returned
      rw [resumePersistScore, ran]
      cases answer : reply.answer with
      | done =>
          rw [answer] at returned
          cases row with
          | some row => cases returned
          | none =>
              rcases upsertEventScore_cases ran with ⟨-, rfl⟩ | ⟨written, -⟩
              · refine ⟨?_, rfl⟩
                intro event found same
                simp only [upsertEventScore] at ran
                have current : (state.database.tables.events score.eventId).any
                    (fun event => decide (event.aggregationUpdatedAt = expected)) = true := by
                  have stored : state.database.tables.events score.eventId = some event := found
                  simp [stored, same]
                rw [if_pos current] at ran
                split at ran
                · cases ran
                · split at ran <;> cases ran
              · cases written
      | unreachable applied =>
          rw [answer] at returned
          cases returned
      | failed applied =>
          rw [answer] at returned
          cases returned

/-- Why a pass returned: the Event has no row, its row is not the one that was scored,
or the score is announced. -/
inductive Returned (state : ScoringState) (number : Nat) (pass : ScorePass) :
    ScoringState → Prop where
  | missing (stage : pass.stage = .fetchEvent) (absent : state.eventRow pass.eventId = none) :
      Returned state number pass (state.endPass number)
  | stale {score : EventScore} {expected : Timestamp}
      (stage : pass.stage = .persistScore score expected)
      (moved : ∀ event, state.eventRow score.eventId = some event →
        event.aggregationUpdatedAt ≠ expected) :
      Returned state number pass (state.endPass number)
  | announced (stage : pass.stage = .publish) :
      Returned state number pass ({ state with
        scored := (number, pass.eventId) :: state.scored }.endPass number)

theorem resumePass_returned (returned : passOutcome config state pass reply = .returned) :
    Returned state number pass (resumePass config state number pass reply) := by
  cases stage : pass.stage with
  | fetchEvent =>
      simp only [passOutcome, stage] at returned
      simp only [resumePass, stage]
      split at returned
      · rename_i done
        split at returned
        · cases returned
        · rename_i absent
          have none' : state.database.tables.events pass.eventId = none := by
            simpa using absent
          rw [if_pos done, none']
          exact .missing stage none'
      · cases returned
  | fetchEntityEvents event =>
      simp only [passOutcome, stage] at returned
      split at returned
      · split at returned <;> cases returned
      · cases returned
  | persistScore score expected =>
      simp only [passOutcome, stage] at returned
      obtain ⟨moved, ended⟩ := @persistScoreOutcome_stale state number pass reply score expected
        returned
      simp only [resumePass, stage]
      rw [ended]
      exact .stale stage moved
  | publish =>
      simp only [passOutcome, stage] at returned
      simp only [resumePass, stage]
      unfold resumePublishScore
      cases answer : reply.answer with
      | done => exact .announced stage
      | unreachable applied =>
          rw [answer] at returned
          cases returned
      | failed applied =>
          rw [answer] at returned
          cases returned

/-- A pass that goes on stays open, for the same Event. -/
theorem resumePass_goesOn (opened : state.passes number = some pass)
    (goesOn : passOutcome config state pass reply = .goesOn) :
    ∃ next, (resumePass config state number pass reply).passes number = some next ∧
      next.eventId = pass.eventId := by
  cases stage : pass.stage with
  | fetchEvent =>
      simp only [passOutcome, stage] at goesOn
      simp only [resumePass, stage]
      split at goesOn
      · rename_i done
        split at goesOn
        · rename_i present
          obtain ⟨event, found⟩ := Option.isSome_iff_exists.mp present
          rw [if_pos done, found]
          exact ⟨⟨pass.eventId, .fetchEntityEvents event⟩, by simp [ScoringState.setPass], rfl⟩
        · cases goesOn
      · cases goesOn
  | fetchEntityEvents event =>
      simp only [passOutcome, stage] at goesOn
      simp only [resumePass, stage]
      split at goesOn
      · rename_i done
        split at goesOn
        · rename_i computed
          obtain ⟨fields, computed⟩ := Option.isSome_iff_exists.mp computed
          rw [if_pos done, computed]
          let score := buildScore fields pass.eventId event.aggregationUpdatedAt reply
          exact ⟨⟨pass.eventId, .persistScore score event.aggregationUpdatedAt⟩,
            by simp [ScoringState.setPass, score], rfl⟩
        · cases goesOn
      · cases goesOn
  | persistScore score expected =>
      simp only [passOutcome, stage] at goesOn
      simp only [resumePass, stage]
      cases ran : upsertEventScore state.database.tables.events state.scores score expected
          reply.now with
      | none =>
          rw [persistScoreOutcome, ran] at goesOn
          cases goesOn
      | some written =>
          obtain ⟨row, scores⟩ := written
          rw [persistScoreOutcome, ran] at goesOn
          rw [resumePersistScore, ran]
          cases answer : reply.answer with
          | done =>
              rw [answer] at goesOn
              cases row with
              | some row => exact ⟨⟨pass.eventId, .publish⟩, by simp [ScoringState.setPass], rfl⟩
              | none => cases goesOn
          | unreachable applied =>
              refine ⟨pass, ?_, rfl⟩
              cases applied <;> exact opened
          | failed applied =>
              rw [answer] at goesOn
              cases goesOn
  | publish =>
      simp only [passOutcome, stage] at goesOn
      simp only [resumePass, stage]
      unfold resumePublishScore
      cases answer : reply.answer with
      | done =>
          rw [answer] at goesOn
          cases goesOn
      | unreachable applied => exact ⟨pass, opened, rfl⟩
      | failed applied =>
          rw [answer] at goesOn
          cases goesOn

end Outcome

/-! ## What one step can do -/

inductive Stepped (config : ScoringConfig) (state : State) : Action → State → Prop where
  | database {action : TransactionAction} {scoring : ScoringState}
      (moved : scoringStep config state.scoring (.database action) = some scoring) :
      Stepped config state (.database action) { state with scoring := scoring }
  | published {messageId : MessageId} {fields : SignalFields} {stream : SignalStream}
      (added : state.stream.add messageId fields = some stream) :
      Stepped config state (.publish messageId fields) { state with stream := stream }
  | started {consumer : Nat} (absent : state.loops consumer = none) :
      Stepped config state (.start consumer) (state.setLoop consumer .reading)
  | lost {consumer count : Nat} (at' : state.loops consumer = some .reading) :
      Stepped config state (.read consumer count true)
        ({ state with stream := (readFrom state.stream count).2 }.setLoop consumer .reading)
  | read {consumer count : Nat} {after : State}
      (at' : state.loops consumer = some .reading)
      (routed : Routed { state with stream := (readFrom state.stream count).2 } consumer
        (readFrom state.stream count).1 after) :
      Stepped config state (.read consumer count false) after
  | waits {consumer number : Nat} {message : StreamMessage} {rest : List StreamMessage}
      {pass : ScorePass} {reply : ScoreReply}
      (at' : state.loops consumer = some (.scoring message number rest))
      (opened : state.scoring.passes number = some pass)
      (goesOn : passOutcome config state.scoring pass reply = .goesOn) :
      Stepped config state (.resume consumer reply)
        { state with scoring := resumePass config state.scoring number pass reply }
  | returned {consumer number : Nat} {message : StreamMessage} {rest : List StreamMessage}
      {pass : ScorePass} {reply : ScoreReply}
      (at' : state.loops consumer = some (.scoring message number rest))
      (opened : state.scoring.passes number = some pass)
      (done : passOutcome config state.scoring pass reply = .returned) :
      Stepped config state (.resume consumer reply)
        ({ state with
          scoring := resumePass config state.scoring number pass reply }.setLoop consumer
          (.acking message rest))
  | raised {consumer number : Nat} {message : StreamMessage} {rest : List StreamMessage}
      {pass : ScorePass} {reply : ScoreReply} {after : State}
      (at' : state.loops consumer = some (.scoring message number rest))
      (opened : state.scoring.passes number = some pass)
      (routed : Routed
        { state with scoring := resumePass config state.scoring number pass reply } consumer
        rest after) :
      Stepped config state (.resume consumer reply) after
  | acked {consumer : Nat} {message : StreamMessage} {rest : List StreamMessage}
      {reply : ScoreReply} {after : State}
      (at' : state.loops consumer = some (.acking message rest))
      (routed : Routed
        { state with stream := ackApplied state.stream reply.answer message.id } consumer
        rest after) :
      Stepped config state (.resume consumer reply) after
  | unreachable {consumer : Nat} {message : StreamMessage} {rest : List StreamMessage}
      {reply : ScoreReply} (at' : state.loops consumer = some (.acking message rest)) :
      Stepped config state (.resume consumer reply)
        ({ state with
          stream := ackApplied state.stream reply.answer message.id }.setLoop consumer .reading)
  | stopped {consumer : Nat} {loop : LoopState} (at' : state.loops consumer = some loop) :
      Stepped config state (.stop consumer) (stopLoop state consumer loop)

theorem resumeScoring_stepped {config : ScoringConfig} {state : State} {consumer number : Nat}
    {message : StreamMessage} {rest : List StreamMessage} {pass : ScorePass}
    {reply : ScoreReply} (at' : state.loops consumer = some (.scoring message number rest))
    (opened : state.scoring.passes number = some pass) :
    Stepped config state (.resume consumer reply)
      (resumeScoring config state consumer message number rest pass reply) := by
  unfold resumeScoring
  cases outcome : passOutcome config state.scoring pass reply with
  | goesOn => exact .waits at' opened outcome
  | returned => exact .returned at' opened outcome
  | raised => exact .raised at' opened (routeBatch_routed _ consumer rest)

theorem resumeAck_stepped {config : ScoringConfig} {state : State} {consumer : Nat}
    {message : StreamMessage} {rest : List StreamMessage} {reply : ScoreReply}
    (at' : state.loops consumer = some (.acking message rest)) :
    Stepped config state (.resume consumer reply)
      (resumeAck state consumer message rest reply.answer) := by
  unfold resumeAck
  cases answer : reply.answer with
  | done =>
      apply Stepped.acked at'
      rw [answer]
      exact routeBatch_routed _ consumer rest
  | failed applied =>
      apply Stepped.acked at'
      rw [answer]
      exact routeBatch_routed _ consumer rest
  | unreachable applied =>
      have unreached := @Stepped.unreachable config state consumer message rest reply at'
      rw [answer] at unreached
      exact unreached

theorem step_stepped {config : ScoringConfig} {state after : State} {action : Action}
    (moved : step config state action = some after) : Stepped config state action after := by
  cases action with
  | database action =>
      obtain ⟨scoring, stepped, rfl⟩ := Option.map_eq_some_iff.mp moved
      exact .database stepped
  | publish messageId fields =>
      obtain ⟨stream, added, rfl⟩ := Option.map_eq_some_iff.mp moved
      exact .published added
  | start consumer =>
      simp only [step] at moved
      split at moved
      · rename_i absent
        cases moved
        exact .started absent
      · cases moved
  | read consumer count lost =>
      simp only [step] at moved
      split at moved
      · rename_i at'
        cases moved
        cases lost with
        | true => exact .lost at'
        | false => exact .read at' (routeBatch_routed _ consumer _)
      · cases moved
  | resume consumer reply =>
      simp only [step, resumeLoop] at moved
      split at moved
      · cases moved
      · cases moved
      · rename_i message number rest at'
        obtain ⟨pass, opened, rfl⟩ := Option.map_eq_some_iff.mp moved
        exact resumeScoring_stepped at' opened
      · rename_i message rest at'
        cases moved
        exact resumeAck_stepped at'
  | stop consumer =>
      obtain ⟨loop, at', rfl⟩ := Option.map_eq_some_iff.mp moved
      exact .stopped at'

/-! ## Beside the passes, each step is a few of theirs -/

section Passes
variable {config : ScoringConfig} {state after : State}
  {allowed : ScoringState → ScoringAction → Prop}
  (free : ∀ scoring action, (∀ sql, action ≠ .database sql) → allowed scoring action)
include free

theorem Routed.scoring {consumer : Nat} {batch : List StreamMessage}
    (routed : Routed state consumer batch after) :
    Reaches (scoringMachine config) allowed state.scoring after.scoring := by
  cases routed with
  | skipped => exact Relation.ReflTransGen.refl
  | @taken before rest message eventId place names =>
      exact Relation.ReflTransGen.single ⟨.startPass eventId, free _ _ (by simp), rfl⟩

/-- Only the `persist_events` transactions have to be allowed. -/
theorem Stepped.scoring {action : Action} (stepped : Stepped config state action after)
    (permitted : ∀ sql, action = .database sql → allowed state.scoring (.database sql)) :
    Reaches (scoringMachine config) allowed state.scoring after.scoring := by
  have resumed : ∀ number pass reply, state.scoring.passes number = some pass →
      Reaches (scoringMachine config) allowed state.scoring
        (resumePass config state.scoring number pass reply) := by
    intro number pass reply opened
    have moved : (scoringMachine config).step state.scoring (.resumePass number reply) =
        some (resumePass config state.scoring number pass reply) := by
      simp only [scoringMachine, scoringStep, opened, Option.map_some]
    exact Relation.ReflTransGen.single ⟨.resumePass number reply, free _ _ (by simp), moved⟩
  cases stepped with
  | @database action scoring moved =>
      exact Relation.ReflTransGen.single ⟨.database action, permitted action rfl, moved⟩
  | published added => exact Relation.ReflTransGen.refl
  | started absent => exact Relation.ReflTransGen.refl
  | lost at' => exact Relation.ReflTransGen.refl
  | read at' routed =>
      have started := @Routed.scoring config _ _ allowed free _ _ routed
      exact started
  | waits at' opened goesOn => exact resumed _ _ _ opened
  | returned at' opened done => exact resumed _ _ _ opened
  | raised at' opened routed => exact (resumed _ _ _ opened).trans (@Routed.scoring config _ _ allowed free _ _ routed)
  | acked at' routed =>
      have started := @Routed.scoring config _ _ allowed free _ _ routed
      exact started
  | unreachable at' => exact Relation.ReflTransGen.refl
  | @stopped consumer loop at' =>
      cases loop with
      | reading => exact Relation.ReflTransGen.refl
      | acking message rest => exact Relation.ReflTransGen.refl
      | scoring message number rest =>
          cases opened : state.scoring.passes number with
          | none =>
              have same : state.scoring.endPass number = state.scoring := by
                simp only [ScoringState.endPass, ← opened, Function.update_eq_self]
              simp only [stopLoop, same]
              exact Relation.ReflTransGen.refl
          | some pass =>
              have moved : (scoringMachine config).step state.scoring (.cancelPass number) =
                  some (state.scoring.endPass number) := by
                simp only [scoringMachine, scoringStep, opened, Option.map_some]
              exact Relation.ReflTransGen.single ⟨.cancelPass number, free _ _ (by simp), moved⟩

end Passes

theorem Stepped.advances {config : ScoringConfig} {state after : State} {action : Action}
    (stepped : Stepped config state action after) (advancing : Advances state action) :
    Reaches (scoringMachine config) PersistsAdvance state.scoring after.scoring := by
  refine Stepped.scoring ?_ stepped ?_
  · intro scoring action other
    cases action with
    | database sql => exact absurd rfl (other sql)
    | startPass | resumePass | cancelPass => trivial
  · rintro sql rfl
    exact advancing

/-- A run of the consumers is a run of their passes. -/
theorem scoring_trace {config : ScoringConfig} {past : List State} {state : State}
    (trace : Trace (machine config) Advances past state) :
    ∃ history, Trace (scoringMachine config) PersistsAdvance history state.scoring := by
  induction trace with
  | start initial =>
      cases initial
      exact ⟨[], .start rfl⟩
  | next action before permitted moved held =>
      obtain ⟨history, passes⟩ := held
      exact passes.extend (fun _ _ advancing => advancing)
        ((step_stepped moved).advances permitted)

/-! ## What a stretch of the passes keeps -/

/-- What the passes and the versions of the Events never take back. -/
structure Kept (config : ScoringConfig) (before after : ScoringState) : Prop where
  sound : ScoringSound config after
  events : EventsAdvance before after
  scores : ScoresKept before after
  wrote : ∀ entry ∈ before.wrote, entry ∈ after.wrote
  scored : ∀ entry ∈ before.scored, entry ∈ after.scored

theorem PassStep.scored {config : ScoringConfig} {state after : ScoringState} {number : Nat}
    {pass : ScorePass} (step : PassStep config state number pass after) :
    ∀ entry ∈ state.scored, entry ∈ after.scored := by
  intro entry member
  cases step with
  | published stage goesOn => exact List.mem_cons_of_mem _ member
  | _ => exact member

theorem scoringStep_logs {config : ScoringConfig} {state after : ScoringState}
    {action : ScoringAction} (moved : scoringStep config state action = some after) :
    (∀ entry ∈ state.wrote, entry ∈ after.wrote) ∧
      ∀ entry ∈ state.scored, entry ∈ after.scored := by
  cases action with
  | database action =>
      obtain ⟨database, -, rfl⟩ := Option.map_eq_some_iff.mp moved
      exact ⟨fun _ member => member, fun _ member => member⟩
  | startPass eventId =>
      cases moved
      exact ⟨fun _ member => member, fun _ member => member⟩
  | resumePass number reply =>
      obtain ⟨pass, opened, rfl⟩ := Option.map_eq_some_iff.mp moved
      have step := @resumePass_step config state number pass reply opened
      exact ⟨step.wrote, PassStep.scored step⟩
  | cancelPass number =>
      obtain ⟨pass, -, rfl⟩ := Option.map_eq_some_iff.mp moved
      exact ⟨fun _ member => member, fun _ member => member⟩

/-! ## What the passes have read -/

/-- The Event's row is no older than the version. -/
def RowFloor (state : ScoringState) (eventId : UUID) (version : Timestamp) : Prop :=
  ∃ current, state.eventRow eventId = some current ∧ version ≤ current.aggregationUpdatedAt

/-- The version that a pass scores is stored, or a newer one is. -/
def PassRead (state : ScoringState) (number : Nat) (pass : ScorePass) : Prop :=
  match pass.stage with
  | .fetchEvent => True
  | .fetchEntityEvents event => RowFloor state pass.eventId event.aggregationUpdatedAt
  | .persistScore score expected =>
      score.eventId = pass.eventId ∧ RowFloor state pass.eventId expected
  | .publish => (number, pass.eventId) ∈ state.wrote

structure PassesRead (state : ScoringState) : Prop where
  rows : RowsLocked state.database
  passes : ∀ number pass, state.passes number = some pass → PassRead state number pass

theorem passesRead_initial : PassesRead ScoringState.initial where
  rows := rowsLocked_initial
  passes := by intro _ _ opened; cases opened

theorem PassSound.read {config : ScoringConfig} {state : ScoringState} {number : Nat}
    {pass : ScorePass} (sound : PassSound config state number pass) :
    PassRead state number pass := by
  obtain ⟨eventId, stage⟩ := pass
  cases stage with
  | fetchEvent => trivial
  | fetchEntityEvents event =>
      obtain ⟨current, found, place⟩ := sound
      refine ⟨current, found, ?_⟩
      rcases place with rfl | older
      · exact Int.le_refl _
      · exact Int.le_of_lt older
  | persistScore score expected =>
      obtain ⟨ofEvent, version, current, found, notNewer, -⟩ := sound
      exact ⟨ofEvent, current, by rw [← ofEvent]; exact found, by rw [← version]; exact notNewer⟩
  | publish => exact sound

theorem PassRead.kept {before after : ScoringState} {number : Nat} {pass : ScorePass}
    (read : PassRead before number pass)
    (rows : ∀ eventId version, RowFloor before eventId version →
      RowFloor after eventId version)
    (wrote : ∀ entry ∈ before.wrote, entry ∈ after.wrote) : PassRead after number pass := by
  obtain ⟨eventId, stage⟩ := pass
  cases stage with
  | fetchEvent => trivial
  | fetchEntityEvents event => exact rows _ _ read
  | persistScore score expected => exact ⟨read.1, rows _ _ read.2⟩
  | publish => exact wrote _ read

section PassStep
variable {config : ScoringConfig} {state after : ScoringState} {number : Nat}
  {pass : ScorePass} (step : PassStep config state number pass after)
include step

theorem PassStep.rows {eventId : UUID} {version : Timestamp}
    (floor : RowFloor state eventId version) : RowFloor after eventId version := by
  cases step <;> exact floor

theorem PassStep.read (own : PassRead state number pass) {next : ScorePass}
    (opened : state.passes number = some pass) (goesOn : after.passes number = some next) :
    PassRead after number next := by
  have carried := own.kept (fun _ _ => PassStep.rows step) step.wrote
  cases step with
  | ended => simp [ScoringState.endPass] at goesOn
  | waits =>
      rw [opened] at goesOn
      cases goesOn
      exact own
  | @fetchedEvent event found =>
      have equal : ⟨pass.eventId, .fetchEntityEvents event⟩ = next := by
        simpa [ScoringState.setPass] using goesOn
      subst equal
      exact ⟨event, found, Int.le_refl _⟩
  | @scored event fields reply stage computed =>
      have equal : ⟨pass.eventId, .persistScore
          (buildScore fields pass.eventId event.aggregationUpdatedAt reply)
          event.aggregationUpdatedAt⟩ = next := by
        simpa [ScoringState.setPass] using goesOn
      subst equal
      simp only [PassRead, stage] at own
      exact ⟨rfl, own⟩
  | @persisted score expected now event scores following stage found current written next' =>
      have equal : following = some next := by simpa using goesOn
      rcases next' with rfl | rfl | rfl
      · cases equal
      · cases equal
        exact carried
      · cases equal
        exact List.mem_cons_self
  | @published following stage next' =>
      have equal : following = some next := by simpa using goesOn
      rcases next' with rfl | rfl
      · cases equal
      · cases equal
        exact carried

theorem PassStep.passesRead (sound : PassesRead state) (opened : state.passes number = some pass) :
    PassesRead after where
  rows := by cases step <;> exact sound.rows
  passes := by
    intro other another anotherOpened
    by_cases same : other = number
    · subst same
      exact PassStep.read step (sound.passes other pass opened) opened anotherOpened
    · rw [step.others same] at anotherOpened
      exact (sound.passes other another anotherOpened).kept (fun _ _ => PassStep.rows step) step.wrote

end PassStep

theorem PassesRead.step {config : ScoringConfig} {state after : ScoringState}
    {action : ScoringAction} (sound : PassesRead state)
    (moved : scoringStep config state action = some after) : PassesRead after := by
  cases action with
  | database action =>
      obtain ⟨database, stepped, rfl⟩ := Option.map_eq_some_iff.mp moved
      refine ⟨sound.rows.step stepped, ?_⟩
      intro number pass opened
      refine (sound.passes number pass opened).kept ?_ fun _ member => member
      intro eventId version floor
      obtain ⟨current, found, newer⟩ := floor
      obtain ⟨later, foundLater, newest⟩ := sound.rows.advances stepped found
      exact ⟨later, foundLater, Int.le_trans newer newest⟩
  | startPass eventId =>
      cases moved
      refine ⟨sound.rows, ?_⟩
      intro number pass opened
      by_cases same : number = state.nextPass
      · have equal : ⟨eventId, .fetchEvent⟩ = pass := by
          simpa [ScoringState.setPass, same] using opened
        subst equal
        trivial
      · have old : state.passes number = some pass := by
          simpa [ScoringState.setPass, same] using opened
        exact (sound.passes number pass old).kept (fun _ _ floor => floor) fun _ member => member
  | resumePass number reply =>
      obtain ⟨pass, opened, rfl⟩ := Option.map_eq_some_iff.mp moved
      exact PassStep.passesRead (resumePass_step opened) sound opened
  | cancelPass number =>
      obtain ⟨pass, opened, rfl⟩ := Option.map_eq_some_iff.mp moved
      exact PassStep.passesRead (@PassStep.ended config state number pass) sound opened

/-- What a stretch of the passes never takes back, whatever is persisted. -/
structure Onward (before after : ScoringState) : Prop where
  read : PassesRead after
  wrote : ∀ entry ∈ before.wrote, entry ∈ after.wrote
  scored : ∀ entry ∈ before.scored, entry ∈ after.scored

theorem onward_of_reaches {config : ScoringConfig} {before after : ScoringState}
    (read : PassesRead before) (reaches : Reaches (scoringMachine config) anyAction before after) :
    Onward before after := by
  induction reaches with
  | refl => exact ⟨read, fun _ member => member, fun _ member => member⟩
  | tail _ moved held =>
      obtain ⟨action, -, moved⟩ := moved
      obtain ⟨wrote, scored⟩ := scoringStep_logs moved
      exact ⟨held.read.step moved, fun entry member => wrote entry (held.wrote entry member),
        fun entry member => scored entry (held.scored entry member)⟩

/-! ## What a stretch of the passes keeps -/

theorem kept_of_reaches {config : ScoringConfig} {before after : ScoringState}
    (sound : ScoringSound config before)
    (reaches : Reaches (scoringMachine config) PersistsAdvance before after) :
    Kept config before after := by
  induction reaches with
  | refl =>
      exact ⟨sound, EventsAdvance.of_same rfl rfl, ScoresKept.of_same rfl,
        fun _ member => member, fun _ member => member⟩
  | tail _ moved held =>
      obtain ⟨action, advancing, moved⟩ := moved
      obtain ⟨stillSound, events, scores⟩ := held.sound.step advancing moved
      obtain ⟨wrote, scored⟩ := scoringStep_logs moved
      exact ⟨stillSound, held.events.trans events, held.scores.trans scores,
        fun entry member => wrote entry (held.wrote entry member),
        fun entry member => scored entry (held.scored entry member)⟩

end WealthFinder.Pipeline.ScoringConsumer
