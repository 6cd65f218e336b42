import WealthFinder.Pipeline.ScoringSignals

/-!
# What an acknowledgement says

An acknowledged signal has had its one pass.  If its Event still has the version it had
when the signal was waiting, the Event is scored at this version and the score is
announced.  A signal that no consumer holds any more is not scored again.
-/

set_option autoImplicit false

namespace WealthFinder.Pipeline.ScoringConsumer

open Machine

/-! ## What a run keeps -/

theorem ConsumersSound.of_trace {config : ScoringConfig} {allowed : State → Action → Prop}
    {past : List State} {state : State} (trace : Trace (machine config) allowed past state) :
    ConsumersSound state := by
  apply trace.invariant
  · intro initial starts
    cases starts
    exact consumersSound_initial
  · intro before action after sound _ moved
    exact sound.stepped (step_stepped moved)

theorem scoringSound_of_trace {config : ScoringConfig} {past : List State} {state : State}
    (trace : Trace (machine config) Advances past state) :
    ScoringSound config state.scoring := by
  obtain ⟨history, passes⟩ := scoring_trace trace
  exact ScoringSound.of_trace passes

theorem Stepped.onward {config : ScoringConfig} {state after : State} {action : Action}
    (stepped : Stepped config state action after) (read : PassesRead state.scoring) :
    Onward state.scoring after.scoring :=
  onward_of_reaches read
    (Stepped.scoring (fun _ _ _ => trivial) stepped fun _ _ => trivial)

theorem passesRead_of_trace {config : ScoringConfig} {allowed : State → Action → Prop}
    {past : List State} {state : State} (trace : Trace (machine config) allowed past state) :
    PassesRead state.scoring := by
  apply trace.invariant
  · intro initial starts
    cases starts
    exact passesRead_initial
  · intro before action after read _ moved
    exact ((step_stepped moved).onward read).read

/-- What no step takes back. -/
structure Grows (before after : State) : Prop where
  scoring : Onward before.scoring after.scoring
  taken : ∀ entry ∈ before.taken, entry ∈ after.taken
  fields : ∀ id value, before.stream.fields id = some value →
    after.stream.fields id = some value

theorem Routed.taken_grows {state after : State} {consumer : Nat}
    {batch : List StreamMessage} (routed : Routed state consumer batch after) :
    ∀ entry ∈ state.taken, entry ∈ after.taken := by
  intro entry member
  cases routed with
  | skipped => exact member
  | taken place names => exact List.mem_cons_of_mem _ member

theorem Routed.stream_same {state after : State} {consumer : Nat}
    {batch : List StreamMessage} (routed : Routed state consumer batch after) :
    after.stream = state.stream := by
  cases routed <;> rfl

theorem Stepped.taken_grows {config : ScoringConfig} {state after : State} {action : Action}
    (stepped : Stepped config state action after) :
    ∀ entry ∈ state.taken, entry ∈ after.taken := by
  cases stepped with
  | read at' routed => exact routed.taken_grows
  | raised at' opened routed => exact routed.taken_grows
  | acked at' routed => exact routed.taken_grows
  | @stopped consumer loop at' =>
      intro entry member
      cases loop <;> exact member
  | _ => exact fun _ member => member

theorem Stepped.fields_kept {config : ScoringConfig} {state after : State} {action : Action}
    (stepped : Stepped config state action after) : ∀ id value,
    state.stream.fields id = some value → after.stream.fields id = some value := by
  intro id value known
  cases stepped with
  | published added => exact StreamGroup.fields_add added known
  | read at' routed =>
      rw [routed.stream_same]
      exact known
  | raised at' opened routed =>
      rw [routed.stream_same]
      exact known
  | acked at' routed =>
      rw [routed.stream_same]
      simpa only [ackApplied_fields] using known
  | unreachable at' =>
      have same := ackApplied_fields state.stream
      simpa only [State.setLoop, same] using known
  | @stopped consumer loop at' => cases loop <;> exact known
  | _ => exact known

theorem Stepped.grows {config : ScoringConfig} {state after : State} {action : Action}
    (stepped : Stepped config state action after) (read : PassesRead state.scoring) :
    Grows state after :=
  ⟨stepped.onward read, stepped.taken_grows, stepped.fields_kept⟩

theorem Names.grows {before after : State} {messageId : MessageId} {eventId : UUID}
    (names : Names before messageId eventId) (grows : Grows before after) :
    Names after messageId eventId := by
  obtain ⟨fields, known, field⟩ := names
  exact ⟨fields, grows.fields _ _ known, field⟩

/-! ## When a pass is over -/

/-- A consumer is about to acknowledge the message. -/
def Acking (state : State) (messageId : MessageId) : Prop :=
  ∃ consumer message rest, state.loops consumer = some (.acking message rest) ∧
    message.id = messageId

/-- The message is acknowledged, or about to be. -/
def Done (state : State) (messageId : MessageId) : Prop :=
  Acking state messageId ∨ state.stream.Acknowledged messageId

/-- A step at which the message's pass returns. -/
structure Returns (config : ScoringConfig) (state after : State) (messageId : MessageId)
    (number : Nat) (pass : ScorePass) : Prop where
  running : ∃ consumer message rest, message.id = messageId ∧
    state.loops consumer = some (.scoring message number rest)
  opened : state.scoring.passes number = some pass
  returned : Returned state.scoring number pass after.scoring

theorem acking_setLoop {state : State} {consumer : Nat} {loop : LoopState}
    {messageId : MessageId} (acking : Acking (state.setLoop consumer loop) messageId) :
    Acking state messageId ∨ ∃ message rest, loop = .acking message rest ∧
      message.id = messageId := by
  obtain ⟨other, message, rest, at', same⟩ := acking
  by_cases here : other = consumer
  · have equal : loop = .acking message rest := by
      simpa [State.setLoop, here] using at'
    exact Or.inr ⟨message, rest, equal, same⟩
  · have old : state.loops other = some (.acking message rest) := by
      simpa [State.setLoop, here] using at'
    exact Or.inl ⟨other, message, rest, old, same⟩

theorem acking_reading {state : State} {consumer : Nat} {messageId : MessageId}
    (acking : Acking (state.setLoop consumer .reading) messageId) :
    Acking state messageId := by
  rcases acking_setLoop acking with old | ⟨message, rest, equal, -⟩
  · exact old
  · cases equal

theorem Routed.acking {state after : State} {consumer : Nat} {batch : List StreamMessage}
    (routed : Routed state consumer batch after) {messageId : MessageId}
    (acking : Acking after messageId) : Acking state messageId := by
  cases routed with
  | skipped => exact acking_reading acking
  | taken place names =>
      rcases acking_setLoop acking with old | ⟨message, rest, equal, -⟩
      · exact old
      · cases equal

theorem Routed.done {state after : State} {consumer : Nat} {batch : List StreamMessage}
    (routed : Routed state consumer batch after) {messageId : MessageId}
    (done : Done after messageId) : Done state messageId := by
  rcases done with acking | acknowledged
  · exact Or.inl (routed.acking acking)
  · rw [routed.stream_same] at acknowledged
    exact Or.inr acknowledged

theorem done_acked {state : State} {consumer : Nat} {message : StreamMessage}
    {rest : List StreamMessage} {answer : Answer}
    (at' : state.loops consumer = some (.acking message rest)) {messageId : MessageId}
    (done : Done { state with stream := ackApplied state.stream answer message.id }
      messageId) : Done state messageId := by
  rcases done with acking | acknowledged
  · exact Or.inl acking
  · rcases acknowledged_ackApplied acknowledged with same | old
    · exact Or.inl ⟨consumer, message, rest, at', same.symm⟩
    · exact Or.inr old

/-- A message is done with once its pass returns, and not before. -/
theorem Stepped.done {config : ScoringConfig} {state after : State} {action : Action}
    (stepped : Stepped config state action after) {messageId : MessageId}
    (done : Done after messageId) : Done state messageId ∨
      ∃ number pass, Returns config state after messageId number pass := by
  cases stepped with
  | database moved => exact Or.inl done
  | published added =>
      rcases done with acking | acknowledged
      · exact Or.inl (Or.inl acking)
      · exact Or.inl (Or.inr (StreamGroup.acknowledged_add added acknowledged))
  | started absent =>
      rcases done with acking | acknowledged
      · exact Or.inl (Or.inl (acking_reading acking))
      · exact Or.inl (Or.inr acknowledged)
  | lost at' =>
      rcases done with acking | acknowledged
      · exact Or.inl (Or.inl (acking_reading acking))
      · exact Or.inl (Or.inr (state.stream.acknowledged_readGroup _ acknowledged))
  | read at' routed =>
      rcases routed.done done with acking | acknowledged
      · exact Or.inl (Or.inl acking)
      · exact Or.inl (Or.inr (state.stream.acknowledged_readGroup _ acknowledged))
  | waits at' opened goesOn => exact Or.inl done
  | @returned consumer number message rest pass reply at' opened outcome =>
      rcases done with acking | acknowledged
      · rcases acking_setLoop acking with old | ⟨message', rest', equal, same⟩
        · exact Or.inl (Or.inl old)
        · cases equal
          exact Or.inr ⟨number, pass, ⟨consumer, message, rest, same, at'⟩, opened,
            resumePass_returned outcome⟩
      · exact Or.inl (Or.inr acknowledged)
  | raised at' opened routed => exact Or.inl (routed.done done)
  | acked at' routed => exact Or.inl (done_acked at' (routed.done done))
  | unreachable at' =>
      apply Or.inl
      apply done_acked at'
      rcases done with acking | acknowledged
      · exact Or.inl (acking_reading acking)
      · exact Or.inr acknowledged
  | @stopped consumer loop at' =>
      have loops : (stopLoop state consumer loop).loops =
          Function.update state.loops consumer none := by
        cases loop <;> rfl
      have stream : (stopLoop state consumer loop).stream = state.stream := by
        cases loop <;> rfl
      left
      rcases done with ⟨other, message, rest, acking, same⟩ | acknowledged
      · rw [loops] at acking
        by_cases here : other = consumer
        · simp [here] at acking
        · rw [Function.update_of_ne here] at acking
          exact Or.inl ⟨other, message, rest, acking, same⟩
      · rw [stream] at acknowledged
        exact Or.inr acknowledged

/-! ## Acknowledged means announced, gone or superseded -/

/-- The message's pass has written a score of the Event and announced it. -/
def Announced (state : State) (number : Nat) (eventId : UUID) : Prop :=
  (number, eventId) ∈ state.scoring.wrote ∧ (number, eventId) ∈ state.scoring.scored

/-- The message's pass is running, and finds no row of the Event, or one newer than the
version it scores. -/
def NothingToScore (state : State) (messageId : MessageId) (number : Nat)
    (eventId : UUID) : Prop :=
  ∃ pass, state.scoring.passes number = some pass ∧
    (∃ consumer message rest, message.id = messageId ∧
      state.loops consumer = some (.scoring message number rest)) ∧
    ((pass.stage = .fetchEvent ∧ state.eventRow eventId = none) ∨
      ∃ score expected current, pass.stage = .persistScore score expected ∧
        state.eventRow eventId = some current ∧ expected < current.aggregationUpdatedAt)

/-- The message's one pass returned, and why. -/
def Settled (past : List State) (state : State) (messageId : MessageId) : Prop :=
  ∃ number eventId, (messageId, number) ∈ state.taken ∧ Names state messageId eventId ∧
    (Announced state number eventId ∨
      ∃ earlier ∈ past, NothingToScore earlier messageId number eventId)

theorem Settled.grows {past : List State} {before after : State} {messageId : MessageId}
    (settled : Settled past before messageId) (grows : Grows before after) :
    Settled (before :: past) after messageId := by
  obtain ⟨number, eventId, taken, names, why⟩ := settled
  refine ⟨number, eventId, grows.taken _ taken, names.grows grows, ?_⟩
  rcases why with ⟨wrote, scored⟩ | ⟨earlier, member, nothing⟩
  · exact Or.inl ⟨grows.scoring.wrote _ wrote, grows.scoring.scored _ scored⟩
  · exact Or.inr ⟨earlier, List.mem_cons_of_mem _ member, nothing⟩

/-- A pass that returns has written and announced its score, or there is none to write. -/
theorem Returns.settled {config : ScoringConfig} {state after : State}
    {messageId : MessageId} {number : Nat} {pass : ScorePass}
    (returns : Returns config state after messageId number pass)
    (read : PassesRead state.scoring) (grows : Grows state after) :
    (pass.stage = .publish ∧ Announced after number pass.eventId) ∨
      NothingToScore state messageId number pass.eventId := by
  have own := read.passes number pass returns.opened
  have nothing := fun why => (⟨pass, returns.opened, returns.running, why⟩ :
    NothingToScore state messageId number pass.eventId)
  obtain ⟨-, opened, returned⟩ := returns
  generalize equal : after.scoring = scoring at returned
  cases returned with
  | missing stage absent => exact Or.inr (nothing (Or.inl ⟨stage, absent⟩))
  | @stale score expected stage moved =>
      simp only [PassRead, stage] at own
      obtain ⟨ofEvent, current, found, notNewer⟩ := own
      have different := moved current (by rw [ofEvent]; exact found)
      have newer : expected < current.aggregationUpdatedAt :=
        Int.lt_iff_le_and_ne.mpr ⟨notNewer, Ne.symm different⟩
      exact Or.inr (nothing (Or.inr ⟨score, expected, current, stage, found, newer⟩))
  | announced stage =>
      simp only [PassRead, stage] at own
      refine Or.inl ⟨stage, grows.scoring.wrote _ own, ?_⟩
      rw [equal]
      exact List.mem_cons_self

theorem Returns.names {config : ScoringConfig} {state after : State} {messageId : MessageId}
    {number : Nat} {pass : ScorePass}
    (returns : Returns config state after messageId number pass)
    (sound : ConsumersSound state) : (messageId, number) ∈ state.taken ∧
      Names state messageId pass.eventId := by
  obtain ⟨⟨consumer, message, rest, rfl, at'⟩, opened, -⟩ := returns
  obtain ⟨known, entry, ⟨pass', opened', names⟩, -⟩ := sound.loops consumer _ at'
  rw [opened] at opened'
  cases opened'
  exact ⟨entry, message.fields, known, names⟩

theorem done_settled {config : ScoringConfig} {past : List State} {state : State}
    (trace : Trace (machine config) anyAction past state) :
    ∀ messageId, Done state messageId → Settled past state messageId := by
  apply @Trace.history_invariant _ _ _ _ (fun past state =>
    ∀ messageId, Done state messageId → Settled past state messageId) ?_ ?_ _ _ trace
  · intro initial starts messageId done
    cases starts
    rcases done with ⟨consumer, message, rest, at', -⟩ | acknowledged
    · cases at'
    · exact absurd acknowledged (StreamGroup.not_acknowledged_empty messageId)
  · intro past state action after before held _ moved messageId done
    have stepped := step_stepped moved
    have read := passesRead_of_trace before
    have grows := stepped.grows read
    rcases stepped.done done with old | ⟨number, pass, returns⟩
    · exact (held messageId old).grows grows
    · obtain ⟨entry, names⟩ := returns.names (ConsumersSound.of_trace before)
      refine ⟨number, pass.eventId, grows.taken _ entry, names.grows grows, ?_⟩
      rcases returns.settled read grows with ⟨-, announced⟩ | nothing
      · exact Or.inl announced
      · exact Or.inr ⟨state, List.mem_cons_self, nothing⟩

/-- Whatever the consumers, the interleaving and the failures: a signal gets at most one
pass, no two signals share one, and a signal is acknowledged only if it names an Event
whose score its pass wrote and announced, or which its pass found gone or superseded. -/
theorem acknowledged_signals_settled (config : ScoringConfig) {past : List State}
    {state : State} (trace : Trace (machine config) anyAction past state) :
    (state.taken.map Prod.fst).Nodup ∧ (state.taken.map Prod.snd).Nodup ∧
    (∀ messageId count, state.stream.pending messageId = some count → count = 1) ∧
    ∀ messageId, state.stream.Acknowledged messageId → Settled past state messageId := by
  have sound := ConsumersSound.of_trace trace
  refine ⟨sound.ledger.messages, sound.ledger.passes, sound.holders.once, ?_⟩
  intro messageId acknowledged
  exact done_settled trace messageId (Or.inr acknowledged)

/-! ### A run with a signal that is scored and one that is skipped -/

def advancesCheck (state : State) : Action → Bool
  | .database action => advancingCheck state.scoring (.database action)
  | _ => true

theorem advancesCheck_sound {state : State} {action : Action}
    (checked : advancesCheck state action = true) : Advances state action := by
  cases action with
  | database action => exact advancingCheck_sound checked
  | _ => trivial

def resumes (consumer : Nat) (answers : List Answer) : List Action :=
  answers.map fun answer => .resume consumer (scoreReply answer 50)

/-- The Event is stored, and its signal waits with a malformed one before it. -/
def twoSignals : List Action :=
  (.database (.storeEntityEvent (sampleEntityEvent 1 0)) ::
    [.start 0 sampleEnv [sampleSnapshot 200 [1]], .execute 0, .execute 0, .commit 0].map
      Action.database) ++
  [.publish 7 ⟨some "1", .absent⟩, .publish 8 ⟨some "1", .uuid 9⟩, .start 0]

/-- The consumer reads both, and its upsert loses a reply. -/
def bothRead : List Action :=
  .read 0 10 false :: resumes 0 [.done, .done, .unreachable true, .done, .done, .done]

theorem acknowledged_signals_settled_sample : ∃ past state,
    Trace (machine defaultScoringConfig) anyAction past state ∧
    state.stream.Acknowledged 8 ∧ ¬ state.stream.Acknowledged 7 ∧
    Settled past state 8 := by
  obtain ⟨past, state, trace, seen⟩ :=
    Trace.of_run_view (machine defaultScoringConfig) (fun _ _ => true)
      (fun state => (decide (state.stream.Acknowledged 8), decide (state.stream.Acknowledged 7)))
      (true, false) (fun _ _ _ _ _ => trivial) rfl (twoSignals ++ bothRead) (by decide +kernel)
  simp only [Prod.mk.injEq, decide_eq_true_eq, decide_eq_false_iff_not] at seen
  have settled := acknowledged_signals_settled defaultScoringConfig trace
  exact ⟨past, state, trace, seen.1, seen.2, settled.2.2.2 8 seen.1⟩

/-! ## A version that lasts is scored -/

/-- The Event has a score of this version or a newer one. -/
def HasScore (state : ScoringState) (eventId : UUID) (version : Timestamp) : Prop :=
  ∃ score ∈ state.scores, score.eventId = eventId ∧
    version ≤ score.scoredAggregationUpdatedAt

theorem HasScore.kept {config : ScoringConfig} {before after : ScoringState} {eventId : UUID}
    {version : Timestamp} (has : HasScore before eventId version)
    (kept : Kept config before after) : HasScore after eventId version := by
  obtain ⟨score, member, ofEvent, newer⟩ := has
  obtain ⟨later, laterMember, same, -, -, newest⟩ := kept.scores score member
  exact ⟨later, laterMember, same.trans ofEvent, Int.le_trans newer newest⟩

/-- What the pass has read is no older than the version. -/
def Floor (state : ScoringState) (version : Timestamp) (pass : ScorePass) : Prop :=
  match pass.stage with
  | .fetchEvent => True
  | .fetchEntityEvents event => version ≤ event.aggregationUpdatedAt
  | .persistScore _ expected => version ≤ expected
  | .publish => HasScore state pass.eventId version

theorem Floor.kept {config : ScoringConfig} {before after : ScoringState}
    {version : Timestamp} {pass : ScorePass} (floor : Floor before version pass)
    (kept : Kept config before after) : Floor after version pass := by
  obtain ⟨eventId, stage⟩ := pass
  cases stage with
  | publish => exact HasScore.kept floor kept
  | _ => exact floor

theorem RowFloor.kept {config : ScoringConfig} {before after : ScoringState} {eventId : UUID}
    {version : Timestamp} (floor : RowFloor before eventId version)
    (kept : Kept config before after) : RowFloor after eventId version := by
  obtain ⟨current, found, newer⟩ := floor
  obtain ⟨later, foundLater, newest, -⟩ := kept.events eventId current found
  exact ⟨later, foundLater, Int.le_trans newer newest⟩

/-- The row just written carries the version that was checked. -/
theorem ScoreWritten.fresh {scores after : List EventScore} {score : EventScore}
    {expected now : Timestamp} (written : ScoreWritten scores score expected now after) :
    ∃ row ∈ after, row.eventId = score.eventId ∧
      row.scoredAggregationUpdatedAt = expected := by
  cases written with
  | inserted absent => exact ⟨insertedScore score expected now, by simp, rfl, rfl⟩
  | updated row member same =>
      refine ⟨overwriteScore row score expected now, ?_, same, rfl⟩
      refine List.mem_map.mpr ⟨row, member, ?_⟩
      rw [if_pos same]

theorem PassStep.floor {config : ScoringConfig} {state after : ScoringState} {number : Nat}
    {pass next : ScorePass} {version : Timestamp}
    (step : PassStep config state number pass after)
    (sound : PassSound config state number pass) (kept : Kept config state after)
    (row : RowFloor state pass.eventId version) (floor : Floor state version pass)
    (opened : state.passes number = some pass) (goesOn : after.passes number = some next) :
    Floor after version next := by
  have carried := floor.kept kept
  cases step with
  | ended => simp [ScoringState.endPass] at goesOn
  | waits =>
      rw [opened] at goesOn
      cases goesOn
      exact floor
  | @fetchedEvent event found =>
      have equal : ⟨pass.eventId, .fetchEntityEvents event⟩ = next := by
        simpa [ScoringState.setPass] using goesOn
      subst equal
      obtain ⟨current, foundCurrent, newer⟩ := row
      rw [found] at foundCurrent
      cases foundCurrent
      exact newer
  | @scored event fields reply stage computed =>
      have equal : ⟨pass.eventId, .persistScore
          (buildScore fields pass.eventId event.aggregationUpdatedAt reply)
          event.aggregationUpdatedAt⟩ = next := by
        simpa [ScoringState.setPass] using goesOn
      subst equal
      simp only [Floor, stage] at floor
      exact floor
  | @persisted score expected now event scores following stage found current written next' =>
      have equal : following = some next := by simpa using goesOn
      rcases next' with rfl | rfl | rfl
      · cases equal
      · cases equal
        exact carried
      · cases equal
        simp only [PassSound, stage] at sound
        simp only [Floor, stage] at floor
        obtain ⟨fresh, member, ofScore, checked⟩ := ScoreWritten.fresh written
        exact ⟨fresh, member, ofScore.trans sound.1, by rw [checked]; exact floor⟩
  | @published following stage next' =>
      have equal : following = some next := by simpa using goesOn
      rcases next' with rfl | rfl
      · cases equal
      · cases equal
        exact carried

/-- The running pass after a step: a new one, an untouched one, or the one resumed. -/
def RunsOn (config : ScoringConfig) (state after : State) (consumer : Nat)
    (message : StreamMessage) (number : Nat) (rest : List StreamMessage) (next : ScorePass) :
    Prop :=
  next.stage = .fetchEvent ∨
    (state.loops consumer = some (.scoring message number rest) ∧
      ∃ pass, state.scoring.passes number = some pass ∧
        (next = pass ∨ PassStep config state.scoring number pass after.scoring))

theorem Routed.runs {state after : State} {consumer : Nat} {batch : List StreamMessage}
    (routed : Routed state consumer batch after) {other number : Nat} {message : StreamMessage}
    {rest : List StreamMessage} {next : ScorePass}
    (at' : after.loops other = some (.scoring message number rest))
    (opened : after.scoring.passes number = some next) : next.stage = .fetchEvent ∨
      (other ≠ consumer ∧ state.loops other = some (.scoring message number rest) ∧
        state.scoring.passes number = some next) := by
  cases routed with
  | skipped =>
      right
      by_cases same : other = consumer
      · simp [State.setLoop, same] at at'
      · exact ⟨same, by simpa [State.setLoop, same] using at', opened⟩
  | @taken before rest' first eventId place names =>
      by_cases new : number = state.scoring.nextPass
      · have equal : ⟨eventId, .fetchEvent⟩ = next := by
          simpa [processOne, State.setLoop, ScoringState.openPass, ScoringState.setPass, new]
            using opened
        exact Or.inl (equal ▸ rfl)
      · right
        have old : state.scoring.passes number = some next := by
          simpa [processOne, State.setLoop, ScoringState.openPass, ScoringState.setPass, new]
            using opened
        by_cases same : other = consumer
        · have shape : LoopState.scoring first state.scoring.nextPass rest' =
              .scoring message number rest := by
            simpa [processOne, State.setLoop, same] using at'
          cases shape
          exact absurd rfl new
        · exact ⟨same, by simpa [processOne, State.setLoop, same] using at', old⟩

theorem Stepped.runsOn {config : ScoringConfig} {state after : State} {action : Action}
    (stepped : Stepped config state action after) (sound : ConsumersSound state)
    {other number : Nat} {message : StreamMessage} {rest : List StreamMessage}
    {next : ScorePass} (at' : after.loops other = some (.scoring message number rest))
    (opened : after.scoring.passes number = some next) :
    RunsOn config state after other message number rest next := by
  have untouched : state.loops other = some (.scoring message number rest) →
      state.scoring.passes number = some next →
      RunsOn config state after other message number rest next := by
    intro old oldOpened
    exact Or.inr ⟨old, next, oldOpened, Or.inl rfl⟩
  cases stepped with
  | database moved =>
      obtain ⟨database, -, rfl⟩ := Option.map_eq_some_iff.mp moved
      exact untouched at' opened
  | published added => exact untouched at' opened
  | @started consumer absent =>
      by_cases same : other = consumer
      · simp [State.setLoop, same] at at'
      · exact untouched (by simpa [State.setLoop, same] using at') opened
  | @lost consumer count reading =>
      by_cases same : other = consumer
      · simp [State.setLoop, same] at at'
      · exact untouched (by simpa [State.setLoop, same] using at') opened
  | read reading routed =>
      rcases routed.runs at' opened with new | ⟨-, old, oldOpened⟩
      · exact Or.inl new
      · exact untouched old oldOpened
  | @waits consumer running message' rest' pass reply here openedHere goesOn =>
      have step := @resumePass_step config state.scoring running pass reply openedHere
      by_cases same : other = consumer
      · subst same
        have equal : LoopState.scoring message' running rest' = .scoring message number rest :=
          Option.some.inj (here.symm.trans at')
        cases equal
        exact Or.inr ⟨here, pass, openedHere, Or.inr step⟩
      · have different := sound.passes_apart here same at'
        exact untouched at' ((step.others different).symm.trans opened)
  | @returned consumer running message' rest' pass reply here openedHere done =>
      have step := @resumePass_step config state.scoring running pass reply openedHere
      by_cases same : other = consumer
      · simp [State.setLoop, same] at at'
      · have old : state.loops other = some (.scoring message number rest) := by
          simpa [State.setLoop, same] using at'
        have different := sound.passes_apart here same old
        exact untouched old ((step.others different).symm.trans opened)
  | @raised consumer running message' rest' pass reply after here openedHere routed =>
      have step := @resumePass_step config state.scoring running pass reply openedHere
      rcases routed.runs at' opened with new | ⟨same, old, oldOpened⟩
      · exact Or.inl new
      · have different := sound.passes_apart here same old
        exact untouched old ((step.others different).symm.trans oldOpened)
  | acked here routed =>
      rcases routed.runs at' opened with new | ⟨-, old, oldOpened⟩
      · exact Or.inl new
      · exact untouched old oldOpened
  | @unreachable consumer message' rest' reply here =>
      by_cases same : other = consumer
      · simp [State.setLoop, same] at at'
      · exact untouched (by simpa [State.setLoop, same] using at') opened
  | @stopped consumer loop here =>
      have loops : (stopLoop state consumer loop).loops =
          Function.update state.loops consumer none := by
        cases loop <;> rfl
      rw [loops] at at'
      by_cases same : other = consumer
      · simp [same] at at'
      · rw [Function.update_of_ne same] at at'
        apply untouched at'
        cases loop with
        | reading => exact opened
        | acking message' rest' => exact opened
        | scoring message' running rest' =>
            have different := sound.passes_apart here same at'
            simpa [stopLoop, ScoringState.endPass, different] using opened

/-! ## The stretch after the signal was waiting -/

/-- The Event has moved on, or has a score of the version, announced by the signal's
pass. -/
def Delivered (state : State) (messageId : MessageId) (eventId : UUID)
    (version : Timestamp) : Prop :=
  (∃ current, state.eventRow eventId = some current ∧
    version < current.aggregationUpdatedAt) ∨
  (HasScore state.scoring eventId version ∧
    ∃ number, (messageId, number) ∈ state.taken ∧ Announced state number eventId)

theorem Delivered.grows {config : ScoringConfig} {before after : State}
    {messageId : MessageId} {eventId : UUID} {version : Timestamp}
    (delivered : Delivered before messageId eventId version) (grows : Grows before after)
    (kept : Kept config before.scoring after.scoring) :
    Delivered after messageId eventId version := by
  rcases delivered with ⟨current, found, newer⟩ | ⟨has, number, entry, wrote, scored⟩
  · obtain ⟨later, foundLater, newest, -⟩ := kept.events eventId current found
    exact Or.inl ⟨later, foundLater, Int.lt_of_lt_of_le newer newest⟩
  · exact Or.inr ⟨has.kept kept, number, grows.taken _ entry,
      grows.scoring.wrote _ wrote, grows.scoring.scored _ scored⟩

/-- What holds from the time on at which the signal waits and the Event has the
version. -/
structure Fresh (config : ScoringConfig) (messageId : MessageId) (eventId : UUID)
    (version : Timestamp) (state : State) : Prop where
  consumers : ConsumersSound state
  scoring : ScoringSound config state.scoring
  names : Names state messageId eventId
  row : RowFloor state.scoring eventId version
  running : ∀ consumer message number rest pass,
    state.loops consumer = some (.scoring message number rest) → message.id = messageId →
    state.scoring.passes number = some pass → Floor state.scoring version pass
  done : Done state messageId → Delivered state messageId eventId version

theorem Fresh.read {config : ScoringConfig} {messageId : MessageId} {eventId : UUID}
    {version : Timestamp} {state : State} (fresh : Fresh config messageId eventId version state) :
    PassesRead state.scoring where
  rows := fresh.scoring.database.rows
  passes := fun number pass opened => PassSound.read (fresh.scoring.passes number pass opened)

/-- A waiting signal is not done, and no pass is running for it. -/
theorem Fresh.starts {config : ScoringConfig} {past : List State} {state : State}
    (trace : Trace (machine config) Advances past state) {messageId : MessageId}
    {eventId : UUID} {version : Timestamp} (waiting : messageId ∈ state.stream.backlog)
    (names : Names state messageId eventId) (row : RowFloor state.scoring eventId version) :
    Fresh config messageId eventId version state := by
  have consumers := ConsumersSound.of_trace trace
  have unheld : ∀ consumer loop, state.loops consumer = some loop →
      ∀ message ∈ loop.held, message.id ≠ messageId := by
    intro consumer loop at' message member same
    have held : message.id ∈ state.heldIds consumer := by
      rw [heldIds_at at']
      exact List.mem_map_of_mem member
    rw [same] at held
    exact (consumers.holders.known held).2 waiting
  refine ⟨consumers, scoringSound_of_trace trace, names, row, ?_, ?_⟩
  · intro consumer message number rest pass at' same
    exact absurd same (unheld consumer _ at' message List.mem_cons_self)
  · intro done
    rcases done with ⟨consumer, message, rest, at', same⟩ | acknowledged
    · exact absurd same (unheld consumer _ at' message List.mem_cons_self)
    · exact absurd waiting acknowledged.2.1

theorem Names.same {state : State} {messageId : MessageId} {first second : UUID}
    (one : Names state messageId first) (other : Names state messageId second) :
    first = second := by
  obtain ⟨fields, known, field⟩ := one
  obtain ⟨fields', known', field'⟩ := other
  rw [known] at known'
  cases known'
  rw [field] at field'
  cases field'
  rfl

/-- When the pass of a fresh signal returns, the signal is delivered. -/
theorem Fresh.returns {config : ScoringConfig} {state after : State} {messageId : MessageId}
    {eventId : UUID} {version : Timestamp} {number : Nat} {pass : ScorePass}
    (fresh : Fresh config messageId eventId version state)
    (returns : Returns config state after messageId number pass) (grows : Grows state after)
    (kept : Kept config state.scoring after.scoring) :
    Delivered after messageId eventId version := by
  obtain ⟨entry, names⟩ := returns.names fresh.consumers
  have same := names.same fresh.names
  have settled := returns.settled fresh.read grows
  obtain ⟨⟨consumer, message, rest, ofMessage, at'⟩, opened, -⟩ := returns
  have floor := fresh.running consumer message number rest pass at' ofMessage opened
  rcases settled with ⟨stage, announced⟩ | nothing
  · simp only [Floor, stage] at floor
    rw [same] at announced floor
    exact Or.inr ⟨floor.kept kept, number, grows.taken _ entry, announced⟩
  · obtain ⟨pass', opened', -, why⟩ := nothing
    rw [opened] at opened'
    cases opened'
    rw [same] at why
    rcases why with ⟨-, absent⟩ | ⟨score, expected, current, stage, found, newer⟩
    · obtain ⟨current, found, -⟩ := fresh.row
      have found' : state.eventRow eventId = some current := found
      rw [absent] at found'
      cases found'
    · simp only [Floor, stage] at floor
      have moved : Delivered state messageId eventId version :=
        Or.inl ⟨current, found, Int.lt_of_le_of_lt floor newer⟩
      exact moved.grows grows kept

theorem Fresh.stepped {config : ScoringConfig} {state after : State} {action : Action}
    {messageId : MessageId} {eventId : UUID} {version : Timestamp}
    (fresh : Fresh config messageId eventId version state)
    (stepped : Stepped config state action after) (advancing : Advances state action) :
    Fresh config messageId eventId version after := by
  have grows := stepped.grows fresh.read
  have kept := kept_of_reaches fresh.scoring (stepped.advances advancing)
  refine ⟨fresh.consumers.stepped stepped, kept.sound, fresh.names.grows grows,
    fresh.row.kept kept, ?_, ?_⟩
  · intro consumer message number rest next at' ofMessage opened
    rcases stepped.runsOn fresh.consumers at' opened with new | ⟨old, pass, openedPass, place⟩
    · simp only [Floor, new]
    · have floor := fresh.running consumer message number rest pass old ofMessage openedPass
      rcases place with rfl | step
      · exact floor.kept kept
      · have own := fresh.scoring.passes number pass openedPass
        obtain ⟨known, -, ⟨pass', openedPass', names⟩, -⟩ :=
          fresh.consumers.loops consumer _ old
        rw [openedPass] at openedPass'
        cases openedPass'
        have named : Names state messageId pass.eventId :=
          ⟨message.fields, ofMessage ▸ known, names⟩
        have row := fresh.row
        rw [← named.same fresh.names] at row
        exact PassStep.floor step own kept row floor openedPass opened
  · intro done
    rcases stepped.done done with old | ⟨number, pass, returns⟩
    · exact (fresh.done old).grows grows kept
    · exact fresh.returns returns grows kept

/-- A signal that waits while its Event has some version, and is acknowledged while the
Event still has it, leaves the Event with a score of exactly this version, computed from
its row and its constituents, and announced by the signal's own pass. -/
theorem acknowledged_version_scored (config : ScoringConfig) {past : List State}
    {waitingState final : State} (trace : Trace (machine config) Advances past waitingState)
    {messageId : MessageId} {eventId : UUID} {event current : EventRow}
    (waiting : messageId ∈ waitingState.stream.backlog)
    (names : Names waitingState messageId eventId)
    (stored : waitingState.eventRow eventId = some event)
    (reaches : Reaches (machine config) Advances waitingState final)
    (acknowledged : final.stream.Acknowledged messageId)
    (found : final.eventRow eventId = some current)
    (lasts : current.aggregationUpdatedAt = event.aggregationUpdatedAt) :
    ∃ score ∈ final.scoring.scores, score.eventId = eventId ∧
      score.scoredAggregationUpdatedAt = event.aggregationUpdatedAt ∧
      computeScore config current (final.scoring.constituentsOf eventId) =
        some score.toScoreFields ∧
      ∃ number, (messageId, number) ∈ final.taken ∧ Announced final number eventId := by
  have row : RowFloor waitingState.scoring eventId event.aggregationUpdatedAt :=
    ⟨event, stored, Int.le_refl _⟩
  have fresh : Fresh config messageId eventId event.aggregationUpdatedAt final := by
    apply reaches.invariant _ (Fresh.starts trace waiting names row)
    intro state action after held advancing moved
    exact held.stepped (step_stepped moved) advancing
  rcases fresh.done (Or.inr acknowledged) with ⟨later, foundLater, newer⟩ | ⟨has, announced⟩
  · rw [found] at foundLater
    cases foundLater
    rw [lasts] at newer
    exact absurd newer (Int.lt_irrefl _)
  · obtain ⟨score, member, ofEvent, notOlder⟩ := has
    obtain ⟨scored, foundScored, notNewer, computed⟩ := fresh.scoring.scores score member
    rw [ofEvent] at foundScored computed
    have same : some current = some scored := found.symm.trans foundScored
    cases same
    rw [← lasts] at notOlder
    have exact' : score.scoredAggregationUpdatedAt = current.aggregationUpdatedAt :=
      Int.le_antisymm notNewer notOlder
    exact ⟨score, member, ofEvent, exact'.trans lasts, computed exact', announced⟩

theorem acknowledged_version_scored_sample : ∃ waitingState final score,
    Reaches (machine defaultScoringConfig) Advances waitingState final ∧
    8 ∈ waitingState.stream.backlog ∧ final.stream.Acknowledged 8 ∧
    score ∈ final.scoring.scores ∧ score.eventId = 9 ∧
    score.scoredAggregationUpdatedAt = 200 := by
  have ran : ((machine defaultScoringConfig).run advancesCheck .initial twoSignals).any
      (fun waiting => decide (8 ∈ waiting.stream.backlog) &&
        decide ((waiting.stream.fields 8).map SignalFields.id = some (.uuid 9)) &&
        decide ((waiting.eventRow 9).map EventRow.aggregationUpdatedAt = some 200) &&
        ((machine defaultScoringConfig).run advancesCheck waiting bothRead).any
          fun final => decide (final.stream.Acknowledged 8) &&
            decide ((final.eventRow 9).map EventRow.aggregationUpdatedAt = some 200)) =
      true := by
    decide +kernel
  obtain ⟨past, waitingState, trace, seen⟩ :=
    @Trace.of_run _ _ Advances (machine defaultScoringConfig) advancesCheck _
      (fun _ _ _ _ checked => advancesCheck_sound checked) _ rfl twoSignals ran
  simp only [Bool.and_eq_true, decide_eq_true_eq, Option.any_eq_true] at seen
  obtain ⟨⟨⟨waiting, names⟩, version⟩, final, ranOn, acknowledged, stays⟩ := seen
  obtain ⟨fields, known, field⟩ := Option.map_eq_some_iff.mp names
  obtain ⟨event, stored, old⟩ := Option.map_eq_some_iff.mp version
  obtain ⟨current, found, new⟩ := Option.map_eq_some_iff.mp stays
  have reaches : Reaches (machine defaultScoringConfig) Advances waitingState final :=
    Reaches.of_run (fun _ _ checked => advancesCheck_sound checked) bothRead ranOn
  obtain ⟨score, member, ofEvent, exact', -⟩ :=
    acknowledged_version_scored defaultScoringConfig trace waiting ⟨fields, known, field⟩
      stored reaches acknowledged found (new.trans old.symm)
  exact ⟨waitingState, final, score, reaches, waiting, acknowledged, member, ofEvent,
    exact'.trans old⟩

/-! ## A signal that nobody holds -/

/-- What no step changes of a signal that was read and let go. -/
structure Untouched (messageId : MessageId) (pending : Option Nat) (passes : Nat → Prop)
    (state : State) : Prop where
  letGo : LetGo state.stream state.heldIds messageId
  pending : state.stream.pending messageId = pending
  passes : ∀ number, (messageId, number) ∈ state.taken ↔ passes number

section Untouched
variable {config : ScoringConfig} {state after : State} {consumer : Nat}
  {messageId : MessageId} {pending : Option Nat} {passes : Nat → Prop}

theorem Untouched.setLoop (untouched : Untouched messageId pending passes state)
    {loop : LoopState} (fewer : ∀ message ∈ loop.held,
      message.id ∈ state.heldIds consumer) :
    Untouched messageId pending passes (state.setLoop consumer loop) := by
  refine ⟨?_, untouched.pending, untouched.passes⟩
  rw [heldIds_setLoop]
  apply untouched.letGo.drop
  intro entry member
  obtain ⟨message, messageMember, rfl⟩ := List.mem_map.mp member
  exact fewer message messageMember

theorem Untouched.stream (untouched : Untouched messageId pending passes state)
    {stream : SignalStream} (letGo : LetGo stream state.heldIds messageId)
    (same : stream.pending messageId = state.stream.pending messageId) :
    Untouched messageId pending passes { state with stream := stream } :=
  ⟨letGo, same.trans untouched.pending, untouched.passes⟩

/-- Routing a batch without the signal leaves it alone. -/
theorem Untouched.routed {batch : List StreamMessage}
    (untouched : Untouched messageId pending passes state)
    (routed : Routed state consumer batch after)
    (unrouted : ∀ message ∈ batch, message.id ≠ messageId) :
    Untouched messageId pending passes after := by
  cases routed with
  | skipped =>
      apply untouched.setLoop
      intro message member
      cases member
  | @taken before rest message eventId place names =>
      have among : ∀ held ∈ message :: rest, held.id ≠ messageId := by
        intro held member
        apply unrouted
        rw [place]
        exact List.mem_append_right _ member
      refine ⟨⟨untouched.letGo.known, untouched.letGo.read, ?_⟩, untouched.pending, ?_⟩
      · intro other member
        unfold processOne at member
        rw [heldIds_setLoop] at member
        by_cases same : other = consumer
        · rw [same, Function.update_self] at member
          obtain ⟨held, heldMember, equal⟩ := List.mem_map.mp member
          exact among held heldMember equal
        · rw [Function.update_of_ne same] at member
          exact untouched.letGo.unheld other member
      · intro number
        have apart := among message List.mem_cons_self
        rw [← untouched.passes number]
        constructor
        · intro entry
          rcases List.mem_cons.mp entry with same | old
          · exact absurd (congrArg Prod.fst same).symm apart
          · exact old
        · exact fun entry => List.mem_cons_of_mem _ entry

theorem Untouched.acked (untouched : Untouched messageId pending passes state)
    {message : StreamMessage} {rest : List StreamMessage} (answer : Answer)
    (at' : state.loops consumer = some (.acking message rest)) :
    Untouched messageId pending passes
      { state with stream := ackApplied state.stream answer message.id } := by
  have holds : message.id ∈ state.heldIds consumer := by
    rw [heldIds_at at']
    exact List.mem_map_of_mem List.mem_cons_self
  unfold ackApplied
  split
  · obtain ⟨letGo, same⟩ := untouched.letGo.ack_other holds
    exact untouched.stream letGo same
  · exact untouched

theorem Untouched.read (untouched : Untouched messageId pending passes state)
    (at' : state.loops consumer = some .reading) (count : Nat) :
    Untouched messageId pending passes
      { state with stream := (readFrom state.stream count).2 } := by
  have idle : state.heldIds consumer = [] := heldIds_at at'
  have nothing : ∀ entry ∈ ([] : List MessageId),
      entry ∈ (state.stream.readGroup count).1 := by
    intro entry member
    cases member
  have emptied : LetGo (state.stream.readGroup count).2
      (Function.update state.heldIds consumer []) messageId ∧
      (state.stream.readGroup count).2.pending messageId = state.stream.pending messageId :=
    untouched.letGo.read_others nothing
  obtain ⟨letGo, same⟩ := emptied
  rw [← idle, Function.update_eq_self] at letGo
  exact untouched.stream letGo same

theorem Untouched.stopped (untouched : Untouched messageId pending passes state)
    (loop : LoopState) :
    Untouched messageId pending passes (stopLoop state consumer loop) := by
  have loops : (stopLoop state consumer loop).loops =
      Function.update state.loops consumer none := by
    cases loop <;> rfl
  have unheld : ∀ other, messageId ∉ (stopLoop state consumer loop).heldIds other := by
    intro other member
    simp only [State.heldIds, loops] at member
    by_cases same : other = consumer
    · simp [same] at member
    · rw [Function.update_of_ne same] at member
      exact untouched.letGo.unheld other member
  cases loop <;>
    exact ⟨⟨untouched.letGo.known, untouched.letGo.read, unheld⟩, untouched.pending,
      untouched.passes⟩

theorem Untouched.stepped {action : Action}
    (untouched : Untouched messageId pending passes state)
    (stepped : Stepped config state action after) :
    Untouched messageId pending passes after := by
  -- a message that a consumer holds is another one
  have apart : ∀ consumer loop, state.loops consumer = some loop →
      ∀ message ∈ loop.held, message.id ≠ messageId := by
    intro consumer loop at' message member same
    apply untouched.letGo.unheld consumer
    rw [heldIds_at at', ← same]
    exact List.mem_map_of_mem member
  have delivered : ∀ count, ∀ message ∈ (readFrom state.stream count).1,
      message.id ∈ (state.stream.readGroup count).1 := by
    intro count message member
    exact (readFrom_ids state.stream count).subset (List.mem_map_of_mem member)
  cases stepped with
  | database moved => exact ⟨untouched.letGo, untouched.pending, untouched.passes⟩
  | published added =>
      obtain ⟨letGo, same⟩ := untouched.letGo.add added
      exact untouched.stream letGo same
  | started absent =>
      apply untouched.setLoop
      intro message member
      cases member
  | @lost consumer count at' =>
      apply (untouched.read at' count).setLoop
      intro message member
      cases member
  | @read consumer count after at' routed =>
      apply (untouched.read at' count).routed routed
      intro message member same
      apply untouched.letGo.read
      rw [← same]
      exact List.mem_of_mem_take (delivered count message member)
  | waits at' opened goesOn => exact ⟨untouched.letGo, untouched.pending, untouched.passes⟩
  | @returned consumer number message rest pass reply at' opened done =>
      have scored : Untouched messageId pending passes { state with
          scoring := resumePass config state.scoring number pass reply } :=
        ⟨untouched.letGo, untouched.pending, untouched.passes⟩
      apply scored.setLoop
      intro held member
      have same : State.heldIds { state with
          scoring := resumePass config state.scoring number pass reply } consumer =
          (message :: rest).map StreamMessage.id := heldIds_at at'
      rw [same]
      exact List.mem_map_of_mem member
  | @raised consumer number message rest pass reply after at' opened routed =>
      have scored : Untouched messageId pending passes { state with
          scoring := resumePass config state.scoring number pass reply } :=
        ⟨untouched.letGo, untouched.pending, untouched.passes⟩
      apply scored.routed routed
      intro later member
      exact apart consumer _ at' later (List.mem_cons_of_mem _ member)
  | @acked consumer message rest reply after at' routed =>
      apply (untouched.acked reply.answer at').routed routed
      intro later member
      exact apart consumer _ at' later (List.mem_cons_of_mem _ member)
  | unreachable at' =>
      apply (untouched.acked _ at').setLoop
      intro message member
      cases member
  | @stopped consumer loop at' => exact untouched.stopped loop

end Untouched

/-- A signal that was read and that no consumer holds is never touched again: it gets no
other pass, and it is acknowledged in the end only if it already is.  There is no
reclaim loop to take up a signal whose reading, pass or acknowledgement went wrong. -/
theorem unheld_signal_untouched (config : ScoringConfig) {allowed : State → Action → Prop}
    {state final : State} {messageId : MessageId}
    (letGo : LetGo state.stream state.heldIds messageId)
    (reaches : Reaches (machine config) allowed state final) :
    LetGo final.stream final.heldIds messageId ∧
      (final.stream.Acknowledged messageId ↔ state.stream.Acknowledged messageId) ∧
      ∀ number, (messageId, number) ∈ final.taken ↔ (messageId, number) ∈ state.taken := by
  have untouched : Untouched messageId (state.stream.pending messageId)
      (fun number => (messageId, number) ∈ state.taken) final := by
    apply reaches.invariant
    · intro before action after held _ moved
      exact held.stepped (step_stepped moved)
    · exact ⟨letGo, rfl, fun _ => Iff.rfl⟩
  refine ⟨untouched.letGo, ?_, untouched.passes⟩
  simp only [StreamGroup.Acknowledged, untouched.pending, letGo.known, letGo.read,
    untouched.letGo.known, untouched.letGo.read]

/-- A signal was read by a consumer that has stopped. -/
def stoppedAfterRead : State where
  scoring := ScoringState.initial
  stream := ⟨fun id => if id = 8 then some ⟨some "1", .uuid 9⟩ else none, [8], [],
    fun id => if id = 8 then some 1 else none⟩
  loops := fun _ => none
  taken := []

theorem unheld_signal_untouched_sample :
    LetGo stoppedAfterRead.stream stoppedAfterRead.heldIds 8 ∧
    ∃ final, Reaches (machine defaultScoringConfig) anyAction stoppedAfterRead final ∧
      final.loops 0 = some .reading ∧ ¬ final.stream.Acknowledged 8 := by
  have letGo : LetGo stoppedAfterRead.stream stoppedAfterRead.heldIds 8 :=
    ⟨rfl, List.not_mem_nil, fun _ => List.not_mem_nil⟩
  have ran : ((machine defaultScoringConfig).run (fun _ _ => true) stoppedAfterRead
      [.start 0, .read 0 10 false]).any (fun final =>
        decide (final.loops 0 = some .reading)) = true := by
    decide +kernel
  simp only [Option.any_eq_true, decide_eq_true_eq] at ran
  obtain ⟨final, ranOn, idle⟩ := ran
  have reaches : Reaches (machine defaultScoringConfig) anyAction stoppedAfterRead final :=
    Reaches.of_run (fun _ _ _ => trivial) _ ranOn
  obtain ⟨-, acknowledged, -⟩ := unheld_signal_untouched defaultScoringConfig letGo reaches
  refine ⟨letGo, final, reaches, idle, ?_⟩
  rw [acknowledged]
  decide

end WealthFinder.Pipeline.ScoringConsumer
