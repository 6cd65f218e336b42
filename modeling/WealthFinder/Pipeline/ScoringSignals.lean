import WealthFinder.Pipeline.ScoringDeliveries

/-!
# Signals and their passes

Each signal is held by one consumer at most and gets one pass at most.  A signal that
is acknowledged has had its pass, which announced a score or found nothing to score.
-/

set_option autoImplicit false

namespace WealthFinder.Pipeline.ScoringConsumer

open Machine

/-! ## The invariant -/

/-- The signal names this Event. -/
def Names (state : State) (messageId : MessageId) (eventId : UUID) : Prop :=
  ∃ fields, state.stream.fields messageId = some fields ∧ fields.id = .uuid eventId

/-- The messages of a batch that is not routed yet. -/
def Unrouted (state : State) (batch : List StreamMessage) : Prop :=
  ∀ message ∈ batch, state.stream.fields message.id = some message.fields ∧
    message.id ∉ state.taken.map Prod.fst

def LoopSound (state : State) : LoopState → Prop
  | .reading => True
  | .scoring message number rest =>
      state.stream.fields message.id = some message.fields ∧
      (message.id, number) ∈ state.taken ∧
      (∃ pass, state.scoring.passes number = some pass ∧
        message.fields.id = .uuid pass.eventId) ∧ Unrouted state rest
  | .acking message rest =>
      message.id ∈ state.taken.map Prod.fst ∧ Unrouted state rest

/-- Every pass was started for a signal that names its Event, and for no other. -/
structure LedgerSound (state : State) : Prop where
  messages : (state.taken.map Prod.fst).Nodup
  passes : (state.taken.map Prod.snd).Nodup
  started : ∀ entry ∈ state.taken, entry.2 < state.scoring.nextPass ∧
    entry.1 ∉ state.stream.backlog ∧ ∃ eventId, Names state entry.1 eventId

structure ConsumersSound (state : State) : Prop where
  holders : StreamHolders state.stream state.heldIds
  ledger : LedgerSound state
  loops : ∀ consumer loop, state.loops consumer = some loop → LoopSound state loop

/-- The state of a consumer that is about to route a batch. -/
structure Routing (state : State) (consumer : Nat) (batch : List StreamMessage) : Prop where
  holders : StreamHolders state.stream
    (Function.update state.heldIds consumer (batch.map StreamMessage.id))
  ledger : LedgerSound state
  others : ∀ other loop, other ≠ consumer → state.loops other = some loop →
    LoopSound state loop
  unrouted : Unrouted state batch

theorem consumersSound_initial : ConsumersSound State.initial where
  holders := StreamHolders.none_held StreamGroup.wellFormed_empty fun _ => rfl
  ledger := ⟨List.nodup_nil, List.nodup_nil, by intro entry member; cases member⟩
  loops := by
    intro consumer loop at'
    cases at'

theorem heldIds_setLoop (state : State) (consumer : Nat) (loop : LoopState) :
    (state.setLoop consumer loop).heldIds =
      Function.update state.heldIds consumer (loop.held.map StreamMessage.id) := by
  funext other
  by_cases same : other = consumer
  · subst same
    simp [State.heldIds, State.setLoop]
  · simp [State.heldIds, State.setLoop, same]

theorem heldIds_at {state : State} {consumer : Nat} {loop : LoopState}
    (at' : state.loops consumer = some loop) :
    state.heldIds consumer = loop.held.map StreamMessage.id := by
  simp only [State.heldIds, at', Option.elim_some]

/-! ## What the others keep -/

/-- A loop stays sound while its messages, and the pass it waits for, are left alone. -/
theorem LoopSound.framed {state after : State} {loop : LoopState}
    (sound : LoopSound state loop)
    (fields : ∀ id value, state.stream.fields id = some value →
      after.stream.fields id = some value)
    (taken : ∀ entry ∈ state.taken, entry ∈ after.taken)
    (fresh : ∀ message ∈ loop.held, message.id ∉ state.taken.map Prod.fst →
      message.id ∉ after.taken.map Prod.fst)
    (passes : ∀ message number rest, loop = .scoring message number rest →
      ∀ pass, state.scoring.passes number = some pass →
        ∃ next, after.scoring.passes number = some next ∧ next.eventId = pass.eventId) :
    LoopSound after loop := by
  have unrouted : ∀ rest : List StreamMessage, (∀ message ∈ rest, message ∈ loop.held) →
      Unrouted state rest → Unrouted after rest := by
    intro rest among old message member
    obtain ⟨known, untaken⟩ := old message member
    exact ⟨fields _ _ known, fresh message (among message member) untaken⟩
  cases loop with
  | reading => trivial
  | scoring message number rest =>
      obtain ⟨known, entry, ⟨pass, opened, names⟩, old⟩ := sound
      obtain ⟨next, stillOpen, same⟩ := passes message number rest rfl pass opened
      refine ⟨fields _ _ known, taken _ entry, ⟨next, stillOpen, ?_⟩, ?_⟩
      · rw [same]
        exact names
      · exact unrouted rest (fun _ member => List.mem_cons_of_mem _ member) old
  | acking message rest =>
      obtain ⟨entry, old⟩ := sound
      obtain ⟨pair, pairMember, same⟩ := List.mem_map.mp entry
      refine ⟨List.mem_map.mpr ⟨pair, taken pair pairMember, same⟩, ?_⟩
      exact unrouted rest (fun _ member => List.mem_cons_of_mem _ member) old

theorem LedgerSound.framed {state after : State} (sound : LedgerSound state)
    (taken : after.taken = state.taken)
    (nextPass : after.scoring.nextPass = state.scoring.nextPass)
    (fields : ∀ id value, state.stream.fields id = some value →
      after.stream.fields id = some value)
    (backlog : ∀ id ∈ after.stream.backlog, id ∈ state.stream.backlog ∨
      state.stream.fields id = none) : LedgerSound after := by
  constructor
  · rw [taken]
    exact sound.messages
  · rw [taken]
    exact sound.passes
  · intro entry member
    rw [taken] at member
    obtain ⟨older, notWaiting, eventId, value, known, names⟩ := sound.started entry member
    refine ⟨by rw [nextPass]; exact older, ?_, eventId, value, fields _ _ known, names⟩
    intro waiting
    rcases backlog entry.1 waiting with old | absent
    · exact notWaiting old
    · rw [known] at absent
      cases absent

/-! ## Routing -/

theorem Routing.skips {state : State} {consumer : Nat} {batch : List StreamMessage}
    (routing : Routing state consumer batch) :
    ConsumersSound (state.setLoop consumer .reading) where
  holders := by
    have dropped := routing.holders.drop (List.nil_sublist
      (Function.update state.heldIds consumer (batch.map StreamMessage.id) consumer))
    rw [Function.update_idem] at dropped
    rw [heldIds_setLoop]
    exact dropped
  ledger := routing.ledger.framed rfl rfl (fun _ _ known => known)
    fun _ waiting => Or.inl waiting
  loops := by
    intro other loop at'
    by_cases same : other = consumer
    · have reading : LoopState.reading = loop := by
        simpa [State.setLoop, same] using at'
      subst reading
      trivial
    · exact routing.others other loop same (by simpa [State.setLoop, same] using at')

theorem Routing.takes {state : State} {consumer : Nat} {before rest : List StreamMessage}
    {message : StreamMessage} {eventId : UUID}
    (routing : Routing state consumer (before ++ message :: rest))
    (names : message.fields.id = .uuid eventId) :
    ConsumersSound (processOne state consumer message eventId rest) := by
  have member : message ∈ before ++ message :: rest := by simp
  obtain ⟨known, untaken⟩ := routing.unrouted message member
  have waits : Unrouted state rest := fun other among =>
    routing.unrouted other (List.mem_append_right _ (List.mem_cons_of_mem _ among))
  have holders := routing.holders
  have ownHeld : message.id ∈ Function.update state.heldIds consumer
      ((before ++ message :: rest).map StreamMessage.id) consumer := by
    rw [Function.update_self]
    exact List.mem_map_of_mem member
  have distinct : ((before ++ message :: rest).map StreamMessage.id).Nodup := by
    have held := holders.distinct consumer
    rwa [Function.update_self] at held
  have apart : message.id ∉ rest.map StreamMessage.id := by
    rw [List.map_append, List.map_cons] at distinct
    exact (List.nodup_cons.mp (List.nodup_append.mp distinct).2.1).1
  constructor
  · have fewer : ((message :: rest).map StreamMessage.id).Sublist
        (Function.update state.heldIds consumer
          ((before ++ message :: rest).map StreamMessage.id) consumer) := by
      rw [Function.update_self]
      exact (List.sublist_append_right before _).map StreamMessage.id
    have dropped := holders.drop fewer
    rw [Function.update_idem] at dropped
    unfold processOne
    rw [heldIds_setLoop]
    exact dropped
  · have newPass : state.scoring.nextPass ∉ state.taken.map Prod.snd := by
      intro old
      obtain ⟨entry, entryMember, same⟩ := List.mem_map.mp old
      have older := (routing.ledger.started entry entryMember).1
      omega
    constructor
    · exact List.nodup_cons.mpr ⟨untaken, routing.ledger.messages⟩
    · exact List.nodup_cons.mpr ⟨newPass, routing.ledger.passes⟩
    · intro entry entryMember
      have counted : (processOne state consumer message eventId rest).scoring.nextPass =
          state.scoring.nextPass + 1 := rfl
      rcases List.mem_cons.mp entryMember with rfl | old
      · refine ⟨by rw [counted]; omega, (holders.known ownHeld).2, eventId, ?_⟩
        exact ⟨message.fields, known, names⟩
      · obtain ⟨older, notWaiting, named⟩ := routing.ledger.started entry old
        exact ⟨by rw [counted]; omega, notWaiting, named⟩
  · intro other loop at'
    by_cases same : other = consumer
    · have running : LoopState.scoring message state.scoring.nextPass rest = loop := by
        simpa [processOne, State.setLoop, same] using at'
      subst running
      refine ⟨known, List.mem_cons_self, ⟨⟨eventId, .fetchEvent⟩, ?_, names⟩, ?_⟩
      · simp [processOne, State.setLoop, ScoringState.openPass, ScoringState.setPass]
      · intro later among
        obtain ⟨laterKnown, laterUntaken⟩ := waits later among
        refine ⟨laterKnown, ?_⟩
        intro taken
        rcases List.mem_cons.mp taken with same' | old
        · have equal : later.id = message.id := same'
          rw [← equal] at apart
          exact apart (List.mem_map_of_mem among)
        · exact laterUntaken old
    · have old : state.loops other = some loop := by
        simpa [processOne, State.setLoop, same] using at'
      refine (routing.others other loop same old).framed (fun _ _ found => found)
        (fun _ entry => List.mem_cons_of_mem _ entry) ?_ ?_
      · intro held among untakenHeld taken
        rcases List.mem_cons.mp taken with same' | before'
        · have theirs : message.id ∈ Function.update state.heldIds consumer
              ((before ++ message :: rest).map StreamMessage.id) other := by
            rw [Function.update_of_ne same, heldIds_at old, ← show held.id = message.id from same']
            exact List.mem_map_of_mem among
          exact same (holders.alone other consumer message.id theirs ownHeld)
        · exact untakenHeld before'
      · intro mine number others shape pass opened
        subst shape
        have loopSound := routing.others other _ same old
        have older := (routing.ledger.started _ loopSound.2.1).1
        refine ⟨pass, ?_, rfl⟩
        have notNew : number ≠ state.scoring.nextPass := by
          intro equal
          simp only [equal] at older
          omega
        simp [processOne, State.setLoop, ScoringState.openPass, ScoringState.setPass, notNew,
          opened]

theorem Routing.routed {state after : State} {consumer : Nat} {batch : List StreamMessage}
    (routing : Routing state consumer batch) (routed : Routed state consumer batch after) :
    ConsumersSound after := by
  cases routed with
  | skipped => exact routing.skips
  | taken place names =>
      subst place
      exact routing.takes names

/-! ## The invariant is kept -/

section Step
variable {config : ScoringConfig} {state after : State} {consumer number : Nat}
  {message : StreamMessage} {rest : List StreamMessage} {pass : ScorePass}
  {reply : ScoreReply}

/-- What an unrouted batch has kept of the loop that held it. -/
theorem ConsumersSound.routing (sound : ConsumersSound state) {loop : LoopState}
    (at' : state.loops consumer = some loop) {before batch : List StreamMessage}
    (held : loop.held = before ++ batch) (unrouted : Unrouted state batch) :
    Routing state consumer batch where
  holders := by
    apply sound.holders.drop
    rw [heldIds_at at', held]
    exact (List.sublist_append_right before batch).map StreamMessage.id
  ledger := sound.ledger
  others := fun other loop _ found => sound.loops other loop found
  unrouted := unrouted

theorem PassStep.nextPass {state after : ScoringState}
    (step : PassStep config state number pass after) : after.nextPass = state.nextPass := by
  cases step <;> rfl

/-- The numbers of two running passes differ. -/
theorem ConsumersSound.passes_apart (sound : ConsumersSound state)
    (at' : state.loops consumer = some (.scoring message number rest)) {other : Nat}
    (apart : other ≠ consumer) {message' : StreamMessage} {number' : Nat}
    {rest' : List StreamMessage}
    (otherAt : state.loops other = some (.scoring message' number' rest')) :
    number' ≠ number := by
  intro same
  subst same
  have entry := (sound.loops consumer _ at').2.1
  have entry' := (sound.loops other _ otherAt).2.1
  have equal : (message'.id, number') = (message.id, number') :=
    List.inj_on_of_nodup_map sound.ledger.passes entry' entry rfl
  have ids : message'.id = message.id := congrArg Prod.fst equal
  refine apart (sound.holders.alone other consumer message.id ?_ ?_)
  · rw [heldIds_at otherAt, ← ids]
    exact List.mem_map_of_mem List.mem_cons_self
  · rw [heldIds_at at']
    exact List.mem_map_of_mem List.mem_cons_self

/-- A step of one pass leaves the loops of the others sound. -/
theorem ConsumersSound.others_resumed (sound : ConsumersSound state)
    (at' : state.loops consumer = some (.scoring message number rest))
    {scoring : ScoringState} (kept : ∀ other, other ≠ number →
      scoring.passes other = state.scoring.passes other) {other : Nat}
    (apart : other ≠ consumer) {loop : LoopState} (otherAt : state.loops other = some loop) :
    LoopSound { state with scoring := scoring } loop := by
  refine (sound.loops other loop otherAt).framed (fun _ _ found => found)
    (fun _ entry => entry) (fun _ _ untaken => untaken) ?_
  intro message' number' rest' shape pass' opened
  subst shape
  have different := sound.passes_apart at' apart otherAt
  refine ⟨pass', ?_, rfl⟩
  rw [← opened]
  exact kept number' different

theorem ConsumersSound.waits (sound : ConsumersSound state)
    (at' : state.loops consumer = some (.scoring message number rest))
    (opened : state.scoring.passes number = some pass)
    (goesOn : passOutcome config state.scoring pass reply = .goesOn) :
    ConsumersSound { state with
      scoring := resumePass config state.scoring number pass reply } := by
  have step := @resumePass_step config state.scoring number pass reply opened
  refine ⟨sound.holders, ?_, ?_⟩
  · exact sound.ledger.framed rfl (PassStep.nextPass step) (fun _ _ known => known)
      fun _ waiting => Or.inl waiting
  · intro other loop otherAt
    by_cases same : other = consumer
    · subst same
      have equal : LoopState.scoring message number rest = loop :=
        Option.some.inj (at'.symm.trans otherAt)
      subst equal
      obtain ⟨known, entry, ⟨pass', opened', names⟩, unrouted⟩ := sound.loops other _ at'
      rw [opened] at opened'
      cases opened'
      obtain ⟨next, stillOpen, event⟩ := resumePass_goesOn opened goesOn
      exact ⟨known, entry, ⟨next, stillOpen, by rw [event]; exact names⟩, unrouted⟩
    · exact sound.others_resumed at' (fun _ different => step.others different) same otherAt

/-- The consumer whose pass is over, before it takes up anything else. -/
theorem ConsumersSound.passOver (sound : ConsumersSound state)
    (at' : state.loops consumer = some (.scoring message number rest))
    {scoring : ScoringState} (nextPass : scoring.nextPass = state.scoring.nextPass)
    (kept : ∀ other, other ≠ number → scoring.passes other = state.scoring.passes other) :
    Routing { state with scoring := scoring } consumer rest := by
  have held : (LoopState.scoring message number rest).held = [message] ++ rest := rfl
  have routing := sound.routing at' held (sound.loops consumer _ at').2.2.2
  refine ⟨routing.holders, ?_, ?_, routing.unrouted⟩
  · exact sound.ledger.framed rfl nextPass (fun _ _ known => known)
      fun _ waiting => Or.inl waiting
  · intro other loop apart otherAt
    exact sound.others_resumed at' kept apart otherAt

theorem ConsumersSound.returns (sound : ConsumersSound state)
    (at' : state.loops consumer = some (.scoring message number rest))
    {scoring : ScoringState} (nextPass : scoring.nextPass = state.scoring.nextPass)
    (kept : ∀ other, other ≠ number → scoring.passes other = state.scoring.passes other) :
    ConsumersSound ({ state with scoring := scoring }.setLoop consumer (.acking message rest)) := by
  obtain ⟨-, entry, -, unrouted⟩ := sound.loops consumer _ at'
  constructor
  · have held : Function.update state.heldIds consumer
        ((message :: rest).map StreamMessage.id) = state.heldIds := by
      rw [Function.update_eq_iff]
      exact ⟨(heldIds_at at').symm, fun _ _ => rfl⟩
    have holders := sound.holders
    rw [← held] at holders
    rw [heldIds_setLoop]
    exact holders
  · exact sound.ledger.framed rfl nextPass (fun _ _ known => known)
      fun _ waiting => Or.inl waiting
  · intro other loop otherAt
    by_cases same : other = consumer
    · have acking : LoopState.acking message rest = loop := by
        simpa [State.setLoop, same] using otherAt
      subst acking
      exact ⟨List.mem_map_of_mem entry, unrouted⟩
    · have old : state.loops other = some loop := by
        simpa [State.setLoop, same] using otherAt
      exact sound.others_resumed at' kept same old

theorem readFrom_ids (stream : SignalStream) (count : Nat) :
    ((readFrom stream count).1.map StreamMessage.id).Sublist (stream.readGroup count).1 := by
  have known : ∀ ids : List MessageId, ((ids.filterMap fun id =>
      (stream.fields id).map fun fields => (⟨id, fields, none⟩ : StreamMessage)).map
        StreamMessage.id).Sublist ids := by
    intro ids
    induction ids with
    | nil => exact List.Sublist.refl []
    | cons id rest ih =>
        rw [List.filterMap_cons]
        cases found : stream.fields id with
        | none => exact ih.cons id
        | some fields => exact ih.cons_cons id
  exact known _

theorem ConsumersSound.reads (sound : ConsumersSound state)
    (at' : state.loops consumer = some .reading) (count : Nat) :
    Routing { state with stream := (readFrom state.stream count).2 } consumer
      (readFrom state.stream count).1 where
  holders := sound.holders.read (heldIds_at at') (readFrom_ids state.stream count)
  ledger := sound.ledger.framed rfl rfl (fun _ _ known => known)
    fun _ waiting => Or.inl (List.mem_of_mem_drop waiting)
  others := fun other loop _ otherAt =>
    (sound.loops other loop otherAt).framed (fun _ _ found => found) (fun _ entry => entry)
      (fun _ _ untaken => untaken) fun _ _ _ _ pass' opened => ⟨pass', opened, rfl⟩
  unrouted := by
    intro message member
    have known : state.stream.fields message.id = some message.fields :=
      readFrom_known member
    refine ⟨known, ?_⟩
    intro taken
    obtain ⟨entry, entryMember, same⟩ := List.mem_map.mp taken
    have delivered : message.id ∈ (state.stream.readGroup count).1 :=
      (readFrom_ids state.stream count).subset (List.mem_map_of_mem member)
    have notWaiting := (sound.ledger.started entry entryMember).2.1
    rw [same] at notWaiting
    exact notWaiting (List.mem_of_mem_take delivered)

theorem ConsumersSound.acks (sound : ConsumersSound state)
    (at' : state.loops consumer = some (.acking message rest)) (answer : Answer) :
    Routing { state with stream := ackApplied state.stream answer message.id } consumer
      rest := by
  have held : state.heldIds consumer = message.id :: rest.map StreamMessage.id :=
    heldIds_at at'
  have unrouted : Unrouted state rest := (sound.loops consumer _ at').2
  constructor
  · unfold ackApplied
    split
    · exact sound.holders.ack held (List.Sublist.refl _)
    · apply sound.holders.drop
      rw [held]
      exact List.sublist_cons_self _ _
  · refine sound.ledger.framed rfl rfl ?_ ?_
    · intro id value known
      rw [ackApplied_fields]
      exact known
    · intro id waiting
      rw [ackApplied_backlog] at waiting
      exact Or.inl waiting
  · intro other loop apart otherAt
    refine (sound.loops other loop otherAt).framed ?_ (fun _ entry => entry)
      (fun _ _ untaken => untaken) fun _ _ _ _ pass' opened => ⟨pass', opened, rfl⟩
    intro id value known
    rw [ackApplied_fields]
    exact known
  · intro later member
    obtain ⟨known, untaken⟩ := unrouted later member
    rw [ackApplied_fields]
    exact ⟨known, untaken⟩

theorem Routing.stops {batch : List StreamMessage} (routing : Routing state consumer batch) :
    ConsumersSound { state with loops := Function.update state.loops consumer none } where
  holders := by
    have dropped := routing.holders.drop (List.nil_sublist
      (Function.update state.heldIds consumer (batch.map StreamMessage.id) consumer))
    rw [Function.update_idem] at dropped
    have nothing : State.heldIds { state with
        loops := Function.update state.loops consumer none } =
        Function.update state.heldIds consumer [] := by
      funext other
      by_cases same : other = consumer
      · simp [State.heldIds, same]
      · simp [State.heldIds, same]
    rw [nothing]
    exact dropped
  ledger := routing.ledger.framed rfl rfl (fun _ _ known => known)
    fun _ waiting => Or.inl waiting
  loops := by
    intro other loop at'
    by_cases same : other = consumer
    · simp [same] at at'
    · exact routing.others other loop same (by simpa [same] using at')

theorem ConsumersSound.stopped (sound : ConsumersSound state) {loop : LoopState}
    (at' : state.loops consumer = some loop) :
    ConsumersSound (stopLoop state consumer loop) := by
  cases loop with
  | reading =>
      have held : LoopState.reading.held = [] ++ [] := rfl
      exact (sound.routing at' held (by intro _ member; cases member)).stops
  | acking message rest =>
      have held : (LoopState.acking message rest).held = [message] ++ rest := rfl
      exact (sound.routing at' held (sound.loops consumer _ at').2).stops
  | scoring message number rest =>
      refine (sound.passOver at' ?_ ?_).stops
      · rfl
      · intro other different
        simp [different]

theorem ConsumersSound.published (sound : ConsumersSound state) {messageId : MessageId}
    {fields : SignalFields} {stream : SignalStream}
    (added : state.stream.add messageId fields = some stream) :
    ConsumersSound { state with stream := stream } where
  holders := sound.holders.add added
  ledger := by
    refine sound.ledger.framed rfl rfl (fun _ _ known => StreamGroup.fields_add added known) ?_
    intro id waiting
    obtain ⟨fresh, rfl⟩ := StreamGroup.add_cases added
    rcases List.mem_append.mp waiting with old | new
    · exact Or.inl old
    · rw [List.mem_singleton.mp new]
      exact Or.inr fresh
  loops := fun other loop otherAt =>
    (sound.loops other loop otherAt).framed
      (fun _ _ known => StreamGroup.fields_add added known) (fun _ entry => entry)
      (fun _ _ untaken => untaken) fun _ _ _ _ pass' opened => ⟨pass', opened, rfl⟩

theorem ConsumersSound.starts (sound : ConsumersSound state)
    (absent : state.loops consumer = none) :
    ConsumersSound (state.setLoop consumer .reading) := by
  have idle : state.heldIds consumer = [] := by
    simp [State.heldIds, absent]
  have routing : Routing state consumer [] := by
    refine ⟨?_, sound.ledger, fun other loop _ found => sound.loops other loop found, ?_⟩
    · rw [List.map_nil, ← idle, Function.update_eq_self]
      exact sound.holders
    · intro message member
      cases member
  exact routing.skips

theorem ConsumersSound.stepped {action : Action} (sound : ConsumersSound state)
    (stepped : Stepped config state action after) : ConsumersSound after := by
  cases stepped with
  | @database action scoring moved =>
      obtain ⟨database, -, rfl⟩ := Option.map_eq_some_iff.mp moved
      exact ⟨sound.holders, sound.ledger.framed rfl rfl (fun _ _ known => known)
        fun _ waiting => Or.inl waiting, fun other loop otherAt =>
          (sound.loops other loop otherAt).framed (fun _ _ found => found)
            (fun _ entry => entry) (fun _ _ untaken => untaken)
            fun _ _ _ _ pass' opened => ⟨pass', opened, rfl⟩⟩
  | published added => exact sound.published added
  | started absent => exact sound.starts absent
  | lost at' => exact (sound.reads at' _).skips
  | read at' routed => exact (sound.reads at' _).routed routed
  | waits at' opened goesOn => exact sound.waits at' opened goesOn
  | @raised consumer number message rest pass reply after at' opened routed =>
      have step := @resumePass_step config state.scoring number pass reply opened
      exact (sound.passOver at' (PassStep.nextPass step)
        fun _ different => step.others different).routed routed
  | acked at' routed => exact (sound.acks at' _).routed routed
  | unreachable at' => exact (sound.acks at' _).skips
  | stopped at' => exact sound.stopped at'
  | @returned consumer number message rest pass reply at' opened done =>
      have step := @resumePass_step config state.scoring number pass reply opened
      exact sound.returns at' (PassStep.nextPass step) fun _ different => step.others different

end Step

end WealthFinder.Pipeline.ScoringConsumer
