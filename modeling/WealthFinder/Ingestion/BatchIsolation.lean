import WealthFinder.Ingestion.CleaningSteps

/-!
# Batches with malformed entries

`_to_stream_messages` converts a whole batch inside the read and the reclaim, and the
loops catch what it raises only around the call.  So a batch is put on the queue entry
by entry or not at all.  And each reclaim starts at the front of the pending list, where
the entries that no worker ever acknowledges stay.
-/

set_option autoImplicit false

namespace WealthFinder.Ingestion

open Machine

abbrev StreamEntry := MessageId × RawIdField

/-- The text of the field read as a UUID. -/
def RawIdField.toUUID : RawIdField → Option UUID
  | .uuid rawId => some rawId
  | .invalid => none
  | .absent => none

/-- What a worker is to get for an entry with a `raw_id`. -/
def messageOf (entry : StreamEntry) : StreamMessage := ⟨entry.1, entry.2.toUUID⟩

/-- An entry of the pending list, and whether it has been idle for `min_idle_ms`. -/
structure PendingEntry where
  entry : StreamEntry
  idle : Bool
  deriving DecidableEq

/-- A worker can process the entry. -/
def PendingEntry.wellFormed (pending : PendingEntry) : Bool := pending.entry.2.toUUID.isSome

/-! ## What the loops received and put on the queue -/

def State.pendingEntries (state : State) (idle : List MessageId) : List PendingEntry :=
  (withFields state.stream state.stream.pendingIds).map fun entry =>
    ⟨entry, decide (entry.1 ∈ idle)⟩

/-- The entries of this pending list that a reclaim is given. -/
def claimedFrom (pending : List PendingEntry) : List PendingEntry :=
  StreamGroup.scan PendingEntry.idle reclaimCount pending

/-- One batch and what its loop put on the queue; and, of a reclaim, the pending list that
the batch was claimed from. -/
structure Round where
  batch : List StreamEntry
  pending : List PendingEntry
  enqueued : List StreamMessage
  deriving DecidableEq

/-- The round of a command whose reply arrives. -/
def State.round (state after : State) : Action → Option Round
  | .readMessages count true =>
      let (ids, stream) := state.stream.readGroup count
      some ⟨withFields stream ids, [], after.queue.drop state.queue.length⟩
  | .reclaimPending idle true =>
      let (claimed, stream) := state.stream.autoclaim (state.claimable idle)
      some ⟨withFields stream claimed, state.pendingEntries idle,
        after.queue.drop state.queue.length⟩
  | _ => none

/-- A run with the rounds of both loops in their order. -/
structure RoundRun where
  state : State
  rounds : List Round

def RoundRun.next (run : RoundRun) (after : State) (action : Action) : RoundRun where
  state := after
  rounds := run.rounds ++ (run.state.round after action).toList

def roundMachine (config : CleanConfig) : Machine RoundRun Action where
  init := fun run => run = ⟨initial, []⟩
  step := fun run action => (step config run.state action).map fun after =>
    run.next after action

namespace Round

/-- Each entry with a `raw_id` is on the queue, whatever the others contain. -/
def Isolates (round : Round) : Prop :=
  ∀ entry ∈ round.batch, entry.2 ≠ .absent → messageOf entry ∈ round.enqueued

/-- What the reclaim would be given if no other entry were pending than well-formed ones. -/
def due (round : Round) : List PendingEntry :=
  claimedFrom (round.pending.filter PendingEntry.wellFormed)

/-- No malformed entry keeps a well-formed one off the queue, be it of the same batch or
pending. -/
def Unhindered (round : Round) : Prop :=
  round.Isolates ∧ ∀ waiting ∈ round.due, messageOf waiting.entry ∈ round.enqueued

end Round

/-- All entries have a `raw_id`, or none has. -/
def Uniform (batch : List StreamEntry) : Prop :=
  (∀ entry ∈ batch, entry.2 ≠ .absent) ∨ ∀ entry ∈ batch, entry.2 = .absent

/-- A well-formed idle entry that a reclaim reaches among the well-formed ones, it reaches
among all pending ones. -/
def NotCrowded (pending : List PendingEntry) : Prop :=
  ∀ waiting ∈ pending, waiting.wellFormed = true → waiting.idle = true →
    StreamGroup.Reached PendingEntry.idle reclaimCount
      (pending.filter PendingEntry.wellFormed) waiting →
    StreamGroup.Reached PendingEntry.idle reclaimCount pending waiting

/-! ## The conversion of a batch -/

theorem toStreamMessages_present {batch : List StreamEntry}
    (present : ∀ entry ∈ batch, entry.2 ≠ .absent) :
    toStreamMessages batch = some (batch.map messageOf) := by
  induction batch with
  | nil => rfl
  | cons entry rest ih =>
      obtain ⟨messageId, field⟩ := entry
      have others := ih fun entry member => present entry (List.mem_cons_of_mem _ member)
      cases field with
      | absent => exact absurd rfl (present (messageId, .absent) List.mem_cons_self)
      | invalid => rw [toStreamMessages, others, Option.map_some]; rfl
      | uuid rawId => rw [toStreamMessages, others, Option.map_some]; rfl

/-- One entry without the field is enough for KeyError. -/
theorem toStreamMessages_absent {batch : List StreamEntry}
    (missing : ∃ entry ∈ batch, entry.2 = .absent) : toStreamMessages batch = none := by
  induction batch with
  | nil =>
      obtain ⟨entry, member, -⟩ := missing
      cases member
  | cons head rest ih =>
      obtain ⟨messageId, field⟩ := head
      obtain ⟨entry, member, absent⟩ := missing
      cases field with
      | absent => rfl
      | invalid | uuid rawId =>
          have inRest : entry ∈ rest := by
            rcases List.mem_cons.mp member with rfl | later
            · cases absent
            · exact later
          rw [toStreamMessages, ih ⟨entry, inRest, absent⟩, Option.map_none]

/-- What a loop puts on the queue for a batch. -/
def putFor (batch : List StreamEntry) : List StreamMessage := (toStreamMessages batch).getD []

/-- The conversion is all that happens to a batch, and a reclaim's batch is what it claims. -/
structure Round.OfLoop (round : Round) : Prop where
  put : round.enqueued = putFor round.batch
  reclaimed : round.pending = [] ∨
    round.batch = (claimedFrom round.pending).map PendingEntry.entry

theorem isolates_iff {round : Round} (ofLoop : round.OfLoop) :
    round.Isolates ↔ Uniform round.batch := by
  rw [Round.Isolates, ofLoop.put]
  constructor
  · intro isolates
    by_cases missing : ∃ entry ∈ round.batch, entry.2 = .absent
    · refine Or.inr ?_
      intro entry member
      by_contra present
      have put := isolates entry member present
      rw [putFor, toStreamMessages_absent missing] at put
      cases put
    · refine Or.inl ?_
      intro entry member absent
      exact missing ⟨entry, member, absent⟩
  · intro uniform entry member present
    rcases uniform with allPresent | allAbsent
    · rw [putFor, toStreamMessages_present allPresent]
      exact List.mem_map_of_mem member
    · exact absurd (allAbsent entry member) present

theorem mem_batch_of_put {batch : List StreamEntry} {message : StreamMessage}
    (put : message ∈ putFor batch) : ∃ entry ∈ batch, messageOf entry = message := by
  by_cases missing : ∃ entry ∈ batch, entry.2 = .absent
  · rw [putFor, toStreamMessages_absent missing] at put
    cases put
  · rw [putFor, toStreamMessages_present fun entry member absent =>
      missing ⟨entry, member, absent⟩] at put
    exact List.mem_map.mp put

theorem messageOf_wellFormed {entry : StreamEntry} {waiting : PendingEntry}
    (wellFormed : waiting.wellFormed = true) (same : messageOf entry = messageOf waiting.entry) :
    entry = waiting.entry := by
  obtain ⟨⟨messageId, field⟩, idle⟩ := waiting
  obtain ⟨other, otherField⟩ := entry
  simp only [messageOf, StreamMessage.mk.injEq] at same
  obtain ⟨rfl, same⟩ := same
  cases field with
  | absent | invalid => cases wellFormed
  | uuid rawId => cases otherField <;> simp_all [RawIdField.toUUID]

theorem mem_due {round : Round} {waiting : PendingEntry} :
    waiting ∈ round.due ↔ (waiting ∈ round.pending ∧ waiting.wellFormed = true) ∧
      waiting.idle = true ∧ StreamGroup.Reached PendingEntry.idle reclaimCount
        (round.pending.filter PendingEntry.wellFormed) waiting := by
  rw [Round.due, claimedFrom, StreamGroup.mem_scan, List.mem_filter]

/-- A due entry that is in the batch was reached. -/
theorem reached_of_put {round : Round} (ofLoop : round.OfLoop) {waiting : PendingEntry}
    (due : waiting ∈ round.due) (put : messageOf waiting.entry ∈ round.enqueued) :
    StreamGroup.Reached PendingEntry.idle reclaimCount round.pending waiting := by
  obtain ⟨⟨pending, wellFormed⟩, idle, -⟩ := mem_due.mp due
  rw [ofLoop.put] at put
  obtain ⟨entry, inBatch, same⟩ := mem_batch_of_put put
  obtain rfl := messageOf_wellFormed wellFormed same
  rcases ofLoop.reclaimed with nothing | batch
  · rw [nothing] at pending
    cases pending
  · rw [batch] at inBatch
    obtain ⟨found, claimed, sameEntry⟩ := List.mem_map.mp inBatch
    obtain ⟨-, foundIdle, reached⟩ := (StreamGroup.mem_scan _ _ _ _).mp claimed
    obtain rfl : found = waiting := by
      obtain ⟨entry, idleness⟩ := found
      obtain ⟨other, idleness'⟩ := waiting
      simp_all
    exact reached

theorem unhindered_iff {round : Round} (ofLoop : round.OfLoop) :
    round.Unhindered ↔ Uniform round.batch ∧ NotCrowded round.pending := by
  rw [Round.Unhindered, isolates_iff ofLoop]
  refine and_congr_right fun uniform => ?_
  constructor
  · intro put waiting pending wellFormed idle reached
    have due := mem_due.mpr ⟨⟨pending, wellFormed⟩, idle, reached⟩
    exact reached_of_put ofLoop due (put waiting due)
  · intro roomy waiting due
    obtain ⟨⟨pending, wellFormed⟩, idle, reached⟩ := mem_due.mp due
    have claimed : waiting ∈ claimedFrom round.pending :=
      (StreamGroup.mem_scan _ _ _ _).mpr
        ⟨pending, idle, roomy waiting pending wellFormed idle reached⟩
    have present : waiting.entry.2 ≠ .absent := by
      intro absent
      rw [PendingEntry.wellFormed, absent] at wellFormed
      cases wellFormed
    refine (isolates_iff ofLoop).mpr uniform waiting.entry ?_ present
    rcases ofLoop.reclaimed with nothing | batch
    · rw [nothing] at pending
      cases pending
    · rw [batch]
      exact List.mem_map_of_mem claimed

/-! ## Every run -/

theorem enqueue_queue (state : State) (ids : List MessageId)
    (stream : StreamGroup MessageId RawIdField) :
    (enqueue state ids stream true).queue =
      state.queue ++ putFor (withFields stream ids) := by
  unfold enqueue putFor
  simp only [if_true]
  cases toStreamMessages (withFields stream ids) with
  | none => exact (List.append_nil _).symm
  | some messages => rfl

theorem withFields_eq {stream : StreamGroup MessageId RawIdField} {ids : List MessageId}
    (known : ∀ id ∈ ids, (stream.fields id).isSome) :
    withFields stream ids = ids.map fun id => (id, (stream.fields id).getD .absent) := by
  rw [withFields, ← List.filterMap_eq_map]
  refine List.filterMap_congr ?_
  intro id member
  obtain ⟨field, is⟩ := Option.isSome_iff_exists.mp (known id member)
  simp [is]

theorem withFields_claimed {state : State} (valid : state.stream.WellFormed)
    (idle : List MessageId) :
    withFields (state.stream.autoclaim (state.claimable idle)).2
        (state.stream.autoclaim (state.claimable idle)).1 =
      (claimedFrom (state.pendingEntries idle)).map PendingEntry.entry := by
  have pending : ∀ id ∈ state.stream.pendingIds, (state.stream.pending id).isSome :=
    fun id member => (List.mem_filter.mp member).2
  have claimable : ∀ id ∈ state.claimable idle, (state.stream.pending id).isSome :=
    fun id member => pending id (StreamGroup.mem_of_mem_scan member)
  have all : (state.stream.autoclaim (state.claimable idle)).1 = state.claimable idle :=
    List.filter_eq_self.mpr claimable
  change withFields state.stream (state.stream.autoclaim (state.claimable idle)).1 = _
  rw [all, withFields_eq fun id member => valid.delivered id (claimable id member),
    State.pendingEntries,
    withFields_eq fun id member => valid.delivered id (pending id member), List.map_map,
    claimedFrom, StreamGroup.scan_map, List.map_map]
  rfl

/-- The round of a command is its loop's. -/
theorem round_ofLoop {config : CleanConfig} {state after : State} {action : Action}
    {round : Round} (valid : state.stream.WellFormed)
    (recorded : state.round after action = some round)
    (moved : step config state action = some after) : round.OfLoop := by
  unfold State.round at recorded
  split at recorded
  · cases recorded
    cases moved
    refine ⟨?_, Or.inl rfl⟩
    simp only [enqueue_queue, List.drop_left]
  · cases recorded
    cases moved
    refine ⟨?_, Or.inr (withFields_claimed valid _)⟩
    simp only [enqueue_queue, List.drop_left]
  · cases recorded

theorem step_wellFormed {config : CleanConfig} {state after : State} {action : Action}
    (valid : state.stream.WellFormed) (moved : step config state action = some after) :
    after.stream.WellFormed := by
  cases action with
  | insertRaw raw =>
      simp only [step] at moved
      split at moved
      · cases moved
        exact valid
      · cases moved
  | announce messageId field =>
      have added : ∃ stream, state.stream.add messageId field = some stream ∧
          after.stream = stream := by
        simp only [step] at moved
        split at moved
        · split at moved
          · obtain ⟨stream, added, rfl⟩ := Option.map_eq_some_iff.mp moved
            exact ⟨stream, added, rfl⟩
          · cases moved
        · obtain ⟨stream, added, rfl⟩ := Option.map_eq_some_iff.mp moved
          exact ⟨stream, added, rfl⟩
      obtain ⟨stream, added, is⟩ := added
      rw [is]
      exact StreamGroup.wellFormed_add valid added
  | readMessages count replied =>
      rw [← Option.some.inj moved, (enqueue_frame _ _ _ _).2.2.2.2]
      exact StreamGroup.wellFormed_readGroup state.stream valid count
  | reclaimPending idle replied =>
      rw [← Option.some.inj moved, (enqueue_frame _ _ _ _).2.2.2.2]
      exact StreamGroup.wellFormed_autoclaim state.stream valid (state.claimable idle)
  | dequeue worker =>
      obtain ⟨message, rest, -, -, ⟨-, rfl⟩ | ⟨rawId, -, rfl⟩⟩ := dequeue_cases moved
      · exact valid
      · exact valid
  | resume worker reply =>
      cases resume_step moved with
      | acked suspended => exact StreamGroup.wellFormed_ack state.stream valid _
      | failed | skipped | rejecting | accepted | marked | markLost | duplicate | unseen
      | inserted | insertLost | published => exact valid
  | crash =>
      cases moved
      exact valid

theorem rounds_ofLoop {config : CleanConfig} {past : List RoundRun} {run : RoundRun}
    (trace : (roundMachine config).Trace anyAction past run) :
    run.state.stream.WellFormed ∧ ∀ round ∈ run.rounds, round.OfLoop := by
  apply trace.invariant
  · intro start begins
    rw [show start = ⟨initial, []⟩ from begins]
    refine ⟨StreamGroup.wellFormed_empty, ?_⟩
    intro round member
    cases member
  · intro before action next sound _ stepped
    obtain ⟨after, moved, rfl⟩ := Option.map_eq_some_iff.mp stepped
    refine ⟨step_wellFormed sound.1 moved, ?_⟩
    intro round member
    rcases List.mem_append.mp member with old | new
    · exact sound.2 round old
    · exact round_ofLoop sound.1 (Option.mem_toList.mp new) moved

/-- A loop puts the entries of its batch that have a `raw_id` on the queue just when all
entries of the batch have one or none has, and a reclaim gets past no malformed entry just
when none crowds a well-formed one out.  This is so for any batch and any pending list, and
for every round of any run. -/
theorem batch_isolated_iff (config : CleanConfig) :
    (∀ batch : List StreamEntry,
      Round.Isolates ⟨batch, [], putFor batch⟩ ↔ Uniform batch) ∧
    (∀ pending : List PendingEntry,
      let batch := (claimedFrom pending).map PendingEntry.entry
      Round.Unhindered ⟨batch, pending, putFor batch⟩ ↔
        Uniform batch ∧ NotCrowded pending) ∧
    ∀ past run, (roundMachine config).Trace anyAction past run →
      ∀ round ∈ run.rounds,
        round.Unhindered ↔ Uniform round.batch ∧ NotCrowded round.pending := by
  refine ⟨?_, ?_, ?_⟩
  · intro batch
    exact isolates_iff ⟨rfl, Or.inl rfl⟩
  · intro pending
    exact unhindered_iff ⟨rfl, Or.inr rfl⟩
  · intro past run trace round member
    exact unhindered_iff ((rounds_ofLoop trace).2 round member)

/-! ## A pending article that no reclaim gets past -/

def announceArticle (rawId : UUID) : List Action :=
  [.insertRaw { sampleRaw with rawId := rawId }, .announce rawId (.uuid rawId)]

/-- The article is announced, and not processed before the service is restarted. -/
theorem batch_isolated_iff_separate : ∃ past run,
    (roundMachine defaultConfig).Trace anyAction past run ∧
    ∀ round ∈ run.rounds, round.Unhindered := by
  obtain ⟨past, run, trace, rounds⟩ :=
    Trace.of_run_view (roundMachine defaultConfig) (fun _ _ => true) RoundRun.rounds
      [⟨[(1, .uuid 1)], [], [⟨1, some 1⟩]⟩, ⟨[(2, .absent)], [], []⟩,
        ⟨[(1, .uuid 1)], [⟨(1, .uuid 1), true⟩, ⟨(2, .absent), false⟩], [⟨1, some 1⟩]⟩]
      (fun _ _ _ _ _ => trivial) rfl
      (announceArticle 1 ++ [.announce 2 .absent, .readMessages 1 true, .readMessages 1 true,
        .crash, .reclaimPending [1] true])
      (by decide +kernel)
  refine ⟨past, run, trace, ?_⟩
  intro round member
  refine ((batch_isolated_iff defaultConfig).2.2 past run trace round member).mpr ?_
  rw [rounds] at member
  rcases List.mem_cons.mp member with rfl | member
  · exact ⟨Or.inl (by simp), by simp [NotCrowded]⟩
  · rcases List.mem_cons.mp member with rfl | member
    · exact ⟨Or.inr (by simp), by simp [NotCrowded]⟩
    · rw [List.mem_singleton.mp member]
      refine ⟨Or.inl (by simp), ?_⟩
      intro waiting pending wellFormed idle reached
      rcases List.mem_cons.mp pending with rfl | pending
      · exact ⟨by decide, by decide⟩
      · rw [List.mem_singleton.mp pending] at idle
        cases idle

/-- Ten messages whose `raw_id` is no UUID. -/
def invalidEntries : List StreamEntry :=
  (List.range 10).map fun index => (index + 2, .invalid)

def invalidMessages : List StreamMessage := invalidEntries.map messageOf

/-- The entry without a `raw_id` is in every batch that the article is in, so the article
stays pending with nothing on the queue.  And ten entries that no worker acknowledges are
all that a reclaim ever claims, so the article behind them is not claimed again. -/
theorem malformed_entry_holds_up :
    (∃ past run, (roundMachine defaultConfig).Trace anyAction past run ∧
      run.rounds.map Round.batch = List.replicate 3 [(1, .uuid 1), (2, .absent)] ∧
      run.state.stream.pending 1 = some 3 ∧ run.state.queue = [] ∧
      ¬ ∀ round ∈ run.rounds, round.Unhindered) ∧
    ∃ past run, (roundMachine defaultConfig).Trace anyAction past run ∧
      run.rounds.map Round.batch =
        [invalidEntries, [(1, .uuid 1)], invalidEntries, invalidEntries] ∧
      run.state.stream.pending 1 = some 1 ∧
      run.state.queue = invalidMessages ++ invalidMessages ∧
      ¬ ∀ round ∈ run.rounds, round.Unhindered := by
  constructor
  · obtain ⟨past, run, trace, seen⟩ :=
      Trace.of_run_view (roundMachine defaultConfig) (fun _ _ => true)
        (fun run => (run.rounds.map Round.batch, run.state.stream.pending 1, run.state.queue,
          run.rounds.head?))
        (List.replicate 3 [(1, .uuid 1), (2, .absent)], some 3, [],
          some ⟨[(1, .uuid 1), (2, .absent)], [], []⟩)
        (fun _ _ _ _ _ => trivial) rfl
        (announceArticle 1 ++ [.announce 2 .absent, .readMessages 10 true,
          .reclaimPending [1, 2] true, .reclaimPending [1, 2] true])
        (by decide +kernel)
    simp only [Prod.mk.injEq] at seen
    obtain ⟨rounds, pending, queue, first⟩ := seen
    refine ⟨past, run, trace, rounds, pending, queue, ?_⟩
    intro unhindered
    have put := (unhindered _ (List.mem_of_mem_head? first)).1 (1, .uuid 1) (by simp) (by simp)
    cases put
  · obtain ⟨past, run, trace, seen⟩ :=
      Trace.of_run_view (roundMachine defaultConfig) (fun _ _ => true)
        (fun run => (run.rounds.map Round.batch, run.state.stream.pending 1, run.state.queue,
          run.rounds.getLast?))
        ([invalidEntries, [(1, .uuid 1)], invalidEntries, invalidEntries], some 1,
          invalidMessages ++ invalidMessages,
          some ⟨invalidEntries, invalidEntries.map (⟨·, true⟩) ++ [⟨(1, .uuid 1), true⟩],
            invalidMessages⟩)
        (fun _ _ _ _ _ => trivial) rfl
        ((invalidEntries.map fun entry => .announce entry.1 entry.2) ++ announceArticle 1 ++
          [.readMessages 10 true, .readMessages 10 true, .crash] ++
          List.replicate 2 (.reclaimPending (List.range 12) true))
        (by decide +kernel)
    simp only [Prod.mk.injEq] at seen
    obtain ⟨rounds, pending, queue, last⟩ := seen
    refine ⟨past, run, trace, rounds, pending, queue, ?_⟩
    intro unhindered
    have put := (unhindered _ (List.mem_of_mem_getLast? last)).2 ⟨(1, .uuid 1), true⟩
      (by decide)
    revert put
    decide

end WealthFinder.Ingestion
