import WealthFinder.StreamGroup

/-!
# Consumers that hold what they have read

Consumers of one group read entries, hold them, and acknowledge or drop them one by
one.  Nothing is claimed again, so an entry has one holder at most, and an entry that
has been let go is not touched any more.
-/

set_option autoImplicit false

namespace WealthFinder

/-- `held consumer` lists the entries that the consumer has read and not yet let go. -/
structure StreamHolders {Id Fields Consumer : Type} (stream : StreamGroup Id Fields)
    (held : Consumer → List Id) : Prop where
  wellFormed : stream.WellFormed
  pending : ∀ consumer, ∀ id ∈ held consumer, stream.pending id = some 1
  distinct : ∀ consumer, (held consumer).Nodup
  alone : ∀ first second id, id ∈ held first → id ∈ held second → first = second
  once : ∀ id count, stream.pending id = some count → count = 1

namespace StreamHolders

variable {Id Fields Consumer : Type} {stream : StreamGroup Id Fields}
  {held : Consumer → List Id}

theorem none_held (valid : stream.WellFormed) (nothing : ∀ id, stream.pending id = none) :
    StreamHolders stream fun _ : Consumer => ([] : List Id) where
  wellFormed := valid
  pending := by
    intro consumer id member
    cases member
  distinct := fun _ => List.nodup_nil
  alone := by
    intro first second id member
    cases member
  once := by
    intro id count found
    rw [nothing] at found
    cases found

/-- A held entry is in the stream and no longer waits. -/
theorem known (holders : StreamHolders stream held) {consumer : Consumer} {id : Id}
    (member : id ∈ held consumer) : (stream.fields id).isSome ∧ id ∉ stream.backlog := by
  have found := holders.pending consumer id member
  refine ⟨holders.wellFormed.delivered id (by rw [found]; rfl), ?_⟩
  intro waiting
  have apart := holders.wellFormed.apart id waiting
  rw [found] at apart
  cases apart

section Commands
variable [DecidableEq Consumer]

/-- A consumer lets go of some of its entries. -/
theorem drop (holders : StreamHolders stream held) {consumer : Consumer} {kept : List Id}
    (fewer : kept.Sublist (held consumer)) :
    StreamHolders stream (Function.update held consumer kept) := by
  have still : ∀ other, ∀ id ∈ Function.update held consumer kept other, id ∈ held other := by
    intro other id member
    by_cases same : other = consumer
    · subst same
      rw [Function.update_self] at member
      exact fewer.subset member
    · rwa [Function.update_of_ne same] at member
  constructor
  · exact holders.wellFormed
  · intro other id member
    exact holders.pending other id (still other id member)
  · intro other
    by_cases same : other = consumer
    · subst same
      rw [Function.update_self]
      exact (holders.distinct other).sublist fewer
    · rw [Function.update_of_ne same]
      exact holders.distinct other
  · intro first second id inFirst inSecond
    exact holders.alone first second id (still first id inFirst) (still second id inSecond)
  · exact holders.once

variable [DecidableEq Id]

omit [DecidableEq Consumer] in
theorem add (holders : StreamHolders stream held) {after : StreamGroup Id Fields} {id : Id}
    {fields : Fields} (added : stream.add id fields = some after) :
    StreamHolders after held := by
  have valid := StreamGroup.wellFormed_add holders.wellFormed added
  obtain ⟨-, rfl⟩ := StreamGroup.add_cases added
  exact ⟨valid, holders.pending, holders.distinct, holders.alone, holders.once⟩

omit [DecidableEq Consumer] in
theorem read_once (holders : StreamHolders stream held) (count : Nat) :
    ∀ id deliveries, (stream.readGroup count).2.pending id = some deliveries →
      deliveries = 1 := by
  intro id deliveries found
  simp only [StreamGroup.readGroup] at found
  split at found
  · exact (Option.some.inj found).symm
  · exact holders.once id deliveries found

/-- A consumer that holds nothing reads, and keeps some of what it is given. -/
theorem read (holders : StreamHolders stream held) {consumer : Consumer} {count : Nat}
    {kept : List Id} (idle : held consumer = [])
    (fewer : kept.Sublist (stream.readGroup count).1) :
    StreamHolders (stream.readGroup count).2 (Function.update held consumer kept) := by
  have taken : ∀ id ∈ kept, id ∈ stream.backlog.take count := fun id member =>
    fewer.subset member
  have others : ∀ other, ∀ id ∈ held other, id ∉ stream.backlog.take count := by
    intro other id member inBacklog
    exact (holders.known member).2 (List.mem_of_mem_take inBacklog)
  constructor
  · exact stream.wellFormed_readGroup holders.wellFormed count
  · intro other id member
    simp only [StreamGroup.readGroup]
    by_cases same : other = consumer
    · subst same
      rw [Function.update_self] at member
      rw [if_pos (taken id member)]
    · rw [Function.update_of_ne same] at member
      rw [if_neg (others other id member)]
      exact holders.pending other id member
  · intro other
    by_cases same : other = consumer
    · subst same
      rw [Function.update_self]
      exact (holders.wellFormed.distinct.sublist (List.take_sublist count _)).sublist fewer
    · rw [Function.update_of_ne same]
      exact holders.distinct other
  · intro first second id inFirst inSecond
    by_cases firstSame : first = consumer
    · by_cases secondSame : second = consumer
      · rw [firstSame, secondSame]
      · rw [firstSame, Function.update_self] at inFirst
        rw [Function.update_of_ne secondSame] at inSecond
        exact absurd (taken id inFirst) (others second id inSecond)
    · rw [Function.update_of_ne firstSame] at inFirst
      by_cases secondSame : second = consumer
      · rw [secondSame, Function.update_self] at inSecond
        exact absurd (taken id inSecond) (others first id inFirst)
      · rw [Function.update_of_ne secondSame] at inSecond
        exact holders.alone first second id inFirst inSecond
  · exact holders.read_once count

/-- A consumer acknowledges the entry that it holds first. -/
theorem ack (holders : StreamHolders stream held) {consumer : Consumer} {id : Id}
    {rest kept : List Id} (first : held consumer = id :: rest) (fewer : kept.Sublist rest) :
    StreamHolders (stream.ack id) (Function.update held consumer kept) := by
  have fewerHeld : kept.Sublist (held consumer) := by
    rw [first]
    exact fewer.trans (List.sublist_cons_self id rest)
  have dropped := holders.drop fewerHeld
  have notKept : id ∉ kept := by
    intro member
    have distinct := holders.distinct consumer
    rw [first] at distinct
    exact (List.nodup_cons.mp distinct).1 (fewer.subset member)
  have elsewhere : ∀ other, ∀ entry ∈ Function.update held consumer kept other, entry ≠ id := by
    intro other entry member same
    subst same
    by_cases here : other = consumer
    · subst here
      rw [Function.update_self] at member
      exact notKept member
    · rw [Function.update_of_ne here] at member
      exact here (holders.alone other consumer entry member
        (by rw [first]; exact List.mem_cons_self))
  constructor
  · exact stream.wellFormed_ack holders.wellFormed id
  · intro other entry member
    simp only [StreamGroup.ack]
    rw [Function.update_of_ne (elsewhere other entry member)]
    exact dropped.pending other entry member
  · exact dropped.distinct
  · exact dropped.alone
  · intro entry count found
    simp only [StreamGroup.ack] at found
    by_cases same : entry = id
    · rw [same, Function.update_self] at found
      cases found
    · rw [Function.update_of_ne same] at found
      exact holders.once entry count found

end Commands

end StreamHolders

/-! ## Entries that nobody holds any more -/

/-- The entry was read, and no consumer holds it. -/
structure LetGo {Id Fields Consumer : Type} (stream : StreamGroup Id Fields)
    (held : Consumer → List Id) (id : Id) : Prop where
  known : (stream.fields id).isSome
  read : id ∉ stream.backlog
  unheld : ∀ consumer, id ∉ held consumer

namespace LetGo

variable {Id Fields Consumer : Type} {stream : StreamGroup Id Fields}
  {held : Consumer → List Id} {id : Id}

section Commands
variable [DecidableEq Consumer]

theorem drop (letGo : LetGo stream held id) {consumer : Consumer} {kept : List Id}
    (fewer : ∀ entry ∈ kept, entry ∈ held consumer) :
    LetGo stream (Function.update held consumer kept) id := by
  refine ⟨letGo.known, letGo.read, ?_⟩
  intro other member
  by_cases same : other = consumer
  · rw [same, Function.update_self] at member
    exact letGo.unheld consumer (fewer id member)
  · rw [Function.update_of_ne same] at member
    exact letGo.unheld other member

variable [DecidableEq Id]

omit [DecidableEq Consumer] in
theorem add (letGo : LetGo stream held id) {after : StreamGroup Id Fields} {entry : Id}
    {fields : Fields} (added : stream.add entry fields = some after) :
    LetGo after held id ∧ after.pending id = stream.pending id := by
  obtain ⟨fresh, rfl⟩ := StreamGroup.add_cases added
  have apart : id ≠ entry := by
    intro same
    have known := letGo.known
    rw [same, fresh] at known
    cases known
  refine ⟨⟨?_, ?_, letGo.unheld⟩, rfl⟩
  · simpa [apart] using letGo.known
  · intro waiting
    rcases List.mem_append.mp waiting with old | new
    · exact letGo.read old
    · exact apart (List.mem_singleton.mp new)

theorem read_others (letGo : LetGo stream held id) {consumer : Consumer} {count : Nat}
    {kept : List Id} (fewer : ∀ entry ∈ kept, entry ∈ (stream.readGroup count).1) :
    LetGo (stream.readGroup count).2 (Function.update held consumer kept) id ∧
      (stream.readGroup count).2.pending id = stream.pending id := by
  have notTaken : id ∉ stream.backlog.take count := fun taken =>
    letGo.read (List.mem_of_mem_take taken)
  refine ⟨⟨letGo.known, fun waiting => letGo.read (List.mem_of_mem_drop waiting), ?_⟩, ?_⟩
  · intro other member
    by_cases same : other = consumer
    · rw [same, Function.update_self] at member
      exact notTaken (fewer id member)
    · rw [Function.update_of_ne same] at member
      exact letGo.unheld other member
  · simp only [StreamGroup.readGroup]
    rw [if_neg notTaken]

omit [DecidableEq Consumer] in
theorem ack_other (letGo : LetGo stream held id) {consumer : Consumer} {entry : Id}
    (holds : entry ∈ held consumer) : LetGo (stream.ack entry) held id ∧
      (stream.ack entry).pending id = stream.pending id := by
  have apart : id ≠ entry := by
    intro same
    subst same
    exact letGo.unheld consumer holds
  refine ⟨⟨letGo.known, letGo.read, letGo.unheld⟩, ?_⟩
  simp only [StreamGroup.ack]
  rw [Function.update_of_ne apart]

end Commands

end LetGo

end WealthFinder
