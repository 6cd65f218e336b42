import Mathlib.Logic.Function.Basic
import Mathlib.Data.List.Nodup

/-!
# A stream with one consumer group

Entries are appended under fresh ids and never change.  An entry waits in the
backlog until the group reads it, is then pending with a delivery count, and
leaves the pending list only when it is acknowledged.  Claiming a pending entry
again raises its count.
-/

set_option autoImplicit false

namespace WealthFinder

/-- `entries` is the order of the stream. -/
structure StreamGroup (Id : Type) (Fields : Type) where
  fields : Id → Option Fields
  entries : List Id
  backlog : List Id
  pending : Id → Option Nat

namespace StreamGroup

variable {Id Fields : Type}

def empty : StreamGroup Id Fields := ⟨fun _ => none, [], [], fun _ => none⟩

/-- The group's pending list, in the order of the stream. -/
def pendingIds (stream : StreamGroup Id Fields) : List Id :=
  stream.entries.filter fun id => (stream.pending id).isSome

/-- An entry is acknowledged once it is neither waiting nor pending. -/
def Acknowledged (stream : StreamGroup Id Fields) (id : Id) : Prop :=
  (stream.fields id).isSome ∧ id ∉ stream.backlog ∧ stream.pending id = none

/-- The group has read the entry. -/
def Delivered (stream : StreamGroup Id Fields) (id : Id) : Prop :=
  (stream.fields id).isSome ∧ id ∉ stream.backlog

theorem Delivered.pending_or_acknowledged {stream : StreamGroup Id Fields} {id : Id}
    (delivered : stream.Delivered id) :
    (stream.pending id).isSome ∨ stream.Acknowledged id := by
  cases found : stream.pending id with
  | some count => exact Or.inl rfl
  | none => exact Or.inr ⟨delivered.1, delivered.2, found⟩

variable [DecidableEq Id]

instance (stream : StreamGroup Id Fields) (id : Id) :
    Decidable (stream.Acknowledged id) :=
  inferInstanceAs (Decidable (_ ∧ _ ∧ _))

/-- XADD.  The server hands out each id once. -/
def add (stream : StreamGroup Id Fields) (id : Id) (fields : Fields) :
    Option (StreamGroup Id Fields) :=
  if (stream.fields id).isSome then none
  else some { stream with
    fields := Function.update stream.fields id (some fields)
    entries := stream.entries ++ [id]
    backlog := stream.backlog ++ [id] }

/-- XREADGROUP with id `>`: the next entries of the backlog become pending with
one delivery. -/
def readGroup (stream : StreamGroup Id Fields) (count : Nat) :
    List Id × StreamGroup Id Fields :=
  (stream.backlog.take count,
    { stream with
      backlog := stream.backlog.drop count
      pending := fun id =>
        if id ∈ stream.backlog.take count then some 1 else stream.pending id })

/-- XAUTOCLAIM over the pending entries among `ids`. -/
def autoclaim (stream : StreamGroup Id Fields) (ids : List Id) :
    List Id × StreamGroup Id Fields :=
  (ids.filter fun id => (stream.pending id).isSome,
    { stream with
      pending := fun id =>
        if id ∈ ids then (stream.pending id).map (· + 1) else stream.pending id })

def ack (stream : StreamGroup Id Fields) (id : Id) : StreamGroup Id Fields :=
  { stream with pending := Function.update stream.pending id none }

/-! ## The scan of a pending list -/

section Scan
variable {Entry : Type}

/-- What XAUTOCLAIM finds from `0-0` on: the first `count` idle entries of the pending list,
of which the server looks at ten times as many. -/
def scan (idle : Entry → Bool) (count : Nat) (pending : List Entry) : List Entry :=
  ((pending.take (10 * count)).filter idle).take count

variable [DecidableEq Entry]

/-- Fewer than `count` idle entries stand ahead of the entry, and fewer than ten times as many
in all. -/
def Reached (idle : Entry → Bool) (count : Nat) (pending : List Entry) (entry : Entry) : Prop :=
  (pending.takeWhile fun other => other ≠ entry).length < 10 * count ∧
    (pending.takeWhile fun other => other ≠ entry).countP idle < count

theorem mem_filter_take (idle : Entry → Bool) (looked count : Nat) (pending : List Entry)
    (entry : Entry) :
    entry ∈ ((pending.take looked).filter idle).take count ↔
      entry ∈ pending ∧ idle entry = true ∧
        (pending.takeWhile fun other => other ≠ entry).length < looked ∧
        (pending.takeWhile fun other => other ≠ entry).countP idle < count := by
  induction pending generalizing looked count with
  | nil => simp
  | cons head rest ih =>
      cases looked with
      | zero => simp
      | succ looked =>
          rw [List.take_succ_cons]
          by_cases same : head = entry
          · subst same
            cases waits : idle head with
            | false =>
                rw [List.filter_cons_of_neg (by simp [waits]), ih]
                simp [waits]
            | true =>
                rw [List.filter_cons_of_pos waits]
                cases count <;> simp
          · have apart : entry ≠ head := fun is => same is.symm
            rw [List.takeWhile_cons_of_pos (by simpa using same), List.length_cons]
            cases waits : idle head with
            | false =>
                rw [List.filter_cons_of_neg (by simp [waits]), ih,
                  List.countP_cons_of_neg (by simp [waits])]
                simp [apart]
            | true =>
                rw [List.filter_cons_of_pos waits, List.countP_cons_of_pos waits]
                cases count with
                | zero => simp
                | succ count =>
                    rw [List.take_succ_cons, List.mem_cons, or_iff_right apart, ih]
                    simp [apart]

theorem mem_scan (idle : Entry → Bool) (count : Nat) (pending : List Entry) (entry : Entry) :
    entry ∈ scan idle count pending ↔
      entry ∈ pending ∧ idle entry = true ∧ Reached idle count pending entry :=
  mem_filter_take idle (10 * count) count pending entry

omit [DecidableEq Entry] in
theorem mem_of_mem_scan {idle : Entry → Bool} {count : Nat} {pending : List Entry}
    {entry : Entry} (found : entry ∈ scan idle count pending) : entry ∈ pending :=
  List.mem_of_mem_take (List.mem_of_mem_filter (List.mem_of_mem_take found))

omit [DecidableEq Entry] in
theorem scan_map {Id : Type} (idle : Entry → Bool) (count : Nat) (read : Id → Entry)
    (pending : List Id) :
    scan idle count (pending.map read) =
      (scan (fun id => idle (read id)) count pending).map read := by
  simp only [scan, ← List.map_take, List.filter_map]
  rfl

end Scan

/-! ## What the commands keep -/

/-- Only entries of the stream wait or are pending, and none does both. -/
structure WellFormed (stream : StreamGroup Id Fields) : Prop where
  waiting : ∀ id ∈ stream.backlog, (stream.fields id).isSome
  delivered : ∀ id, (stream.pending id).isSome → (stream.fields id).isSome
  apart : ∀ id ∈ stream.backlog, stream.pending id = none
  distinct : stream.backlog.Nodup

omit [DecidableEq Id] in
theorem wellFormed_empty : (empty : StreamGroup Id Fields).WellFormed := by
  constructor <;> simp [empty]

omit [DecidableEq Id] in
theorem not_acknowledged_empty (id : Id) :
    ¬ (empty : StreamGroup Id Fields).Acknowledged id := by
  simp [empty, Acknowledged]

section Add
variable {stream after : StreamGroup Id Fields} {id : Id} {fields : Fields}

theorem add_cases (added : stream.add id fields = some after) :
    stream.fields id = none ∧ after = { stream with
      fields := Function.update stream.fields id (some fields)
      entries := stream.entries ++ [id]
      backlog := stream.backlog ++ [id] } := by
  unfold add at added
  split at added
  · cases added
  · rename_i absent
    exact ⟨by simpa using absent, (Option.some.inj added).symm⟩

theorem wellFormed_add (valid : stream.WellFormed)
    (added : stream.add id fields = some after) : after.WellFormed := by
  obtain ⟨fresh, rfl⟩ := add_cases added
  have notPending : stream.pending id = none := by
    by_contra pending
    have known := valid.delivered id (Option.isSome_iff_ne_none.mpr pending)
    simp [fresh] at known
  have notWaiting : id ∉ stream.backlog := by
    intro waiting
    have known := valid.waiting id waiting
    simp [fresh] at known
  constructor
  · intro other member
    by_cases same : other = id
    · simp [same]
    · have old : other ∈ stream.backlog := by simpa [same] using member
      simpa [same] using valid.waiting other old
  · intro other pending
    by_cases same : other = id
    · simp [same]
    · simpa [same] using valid.delivered other pending
  · intro other member
    rcases List.mem_append.mp member with old | new
    · exact valid.apart other old
    · rw [List.mem_singleton.mp new]
      exact notPending
  · rw [List.nodup_append]
    refine ⟨valid.distinct, List.nodup_singleton id, ?_⟩
    intro other old new member same
    exact notWaiting (List.mem_singleton.mp member ▸ same ▸ old)

theorem fields_add (added : stream.add id fields = some after) {other : Id}
    {value : Fields} (known : stream.fields other = some value) :
    after.fields other = some value := by
  obtain ⟨fresh, rfl⟩ := add_cases added
  have apart : other ≠ id := by
    intro same
    rw [same, fresh] at known
    cases known
  simpa [apart] using known

theorem acknowledged_add (added : stream.add id fields = some after)
    {other : Id} (acknowledged : after.Acknowledged other) :
    stream.Acknowledged other := by
  obtain ⟨-, rfl⟩ := add_cases added
  obtain ⟨known, notWaiting, notPending⟩ := acknowledged
  have apart : other ≠ id := by
    intro same
    exact notWaiting (by simp [same])
  refine ⟨by simpa [apart] using known, ?_, notPending⟩
  intro waiting
  exact notWaiting (by simp [waiting])

end Add

variable (stream : StreamGroup Id Fields)

theorem wellFormed_readGroup (valid : stream.WellFormed) (count : Nat) :
    (stream.readGroup count).2.WellFormed := by
  constructor
  · intro id member
    exact valid.waiting id (List.mem_of_mem_drop member)
  · intro id pending
    simp only [readGroup] at pending ⊢
    split at pending
    · rename_i taken
      exact valid.waiting id (List.mem_of_mem_take taken)
    · exact valid.delivered id pending
  · intro id member
    have notTaken : id ∉ stream.backlog.take count := by
      intro taken
      exact List.disjoint_take_drop valid.distinct (Nat.le_refl count) taken member
    simpa [readGroup, notTaken] using valid.apart id (List.mem_of_mem_drop member)
  · exact valid.distinct.sublist (List.drop_sublist count stream.backlog)

theorem acknowledged_readGroup (count : Nat) {id : Id}
    (acknowledged : (stream.readGroup count).2.Acknowledged id) :
    stream.Acknowledged id := by
  obtain ⟨known, notWaiting, notPending⟩ := acknowledged
  simp only [readGroup] at known notWaiting notPending
  split at notPending
  · cases notPending
  · rename_i notTaken
    refine ⟨known, ?_, notPending⟩
    intro waiting
    rw [← List.take_append_drop count stream.backlog] at waiting
    rcases List.mem_append.mp waiting with taken | dropped
    · exact notTaken taken
    · exact notWaiting dropped

theorem wellFormed_autoclaim (valid : stream.WellFormed) (ids : List Id) :
    (stream.autoclaim ids).2.WellFormed := by
  constructor
  · exact valid.waiting
  · intro id pending
    simp only [autoclaim] at pending ⊢
    split at pending
    · exact valid.delivered id (by simpa using pending)
    · exact valid.delivered id pending
  · intro id member
    simp only [autoclaim]
    split
    · simp [valid.apart id member]
    · exact valid.apart id member
  · exact valid.distinct

theorem acknowledged_autoclaim (ids : List Id) {id : Id}
    (acknowledged : (stream.autoclaim ids).2.Acknowledged id) :
    stream.Acknowledged id := by
  obtain ⟨known, notWaiting, notPending⟩ := acknowledged
  refine ⟨known, notWaiting, ?_⟩
  simp only [autoclaim] at notPending
  split at notPending
  · simpa using notPending
  · exact notPending

theorem wellFormed_ack (valid : stream.WellFormed) (id : Id) :
    (stream.ack id).WellFormed := by
  constructor
  · exact valid.waiting
  · intro other pending
    by_cases same : other = id
    · simp [ack, same] at pending
    · exact valid.delivered other (by simpa [ack, same] using pending)
  · intro other member
    by_cases same : other = id
    · simp [ack, same]
    · simpa [ack, same] using valid.apart other member
  · exact valid.distinct

/-- An acknowledgement reaches the one entry it names. -/
theorem acknowledged_ack (id : Id) {other : Id}
    (acknowledged : (stream.ack id).Acknowledged other) :
    other = id ∨ stream.Acknowledged other := by
  by_cases same : other = id
  · exact Or.inl same
  · obtain ⟨known, notWaiting, notPending⟩ := acknowledged
    exact Or.inr ⟨known, notWaiting, by simpa [ack, same] using notPending⟩

/-! ## What is read and what is acknowledged -/

section Delivered
variable {stream : StreamGroup Id Fields} {id : Id}

omit [DecidableEq Id] in
theorem WellFormed.delivered_of_pending (valid : stream.WellFormed)
    (pending : (stream.pending id).isSome) : stream.Delivered id := by
  refine ⟨valid.delivered id pending, ?_⟩
  intro waiting
  rw [valid.apart id waiting] at pending
  cases pending

theorem WellFormed.delivered_of_read (valid : stream.WellFormed) {count : Nat}
    (taken : id ∈ (stream.readGroup count).1) : (stream.readGroup count).2.Delivered id := by
  refine ⟨valid.waiting id (List.mem_of_mem_take taken), ?_⟩
  intro waiting
  exact List.disjoint_take_drop valid.distinct (Nat.le_refl count) taken waiting

end Delivered

/-- What every command respects. -/
structure Forward (before after : StreamGroup Id Fields) : Prop where
  fields : ∀ id value, before.fields id = some value → after.fields id = some value
  backlog : ∀ id, before.Delivered id → id ∉ after.backlog
  acknowledged : ∀ id, before.Acknowledged id → after.pending id = none

section Forward
variable {before after : StreamGroup Id Fields} (kept : before.Forward after) {id : Id}
include kept

omit [DecidableEq Id] in
theorem Delivered.forward (delivered : before.Delivered id) : after.Delivered id := by
  obtain ⟨value, known⟩ := Option.isSome_iff_exists.mp delivered.1
  refine ⟨?_, kept.backlog id delivered⟩
  rw [kept.fields id value known]
  rfl

omit [DecidableEq Id] in
theorem Acknowledged.forward (acknowledged : before.Acknowledged id) :
    after.Acknowledged id := by
  have delivered : before.Delivered id := ⟨acknowledged.1, acknowledged.2.1⟩
  obtain ⟨known, notWaiting⟩ := delivered.forward kept
  exact ⟨known, notWaiting, kept.acknowledged id acknowledged⟩

end Forward

omit [DecidableEq Id] in
theorem forward_refl : stream.Forward stream :=
  ⟨fun _ _ known => known, fun _ delivered => delivered.2,
    fun _ acknowledged => acknowledged.2.2⟩

theorem forward_add {after : StreamGroup Id Fields} {id : Id} {fields : Fields}
    (added : stream.add id fields = some after) : stream.Forward after where
  fields := fun _ _ known => fields_add added known
  backlog := by
    intro other delivered waiting
    obtain ⟨fresh, rfl⟩ := add_cases added
    rcases List.mem_append.mp waiting with old | new
    · exact delivered.2 old
    · have known := delivered.1
      rw [List.mem_singleton.mp new, fresh] at known
      cases known
  acknowledged := by
    intro other acknowledged
    obtain ⟨-, rfl⟩ := add_cases added
    exact acknowledged.2.2

theorem forward_readGroup (count : Nat) : stream.Forward (stream.readGroup count).2 where
  fields := fun _ _ known => known
  backlog := fun _ delivered waiting => delivered.2 (List.mem_of_mem_drop waiting)
  acknowledged := by
    intro id acknowledged
    have notTaken : id ∉ stream.backlog.take count :=
      fun taken => acknowledged.2.1 (List.mem_of_mem_take taken)
    simpa [readGroup, notTaken] using acknowledged.2.2

theorem forward_autoclaim (ids : List Id) : stream.Forward (stream.autoclaim ids).2 where
  fields := fun _ _ known => known
  backlog := fun _ delivered => delivered.2
  acknowledged := by
    intro id acknowledged
    simp [autoclaim, acknowledged.2.2]

theorem forward_ack (id : Id) : stream.Forward (stream.ack id) where
  fields := fun _ _ known => known
  backlog := fun _ delivered => delivered.2
  acknowledged := by
    intro other acknowledged
    by_cases same : other = id
    · simp [ack, same]
    · simpa [ack, same] using acknowledged.2.2

/-! ## Commands that acknowledge nothing -/

/-- What every command but an acknowledgement respects. -/
structure Extends (before after : StreamGroup Id Fields) : Prop where
  fields : ∀ id value, before.fields id = some value → after.fields id = some value
  pending : ∀ id, (before.pending id).isSome → (after.pending id).isSome
  acknowledged : ∀ id, after.Acknowledged id → before.Acknowledged id
  wellFormed : before.WellFormed → after.WellFormed

omit [DecidableEq Id] in
theorem extends_refl : stream.Extends stream :=
  ⟨fun _ _ known => known, fun _ pending => pending, fun _ acknowledged => acknowledged,
    fun valid => valid⟩

theorem extends_add {after : StreamGroup Id Fields} {id : Id} {fields : Fields}
    (added : stream.add id fields = some after) : stream.Extends after where
  fields := fun _ _ known => fields_add added known
  pending := by
    intro other pending
    obtain ⟨-, rfl⟩ := add_cases added
    exact pending
  acknowledged := fun _ acknowledged => acknowledged_add added acknowledged
  wellFormed := fun valid => wellFormed_add valid added

theorem extends_readGroup (count : Nat) : stream.Extends (stream.readGroup count).2 where
  fields := fun _ _ known => known
  pending := by
    intro id pending
    simp only [readGroup]
    split
    · rfl
    · exact pending
  acknowledged := fun _ acknowledged => stream.acknowledged_readGroup count acknowledged
  wellFormed := fun valid => stream.wellFormed_readGroup valid count

theorem extends_autoclaim (ids : List Id) : stream.Extends (stream.autoclaim ids).2 where
  fields := fun _ _ known => known
  pending := by
    intro id pending
    simp only [autoclaim]
    split
    · simpa using pending
    · exact pending
  acknowledged := fun _ acknowledged => stream.acknowledged_autoclaim ids acknowledged
  wellFormed := fun valid => stream.wellFormed_autoclaim valid ids

end StreamGroup

end WealthFinder
