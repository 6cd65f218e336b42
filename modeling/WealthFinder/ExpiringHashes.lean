import Mathlib.Logic.Function.Basic
import Mathlib.Data.List.Nodup

/-!
# Hashes that expire

A store of hashes under keys, each with a deadline from which no command sees it any
more: the hash commands of a key-value server.
-/

set_option autoImplicit false

namespace WealthFinder

universe u v w

/-- The fields, newest first, and the last millisecond of the hash. -/
structure ExpiringHash (Field : Type v) (Value : Type w) where
  fields : List (Field × Value)
  deadline : Option Nat

/-- `clock` counts milliseconds. -/
structure HashStore (Key : Type u) (Field : Type v) (Value : Type w) where
  hashes : Key → Option (ExpiringHash Field Value)
  clock : Nat

namespace HashStore
variable {Key : Type u} {Field : Type v} {Value : Type w} [DecidableEq Key] [DecidableEq Field]

def empty : HashStore Key Field Value := ⟨fun _ => none, 0⟩

/-- The hash at a key that a command finds. -/
def live (store : HashStore Key Field Value) (key : Key) : Option (ExpiringHash Field Value) :=
  (store.hashes key).filter fun hash => hash.deadline.all fun deadline => store.clock ≤ deadline

def setField (fields : List (Field × Value)) (field : Field × Value) : List (Field × Value) :=
  field :: fields.filter fun other => other.1 ≠ field.1

def setFields (fields mapping : List (Field × Value)) : List (Field × Value) :=
  mapping.foldl setField fields

def getField (fields : List (Field × Value)) (name : Field) : Option Value := fields.lookup name

def hset (store : HashStore Key Field Value) (key : Key) (mapping : List (Field × Value)) :
    HashStore Key Field Value :=
  let hash : ExpiringHash Field Value := (store.live key).getD ⟨[], none⟩
  { store with
    hashes := Function.update store.hashes key
      (some { hash with fields := setFields hash.fields mapping }) }

def expire (store : HashStore Key Field Value) (key : Key) (seconds : Int) :
    HashStore Key Field Value :=
  match store.live key with
  | none => store
  | some hash => { store with
      hashes := Function.update store.hashes key
        (if seconds ≤ 0 then none
          else some { hash with deadline := some (store.clock + seconds.toNat * 1000) }) }

def hgetall (store : HashStore Key Field Value) (key : Key) : List (Field × Value) :=
  match store.live key with
  | none => []
  | some hash => hash.fields

def wait (store : HashStore Key Field Value) (elapsed : Nat) : HashStore Key Field Value :=
  { store with clock := store.clock + elapsed }

/-! ## Fields -/

omit [DecidableEq Key] in
theorem getField_setField_ne {fields : List (Field × Value)} {field : Field × Value} {name : Field}
    (other : name ≠ field.1) :
    getField (setField fields field) name = getField fields name := by
  have head : (name == field.1) = false := beq_eq_false_iff_ne.mpr other
  unfold getField
  rw [setField, List.lookup_cons, head]
  induction fields with
  | nil => rfl
  | cons first fields ih =>
      rw [List.filter_cons]
      by_cases replaced : first.1 = field.1
      · have apart : (name == first.1) = false := by rw [replaced, head]
        rw [if_neg (by simp [replaced]), List.lookup_cons, apart]
        exact ih
      · rw [if_pos (by simp [replaced]), List.lookup_cons, List.lookup_cons]
        cases name == first.1 with
        | true => rfl
        | false => exact ih

theorem getField_setFields_of_notMem (mapping : List (Field × Value)) {name : Field}
    (absent : name ∉ mapping.map Prod.fst) (fields : List (Field × Value)) :
    getField (setFields fields mapping) name = getField fields name := by
  induction mapping generalizing fields with
  | nil => rfl
  | cons field mapping ih =>
      rw [List.map_cons, List.mem_cons, not_or] at absent
      rw [setFields, List.foldl_cons]
      exact (ih absent.2 _).trans (getField_setField_ne absent.1)

/-- What is set is found, whatever the hash held. -/
theorem getField_setFields {mapping : List (Field × Value)}
    (distinct : (mapping.map Prod.fst).Nodup) {name : Field} {value : Value}
    (among : (name, value) ∈ mapping) (fields : List (Field × Value)) :
    getField (setFields fields mapping) name = some value := by
  induction mapping generalizing fields with
  | nil => cases among
  | cons field mapping ih =>
      rw [List.map_cons, List.nodup_cons] at distinct
      rw [setFields, List.foldl_cons]
      rcases List.mem_cons.mp among with rfl | later
      · refine (getField_setFields_of_notMem mapping distinct.1 _).trans ?_
        exact List.lookup_cons_self
      · exact ih distinct.2 later _

theorem setFields_ne_nil {mapping : List (Field × Value)} (some : mapping ≠ [])
    (fields : List (Field × Value)) : setFields fields mapping ≠ [] := by
  induction mapping generalizing fields with
  | nil => exact absurd rfl some
  | cons field mapping ih =>
      rw [setFields, List.foldl_cons]
      by_cases last : mapping = []
      · rw [last]
        exact List.cons_ne_nil _ _
      · exact ih last _

/-! ## What is live -/

omit [DecidableEq Key] [DecidableEq Field] in
theorem live_eq_some {store : HashStore Key Field Value} {key : Key}
    {hash : ExpiringHash Field Value} :
    store.live key = some hash ↔
      store.hashes key = some hash ∧ ∀ deadline ∈ hash.deadline, store.clock ≤ deadline := by
  simp [live, Option.filter_eq_some_iff, Option.all_eq_true]

theorem live_hset_same (store : HashStore Key Field Value) (key : Key)
    (mapping : List (Field × Value)) :
    ∃ fields deadline, (store.hset key mapping).live key =
      some ⟨setFields fields mapping, deadline⟩ := by
  refine ⟨((store.live key).getD ⟨[], none⟩).fields, ((store.live key).getD ⟨[], none⟩).deadline, ?_⟩
  rw [live_eq_some]
  refine ⟨Function.update_self _ _ _, ?_⟩
  intro deadline is
  cases held : store.live key with
  | none =>
      rw [held] at is
      cases is
  | some hash =>
      rw [held] at is
      exact (live_eq_some.mp held).2 deadline is

omit [DecidableEq Field] in
theorem live_update_ne (store : HashStore Key Field Value) {key other : Key} (apart : other ≠ key)
    (hash : Option (ExpiringHash Field Value)) :
    ({ store with hashes := Function.update store.hashes key hash } :
      HashStore Key Field Value).live other = store.live other := by
  dsimp only [live]
  rw [Function.update_of_ne apart]

theorem live_hset_ne (store : HashStore Key Field Value) {key other : Key} (apart : other ≠ key)
    (mapping : List (Field × Value)) : (store.hset key mapping).live other = store.live other :=
  live_update_ne store apart _

omit [DecidableEq Field] in
theorem live_expire_ne (store : HashStore Key Field Value) {key other : Key} (apart : other ≠ key)
    (seconds : Int) : (store.expire key seconds).live other = store.live other := by
  unfold expire
  cases store.live key with
  | none => rfl
  | some hash => exact live_update_ne store apart _

omit [DecidableEq Field] in
theorem live_expire_same {store : HashStore Key Field Value} {key : Key}
    {hash : ExpiringHash Field Value} (found : store.live key = some hash) (seconds : Int) :
    (store.expire key seconds).live key =
      if seconds ≤ 0 then none
      else some { hash with deadline := some (store.clock + seconds.toNat * 1000) } := by
  simp only [expire, found]
  dsimp only [live]
  rw [Function.update_self]
  by_cases past : seconds ≤ 0
  · rw [if_pos past]
    rfl
  · rw [if_neg past]
    simp

omit [DecidableEq Field] in
theorem clock_expire (store : HashStore Key Field Value) (key : Key) (seconds : Int) :
    (store.expire key seconds).clock = store.clock := by
  unfold expire
  cases store.live key with
  | none => rfl
  | some hash => rfl

omit [DecidableEq Key] [DecidableEq Field] in
/-- Waiting only takes hashes away. -/
theorem live_wait {store : HashStore Key Field Value} {key : Key}
    {hash : ExpiringHash Field Value} {elapsed : Nat} :
    (store.wait elapsed).live key = some hash ↔
      store.live key = some hash ∧
        ∀ deadline ∈ hash.deadline, store.clock + elapsed ≤ deadline := by
  rw [live_eq_some, live_eq_some]
  constructor
  · intro after
    refine ⟨⟨after.1, ?_⟩, after.2⟩
    intro deadline is
    exact Nat.le_trans (Nat.le_add_right _ _) (after.2 deadline is)
  · intro before
    exact ⟨before.1.1, before.2⟩

omit [DecidableEq Key] [DecidableEq Field] in
theorem live_wait_none {store : HashStore Key Field Value} {key : Key}
    (gone : store.live key = none) (elapsed : Nat) : (store.wait elapsed).live key = none := by
  cases after : (store.wait elapsed).live key with
  | none => rfl
  | some hash =>
      have waited := (live_wait.mp after).1
      rw [gone] at waited
      cases waited

end HashStore

end WealthFinder
