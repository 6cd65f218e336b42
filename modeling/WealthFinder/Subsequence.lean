import Mathlib.Data.List.Basic
import Mathlib.Order.Bounds.Basic

/-!
# The shortest prefix that holds a subsequence

A scan from the left takes every element that `short` waits for.  Taking it at once is
never worse than waiting, so the scan ends where the shortest prefix with `short` as a
subsequence ends.  Reversed, it starts where the shortest suffix does.
-/

set_option autoImplicit false

namespace WealthFinder

variable {α : Type} [DecidableEq α]

/-- What a scan still waits for after the element `c`. -/
def waitingAfter (s : α) (short : List α) (c : α) : List α :=
  if c = s then short else s :: short

/-- The length of the shortest prefix of a list that holds `short`. -/
def shortestHolding : List α → List α → Option Nat
  | [], _ => some 0
  | _ :: _, [] => none
  | s :: short, c :: long => (shortestHolding (waitingAfter s short c) long).map (· + 1)

/-- An element that is waited for may be taken at once. -/
theorem sublist_cons_iff_waiting (s : α) (short : List α) (c : α) (long : List α) :
    (s :: short).Sublist (c :: long) ↔ (waitingAfter s short c).Sublist long := by
  unfold waitingAfter
  split
  · rename_i same
    subst same
    exact List.cons_sublist_cons
  · rename_i apart
    rw [List.cons_sublist_cons', or_iff_left]
    intro given
    exact apart given.1.symm

theorem shortestHolding_eq_none {short long : List α} :
    shortestHolding short long = none ↔ ¬ short.Sublist long := by
  induction long generalizing short with
  | nil =>
      cases short with
      | nil => simp [shortestHolding]
      | cons s short => simp [shortestHolding]
  | cons c long ih =>
      cases short with
      | nil => simp [shortestHolding]
      | cons s short =>
          rw [shortestHolding, Option.map_eq_none_iff, ih, sublist_cons_iff_waiting]

theorem shortestHolding_le {short long : List α} {count : Nat}
    (found : shortestHolding short long = some count) : count ≤ long.length := by
  induction long generalizing short count with
  | nil =>
      cases short with
      | nil =>
          rw [shortestHolding] at found
          cases found
          exact Nat.le_refl 0
      | cons s short => simp [shortestHolding] at found
  | cons c long ih =>
      cases short with
      | nil =>
          rw [shortestHolding] at found
          cases found
          exact Nat.zero_le _
      | cons s short =>
          rw [shortestHolding, Option.map_eq_some_iff] at found
          obtain ⟨fewer, foundLater, rfl⟩ := found
          have within := ih foundLater
          rw [List.length_cons]
          omega

/-- A prefix holds `short` exactly when it is as long as the scan. -/
theorem sublist_take_iff {short long : List α} {count : Nat}
    (found : shortestHolding short long = some count) (n : Nat) :
    short.Sublist (long.take n) ↔ count ≤ n := by
  induction long generalizing short count n with
  | nil =>
      cases short with
      | nil =>
          rw [shortestHolding] at found
          cases found
          simp
      | cons s short => simp [shortestHolding] at found
  | cons c long ih =>
      cases short with
      | nil =>
          rw [shortestHolding] at found
          cases found
          simp
      | cons s short =>
          rw [shortestHolding, Option.map_eq_some_iff] at found
          obtain ⟨fewer, foundLater, rfl⟩ := found
          cases n with
          | zero => simp
          | succ n =>
              rw [List.take_succ_cons, sublist_cons_iff_waiting, ih foundLater]
              omega

theorem shortestHolding_isLeast {short long : List α} {count : Nat}
    (found : shortestHolding short long = some count) :
    IsLeast {n | short.Sublist (long.take n)} count := by
  refine ⟨(sublist_take_iff found count).mpr (Nat.le_refl count), ?_⟩
  intro n holds
  exact (sublist_take_iff found n).mp holds

theorem shortestHolding_pos {short long : List α} {count : Nat} (nonempty : short ≠ [])
    (found : shortestHolding short long = some count) : 0 < count := by
  have holds := (sublist_take_iff found count).mpr (Nat.le_refl count)
  by_contra notPositive
  have zero : count = 0 := by omega
  rw [zero, List.take_zero, List.sublist_nil] at holds
  exact nonempty holds

/-- The same scan from the right finds the greatest place from which the rest holds `short`. -/
theorem shortestHolding_reverse_isGreatest {short long : List α} {count : Nat}
    (nonempty : short ≠ []) (found : shortestHolding short.reverse long.reverse = some count) :
    IsGreatest {place | short.Sublist (long.drop place)} (long.length - count) := by
  have within : count ≤ long.length := by
    have within := shortestHolding_le found
    rwa [List.length_reverse] at within
  have holds_iff : ∀ place, short.Sublist (long.drop place) ↔ count ≤ long.length - place := by
    intro place
    rw [← List.reverse_sublist, List.reverse_drop]
    exact sublist_take_iff found _
  refine ⟨(holds_iff _).mpr (by omega), ?_⟩
  intro place holds
  have room := (holds_iff place).mp holds
  have positive := shortestHolding_pos (by simpa using nonempty) found
  omega

end WealthFinder
