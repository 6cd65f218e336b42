import Mathlib.Logic.Function.Basic

/-!
# In-flight guards

A guard marks the ids that are being worked on, so that a second request for one is
turned away.  It does its duty when each marked id has exactly one unit of work, at one
of the places where units wait or run, and each other id has none.  The rules below
are for a step that begins a unit, hands it on or ends it.
-/

set_option autoImplicit false

namespace WealthFinder

universe u v

variable {Id : Type u} {Place : Type v}

/-- `units id place` is how many units of `id` are at `place`. -/
def InFlight (marked : Id → Bool) (units : Id → Place → Nat) : Prop :=
  ∀ id, (marked id = false ∧ ∀ place, units id place = 0) ∨
    (marked id = true ∧ ∃ place, units id place = 1 ∧
      ∀ other, other ≠ place → units id other = 0)

/-- The units are where they were, apart from those of `id` at the places that
`moves` picks. -/
def SameUnitsBut (units later : Id → Place → Nat) (id : Id) (moves : Place → Prop) : Prop :=
  ∀ other place, (other ≠ id ∨ ¬ moves place) → later other place = units other place

namespace InFlight

theorem empty : InFlight (fun _ : Id => false) (fun _ (_ : Place) => 0) :=
  fun _ => Or.inl ⟨rfl, fun _ => rfl⟩

variable {marked : Id → Bool} {units later : Id → Place → Nat}

theorem marked_iff (guard : InFlight marked units) (id : Id) :
    marked id = true ↔ ∃ place, 0 < units id place := by
  rcases guard id with ⟨unmarked, none⟩ | ⟨isMarked, place, one, -⟩
  · refine ⟨fun isMarked => absurd (unmarked.symm.trans isMarked) (by decide), ?_⟩
    rintro ⟨place, positive⟩
    rw [none place] at positive
    cases positive
  · exact ⟨fun _ => ⟨place, one ▸ Nat.one_pos⟩, fun _ => isMarked⟩

theorem unmarked_none (guard : InFlight marked units) {id : Id} (unmarked : marked id = false)
    (place : Place) : units id place = 0 := by
  rcases guard id with ⟨-, none⟩ | ⟨isMarked, -⟩
  · exact none place
  · exact absurd (unmarked.symm.trans isMarked) (by decide)

theorem unique (guard : InFlight marked units) {id : Id} {first second : Place}
    (atFirst : 0 < units id first) (atSecond : 0 < units id second) : first = second := by
  rcases guard id with ⟨-, none⟩ | ⟨-, place, -, others⟩
  · rw [none first] at atFirst
    cases atFirst
  · have onlyPlace (here : Place) (positive : 0 < units id here) : here = place := by
      by_contra apart
      rw [others here apart] at positive
      cases positive
    rw [onlyPlace first atFirst, onlyPlace second atSecond]

theorem atMostOne (guard : InFlight marked units) (id : Id) (place : Place) :
    units id place ≤ 1 := by
  rcases guard id with ⟨-, none⟩ | ⟨-, its, one, others⟩
  · rw [none place]
    exact Nat.zero_le 1
  · by_cases same : place = its
    · exact same ▸ Nat.le_of_eq one
    · rw [others place same]
      exact Nat.zero_le 1

theorem same (guard : InFlight marked units)
    (units_eq : ∀ id place, later id place = units id place) : InFlight marked later := by
  have equal : later = units := by
    funext id place
    exact units_eq id place
  exact equal ▸ guard

variable [DecidableEq Id] (id : Id) (place next : Place)

theorem start (guard : InFlight marked units) (unmarked : marked id = false)
    (others : SameUnitsBut units later id (· = place))
    (begun : later id place = units id place + 1) :
    InFlight (Function.update marked id true) later := by
  intro other
  by_cases same : other = id
  · subst same
    refine Or.inr ⟨Function.update_self .., place, ?_, ?_⟩
    · rw [begun, guard.unmarked_none unmarked]
    · intro elsewhere apart
      rw [others other elsewhere (Or.inr apart), guard.unmarked_none unmarked]
  · rw [Function.update_of_ne same]
    simpa only [others other _ (Or.inl same)] using guard other

theorem finish (guard : InFlight marked units) (was : 0 < units id place)
    (others : SameUnitsBut units later id (· = place)) (gone : later id place = 0) :
    InFlight (Function.update marked id false) later := by
  intro other
  by_cases same : other = id
  · subst same
    refine Or.inl ⟨Function.update_self .., ?_⟩
    intro elsewhere
    by_cases here : elsewhere = place
    · exact here ▸ gone
    · rw [others other elsewhere (Or.inr here)]
      by_contra positive
      exact here (guard.unique (Nat.pos_of_ne_zero positive) was)
  · rw [Function.update_of_ne same]
    simpa only [others other _ (Or.inl same)] using guard other

omit [DecidableEq Id] in
/-- The unit at `place` goes on at `next`. -/
theorem handOn (guard : InFlight marked units) (was : 0 < units id place)
    (apart : next ≠ place)
    (others : SameUnitsBut units later id fun here => here = place ∨ here = next)
    (left : later id place = 0) (arrived : later id next = units id next + 1) :
    InFlight marked later := by
  intro other
  by_cases same : other = id
  · subst same
    have isMarked := (guard.marked_iff other).mpr ⟨place, was⟩
    have absent (here : Place) (elsewhere : here ≠ place) : units other here = 0 := by
      by_contra positive
      exact elsewhere (guard.unique (Nat.pos_of_ne_zero positive) was)
    refine Or.inr ⟨isMarked, next, ?_, ?_⟩
    · rw [arrived, absent next apart]
    · intro here elsewhere
      by_cases was' : here = place
      · exact was' ▸ left
      · rw [others other here (Or.inr (not_or.mpr ⟨was', elsewhere⟩)), absent here was']
  · simpa only [others other _ (Or.inl same)] using guard other

end InFlight

end WealthFinder
