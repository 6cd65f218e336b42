import Mathlib.Logic.Function.Basic
import Mathlib.Logic.Relation
import Mathlib.Data.List.Basic
import Mathlib.Data.List.Pairwise

/-!
# Labelled machines, their traces and their past

A machine is an initial-state predicate and an executable partial step.  A
trace keeps the states the run has left behind, newest first, so that "at that
time or earlier" is an ordinary predicate (`Once`) of a trace.  The step and
run rules below are the only inductions over runs that the models need.
-/

set_option autoImplicit false

namespace WealthFinder

universe u v w

structure Machine (State : Type u) (Action : Type v) where
  init : State → Prop
  step : State → Action → Option State

namespace Machine

variable {State : Type u} {Action : Type v}

/-- Runs from an initial state in which every action satisfies `allowed` in the
state it is taken from.  `past` holds the states left behind, newest first. -/
inductive Trace (machine : Machine State Action)
    (allowed : State → Action → Prop) : List State → State → Prop where
  | start {state : State} (initial : machine.init state) :
      Trace machine allowed [] state
  | next {past : List State} {state after : State} (action : Action)
      (before : Trace machine allowed past state)
      (permitted : allowed state action)
      (moved : machine.step state action = some after) :
      Trace machine allowed (state :: past) after

/-- The condition of a run whose actions are not restricted. -/
def anyAction : State → Action → Prop := fun _ _ => True

/-- `property` holds now or held in an earlier state of the run. -/
def Once (property : State → Prop) (past : List State) (state : State) : Prop :=
  property state ∨ ∃ earlier ∈ past, property earlier

theorem Once.now {property : State → Prop} {past : List State} {state : State}
    (holds : property state) : Once property past state :=
  Or.inl holds

theorem Once.later {property : State → Prop} {past : List State}
    {state after : State} (once : Once property past state) :
    Once property (state :: past) after := by
  rcases once with holds | ⟨earlier, member, holds⟩
  · exact Or.inr ⟨state, List.mem_cons_self, holds⟩
  · exact Or.inr ⟨earlier, List.mem_cons_of_mem state member, holds⟩

theorem Once.imp {property other : State → Prop} {past : List State}
    {state : State} (weaken : ∀ s, property s → other s)
    (once : Once property past state) : Once other past state := by
  rcases once with holds | ⟨earlier, member, holds⟩
  · exact Or.inl (weaken state holds)
  · exact Or.inr ⟨earlier, member, weaken earlier holds⟩

variable {machine : Machine State Action} {allowed : State → Action → Prop}

namespace Trace

/-- The invariant rule for predicates of the state and its past. -/
theorem history_invariant {invariant : List State → State → Prop}
    (initially : ∀ state, machine.init state → invariant [] state)
    (preserved : ∀ past state action after,
      Trace machine allowed past state → invariant past state →
      allowed state action → machine.step state action = some after →
      invariant (state :: past) after)
    {past : List State} {state : State}
    (trace : Trace machine allowed past state) : invariant past state := by
  induction trace with
  | start initial => exact initially _ initial
  | next action before permitted moved held =>
      exact preserved _ _ action _ before held permitted moved

/-- The invariant rule for predicates of the state alone. -/
theorem invariant {property : State → Prop}
    (initially : ∀ state, machine.init state → property state)
    (preserved : ∀ state action after, property state →
      allowed state action → machine.step state action = some after →
      property after)
    {past : List State} {state : State}
    (trace : Trace machine allowed past state) : property state :=
  @history_invariant _ _ _ _ (fun _ state => property state) initially
    (fun _ state action after _ held permitted moved =>
      preserved state action after held permitted moved) _ _ trace

theorem weaken {weaker : State → Action → Prop}
    (relax : ∀ state action, allowed state action → weaker state action)
    {past : List State} {state : State}
    (trace : Trace machine allowed past state) :
    Trace machine weaker past state := by
  induction trace with
  | start initial => exact start initial
  | next action before permitted moved held =>
      exact next action held (relax _ _ permitted) moved

/-- Every state left behind ends a trace of its own. -/
theorem of_mem_past {past : List State} {state : State}
    (trace : Trace machine allowed past state) {earlier : State}
    (member : earlier ∈ past) : ∃ before, Trace machine allowed before earlier := by
  induction trace with
  | start initial => cases member
  | next action before permitted moved held =>
      rcases List.mem_cons.mp member with same | member
      · subst same
        exact ⟨_, before⟩
      · exact held member

/-- A transitive relation that every step respects relates every earlier state
to the present one. -/
theorem relates_past {related : State → State → Prop}
    (transitive : ∀ a b c, related a b → related b c → related a c)
    (stepwise : ∀ past state action after,
      Trace machine allowed past state → allowed state action →
      machine.step state action = some after → related state after)
    {past : List State} {state : State}
    (trace : Trace machine allowed past state) :
    ∀ earlier ∈ past, related earlier state := by
  induction trace with
  | start initial =>
      intro earlier member
      cases member
  | @next past state after action before permitted moved held =>
      intro earlier member
      have advanced := stepwise past state action after before permitted moved
      rcases List.mem_cons.mp member with same | member
      · exact same ▸ advanced
      · exact transitive _ _ _ (held earlier member) advanced

/-- Such a relation orders all the states of the run. -/
theorem pairwise {related : State → State → Prop}
    (transitive : ∀ a b c, related a b → related b c → related a c)
    (stepwise : ∀ past state action after,
      Trace machine allowed past state → allowed state action →
      machine.step state action = some after → related state after)
    {past : List State} {state : State}
    (trace : Trace machine allowed past state) :
    (state :: past).Pairwise fun later earlier => related earlier later := by
  induction trace with
  | start initial => exact List.pairwise_singleton _ _
  | next action before permitted moved held =>
      rw [List.pairwise_cons]
      exact ⟨(before.next action permitted moved).relates_past transitive stepwise, held⟩

/-- What holds of every step holds between each state of the run and the next. -/
theorem consecutive {related : State → State → Prop}
    (stepwise : ∀ past state action after,
      Trace machine allowed past state → allowed state action →
      machine.step state action = some after → related state after)
    {past : List State} {state : State}
    (trace : Trace machine allowed past state) :
    (state :: past).IsChain fun later earlier => related earlier later := by
  induction trace with
  | start initial => exact .singleton _
  | next action before permitted moved held =>
      exact List.isChain_cons_cons.mpr ⟨stepwise _ _ action _ before permitted moved, held⟩

end Trace

/-! ## Stretches of a run -/

/-- Some permitted actions lead from one state to the other. -/
def Reaches (machine : Machine State Action) (allowed : State → Action → Prop) :
    State → State → Prop :=
  Relation.ReflTransGen fun state after =>
    ∃ action, allowed state action ∧ machine.step state action = some after

theorem Reaches.invariant {property : State → Prop}
    (preserved : ∀ state action after, property state → allowed state action →
      machine.step state action = some after → property after)
    {start final : State} (reaches : Reaches machine allowed start final)
    (holds : property start) : property final := by
  induction reaches with
  | refl => exact holds
  | tail _ moved held =>
      obtain ⟨action, permitted, moved⟩ := moved
      exact preserved _ action _ held permitted moved

theorem Trace.extend {stricter : State → Action → Prop}
    (relax : ∀ state action, stricter state action → allowed state action)
    {past : List State} {state final : State} (trace : Trace machine allowed past state)
    (reaches : Reaches machine stricter state final) :
    ∃ history, Trace machine allowed history final := by
  induction reaches with
  | refl => exact ⟨past, trace⟩
  | tail _ moved held =>
      obtain ⟨history, before⟩ := held
      obtain ⟨action, permitted, moved⟩ := moved
      exact ⟨_, before.next action (relax _ _ permitted) moved⟩

/-! ## Executable runs -/

/-- Take the actions in order, refusing an action that `check` rejects. -/
def run (machine : Machine State Action) (check : State → Action → Bool) :
    State → List Action → Option State
  | state, [] => some state
  | state, action :: rest =>
      if check state action then
        match machine.step state action with
        | none => none
        | some after => run machine check after rest
      else none

theorem Reaches.of_run {check : State → Action → Bool}
    (sound : ∀ state action, check state action = true → allowed state action)
    {state final : State} (actions : List Action)
    (ran : machine.run check state actions = some final) :
    Reaches machine allowed state final := by
  induction actions generalizing state with
  | nil =>
      simp only [run, Option.some.injEq] at ran
      rw [ran]
      exact Relation.ReflTransGen.refl
  | cons action rest ih =>
      simp only [run] at ran
      split at ran
      · rename_i checked
        split at ran
        · cases ran
        · rename_i after moved
          exact (ih ran).head ⟨action, sound state action checked, moved⟩
      · cases ran

theorem Trace.extend_run {check : State → Action → Bool}
    (sound : ∀ past state action, Trace machine allowed past state →
      check state action = true → allowed state action)
    {past : List State} {state final : State} (actions : List Action)
    (trace : Trace machine allowed past state)
    (ran : machine.run check state actions = some final) :
    ∃ history, Trace machine allowed history final := by
  induction actions generalizing past state with
  | nil =>
      simp only [run, Option.some.injEq] at ran
      exact ⟨past, ran ▸ trace⟩
  | cons action rest ih =>
      simp only [run] at ran
      split at ran
      · rename_i checked
        split at ran
        · cases ran
        · rename_i after moved
          exact ih (trace.next action (sound past state action trace checked) moved) ran
      · cases ran

/-- An executed run whose final state passes `test` is a trace to such a
state.  The check may rely on what every trace so far guarantees. -/
theorem Trace.of_run (machine : Machine State Action) (check : State → Action → Bool)
    (test : State → Bool)
    (sound : ∀ past state action, Trace machine allowed past state →
      check state action = true → allowed state action)
    {state : State} (initial : machine.init state) (actions : List Action)
    (ran : (machine.run check state actions).any test = true) :
    ∃ history final, Trace machine allowed history final ∧ test final = true := by
  cases found : machine.run check state actions with
  | none => simp [found] at ran
  | some final =>
      obtain ⟨history, trace⟩ :=
        Trace.extend_run sound actions (Trace.start initial) found
      exact ⟨history, final, trace, by simpa [found] using ran⟩

/-- The same for whatever is seen of the final state. -/
theorem Trace.of_run_view {View : Type w} (machine : Machine State Action)
    (check : State → Action → Bool) (view : State → View) (value : View)
    (sound : ∀ past state action, Trace machine allowed past state →
      check state action = true → allowed state action)
    {state : State} (initial : machine.init state) (actions : List Action)
    (ran : (machine.run check state actions).map view = some value) :
    ∃ history final, Trace machine allowed history final ∧ view final = value := by
  obtain ⟨final, found, seen⟩ := Option.map_eq_some_iff.mp ran
  obtain ⟨history, trace⟩ := Trace.extend_run sound actions (Trace.start initial) found
  exact ⟨history, final, trace, seen⟩

/-- Without a restriction on the actions nothing is checked. -/
theorem Trace.of_free_run (machine : Machine State Action) (test : State → Bool)
    {state : State} (initial : machine.init state) (actions : List Action)
    (ran : (machine.run (fun _ _ => true) state actions).any test = true) :
    ∃ history final, Trace machine anyAction history final ∧ test final = true :=
  Trace.of_run machine _ test (fun _ _ _ _ _ => trivial) initial actions ran

end Machine

end WealthFinder
