import WealthFinder.Machine

/-!
# Runs that come to an end

A machine each of whose steps lowers a number has bounded runs only.  If it can also take
a step as long as it is not finished, it can always be brought to its end.
-/

set_option autoImplicit false

namespace WealthFinder.Machine

universe u v

variable {State : Type u} {Action : Type v} {machine : Machine State Action}
  {allowed : State → Action → Prop}

/-- Each permitted step from a state with the property lowers the variant. -/
def Lowers (machine : Machine State Action) (allowed : State → Action → Prop)
    (property : State → Prop) (variant : State → Nat) : Prop :=
  ∀ state action after, property state → allowed state action →
    machine.step state action = some after → variant after < variant state

/-- A run takes no more steps than the variant of its first state counts. -/
theorem Trace.length_le {property : State → Prop} {variant : State → Nat} {bound : Nat}
    (lowers : Lowers machine allowed property variant)
    (starts : ∀ state, machine.init state → variant state ≤ bound)
    (holds : ∀ past state, Trace machine allowed past state → property state)
    {past : List State} {state : State} (trace : Trace machine allowed past state) :
    past.length + variant state ≤ bound := by
  induction trace with
  | start initial =>
      have first := starts _ initial
      simpa using first
  | next action before permitted moved ih =>
      have less := lowers _ action _ (holds _ _ before) permitted moved
      simp only [List.length_cons]
      omega

/-- Where each unfinished state has a step, a finished one can be reached. -/
theorem reaches_finished {property finished : State → Prop} {variant : State → Nat}
    (lowers : Lowers machine allowed property variant)
    (preserved : ∀ state action after, property state → allowed state action →
      machine.step state action = some after → property after)
    (progress : ∀ state, property state → ¬ finished state →
      ∃ action after, allowed state action ∧ machine.step state action = some after)
    {state : State} (holds : property state) :
    ∃ final, Reaches machine allowed state final ∧ finished final := by
  -- the induction is on the variant
  induction count : variant state using Nat.strongRecOn generalizing state with
  | ind count ih =>
      by_cases done : finished state
      · exact ⟨state, Relation.ReflTransGen.refl, done⟩
      · obtain ⟨action, after, permitted, moved⟩ := progress state holds done
        have less := lowers state action after holds permitted moved
        have later := preserved state action after holds permitted moved
        rw [count] at less
        obtain ⟨final, reaches, finishes⟩ := ih (variant after) less later rfl
        exact ⟨final, reaches.head ⟨action, permitted, moved⟩, finishes⟩

end WealthFinder.Machine
