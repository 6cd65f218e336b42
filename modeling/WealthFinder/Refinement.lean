import WealthFinder.Machine

/-!
# One machine as seen through another

A view of a machine's states refines another machine when each step is seen as some of its
steps.  Then every run is seen as a run, which passes through all that was seen.
-/

set_option autoImplicit false

namespace WealthFinder.Machine

universe u v w x

variable {State : Type u} {Action : Type v} {Other : Type w} {OtherAction : Type x}
  {machine : Machine State Action} {allowed : State → Action → Prop}
  {other : Machine Other OtherAction} {permitted : Other → OtherAction → Prop}

/-- No step is seen, or one. -/
theorem Reaches.of_stutter {before after : Other}
    (seen : after = before ∨ ∃ action, permitted before action ∧
      other.step before action = some after) : Reaches other permitted before after := by
  rcases seen with rfl | step
  · exact Relation.ReflTransGen.refl
  · exact Relation.ReflTransGen.single step

/-- The longer run passes through the states of the shorter one. -/
theorem Trace.extend_through {past : List State} {state final : State}
    (trace : Trace machine allowed past state) (reaches : Reaches machine allowed state final) :
    ∃ history, Trace machine allowed history final ∧
      ∀ earlier ∈ state :: past, earlier ∈ final :: history := by
  induction reaches with
  | refl => exact ⟨past, trace, fun _ member => member⟩
  | tail _ moved held =>
      obtain ⟨history, before, through⟩ := held
      obtain ⟨action, isAllowed, moved⟩ := moved
      refine ⟨_, before.next action isAllowed moved, ?_⟩
      intro earlier member
      exact List.mem_cons_of_mem _ (through earlier member)

theorem Trace.refines {view : State → Other}
    (initially : ∀ state, machine.init state → other.init (view state))
    (stepwise : ∀ past state action after,
      Trace machine allowed past state → allowed state action →
      machine.step state action = some after →
        Reaches other permitted (view state) (view after))
    {past : List State} {state : State} (trace : Trace machine allowed past state) :
    ∃ history, Trace other permitted history (view state) ∧
      ∀ earlier ∈ past, view earlier ∈ view state :: history := by
  induction trace with
  | start initial =>
      refine ⟨[], .start (initially _ initial), ?_⟩
      intro earlier member
      cases member
  | next action before isAllowed moved held =>
      obtain ⟨history, seen, through⟩ := held
      obtain ⟨longer, final, passes⟩ :=
        seen.extend_through (stepwise _ _ action _ before isAllowed moved)
      refine ⟨longer, final, ?_⟩
      intro earlier member
      rcases List.mem_cons.mp member with rfl | old
      · exact passes _ List.mem_cons_self
      · exact passes _ (through earlier old)

end WealthFinder.Machine
