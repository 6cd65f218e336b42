import Mathlib.Algebra.GroupWithZero.Nat
import Mathlib.Data.List.Count
import Mathlib.Logic.Function.Basic

/-!
# Tables that change in one place

What is found in a table after a change is the new entry or was found before: for lists
whose positions name their elements for good, and for partial maps.
-/

set_option autoImplicit false

namespace WealthFinder

universe u v

section Positions
variable {Element : Type u} {elements : List Element} {element found : Element}
  {index place : Nat}

theorem getElem?_set_cases {old : Element} (present : elements[index]? = some old)
    (is : (elements.set index element)[place]? = some found) :
    (place = index ∧ found = element) ∨ (place ≠ index ∧ elements[place]? = some found) := by
  have within : index < elements.length := (List.getElem?_eq_some_iff.mp present).1
  by_cases same : place = index
  · subst same
    rw [List.getElem?_set_self within, Option.some.injEq] at is
    exact Or.inl ⟨rfl, is.symm⟩
  · rw [List.getElem?_set_ne (Ne.symm same)] at is
    exact Or.inr ⟨same, is⟩

theorem getElem?_modify_cases {change : Element → Element}
    (present : elements[index]? = some element)
    (is : (elements.modify index change)[place]? = some found) :
    (place = index ∧ found = change element) ∨
      (place ≠ index ∧ elements[place]? = some found) := by
  by_cases same : place = index
  · subst same
    rw [List.getElem?_modify_eq, present] at is
    exact Or.inl ⟨rfl, (Option.some.inj is).symm⟩
  · rw [List.getElem?_modify_ne change elements (Ne.symm same)] at is
    exact Or.inr ⟨same, is⟩

theorem getElem?_append_cases (is : (elements ++ [element])[index]? = some found) :
    (index = elements.length ∧ found = element) ∨
      (index < elements.length ∧ elements[index]? = some found) := by
  rcases Nat.lt_trichotomy index elements.length with before | same | after
  · rw [List.getElem?_append_left before] at is
    exact Or.inr ⟨before, is⟩
  · subst same
    rw [List.getElem?_concat_length, Option.some.injEq] at is
    exact Or.inl ⟨rfl, is.symm⟩
  · rw [List.getElem?_eq_none (by simp; omega)] at is
    cases is

/-- Changing one element moves a count by what changed about it. -/
theorem countP_modify (counted : Element → Bool) (change : Element → Element)
    (present : elements[index]? = some element) :
    (elements.modify index change).countP counted + (counted element).toNat =
      elements.countP counted + (counted (change element)).toNat := by
  induction elements generalizing index with
  | nil => simp at present
  | cons head rest ih =>
      cases index with
      | zero =>
          cases present
          rw [List.modify_zero_cons, List.countP_cons, List.countP_cons]
          cases counted element <;> cases counted (change element) <;> simp
      | succ index =>
          have tail := ih present
          rw [List.modify_succ_cons, List.countP_cons, List.countP_cons]
          omega

/-- What a change leaves alone looks as before. -/
theorem map_modify_same {View : Type v} (view : Element → View) (change : Element → Element)
    (same : ∀ element, view (change element) = view element) :
    (elements.modify index change).map view = elements.map view := by
  apply List.ext_getElem?
  intro place
  rw [List.getElem?_map, List.getElem?_map, List.getElem?_modify]
  cases elements[place]? with
  | none => rfl
  | some element => split <;> simp [same]

theorem map_set_same {View : Type v} (view : Element → View)
    (present : elements[index]? = some found) (same : view element = view found) :
    (elements.set index element).map view = elements.map view := by
  obtain ⟨within, rfl⟩ := List.getElem?_eq_some_iff.mp present
  have within' : index < (elements.map view).length := by rwa [List.length_map]
  have there : (elements.map view)[index] = view elements[index] := List.getElem_map view
  rw [List.map_set, same, ← there, List.set_getElem_self]

theorem countP_set (counted : Element → Bool) (present : elements[index]? = some found) :
    (elements.set index element).countP counted + (counted found).toNat =
      elements.countP counted + (counted element).toNat := by
  rw [List.set_eq_modify]
  exact countP_modify counted (fun _ => element) present

theorem sum_map_set (weight : Element → Nat) (present : elements[index]? = some found) :
    ((elements.set index element).map weight).sum + weight found =
      (elements.map weight).sum + weight element := by
  induction elements generalizing index with
  | nil => simp at present
  | cons head rest ih =>
      cases index with
      | zero =>
          cases present
          simp only [List.set_cons_zero, List.map_cons, List.sum_cons]
          omega
      | succ index =>
          have tail := ih present
          simp only [List.set_cons_succ, List.map_cons, List.sum_cons]
          omega

/-- What the parts yield together grows by what the changed part yields more. -/
theorem flatMap_set_perm {Yield : Type v} (yields : Element → List Yield) {more : List Yield}
    (present : elements[index]? = some found)
    (grows : (yields element).Perm (more ++ yields found)) :
    ((elements.set index element).flatMap yields).Perm (more ++ elements.flatMap yields) := by
  induction elements generalizing index with
  | nil => simp at present
  | cons head rest ih =>
      cases index with
      | zero =>
          cases present
          rw [List.set_cons_zero, List.flatMap_cons, List.flatMap_cons, ← List.append_assoc]
          exact grows.append_right _
      | succ index =>
          have tail := ih present
          rw [List.set_cons_succ, List.flatMap_cons, List.flatMap_cons]
          exact (tail.append_left _).trans (List.perm_append_comm_assoc _ _ _)

end Positions

section Keys
variable {Key : Type u} {Value : Type v} [DecidableEq Key] {table : Key → Option Value}
  {key place : Key} {value : Value}

theorem of_update_some {new : Value}
    (found : Function.update table key (some new) place = some value) :
    (place = key ∧ value = new) ∨ (place ≠ key ∧ table place = some value) := by
  by_cases same : place = key
  · rw [same, Function.update_self, Option.some.injEq] at found
    exact Or.inl ⟨same, found.symm⟩
  · rw [Function.update_of_ne same] at found
    exact Or.inr ⟨same, found⟩

theorem of_update_none (found : Function.update table key none place = some value) :
    place ≠ key ∧ table place = some value := by
  by_cases same : place = key
  · rw [same, Function.update_self] at found
    cases found
  · rw [Function.update_of_ne same] at found
    exact ⟨same, found⟩

end Keys

end WealthFinder
