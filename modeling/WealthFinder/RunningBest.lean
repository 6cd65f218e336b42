import Mathlib.Order.Defs.LinearOrder
import Mathlib.Order.Bounds.Basic
import Mathlib.Data.List.Nodup

/-!
# The running best of a list

One pass over scored items that keeps the best score so far together with every
key that attains it.  The keys kept in the end are the maximisers, in whatever
order the items came and however often a key was offered.
-/

set_option autoImplicit false

namespace WealthFinder

variable {Key Score : Type}

/-- `keys` is a set: a list without duplicates whose order means nothing. -/
structure RunningBest (Key Score : Type) where
  score : Option Score
  keys : List Key

def scoresOf (items : List (Key × Score)) : Set Score := {score | ∃ key, (key, score) ∈ items}

/-- The key has an item with the greatest score. -/
def Maximiser [LE Score] (items : List (Key × Score)) (key : Key) : Prop :=
  ∃ score, (key, score) ∈ items ∧ IsGreatest (scoresOf items) score

namespace RunningBest

def empty : RunningBest Key Score := ⟨none, []⟩

def offer [DecidableEq Key] [LinearOrder Score] (best : RunningBest Key Score)
    (item : Key × Score) : RunningBest Key Score :=
  match best.score with
  | none => ⟨some item.2, [item.1]⟩
  | some top =>
      if top < item.2 then ⟨some item.2, [item.1]⟩
      else if item.2 = top then { best with keys := best.keys.insert item.1 }
      else best

/-- What the pass has kept after these items. -/
structure Kept [LE Score] (best : RunningBest Key Score) (items : List (Key × Score)) : Prop where
  distinct : best.keys.Nodup
  score : ∀ top, best.score = some top → IsGreatest (scoresOf items) top
  none : best.score = none → items = []
  keys : ∀ key, key ∈ best.keys ↔ Maximiser items key

theorem kept_empty [LE Score] : (empty : RunningBest Key Score).Kept [] where
  distinct := List.nodup_nil
  score := by intro top same; cases same
  none := fun _ => rfl
  keys := by
    intro key
    refine ⟨fun member => (List.not_mem_nil member).elim, ?_⟩
    rintro ⟨score, member, -⟩
    exact absurd member List.not_mem_nil

theorem scoresOf_append (items : List (Key × Score)) (item : Key × Score) :
    scoresOf (items ++ [item]) = insert item.2 (scoresOf items) := by
  ext score
  simp only [scoresOf, List.mem_append, List.mem_singleton, Set.mem_ofPred_eq,
    Set.mem_insert_iff]
  constructor
  · rintro ⟨key, member | rfl⟩
    · exact Or.inr ⟨key, member⟩
    · exact Or.inl rfl
  · rintro (rfl | ⟨key, member⟩)
    · exact ⟨item.1, Or.inr rfl⟩
    · exact ⟨key, Or.inl member⟩

variable [LinearOrder Score]

/-- An item above all others is alone at the top. -/
theorem maximiser_append_above {items : List (Key × Score)} {item : Key × Score}
    (above : ∀ score ∈ scoresOf items, score < item.2) (key : Key) :
    Maximiser (items ++ [item]) key ↔ key = item.1 := by
  have greatest : IsGreatest (scoresOf (items ++ [item])) item.2 := by
    rw [scoresOf_append]
    refine ⟨Set.mem_insert _ _, ?_⟩
    rintro score (rfl | member)
    · exact le_refl _
    · exact (above score member).le
  constructor
  · rintro ⟨score, member, top⟩
    have same : score = item.2 := top.unique greatest
    rcases List.mem_append.mp member with old | new
    · exact absurd (above score ⟨key, old⟩) (by rw [same]; exact lt_irrefl _)
    · rw [← List.mem_singleton.mp new]
  · rintro rfl
    exact ⟨item.2, List.mem_append_right _ (List.mem_singleton.mpr rfl), greatest⟩

theorem isGreatest_append_below {items : List (Key × Score)} {item : Key × Score}
    {top : Score} (greatest : IsGreatest (scoresOf items) top) (below : item.2 ≤ top) :
    IsGreatest (scoresOf (items ++ [item])) top := by
  rw [scoresOf_append]
  refine ⟨Set.mem_insert_of_mem _ greatest.1, ?_⟩
  intro score member
  cases member with
  | inl same => exact same ▸ below
  | inr old => exact greatest.2 old

/-- An item that is not above the top adds its key only at the top. -/
theorem maximiser_append_below {items : List (Key × Score)} {item : Key × Score} {top : Score}
    (greatest : IsGreatest (scoresOf items) top) (below : item.2 ≤ top) (key : Key) :
    Maximiser (items ++ [item]) key ↔
      Maximiser items key ∨ (item.2 = top ∧ key = item.1) := by
  have still := isGreatest_append_below greatest below
  constructor
  · rintro ⟨score, member, best⟩
    have same : score = top := best.unique still
    subst same
    rcases List.mem_append.mp member with old | new
    · exact Or.inl ⟨score, old, greatest⟩
    · rw [List.mem_singleton] at new
      exact Or.inr ⟨by rw [← new], by rw [← new]⟩
  · rintro (⟨score, member, best⟩ | ⟨same, rfl⟩)
    · have equal : score = top := best.unique greatest
      exact ⟨score, List.mem_append_left _ member, equal ▸ still⟩
    · refine ⟨top, List.mem_append_right _ (List.mem_singleton.mpr ?_), still⟩
      rw [← same]

variable [DecidableEq Key]

theorem Kept.offer {best : RunningBest Key Score} {items : List (Key × Score)}
    (kept : best.Kept items) (item : Key × Score) :
    (best.offer item).Kept (items ++ [item]) := by
  have alone (above : ∀ score ∈ scoresOf items, score < item.2) :
      Kept ⟨some item.2, [item.1]⟩ (items ++ [item]) := by
    refine ⟨List.nodup_singleton _, ?_, ?_, ?_⟩
    · intro top same
      cases same
      rw [scoresOf_append]
      refine ⟨Set.mem_insert _ _, ?_⟩
      rintro score (rfl | member)
      · exact le_refl _
      · exact (above score member).le
    · intro impossible
      cases impossible
    · intro key
      rw [maximiser_append_above above, List.mem_singleton]
  cases at' : best.score with
  | none =>
      have nothing := kept.none at'
      subst nothing
      simp only [RunningBest.offer, at']
      refine alone ?_
      rintro score ⟨key, member⟩
      exact absurd member List.not_mem_nil
  | some top =>
      have greatest := kept.score top at'
      simp only [RunningBest.offer, at']
      split
      · rename_i higher
        exact alone fun score member => lt_of_le_of_lt (greatest.2 member) higher
      · rename_i notHigher
        have below : item.2 ≤ top := not_lt.mp notHigher
        have still := isGreatest_append_below greatest below
        split
        · rename_i same
          refine ⟨kept.distinct.insert, ?_, fun impossible => (nomatch impossible), ?_⟩
          · intro other same
            cases same
            exact still
          · intro key
            rw [List.mem_insert_iff, maximiser_append_below greatest below, kept.keys]
            constructor
            · rintro (new | old)
              · exact Or.inr ⟨same, new⟩
              · exact Or.inl old
            · rintro (old | ⟨-, new⟩)
              · exact Or.inr old
              · exact Or.inl new
        · rename_i apart
          refine ⟨kept.distinct, ?_, fun impossible => ?_, ?_⟩
          · intro other same
            cases at'.symm.trans same
            exact still
          · cases at'.symm.trans impossible
          · intro key
            rw [maximiser_append_below greatest below, kept.keys]
            constructor
            · exact Or.inl
            · rintro (old | ⟨same, -⟩)
              · exact old
              · exact absurd same apart

theorem Kept.foldl {best : RunningBest Key Score} {before : List (Key × Score)}
    (kept : best.Kept before) (items : List (Key × Score)) :
    (items.foldl RunningBest.offer best).Kept (before ++ items) := by
  induction items generalizing best before with
  | nil => simpa using kept
  | cons item rest ih =>
      have next := ih (kept.offer item)
      simpa using next

/-- The pass keeps exactly the maximisers. -/
theorem kept_foldl (items : List (Key × Score)) :
    (items.foldl RunningBest.offer RunningBest.empty).Kept items := by
  simpa using kept_empty.foldl items

end RunningBest

/-! ## The only element of a set -/

def onlyKey : List Key → Option Key
  | [key] => some key
  | _ => none

theorem onlyKey_eq_some {keys : List Key} (distinct : keys.Nodup) (key : Key) :
    onlyKey keys = some key ↔ ∀ other, other ∈ keys ↔ other = key := by
  constructor
  · intro only
    cases keys with
    | nil => cases only
    | cons first rest =>
        cases rest with
        | nil =>
            cases only
            exact fun other => List.mem_singleton
        | cons second rest => cases only
  · intro only
    cases keys with
    | nil => exact absurd ((only key).mpr rfl) List.not_mem_nil
    | cons first rest =>
        have firstIs : first = key := (only first).mp List.mem_cons_self
        cases rest with
        | nil => rw [firstIs, onlyKey]
        | cons second rest =>
            have secondIs : second = key :=
              (only second).mp (List.mem_cons_of_mem _ List.mem_cons_self)
            rw [firstIs, secondIs] at distinct
            simp at distinct

end WealthFinder
