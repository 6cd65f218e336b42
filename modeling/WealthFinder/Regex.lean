import Mathlib.Data.List.Forall2

/-!
# Patterns with look-around

What a pattern matches is a relation between a part of a text and what stands
before and after it.  The search enumerates the ends of a match as a backtracking
matcher does, and finds one exactly when the relation has one.
-/

set_option autoImplicit false

namespace WealthFinder

variable {Symbol : Type}

inductive Regex (Symbol : Type) where
  | set (accepts : Symbol → Bool)
  | empty
  | seq (first second : Regex Symbol)
  | alt (left right : Regex Symbol)
  | star (body : Regex Symbol)
  | ahead (body : Regex Symbol)
  | notAhead (body : Regex Symbol)
  | notBehind (accepts : Symbol → Bool)

namespace Regex

/-! ## What a pattern matches -/

/-- Matches of a body, one after the other. -/
inductive Repeated (body : List Symbol → List Symbol → List Symbol → Prop) :
    List Symbol → List Symbol → List Symbol → Prop where
  | done (before after : List Symbol) : Repeated body before [] after
  | more {before first rest after : List Symbol} (once : body before first (rest ++ after))
      (again : Repeated body (before ++ first) rest after) :
      Repeated body before (first ++ rest) after

/-- The pattern matches this part between what is before and after it. -/
def Matches : Regex Symbol → List Symbol → List Symbol → List Symbol → Prop
  | .set accepts, _, part, _ => ∃ symbol, accepts symbol = true ∧ part = [symbol]
  | .empty, _, part, _ => part = []
  | .seq first second, before, part, after =>
      ∃ begins ends, part = begins ++ ends ∧ first.Matches before begins (ends ++ after) ∧
        second.Matches (before ++ begins) ends after
  | .alt left right, before, part, after =>
      left.Matches before part after ∨ right.Matches before part after
  | .star body, before, part, after => Repeated body.Matches before part after
  | .ahead body, before, part, after =>
      part = [] ∧ ∃ seen rest, after = seen ++ rest ∧ body.Matches before seen rest
  | .notAhead body, before, part, after =>
      part = [] ∧ ¬ ∃ seen rest, after = seen ++ rest ∧ body.Matches before seen rest
  | .notBehind accepts, before, part, _ =>
      part = [] ∧ before.getLast?.any accepts = false

/-! ## The search -/

/-- Everything that repeated steps reach, each step shortening what is ahead. -/
def closure (step : List Symbol × List Symbol → List (List Symbol × List Symbol)) :
    Nat → List Symbol × List Symbol → List (List Symbol × List Symbol)
  | 0, place => [place]
  | fuel + 1, place =>
      place :: ((step place).filter fun next => next.2.length < place.2.length).flatMap
        (closure step fuel)

/-- The places where a match ends that begins at this place. -/
def ends : Regex Symbol → List Symbol × List Symbol → List (List Symbol × List Symbol)
  | .set accepts, place =>
      match place.2 with
      | [] => []
      | symbol :: rest => if accepts symbol then [(place.1 ++ [symbol], rest)] else []
  | .empty, place => [place]
  | .seq first second, place => (first.ends place).flatMap second.ends
  | .alt left right, place => left.ends place ++ right.ends place
  | .star body, place => closure body.ends place.2.length place
  | .ahead body, place => if (body.ends place).isEmpty then [] else [place]
  | .notAhead body, place => if (body.ends place).isEmpty then [place] else []
  | .notBehind accepts, place => if place.1.getLast?.any accepts then [] else [place]

/-- `re.search(pattern, text) is not None`. -/
def search (pattern : Regex Symbol) (text : List Symbol) : Bool :=
  (List.range (text.length + 1)).any fun start =>
    !(pattern.ends (text.take start, text.drop start)).isEmpty

/-! ## The search finds exactly the matches -/

/-- The place after a part of the text ahead. -/
def Reaches (body : List Symbol → List Symbol → List Symbol → Prop)
    (place next : List Symbol × List Symbol) : Prop :=
  ∃ part, next.1 = place.1 ++ part ∧ place.2 = part ++ next.2 ∧ body place.1 part next.2

/-- A repeated match is empty, or begins with a match that is not. -/
theorem Repeated.empty_or_more {body : List Symbol → List Symbol → List Symbol → Prop}
    {before part after : List Symbol} (repeated : Repeated body before part after) :
    part = [] ∨ ∃ first rest, first ≠ [] ∧ part = first ++ rest ∧
      body before first (rest ++ after) ∧ Repeated body (before ++ first) rest after := by
  induction repeated with
  | done before after => exact Or.inl rfl
  | @more before first rest after once again later =>
      by_cases empty : first = []
      · subst empty
        simpa using later
      · exact Or.inr ⟨first, rest, empty, rfl, once, again⟩

theorem mem_closure {body : List Symbol → List Symbol → List Symbol → Prop}
    {step : List Symbol × List Symbol → List (List Symbol × List Symbol)}
    (sound : ∀ place next, next ∈ step place ↔ Reaches body place next) {fuel : Nat}
    {place last : List Symbol × List Symbol} (enough : place.2.length ≤ fuel) :
    last ∈ closure step fuel place ↔ Reaches (Repeated body) place last := by
  have stays (place : List Symbol × List Symbol) : Reaches (Repeated body) place place :=
    ⟨[], (List.append_nil _).symm, rfl, .done _ _⟩
  induction fuel generalizing place with
  | zero =>
      have nothing : place.2 = [] := List.length_eq_zero_iff.mp (Nat.le_zero.mp enough)
      simp only [closure, List.mem_singleton]
      constructor
      · rintro rfl
        exact stays last
      · intro ⟨part, before', ahead', _⟩
        obtain ⟨rfl, after'⟩ := List.append_eq_nil_iff.mp (ahead'.symm.trans nothing)
        exact Prod.ext (by simpa using before') (after'.trans nothing.symm)
  | succ fuel ih =>
      simp only [closure, List.mem_cons, List.mem_flatMap, List.mem_filter, sound,
        decide_eq_true_eq]
      constructor
      · intro given
        rcases given with rfl | ⟨next, ⟨⟨first, before', ahead', once⟩, shorter⟩, later⟩
        · exact stays last
        · obtain ⟨rest, before'', ahead'', again⟩ := (ih (by omega)).mp later
          rw [ahead''] at ahead' once
          rw [before'] at before'' again
          exact ⟨first ++ rest, by rw [before'', List.append_assoc],
            by rw [ahead', List.append_assoc], .more once again⟩
      · intro ⟨part, before', ahead', repeated⟩
        rcases repeated.empty_or_more with rfl | ⟨first, rest, nonempty, rfl, once, again⟩
        · exact Or.inl (Prod.ext (by simpa using before') ahead'.symm)
        · right
          have positive := List.length_pos_of_ne_nil nonempty
          have longer : place.2.length = first.length + (rest ++ last.2).length := by
            rw [ahead', List.append_assoc, List.length_append]
          refine ⟨(place.1 ++ first, rest ++ last.2), ⟨⟨first, rfl, ?_, once⟩, ?_⟩, ?_⟩
          · rw [ahead', List.append_assoc]
          · simp only
            omega
          · refine (ih (by simp only; omega)).mpr ⟨rest, ?_, rfl, again⟩
            rw [before', List.append_assoc]

/-- A pattern of no width stays where it is. -/
theorem reaches_here {holds : List Symbol → List Symbol → Prop}
    {place next : List Symbol × List Symbol} :
    Reaches (fun before part after => part = [] ∧ holds before after) place next ↔
      next = place ∧ holds place.1 place.2 := by
  constructor
  · intro given
    obtain ⟨part, before', ahead', rfl, here⟩ := given
    have same : next = place := Prod.ext (by simpa using before') ahead'.symm
    subst same
    exact ⟨rfl, here⟩
  · intro given
    obtain ⟨rfl, here⟩ := given
    exact ⟨[], (List.append_nil _).symm, rfl, rfl, here⟩

theorem isEmpty_ends {body : Regex Symbol} {place : List Symbol × List Symbol}
    (sound : ∀ next, next ∈ body.ends place ↔ Reaches body.Matches place next) :
    (body.ends place).isEmpty = true ↔
      ¬ ∃ seen rest, place.2 = seen ++ rest ∧ body.Matches place.1 seen rest := by
  rw [List.isEmpty_iff, List.eq_nil_iff_forall_not_mem]
  constructor
  · intro nothing ⟨seen, rest, ahead', matched⟩
    exact nothing (place.1 ++ seen, rest) ((sound _).mpr ⟨seen, rfl, ahead', matched⟩)
  · intro none next member
    obtain ⟨seen, -, ahead', matched⟩ := (sound next).mp member
    exact none ⟨seen, next.2, ahead', matched⟩

theorem mem_ends (pattern : Regex Symbol) (place next : List Symbol × List Symbol) :
    next ∈ pattern.ends place ↔ Reaches pattern.Matches place next := by
  induction pattern generalizing place next with
  | set accepts =>
      obtain ⟨before, ahead⟩ := place
      cases ahead with
      | nil =>
          simp only [ends, List.not_mem_nil, false_iff]
          intro given
          obtain ⟨part, -, ahead', symbol, -, rfl⟩ := given
          cases ahead'
      | cons symbol rest =>
          simp only [ends, List.mem_ite_nil_right, List.mem_singleton]
          constructor
          · intro given
            obtain ⟨accepted, rfl⟩ := given
            exact ⟨[symbol], rfl, rfl, symbol, accepted, rfl⟩
          · intro given
            obtain ⟨part, before', ahead', same, accepted, rfl⟩ := given
            simp only [List.singleton_append, List.cons.injEq] at ahead'
            obtain ⟨rfl, rfl⟩ := ahead'
            exact ⟨accepted, Prod.ext before' rfl⟩
  | empty =>
      simp only [ends, List.mem_singleton]
      constructor
      · rintro rfl
        exact ⟨[], (List.append_nil _).symm, rfl, rfl⟩
      · intro given
        obtain ⟨part, before', ahead', rfl⟩ := given
        exact Prod.ext (by simpa using before') ahead'.symm
  | seq first second firstIh secondIh =>
      simp only [ends, List.mem_flatMap, firstIh, secondIh]
      constructor
      · intro given
        obtain ⟨middle, ⟨begins, before', ahead', first⟩, ends, before'', ahead'', second⟩ := given
        rw [ahead''] at ahead' first
        rw [before'] at before'' second
        exact ⟨begins ++ ends, by rw [before'', List.append_assoc],
          by rw [ahead', List.append_assoc], begins, ends, rfl, first, second⟩
      · intro given
        obtain ⟨part, before', ahead', begins, ends, rfl, first, second⟩ := given
        refine ⟨(place.1 ++ begins, ends ++ next.2), ⟨begins, rfl, ?_, first⟩,
          ends, ?_, rfl, second⟩
        · rw [ahead', List.append_assoc]
        · rw [before', List.append_assoc]
  | alt left right leftIh rightIh =>
      simp only [ends, List.mem_append, leftIh, rightIh, Reaches, Matches]
      constructor
      · intro given
        rcases given with ⟨part, before', ahead', left⟩ | ⟨part, before', ahead', right⟩
        · exact ⟨part, before', ahead', Or.inl left⟩
        · exact ⟨part, before', ahead', Or.inr right⟩
      · intro given
        rcases given with ⟨part, before', ahead', left | right⟩
        · exact Or.inl ⟨part, before', ahead', left⟩
        · exact Or.inr ⟨part, before', ahead', right⟩
  | star body ih => exact mem_closure ih (Nat.le_refl _)
  | ahead body ih =>
      have none := isEmpty_ends (ih place)
      simp only [Matches, reaches_here, ends]
      split
      · rename_i nothing
        simp [none.mp nothing]
      · rename_i something
        rw [none, not_not] at something
        simp [something]
  | notAhead body ih =>
      have none := isEmpty_ends (ih place)
      simp only [Matches, reaches_here, ends]
      split
      · rename_i nothing
        simp [none.mp nothing]
      · rename_i something
        rw [none, not_not] at something
        simp [something]
  | notBehind accepts =>
      simp only [Matches, reaches_here, ends]
      split
      · rename_i behind
        simp [behind]
      · rename_i free
        simp [free]

theorem search_iff (pattern : Regex Symbol) (text : List Symbol) :
    pattern.search text = true ↔
      ∃ before part after, text = before ++ part ++ after ∧ pattern.Matches before part after := by
  have found (place : List Symbol × List Symbol) := isEmpty_ends (mem_ends pattern place)
  simp only [search, List.any_eq_true, List.mem_range, Bool.not_eq_true']
  constructor
  · intro ⟨start, _, some'⟩
    rw [← Bool.not_eq_true, found, not_not] at some'
    obtain ⟨part, after, ahead', matched⟩ := some'
    refine ⟨text.take start, part, after, ?_, matched⟩
    rw [List.append_assoc, ← ahead', List.take_append_drop]
  · intro given
    obtain ⟨before, part, after, rfl, matched⟩ := given
    refine ⟨before.length, by simp only [List.length_append]; omega, ?_⟩
    rw [← Bool.not_eq_true, found, not_not, List.append_assoc, List.take_left, List.drop_left]
    exact ⟨part, after, rfl, matched⟩

/-! ## Composed patterns -/

/-- The patterns one after the other. -/
def sequence : List (Regex Symbol) → Regex Symbol
  | [] => .empty
  | first :: rest => .seq first (sequence rest)

def optional (body : Regex Symbol) : Regex Symbol := .alt body .empty

/-- One symbol for each of these sets. -/
def sets (accepts : List (Symbol → Bool)) : Regex Symbol := sequence (accepts.map .set)

def literal [DecidableEq Symbol] (text : List Symbol) : Regex Symbol :=
  sets (text.map fun symbol other => other = symbol)

@[simp] theorem matches_set {accepts : Symbol → Bool} {before part after : List Symbol} :
    (Regex.set accepts).Matches before part after ↔
      ∃ symbol, accepts symbol = true ∧ part = [symbol] := Iff.rfl

@[simp] theorem matches_alt {left right : Regex Symbol} {before part after : List Symbol} :
    (Regex.alt left right).Matches before part after ↔
      left.Matches before part after ∨ right.Matches before part after := Iff.rfl

@[simp] theorem matches_nil {before part after : List Symbol} :
    (sequence ([] : List (Regex Symbol))).Matches before part after ↔ part = [] := Iff.rfl

@[simp] theorem matches_cons {first : Regex Symbol} {rest : List (Regex Symbol)}
    {before part after : List Symbol} :
    (sequence (first :: rest)).Matches before part after ↔
      ∃ begins ends, part = begins ++ ends ∧ first.Matches before begins (ends ++ after) ∧
        (sequence rest).Matches (before ++ begins) ends after := Iff.rfl

@[simp] theorem matches_optional {body : Regex Symbol} {before part after : List Symbol} :
    (optional body).Matches before part after ↔
      body.Matches before part after ∨ part = [] := Iff.rfl

@[simp] theorem matches_notBehind {accepts : Symbol → Bool} {before part after : List Symbol} :
    (Regex.notBehind accepts).Matches before part after ↔
      part = [] ∧ before.getLast?.any accepts = false := Iff.rfl

@[simp] theorem matches_sets {accepts : List (Symbol → Bool)}
    {before part after : List Symbol} :
    (sets accepts).Matches before part after ↔
      List.Forall₂ (fun accept symbol => accept symbol = true) accepts part := by
  induction accepts generalizing before part with
  | nil => simp [sets]
  | cons accept rest ih =>
      have later {before part : List Symbol} :
          (sequence (rest.map .set)).Matches before part after ↔
            List.Forall₂ (fun accept symbol => accept symbol = true) rest part := ih
      simp only [sets, List.map_cons, matches_cons, matches_set, later]
      constructor
      · intro given
        obtain ⟨begins, ends, rfl, ⟨symbol, accepted, rfl⟩, all⟩ := given
        exact .cons accepted all
      · intro all
        cases all with
        | @cons _ symbol _ ends accepted all =>
            exact ⟨[symbol], ends, rfl, ⟨symbol, accepted, rfl⟩, all⟩

@[simp] theorem matches_literal [DecidableEq Symbol] {text before part after : List Symbol} :
    (literal text).Matches before part after ↔ part = text := by
  rw [literal, matches_sets, List.forall₂_map_left_iff]
  simp only [decide_eq_true_eq]
  constructor
  · intro same
    induction same with
    | nil => rfl
    | cons is _ ih => rw [is, ih]
  · rintro rfl
    induction part with
    | nil => exact .nil
    | cons symbol rest ih => exact .cons rfl ih

/-- A repeated set matches any run of its symbols. -/
@[simp] theorem matches_star_set {accepts : Symbol → Bool} {before part after : List Symbol} :
    (Regex.star (.set accepts)).Matches before part after ↔
      ∀ symbol ∈ part, accepts symbol = true := by
  constructor
  · intro repeated
    have run : Repeated (Regex.set accepts).Matches before part after := repeated
    induction run with
    | done before after => simp
    | more once again ih =>
        obtain ⟨symbol, accepted, rfl⟩ := once
        simpa [accepted] using ih again
  · intro all
    have run : Repeated (Regex.set accepts).Matches before part after := by
      induction part generalizing before with
      | nil => exact .done _ _
      | cons symbol rest ih =>
          have again := @ih (before ++ [symbol])
            fun other member => all other (List.mem_cons_of_mem _ member)
          exact @Repeated.more _ _ _ [symbol] _ _ ⟨symbol, all symbol List.mem_cons_self, rfl⟩
            again
    exact run

/-- One symbol of the set is ahead, or is not. -/
@[simp] theorem matches_notAhead_set {accepts : Symbol → Bool}
    {before part after : List Symbol} :
    (Regex.notAhead (.set accepts)).Matches before part after ↔
      part = [] ∧ after.head?.any accepts = false := by
  refine and_congr_right fun _ => ?_
  cases after with
  | nil => simp
  | cons symbol rest =>
      simp

end Regex

end WealthFinder
