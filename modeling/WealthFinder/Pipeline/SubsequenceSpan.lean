import WealthFinder.Pipeline.NameCheck
import WealthFinder.Subsequence

/-!
# `_subsequence_span` index by index

The two scans with the indices of the source, which Python would also take from the end
of a text.  The indices stay inside, so the scans are those of `subsequenceSpan`, and
these find the tightest span.
-/

set_option autoImplicit false

namespace WealthFinder.Pipeline

structure IndexError where
  deriving DecidableEq, Repr

/-- The place that an index means, counted from the end below zero. -/
def placeOf (length : Nat) (index : Int) : Int :=
  if index < 0 then index + length else index

/-- `text[index]`. -/
def charAt (text : Text) (index : Int) : Except IndexError Char :=
  if placeOf text.length index < 0 then .error ⟨⟩
  else
    match text[(placeOf text.length index).toNat]? with
    | some c => .ok c
    | none => .error ⟨⟩

/-- The loop over `enumerate(long)`, from the character at `pos` on. -/
def scanForward (short : Text) (i pos : Nat) : Text → Except IndexError (Option Nat)
  | [] => .ok none
  | ch :: rest =>
      match charAt short i with
      | .error raised => .error raised
      | .ok awaited =>
          if ch = awaited then
            if i + 1 = short.length then .ok (some (pos + 1))
            else scanForward short (i + 1) (pos + 1) rest
          else scanForward short i (pos + 1) rest

theorem charAt_place {text : Text} {index : Int} {c : Char} (read : charAt text index = .ok c) :
    0 ≤ index + text.length := by
  unfold charAt at read
  by_cases outside : placeOf text.length index < 0
  · rw [if_pos outside] at read
    cases read
  · unfold placeOf at outside
    omega

/-- The `while` loop.  It gives back `k`. -/
def scanBack (short long : Text) (j k : Int) : Except IndexError Int :=
  if 0 ≤ j then
    match _ : charAt long k with
    | .error raised => .error raised
    | .ok ch =>
        match charAt short j with
        | .error raised => .error raised
        | .ok awaited => scanBack short long (if ch = awaited then j - 1 else j) (k - 1)
  else .ok k
termination_by (k + long.length + 1).toNat
decreasing_by
  have inside := charAt_place ‹charAt long k = .ok ch›
  omega

/-- `_subsequence_span`. -/
def spanOf (short long : Text) : Except IndexError (Option (Int × Int)) := do
  match ← scanForward short 0 0 long with
  | none => return none
  | some endPos =>
      let k ← scanBack short long (short.length - 1) (endPos - 1)
      return some (k + 1, endPos)

/-! ## The scans inside the texts -/

theorem charAt_of_lt {text : Text} {place : Nat} (inside : place < text.length) :
    charAt text place = .ok text[place] := by
  have same : placeOf text.length place = place := by
    unfold placeOf
    omega
  simp only [charAt, same, Int.toNat_natCast, List.getElem?_eq_getElem inside]
  exact if_neg (by omega)

theorem scanForward_eq {short : Text} {i : Nat} (inside : i < short.length) (pos : Nat)
    (long : Text) : scanForward short i pos long = .ok (earliestEnd (short.drop i) pos long) := by
  induction long generalizing i pos with
  | nil =>
      rw [List.drop_eq_getElem_cons inside]
      rfl
  | cons ch rest ih =>
      have awaits := List.drop_eq_getElem_cons inside
      have nextWaits : short.drop (i + 1) = [] ↔ i + 1 = short.length := by
        rw [List.drop_eq_nil_iff]
        omega
      simp only [scanForward, charAt_of_lt inside, awaits, earliestEnd, nextWaits]
      split
      · split
        · rfl
        · exact ih (by omega) (pos + 1)
      · rw [ih inside (pos + 1), awaits]

theorem scanBack_done (short long : Text) {j : Int} (k : Int) (finished : j < 0) :
    scanBack short long j k = .ok k := by
  rw [scanBack, if_neg (by omega)]

theorem scanBack_step {short long : Text} {j k : Int} {ch awaited : Char} (going : 0 ≤ j)
    (read : charAt long k = .ok ch) (waits : charAt short j = .ok awaited) :
    scanBack short long j k =
      scanBack short long (if ch = awaited then j - 1 else j) (k - 1) := by
  rw [scanBack, if_pos going]
  split
  · rename_i raised failed
    rw [read] at failed
    cases failed
  · rename_i other same
    rw [read] at same
    cases same
    rw [waits]

theorem reverse_take_succ {text : Text} {place : Nat} (inside : place < text.length) :
    (text.take (place + 1)).reverse = text[place] :: (text.take place).reverse := by
  rw [List.take_succ_eq_append_getElem inside, List.reverse_append]
  rfl

/-- The loop counts both indices one lower than what is left to compare.  What is left of
`short` stands in what is left of `long`, so `k` never leaves the text. -/
theorem scanBack_eq {short long : Text} {left room : Nat} (leftShort : left ≤ short.length)
    (roomLong : room ≤ long.length) (inside : (short.take left).Sublist (long.take room)) :
    scanBack short long ((left : Int) - 1) ((room : Int) - 1) =
      .ok ((latestStart (short.take left).reverse (long.take room).reverse : Int) - 1) := by
  induction room generalizing left with
  | zero =>
      have nothing : left = 0 := by
        have lengths := inside.length_le
        rw [List.length_take, List.length_take] at lengths
        omega
      subst nothing
      rw [scanBack_done short long _ (by omega)]
      simp [latestStart]
  | succ room ih =>
      have longIndex : ((room + 1 : Nat) : Int) - 1 = room := by omega
      cases left with
      | zero =>
          rw [scanBack_done short long _ (by omega)]
          simp only [latestStart, List.take_zero, List.reverse_nil, List.length_reverse,
            List.length_take, Nat.min_eq_left roomLong]
      | succ left =>
          have shortIndex : ((left + 1 : Nat) : Int) - 1 = left := by omega
          have reversed := List.reverse_sublist.mpr inside
          rw [reverse_take_succ leftShort, reverse_take_succ roomLong,
            sublist_cons_iff_waiting] at reversed
          rw [longIndex, shortIndex, scanBack_step (by omega) (charAt_of_lt roomLong)
            (charAt_of_lt leftShort), reverse_take_succ leftShort, reverse_take_succ roomLong,
            latestStart]
          unfold waitingAfter at reversed
          split
          · rename_i same
            rw [if_pos same, List.reverse_sublist] at reversed
            exact ih (by omega) (by omega) reversed
          · rename_i apart
            rw [if_neg apart, ← reverse_take_succ leftShort, List.reverse_sublist] at reversed
            rw [← shortIndex, ← reverse_take_succ leftShort]
            exact ih leftShort (by omega) reversed

/-! ## Both scans are those of a shortest prefix -/

theorem earliestEnd_eq {short : Text} (nonempty : short ≠ []) (pos : Nat) (long : Text) :
    earliestEnd short pos long = (shortestHolding short long).map (pos + ·) := by
  induction long generalizing short pos with
  | nil =>
      cases short with
      | nil => exact absurd rfl nonempty
      | cons s shorter => rfl
  | cons c rest ih =>
      cases short with
      | nil => exact absurd rfl nonempty
      | cons s shorter =>
          have later : ∀ awaited : Text, awaited ≠ [] → earliestEnd awaited (pos + 1) rest =
              ((shortestHolding awaited rest).map (· + 1)).map (pos + ·) := by
            intro awaited waits
            rw [ih waits, Option.map_map]
            congr 1
            funext count
            exact Nat.add_right_comm pos 1 count
          simp only [earliestEnd, shortestHolding, waitingAfter]
          split
          · split
            · rename_i finished
              simp [finished, shortestHolding]
            · rename_i more
              exact later shorter more
          · exact later (s :: shorter) (List.cons_ne_nil s shorter)

theorem latestStart_eq {short long : Text} {count : Nat}
    (found : shortestHolding short long = some count) :
    latestStart short long = long.length - count := by
  induction long generalizing short count with
  | nil =>
      cases short with
      | nil =>
          rw [shortestHolding] at found
          cases found
          rfl
      | cons s shorter => simp [shortestHolding] at found
  | cons c rest ih =>
      cases short with
      | nil =>
          rw [shortestHolding] at found
          cases found
          rfl
      | cons s shorter =>
          rw [shortestHolding, Option.map_eq_some_iff] at found
          obtain ⟨fewer, foundLater, rfl⟩ := found
          have is := ih foundLater
          have within := shortestHolding_le foundLater
          unfold waitingAfter at is
          rw [latestStart, List.length_cons]
          split
          · rename_i same
            rw [if_pos same] at is
            omega
          · rename_i apart
            rw [if_neg apart] at is
            omega

/-- The indices never leave the texts, and the span is that of `subsequenceSpan`. -/
theorem spanOf_eq {short : Text} (nonempty : short ≠ []) (long : Text) :
    spanOf short long =
      .ok ((subsequenceSpan short long).map fun span => ((span.1 : Int), (span.2 : Int))) := by
  have positive := List.length_pos_of_ne_nil nonempty
  unfold spanOf subsequenceSpan
  rw [scanForward_eq positive 0 long, List.drop_zero]
  cases ended : earliestEnd short 0 long with
  | none => rfl
  | some endPos =>
      obtain ⟨count, is, within, inside⟩ := earliestEnd_sublist ended
      rw [Nat.zero_add] at is
      subst is
      have back := scanBack_eq (Nat.le_refl short.length) within
        (by rwa [List.take_length])
      rw [List.take_length] at back
      simp only [Option.map_some]
      change (do
        let k ← scanBack short long (short.length - 1) (endPos - 1)
        return some (k + 1, (endPos : Int))) = _
      rw [back]
      simp

/-! ## The span -/

/-- `long[start:end]`. -/
def slice (long : Text) (start endPos : Nat) : Text := (long.take endPos).drop start

/-- `start` and `endPos` bound the earliest-ending match, started as late as that end
allows. -/
structure Tightest (short long : Text) (start endPos : Nat) : Prop where
  inside : short.Sublist (slice long start endPos)
  within : start ≤ endPos ∧ endPos ≤ long.length
  earliest : IsLeast {count | short.Sublist (long.take count)} endPos
  latest : IsGreatest {place | short.Sublist (slice long place endPos)} start

theorem subsequenceSpan_eq_none {short : Text} (nonempty : short ≠ []) (long : Text) :
    subsequenceSpan short long = none ↔ ¬ short.Sublist long := by
  rw [subsequenceSpan, Option.map_eq_none_iff, earliestEnd_eq nonempty, Option.map_eq_none_iff,
    shortestHolding_eq_none]

theorem subsequenceSpan_tightest {short long : Text} {start endPos : Nat}
    (nonempty : short ≠ []) (found : subsequenceSpan short long = some (start, endPos)) :
    Tightest short long start endPos := by
  have room := subsequenceSpan_room found
  obtain ⟨reached, ended, is⟩ := Option.map_eq_some_iff.mp found
  cases is
  rw [earliestEnd_eq nonempty, Option.map_eq_some_iff] at ended
  obtain ⟨count, forward, same⟩ := ended
  rw [Nat.zero_add] at same
  subst same
  have earliest := shortestHolding_isLeast forward
  have inPrefix : short.Sublist (long.take count) := earliest.1
  obtain ⟨backward, foundBack⟩ : ∃ backward,
      shortestHolding short.reverse (long.take count).reverse = some backward := by
    rw [← Option.isSome_iff_exists, Option.isSome_iff_ne_none, ne_eq, shortestHolding_eq_none,
      not_not]
    exact List.reverse_sublist.mpr inPrefix
  have starts := latestStart_eq foundBack
  rw [List.length_reverse] at starts
  have latest := shortestHolding_reverse_isGreatest nonempty foundBack
  rw [← starts] at latest
  exact ⟨latest.1, ⟨by omega, room.2⟩, earliest, latest⟩

/-- `_subsequence_span` finds no span exactly where `_is_subsequence` fails, and otherwise
the tightest one. -/
theorem spanOf_greedy (short long : Text) (nonempty : short ≠ []) :
    (spanOf short long = .ok none ↔ ¬ short.Sublist long) ∧
      (spanOf short long = .ok none ↔ isSubsequence short long = false) ∧
      (short.Sublist long → ∃ start endPos : Nat,
        spanOf short long = .ok (some ((start : Int), (endPos : Int))) ∧
          Tightest short long start endPos) := by
  have none_iff : spanOf short long = .ok none ↔ ¬ short.Sublist long := by
    rw [spanOf_eq nonempty, Except.ok.injEq, Option.map_eq_none_iff,
      subsequenceSpan_eq_none nonempty]
  refine ⟨none_iff, ?_, ?_⟩
  · rw [none_iff, ← isSubsequence_iff, Bool.not_eq_true]
  · intro inside
    cases found : subsequenceSpan short long with
    | none => exact absurd inside ((subsequenceSpan_eq_none nonempty long).mp found)
    | some span =>
        obtain ⟨start, endPos⟩ := span
        refine ⟨start, endPos, ?_, subsequenceSpan_tightest nonempty found⟩
        rw [spanOf_eq nonempty, found]
        rfl

theorem spanOf_greedy_repeated :
    (spanOf "中行".toList "中中國銀行行".toList = .ok none ↔
        ¬ "中行".toList.Sublist "中中國銀行行".toList) ∧
      (spanOf "中行".toList "中中國銀行行".toList = .ok none ↔
        isSubsequence "中行".toList "中中國銀行行".toList = false) ∧
      ("中行".toList.Sublist "中中國銀行行".toList → ∃ start endPos : Nat,
        spanOf "中行".toList "中中國銀行行".toList = .ok (some ((start : Int), (endPos : Int))) ∧
          Tightest "中行".toList "中中國銀行行".toList start endPos) :=
  spanOf_greedy _ _ (by decide)

end WealthFinder.Pipeline
