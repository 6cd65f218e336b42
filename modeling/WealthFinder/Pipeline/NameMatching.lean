import Mathlib.Algebra.GroupWithZero.Nat
import Mathlib.Algebra.Order.Ring.Rat
import Mathlib.Data.List.Lex
import Mathlib.Data.List.Nodup

/-!
# Company names and how well they match

A text is its list of code points.  Only the two conversions that the normalizer
takes from elsewhere are parameters.  Scores are tuples of exact rationals where
the source divides integers to floats, compared in lexicographic order.
-/

set_option autoImplicit false

namespace WealthFinder.Pipeline

abbrev Text := List Char

instance (text : Text) (texts : List Text) : Decidable (text ∈ texts) :=
  List.instDecidableMemOfLawfulBEq text texts

/-! ## Characters and words -/

/-- The white space of `str.split` and of `\s`. -/
def isSpace (c : Char) : Bool :=
  let code := c.toNat
  (9 ≤ code && code ≤ 13) || (28 ≤ code && code ≤ 32) || code = 0x85 || code = 0xA0 ||
    code = 0x1680 || (0x2000 ≤ code && code ≤ 0x200A) || code = 0x2028 || code = 0x2029 ||
    code = 0x202F || code = 0x205F || code = 0x3000

def isAscii (text : Text) : Bool := text.all fun c => c.toNat < 128

def isLatin (c : Char) : Bool := ('a' ≤ c && c ≤ 'z') || ('0' ≤ c && c ≤ '9')

def nul : Char := Char.ofNat 0

def keepWord (word : Text) (words : List Text) : List Text :=
  if word = [] then words else word :: words

/-- The word that ends at this character's left, and those further right. -/
def wordsFrom (separates : Char → Bool) : Text → Text × List Text
  | [] => ([], [])
  | c :: rest =>
      let (word, words) := wordsFrom separates rest
      if separates c then ([], keepWord word words) else (c :: word, words)

def splitWords (separates : Char → Bool) (text : Text) : List Text :=
  keepWord (wordsFrom separates text).1 (wordsFrom separates text).2

def split (text : Text) : List Text := splitWords isSpace text

def joinSpaces (words : List Text) : Text := [' '].intercalate words

/-! ## `_normalize` -/

/-- OpenCC's `t2s` conversion and `str.casefold`.  OpenCC converts C strings, so no
NUL comes back. -/
structure Folding where
  t2s : Text → Text
  casefold : Text → Text
  noNul : ∀ text, nul ∉ casefold (t2s text)

def isCounterLetter (c : Char) : Bool := ('A' ≤ c && c ≤ 'Z') || ('Ａ' ≤ c && c ≤ 'Ｚ')

/-- `$` also matches before a newline that ends the text. -/
def beforeFinalNewline (strip : Text → Text) (text : Text) : Text :=
  if text.getLast? = some '\n' then strip text.dropLast ++ ['\n'] else strip text

/-- `_COUNTER_MARKER_RE.sub("", text)`. -/
def dropCounterMarker : Text → Text :=
  beforeFinalNewline fun text =>
    let letters := text.reverse.takeWhile isCounterLetter
    match text.reverse.drop letters.length with
    | dash :: before =>
        if 1 ≤ letters.length && letters.length ≤ 3 && (dash = '-' || dash = '－') then
          before.reverse
        else text
    | [] => text

def halfWidth (c : Char) : Char :=
  if 0xFF01 ≤ c.toNat ∧ c.toNat < 0xFF5F then Char.ofNat (c.toNat - 0xFEE0) else c

/-- The rest of a text after `previous`, its spaces between Latin letters made NUL. -/
def markLatinSpaces (previous : Char) : Text → Text
  | [] => []
  | c :: rest =>
      (if c = ' ' && isLatin previous && rest.head?.any isLatin then nul else c) ::
        markLatinSpaces c rest

def normalize (folding : Folding) (text : Text) : Text :=
  let folded := folding.casefold (folding.t2s ((dropCounterMarker text).map halfWidth))
  let spaced := joinSpaces (split folded)
  ((markLatinSpaces ' ' spaced).filter fun c => c ≠ ' ').map fun c =>
    if c = nul then ' ' else c

/-! ## `_name_variants` -/

def englishLegalWords : List Text :=
  ["limited", "ltd", "co", "company", "corporation", "corp", "inc", "plc", "llc",
    "the"].map String.toList

def englishGenericWords : List Text :=
  ["holdings", "holding", "hldg", "hldgs", "group", "gp", "international", "intl", "int'l",
    "and", "&"].map String.toList

/-- The text without the first of these endings that it has. -/
def dropEnding (endings : List Text) (text : Text) : Text :=
  match endings.find? fun ending => ending.isSuffixOf text with
  | some ending => text.take (text.length - ending.length)
  | none => text

/-- `_ZH_LEGAL_SUFFIX_RE.sub("", text)`: the leftmost match is the longest ending. -/
def dropLegalSuffix : Text → Text :=
  beforeFinalNewline (dropEnding (["股份有限公司", "有限公司", "公司"].map String.toList))

/-- A reversed text without the generic words it starts with. -/
def dropTail : Text → Text
  | '股' :: '控' :: rest => dropTail rest
  | '份' :: '股' :: rest => dropTail rest
  | text => text

/-- `_ZH_GENERIC_TAIL_RE.sub("", text)`. -/
def dropGenericTail : Text → Text :=
  beforeFinalNewline fun text => (dropTail text.reverse).reverse

def legalVariant (full : Text) : Text :=
  if isAscii full then
    joinSpaces ((splitWords (fun c => isSpace c || c = '.' || c = ',') full).filter fun word =>
      word ∉ englishLegalWords)
  else dropLegalSuffix full

def genericVariant (full : Text) : Text :=
  if isAscii full then
    joinSpaces ((split (legalVariant full)).filter fun word => word ∉ englishGenericWords)
  else dropGenericTail (legalVariant full)

def nameVariants (folding : Folding) (raw : Text) : List Text :=
  let full := normalize folding raw
  ([full, legalVariant full, genericVariant full].filter fun variant => variant ≠ []).eraseDups

/-! ## `_score` -/

inductive LookupError where
  | zeroDivisionError
  | keyError
  | serviceUnavailableError
  deriving DecidableEq, Repr

abbrev Score := List ℚ

def latinPrefixLen : Nat := 3
def cjkMinQueryLen : Nat := 2

def divide (numerator denominator : Nat) : Except LookupError ℚ :=
  if denominator = 0 then .error .zeroDivisionError
  else .ok ((numerator : ℚ) / denominator)

def latinWordHits (words others : List Text) : Nat :=
  words.countP fun word => others.any fun other =>
    other = word || (latinPrefixLen ≤ word.length && word.isPrefixOf other)

/-- Where the earliest match of `short` ends, in what follows position `pos`. -/
def earliestEnd (short : Text) (pos : Nat) : Text → Option Nat
  | [] => none
  | c :: rest =>
      match short with
      | [] => none
      | s :: shorter =>
          if c = s then
            if shorter = [] then some (pos + 1) else earliestEnd shorter (pos + 1) rest
          else earliestEnd (s :: shorter) (pos + 1) rest

/-- Where a match starts that is found from the end, both texts reversed. -/
def latestStart : Text → Text → Nat
  | [], long => long.length
  | _ :: _, [] => 0
  | s :: short, c :: long =>
      if c = s then latestStart short long else latestStart (s :: short) long

/-- `short` is not empty. -/
def subsequenceSpan (short long : Text) : Option (Nat × Nat) :=
  (earliestEnd short 0 long).map fun endPos =>
    (latestStart short.reverse (long.take endPos).reverse, endPos)

def scoreLatin (q n : Text) : Except LookupError (Option Score) := do
  let queryWords := split q
  let nameWords := split n
  let nameHits := latinWordHits nameWords queryWords
  if nameHits = nameWords.length ∧ latinPrefixLen ≤ (nameWords.map List.length).sum then
    let share ← divide nameHits queryWords.length
    return some [4, share, nameWords.length]
  else
    let queryHits := latinWordHits queryWords nameWords
    if queryHits = queryWords.length then
      let share ← divide queryHits nameWords.length
      return some [3, share, -n.length]
    else return none

def scoreCjk (q n : Text) : Except LookupError (Option Score) :=
  if q.length < cjkMinQueryLen then .ok none
  else if ¬ (q ⊆ n ∨ n ⊆ q) then .ok none
  else
    match if q.length ≤ n.length then subsequenceSpan q n else none with
    | some (start, endPos) => do
        let compactness ← divide q.length (endPos - start)
        let share ← divide q.length n.length
        return some [5, compactness, if start = 0 then 1 else 0, share, -n.length]
    | none =>
        if 3 ≤ n.length ∧ n.length < q.length ∧ (subsequenceSpan n q).isSome then do
          let share ← divide n.length q.length
          return some [4, share, n.length]
        else .ok none

def score (q n : Text) : Except LookupError (Option Score) :=
  if isAscii q ≠ isAscii n then .ok none
  else if isAscii q then scoreLatin q n
  else scoreCjk q n

/-! ## Words -/

theorem mem_keepWord {word other : Text} {words : List Text} :
    other ∈ keepWord word words ↔ (other = word ∧ word ≠ []) ∨ other ∈ words := by
  unfold keepWord
  by_cases empty : word = []
  · simp [empty]
  · simp [empty]

theorem wordsFrom_chars {separates : Char → Bool} (text : Text) :
    (∀ c ∈ (wordsFrom separates text).1, separates c = false ∧ c ∈ text) ∧
    ∀ word ∈ (wordsFrom separates text).2, word ≠ [] ∧
      ∀ c ∈ word, separates c = false ∧ c ∈ text := by
  induction text with
  | nil => simp [wordsFrom]
  | cons c rest ih =>
      obtain ⟨first, later⟩ := ih
      have firstIn (d : Char) (member : d ∈ (wordsFrom separates rest).1) :
          separates d = false ∧ d ∈ c :: rest :=
        ⟨(first d member).1, List.mem_cons_of_mem _ (first d member).2⟩
      have laterIn (word : Text) (member : word ∈ (wordsFrom separates rest).2) :
          word ≠ [] ∧ ∀ d ∈ word, separates d = false ∧ d ∈ c :: rest :=
        ⟨(later word member).1, fun d inside =>
          ⟨((later word member).2 d inside).1,
            List.mem_cons_of_mem _ ((later word member).2 d inside).2⟩⟩
      cases is : separates c with
      | true =>
          simp only [wordsFrom, is, if_true]
          refine ⟨fun d member => absurd member List.not_mem_nil, ?_⟩
          intro word member
          rcases mem_keepWord.mp member with ⟨rfl, nonempty⟩ | member
          · exact ⟨nonempty, firstIn⟩
          · exact laterIn word member
      | false =>
          simp only [wordsFrom, is]
          refine ⟨?_, laterIn⟩
          intro d member
          rcases List.mem_cons.mp member with rfl | member
          · exact ⟨is, List.mem_cons_self⟩
          · exact firstIn d member

theorem mem_splitWords {separates : Char → Bool} {text word : Text}
    (member : word ∈ splitWords separates text) :
    word ≠ [] ∧ ∀ c ∈ word, separates c = false ∧ c ∈ text := by
  obtain ⟨first, later⟩ := @wordsFrom_chars separates text
  rcases mem_keepWord.mp member with ⟨rfl, nonempty⟩ | member
  · exact ⟨nonempty, first⟩
  · exact later word member

theorem splitWords_cons {separates : Char → Bool} (c : Char) (rest : Text) :
    splitWords separates (c :: rest) ≠ [] ↔
      separates c = false ∨ splitWords separates rest ≠ [] := by
  cases is : separates c with
  | true => simp [splitWords, wordsFrom, is, keepWord]
  | false => simp [splitWords, wordsFrom, is, keepWord]

/-- A text with a character of a word has a word. -/
theorem splitWords_ne_nil {separates : Char → Bool} {text : Text} {c : Char}
    (member : c ∈ text) (inWord : separates c = false) : splitWords separates text ≠ [] := by
  induction text with
  | nil => exact absurd member List.not_mem_nil
  | cons first rest ih =>
      rw [splitWords_cons]
      rcases List.mem_cons.mp member with rfl | member
      · exact Or.inl inWord
      · exact Or.inr (ih member)

theorem joinSpaces_cons (word : Text) (words : List Text) :
    joinSpaces (word :: words) = if words = [] then word else word ++ ' ' :: joinSpaces words := by
  cases words with
  | nil => simp [joinSpaces]
  | cons second rest => simp [joinSpaces, List.intercalate, List.intersperse]

theorem mem_joinSpaces {words : List Text} {c : Char} (member : c ∈ joinSpaces words) :
    c = ' ' ∨ ∃ word ∈ words, c ∈ word := by
  induction words with
  | nil => exact absurd member List.not_mem_nil
  | cons word rest ih =>
      rw [joinSpaces_cons] at member
      split at member
      · exact Or.inr ⟨word, List.mem_cons_self, member⟩
      · rcases List.mem_append.mp member with here | later
        · exact Or.inr ⟨word, List.mem_cons_self, here⟩
        · rcases List.mem_cons.mp later with space | later
          · exact Or.inl space
          · rcases ih later with space | ⟨other, inRest, inside⟩
            · exact Or.inl space
            · exact Or.inr ⟨other, List.mem_cons_of_mem _ inRest, inside⟩

theorem mem_joinSpaces_of_mem {words : List Text} {word : Text} {c : Char}
    (member : word ∈ words) (inside : c ∈ word) : c ∈ joinSpaces words := by
  induction words with
  | nil => exact absurd member List.not_mem_nil
  | cons first rest ih =>
      rw [joinSpaces_cons]
      rcases List.mem_cons.mp member with rfl | member
      · split
        · exact inside
        · exact List.mem_append_left _ inside
      · have more : rest ≠ [] := List.ne_nil_of_mem member
        simp only [more, if_false]
        exact List.mem_append_right _ (List.mem_cons_of_mem _ (ih member))

/-! ## Every variant has a word -/

/-- The text does not begin with white space and has no newline. -/
def Tidy (text : Text) : Prop :=
  '\n' ∉ text ∧ ∀ c, text.head? = some c → isSpace c = false

theorem Tidy.of_isPrefix {text part : Text} (tidy : Tidy text) (begins : part <+: text) :
    Tidy part := by
  obtain ⟨rest, rfl⟩ := begins
  refine ⟨fun member => tidy.1 (List.mem_append_left _ member), ?_⟩
  intro c first
  cases part with
  | nil => cases first
  | cons head tail => exact tidy.2 c first

theorem Tidy.split_ne_nil {text : Text} (tidy : Tidy text) (nonempty : text ≠ []) :
    split text ≠ [] := by
  cases text with
  | nil => exact absurd rfl nonempty
  | cons c rest => exact splitWords_ne_nil List.mem_cons_self (tidy.2 c rfl)

theorem head_joinSpaces {words : List Text} {c : Char} (words' : ∀ word ∈ words, word ≠ [])
    (first : (joinSpaces words).head? = some c) : ∃ word ∈ words, c ∈ word := by
  cases words with
  | nil => cases first
  | cons word rest =>
      rw [joinSpaces_cons] at first
      cases word with
      | nil => exact absurd rfl (words' [] List.mem_cons_self)
      | cons d tail =>
          refine ⟨d :: tail, List.mem_cons_self, ?_⟩
          split at first <;> cases first <;> exact List.mem_cons_self

theorem mem_markLatinSpaces {previous c : Char} {text : Text}
    (member : c ∈ markLatinSpaces previous text) : c = nul ∨ c ∈ text := by
  induction text generalizing previous with
  | nil => exact absurd member List.not_mem_nil
  | cons d rest ih =>
      simp only [markLatinSpaces] at member
      rcases List.mem_cons.mp member with here | later
      · split at here
        · exact Or.inl here
        · exact Or.inr (here ▸ List.mem_cons_self)
      · rcases ih later with marked | kept
        · exact Or.inl marked
        · exact Or.inr (List.mem_cons_of_mem _ kept)

theorem plain_joinSpaces_split {text : Text} (noNul : nul ∉ text) {c : Char}
    (member : c ∈ joinSpaces (split text)) : c = ' ' ∨ (isSpace c = false ∧ c ≠ nul) := by
  rcases mem_joinSpaces member with space | ⟨word, inText, inside⟩
  · exact Or.inl space
  · obtain ⟨visible, fromText⟩ := (mem_splitWords inText).2 c inside
    refine Or.inr ⟨visible, ?_⟩
    rintro rfl
    exact noNul fromText

theorem normalize_tidy (folding : Folding) (text : Text) : Tidy (normalize folding text) := by
  unfold normalize
  extract_lets folded spaced
  have plain (c : Char) (member : c ∈ spaced) : c = ' ' ∨ (isSpace c = false ∧ c ≠ nul) :=
    plain_joinSpaces_split (folding.noNul _) member
  constructor
  · intro member
    obtain ⟨c, kept, is⟩ := List.mem_map.mp member
    obtain ⟨marked, notSpace⟩ := List.mem_filter.mp kept
    split at is
    · exact absurd is (by decide)
    · rename_i notNul
      rcases mem_markLatinSpaces marked with isNul | inSpaced
      · exact notNul isNul
      · rcases plain c inSpaced with space | ⟨visible, -⟩
        · simp [space] at notSpace
        · rw [is] at visible
          exact absurd visible (by decide)
  · intro c first
    cases begins : spaced with
    | nil => simp [begins, markLatinSpaces] at first
    | cons d rest =>
        obtain ⟨word, inText, inside⟩ := @head_joinSpaces (split folded) d
          (fun word member => (mem_splitWords member).1)
          (by rw [show joinSpaces (split folded) = spaced from rfl, begins]; rfl)
        have visible := ((mem_splitWords inText).2 d inside).1
        have notNul : d ≠ nul := by
          rintro rfl
          exact folding.noNul _ ((mem_splitWords inText).2 _ inside).2
        have notSpace : d ≠ ' ' := by
          rintro rfl
          exact absurd visible (by decide)
        simp only [begins, markLatinSpaces, notSpace, decide_false, Bool.false_and,
          Bool.false_eq_true, if_false] at first
        rw [List.filter_cons_of_pos (by simpa using notSpace)] at first
        simp only [List.map_cons, notNul, if_false, List.head?_cons, Option.some.injEq] at first
        exact first ▸ visible

theorem dropEnding_isPrefix (endings : List Text) (text : Text) :
    dropEnding endings text <+: text := by
  unfold dropEnding
  split
  · exact List.take_prefix _ _
  · exact List.prefix_rfl

theorem dropTail_suffix (text : Text) : dropTail text <:+ text := by
  fun_induction dropTail text with
  | case1 rest ih => exact ih.trans ⟨['股', '控'], rfl⟩
  | case2 rest ih => exact ih.trans ⟨['份', '股'], rfl⟩
  | case3 text => exact List.suffix_rfl

theorem beforeFinalNewline_tidy {strip : Text → Text} {text : Text} (tidy : Tidy text) :
    beforeFinalNewline strip text = strip text := by
  have none : text.getLast? ≠ some '\n' := fun last => tidy.1 (List.mem_of_getLast? last)
  simp [beforeFinalNewline, none]

theorem dropLegalSuffix_isPrefix {text : Text} (tidy : Tidy text) :
    dropLegalSuffix text <+: text := by
  rw [dropLegalSuffix, beforeFinalNewline_tidy tidy]
  exact dropEnding_isPrefix _ _

theorem dropGenericTail_isPrefix {text : Text} (tidy : Tidy text) :
    dropGenericTail text <+: text := by
  rw [dropGenericTail, beforeFinalNewline_tidy tidy]
  simpa using List.reverse_prefix.mpr (dropTail_suffix text.reverse)

theorem split_joinSpaces_ne_nil {words : List Text} (nonempty : joinSpaces words ≠ [])
    (visible : ∀ word ∈ words, word ≠ [] ∧ ∀ c ∈ word, isSpace c = false) :
    split (joinSpaces words) ≠ [] := by
  cases words with
  | nil => exact absurd rfl nonempty
  | cons word rest =>
      obtain ⟨some', chars⟩ := visible word List.mem_cons_self
      obtain ⟨c, inside⟩ := List.exists_mem_of_ne_nil word some'
      exact splitWords_ne_nil (mem_joinSpaces_of_mem List.mem_cons_self inside) (chars c inside)

/-- Every variant of a name has a word. -/
theorem nameVariants_split {folding : Folding} {raw variant : Text}
    (member : variant ∈ nameVariants folding raw) : split variant ≠ [] := by
  simp only [nameVariants, List.mem_eraseDups, List.mem_filter, List.mem_cons,
    List.not_mem_nil, or_false, decide_eq_true_eq] at member
  have tidy := normalize_tidy folding raw
  generalize normalize folding raw = full at member tidy
  obtain ⟨isVariant, nonempty⟩ := member
  cases ascii : isAscii full with
  | true =>
      rcases isVariant with rfl | rfl | rfl
      · exact tidy.split_ne_nil nonempty
      · simp only [legalVariant, ascii, if_true] at nonempty ⊢
        refine split_joinSpaces_ne_nil nonempty fun word kept => ?_
        have inside := mem_splitWords (List.mem_filter.mp kept).1
        refine ⟨inside.1, fun c member => ?_⟩
        have visible := (inside.2 c member).1
        simp only [Bool.or_eq_false_iff] at visible
        exact visible.1.1
      · simp only [genericVariant, ascii, if_true] at nonempty ⊢
        refine split_joinSpaces_ne_nil nonempty fun word kept => ?_
        have inside := mem_splitWords (List.mem_filter.mp kept).1
        exact ⟨inside.1, fun c member => (inside.2 c member).1⟩
  | false =>
      have legal : Tidy (legalVariant full) := by
        simp only [legalVariant, ascii]
        exact tidy.of_isPrefix (dropLegalSuffix_isPrefix tidy)
      rcases isVariant with rfl | rfl | rfl
      · exact tidy.split_ne_nil nonempty
      · exact legal.split_ne_nil nonempty
      · have generic : Tidy (genericVariant full) := by
          simp only [genericVariant, ascii]
          exact legal.of_isPrefix (dropGenericTail_isPrefix legal)
        exact generic.split_ne_nil nonempty

/-! ## Scoring divides by no zero -/

/-- The earliest match ends where a prefix first holds `short`. -/
theorem earliestEnd_sublist {short long : Text} {pos endPos : Nat}
    (found : earliestEnd short pos long = some endPos) :
    ∃ count, endPos = pos + count ∧ count ≤ long.length ∧ short.Sublist (long.take count) := by
  induction long generalizing short pos with
  | nil => cases short <;> cases found
  | cons c rest ih =>
      cases short with
      | nil => cases found
      | cons s shorter =>
          simp only [earliestEnd] at found
          split at found
          · rename_i same
            subst same
            split at found
            · rename_i last
              cases found
              exact ⟨1, rfl, by simp, by simp [last]⟩
            · obtain ⟨count, is, within, inside⟩ := ih found
              refine ⟨count + 1, by omega, by simpa using within, ?_⟩
              rw [List.take_succ_cons]
              exact inside.cons_cons c
          · obtain ⟨count, is, within, inside⟩ := ih found
            refine ⟨count + 1, by omega, by simpa using within, ?_⟩
            rw [List.take_succ_cons]
            exact inside.cons c

/-- A match leaves room for every character of `short`. -/
theorem latestStart_room {short long : Text} (inside : short.Sublist long) :
    latestStart short long + short.length ≤ long.length := by
  induction long generalizing short with
  | nil =>
      cases inside
      simp [latestStart]
  | cons c rest ih =>
      cases short with
      | nil => simp [latestStart]
      | cons s shorter =>
          simp only [latestStart, List.length_cons]
          split
          · have later : shorter.Sublist rest := by
              cases inside with
              | cons _ later => exact List.sublist_of_cons_sublist later
              | cons_cons _ later => exact later
            have room := ih later
            omega
          · rename_i apart
            cases inside with
            | cons _ later =>
                have room := ih later
                simp only [List.length_cons] at room
                omega
            | cons_cons => exact absurd rfl apart

theorem subsequenceSpan_room {short long : Text} {start endPos : Nat}
    (found : subsequenceSpan short long = some (start, endPos)) :
    start + short.length ≤ endPos ∧ endPos ≤ long.length := by
  obtain ⟨reached, ended, is⟩ := Option.map_eq_some_iff.mp found
  cases is
  obtain ⟨count, is, within, inside⟩ := earliestEnd_sublist ended
  rw [Nat.zero_add] at is
  subst is
  have room := latestStart_room (List.reverse_sublist.mpr inside)
  rw [List.length_reverse, List.length_reverse, List.length_take] at room
  omega

theorem divide_ok (numerator : Nat) {denominator : Nat} (positive : 0 < denominator) :
    divide numerator denominator = .ok ((numerator : ℚ) / denominator) := by
  have nonzero : denominator ≠ 0 := by omega
  simp [divide, nonzero]

theorem scoreLatin_ok {q n : Text} (query : split q ≠ []) (name : split n ≠ []) :
    ∃ result, scoreLatin q n = .ok result := by
  have queryWords := List.length_pos_of_ne_nil query
  have nameWords := List.length_pos_of_ne_nil name
  simp only [scoreLatin, divide_ok _ queryWords, divide_ok _ nameWords]
  split
  · exact ⟨_, rfl⟩
  · split
    · exact ⟨_, rfl⟩
    · exact ⟨_, rfl⟩

theorem scoreCjk_ok (q n : Text) : ∃ result, scoreCjk q n = .ok result := by
  unfold scoreCjk
  split
  · exact ⟨_, rfl⟩
  · rename_i long
    split
    · exact ⟨_, rfl⟩
    · split
      · rename_i start endPos matched
        split at matched
        · rename_i fits
          have room := subsequenceSpan_room matched
          rw [cjkMinQueryLen] at long
          rw [divide_ok _ (by omega), divide_ok _ (by omega)]
          exact ⟨_, rfl⟩
        · cases matched
      · split
        · rename_i shorter
          rw [divide_ok _ (by omega)]
          exact ⟨_, rfl⟩
        · exact ⟨_, rfl⟩

theorem score_ok {q n : Text} (query : split q ≠ []) (name : split n ≠ []) :
    ∃ result, score q n = .ok result := by
  unfold score
  split
  · exact ⟨_, rfl⟩
  · split
    · exact scoreLatin_ok query name
    · exact scoreCjk_ok q n

end WealthFinder.Pipeline
