import Mathlib.Data.List.Forall2
import WealthFinder.Pipeline.NameLookup

/-!
# The name check of a listed code

`name_matches_stock` accepts more and less than the name search: it knows no
words, so English words must come in the listed order, and a listed name must make
up most of the name that holds it.
-/

set_option autoImplicit false

namespace WealthFinder.Pipeline

/-! ## `name_matches_stock` -/

/-- What an iterator has left after `ch in chars`. -/
def restAfter (ch : Char) : Text → Option Text
  | [] => none
  | c :: rest => if c = ch then some rest else restAfter ch rest

def isSubsequence : Text → Text → Bool
  | [], _ => true
  | ch :: short, long =>
      match restAfter ch long with
      | none => false
      | some rest => isSubsequence short rest

/-- The float product is exact here whenever it is whole. -/
def nameInQueryMinRatio : ℚ := 3 / 5

def nameMatchesStock (folding : Folding) (cache : Option HKStockListCache) (name : Text)
    (stock : Stock) : Except LookupError Bool :=
  match cache with
  | none => .error .serviceUnavailableError
  | some cache =>
      let listed := cache.nameIndex.namesByCode stock.stockCode
      .ok ((nameVariants folding name).any fun q =>
        listed.any fun entry => entry.variants.any fun n =>
          isSubsequence q n ||
            (nameInQueryMinRatio * q.length ≤ n.length && isSubsequence n q))

/-! ## Subsequences -/

theorem restAfter_sublist {ch : Char} {short long rest : Text}
    (found : restAfter ch long = some rest) :
    (ch :: short).Sublist long ↔ short.Sublist rest := by
  induction long with
  | nil => cases found
  | cons c later ih =>
      simp only [restAfter] at found
      split at found
      · rename_i same
        subst same
        cases found
        exact List.cons_sublist_cons
      · rename_i apart
        rw [List.cons_sublist_cons', ih found, or_iff_left]
        intro given
        obtain ⟨same, -⟩ := given
        exact apart same.symm

theorem restAfter_none {ch : Char} {long : Text} (missing : restAfter ch long = none) :
    ch ∉ long := by
  induction long with
  | nil => exact List.not_mem_nil
  | cons c later ih =>
      simp only [restAfter] at missing
      split at missing
      · cases missing
      · rename_i apart
        rw [List.mem_cons, not_or]
        exact ⟨fun same => apart same.symm, ih missing⟩

theorem isSubsequence_iff {short long : Text} :
    isSubsequence short long = true ↔ short.Sublist long := by
  induction short generalizing long with
  | nil => simp [isSubsequence]
  | cons ch shorter ih =>
      cases found : restAfter ch long with
      | none =>
          have missing := restAfter_none found
          simp only [isSubsequence, found, Bool.false_eq_true, false_iff]
          intro inside
          exact missing (inside.subset List.mem_cons_self)
      | some rest =>
          simp only [isSubsequence, found]
          rw [ih, restAfter_sublist found]

/-! ## The names of a code -/

theorem mem_namesByCode_addName {folding : Folding} {index : StockNameIndex}
    (byCode : ∀ code entry, entry ∈ index.namesByCode code ↔
      entry ∈ index.names ∧ entry.stockCode = code)
    (item : String × Text) (code : String) (entry : NameEntry) :
    entry ∈ (addName folding index item).namesByCode code ↔
      entry ∈ (addName folding index item).names ∧ entry.stockCode = code := by
  unfold addName
  split
  · exact byCode code entry
  · simp only [mem_appendAt, byCode, List.mem_append, List.mem_singleton]
    constructor
    · intro given
      rcases given with ⟨member, same⟩ | ⟨rfl, rfl⟩
      · exact ⟨Or.inl member, same⟩
      · exact ⟨Or.inr rfl, rfl⟩
    · intro given
      rcases given with ⟨member | rfl, same⟩
      · exact Or.inl ⟨member, same⟩
      · exact Or.inr ⟨same.symm, rfl⟩

theorem mem_namesByCode (folding : Folding) (list : StockList) (code : String)
    (entry : NameEntry) :
    entry ∈ (buildNameIndex folding list).namesByCode code ↔
      entry ∈ (buildNameIndex folding list).names ∧ entry.stockCode = code := by
  rw [buildNameIndex_foldl]
  refine List.foldlRecOn list.named (addName folding)
    (motive := fun index => ∀ code entry, entry ∈ index.namesByCode code ↔
      entry ∈ index.names ∧ entry.stockCode = code) ?_ ?_ code entry
  · intro code entry
    simp [StockNameIndex.empty]
  · intro index byCode item _
    exact mem_namesByCode_addName byCode item

/-- What the check asks of a variant of the name and one of the listed name. -/
def Fits (q n : Text) : Prop :=
  q.Sublist n ∨ (nameInQueryMinRatio * q.length ≤ n.length ∧ n.Sublist q)

theorem nameMatchesStock_iff (folding : Folding) (list : StockList) (name : Text)
    (stock : Stock) :
    nameMatchesStock folding (some (.create folding list)) name stock = .ok true ↔
      ∃ raw, (stock.stockCode, raw) ∈ list.named ∧ ∃ q ∈ nameVariants folding name,
        ∃ n ∈ nameVariants folding raw, Fits q n := by
  have indexed := indexed_buildNameIndex folding list
  simp only [nameMatchesStock, HKStockListCache.create, Except.ok.injEq, List.any_eq_true,
    Bool.or_eq_true, Bool.and_eq_true, decide_eq_true_eq, isSubsequence_iff]
  constructor
  · intro given
    obtain ⟨q, ofQuery, entry, listed, n, ofEntry, fits⟩ := given
    obtain ⟨inNames, sameCode⟩ := (mem_namesByCode _ _ _ _).mp listed
    obtain ⟨raw, isNamed, is, -⟩ := indexed.sound entry inNames
    exact ⟨raw, sameCode ▸ isNamed, q, ofQuery, n, is ▸ ofEntry, fits⟩
  · intro given
    obtain ⟨raw, isNamed, q, ofQuery, n, ofName, fits⟩ := given
    obtain ⟨entry, inNames, sameCode, is⟩ :=
      indexed.complete _ raw isNamed (List.ne_nil_of_mem ofName)
    exact ⟨q, ofQuery, entry, (mem_namesByCode _ _ _ _).mpr ⟨inNames, sameCode⟩, n,
      is ▸ ofName, fits⟩

/-! ## A variant's words stand one space apart -/

/-- White space is a single space before a Latin letter. -/
def Spaced : Text → Prop
  | [] => True
  | c :: rest =>
      (isSpace c = true → c = ' ' ∧ rest.head?.any isLatin = true) ∧ Spaced rest

theorem visible_of_isLatin {c : Char} (latin : isLatin c = true) : isSpace c = false := by
  have bounds : 48 ≤ c.toNat ∧ c.toNat ≤ 122 := by
    simp only [isLatin, Bool.or_eq_true, Bool.and_eq_true, decide_eq_true_eq, Char.le_def,
      UInt32.le_iff_toNat_le] at latin
    have digits : ('0'.val.toNat, '9'.val.toNat, 'a'.val.toNat, 'z'.val.toNat) =
        (48, 57, 97, 122) := rfl
    simp only [Prod.mk.injEq] at digits
    have value : c.val.toNat = c.toNat := rfl
    omega
  simp only [isSpace, Bool.or_eq_false_iff, Bool.and_eq_false_iff, decide_eq_false_iff_not]
  omega

/-- The text that the words of a spaced text make. -/
theorem Spaced.wordsFrom {text : Text} (spaced : Spaced text) :
    text = (wordsFrom isSpace text).1 ++
      if (wordsFrom isSpace text).2 = [] then []
      else ' ' :: joinSpaces (wordsFrom isSpace text).2 := by
  induction text with
  | nil => rfl
  | cons c rest ih =>
      obtain ⟨here, later⟩ := spaced
      have joined := ih later
      cases is : isSpace c with
      | false =>
          simp only [Pipeline.wordsFrom, is, Bool.false_eq_true, if_false, List.cons_append]
          exact congrArg (c :: ·) joined
      | true =>
          obtain ⟨rfl, next⟩ := here is
          have word : (Pipeline.wordsFrom isSpace rest).1 ≠ [] := by
            cases rest with
            | nil => cases next
            | cons d tail => simp [Pipeline.wordsFrom, visible_of_isLatin next]
          simp only [Pipeline.wordsFrom, is, if_true, keepWord, word, if_false, List.nil_append,
            List.cons_ne_nil, joinSpaces_cons]
          congr 1
          split
          · rename_i last
            simpa [last] using joined
          · rename_i more
            simpa [more] using joined

theorem Spaced.joinSpaces_split {text : Text} (spaced : Spaced text)
    (begins : ∀ c, text.head? = some c → isSpace c = false) :
    joinSpaces (split text) = text := by
  have joined := spaced.wordsFrom
  cases text with
  | nil => rfl
  | cons c rest =>
      have word : (Pipeline.wordsFrom isSpace (c :: rest)).1 ≠ [] := by
        simp [Pipeline.wordsFrom, begins c rfl]
      rw [split, splitWords, keepWord, if_neg word, joinSpaces_cons]
      conv_rhs => rw [joined]
      split
      · rw [List.append_nil]
      · rfl

/-- An ending goes that no Latin letter begins. -/
theorem Spaced.of_append {text ending : Text} (spaced : Spaced (text ++ ending))
    (begins : ending.head?.any isLatin = false) : Spaced text := by
  induction text with
  | nil => trivial
  | cons c rest ih =>
      obtain ⟨here, later⟩ := spaced
      refine ⟨?_, ih later⟩
      intro is
      obtain ⟨space, next⟩ := here is
      refine ⟨space, ?_⟩
      cases rest with
      | nil =>
          have same : ending.head?.any isLatin = true := next
          rw [begins] at same
          cases same
      | cons d tail => exact next

/-- `_SPACE_BETWEEN_LATIN_RE` keeps a space only before a Latin letter. -/
theorem spaced_markLatinSpaces {text : Text}
    (plain : ∀ c ∈ text, c = ' ' ∨ (isSpace c = false ∧ c ≠ nul)) (previous : Char) :
    Spaced (((markLatinSpaces previous text).filter fun c => c ≠ ' ').map fun c =>
      if c = nul then ' ' else c) := by
  induction text generalizing previous with
  | nil => trivial
  | cons c rest ih =>
      have later := ih fun d member => plain d (List.mem_cons_of_mem _ member)
      simp only [markLatinSpaces]
      split
      · rename_i marked
        simp only [Bool.and_eq_true, decide_eq_true_eq] at marked
        rw [List.filter_cons_of_pos (by decide), List.map_cons, if_pos rfl]
        refine ⟨?_, later c⟩
        intro _
        refine ⟨rfl, ?_⟩
        cases rest with
        | nil => exact absurd marked.2 (by simp)
        | cons d tail =>
            have latin : isLatin d = true := marked.2
            have visible := visible_of_isLatin latin
            have notSpace : d ≠ ' ' := by
              rintro rfl
              exact absurd visible (by decide)
            have notNul : d ≠ nul := by
              rintro rfl
              exact absurd latin (by decide)
            simp [markLatinSpaces, notSpace, notNul, latin]
      · rcases plain c List.mem_cons_self with rfl | ⟨visible, notNul⟩
        · rw [List.filter_cons_of_neg (by simp)]
          exact later ' '
        · have notSpace : c ≠ ' ' := by
            rintro rfl
            exact absurd visible (by decide)
          rw [List.filter_cons_of_pos (by simpa using notSpace), List.map_cons, if_neg notNul]
          refine ⟨?_, later c⟩
          intro is
          rw [visible] at is
          cases is

theorem spaced_normalize (folding : Folding) (text : Text) : Spaced (normalize folding text) :=
  spaced_markLatinSpaces (fun _ member => plain_joinSpaces_split (folding.noNul _) member) ' '

theorem dropEnding_append (endings : List Text) (text : Text) :
    ∃ ending, text = dropEnding endings text ++ ending ∧ (ending = [] ∨ ending ∈ endings) := by
  unfold dropEnding
  split
  · rename_i ending found
    have suffix : ending <:+ text := by
      simpa using List.find?_some found
    obtain ⟨before, rfl⟩ := suffix
    exact ⟨ending, by simp, Or.inr (List.mem_of_find?_eq_some found)⟩
  · exact ⟨[], by simp, Or.inl rfl⟩

theorem dropTail_append (text : Text) :
    ∃ tail, text = tail ++ dropTail text ∧ tail.getLast?.any isLatin = false := by
  fun_induction dropTail text with
  | case1 rest ih =>
      obtain ⟨tail, is, last⟩ := ih
      refine ⟨'股' :: '控' :: tail, by simp only [List.cons_append, ← is], ?_⟩
      cases tail with
      | nil => decide
      | cons c tail => simpa using last
  | case2 rest ih =>
      obtain ⟨tail, is, last⟩ := ih
      refine ⟨'份' :: '股' :: tail, by simp only [List.cons_append, ← is], ?_⟩
      cases tail with
      | nil => decide
      | cons c tail => simpa using last
  | case3 text => exact ⟨[], rfl, rfl⟩

theorem Spaced.dropLegalSuffix {text : Text} (spaced : Spaced text) (tidy : Tidy text) :
    Spaced (dropLegalSuffix text) := by
  rw [Pipeline.dropLegalSuffix, beforeFinalNewline_tidy tidy]
  obtain ⟨ending, is, listed⟩ := dropEnding_append
    (["股份有限公司", "有限公司", "公司"].map String.toList) text
  rw [is] at spaced
  refine spaced.of_append ?_
  have endings : ∀ ending ∈ ["股份有限公司", "有限公司", "公司"].map String.toList,
      ending.head?.any isLatin = false := by decide
  rcases listed with rfl | listed
  · rfl
  · exact endings ending listed

theorem Spaced.dropGenericTail {text : Text} (spaced : Spaced text) (tidy : Tidy text) :
    Spaced (dropGenericTail text) := by
  rw [Pipeline.dropGenericTail, beforeFinalNewline_tidy tidy]
  obtain ⟨tail, is, last⟩ := dropTail_append text.reverse
  have same : text = (dropTail text.reverse).reverse ++ tail.reverse := by
    rw [← List.reverse_append, ← is, List.reverse_reverse]
  rw [same] at spaced
  refine spaced.of_append ?_
  rwa [List.head?_reverse]

theorem wordsFrom_append {separates : Char → Bool} {word : Text} (rest : Text)
    (inWord : ∀ c ∈ word, separates c = false) :
    wordsFrom separates (word ++ rest) =
      (word ++ (wordsFrom separates rest).1, (wordsFrom separates rest).2) := by
  induction word with
  | nil => rfl
  | cons c tail ih =>
      have later := ih fun d member => inWord d (List.mem_cons_of_mem _ member)
      simp [wordsFrom, later, inWord c List.mem_cons_self]

theorem split_joinSpaces {words : List Text}
    (visible : ∀ word ∈ words, word ≠ [] ∧ ∀ c ∈ word, isSpace c = false) :
    split (joinSpaces words) = words := by
  induction words with
  | nil => rfl
  | cons word rest ih =>
      obtain ⟨nonempty, chars⟩ := visible word List.mem_cons_self
      have later := ih fun other member => visible other (List.mem_cons_of_mem _ member)
      rw [joinSpaces_cons]
      split
      · rename_i last
        have alone := @wordsFrom_append isSpace word [] chars
        rw [List.append_nil] at alone
        simp [Pipeline.split, splitWords, alone, wordsFrom, keepWord, nonempty, last]
      · have space : isSpace ' ' = true := by decide
        rw [Pipeline.split, splitWords, wordsFrom_append _ chars]
        rw [Pipeline.split, splitWords] at later
        simp only [wordsFrom, space, if_true, List.append_nil, later]
        exact if_neg nonempty

/-- The words of a variant make the variant. -/
theorem joinSpaces_split_variant {folding : Folding} {raw variant : Text}
    (member : variant ∈ nameVariants folding raw) : joinSpaces (split variant) = variant := by
  simp only [nameVariants, List.mem_eraseDups, List.mem_filter, List.mem_cons,
    List.not_mem_nil, or_false, decide_eq_true_eq] at member
  have tidy := normalize_tidy folding raw
  have spaced := spaced_normalize folding raw
  generalize normalize folding raw = full at member tidy spaced
  obtain ⟨isVariant, -⟩ := member
  have ofWords {words : List Text}
      (visible : ∀ word ∈ words, word ≠ [] ∧ ∀ c ∈ word, isSpace c = false) :
      joinSpaces (split (joinSpaces words)) = joinSpaces words :=
    congrArg joinSpaces (split_joinSpaces visible)
  cases ascii : isAscii full with
  | true =>
      rcases isVariant with rfl | rfl | rfl
      · exact spaced.joinSpaces_split tidy.2
      · simp only [legalVariant, ascii, if_true]
        refine ofWords fun word kept => ?_
        have inside := mem_splitWords (List.mem_filter.mp kept).1
        refine ⟨inside.1, fun c member => ?_⟩
        have visible := (inside.2 c member).1
        simp only [Bool.or_eq_false_iff] at visible
        exact visible.1.1
      · simp only [genericVariant, ascii, if_true]
        refine ofWords fun word kept => ?_
        have inside := mem_splitWords (List.mem_filter.mp kept).1
        exact ⟨inside.1, fun c member => (inside.2 c member).1⟩
  | false =>
      have legalTidy : Tidy (legalVariant full) := by
        simp only [legalVariant, ascii]
        exact tidy.of_isPrefix (dropLegalSuffix_isPrefix tidy)
      have legal : Spaced (legalVariant full) := by
        simp only [legalVariant, ascii]
        exact spaced.dropLegalSuffix tidy
      rcases isVariant with rfl | rfl | rfl
      · exact spaced.joinSpaces_split tidy.2
      · exact legal.joinSpaces_split legalTidy.2
      · have genericTidy : Tidy (genericVariant full) := by
          simp only [genericVariant, ascii]
          exact legalTidy.of_isPrefix (dropGenericTail_isPrefix legalTidy)
        have generic : Spaced (genericVariant full) := by
          simp only [genericVariant, ascii]
          exact legal.dropGenericTail legalTidy
        exact generic.joinSpaces_split genericTidy.2

/-! ## What a score says -/

/-- The ways in which a query's variant matches a name's. -/
inductive Scored (q n : Text) : Score → Prop where
  | nameWords (latin : isAscii q = true ∧ isAscii n = true)
      (hits : latinWordHits (split n) (split q) = (split n).length)
      (letters : latinPrefixLen ≤ ((split n).map List.length).sum) (details : Score) :
      Scored q n (4 :: details)
  | queryWords (latin : isAscii q = true ∧ isAscii n = true)
      (hits : latinWordHits (split q) (split n) = (split q).length) (details : Score) :
      Scored q n (3 :: details)
  | abbreviation (inside : q.Sublist n) (details : Score) : Scored q n (5 :: details)
  | nameInside (inside : n.Sublist q) (details : Score) : Scored q n (4 :: details)

theorem subsequenceSpan_sublist {short long : Text}
    (found : (subsequenceSpan short long).isSome) : short.Sublist long := by
  obtain ⟨span, is⟩ := Option.isSome_iff_exists.mp found
  obtain ⟨reached, ended, -⟩ := Option.map_eq_some_iff.mp is
  obtain ⟨count, -, -, inside⟩ := earliestEnd_sublist ended
  exact inside.trans (List.take_sublist _ _)

theorem of_divide_bind {Result : Type} {numerator denominator : Nat}
    {next : ℚ → Except LookupError Result} {result : Result}
    (returned : divide numerator denominator >>= next = .ok result) :
    ∃ share, next share = .ok result := by
  unfold divide at returned
  split at returned
  · cases returned
  · exact ⟨_, returned⟩

theorem scored_of_scoreLatin {q n : Text} {top : Score}
    (latin : isAscii q = true ∧ isAscii n = true)
    (is : scoreLatin q n = .ok (some top)) : Scored q n top := by
  simp only [scoreLatin] at is
  split at is
  · rename_i whole
    obtain ⟨share, returned⟩ := of_divide_bind is
    cases returned
    exact .nameWords latin whole.1 whole.2 _
  · split at is
    · rename_i whole
      obtain ⟨share, returned⟩ := of_divide_bind is
      cases returned
      exact .queryWords latin whole _
    · cases is

theorem scored_of_scoreCjk {q n : Text} {top : Score}
    (is : scoreCjk q n = .ok (some top)) : Scored q n top := by
  unfold scoreCjk at is
  split at is
  · cases is
  · split at is
    · cases is
    · split at is
      · rename_i start endPos matched
        split at matched
        · obtain ⟨compactness, returned⟩ := of_divide_bind is
          obtain ⟨share, returned⟩ := of_divide_bind returned
          cases returned
          exact .abbreviation (subsequenceSpan_sublist (by rw [matched]; rfl)) _
        · cases matched
      · split at is
        · rename_i inside
          obtain ⟨share, returned⟩ := of_divide_bind is
          cases returned
          exact .nameInside (subsequenceSpan_sublist inside.2.2) _
        · cases is

theorem scored_of_score {q n : Text} {top : Score} (is : score q n = .ok (some top)) :
    Scored q n top := by
  unfold score at is
  split at is
  · cases is
  · rename_i same
    split at is
    · rename_i latin
      rw [not_ne_iff, latin] at same
      exact scored_of_scoreLatin ⟨latin, same.symm⟩ is
    · exact scored_of_scoreCjk is

/-! ## A name that the search finds -/

/-- Every list that the program builds is keyed by its stocks' own codes. -/
def StockList.Keyed (list : StockList) : Prop :=
  ∀ entry ∈ list.entries, entry.2.stockCode = entry.1

instance (list : StockList) : Decidable list.Keyed :=
  inferInstanceAs (Decidable (∀ entry ∈ list.entries, entry.2.stockCode = entry.1))

/-- English words of one text begin words of another, in the same order. -/
def InOrder (short long : Text) : Prop :=
  isAscii short = true → List.SublistForall₂ (fun word other => word <+: other)
    (split short) (split long)

/-- The listed name makes up too little of the query that holds it. -/
def ShortName (q n : Text) (top : Score) : Prop :=
  top.head? = some 4 ∧ (n.length : ℚ) < nameInQueryMinRatio * q.length

/-- The words of the side that the other holds stand in another order there. -/
def MovedWords (q n : Text) (top : Score) : Prop :=
  (top.head? = some 4 ∧ ¬ InOrder n q) ∨ (top.head? = some 3 ∧ ¬ InOrder q n)

theorem joinSpaces_sublist {words others : List Text}
    (inOrder : List.SublistForall₂ (fun word other => word <+: other) words others) :
    (joinSpaces words).Sublist (joinSpaces others) := by
  induction inOrder with
  | nil => exact List.nil_sublist _
  | @cons word other words others begins later ih =>
      rw [joinSpaces_cons, joinSpaces_cons]
      split
      · split
        · exact begins.sublist
        · exact begins.sublist.trans (List.sublist_append_left _ _)
      · rename_i more
        have others' : others ≠ [] := by
          rintro rfl
          cases later
          exact more rfl
        rw [if_neg others']
        exact begins.sublist.append (ih.cons_cons ' ')
  | @cons_right other words others later ih =>
      rw [joinSpaces_cons]
      split
      · rename_i last
        subst last
        cases later
        exact List.nil_sublist _
      · exact ih.trans ((List.sublist_cons_self _ _).trans (List.sublist_append_right _ _))

/-- A pair that matches passes the check, unless the name is short or words moved. -/
theorem fits_of_score {folding : Folding} {name raw q n : Text} {top : Score}
    (ofQuery : q ∈ nameVariants folding name) (ofName : n ∈ nameVariants folding raw)
    (is : score q n = .ok (some top)) :
    Fits q n ∨ ShortName q n top ∨ MovedWords q n top := by
  have sublist {short long raw raw' : Text} (shortIs : short ∈ nameVariants folding raw)
      (longIs : long ∈ nameVariants folding raw') (latin : isAscii short = true)
      (inOrder : InOrder short long) : short.Sublist long := by
    rw [← joinSpaces_split_variant shortIs, ← joinSpaces_split_variant longIs]
    exact joinSpaces_sublist (inOrder latin)
  have most (details : Score) (inside : n.Sublist q) :
      Fits q n ∨ ShortName q n (4 :: details) ∨ MovedWords q n (4 :: details) := by
    by_cases short : (n.length : ℚ) < nameInQueryMinRatio * q.length
    · exact Or.inr (Or.inl ⟨rfl, short⟩)
    · exact Or.inl (Or.inr ⟨not_lt.mp short, inside⟩)
  cases scored_of_score is with
  | nameWords latin hits letters details =>
      by_cases inOrder : InOrder n q
      · exact most details (sublist ofName ofQuery latin.2 inOrder)
      · exact Or.inr (Or.inr (Or.inl ⟨rfl, inOrder⟩))
  | queryWords latin hits details =>
      by_cases inOrder : InOrder q n
      · exact Or.inl (Or.inl (sublist ofQuery ofName latin.1 inOrder))
      · exact Or.inr (Or.inr (Or.inr ⟨rfl, inOrder⟩))
  | abbreviation inside details => exact Or.inl (Or.inl inside)
  | nameInside inside details => exact most details inside

theorem lookup_decides {folding : Folding} {list : StockList} {name : Text} {stock : Stock}
    (found : lookupStock folding (some (.create folding list)) name = .ok (some stock)) :
    ∃ code, Decides folding list name code ∧ (code, stock) ∈ list.entries := by
  obtain ⟨decided, undecided⟩ := lookupStock_ok folding list name
  by_cases only : ∃ code, ∀ other, Decides folding list name other ↔ other = code
  · obtain ⟨code, only⟩ := only
    have decides := (only code).mpr rfl
    obtain ⟨listed, member⟩ := decides.listed
    rw [decided code listed only member] at found
    split at found
    · cases found
    · cases found
      exact ⟨code, decides, member⟩
  · rw [undecided only] at found
    cases found

/-- The names of a listed stock are those under its code. -/
theorem rawNames_of_named {list : StockList} (keyed : list.Keyed) {code : String}
    {stock : Stock} {raw : Text} (member : (code, stock) ∈ list.entries) :
    (stock.stockCode, raw) ∈ list.named ↔ raw ∈ stock.rawNames := by
  have same : stock.stockCode = code := keyed _ member
  simp only [mem_named, same, Stock.rawNames, List.mem_eraseDups, List.mem_cons,
    List.not_mem_nil, or_false]
  constructor
  · intro given
    obtain ⟨other, member', isName⟩ := given
    have sameStock := (list.get_of_mem member').symm.trans (list.get_of_mem member)
    rwa [Option.some.inj sameStock] at isName
  · exact fun isName => ⟨stock, member, isName⟩

/-- A name that the search finds passes the name check, unless the search had no
exact match and every pair that matches the stock is a short listed name inside the
query or English words in another order. -/
theorem lookup_checks (folding : Folding) (list : StockList) (keyed : list.Keyed)
    (name : Text) (stock : Stock)
    (found : lookupStock folding (some (.create folding list)) name = .ok (some stock)) :
    nameMatchesStock folding (some (.create folding list)) name stock = .ok true ∨
      ((¬ ∃ code, ExactMatch folding list name code) ∧
        BestMatch folding list name stock.stockCode ∧
        ∀ raw ∈ stock.rawNames, ∀ q ∈ nameVariants folding name,
          ∀ n ∈ nameVariants folding raw, ∀ top, score q n = .ok (some top) →
            ShortName q n top ∨ MovedWords q n top) := by
  obtain ⟨code, decides, member⟩ := lookup_decides found
  have same : stock.stockCode = code := keyed _ member
  rw [nameMatchesStock_iff]
  rcases decides with ⟨-, raw, isNamed, n, ofName, ofQuery⟩ | ⟨none, best⟩
  · left
    exact ⟨raw, same ▸ isNamed, n, ofQuery, n, ofName, Or.inl (List.Sublist.refl n)⟩
  · by_cases fits : ∃ raw, (stock.stockCode, raw) ∈ list.named ∧
        ∃ q ∈ nameVariants folding name, ∃ n ∈ nameVariants folding raw, Fits q n
    · exact Or.inl fits
    · refine Or.inr ⟨none, same ▸ best, ?_⟩
      intro raw ofStock q ofQuery n ofName top is
      have isNamed := (rawNames_of_named keyed member).mpr ofStock
      refine (fits_of_score ofQuery ofName is).resolve_left fun fit => ?_
      exact fits ⟨raw, isNamed, q, ofQuery, n, ofName, fit⟩

theorem lookup_checks_sample : nameMatchesStock sampleFolding
    (some (.create sampleFolding sampleStockList)) "腾讯".toList
    (sampleStock "00700" "騰訊控股") = .ok true :=
  (lookup_checks sampleFolding sampleStockList (by decide) "腾讯".toList
    (sampleStock "00700" "騰訊控股") (by decide +kernel)).resolve_right fun failed =>
      failed.1 ⟨"00700", "騰訊控股".toList, by decide, "腾讯".toList, by decide +kernel,
        by decide +kernel⟩

def englishStockList : StockList :=
  ⟨[("00700", sampleStock "00700" "tencent"), ("02628", sampleStock "02628" "china life")],
    by decide⟩

/-- A listed name that is a quarter of the query, and words in another order. -/
theorem lookup_fails_check : englishStockList.Keyed ∧
    (lookupStock sampleFolding (some (.create sampleFolding englishStockList))
        "tencent music entertainment".toList = .ok (some (sampleStock "00700" "tencent")) ∧
      nameMatchesStock sampleFolding (some (.create sampleFolding englishStockList))
        "tencent music entertainment".toList (sampleStock "00700" "tencent") = .ok false) ∧
    (lookupStock sampleFolding (some (.create sampleFolding englishStockList))
        "life china".toList = .ok (some (sampleStock "02628" "china life")) ∧
      nameMatchesStock sampleFolding (some (.create sampleFolding englishStockList))
        "life china".toList (sampleStock "02628" "china life") = .ok false) := by
  refine ⟨by decide, ⟨by decide +kernel, by decide +kernel⟩, by decide +kernel, ?_⟩
  decide +kernel

end WealthFinder.Pipeline
