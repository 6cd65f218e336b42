import WealthFinder.Regex
import WealthFinder.Pipeline.NameMatching

/-!
# Codes that an article prints

`_code_printed` searches an article for a pattern built from the code's number.
What it finds is a whole run of digits in one of the code-shaped contexts.
-/

set_option autoImplicit false

namespace WealthFinder.Pipeline

open Regex

/-! ## Digits and numbers -/

/-- The zeros of the decimal digits of Unicode 15.0, each followed by its nine others. -/
def decimalZeros : List Nat :=
  [0x30, 0x660, 0x6F0, 0x7C0, 0x966, 0x9E6, 0xA66, 0xAE6, 0xB66, 0xBE6, 0xC66, 0xCE6,
    0xD66, 0xDE6, 0xE50, 0xED0, 0xF20, 0x1040, 0x1090, 0x17E0, 0x1810, 0x1946, 0x19D0,
    0x1A80, 0x1A90, 0x1B50, 0x1BB0, 0x1C40, 0x1C50, 0xA620, 0xA8D0, 0xA900, 0xA9D0, 0xA9F0,
    0xAA50, 0xABF0, 0xFF10, 0x104A0, 0x10D30, 0x11066, 0x110F0, 0x11136, 0x111D0, 0x112F0,
    0x11450, 0x114D0, 0x11650, 0x116C0, 0x11730, 0x118E0, 0x11950, 0x11C50, 0x11D50,
    0x11DA0, 0x11F50, 0x16A60, 0x16AC0, 0x16B50, 0x1D7CE, 0x1D7D8, 0x1D7E2, 0x1D7EC,
    0x1D7F6, 0x1E140, 0x1E2F0, 0x1E4F0, 0x1E950, 0x1FBF0]

def decimalDigit (c : Char) : Option Nat :=
  (decimalZeros.find? fun first => first ≤ c.toNat && c.toNat < first + 10).map fun first =>
    c.toNat - first

/-- `\d`. -/
def isDecimal (c : Char) : Bool := (decimalDigit c).isSome

def strip (text : Text) : Text :=
  ((text.dropWhile isSpace).reverse.dropWhile isSpace).reverse

/-- The number that goes on with these digits, an underscore allowed before each. -/
def digitsFrom (value : Nat) : Text → Option Nat
  | [] => some value
  | '_' :: c :: rest =>
      (decimalDigit c).bind fun digit => digitsFrom (10 * value + digit) rest
  | c :: rest => (decimalDigit c).bind fun digit => digitsFrom (10 * value + digit) rest

def parseDigits : Text → Option Nat
  | [] => none
  | c :: rest => (decimalDigit c).bind fun digit => digitsFrom digit rest

/-- `int(text)`; `none` is a `ValueError`. -/
def parseInt (text : Text) : Option Int :=
  match strip text with
  | '-' :: digits => (parseDigits digits).map fun value => -(value : Int)
  | '+' :: digits => (parseDigits digits).map Int.ofNat
  | digits => (parseDigits digits).map Int.ofNat

/-- `str(number)`. -/
def numeral : Int → Text
  | .ofNat value => Nat.toDigits 10 value
  | .negSucc value => '-' :: Nat.toDigits 10 (value + 1)

/-! ## `_code_printed` -/

def longS : Char := Char.ofNat 0x17F
def kelvinSign : Char := Char.ofNat 0x212A

/-- A lower-case letter under `re.IGNORECASE`. -/
def anyCase (letter c : Char) : Bool :=
  c = letter || c = letter.toUpper || (letter = 's' && c = longS) ||
    (letter = 'k' && c = kelvinSign)

def isOpening (c : Char) : Bool := c = '（' || c = '('
def isClosing (c : Char) : Bool := c = ')' || c = '）'
def isColon (c : Char) : Bool := c = ':' || c = '：'

def hkSuffix : Text := ".HK".toList
def chineseLabel : Text := "股份代號".toList

def spaces : Regex Char := .star (.set isSpace)
def zeros : Regex Char := .star (.set fun c => c = '0')

def bracketedCode (number : Text) : Regex Char :=
  sequence [.set isOpening, spaces, .ahead (sets [isDecimal, isDecimal, isDecimal]), zeros,
    literal number, optional (literal hkSuffix), spaces, .set isClosing]

def suffixedCode (number : Text) : Regex Char :=
  sequence [.notBehind isDecimal, zeros, literal number, literal hkSuffix]

/-- `stock\s*codes?`. -/
def englishLabel : Regex Char :=
  sequence [sets ("stock".toList.map anyCase), spaces, sets ("code".toList.map anyCase),
    optional (.set (anyCase 's'))]

def labelledCode (label : Regex Char) (number : Text) : Regex Char :=
  sequence [label, spaces, optional (.set isColon), spaces, zeros, literal number,
    .notAhead (.set isDecimal)]

def codePattern (number : Text) : Regex Char :=
  .alt (bracketedCode number) (.alt (suffixedCode number)
    (.alt (labelledCode englishLabel number) (labelledCode (literal chineseLabel) number)))

def codePrinted (code : String) (articleText : Text) : Option Bool :=
  (parseInt code.toList).map fun number => (codePattern (numeral number)).search articleText

/-! ## Code-shaped forms -/

def AllSpace (text : Text) : Prop := ∀ c ∈ text, isSpace c = true

inductive IsLabel : Text → Prop where
  | english {stock between code plural : Text}
      (isStock : List.Forall₂ (fun letter c => anyCase letter c = true) "stock".toList stock)
      (white : AllSpace between)
      (isCode : List.Forall₂ (fun letter c => anyCase letter c = true) "code".toList code)
      (isPlural : plural = [] ∨ ∃ c, anyCase 's' c = true ∧ plural = [c]) :
      IsLabel (stock ++ between ++ code ++ plural)
  | chinese : IsLabel chineseLabel

/-- What may stand around the digits of a printed code. -/
inductive CodeShaped (before run after : Text) : Prop where
  | bracketed {earlier inside suffix inside' later : Text} {opening closing : Char}
      (begins : before = earlier ++ opening :: inside) (opens : isOpening opening = true)
      (white : AllSpace inside) (three : 3 ≤ run.length)
      (ends : after = suffix ++ inside' ++ closing :: later)
      (marked : suffix = [] ∨ suffix = hkSuffix) (white' : AllSpace inside')
      (closes : isClosing closing = true)
  | suffixed {later : Text} (ends : after = hkSuffix ++ later)
  | labelled {earlier label inside colon inside' : Text}
      (begins : before = earlier ++ label ++ inside ++ colon ++ inside')
      (isLabel : IsLabel label) (white : AllSpace inside)
      (marked : colon = [] ∨ ∃ c, isColon c = true ∧ colon = [c]) (white' : AllSpace inside')

/-- The article has a maximal run of digits that is zeros and this numeral, in a
code-shaped form. -/
def PrintsCode (number articleText : Text) : Prop :=
  ∃ before leading after, articleText = before ++ (leading ++ number) ++ after ∧
    (∀ c ∈ leading, c = '0') ∧
    before.getLast?.any isDecimal = false ∧ after.head?.any isDecimal = false ∧
    CodeShaped before (leading ++ number) after

/-! ## No digit stands around a match -/

theorem isDecimal_eq_false {c : Char}
    (apart : ∀ first ∈ decimalZeros, ¬ (first ≤ c.toNat ∧ c.toNat < first + 10)) :
    isDecimal c = false := by
  have none : (decimalZeros.find? fun first => first ≤ c.toNat && c.toNat < first + 10) = none := by
    rw [List.find?_eq_none]
    intro first member
    simpa using apart first member
  simp [isDecimal, decimalDigit, none]

theorem not_decimal_of_isSpace {c : Char} (space : isSpace c = true) : isDecimal c = false := by
  have gaps : ∀ first ∈ decimalZeros, (0x30 ≤ first ∧ first + 10 ≤ 0x85) ∨
      (0xA0 < first ∧ first + 10 ≤ 0x1680) ∨ (0x1680 < first ∧ first + 10 ≤ 0x2000) ∨
      0x3000 < first := by decide
  refine isDecimal_eq_false fun first member => ?_
  have gap := gaps first member
  simp only [isSpace, Bool.or_eq_true, Bool.and_eq_true, decide_eq_true_eq] at space
  omega

theorem none_of_any {text : Text} {accepts : Char → Bool} (none : text.any accepts = false) :
    ∀ c ∈ text, accepts c = false := by
  intro c member
  exact Bool.eq_false_iff.mpr (List.any_eq_false.mp none c member)

theorem not_decimal_of_anyCase {letter c : Char} (member : letter ∈ "stockde".toList)
    (is : anyCase letter c = true) : isDecimal c = false := by
  have lowers := none_of_any (by decide : "stockde".toList.any isDecimal = false)
  have uppers := none_of_any (by decide :
    "stockde".toList.any (fun letter => isDecimal letter.toUpper) = false)
  have others : isDecimal longS = false ∧ isDecimal kelvinSign = false := by decide
  have lower := lowers letter member
  have upper := uppers letter member
  simp only [anyCase, Bool.or_eq_true, Bool.and_eq_true, decide_eq_true_eq] at is
  rcases is with ((rfl | rfl) | ⟨-, rfl⟩) | ⟨-, rfl⟩
  · exact lower
  · exact upper
  · exact others.1
  · exact others.2

theorem getLast?_append_any {accepts : Char → Bool} {earlier text : Text}
    (nonempty : text ≠ []) (none : ∀ c ∈ text, accepts c = false) :
    (earlier ++ text).getLast?.any accepts = false := by
  rw [List.getLast?_append_of_ne_nil earlier nonempty, List.getLast?_eq_some_getLast nonempty]
  exact none _ (List.getLast_mem nonempty)

theorem not_decimal_of_forms {letters text : Text}
    (listed : letters ⊆ "stockde".toList)
    (forms : List.Forall₂ (fun letter c => anyCase letter c = true) letters text) :
    ∀ c ∈ text, isDecimal c = false := by
  induction forms with
  | nil => simp
  | @cons letter c letters text is _ ih =>
      intro d member
      rcases List.mem_cons.mp member with rfl | later
      · exact not_decimal_of_anyCase (listed List.mem_cons_self) is
      · exact ih (fun other inside => listed (List.mem_cons_of_mem _ inside)) d later

theorem IsLabel.not_decimal {label : Text} (isLabel : IsLabel label) :
    label ≠ [] ∧ ∀ c ∈ label, isDecimal c = false := by
  cases isLabel with
  | @english stock between code plural isStock white isCode isPlural =>
      refine ⟨?_, ?_⟩
      · cases isStock
        simp
      · intro c member
        simp only [List.mem_append] at member
        rcases member with ((inStock | inBetween) | inCode) | inPlural
        · exact not_decimal_of_forms (by decide) isStock c inStock
        · exact not_decimal_of_isSpace (white c inBetween)
        · exact not_decimal_of_forms (by decide) isCode c inCode
        · rcases isPlural with rfl | ⟨d, is, rfl⟩
          · cases inPlural
          · rw [List.mem_singleton.mp inPlural]
            exact not_decimal_of_anyCase (by decide) is
  | chinese => exact ⟨by decide, none_of_any (by decide)⟩

theorem not_decimal_of_isOpening {c : Char} (opens : isOpening c = true) :
    isDecimal c = false := by
  simp only [isOpening, Bool.or_eq_true, decide_eq_true_eq] at opens
  rcases opens with rfl | rfl <;> decide

theorem not_decimal_of_isClosing {c : Char} (closes : isClosing c = true) :
    isDecimal c = false := by
  simp only [isClosing, Bool.or_eq_true, decide_eq_true_eq] at closes
  rcases closes with rfl | rfl <;> decide

theorem not_decimal_of_isColon {c : Char} (colon : isColon c = true) :
    isDecimal c = false := by
  simp only [isColon, Bool.or_eq_true, decide_eq_true_eq] at colon
  rcases colon with rfl | rfl <;> decide

theorem bracket_before {earlier inside : Text} {opening : Char}
    (opens : isOpening opening = true) (white : AllSpace inside) :
    (earlier ++ opening :: inside).getLast?.any isDecimal = false := by
  refine getLast?_append_any (List.cons_ne_nil _ _) fun c member => ?_
  rcases List.mem_cons.mp member with rfl | inSpaces
  · exact not_decimal_of_isOpening opens
  · exact not_decimal_of_isSpace (white c inSpaces)

theorem bracket_after {suffix inside later : Text} {closing : Char}
    (marked : suffix = [] ∨ suffix = hkSuffix) (white : AllSpace inside)
    (closes : isClosing closing = true) :
    (suffix ++ inside ++ closing :: later).head?.any isDecimal = false := by
  rcases marked with rfl | rfl
  · cases inside with
    | nil => exact not_decimal_of_isClosing closes
    | cons c rest => exact not_decimal_of_isSpace (white c List.mem_cons_self)
  · rfl

theorem label_before {earlier label inside colon inside' : Text} (isLabel : IsLabel label)
    (white : AllSpace inside) (marked : colon = [] ∨ ∃ c, isColon c = true ∧ colon = [c])
    (white' : AllSpace inside') :
    (earlier ++ label ++ inside ++ colon ++ inside').getLast?.any isDecimal = false := by
  obtain ⟨nonempty, letters⟩ := isLabel.not_decimal
  simp only [List.append_assoc]
  refine getLast?_append_any (by simp [nonempty]) fun c member => ?_
  simp only [List.mem_append] at member
  rcases member with inLabel | inSpaces | inColon | inSpaces
  · exact letters c inLabel
  · exact not_decimal_of_isSpace (white c inSpaces)
  · rcases marked with rfl | ⟨d, is, rfl⟩
    · cases inColon
    · rw [List.mem_singleton.mp inColon]
      exact not_decimal_of_isColon is
  · exact not_decimal_of_isSpace (white' c inSpaces)

/-! ## What the alternatives match -/

theorem matches_spaces {before part after : Text} :
    spaces.Matches before part after ↔ AllSpace part := matches_star_set

theorem matches_zeros {before part after : Text} :
    zeros.Matches before part after ↔ ∀ c ∈ part, c = '0' := by
  rw [zeros, matches_star_set]
  simp only [decide_eq_true_eq]

theorem isLabel_of_englishLabel {before part after : Text}
    (matched : englishLabel.Matches before part after) : IsLabel part := by
  simp only [englishLabel, matches_cons, matches_sets, matches_spaces, matches_optional,
    matches_set, matches_nil, List.forall₂_map_left_iff] at matched
  obtain ⟨stock, _, rfl, isStock, between, _, rfl, white, code, _, rfl, isCode, plural, _, rfl,
    isPlural, rfl⟩ := matched
  rw [List.append_nil, ← List.append_assoc, ← List.append_assoc]
  exact .english isStock white isCode isPlural.symm

theorem englishLabel_of_isLabel {label before after : Text} (isLabel : IsLabel label) :
    englishLabel.Matches before label after ∨ label = chineseLabel := by
  cases isLabel with
  | @english stock between code plural isStock white isCode isPlural =>
      left
      simp only [englishLabel, matches_cons, matches_sets, matches_spaces, matches_optional,
        matches_set, matches_nil, List.forall₂_map_left_iff]
      exact ⟨stock, _, by rw [List.append_assoc, List.append_assoc], isStock, between, _, rfl,
        white, code, _, rfl, isCode, plural, _, (List.append_nil _).symm, isPlural.symm, rfl⟩
  | chinese => exact Or.inr rfl

/-- Three digits are ahead exactly when the run of digits has three. -/
theorem three_ahead {before run later : Text} (digits : ∀ c ∈ run, isDecimal c = true)
    (ended : later.head?.any isDecimal = false) :
    (∃ seen rest, run ++ later = seen ++ rest ∧
      (sets [isDecimal, isDecimal, isDecimal]).Matches before seen rest) ↔ 3 ≤ run.length := by
  simp only [matches_sets]
  constructor
  · intro ahead
    obtain ⟨seen, rest, same, three⟩ := ahead
    obtain ⟨a, _, isA, two, rfl⟩ := List.forall₂_cons_left_iff.mp three
    obtain ⟨b, _, isB, one, rfl⟩ := List.forall₂_cons_left_iff.mp two
    obtain ⟨c, _, isC, none, rfl⟩ := List.forall₂_cons_left_iff.mp one
    cases none
    have stops {d : Char} {others : Text} (is : isDecimal d = true) (same : later = d :: others) :
        False := by
      rw [same] at ended
      simp [is] at ended
    rcases run with _ | ⟨x, _ | ⟨y, _ | ⟨z, run⟩⟩⟩
    · exact (stops isA same).elim
    · exact (stops isB (List.cons.inj same).2).elim
    · exact (stops isC (List.cons.inj (List.cons.inj same).2).2).elim
    · simp
  · intro long
    rcases run with _ | ⟨a, _ | ⟨b, _ | ⟨c, run⟩⟩⟩
    · simp at long
    · simp at long
    · simp at long
    · exact ⟨[a, b, c], run ++ later, rfl, .cons (digits a (by simp))
        (.cons (digits b (by simp)) (.cons (digits c (by simp)) .nil))⟩

section
variable {number : Text}

theorem run_digits {leading : Text} (digits : ∀ c ∈ number, isDecimal c = true)
    (isZeros : ∀ c ∈ leading, c = '0') :
    ∀ c ∈ leading ++ number, isDecimal c = true := by
  intro c member
  rcases List.mem_append.mp member with inLeading | inNumber
  · rw [isZeros c inLeading]
    decide
  · exact digits c inNumber

theorem bracketedCode_sound {before part after : Text}
    (digits : ∀ c ∈ number, isDecimal c = true)
    (matched : (bracketedCode number).Matches before part after) :
    PrintsCode number (before ++ part ++ after) := by
  simp only [bracketedCode, matches_cons, matches_set, matches_spaces, matches_zeros,
    matches_literal, matches_optional, matches_nil] at matched
  obtain ⟨_, _, rfl, ⟨opening, opens, rfl⟩, inside, _, rfl, white, _, _, rfl,
    ⟨rfl, seen, rest, same, three⟩, leading, _, rfl, isZeros, number, _, rfl, rfl, suffix, _,
    rfl, marked, inside', _, rfl, white', _, _, rfl, ⟨closing, closes, rfl⟩, rfl⟩ := matched
  have ended : (suffix ++ inside' ++ closing :: after).head?.any isDecimal = false :=
    bracket_after marked.symm white' closes
  have long : 3 ≤ (leading ++ number).length :=
    (three_ahead (run_digits digits isZeros) ended).mp ⟨seen, rest, by simpa using same, three⟩
  refine ⟨before ++ opening :: inside, leading, suffix ++ inside' ++ closing :: after,
    by simp, isZeros, bracket_before opens white, ended, ?_⟩
  exact .bracketed rfl opens white long rfl marked.symm white' closes

theorem suffixedCode_sound {before part after : Text}
    (matched : (suffixedCode number).Matches before part after) :
    PrintsCode number (before ++ part ++ after) := by
  simp only [suffixedCode, matches_cons, matches_notBehind, matches_zeros, matches_literal,
    matches_nil] at matched
  obtain ⟨_, _, rfl, ⟨rfl, free⟩, leading, _, rfl, isZeros, _, _, rfl, rfl, _, _, rfl, rfl,
    rfl⟩ := matched
  exact ⟨before, leading, hkSuffix ++ after, by simp, isZeros, free, rfl, .suffixed rfl⟩

theorem labelledCode_sound {label : Regex Char} {before part after : Text}
    (labels : ∀ before part after, label.Matches before part after → IsLabel part)
    (matched : (labelledCode label number).Matches before part after) :
    PrintsCode number (before ++ part ++ after) := by
  simp only [labelledCode, matches_cons, matches_set, matches_spaces, matches_zeros,
    matches_literal, matches_optional, matches_notAhead_set, matches_nil] at matched
  obtain ⟨text, _, rfl, isLabel, inside, _, rfl, white, colon, _, rfl, marked, inside', _, rfl,
    white', leading, _, rfl, isZeros, _, _, rfl, rfl, _, _, rfl, ⟨rfl, free⟩, rfl⟩ := matched
  have labelled := labels _ _ _ isLabel
  exact ⟨before ++ text ++ inside ++ colon ++ inside', leading, after, by simp, isZeros,
    label_before labelled white marked.symm white', by simpa using free,
    .labelled rfl labelled white marked.symm white'⟩

theorem bracketedCode_complete {earlier inside leading suffix inside' later : Text}
    {opening closing : Char} (digits : ∀ c ∈ number, isDecimal c = true)
    (opens : isOpening opening = true) (white : AllSpace inside)
    (isZeros : ∀ c ∈ leading, c = '0') (three : 3 ≤ (leading ++ number).length)
    (marked : suffix = [] ∨ suffix = hkSuffix) (white' : AllSpace inside')
    (closes : isClosing closing = true) :
    (bracketedCode number).Matches earlier
      (opening :: inside ++ leading ++ number ++ suffix ++ inside' ++ [closing]) later := by
  have ended : (suffix ++ inside' ++ closing :: later).head?.any isDecimal = false :=
    bracket_after marked white' closes
  obtain ⟨seen, rest, same, matched⟩ := (@three_ahead (earlier ++ [opening] ++ inside) _ _
    (run_digits digits isZeros) ended).mpr three
  simp only [bracketedCode, matches_cons, matches_set, matches_spaces, matches_zeros,
    matches_literal, matches_optional, matches_nil]
  refine ⟨[opening], _, by simp, ⟨opening, opens, rfl⟩, inside, _, rfl, white, [], _, rfl,
    ⟨rfl, seen, rest, ?_, matched⟩, leading, _, rfl, isZeros, number, _, rfl, rfl, suffix, _, rfl,
    marked.symm, inside', _, rfl, white', [closing], [], rfl, ⟨closing, closes, rfl⟩, rfl⟩
  simpa using same

theorem suffixedCode_complete {before leading later : Text}
    (isZeros : ∀ c ∈ leading, c = '0') (free : before.getLast?.any isDecimal = false) :
    (suffixedCode number).Matches before (leading ++ number ++ hkSuffix) later := by
  simp only [suffixedCode, matches_cons, matches_notBehind, matches_zeros, matches_literal,
    matches_nil]
  exact ⟨[], _, rfl, ⟨rfl, free⟩, leading, _, by simp, isZeros, number, _, rfl,
    rfl, hkSuffix, [], rfl, rfl, rfl⟩

theorem labelledCode_complete {label : Regex Char} {earlier text inside colon inside' leading
      after : Text} (isLabel : ∀ later, label.Matches earlier text later)
    (white : AllSpace inside) (marked : colon = [] ∨ ∃ c, isColon c = true ∧ colon = [c])
    (white' : AllSpace inside') (isZeros : ∀ c ∈ leading, c = '0')
    (free : after.head?.any isDecimal = false) :
    (labelledCode label number).Matches earlier
      (text ++ inside ++ colon ++ inside' ++ leading ++ number) after := by
  simp only [labelledCode, matches_cons, matches_set, matches_spaces, matches_zeros,
    matches_literal, matches_optional, matches_notAhead_set, matches_nil]
  exact ⟨text, _, by simp, isLabel _, inside, _, rfl, white, colon, _, rfl, marked.symm,
    inside', _, rfl, white', leading, _, rfl, isZeros, number, [], (List.append_nil _).symm, rfl,
    [], [], rfl, ⟨rfl, free⟩, rfl⟩

theorem codePattern_iff (digits : ∀ c ∈ number, isDecimal c = true) (articleText : Text) :
    (codePattern number).search articleText = true ↔ PrintsCode number articleText := by
  rw [search_iff]
  constructor
  · rintro ⟨before, part, after, rfl, bracketed | suffixed | english | chinese⟩
    · exact bracketedCode_sound digits bracketed
    · exact suffixedCode_sound suffixed
    · exact labelledCode_sound (fun _ _ _ matched => isLabel_of_englishLabel matched) english
    · refine labelledCode_sound (fun _ part _ matched => ?_) chinese
      rw [matches_literal.mp matched]
      exact .chinese
  · rintro ⟨before, leading, after, rfl, isZeros, free, ended, shaped⟩
    cases shaped with
    | @bracketed earlier inside suffix inside' later opening closing begins opens white three
        ends marked white' closes =>
        subst begins ends
        exact ⟨earlier, _, later, by simp, Or.inl
          (bracketedCode_complete digits opens white isZeros three marked white' closes)⟩
    | @suffixed later ends =>
        subst ends
        exact ⟨before, _, later, by simp, Or.inr (Or.inl (suffixedCode_complete isZeros free))⟩
    | @labelled earlier label inside colon inside' begins isLabel white marked white' =>
        subst begins
        by_cases english : ∀ after, englishLabel.Matches earlier label after
        · exact ⟨earlier, _, after, by simp, Or.inr (Or.inr (Or.inl
            (labelledCode_complete english white marked white' isZeros ended)))⟩
        · obtain ⟨other, apart⟩ := not_forall.mp english
          have chinese := (englishLabel_of_isLabel isLabel).resolve_left apart
          subst chinese
          exact ⟨earlier, _, after, by simp, Or.inr (Or.inr (Or.inr (labelledCode_complete
            (fun _ => matches_literal.mpr rfl) white marked white' isZeros ended)))⟩

end

/-! ## Stock codes -/

/-- The number that decimal digits write. -/
def decimalNumber (value : Nat) (digits : Text) : Nat :=
  digits.foldl (fun value c => 10 * value + (decimalDigit c).getD 0) value

theorem isDecimal_numeral (value : Nat) : ∀ c ∈ numeral value, isDecimal c = true := by
  intro c member
  have isDigit : c.isDigit = true := Nat.isDigit_of_mem_toDigits (by omega) (by omega) member
  have bounds : 0x30 ≤ c.toNat ∧ c.toNat < 0x30 + 10 := by
    simp only [Char.isDigit, Bool.and_eq_true, decide_eq_true_eq, ge_iff_le,
      UInt32.le_iff_toNat_le] at isDigit
    have value : c.val.toNat = c.toNat := rfl
    have digits : ('0'.val.toNat, '9'.val.toNat) = (48, 57) := rfl
    simp only [Prod.mk.injEq] at digits
    omega
  rw [isDecimal, decimalDigit, Option.isSome_map, List.find?_isSome]
  exact ⟨0x30, List.mem_cons_self, by simpa using bounds⟩

theorem strip_digits {text : Text} (digits : ∀ c ∈ text, isDecimal c = true) :
    strip text = text := by
  have visible (c : Char) (member : c ∈ text) : isSpace c = false := by
    cases space : isSpace c with
    | false => rfl
    | true =>
        have decimal := digits c member
        rw [not_decimal_of_isSpace space] at decimal
        cases decimal
  have stays (text : Text) (visible : ∀ c ∈ text, isSpace c = false) :
      text.dropWhile isSpace = text := by
    cases text with
    | nil => rfl
    | cons c rest => rw [List.dropWhile_cons_of_neg (by simp [visible c List.mem_cons_self])]
  rw [strip, stays text visible, stays text.reverse, List.reverse_reverse]
  exact fun c member => visible c (List.mem_reverse.mp member)

theorem digitsFrom_digits {text : Text} (digits : ∀ c ∈ text, isDecimal c = true)
    (value : Nat) : digitsFrom value text = some (decimalNumber value text) := by
  induction text generalizing value with
  | nil => rfl
  | cons c rest ih =>
      have isDigit : (decimalDigit c).isSome = true := digits c List.mem_cons_self
      obtain ⟨digit, is⟩ := Option.isSome_iff_exists.mp isDigit
      have later := ih (fun d member => digits d (List.mem_cons_of_mem _ member))
        (10 * value + digit)
      have notUnderscore : c ≠ '_' := by
        rintro rfl
        exact absurd isDigit (by decide)
      rw [digitsFrom, is, Option.bind_some, later]
      · simp [decimalNumber, is]
      · intro d others same
        exact absurd same notUnderscore

/-- A code of digits is a number. -/
theorem parseInt_digits {text : Text} (nonempty : text ≠ [])
    (digits : ∀ c ∈ text, isDecimal c = true) :
    parseInt text = some (decimalNumber 0 text : Nat) := by
  cases text with
  | nil => exact absurd rfl nonempty
  | cons c rest =>
      have isDigit : (decimalDigit c).isSome = true := digits c List.mem_cons_self
      obtain ⟨digit, is⟩ := Option.isSome_iff_exists.mp isDigit
      have value : parseDigits (c :: rest) = some (decimalNumber 0 (c :: rest)) := by
        rw [parseDigits, is, Option.bind_some,
          digitsFrom_digits fun d member => digits d (List.mem_cons_of_mem _ member)]
        simp [decimalNumber, is]
      rw [parseInt, strip_digits digits]
      split
      · rename_i others same
        cases same
        exact absurd isDigit (by decide)
      · rename_i others same
        cases same
        exact absurd isDigit (by decide)
      · rw [value]
        rfl

theorem codePrinted_digits {code : String} (nonempty : code.toList ≠ [])
    (digits : ∀ c ∈ code.toList, isDecimal c = true) (articleText : Text) :
    codePrinted code articleText =
      some ((codePattern (numeral (decimalNumber 0 code.toList))).search articleText) := by
  rw [codePrinted, parseInt_digits nonempty digits]
  rfl

/-- A code of digits is printed exactly where a maximal run of digits, zeros and
then its numeral, stands in a code-shaped form. -/
theorem codePrinted_iff (code : String) (nonempty : code.toList ≠ [])
    (digits : ∀ c ∈ code.toList, isDecimal c = true) (articleText : Text) :
    ∃ printed, codePrinted code articleText = some printed ∧
      (printed = true ↔ PrintsCode (numeral (decimalNumber 0 code.toList)) articleText) := by
  exact ⟨_, codePrinted_digits nonempty digits articleText,
    codePattern_iff (isDecimal_numeral _) articleText⟩

theorem codePrinted_iff_bracket : ∃ printed,
    codePrinted "00005" "新公司(005)".toList = some printed ∧
      (printed = true ↔
        PrintsCode (numeral (decimalNumber 0 "00005".toList)) "新公司(005)".toList) :=
  codePrinted_iff "00005" (by decide) (List.all_eq_true.mp (by decide)) "新公司(005)".toList

/-- A list marker is no code, nor is a part of a longer number. -/
example : codePrinted "00005" "(5) 15.HK".toList = some false ∧
    codePrinted "00700" "Stock  Codes：0700".toList = some true := by decide +kernel

end WealthFinder.Pipeline
