import Mathlib.Data.List.Basic
import WealthFinder.Numerals

/-!
# JSON lists of strings

A list of strings written as an ASCII-only JSON array, and read back with the escapes
and the white space that JSON allows.
-/

set_option autoImplicit false

namespace WealthFinder

/-! ## Writing -/

/-- `\\uXXXX` of a UTF-16 unit. -/
def unicodeEscape (unit : Nat) : List Char := '\\' :: 'u' :: hexadecimal.numeral 4 unit

/-- A character inside a string. -/
def escaped (c : Char) : List Char :=
  if c = '"' then ['\\', '"']
  else if c = '\\' then ['\\', '\\']
  else if c = '\n' then ['\\', 'n']
  else if c = '\r' then ['\\', 'r']
  else if c = '\t' then ['\\', 't']
  else if c = Char.ofNat 8 then ['\\', 'b']
  else if c = Char.ofNat 12 then ['\\', 'f']
  else if 32 ≤ c.toNat ∧ c.toNat ≤ 126 then [c]
  else if c.toNat < 0x10000 then unicodeEscape c.toNat
  else
    unicodeEscape (0xD800 + (c.toNat - 0x10000) / 0x400) ++
      unicodeEscape (0xDC00 + (c.toNat - 0x10000) % 0x400)

def quoted (text : List Char) : List Char := '"' :: (text.flatMap escaped ++ ['"'])

/-- The elements after the first. -/
def moreQuoted (texts : List (List Char)) : List Char :=
  texts.flatMap fun text => ',' :: ' ' :: quoted text

def dumpsStrings : List (List Char) → List Char
  | [] => ['[', ']']
  | first :: rest => '[' :: (quoted first ++ (moreQuoted rest ++ [']']))

/-! ## Reading -/

def isJsonSpace (c : Char) : Bool := c = ' ' || c = '\t' || c = '\n' || c = '\r'

def skipSpaces (text : List Char) : List Char := text.dropWhile isJsonSpace

/-- The character that one after a backslash stands for, a `u` apart. -/
def unescaped (c : Char) : Option Char :=
  if c = '"' ∨ c = '\\' ∨ c = '/' then some c
  else if c = 'n' then some '\n'
  else if c = 'r' then some '\r'
  else if c = 't' then some '\t'
  else if c = 'b' then some (Char.ofNat 8)
  else if c = 'f' then some (Char.ofNat 12)
  else none

/-- The second unit of a character that takes two. -/
def readLowUnit (high : Nat) : List Char → Option (Char × List Char)
  | '\\' :: 'u' :: text =>
      (hexadecimal.readField 4 text).bind fun (low, rest) =>
        if 0xDC00 ≤ low ∧ low ≤ 0xDFFF then
          some (Char.ofNat (0x10000 + (high - 0xD800) * 0x400 + (low - 0xDC00)), rest)
        else none
  | _ => none

/-- What follows a backslash. -/
def readEscape : List Char → Option (Char × List Char)
  | [] => none
  | c :: text =>
      if c = 'u' then
        (hexadecimal.readField 4 text).bind fun (unit, rest) =>
          if unit < 0xD800 ∨ 0xDFFF < unit then some (Char.ofNat unit, rest)
          else if unit ≤ 0xDBFF then readLowUnit unit rest
          else none
      else (unescaped c).map fun plain => (plain, text)

/-- A string after its opening quote, of fewer characters than the bound. -/
def scanString : Nat → List Char → Option (List Char × List Char)
  | 0, _ => none
  | _ + 1, [] => none
  | bound + 1, c :: text =>
      if c = '"' then some ([], text)
      else if c = '\\' then
        (readEscape text).bind fun (plain, rest) =>
          (scanString bound rest).map fun (others, after) => (plain :: others, after)
      else if c.toNat < 32 then none
      else (scanString bound text).map fun (others, after) => (c :: others, after)

/-- The elements of an array from the start of one on. -/
def readStrings : Nat → List Char → Option (List (List Char) × List Char)
  | 0, _ => none
  | bound + 1, text =>
      match skipSpaces text with
      | '"' :: opened =>
          (scanString opened.length opened).bind fun (first, rest) =>
            match skipSpaces rest with
            | ']' :: after => some ([first], after)
            | ',' :: more =>
                (readStrings bound more).map fun (others, after) => (first :: others, after)
            | _ => none
      | _ => none

/-- The array, and nothing after it. -/
def loadsStrings (text : List Char) : Option (List (List Char)) :=
  match skipSpaces text with
  | '[' :: opened =>
      match skipSpaces opened with
      | ']' :: after => if skipSpaces after = [] then some [] else none
      | _ =>
          (readStrings opened.length opened).bind fun (texts, after) =>
            if skipSpaces after = [] then some texts else none
  | _ => none

/-! ## What is written is read -/

theorem scanString_escape {bound : Nat} {text rest others after : List Char} {plain : Char}
    (escape : readEscape text = some (plain, rest))
    (read : scanString bound rest = some (others, after)) :
    scanString (bound + 1) ('\\' :: text) = some (plain :: others, after) := by
  rw [scanString, if_neg (by decide), if_pos rfl, escape, Option.bind_some]
  dsimp only
  rw [read]
  rfl

theorem readField_hex {unit : Nat} (fits : unit < 0x10000) (rest : List Char) :
    hexadecimal.readField 4 (hexadecimal.numeral 4 unit ++ rest) = some (unit, rest) :=
  hexadecimal.readField_numeral (by decide) fits rest

theorem readEscape_unit {unit : Nat} (fits : unit < 0x10000) (alone : unit < 0xD800 ∨ 0xDFFF < unit)
    (rest : List Char) :
    readEscape ('u' :: (hexadecimal.numeral 4 unit ++ rest)) = some (Char.ofNat unit, rest) := by
  rw [readEscape, if_pos rfl, readField_hex fits, Option.bind_some]
  exact if_pos alone

theorem readEscape_units (offset : Nat) (small : offset < 0x100000) (rest : List Char) :
    readEscape ('u' :: (hexadecimal.numeral 4 (0xD800 + offset / 0x400) ++
        (unicodeEscape (0xDC00 + offset % 0x400) ++ rest))) =
      some (Char.ofNat (0x10000 + offset), rest) := by
  have joined : 0x10000 + (0xD800 + offset / 0x400 - 0xD800) * 0x400 +
      (0xDC00 + offset % 0x400 - 0xDC00) = 0x10000 + offset := by
    omega
  rw [readEscape, if_pos rfl, readField_hex (by omega), Option.bind_some]
  dsimp only
  rw [if_neg (by omega), if_pos (by omega), unicodeEscape, List.cons_append, List.cons_append,
    readLowUnit, readField_hex (by omega), Option.bind_some]
  dsimp only
  rw [if_pos (by omega), joined]

/-- One character is read from its escaped form. -/
theorem scanString_escaped (c : Char) {bound : Nat} {rest others after : List Char}
    (read : scanString bound rest = some (others, after)) :
    scanString (bound + 1) (escaped c ++ rest) = some (c :: others, after) := by
  unfold escaped
  by_cases quote : c = '"'
  · subst quote
    exact scanString_escape rfl read
  by_cases backslash : c = '\\'
  · subst backslash
    exact scanString_escape rfl read
  by_cases newline : c = '\n'
  · subst newline
    exact scanString_escape rfl read
  by_cases carriage : c = '\r'
  · subst carriage
    exact scanString_escape rfl read
  by_cases tab : c = '\t'
  · subst tab
    exact scanString_escape rfl read
  by_cases backspace : c = Char.ofNat 8
  · subst backspace
    exact scanString_escape rfl read
  by_cases formFeed : c = Char.ofNat 12
  · subst formFeed
    exact scanString_escape rfl read
  rw [if_neg quote, if_neg backslash, if_neg newline, if_neg carriage, if_neg tab,
    if_neg backspace, if_neg formFeed]
  by_cases plain : 32 ≤ c.toNat ∧ c.toNat ≤ 126
  · rw [if_pos plain, List.singleton_append, scanString, if_neg quote, if_neg backslash,
      if_neg (by omega), read]
    rfl
  rw [if_neg plain]
  have valid := c.valid
  by_cases small : c.toNat < 0x10000
  · rw [if_pos small, unicodeEscape, List.cons_append, List.cons_append]
    have alone : c.toNat < 0xD800 ∨ 0xDFFF < c.toNat := by
      rcases valid with low | high
      · exact Or.inl low
      · exact Or.inr high.1
    have escape := readEscape_unit small alone rest
    rw [Char.ofNat_toNat] at escape
    exact scanString_escape escape read
  · rw [if_neg small, List.append_assoc, unicodeEscape, List.cons_append, List.cons_append]
    have large : c.toNat < 0x110000 := by
      rcases valid with low | high
      · exact Nat.lt_trans low (by decide)
      · exact high.2
    have escape := readEscape_units (c.toNat - 0x10000) (by omega) rest
    have back : 0x10000 + (c.toNat - 0x10000) = c.toNat := by omega
    rw [back, Char.ofNat_toNat] at escape
    exact scanString_escape escape read

theorem scanString_flatMap (text rest : List Char) {bound : Nat} (room : text.length < bound) :
    scanString bound (text.flatMap escaped ++ '"' :: rest) = some (text, rest) := by
  induction text generalizing bound with
  | nil =>
      obtain ⟨fewer, rfl⟩ : ∃ fewer, bound = fewer + 1 := ⟨bound - 1, by simp at room; omega⟩
      rfl
  | cons c text ih =>
      rw [List.length_cons] at room
      obtain ⟨fewer, rfl⟩ : ∃ fewer, bound = fewer + 1 := ⟨bound - 1, by omega⟩
      rw [List.flatMap_cons, List.append_assoc]
      exact scanString_escaped c (ih (by omega))

theorem length_le_flatMap_escaped (text : List Char) :
    text.length ≤ (text.flatMap escaped).length := by
  have nonempty : ∀ c, 1 ≤ (escaped c).length := by
    intro c
    -- An empty form would be read as the end of the string.
    have closed : scanString 1 ['"'] = some ([], []) := rfl
    have read := scanString_escaped c closed
    refine List.length_pos_of_ne_nil ?_
    intro empty
    rw [empty] at read
    cases read
  induction text with
  | nil => exact Nat.le_refl 0
  | cons c text ih =>
      have first := nonempty c
      rw [List.flatMap_cons, List.length_append, List.length_cons]
      omega

/-- A quoted string is read from its opening quote. -/
theorem scanString_quoted (text rest : List Char) {opened : List Char}
    (is : opened = text.flatMap escaped ++ '"' :: rest) :
    scanString opened.length opened = some (text, rest) := by
  have length := length_le_flatMap_escaped text
  subst is
  refine scanString_flatMap text rest ?_
  rw [List.length_append, List.length_cons]
  omega

theorem skipSpaces_append {spaces : List Char} (blank : ∀ c ∈ spaces, isJsonSpace c = true)
    (text : List Char) : skipSpaces (spaces ++ text) = skipSpaces text := by
  unfold skipSpaces
  exact List.dropWhile_append_of_pos blank

theorem skipSpaces_quoted (text rest : List Char) :
    skipSpaces (quoted text ++ rest) = '"' :: (text.flatMap escaped ++ '"' :: rest) := by
  rw [quoted, List.cons_append, List.append_assoc]
  rfl

theorem readStrings_last {spaces rest after : List Char}
    (blank : ∀ c ∈ spaces, isJsonSpace c = true) (first : List Char) (bound : Nat)
    (closes : skipSpaces rest = ']' :: after) :
    readStrings (bound + 1) (spaces ++ (quoted first ++ rest)) = some ([first], after) := by
  rw [readStrings, skipSpaces_append blank, skipSpaces_quoted]
  simp only [scanString_quoted first rest rfl, Option.bind_some, closes]

theorem readStrings_more {spaces rest more after : List Char} {others : List (List Char)}
    {bound : Nat} (blank : ∀ c ∈ spaces, isJsonSpace c = true) (first : List Char)
    (continues : skipSpaces rest = ',' :: more)
    (read : readStrings bound more = some (others, after)) :
    readStrings (bound + 1) (spaces ++ (quoted first ++ rest)) =
      some (first :: others, after) := by
  rw [readStrings, skipSpaces_append blank, skipSpaces_quoted]
  simp only [scanString_quoted first rest rfl, Option.bind_some, continues, read,
    Option.map_some]

theorem readStrings_quoted {spaces : List Char} (blank : ∀ c ∈ spaces, isJsonSpace c = true)
    (first : List Char) (others : List (List Char)) (after : List Char) {bound : Nat}
    (room : others.length < bound) :
    readStrings bound (spaces ++ (quoted first ++ (moreQuoted others ++ ']' :: after))) =
      some (first :: others, after) := by
  obtain ⟨fewer, rfl⟩ : ∃ fewer, bound = fewer + 1 := ⟨bound - 1, by omega⟩
  induction others generalizing fewer spaces first with
  | nil => exact readStrings_last blank first fewer rfl
  | cons second others ih =>
      rw [List.length_cons] at room
      obtain ⟨less, rfl⟩ : ∃ less, fewer = less + 1 := ⟨fewer - 1, by omega⟩
      -- The blank after the comma stands before the next element.
      have one : ∀ c ∈ [' '], isJsonSpace c = true := by
        intro c among
        rw [List.mem_singleton.mp among]
        rfl
      have read := ih one second less (by omega)
      refine readStrings_more blank first ?_ read
      rw [moreQuoted, List.flatMap_cons, List.append_assoc]
      rfl

theorem length_le_moreQuoted (texts : List (List Char)) :
    texts.length ≤ (moreQuoted texts).length := by
  induction texts with
  | nil => exact Nat.le_refl 0
  | cons text texts ih =>
      rw [moreQuoted, List.flatMap_cons, List.length_append]
      rw [moreQuoted] at ih
      simp only [List.length_cons]
      omega

/-- Reading gives back the strings that were written. -/
theorem loadsStrings_dumpsStrings (texts : List (List Char)) :
    loadsStrings (dumpsStrings texts) = some texts := by
  cases texts with
  | nil => rfl
  | cons first others =>
      have length := length_le_moreQuoted others
      have none : ∀ c ∈ ([] : List Char), isJsonSpace c = true := by
        intro c among
        cases among
      have room : others.length < (quoted first ++ (moreQuoted others ++ [']'])).length := by
        rw [List.length_append, List.length_append, List.length_singleton]
        omega
      have read := readStrings_quoted none first others [] room
      rw [List.nil_append] at read
      have bracket : skipSpaces (dumpsStrings (first :: others)) =
          '[' :: (quoted first ++ (moreQuoted others ++ [']'])) := rfl
      have opening := skipSpaces_quoted first (moreQuoted others ++ [']'])
      have closed : skipSpaces [] = [] := rfl
      simp only [loadsStrings, bracket, opening, read, Option.bind_some, closed, if_true]
      rfl

end WealthFinder
