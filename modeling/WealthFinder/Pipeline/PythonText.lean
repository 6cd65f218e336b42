import WealthFinder.Numerals
import WealthFinder.Pipeline.Models
import WealthFinder.Pipeline.NameMatching

/-!
# Enumerations, UUIDs and datetimes as text

The values of the enumerations' members, `str(uuid)` and `UUID(text)`, `isoformat()` and
`fromisoformat()`.  Of the ISO 8601 spellings `fromisoformat` reads those that
`isoformat` writes, and bare dates.
-/

set_option autoImplicit false

namespace WealthFinder.Pipeline

/-- What reading a stored value raises. -/
inductive DecodeError where
  | keyError
  | typeError
  | valueError
  deriving DecidableEq, Repr

def orValueError {Value : Type} : Option Value → Except DecodeError Value
  | some value => .ok value
  | none => .error .valueError

/-! ## Enumerations -/

def EventTypeEnum.value : EventTypeEnum → Text
  | .earnings => "EARNINGS".toList
  | .buyback => "BUYBACK".toList
  | .ma => "MA".toList
  | .regulatory => "REGULATORY".toList
  | .managementChange => "MANAGEMENT_CHANGE".toList
  | .analystRating => "ANALYST_RATING".toList
  | .dividend => "DIVIDEND".toList
  | .generalAnnouncement => "GENERAL_ANNOUNCEMENT".toList

def EventTypeEnum.ofValue (text : Text) : Except DecodeError EventTypeEnum :=
  orValueError (EventTypeEnum.all.find? fun member => member.value = text)

def SentimentEnum.all : List SentimentEnum := [.positive, .neutral, .negative]

def SentimentEnum.value : SentimentEnum → Text
  | .positive => "POSITIVE".toList
  | .neutral => "NEUTRAL".toList
  | .negative => "NEGATIVE".toList

def SentimentEnum.ofValue (text : Text) : Except DecodeError SentimentEnum :=
  orValueError (SentimentEnum.all.find? fun member => member.value = text)

theorem EventTypeEnum.ofValue_value (member : EventTypeEnum) :
    EventTypeEnum.ofValue member.value = .ok member := by
  cases member <;> rfl

theorem SentimentEnum.ofValue_value (member : SentimentEnum) :
    SentimentEnum.ofValue member.value = .ok member := by
  cases member <;> rfl

/-! ## UUIDs -/

abbrev Uuid := BitVec 128

/-- A text with its first so many characters left out, and `pattern` wherever it then
stands. -/
def removeFrom (pattern : Text) : Nat → Text → Text
  | _, [] => []
  | skip + 1, _ :: rest => removeFrom pattern skip rest
  | 0, c :: rest =>
      if pattern.isPrefixOf (c :: rest) then removeFrom pattern (pattern.length - 1) rest
      else c :: removeFrom pattern 0 rest

/-- `text.replace(pattern, "")`. -/
def remove (pattern : Text) (text : Text) : Text := removeFrom pattern 0 text

def isBrace (c : Char) : Bool := c = '{' || c = '}'

def hyphenated (hex : Text) : Text :=
  hex.take 8 ++ '-' :: (hex.drop 8).take 4 ++ '-' :: (hex.drop 12).take 4 ++
    '-' :: (hex.drop 16).take 4 ++ '-' :: hex.drop 20

/-- `str(uuid)`. -/
def uuidText (id : Uuid) : Text := hyphenated (hexadecimal.numeral 32 id.toNat)

/-- The hexadecimal digits that `UUID(text)` reads. -/
def uuidDigits (text : Text) : Text :=
  remove ['-']
    ((((remove "uuid:".toList (remove "urn:".toList text)).dropWhile isBrace).reverse.dropWhile
      isBrace).reverse)

/-- `UUID(text)`. -/
def uuidOfText (text : Text) : Option Uuid :=
  if (uuidDigits text).length = 32 then
    (hexadecimal.read (uuidDigits text)).map (BitVec.ofNat 128)
  else none

/-! ## Datetimes -/

def daysInMonth (year month : Nat) : Nat :=
  if month = 2 then
    if year % 4 = 0 ∧ (year % 100 ≠ 0 ∨ year % 400 = 0) then 29 else 28
  else if month = 4 ∨ month = 6 ∨ month = 9 ∨ month = 11 then 30
  else 31

structure DatetimeFields where
  year : Nat
  month : Nat
  day : Nat
  hour : Nat
  minute : Nat
  second : Nat
  microsecond : Nat
  utcoffset : Option Int
  deriving DecidableEq, Repr

/-- What the `datetime` and `timezone` constructors check.  The offset is in
microseconds. -/
structure DatetimeFields.Valid (fields : DatetimeFields) : Prop where
  year : 1 ≤ fields.year ∧ fields.year ≤ 9999
  month : 1 ≤ fields.month ∧ fields.month ≤ 12
  day : 1 ≤ fields.day ∧ fields.day ≤ daysInMonth fields.year fields.month
  hour : fields.hour < 24
  minute : fields.minute < 60
  second : fields.second < 60
  microsecond : fields.microsecond < 1000000
  utcoffset : ∀ offset ∈ fields.utcoffset, offset.natAbs < 86400000000

instance (fields : DatetimeFields) : Decidable fields.Valid :=
  decidable_of_iff
    ((1 ≤ fields.year ∧ fields.year ≤ 9999) ∧ (1 ≤ fields.month ∧ fields.month ≤ 12) ∧
      (1 ≤ fields.day ∧ fields.day ≤ daysInMonth fields.year fields.month) ∧ fields.hour < 24 ∧
      fields.minute < 60 ∧ fields.second < 60 ∧ fields.microsecond < 1000000 ∧
      ∀ offset ∈ fields.utcoffset, offset.natAbs < 86400000000)
    ⟨fun valid => ⟨valid.1, valid.2.1, valid.2.2.1, valid.2.2.2.1, valid.2.2.2.2.1,
        valid.2.2.2.2.2.1, valid.2.2.2.2.2.2.1, valid.2.2.2.2.2.2.2⟩,
      fun valid => ⟨valid.year, valid.month, valid.day, valid.hour, valid.minute, valid.second,
        valid.microsecond, valid.utcoffset⟩⟩

structure Datetime extends DatetimeFields where
  valid : toDatetimeFields.Valid
  deriving DecidableEq

/-- `HH:MM:SS`, and the microseconds where there are any. -/
def clockText (hour minute second microsecond : Nat) : Text :=
  decimal.numeral 2 hour ++ ':' :: (decimal.numeral 2 minute ++
    ':' :: (decimal.numeral 2 second ++
      if microsecond = 0 then [] else '.' :: decimal.numeral 6 microsecond))

/-- `_format_offset`. -/
def offsetText (offset : Int) : Text :=
  let size := offset.natAbs
  (if offset < 0 then '-' else '+') ::
    if size % 60000000 = 0 then
      decimal.numeral 2 (size / 3600000000) ++ ':' :: decimal.numeral 2 (size / 60000000 % 60)
    else
      clockText (size / 3600000000) (size / 60000000 % 60) (size / 1000000 % 60) (size % 1000000)

def isoformat (time : Datetime) : Text :=
  decimal.numeral 4 time.year ++ '-' :: (decimal.numeral 2 time.month ++
    '-' :: (decimal.numeral 2 time.day ++ 'T' ::
      (clockText time.hour time.minute time.second time.microsecond ++
        (time.utcoffset.map offsetText).getD [])))

def expect (c : Char) : Text → Option Text
  | [] => none
  | first :: rest => if first = c then some rest else none

/-- Hour, minute, second and microsecond, with what follows them. -/
structure Clock where
  hour : Nat
  minute : Nat
  second : Nat
  microsecond : Nat

def Clock.size (clock : Clock) : Nat :=
  ((clock.hour * 60 + clock.minute) * 60 + clock.second) * 1000000 + clock.microsecond

/-- The time after `HH:MM`. -/
def readSeconds (hour minute : Nat) (text : Text) : Option (Clock × Text) := do
  let (second, rest) ← decimal.readField 2 (← expect ':' text)
  match rest with
  | '.' :: fraction =>
      let (microsecond, rest) ← decimal.readField 6 fraction
      some (⟨hour, minute, second, microsecond⟩, rest)
  | _ => some (⟨hour, minute, second, 0⟩, rest)

def readClock (text : Text) : Option (Clock × Text) := do
  let (hour, rest) ← decimal.readField 2 text
  let (minute, rest) ← decimal.readField 2 (← expect ':' rest)
  match rest with
  | ':' :: _ => readSeconds hour minute rest
  | _ => some (⟨hour, minute, 0, 0⟩, rest)

def readOffset : Text → Option (Option Int)
  | [] => some none
  | sign :: text => do
      let (clock, rest) ← readClock text
      if rest ≠ [] then none
      else if sign = '+' then some (some clock.size)
      else if sign = '-' then some (some (-clock.size))
      else none

def datetimeOf (fields : DatetimeFields) : Option Datetime :=
  if valid : fields.Valid then some ⟨fields, valid⟩ else none

def fromisoformat (text : Text) : Option Datetime := do
  let (year, rest) ← decimal.readField 4 text
  let (month, rest) ← decimal.readField 2 (← expect '-' rest)
  let (day, rest) ← decimal.readField 2 (← expect '-' rest)
  match rest with
  | [] => datetimeOf ⟨year, month, day, 0, 0, 0, 0, none⟩
  | _ :: time =>
      let (clock, rest) ← readClock time
      let utcoffset ← readOffset rest
      datetimeOf ⟨year, month, day, clock.hour, clock.minute, clock.second, clock.microsecond,
        utcoffset⟩

/-! ## UUIDs come back -/

theorem remove_of_notMem (pattern : Text) {first : Char} (head : pattern.head? = some first)
    {text : Text} (absent : first ∉ text) : remove pattern text = text := by
  unfold remove
  induction text with
  | nil => rfl
  | cons c rest ih =>
      rw [List.mem_cons, not_or] at absent
      have apart : pattern.isPrefixOf (c :: rest) = false := by
        cases pattern with
        | nil => cases head
        | cons p pattern =>
            cases head
            simp [List.isPrefixOf, absent.1]
      rw [removeFrom, apart, ih absent.2]
      rfl

theorem remove_singleton (c : Char) (text : Text) :
    remove [c] text = text.filter fun other => other ≠ c := by
  unfold remove
  induction text with
  | nil => rfl
  | cons other rest ih =>
      rw [removeFrom, List.length_singleton, ih, List.filter_cons]
      by_cases same : other = c
      · simp [same, List.isPrefixOf]
      · simp [same, List.isPrefixOf, Ne.symm same]

theorem dropWhile_of_absent {skips : Char → Bool} {text : Text}
    (absent : ∀ c ∈ text, skips c = false) : text.dropWhile skips = text := by
  cases text with
  | nil => rfl
  | cons c rest =>
      rw [List.dropWhile_cons, absent c List.mem_cons_self]
      rfl

theorem uuidDigits_eq {text : Text} (noU : 'u' ∉ text) (noBrace : ∀ c ∈ text, isBrace c = false) :
    uuidDigits text = text.filter fun c => c ≠ '-' := by
  rw [uuidDigits, remove_of_notMem "urn:".toList rfl noU,
    remove_of_notMem "uuid:".toList rfl noU, dropWhile_of_absent noBrace,
    dropWhile_of_absent, List.reverse_reverse, remove_singleton]
  intro c among
  exact noBrace c (List.mem_reverse.mp among)

theorem hexChar_plain : ∀ digit < 16,
    hexChar digit ≠ 'u' ∧ hexChar digit ≠ '-' ∧ isBrace (hexChar digit) = false := by
  decide

theorem mem_hyphenated {hex : Text} {c : Char} (among : c ∈ hyphenated hex) :
    c = '-' ∨ c ∈ hex := by
  simp only [hyphenated, List.mem_append, List.mem_cons] at among
  rcases among with ((((among | rfl | among) | rfl | among) | rfl | among) | rfl | among)
  · exact Or.inr (List.mem_of_mem_take among)
  · exact Or.inl rfl
  · exact Or.inr (List.mem_of_mem_drop (List.mem_of_mem_take among))
  · exact Or.inl rfl
  · exact Or.inr (List.mem_of_mem_drop (List.mem_of_mem_take among))
  · exact Or.inl rfl
  · exact Or.inr (List.mem_of_mem_drop (List.mem_of_mem_take among))
  · exact Or.inl rfl
  · exact Or.inr (List.mem_of_mem_drop among)

theorem take_drop_append (text : Text) (start count : Nat) :
    (text.drop start).take count ++ text.drop (start + count) = text.drop start := by
  rw [← List.drop_drop, List.take_append_drop]

theorem filter_hyphenated {hex : Text} (noHyphen : ∀ c ∈ hex, c ≠ '-') :
    (hyphenated hex).filter (fun c => c ≠ '-') = hex := by
  have keep : ∀ part : Text, (∀ c ∈ part, c ∈ hex) →
      part.filter (fun c => decide (c ≠ '-')) = part := by
    intro part inside
    rw [List.filter_eq_self]
    intro c among
    simpa using noHyphen c (inside c among)
  have all := keep hex (fun c among => among)
  have start := List.take_append_drop 8 hex
  have second := take_drop_append hex 8 4
  have third := take_drop_append hex 12 4
  have fourth := take_drop_append hex 16 4
  have drop : '-' ≠ '-' ↔ False := by simp
  simp only [hyphenated, List.filter_append, List.filter_cons, drop, decide_false,
    Bool.false_eq_true, if_false]
  rw [List.append_assoc, List.append_assoc, List.append_assoc, ← List.filter_append,
    ← List.filter_append, ← List.filter_append, ← List.filter_append]
  rw [fourth, third, second, start, all]

theorem mem_uuidText {id : Uuid} {c : Char} (among : c ∈ uuidText id) :
    c = '-' ∨ ∃ digit < 16, c = hexChar digit := by
  rcases mem_hyphenated among with hyphen | inHex
  · exact Or.inl hyphen
  · exact Or.inr (hexadecimal.mem_numeral (by decide) inHex)

theorem uuidDigits_uuidText (id : Uuid) :
    uuidDigits (uuidText id) = hexadecimal.numeral 32 id.toNat := by
  have plain : ∀ c ∈ uuidText id, c ≠ 'u' ∧ isBrace c = false := by
    intro c among
    rcases mem_uuidText among with rfl | ⟨digit, small, rfl⟩
    · decide
    · exact ⟨(hexChar_plain digit small).1, (hexChar_plain digit small).2.2⟩
  rw [uuidDigits_eq (fun among => (plain _ among).1 rfl) (fun c among => (plain c among).2)]
  refine filter_hyphenated ?_
  intro c among
  obtain ⟨digit, small, rfl⟩ := hexadecimal.mem_numeral (by decide) among
  exact (hexChar_plain digit small).2.1

theorem uuidOfText_uuidText (id : Uuid) : uuidOfText (uuidText id) = some id := by
  have fits : id.toNat < 16 ^ 32 := id.isLt
  rw [uuidOfText, uuidDigits_uuidText, hexadecimal.length_numeral, if_pos rfl,
    hexadecimal.read_numeral (by decide) fits, Option.map_some, BitVec.ofNat_toNat,
    BitVec.setWidth_eq]

/-! ## Datetimes come back -/

theorem expect_cons (c : Char) (rest : Text) : expect c (c :: rest) = some rest := by
  rw [expect, if_pos rfl]

theorem readField_decimal (width : Nat) {number : Nat} (fits : number < 10 ^ width) (rest : Text) :
    decimal.readField width (decimal.numeral width number ++ rest) = some (number, rest) :=
  decimal.readField_numeral (by decide) fits rest

theorem readSeconds_of_ends (hour minute : Nat) {second : Nat} {rest : Text}
    (secondFits : second < 60) (ends : rest.head? ≠ some '.') :
    readSeconds hour minute (':' :: (decimal.numeral 2 second ++ rest)) =
      some (⟨hour, minute, second, 0⟩, rest) := by
  simp only [readSeconds, expect_cons, Option.bind_eq_bind, Option.bind_some,
    readField_decimal 2 (show second < 10 ^ 2 by omega)]
  split
  · rename_i fraction
    exact absurd rfl ends
  · rfl

theorem readSeconds_fraction (hour minute : Nat) {second microsecond : Nat} {rest : Text}
    (secondFits : second < 60) (microsecondFits : microsecond < 1000000) :
    readSeconds hour minute
        (':' :: (decimal.numeral 2 second ++ ('.' :: (decimal.numeral 6 microsecond ++ rest)))) =
      some (⟨hour, minute, second, microsecond⟩, rest) := by
  simp only [readSeconds, expect_cons, Option.bind_eq_bind, Option.bind_some,
    readField_decimal 2 (show second < 10 ^ 2 by omega),
    readField_decimal 6 (show microsecond < 10 ^ 6 by omega)]

theorem readClock_minutes {hour minute : Nat} (rest : Text) (hourFits : hour < 24)
    (minuteFits : minute < 60) (ends : rest.head? ≠ some ':') :
    readClock (decimal.numeral 2 hour ++ ':' :: (decimal.numeral 2 minute ++ rest)) =
      some (⟨hour, minute, 0, 0⟩, rest) := by
  simp only [readClock, expect_cons, Option.bind_eq_bind, Option.bind_some,
    readField_decimal 2 (show hour < 10 ^ 2 by omega),
    readField_decimal 2 (show minute < 10 ^ 2 by omega)]
  split
  · rename_i seconds
    exact absurd rfl ends
  · rfl

theorem readClock_clockText {hour minute second microsecond : Nat} (rest : Text)
    (hourFits : hour < 24) (minuteFits : minute < 60) (secondFits : second < 60)
    (microsecondFits : microsecond < 1000000) (ends : rest.head? ≠ some '.') :
    readClock (clockText hour minute second microsecond ++ rest) =
      some (⟨hour, minute, second, microsecond⟩, rest) := by
  simp only [clockText, List.append_assoc, List.cons_append, readClock, expect_cons,
    Option.bind_eq_bind, Option.bind_some, readField_decimal 2 (show hour < 10 ^ 2 by omega),
    readField_decimal 2 (show minute < 10 ^ 2 by omega)]
  by_cases whole : microsecond = 0
  · rw [if_pos whole, whole, List.nil_append]
    exact readSeconds_of_ends hour minute secondFits ends
  · rw [if_neg whole, List.cons_append]
    exact readSeconds_fraction hour minute secondFits microsecondFits

/-- A size below a day, written as a clock. -/
theorem readClock_offset {size : Nat} (small : size < 86400000000) :
    ∃ clock : Clock, clock.size = size ∧
      readClock (if size % 60000000 = 0 then
          decimal.numeral 2 (size / 3600000000) ++
            ':' :: decimal.numeral 2 (size / 60000000 % 60)
        else clockText (size / 3600000000) (size / 60000000 % 60) (size / 1000000 % 60)
          (size % 1000000)) = some (clock, []) := by
  have hourFits : size / 3600000000 < 24 := by omega
  have minuteFits : size / 60000000 % 60 < 60 := by omega
  split
  · rename_i whole
    refine ⟨⟨size / 3600000000, size / 60000000 % 60, 0, 0⟩, ?_, ?_⟩
    · simp only [Clock.size]
      omega
    · have clock := readClock_minutes [] hourFits minuteFits (by simp)
      rwa [List.append_nil] at clock
  · refine ⟨⟨size / 3600000000, size / 60000000 % 60, size / 1000000 % 60, size % 1000000⟩,
      ?_, ?_⟩
    · simp only [Clock.size]
      omega
    · have clock := readClock_clockText [] hourFits minuteFits
        (show size / 1000000 % 60 < 60 by omega) (show size % 1000000 < 1000000 by omega)
        (by simp)
      rwa [List.append_nil] at clock

theorem readOffset_offsetText {offset : Int} (small : offset.natAbs < 86400000000) :
    readOffset (offsetText offset) = some (some offset) := by
  obtain ⟨clock, size, reads⟩ := readClock_offset small
  simp only [readOffset, offsetText, reads, Option.bind_eq_bind, Option.bind_some, size]
  by_cases negative : offset < 0
  · have is : -(offset.natAbs : Int) = offset := by omega
    rw [if_pos negative, is]
    rfl
  · have is : (offset.natAbs : Int) = offset := by omega
    rw [if_neg negative, is]
    rfl

theorem head_offsetText (offset : Int) : (offsetText offset).head? ≠ some '.' := by
  unfold offsetText
  by_cases negative : offset < 0
  · simp [negative]
  · simp [negative]

theorem fromisoformat_isoformat (time : Datetime) : fromisoformat (isoformat time) = some time := by
  have valid := time.valid
  have year := valid.year
  have month := valid.month
  have dayFits : time.day < 10 ^ 2 := by
    have day := valid.day
    unfold daysInMonth at day
    split at day <;> [split at day; split at day] <;> omega
  have head : ((time.utcoffset.map offsetText).getD []).head? ≠ some '.' := by
    cases time.utcoffset with
    | none => simp
    | some offset => exact head_offsetText offset
  have offset : readOffset ((time.utcoffset.map offsetText).getD []) = some time.utcoffset := by
    cases given : time.utcoffset with
    | none => rfl
    | some offset => exact readOffset_offsetText (valid.utcoffset offset given)
  simp only [fromisoformat, isoformat, expect_cons, Option.bind_eq_bind, Option.bind_some,
    readField_decimal 4 (show time.year < 10 ^ 4 by omega),
    readField_decimal 2 (show time.month < 10 ^ 2 by omega), readField_decimal 2 dayFits,
    readClock_clockText _ valid.hour valid.minute valid.second valid.microsecond head, offset]
  rw [datetimeOf, dif_pos valid]

end WealthFinder.Pipeline
