import Mathlib.Algebra.Order.Ring.Nat
import Mathlib.Tactic.Ring

/-!
# Numerals of a fixed width

A number written with so many digits of a base, read back from the front of a text.
-/

set_option autoImplicit false

namespace WealthFinder

/-- The digits of a base, and how a character is read as one. -/
structure Digits (base : Nat) where
  char : Nat → Char
  value : Char → Option Nat
  value_char : ∀ digit < base, value (char digit) = some digit

namespace Digits
variable {base : Nat} (digits : Digits base)

/-- The last digits of a number, with leading zeros. -/
def numeral : Nat → Nat → List Char
  | 0, _ => []
  | width + 1, number => numeral width (number / base) ++ [digits.char (number % base)]

/-- The number that goes on with these digits. -/
def readFrom (number : Nat) : List Char → Option Nat
  | [] => some number
  | c :: rest => (digits.value c).bind fun digit => readFrom (base * number + digit) rest

def read (text : List Char) : Option Nat := digits.readFrom 0 text

/-- The number in the first characters, and the characters after them. -/
def readField (width : Nat) (text : List Char) : Option (Nat × List Char) :=
  if width ≤ text.length then (digits.read (text.take width)).map fun number =>
    (number, text.drop width)
  else none

theorem length_numeral (width number : Nat) : (digits.numeral width number).length = width := by
  induction width generalizing number with
  | zero => rfl
  | succ width ih => rw [numeral, List.length_append, ih, List.length_singleton]

theorem mem_numeral {width number : Nat} (positive : 0 < base) {c : Char}
    (among : c ∈ digits.numeral width number) : ∃ digit < base, c = digits.char digit := by
  induction width generalizing number with
  | zero => cases among
  | succ width ih =>
      rw [numeral, List.mem_append, List.mem_singleton] at among
      cases among with
      | inl earlier => exact ih earlier
      | inr last => exact ⟨_, Nat.mod_lt number positive, last⟩

theorem readFrom_append (number : Nat) (first second : List Char) :
    digits.readFrom number (first ++ second) =
      (digits.readFrom number first).bind fun middle => digits.readFrom middle second := by
  induction first generalizing number with
  | nil => rfl
  | cons c rest ih =>
      rw [List.cons_append, readFrom, readFrom, Option.bind_assoc]
      exact congrArg _ (funext fun digit => ih _)

theorem readFrom_numeral (positive : 0 < base) (start width number : Nat) :
    digits.readFrom start (digits.numeral width number) =
      some (base ^ width * start + number % base ^ width) := by
  induction width generalizing number with
  | zero => simp [numeral, readFrom, Nat.mod_one]
  | succ width ih =>
      have last := digits.value_char _ (Nat.mod_lt number positive)
      rw [numeral, readFrom_append, ih, Option.bind_some, readFrom, last, Option.bind_some,
        readFrom, Option.some.injEq, pow_succ, Nat.mul_comm (base ^ width) base, Nat.mod_mul]
      ring

theorem read_numeral (positive : 0 < base) {width number : Nat} (fits : number < base ^ width) :
    digits.read (digits.numeral width number) = some number := by
  rw [read, readFrom_numeral digits positive, Nat.mod_eq_of_lt fits, Nat.mul_zero, Nat.zero_add]

theorem readField_numeral (positive : 0 < base) {width number : Nat}
    (fits : number < base ^ width) (rest : List Char) :
    digits.readField width (digits.numeral width number ++ rest) = some (number, rest) := by
  have length := digits.length_numeral width number
  have room : width ≤ (digits.numeral width number ++ rest).length := by
    rw [List.length_append, length]
    exact Nat.le_add_right _ _
  rw [readField, if_pos room, List.take_left' length, List.drop_left' length,
    digits.read_numeral positive fits]
  rfl

end Digits

/-! ## Decimal and hexadecimal digits -/

def decimalChar (digit : Nat) : Char := Char.ofNat ('0'.toNat + digit)

def decimalValue (c : Char) : Option Nat :=
  if '0' ≤ c ∧ c ≤ '9' then some (c.toNat - '0'.toNat) else none

def decimal : Digits 10 where
  char := decimalChar
  value := decimalValue
  value_char := by decide

def hexChar (digit : Nat) : Char :=
  if digit < 10 then decimalChar digit else Char.ofNat ('a'.toNat + (digit - 10))

def hexValue (c : Char) : Option Nat :=
  if 'a' ≤ c ∧ c ≤ 'f' then some (c.toNat - 'a'.toNat + 10)
  else if 'A' ≤ c ∧ c ≤ 'F' then some (c.toNat - 'A'.toNat + 10)
  else decimalValue c

def hexadecimal : Digits 16 where
  char := hexChar
  value := hexValue
  value_char := by decide

end WealthFinder
