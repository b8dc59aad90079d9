import EpicFlow.Text.Basic

/-!
# Integers written in decimal

An integer of a fixed width is read from an optional sign and decimal
digits, left to right, and the first fault found is the one reported: a
character that is not a digit, or a value that leaves the width. An unsigned
integer takes only a plus sign.

Main statements:

* `readDigits_append`: a digit that keeps the value in range extends it.
-/

set_option autoImplicit false

namespace EpicFlow.Text

/-- Why a text is not an integer of a width. -/
inductive IntFault where
  | empty
  | invalidDigit
  | tooLarge
  | tooSmall
deriving DecidableEq, Repr

/-- The text of a fault. -/
def IntFault.message : IntFault → String
  | .empty => "cannot parse integer from empty string"
  | .invalidDigit => "invalid digit found in string"
  | .tooLarge => "number too large to fit in target type"
  | .tooSmall => "number too small to fit in target type"

/-- Read digits onto an accumulated value, failing with `fault` once the value
passes `limit`. -/
def readDigits (limit : Nat) (fault : IntFault) : Nat → List Char → Except IntFault Nat
  | acc, [] => .ok acc
  | acc, c :: cs =>
    if c.isDigit then
      let v := acc * 10 + (c.toNat - '0'.toNat)
      if v > limit then .error fault else readDigits limit fault v cs
    else .error .invalidDigit

/-- Read an unsigned integer below `2 ^ bits`. -/
def readUnsigned (bits : Nat) (s : String) : Except IntFault Nat :=
  match s.toList with
  | [] => .error .empty
  | ['+'] => .error .invalidDigit
  | '+' :: cs => readDigits (Nat.pow 2 bits - 1) .tooLarge 0 cs
  | cs => readDigits (Nat.pow 2 bits - 1) .tooLarge 0 cs

/-- Read a signed integer of `bits` bits, two's complement. -/
def readSigned (bits : Nat) (s : String) : Except IntFault Int :=
  match s.toList with
  | [] => .error .empty
  | ['+'] | ['-'] => .error .invalidDigit
  | '-' :: cs => (readDigits (Nat.pow 2 (bits - 1)) .tooSmall 0 cs).map fun n => -(n : Int)
  | '+' :: cs => (readDigits (Nat.pow 2 (bits - 1) - 1) .tooLarge 0 cs).map fun n => (n : Int)
  | cs => (readDigits (Nat.pow 2 (bits - 1) - 1) .tooLarge 0 cs).map fun n => (n : Int)

theorem readDigits_append (limit : Nat) (fault : IntFault) (acc : Nat) (c : Char) (cs : List Char)
    (hc : c.isDigit = true) (hv : acc * 10 + (c.toNat - '0'.toNat) ≤ limit) :
    readDigits limit fault acc (c :: cs) = readDigits limit fault (acc * 10 + (c.toNat - '0'.toNat)) cs := by
  have hn : ¬ (acc * 10 + (c.toNat - '0'.toNat) > limit) := Nat.not_lt.mpr hv
  simp only [readDigits, hc, ↓reduceIte, hn]

end EpicFlow.Text
