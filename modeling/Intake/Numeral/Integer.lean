import Intake.Numeral.Literal

/-!
# Integers of a fixed width

An integer field takes a numeral with an optional sign whose value fits the field's width in two's
complement. Digits are read from the left and the running value is checked at each of them, so a
numeral that leaves the range is refused as too large or too small there and then, whatever
characters follow.
-/

namespace Intake.Numeral

open Intake.Text

/-- Why a text is not an integer of the wanted width. -/
inductive IntegerFault where
  | invalidDigit
  | tooLarge
  | tooSmall
  deriving DecidableEq, Repr

/-- The wording of an integer fault. -/
def IntegerFault.message : IntegerFault → String
  | .invalidDigit => "invalid digit found in string"
  | .tooLarge => "number too large to fit in target type"
  | .tooSmall => "number too small to fit in target type"

/-- The least integer of `bits` bits. -/
def leastInt (bits : Nat) : Int := -(twoTo (bits - 1) : Int)

/-- The greatest integer of `bits` bits. -/
def greatestInt (bits : Nat) : Int := (twoTo (bits - 1) : Int) - 1

/-- Is the integer one of `bits` bits? -/
def fitsInt (bits : Nat) (n : Int) : Prop := leastInt bits ≤ n ∧ n ≤ greatestInt bits

instance (bits : Nat) (n : Int) : Decidable (fitsInt bits n) :=
  inferInstanceAs (Decidable (_ ∧ _))

/-- Appends one digit to a running value of the given sign. -/
def appendDigit (negative : Bool) (value : Int) (digit : Nat) : Int :=
  if negative then 10 * value - digit else 10 * value + digit

/-- Reads digits onto a running value that fits the width. -/
def readIntDigits (bits : Nat) (negative : Bool) : Int → List Char → Except IntegerFault Int
  | value, [] => .ok value
  | value, c :: rest =>
    match asciiDigit? c with
    | none => .error .invalidDigit
    | some digit =>
      let next := appendDigit negative value digit
      if next < leastInt bits then .error .tooSmall
      else if greatestInt bits < next then .error .tooLarge
      else readIntDigits bits negative next rest

/-- Reads an integer of `bits` bits. -/
def readInt (bits : Nat) (cs : List Char) : Except IntegerFault Int :=
  match readSign cs with
  | (_, []) => .error .invalidDigit
  | (negative, digits) => readIntDigits bits negative 0 digits

end Intake.Numeral
