import Intake.Numeral.Binary

/-!
# The texts of floating-point numbers

A floating-point field takes decimal literals: an optional sign, digits with an optional point and
at least one digit on either side of it, and an optional power of ten. The words for infinity and
for "not a number" are recognised too, since they are refused for another reason than a text that
is no number at all.
-/

namespace Intake.Numeral

open Intake.Text

/-- A text that names a floating-point number. -/
inductive FloatText where
  /-- A decimal number. -/
  | literal (number : Literal)
  /-- A word for infinity or for "not a number". -/
  | word
  deriving DecidableEq, Repr

/-- The words for infinity and for "not a number", in small letters. -/
def floatWords : List (List Char) := ["inf".toList, "infinity".toList, "nan".toList]

/-- Reads the power of ten at the end of a literal. -/
def readExponent? : List Char → Option (Option Exponent)
  | [] => some none
  | mark :: rest =>
    if mark = 'e' ∨ mark = 'E' then
      let (negative, digits) := readSign rest
      if digits ≠ [] ∧ digits.all isAsciiDigit then some (some ⟨negative, digits⟩) else none
    else none

/-- Reads the digits after the point, if there is a point. -/
def readFraction : List Char → Option (List Char) × List Char
  | '.' :: rest => ((splitDigits rest).1, (splitDigits rest).2)
  | cs => (none, cs)

/-- Reads a decimal literal without its sign. -/
def readUnsigned? (negative : Bool) (cs : List Char) : Option Literal :=
  let (whole, rest) := splitDigits cs
  let (fraction, rest) := readFraction rest
  if whole = [] ∧ fraction.getD [] = [] then none
  else (readExponent? rest).map fun exponent => ⟨negative, whole, fraction, exponent⟩

/-- Reads the text of a floating-point number. -/
def readFloat? (cs : List Char) : Option FloatText :=
  let (negative, rest) := readSign cs
  if rest.map Char.toLower ∈ floatWords then some .word
  else (readUnsigned? negative rest).map .literal

end Intake.Numeral
