import Intake.Numeral.Power
import Intake.Text.Digit

/-!
# Written decimal numbers

A `Literal` is a number as it is written: a sign, whole digits, perhaps a point with more digits,
perhaps a power of ten. Its text is kept digit for digit, so a number of any length passes through
unharmed; `Literal.value` says which rational number it denotes.
-/

namespace Intake.Numeral

open Intake.Text

/-- The power of ten at the end of a literal. -/
structure Exponent where
  negative : Bool
  digits : List Char
  deriving DecidableEq, Repr

/-- A decimal number as it is written. -/
structure Literal where
  negative : Bool
  whole : List Char
  fraction : Option (List Char)
  exponent : Option Exponent
  deriving DecidableEq, Repr

/-- The text of a power of ten: a small `e`, its sign, its digits. -/
def Exponent.chars (e : Exponent) : List Char :=
  'e' :: (if e.negative then '-' else '+') :: e.digits

/-- The characters of a literal. -/
def Literal.chars (l : Literal) : List Char :=
  (if l.negative then ['-'] else []) ++ l.whole ++
    (match l.fraction with
      | some digits => '.' :: digits
      | none => []) ++
    (match l.exponent with
      | some e => e.chars
      | none => [])

/-- The text of a literal. -/
def Literal.text (l : Literal) : String := String.ofList l.chars

/-- The literal of an integer. -/
def Literal.ofInt (n : Int) : Literal where
  negative := n < 0
  whole := numeral n.natAbs
  fraction := none
  exponent := none

/-! ## The number that is written -/

/-- A decimal number `± coefficient * 10 ^ exponent`. -/
structure Decimal where
  negative : Bool
  coefficient : Nat
  exponent : Int
  deriving DecidableEq, Repr

/-- From this value on, further digits of a power of ten are ignored. No finite result depends on
them. -/
def exponentCeiling : Nat := 0x10000

/-- The value of the digits of a power of ten, read from the left until the ceiling is reached. -/
def exponentValue (digits : List Char) : Nat :=
  digits.foldl
    (fun value c =>
      if value < exponentCeiling then 10 * value + (asciiDigit? c).getD 0 else value) 0

/-- The power of ten as an integer. -/
def Exponent.value (e : Exponent) : Int :=
  if e.negative then -(exponentValue e.digits : Int) else exponentValue e.digits

/-- The number that a literal denotes: the digits without the point, times the power of ten that
puts the point back. -/
def Literal.value (l : Literal) : Decimal where
  negative := l.negative
  coefficient := digitsValue (l.whole ++ l.fraction.getD [])
  exponent := (l.exponent.map Exponent.value).getD 0 - ((l.fraction.getD []).length : Int)

/-- The numerator of the magnitude, as a quotient of natural numbers. -/
def Decimal.numerator (x : Decimal) : Nat := x.coefficient * tenTo x.exponent.toNat

/-- The denominator of the magnitude, as a quotient of natural numbers. -/
def Decimal.denominator (x : Decimal) : Nat := tenTo (-x.exponent).toNat

/-- An integer as a decimal number. -/
def Decimal.ofInt (n : Int) : Decimal := ⟨n < 0, n.natAbs, 0⟩

/-! ## Reading pieces of a number -/

/-- Reads an optional sign; `true` stands for minus. -/
def readSign : List Char → Bool × List Char
  | '-' :: rest => (true, rest)
  | '+' :: rest => (false, rest)
  | cs => (false, cs)

/-- Cuts the leading ASCII digits off. -/
def splitDigits (cs : List Char) : List Char × List Char :=
  (cs.takeWhile isAsciiDigit, cs.dropWhile isAsciiDigit)

theorem splitDigits_append (cs : List Char) : (splitDigits cs).1 ++ (splitDigits cs).2 = cs :=
  List.takeWhile_append_dropWhile

theorem denominator_pos (x : Decimal) : 0 < x.denominator := tenTo_pos _

end Intake.Numeral
