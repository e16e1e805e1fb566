import Intake.Numeral.Binary

/-!
# Shortest decimal texts

A binary number is written with the fewest decimal digits that read back as the same number. The
multiples of `10 ^ k` form a grid; the coarsest grid with a point that rounds to the number gives the
digits, and of two such points the nearer one is taken. What remains is a matter of style: where
positional writing ends, whether a whole number keeps its point, and which way an exact tie goes.
-/

namespace Intake.Numeral

open Intake.Text

/-- Which of two equally near grid points is taken. -/
inductive Tie where
  | up
  | even
  deriving DecidableEq, Repr

/-- How a number is written once its digits are known. The point stands after `place` digits. -/
structure NumberStyle where
  /-- Is a number with its point there written out, without a power of ten? -/
  positional : Int → Bool
  /-- Does a whole number end in `.0`? -/
  keepPoint : Bool
  tie : Tie

/-- Numbers inside JSON text: written out from `0.00001` up to sixteen whole digits, and always with
a point or a power of ten. -/
def NumberStyle.json : NumberStyle where
  positional place := -5 < place && place ≤ 16
  keepPoint := true
  tie := .even

/-- Numbers as plain text: always written out, whole numbers without a point. -/
def NumberStyle.plain : NumberStyle where
  positional _ := true
  keepPoint := false
  tie := .up

/-! ## The interval of numbers that round to a binary number -/

/-- Four times the mantissa: the unit in which the ends of the rounding interval are whole. -/
def Binary.center (x : Binary) : Nat := 4 * x.mantissa

/-- The lower end. It is nearer at a power of two, where the numbers below are closer together. -/
def Binary.lowerEnd (format : Format) (x : Binary) : Nat :=
  if x.mantissa = twoTo (format.precision - 1) ∧ format.minExponent < x.exponent then x.center - 1
  else x.center - 2

/-- The upper end. -/
def Binary.upperEnd (x : Binary) : Nat := x.center + 2

/-- Multiplies a number of units into the numerator over `gridDenominator`. -/
def Binary.gridNumerator (x : Binary) (k : Int) (units : Nat) : Nat :=
  units * twoTo (x.exponent - 2).toNat * tenTo (-k).toNat

/-- One step of the grid `10 ^ k` over the same denominator. -/
def Binary.gridDenominator (x : Binary) (k : Int) : Nat :=
  twoTo (2 - x.exponent).toNat * tenTo k.toNat

/-- Does the grid point `j * 10 ^ k` round to the number? The ends belong to an even mantissa. -/
def Binary.roundsFrom (format : Format) (x : Binary) (k : Int) (j : Nat) : Bool :=
  let point := j * x.gridDenominator k
  let low := x.gridNumerator k (x.lowerEnd format)
  let high := x.gridNumerator k x.upperEnd
  if x.mantissa % 2 = 0 then low ≤ point && point ≤ high else low < point && point < high

/-- Chooses between the grid points on either side of the number. -/
def Binary.nearer (x : Binary) (tie : Tie) (k : Int) (below : Nat) : Nat :=
  let center := x.gridNumerator k x.center
  let down := center - below * x.gridDenominator k
  let up := (below + 1) * x.gridDenominator k - center
  if down < up then below
  else if up < down then below + 1
  else match tie with
    | .up => below + 1
    | .even => below + below % 2

/-- The point of the grid `10 ^ k` that writes the number, if the grid has one. -/
def Binary.gridPoint? (format : Format) (tie : Tie) (x : Binary) (k : Int) : Option Nat :=
  let below := x.gridNumerator k x.center / x.gridDenominator k
  match x.roundsFrom format k below, x.roundsFrom format k (below + 1) with
  | true, true => some (x.nearer tie k below)
  | true, false => some below
  | false, true => some (below + 1)
  | false, false => none

/-! ## The search for the coarsest grid -/

/-- A grid that is too coarse for the number: its step is above the number's rounding interval. -/
def Binary.coarseGrid (x : Binary) : Int :=
  ((Nat.log2 x.mantissa : Int) + x.exponent + 1) * 30103 / 100000 + 1

/-- Tries finer and finer grids. -/
def Binary.searchGrid (format : Format) (tie : Tie) (x : Binary) : Nat → Int → Nat × Int
  | 0, k => (x.gridNumerator k x.center / x.gridDenominator k, k)
  | steps + 1, k =>
    match x.gridPoint? format tie k with
    | some j => (j, k)
    | none => x.searchGrid format tie steps (k - 1)

/-- The shortest digits of a number and the power of ten of the last of them. The search needs one
step for each digit and two to spare for the first guess. -/
def Binary.shortest (format : Format) (tie : Tie) (x : Binary) : Nat × Int :=
  if x.mantissa = 0 then (0, 0) else x.searchGrid format tie 24 x.coarseGrid

/-! ## Writing the digits -/

/-- Writes digits with the point after `place` of them, without a power of ten. -/
def positionalLiteral (style : NumberStyle) (negative : Bool) (digits : List Char) (place : Int) :
    Literal :=
  let whole :=
    if place ≤ 0 then ['0']
    else digits.take place.toNat ++ List.replicate (place.toNat - digits.length) '0'
  let fraction :=
    if place ≤ 0 then List.replicate (-place).toNat '0' ++ digits else digits.drop place.toNat
  { negative, whole, exponent := none
    fraction := if fraction = [] then (if style.keepPoint then some ['0'] else none)
      else some fraction }

/-- Writes digits with one of them before the point, and a power of ten. -/
def scientificLiteral (negative : Bool) (digits : List Char) (place : Int) : Literal where
  negative := negative
  whole := digits.take 1
  fraction := if digits.length ≤ 1 then none else some (digits.drop 1)
  exponent := some ⟨place - 1 < 0, numeral (place - 1).natAbs⟩

/-- The number in the given style. -/
def Binary.literal (style : NumberStyle) (x : Binary) : Literal :=
  let (significand, k) := x.shortest binary64 style.tie
  let digits := numeral significand
  let place : Int := digits.length + k
  if style.positional place then positionalLiteral style x.negative digits place
  else scientificLiteral x.negative digits place

end Intake.Numeral
