import Intake.Numeral.Literal

/-!
# Binary floating point

A binary format holds the numbers `± mantissa * 2 ^ exponent` with a bounded mantissa and a bounded
exponent. `Format.round` takes a decimal number to the nearest number of the format, a tie going to
the even mantissa; a magnitude that would round beyond the largest number has no nearest one.

Everything is computed in exact natural-number arithmetic.
-/

namespace Intake.Numeral

/-- A binary format: the mantissa has at most `precision` bits, and the exponent of the last bit
lies between the two bounds. -/
structure Format where
  precision : Nat
  minExponent : Int
  maxExponent : Int
  deriving DecidableEq, Repr

/-- The format of 64 bits. -/
def binary64 : Format := ⟨53, -1074, 971⟩

/-- The format of 32 bits. -/
def binary32 : Format := ⟨24, -149, 104⟩

/-- A finite number `± mantissa * 2 ^ exponent` of some binary format. Zero has a sign. -/
structure Binary where
  negative : Bool
  mantissa : Nat
  exponent : Int
  deriving DecidableEq, Repr

/-- The quotient of two natural numbers to the nearest integer, half way to the even one. -/
def roundQuotient (n d : Nat) : Nat :=
  let quotient := n / d
  let double := 2 * (n % d)
  if double < d then quotient
  else if d < double then quotient + 1
  else quotient + quotient % 2

/-- The numerator of `n / d / 2 ^ q`. -/
def scaleNumerator (n : Nat) (q : Int) : Nat := n * twoTo (-q).toNat

/-- The denominator of `n / d / 2 ^ q`. -/
def scaleDenominator (d : Nat) (q : Int) : Nat := d * twoTo q.toNat

/-- The exponent of the last place for a positive quotient `n / d`: the one that leaves exactly
`precision` bits before the point, but never below the least exponent of the format. -/
def Format.lastPlace (format : Format) (n d : Nat) : Int :=
  let guess : Int := (Nat.log2 n : Int) - (Nat.log2 d : Int) - (format.precision : Int)
  let exact : Int :=
    if twoTo format.precision * scaleDenominator d guess ≤ scaleNumerator n guess then guess + 1
    else guess
  max exact format.minExponent

/-- Carries a mantissa that rounding made one bit too long. -/
def Format.carry (format : Format) (mantissa : Nat) (exponent : Int) : Nat × Int :=
  if mantissa = twoTo format.precision then (twoTo (format.precision - 1), exponent + 1)
  else (mantissa, exponent)

/-- The number of the format that is nearest to a decimal number, or nothing when the number lies
beyond the largest one by half a last place or more. -/
def Format.round (format : Format) (x : Decimal) : Option Binary :=
  if x.coefficient = 0 then some ⟨x.negative, 0, format.minExponent⟩
  else
    let q := format.lastPlace x.numerator x.denominator
    let rounded := roundQuotient (scaleNumerator x.numerator q) (scaleDenominator x.denominator q)
    let (mantissa, exponent) := format.carry rounded q
    if format.maxExponent < exponent then none else some ⟨x.negative, mantissa, exponent⟩

/-- The 64-bit number nearest to an integer. -/
def nearestBinary (n : Int) : Option Binary := binary64.round (Decimal.ofInt n)

end Intake.Numeral
