import Intake.Text.Ranges

/-!
# Decimal digits

Unicode's decimal digits (general category Nd) come in runs of ten, from the digit zero to the digit
nine of one script. `isDecimalDigit` recognises them all; `asciiDigit?` reads the digits `0` to `9`
only, which are the digits that numerals are written with.
-/

namespace Intake.Text

/-- The zeros of Unicode's decimal digits, the ASCII one first. -/
def digitZeros : List Nat :=
  [0x0030, 0x0660, 0x06F0, 0x07C0, 0x0966, 0x09E6, 0x0A66, 0x0AE6, 0x0B66, 0x0BE6, 0x0C66,
   0x0CE6, 0x0D66, 0x0DE6, 0x0E50, 0x0ED0, 0x0F20, 0x1040, 0x1090, 0x17E0, 0x1810, 0x1946,
   0x19D0, 0x1A80, 0x1A90, 0x1B50, 0x1BB0, 0x1C40, 0x1C50, 0xA620, 0xA8D0, 0xA900, 0xA9D0,
   0xA9F0, 0xAA50, 0xABF0, 0xFF10, 0x104A0, 0x10D30, 0x10D40, 0x11066, 0x110F0, 0x11136,
   0x111D0, 0x112F0, 0x11450, 0x114D0, 0x11650, 0x116C0, 0x116D0, 0x116DA, 0x11730, 0x118E0,
   0x11950, 0x11BF0, 0x11C50, 0x11D50, 0x11DA0, 0x11DE0, 0x11F50, 0x16130, 0x16A60, 0x16AC0,
   0x16B50, 0x16D70, 0x1CCF0, 0x1D7CE, 0x1D7D8, 0x1D7E2, 0x1D7EC, 0x1D7F6, 0x1E140, 0x1E2F0,
   0x1E4F0, 0x1E5F1, 0x1E950, 0x1FBF0]

/-- Is the character a decimal digit of some script? -/
def isDecimalDigit (c : Char) : Bool :=
  digitZeros.any fun first => first ≤ c.toNat && c.toNat ≤ first + 9

/-- Is the character one of `0` to `9`? -/
def isAsciiDigit (c : Char) : Bool := '0' ≤ c && c ≤ '9'

/-- The number that an ASCII digit stands for. -/
def asciiDigit? (c : Char) : Option Nat :=
  if isAsciiDigit c then some (c.toNat - 48) else none

/-- The number written by a run of ASCII digits; other characters count as zero. -/
def digitsValue (cs : List Char) : Nat :=
  cs.foldl (fun value c => 10 * value + (asciiDigit? c).getD 0) 0

/-- The value of a hexadecimal digit of either case. -/
def hexValue? (c : Char) : Option Nat :=
  if '0' ≤ c ∧ c ≤ '9' then some (c.toNat - 48)
  else if 'a' ≤ c ∧ c ≤ 'f' then some (c.toNat - 87)
  else if 'A' ≤ c ∧ c ≤ 'F' then some (c.toNat - 55)
  else none

/-- The ASCII digit of a number below ten. -/
def digitChar (n : Nat) : Char := Char.ofNat (48 + n % 10)

/-- The digits of a number, without leading zeros; `fuel` bounds their count. -/
def digitsOf : Nat → Nat → List Char
  | 0, _ => []
  | fuel + 1, n => if n < 10 then [digitChar n] else digitsOf fuel (n / 10) ++ [digitChar n]

/-- The decimal numeral of a natural number. -/
def numeral (n : Nat) : List Char := digitsOf (n + 1) n

/-- The decimal numeral of an integer, with a `-` in front of a negative one. -/
def signedNumeral (n : Int) : List Char :=
  if n < 0 then '-' :: numeral n.natAbs else numeral n.natAbs

/-- A numeral filled up with zeros on the left to at least `width` digits. -/
def paddedNumeral (width n : Nat) : List Char :=
  let digits := numeral n
  List.replicate (width - digits.length) '0' ++ digits

/-! ## Digits -/

/-- **ASCII digits are decimal digits.** -/
theorem isDecimalDigit_of_isAsciiDigit {c : Char} (h : isAsciiDigit c = true) :
    isDecimalDigit c = true := by
  simp only [isAsciiDigit, Bool.and_eq_true, decide_eq_true_eq] at h
  have h1 : 48 ≤ c.toNat := h.1
  have h2 : c.toNat ≤ 57 := h.2
  simp only [isDecimalDigit, digitZeros, List.any_cons]
  simp [h1, h2]

theorem asciiDigit?_digitChar (n : Nat) : asciiDigit? (digitChar n) = some (n % 10) := by
  have all : ∀ k < 10, asciiDigit? (Char.ofNat (48 + k)) = some k := by decide
  exact all (n % 10) (Nat.mod_lt n (by decide))

theorem digitsValue_append_singleton (cs : List Char) (c : Char) :
    digitsValue (cs ++ [c]) = 10 * digitsValue cs + (asciiDigit? c).getD 0 := by
  simp [digitsValue]

theorem digitsValue_digitsOf {fuel n : Nat} (h : n < fuel) : digitsValue (digitsOf fuel n) = n := by
  induction fuel generalizing n with
  | zero => omega
  | succ fuel ih =>
    rw [digitsOf]
    split
    · next small => simp [digitsValue, asciiDigit?_digitChar, Nat.mod_eq_of_lt small]
    · rw [digitsValue_append_singleton, ih (by omega), asciiDigit?_digitChar]
      simp only [Option.getD_some]
      omega

/-- **A numeral is read back as its number.** -/
theorem digitsValue_numeral (n : Nat) : digitsValue (numeral n) = n :=
  digitsValue_digitsOf (Nat.lt_succ_self n)

end Intake.Text
