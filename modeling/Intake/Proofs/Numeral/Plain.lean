import Intake.Proofs.Json.Numbers
import Intake.Proofs.Numeral.ShortestDigits

/-!
# Plain numerals

A plain numeral writes a number out, without a power of ten, without a needless zero in front or at
the end, and without a plus sign. A number has one plain numeral of each sign
(`Literal.IsPlain.eq_of_magnitude_eq`), which is read as it is written
(`Literal.IsPlain.readFloat?_chars`).

A binary number is written as a plain numeral of its shortest digits (`Binary.isPlain_literal`), and
read back from it (`Binary.round_literal`).
-/

namespace Intake.Numeral

open Intake.Text Intake.Json

/-! ## Plain numerals -/

/-- Digits after a point, with no needless zero at the end. -/
structure IsPlainFraction (cs : List Char) : Prop where
  ne_nil : cs ≠ []
  digits : ∀ c ∈ cs, isAsciiDigit c = true
  last : cs.getLast? ≠ some '0'

/-- A number that is written out, with no needless zeros. -/
structure Literal.IsPlain (l : Literal) : Prop where
  whole : IsPlainWhole l.whole
  fraction : ∀ digits, l.fraction = some digits → IsPlainFraction digits
  exponent : l.exponent = none

/-- A whole number without a point is plain. -/
theorem isPlain_of_whole (negative : Bool) {whole : List Char} (plain : IsPlainWhole whole) :
    Literal.IsPlain ⟨negative, whole, none, none⟩ where
  whole := plain
  fraction _ none_there := nomatch none_there
  exponent := rfl

/-- The digits after the point, if there is a point. -/
def Literal.decimals (l : Literal) : List Char := l.fraction.getD []

/-- The magnitude of a number that is written out. -/
theorem Literal.magnitude_eq {l : Literal} (no_power : l.exponent = none) :
    l.value.magnitude = digitsValue (l.whole ++ l.decimals) / 10 ^ l.decimals.length := by
  rw [Decimal.magnitude, Literal.value, no_power, Option.map_none, Option.getD_none, zero_sub,
    zpow_neg, zpow_natCast, div_eq_mul_inv]
  rfl

/-! ## Reading -/

namespace Literal.IsPlain

variable {l : Literal}

theorem decimals_digits (h : l.IsPlain) : ∀ c ∈ l.decimals, isAsciiDigit c = true := by
  unfold Literal.decimals
  cases fraction : l.fraction with
  | none => simp
  | some digits => exact (h.fraction digits fraction).digits

/-- A plain numeral is a number as they are written in JSON. -/
theorem writesNumber (h : l.IsPlain) : WritesNumber l.chars l := by
  have chars_eq := chars_eq_append l
  obtain ⟨negative, whole, fraction, exponent⟩ := l
  obtain ⟨plain, plain_fraction, rfl⟩ := h
  rw [chars_eq]
  cases fraction with
  | none => exact .intro negative plain .none nofun .none
  | some digits =>
    have decimals := plain_fraction digits rfl
    refine .intro negative plain (.point decimals.digits) (fun no_digits => ?_) .none
    exact decimals.ne_nil (Option.some.inj no_digits)

theorem isNumber (h : l.IsPlain) : IsNumber l.chars := ⟨l, h.writesNumber⟩

/-- **A plain numeral is read as it is written.** -/
theorem readFloat?_chars (h : l.IsPlain) : readFloat? l.chars = some (.literal l) :=
  readFloat?_eq_literal_iff.mpr h.writesNumber.writesLiteral

end Literal.IsPlain

/-! ## One numeral for each number -/

/-- Of two ways to write a number, one that ends in a digit that counts has no more decimals. -/
theorem decimals_le {c c' p p' : Nat} (same : c * tenTo p' = c' * tenTo p)
    (last : p' ≠ 0 → c' % 10 ≠ 0) : p' ≤ p := by
  by_contra more
  obtain ⟨d, rfl⟩ := Nat.exists_eq_add_of_lt (Nat.lt_of_not_le more)
  have tens : c' = c * tenTo d * 10 := by
    refine Nat.eq_of_mul_eq_mul_right (tenTo_pos p) ?_
    rw [← same, tenTo_succ, tenTo, tenTo, tenTo, Nat.pow_eq, Nat.pow_eq, Nat.pow_eq, Nat.pow_add]
    ring
  exact last (Nat.succ_ne_zero _) (by omega)

namespace Literal.IsPlain

variable {l l' : Literal}

/-- The last of the digits after the point counts. -/
theorem last_ne_zero (h : l.IsPlain) (places : l.decimals.length ≠ 0) :
    digitsValue (l.whole ++ l.decimals) % 10 ≠ 0 := by
  cases fraction : l.fraction with
  | none => simp [Literal.decimals, fraction] at places
  | some digits =>
    obtain ⟨ne_nil, are_digits, last⟩ := h.fraction digits fraction
    rw [Literal.decimals, fraction, Option.getD_some]
    cases digits using List.reverseRecOn with
    | nil => exact absurd rfl ne_nil
    | append_singleton front d =>
      obtain ⟨n, n_lt, rfl, n_eq⟩ := exists_eq_digitChar (are_digits d (by simp))
      rw [List.getLast?_concat, ne_eq, Option.some.injEq, digitChar_eq_zero_iff] at last
      rw [← List.append_assoc, digitsValue_append_singleton, n_eq, Option.getD_some]
      omega

/-- The digits of a plain numeral tell whether it has a point. -/
theorem fraction_eq (h : l.IsPlain) :
    l.fraction = if l.decimals = [] then none else some l.decimals := by
  unfold Literal.decimals
  cases fraction : l.fraction with
  | none => rfl
  | some cs => exact (if_neg (h.fraction cs fraction).ne_nil).symm

/-- **A number has one plain numeral** of each sign. -/
theorem eq_of_magnitude_eq (h : l.IsPlain) (h' : l'.IsPlain) (sign : l.negative = l'.negative)
    (same : l.value.magnitude = l'.value.magnitude) : l = l' := by
  have cross : digitsValue (l.whole ++ l.decimals) * tenTo l'.decimals.length =
      digitsValue (l'.whole ++ l'.decimals) * tenTo l.decimals.length := by
    rw [Literal.magnitude_eq h.exponent, Literal.magnitude_eq h'.exponent, ← cast_tenTo,
      ← cast_tenTo, div_eq_div_iff (by exact_mod_cast (tenTo_pos _).ne')
        (by exact_mod_cast (tenTo_pos _).ne')] at same
    exact_mod_cast same
  -- neither has more decimals than the other, since the last of them counts
  have places : l.decimals.length = l'.decimals.length :=
    Nat.le_antisymm (decimals_le cross.symm h.last_ne_zero) (decimals_le cross h'.last_ne_zero)
  rw [places] at cross
  obtain ⟨whole_value, decimals_value⟩ :=
    digitsValue_append_inj places (Nat.eq_of_mul_eq_mul_right (tenTo_pos _) cross)
  have whole_eq : l.whole = l'.whole := by
    rw [← h.whole.numeral_digitsValue, whole_value, h'.whole.numeral_digitsValue]
  have decimals_eq : l.decimals = l'.decimals :=
    eq_of_digitsValue_eq places h.decimals_digits h'.decimals_digits decimals_value
  have fraction_eq : l.fraction = l'.fraction := by
    rw [h.fraction_eq, h'.fraction_eq, decimals_eq]
  have exponent_eq : l.exponent = l'.exponent := h.exponent.trans h'.exponent.symm
  cases l
  cases l'
  simp only [Literal.mk.injEq]
  exact ⟨sign, whole_eq, fraction_eq, exponent_eq⟩

end Literal.IsPlain

/-! ## Integers -/

theorem isPlain_ofInt (n : Int) : (Literal.ofInt n).IsPlain :=
  isPlain_of_whole _ (isPlainWhole_numeral n.natAbs)

theorem chars_ofInt (n : Int) : (Literal.ofInt n).chars = signedNumeral n := by
  unfold signedNumeral Literal.chars Literal.ofInt
  split <;> simp_all

/-- The numeral of an integer is read as that integer. -/
theorem isIntegerText_signedNumeral (n : Int) : IsIntegerText (signedNumeral n) n := by
  have digits : AreDigits (numeral n.natAbs) :=
    ⟨numeral_ne_nil n.natAbs, fun _ => digitsOf_isAsciiDigit⟩
  unfold signedNumeral
  split
  · next negative =>
    have text := IsIntegerText.minus digits
    rwa [digitsValue_numeral, show -(n.natAbs : Int) = n by omega] at text
  · next positive =>
    have text := IsIntegerText.unsigned digits
    rwa [digitsValue_numeral, show (n.natAbs : Int) = n by omega] at text

/-! ## Writing digits out -/

/-- Where the point falls: after the digits and zeros behind them, among the digits, or in front of
them and zeros. -/
theorem positionalLiteral_cases (negative : Bool) {digits : List Char} (some_digits : digits ≠ [])
    (k : Int) :
    (∃ n : Nat, k = n ∧
        positionalLiteral .plain negative digits (digits.length + k) =
          ⟨negative, digits ++ List.replicate n '0', none, none⟩) ∨
      (∃ front back, digits = front ++ back ∧ front ≠ [] ∧ back ≠ [] ∧
        k = -(back.length : Int) ∧
        positionalLiteral .plain negative digits (digits.length + k) =
          ⟨negative, front, some back, none⟩) ∨
      ∃ n : Nat, k = -((n + digits.length : Nat) : Int) ∧
        positionalLiteral .plain negative digits (digits.length + k) =
          ⟨negative, ['0'], some (List.replicate n '0' ++ digits), none⟩ := by
  have length_pos := List.length_pos_of_ne_nil some_digits
  unfold positionalLiteral NumberStyle.plain
  dsimp only
  rcases Int.lt_or_le k 0 with below | above
  · rcases Int.lt_or_le 0 (digits.length + k) with inside | front
    · have inside : ¬ (digits.length : Int) + k ≤ 0 := Int.not_le.mpr inside
      refine .inr (.inl ⟨digits.take (digits.length + k).toNat,
        digits.drop (digits.length + k).toNat, (List.take_append_drop _ _).symm, ?_, ?_, ?_, ?_⟩)
      · exact List.ne_nil_of_length_pos (by rw [List.length_take]; omega)
      · exact List.ne_nil_of_length_pos (by rw [List.length_drop]; omega)
      · rw [List.length_drop]
        omega
      · have rest : digits.drop (digits.length + k).toNat ≠ [] :=
          List.ne_nil_of_length_pos (by rw [List.length_drop]; omega)
        rw [if_neg inside, if_neg inside, if_neg rest,
          show (digits.length + k).toNat - digits.length = 0 by omega, List.replicate_zero,
          List.append_nil]
    · refine .inr (.inr ⟨(-(digits.length + k)).toNat, by omega, ?_⟩)
      rw [if_pos front, if_pos front, if_neg]
      simp [some_digits]
  · obtain ⟨n, rfl⟩ := Int.eq_ofNat_of_zero_le above
    refine .inl ⟨n, rfl, ?_⟩
    have inside : ¬ (digits.length : Int) + n ≤ 0 := by omega
    have place : ((digits.length : Int) + n).toNat = digits.length + n := by omega
    rw [if_neg inside, if_neg inside, place, Nat.add_sub_cancel_left,
      List.take_of_length_le (by omega), List.drop_eq_nil_of_le (by omega), if_pos rfl]
    rfl

/-- **Digits that end in one that counts are written out as a plain numeral.** -/
theorem isPlain_positionalLiteral (negative : Bool) {j : Nat} (last : j % 10 ≠ 0) (k : Int) :
    (positionalLiteral .plain negative (numeral j) ((numeral j).length + k)).IsPlain := by
  have plain := isPlainWhole_numeral j
  have front_ne : (numeral j).head? ≠ some '0' := by
    intro zero
    have value_eq := digitsValue_numeral j
    rw [plain.front zero] at value_eq
    exact last (value_eq ▸ rfl)
  have last_ne : (numeral j).getLast? ≠ some '0' := by
    obtain ⟨front, numeral_eq⟩ := exists_numeral_eq_append j
    rw [numeral_eq, List.getLast?_concat]
    exact fun zero => last (digitChar_eq_zero_iff.mp (Option.some.inj zero))
  rcases positionalLiteral_cases negative plain.ne_nil k with
    ⟨n, -, literal_eq⟩ | ⟨front, back, digits_eq, some_front, some_back, -, literal_eq⟩ |
    ⟨n, -, literal_eq⟩ <;> rw [literal_eq]
  · refine isPlain_of_whole negative ⟨?_, ?_, fun zero => ?_⟩
    · exact List.append_ne_nil_of_left_ne_nil plain.ne_nil _
    · exact List.forall_mem_append.mpr ⟨plain.digits, fun c mem =>
        (List.eq_of_mem_replicate mem) ▸ rfl⟩
    · rw [List.head?_append_of_ne_nil _ plain.ne_nil] at zero
      exact absurd zero front_ne
  · rw [digits_eq] at front_ne last_ne
    have digits := digits_eq ▸ plain.digits
    rw [List.forall_mem_append] at digits
    rw [List.head?_append_of_ne_nil _ some_front] at front_ne
    rw [List.getLast?_append_of_ne_nil _ some_back] at last_ne
    refine ⟨⟨some_front, digits.1, fun zero => absurd zero front_ne⟩, fun cs cs_eq => ?_, rfl⟩
    obtain rfl := Option.some.inj cs_eq
    exact ⟨some_back, digits.2, last_ne⟩
  · refine ⟨isPlainWhole_numeral 0, fun cs cs_eq => ?_, rfl⟩
    obtain rfl := Option.some.inj cs_eq
    refine ⟨List.append_ne_nil_of_right_ne_nil _ plain.ne_nil, ?_, ?_⟩
    · exact List.forall_mem_append.mpr ⟨fun c mem => (List.eq_of_mem_replicate mem) ▸ rfl,
        plain.digits⟩
    · rwa [List.getLast?_append_of_ne_nil _ plain.ne_nil]

/-- **Digits that are written out denote the same number.** -/
theorem magnitude_positionalLiteral (negative : Bool) (j : Nat) (k : Int) :
    (positionalLiteral .plain negative (numeral j) ((numeral j).length + k)).value.magnitude =
      j * 10 ^ k := by
  rcases positionalLiteral_cases negative (numeral_ne_nil j) k with
    ⟨n, rfl, literal_eq⟩ | ⟨front, back, digits_eq, -, -, rfl, literal_eq⟩ |
    ⟨n, rfl, literal_eq⟩ <;>
    rw [literal_eq, Literal.magnitude_eq rfl] <;>
    dsimp only [Literal.decimals, Option.getD_none, Option.getD_some]
  · rw [List.append_nil, digitsValue_append_zeros, digitsValue_numeral, Nat.cast_mul, cast_tenTo,
      List.length_nil, pow_zero, div_one, zpow_natCast]
  · rw [← digits_eq, digitsValue_numeral, zpow_neg, zpow_natCast, div_eq_mul_inv]
  · have digits : digitsValue (['0'] ++ (List.replicate n '0' ++ numeral j)) = j := by
      rw [← List.append_assoc, show ['0'] ++ List.replicate n '0' = List.replicate (n + 1) '0' from
        rfl, digitsValue_zeros_append, digitsValue_numeral]
    rw [digits, List.length_append, List.length_replicate, zpow_neg, zpow_natCast, div_eq_mul_inv]

/-! ## Binary numbers as plain numerals -/

/-- The decimal number rounds to the binary number; none with fewer digits does, and none with as
many is nearer. -/
structure Binary.IsShortestDecimal (x : Binary) (y : Decimal) : Prop where
  rounds : binary64.round y = some x
  coarser : ∀ j, binary64.round ⟨x.negative, j, y.exponent + 1⟩ ≠ some x
  nearest : ∀ j, binary64.round ⟨x.negative, j, y.exponent⟩ = some x →
    |y.magnitude - x.magnitude| ≤
      |Decimal.magnitude ⟨x.negative, j, y.exponent⟩ - x.magnitude|

namespace Binary

variable {x : Binary}

theorem IsShortest.last_ne_zero {format : Format} {j : Nat} {k : Int}
    (h : x.IsShortest format j k) : j % 10 ≠ 0 := by
  intro zero
  obtain ⟨tens, rfl⟩ := Nat.dvd_of_mod_eq_zero zero
  refine h.coarser tens ?_
  have same : ((10 * tens : Nat) : ℚ) * 10 ^ k = tens * 10 ^ (k + 1) := by
    rw [zpow_add_one₀ (by norm_num)]
    push_cast
    ring
  exact same ▸ h.covers

theorem IsShortest.isShortestDecimal {j : Nat} {k : Int} (normal : x.IsNormal binary64)
    (positive : 0 < x.mantissa) (h : x.IsShortest binary64 j k) :
    x.IsShortestDecimal ⟨x.negative, j, k⟩ where
  rounds := (Format.round_eq_some_iff (by decide) normal positive).mpr ⟨rfl, h.covers⟩
  coarser j' rounds := h.coarser j'
    ((Format.round_eq_some_iff (by decide) normal positive).mp rounds).2
  nearest j' rounds := h.nearest j'
    ((Format.round_eq_some_iff (by decide) normal positive).mp rounds).2

theorem literal_plain_eq (x : Binary) :
    x.literal .plain = positionalLiteral .plain x.negative (numeral (x.shortest binary64 .up).1)
      ((numeral (x.shortest binary64 .up).1).length + (x.shortest binary64 .up).2) := rfl

/-- **A binary number is written as a plain numeral.** -/
theorem isPlain_literal (normal : x.IsOf binary64) : (x.literal .plain).IsPlain := by
  rw [literal_plain_eq]
  rcases Nat.eq_zero_or_pos x.mantissa with zero | positive
  · rw [Binary.shortest, if_pos zero]
    exact isPlain_of_whole x.negative (isPlainWhole_numeral 0)
  · exact isPlain_positionalLiteral _ (shortest_isShortest normal positive .up).last_ne_zero _

/-- **A binary number is written with its shortest digits.** -/
theorem isShortestDecimal_literal (normal : x.IsNormal binary64) (positive : 0 < x.mantissa) :
    ∃ y, x.IsShortestDecimal y ∧ (x.literal .plain).value.magnitude = y.magnitude := by
  have shortest := shortest_isShortest normal.toIsOf positive .up
  refine ⟨_, shortest.isShortestDecimal normal positive, ?_⟩
  rw [literal_plain_eq, magnitude_positionalLiteral]
  rfl

theorem value_literal_of_zero (zero : x.mantissa = 0) :
    (x.literal .plain).value = ⟨x.negative, 0, 0⟩ := by
  rw [literal_plain_eq, Binary.shortest, if_pos zero]
  rfl

/-- **A binary number is read back from its plain numeral.** -/
theorem round_literal (normal : x.IsNormal binary64) :
    binary64.round (x.literal .plain).value = some x := by
  rcases Nat.eq_zero_or_pos x.mantissa with zero | positive
  · -- zero has no first bit, so its exponent is the least
    have exponent_eq : x.exponent = binary64.minExponent := by
      refine normal.leading.resolve_left fun bit => ?_
      have := twoTo_pos (binary64.precision - 1)
      omega
    rw [value_literal_of_zero zero, Format.round, if_pos rfl, ← exponent_eq, ← zero]
  · obtain ⟨y, shortest, same⟩ := isShortestDecimal_literal normal positive
    have covers := (Format.round_eq_some_iff (by decide) normal positive).mp shortest.rounds
    refine (Format.round_eq_some_iff (by decide) normal positive).mpr ⟨rfl, ?_⟩
    rw [same]
    exact covers.2

end Binary

end Intake.Numeral
