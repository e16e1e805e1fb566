import Intake.Numeral.Float

/-!
# Rounded numbers belong to their format

What rounding gives is a finite number of the format (`Format.round_isOf`): the place of the last
bit is chosen so that the mantissa has room, and a mantissa that rounding makes one bit too long is
carried over. A number that is finite in the narrow format is finite in the wide one
(`round_binary64_of_binary32`), since its last place there lies far below the highest.
-/

namespace Intake.Numeral

/-- Is the number one of the format, and finite? -/
structure Binary.IsOf (format : Format) (x : Binary) : Prop where
  mantissa_lt : x.mantissa < twoTo format.precision
  exponent_ge : format.minExponent ≤ x.exponent
  exponent_le : x.exponent ≤ format.maxExponent

/-! ## Powers -/

theorem twoTo_add (m n : Nat) : twoTo (m + n) = twoTo m * twoTo n := Nat.pow_add 2 m n

theorem twoTo_le_twoTo {m n : Nat} (h : m ≤ n) : twoTo m ≤ twoTo n :=
  Nat.pow_le_pow_right (by decide) h

theorem twoTo_log2_le {n : Nat} (h : n ≠ 0) : twoTo n.log2 ≤ n := Nat.log2_self_le h

theorem lt_twoTo_log2 (n : Nat) : n < twoTo (n.log2 + 1) := Nat.lt_log2_self

/-! ## The last place -/

/-- Is the quotient, in units of `2 ^ q`, below a bound? -/
def ScaledBelow (bound n d : Nat) (q : Int) : Prop :=
  scaleNumerator n q < bound * scaleDenominator d q

/-- In greater units, a quotient is smaller. -/
theorem ScaledBelow.mono {bound n d : Nat} {q r : Int} (h : ScaledBelow bound n d q)
    (le : q ≤ r) : ScaledBelow bound n d r := by
  unfold ScaledBelow scaleNumerator scaleDenominator at *
  have exponents : (-r).toNat + q.toNat ≤ (-q).toNat + r.toNat := by omega
  refine Nat.lt_of_mul_lt_mul_right (a := twoTo (-q).toNat) ?_
  calc n * twoTo (-r).toNat * twoTo (-q).toNat
      = n * twoTo (-q).toNat * twoTo (-r).toNat := by ac_rfl
    _ < bound * (d * twoTo q.toNat) * twoTo (-r).toNat :=
        Nat.mul_lt_mul_of_pos_right h (twoTo_pos _)
    _ = bound * d * twoTo ((-r).toNat + q.toNat) := by rw [twoTo_add]; ac_rfl
    _ ≤ bound * d * twoTo ((-q).toNat + r.toNat) :=
        Nat.mul_le_mul_left _ (twoTo_le_twoTo exponents)
    _ = bound * (d * twoTo r.toNat) * twoTo (-q).toNat := by rw [twoTo_add]; ac_rfl

/-- The difference of the lengths of two numbers tells their quotient to within a factor of two. -/
theorem scaledBelow_of_log2 {n d : Nat} (positive : d ≠ 0) (precision : Nat) :
    ScaledBelow (twoTo precision) n d
      ((n.log2 : Int) - (d.log2 : Int) - (precision : Int) + 1) := by
  unfold ScaledBelow scaleNumerator scaleDenominator
  generalize q_eq : (n.log2 : Int) - (d.log2 : Int) - (precision : Int) + 1 = q
  have exponents : n.log2 + 1 + (-q).toNat = precision + (d.log2 + q.toNat) := by omega
  calc n * twoTo (-q).toNat
      < twoTo (n.log2 + 1) * twoTo (-q).toNat :=
        Nat.mul_lt_mul_of_pos_right (lt_twoTo_log2 n) (twoTo_pos _)
    _ = twoTo precision * (twoTo d.log2 * twoTo q.toNat) := by
        rw [← twoTo_add, exponents, twoTo_add, twoTo_add]
    _ ≤ twoTo precision * (d * twoTo q.toNat) :=
        Nat.mul_le_mul_left _ (Nat.mul_le_mul_right _ (twoTo_log2_le positive))

namespace Format

variable (format : Format) (n : Nat) {d : Nat}

/-- **Before the last place there is room** for as many bits as the format has. -/
theorem scaledBelow_lastPlace (positive : d ≠ 0) :
    ScaledBelow (twoTo format.precision) n d (format.lastPlace n d) := by
  unfold lastPlace
  dsimp only
  refine ScaledBelow.mono ?_ (Int.le_max_left _ _)
  split
  · exact scaledBelow_of_log2 positive format.precision
  · next below => exact Nat.lt_of_not_le below

theorem minExponent_le_lastPlace (d : Nat) : format.minExponent ≤ format.lastPlace n d :=
  Int.le_max_right _ _

/-- The last place, up to one bit, by the lengths of the two numbers. -/
theorem lastPlace_bounds (d : Nat) :
    (n.log2 : Int) - (d.log2 : Int) - (format.precision : Int) ≤ format.lastPlace n d ∧
      format.lastPlace n d ≤
        max ((n.log2 : Int) - (d.log2 : Int) - (format.precision : Int) + 1)
          format.minExponent := by
  unfold lastPlace
  dsimp only
  split <;> omega

end Format

/-! ## Rounding -/

/-- Rounding to an integer goes no further than the next one. -/
theorem roundQuotient_le {n d bound : Nat} (h : n < bound * d) : roundQuotient n d ≤ bound := by
  have quotient_lt : n / d < bound := Nat.div_lt_of_lt_mul (by rwa [Nat.mul_comm] at h)
  unfold roundQuotient
  dsimp only
  split
  · omega
  · split <;> omega

/-- Carrying takes a mantissa back into the format, and the exponent up by at most one. -/
theorem Format.carry_bounds {format : Format} (wide : 0 < format.precision) {mantissa : Nat}
    (h : mantissa ≤ twoTo format.precision) (exponent : Int) :
    (format.carry mantissa exponent).1 < twoTo format.precision ∧
      exponent ≤ (format.carry mantissa exponent).2 ∧
      (format.carry mantissa exponent).2 ≤ exponent + 1 := by
  unfold carry
  split
  · obtain ⟨bits, bits_eq⟩ := Nat.exists_eq_add_one_of_ne_zero (Nat.ne_of_gt wide)
    have halved : twoTo (format.precision - 1) < twoTo format.precision := by
      have positive := twoTo_pos bits
      rw [bits_eq, Nat.add_sub_cancel, twoTo_succ]
      omega
    exact ⟨halved, by omega, Int.le_refl _⟩
  · exact ⟨by omega, Int.le_refl _, by omega⟩

namespace Format

variable {format : Format} {x : Decimal}

/-- The mantissa and the exponent that a number other than zero is rounded to, however great the
exponent. -/
def carried (format : Format) (x : Decimal) : Nat × Int :=
  let q := format.lastPlace x.numerator x.denominator
  format.carry
    (roundQuotient (scaleNumerator x.numerator q) (scaleDenominator x.denominator q)) q

theorem round_of_ne_zero (nonzero : x.coefficient ≠ 0) :
    format.round x =
      if format.maxExponent < (format.carried x).2 then none
      else some ⟨x.negative, (format.carried x).1, (format.carried x).2⟩ :=
  if_neg nonzero

/-- The mantissa fits, and the exponent is that of the last place or the next one. -/
theorem carried_bounds (format : Format) (wide : 0 < format.precision) (x : Decimal) :
    (format.carried x).1 < twoTo format.precision ∧
      format.lastPlace x.numerator x.denominator ≤ (format.carried x).2 ∧
      (format.carried x).2 ≤ format.lastPlace x.numerator x.denominator + 1 :=
  carry_bounds wide (roundQuotient_le
    (format.scaledBelow_lastPlace x.numerator (Nat.ne_of_gt (denominator_pos x)))) _

theorem round_eq_some {b : Binary} (nonzero : x.coefficient ≠ 0) (h : format.round x = some b) :
    (format.carried x).2 ≤ format.maxExponent ∧
      b = ⟨x.negative, (format.carried x).1, (format.carried x).2⟩ := by
  rw [round_of_ne_zero nonzero] at h
  split at h
  · cases h
  · next small => exact ⟨by omega, (Option.some.inj h).symm⟩

/-- **A rounded number is a finite number of the format.** -/
theorem round_isOf {b : Binary} (wide : 0 < format.precision)
    (exponents : format.minExponent ≤ format.maxExponent) (h : format.round x = some b) :
    b.IsOf format := by
  by_cases zero : x.coefficient = 0
  · rw [round, if_pos zero] at h
    obtain rfl := Option.some.inj h
    exact ⟨twoTo_pos _, Int.le_refl _, exponents⟩
  · obtain ⟨small, rfl⟩ := round_eq_some zero h
    obtain ⟨mantissa_lt, from_place, -⟩ := carried_bounds format wide x
    exact ⟨mantissa_lt,
      Int.le_trans (format.minExponent_le_lastPlace x.numerator x.denominator) from_place, small⟩

/-- A number whose last place lies below the greatest exponent is rounded. -/
theorem round_isSome_of_lastPlace (wide : 0 < format.precision)
    (small : format.lastPlace x.numerator x.denominator < format.maxExponent) :
    (format.round x).isSome = true := by
  obtain ⟨-, -, to_place⟩ := carried_bounds format wide x
  by_cases zero : x.coefficient = 0
  · rw [round, if_pos zero]
    rfl
  · rw [round_of_ne_zero zero, if_neg (by omega)]
    rfl

end Format

/-- **A number that is finite in 32 bits is finite in 64 bits.** -/
theorem round_binary64_of_binary32 {x : Decimal} {b : Binary} (h : binary32.round x = some b) :
    ∃ wide, binary64.round x = some wide ∧ wide.IsOf binary64 := by
  have rounded : (binary64.round x).isSome = true := by
    by_cases zero : x.coefficient = 0
    · rw [Format.round, if_pos zero]
      rfl
    · obtain ⟨small, -⟩ := Format.round_eq_some zero h
      obtain ⟨-, from_place, -⟩ := Format.carried_bounds binary32 (by decide) x
      obtain ⟨guess_le, -⟩ := Format.lastPlace_bounds binary32 x.numerator x.denominator
      obtain ⟨-, wide_le⟩ := Format.lastPlace_bounds binary64 x.numerator x.denominator
      refine Format.round_isSome_of_lastPlace (by decide) ?_
      simp only [binary32, binary64] at *
      omega
  obtain ⟨wide, wide_eq⟩ := Option.isSome_iff_exists.mp rounded
  exact ⟨wide, wide_eq, Format.round_isOf (by decide) (by decide) wide_eq⟩

end Intake.Numeral
