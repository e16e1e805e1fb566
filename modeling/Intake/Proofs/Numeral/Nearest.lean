import Intake.Numeral.Shortest
import Intake.Proofs.Numeral.Rounding
import Mathlib.Algebra.Order.Field.Power
import Mathlib.Tactic.FieldSimp
import Mathlib.Tactic.Linarith
import Mathlib.Tactic.Positivity
import Mathlib.Tactic.Ring

/-!
# The numbers that round to a binary number

Around each number of a binary format lies the interval of the rational numbers that are nearest to
it (`Binary.Covers`); its ends belong to it if the mantissa is even. Every decimal number in that
interval rounds to the binary number (`Format.round_of_covers`). At a power of two the numbers below
lie closer together; a decimal number there is rounded in their finer places and carried back.
-/

namespace Intake.Numeral

/-! ## Magnitudes -/

/-- The magnitude of a decimal number. -/
def Decimal.magnitude (x : Decimal) : ℚ := x.coefficient * 10 ^ x.exponent

theorem cast_twoTo (n : Nat) : (twoTo n : ℚ) = 2 ^ n := by
  show ((2 ^ n : Nat) : ℚ) = 2 ^ n
  exact Nat.cast_pow 2 n

theorem cast_tenTo (n : Nat) : (tenTo n : ℚ) = 10 ^ n := by
  show ((10 ^ n : Nat) : ℚ) = 10 ^ n
  exact Nat.cast_pow 10 n

theorem twoTo_even {n : Nat} (some_bits : 1 ≤ n) : twoTo n % 2 = 0 := by
  obtain ⟨bits, rfl⟩ := Nat.exists_eq_add_of_le' some_bits
  rw [twoTo_succ, Nat.mul_mod_left]

theorem cast_twoTo_eq_double {precision : Nat} (wide : 0 < precision) :
    (twoTo precision : ℚ) = 2 * twoTo (precision - 1) := by
  obtain ⟨bits, rfl⟩ := Nat.exists_eq_add_one_of_ne_zero (Nat.ne_of_gt wide)
  rw [Nat.add_sub_cancel, cast_twoTo, cast_twoTo, pow_succ, mul_comm]

/-- An integer power is a quotient of natural ones. -/
theorem zpow_eq_div {base : ℚ} (nonzero : base ≠ 0) (q : Int) :
    base ^ q = base ^ q.toNat / base ^ (-q).toNat := by
  have split : q = (q.toNat : Int) - ((-q).toNat : Int) := by omega
  conv_lhs => rw [split, zpow_sub₀ nonzero, zpow_natCast, zpow_natCast]

theorem Decimal.magnitude_eq (x : Decimal) : x.magnitude = x.numerator / x.denominator := by
  rw [Decimal.magnitude, zpow_eq_div (by norm_num), Decimal.numerator, Decimal.denominator,
    Nat.cast_mul, cast_tenTo, cast_tenTo, mul_div_assoc]

/-- A quotient in units of `2 ^ q`. -/
theorem scaled_eq (n d : Nat) (q : Int) :
    (scaleNumerator n q : ℚ) / scaleDenominator d q = n / d / 2 ^ q := by
  rw [zpow_eq_div (by norm_num) q, scaleNumerator, scaleDenominator, Nat.cast_mul, Nat.cast_mul,
    cast_twoTo, cast_twoTo]
  field_simp

theorem scaleDenominator_pos {d : Nat} (positive : 0 < d) (q : Int) : 0 < scaleDenominator d q :=
  Nat.mul_pos positive (twoTo_pos _)

theorem scaledBelow_iff {bound n d : Nat} (positive : 0 < d) (q : Int) :
    ScaledBelow bound n d q ↔ (n / d : ℚ) < bound * 2 ^ q := by
  have denominator : (0 : ℚ) < scaleDenominator d q :=
    Nat.cast_pos.mpr (scaleDenominator_pos positive q)
  have unit : (0 : ℚ) < 2 ^ q := by positivity
  rw [ScaledBelow, ← div_lt_iff₀ unit, ← scaled_eq, div_lt_iff₀ denominator]
  exact_mod_cast Iff.rfl

/-! ## Normal numbers -/

/-- A finite number of a format whose mantissa has its first bit set, unless its exponent is the
least one. -/
structure Binary.IsNormal (format : Format) (x : Binary) : Prop extends x.IsOf format where
  leading : twoTo (format.precision - 1) ≤ x.mantissa ∨ x.exponent = format.minExponent

/-- In units twice as great, a bound of half the size is the same. -/
theorem scaledBelow_succ {precision n d : Nat} (wide : 0 < precision) (positive : 0 < d) (q : Int) :
    ScaledBelow (twoTo (precision - 1)) n d (q + 1) ↔ ScaledBelow (twoTo precision) n d q := by
  have same : (twoTo (precision - 1) : ℚ) * (2 ^ q * 2) = 2 * twoTo (precision - 1) * 2 ^ q := by
    ring
  rw [scaledBelow_iff positive, scaledBelow_iff positive, zpow_add_one₀ (by norm_num), same,
    cast_twoTo_eq_double wide]

/-- The lengths of two numbers tell their quotient from below, too. -/
theorem not_scaledBelow_of_log2 {n d precision : Nat} (nonzero : n ≠ 0) (wide : 0 < precision) :
    ¬ ScaledBelow (twoTo (precision - 1)) n d
      ((n.log2 : Int) - (d.log2 : Int) - (precision : Int)) := by
  unfold ScaledBelow scaleNumerator scaleDenominator
  generalize q_eq : (n.log2 : Int) - (d.log2 : Int) - (precision : Int) = q
  have exponents : precision - 1 + (d.log2 + 1 + q.toNat) = n.log2 + (-q).toNat := by omega
  refine Nat.not_lt.mpr ?_
  calc twoTo (precision - 1) * (d * twoTo q.toNat)
      ≤ twoTo (precision - 1) * (twoTo (d.log2 + 1) * twoTo q.toNat) :=
        Nat.mul_le_mul_left _ (Nat.mul_le_mul_right _ (Nat.le_of_lt (lt_twoTo_log2 d)))
    _ = twoTo n.log2 * twoTo (-q).toNat := by rw [← twoTo_add, ← twoTo_add, exponents, twoTo_add]
    _ ≤ n * twoTo (-q).toNat := Nat.mul_le_mul_right _ (twoTo_log2_le nonzero)

namespace Format

variable {format : Format}

/-- **The last place is chosen so that the first bit is set**, or is the least place there is. -/
theorem lastPlace_leading (wide : 0 < format.precision) {n d : Nat} (nonzero : n ≠ 0)
    (positive : 0 < d) :
    format.lastPlace n d = format.minExponent ∨
      ¬ ScaledBelow (twoTo (format.precision - 1)) n d (format.lastPlace n d) := by
  unfold lastPlace
  dsimp only
  rcases Int.le_total _ format.minExponent with least | above
  · exact .inl (Int.max_eq_right least)
  · rw [Int.max_eq_left above]
    right
    split
    · next long =>
      rw [scaledBelow_succ wide positive]
      exact Nat.not_lt.mpr long
    · exact not_scaledBelow_of_log2 nonzero wide

/-- The last place is the only one with room for the number and the first bit set. -/
theorem lastPlace_eq (wide : 0 < format.precision) {n d : Nat} (nonzero : n ≠ 0)
    (positive : 0 < d) {q : Int} (least : format.minExponent ≤ q)
    (room : ScaledBelow (twoTo format.precision) n d q)
    (leading : q = format.minExponent ∨ ¬ ScaledBelow (twoTo (format.precision - 1)) n d q) :
    format.lastPlace n d = q := by
  have least' := format.minExponent_le_lastPlace n d
  have room' := format.scaledBelow_lastPlace n (Nat.ne_of_gt positive)
  have leading' := lastPlace_leading wide nonzero positive
  rcases Int.lt_trichotomy (format.lastPlace n d) q with below | same | above
  · -- there would be no first bit at `q`
    have no_bit := ((scaledBelow_succ wide positive _).mpr room').mono (r := q) (by omega)
    rcases leading with lowest | bit
    · omega
    · exact absurd no_bit bit
  · exact same
  · have no_bit := ((scaledBelow_succ wide positive _).mpr room).mono
      (r := format.lastPlace n d) (by omega)
    rcases leading' with lowest | bit
    · omega
    · exact absurd no_bit bit

end Format

/-! ## Rounding to an integer -/

/-- Rounding gives the only integer within a half, and the even one of two. -/
theorem roundQuotient_eq {n d r : Nat} (positive : 0 < d) (low : 2 * r * d ≤ 2 * n + d)
    (high : 2 * n ≤ (2 * r + 1) * d)
    (inside : r % 2 = 0 ∨ 2 * r * d < 2 * n + d ∧ 2 * n < (2 * r + 1) * d) :
    roundQuotient n d = r := by
  have cut := Nat.div_add_mod n d
  have rest_lt := Nat.mod_lt n positive
  unfold roundQuotient
  dsimp only
  generalize n / d = quotient at *
  generalize n % d = rest at *
  have near : r = quotient ∨ r = quotient + 1 := by
    have at_most : r < quotient + 2 := by
      refine Nat.lt_of_mul_lt_mul_right (a := 2 * d) ?_
      nlinarith
    have at_least : quotient < r + 1 := by
      refine Nat.lt_of_mul_lt_mul_right (a := 2 * d) ?_
      nlinarith
    omega
  rcases near with rfl | rfl
  · have half : 2 * rest ≤ d := by nlinarith
    rcases inside with even | ⟨-, below⟩
    · split
      · rfl
      · split <;> omega
    · have under : 2 * rest < d := by nlinarith
      rw [if_pos under]
  · have half : d ≤ 2 * rest := by nlinarith
    rcases inside with even | ⟨above, -⟩
    · split
      · omega
      · split <;> omega
    · have beyond : d < 2 * rest := by nlinarith
      rw [if_neg (by omega), if_pos beyond]

theorem roundQuotient_eq_of_near {n d r : Nat} (positive : 0 < d) (low : (r : ℚ) - 1 / 2 ≤ n / d)
    (high : (n / d : ℚ) ≤ r + 1 / 2)
    (inside : r % 2 = 0 ∨ (r : ℚ) - 1 / 2 < n / d ∧ (n / d : ℚ) < r + 1 / 2) :
    roundQuotient n d = r := by
  have denominator : (0 : ℚ) < d := Nat.cast_pos.mpr positive
  rw [le_div_iff₀ denominator] at low
  rw [div_le_iff₀ denominator] at high
  rw [lt_div_iff₀ denominator, div_lt_iff₀ denominator] at inside
  refine roundQuotient_eq positive ?_ ?_ (inside.imp_right fun strict => ⟨?_, ?_⟩)
  · have : (2 * r * d : ℚ) ≤ 2 * n + d := by linarith
    exact_mod_cast this
  · have : (2 * n : ℚ) ≤ (2 * r + 1) * d := by linarith
    exact_mod_cast this
  · have : (2 * r * d : ℚ) < 2 * n + d := by linarith [strict.1]
    exact_mod_cast this
  · have : (2 * n : ℚ) < (2 * r + 1) * d := by linarith [strict.2]
    exact_mod_cast this

/-- **Rounding goes no further than a half**, and as far to an even integer only. -/
theorem near_roundQuotient {n d : Nat} (positive : 0 < d) :
    2 * roundQuotient n d * d ≤ 2 * n + d ∧ 2 * n ≤ (2 * roundQuotient n d + 1) * d ∧
      (roundQuotient n d % 2 = 0 ∨
        2 * roundQuotient n d * d < 2 * n + d ∧ 2 * n < (2 * roundQuotient n d + 1) * d) := by
  have cut := Nat.div_add_mod n d
  unfold roundQuotient
  dsimp only
  generalize n / d = quotient at *
  generalize rest_eq : n % d = rest at *
  have rest_lt : rest < d := rest_eq ▸ Nat.mod_lt n positive
  split
  · next below =>
    exact ⟨by nlinarith, by nlinarith, .inr ⟨by nlinarith, by nlinarith⟩⟩
  · split
    · next above =>
      exact ⟨by nlinarith, by nlinarith, .inr ⟨by nlinarith, by nlinarith⟩⟩
    · -- half way, the one of the two that is even is taken
      rcases Nat.mod_two_eq_zero_or_one quotient with even | odd
      · rw [even]
        exact ⟨by nlinarith, by nlinarith, .inl even⟩
      · rw [odd]
        exact ⟨by nlinarith, by nlinarith, .inl (by omega)⟩

theorem near_roundQuotient_div (n : Nat) {d : Nat} (positive : 0 < d) :
    (roundQuotient n d : ℚ) - 1 / 2 ≤ n / d ∧ (n / d : ℚ) ≤ roundQuotient n d + 1 / 2 ∧
      (roundQuotient n d % 2 = 0 ∨
        (roundQuotient n d : ℚ) - 1 / 2 < n / d ∧ (n / d : ℚ) < roundQuotient n d + 1 / 2) := by
  have denominator : (0 : ℚ) < d := Nat.cast_pos.mpr positive
  rw [le_div_iff₀ denominator, div_le_iff₀ denominator, lt_div_iff₀ denominator,
    div_lt_iff₀ denominator]
  obtain ⟨low, high, inside⟩ := near_roundQuotient (n := n) positive
  have low : (2 * roundQuotient n d * d : ℚ) ≤ 2 * n + d := by exact_mod_cast low
  have high : (2 * n : ℚ) ≤ (2 * roundQuotient n d + 1) * d := by exact_mod_cast high
  refine ⟨by linarith, by linarith, inside.imp_right fun strict => ?_⟩
  have below : (2 * roundQuotient n d * d : ℚ) < 2 * n + d := by exact_mod_cast strict.1
  have above : (2 * n : ℚ) < (2 * roundQuotient n d + 1) * d := by exact_mod_cast strict.2
  exact ⟨by linarith, by linarith⟩

/-! ## The interval around a number -/

/-- The least number that may round to a binary number. -/
def Binary.lowerBound (format : Format) (x : Binary) : ℚ :=
  x.lowerEnd format * 2 ^ (x.exponent - 2)

/-- The greatest number that may round to a binary number. -/
def Binary.upperBound (x : Binary) : ℚ := x.upperEnd * 2 ^ (x.exponent - 2)

/-- A rational number is nearest to the binary number, or half way and the mantissa is even. -/
def Binary.Covers (format : Format) (x : Binary) (v : ℚ) : Prop :=
  if x.mantissa % 2 = 0 then x.lowerBound format ≤ v ∧ v ≤ x.upperBound
  else x.lowerBound format < v ∧ v < x.upperBound

theorem Binary.Covers.bounds {format : Format} {x : Binary} {v : ℚ} (h : x.Covers format v) :
    x.lowerBound format ≤ v ∧ v ≤ x.upperBound := by
  unfold Binary.Covers at h
  split at h
  · exact h
  · exact ⟨h.1.le, h.2.le⟩

/-- In units of the last place, the interval reaches half a unit up. -/
theorem Binary.upperBound_eq (x : Binary) :
    x.upperBound = (x.mantissa + 1 / 2) * 2 ^ x.exponent := by
  rw [Binary.upperBound, Binary.upperEnd, Binary.center, zpow_sub₀ (by norm_num)]
  push_cast
  ring

/-- And half a unit down, or a quarter at a power of two. -/
theorem Binary.lowerBound_eq {format : Format} {x : Binary} (positive : 0 < x.mantissa) :
    x.lowerBound format =
      (x.mantissa - (if x.mantissa = twoTo (format.precision - 1) ∧
        format.minExponent < x.exponent then 1 / 4 else 1 / 2)) * 2 ^ x.exponent := by
  have four : (2 : ℚ) ^ (x.exponent - 2) = 2 ^ x.exponent / 4 := by
    rw [zpow_sub₀ (by norm_num)]
    norm_num
  rw [Binary.lowerBound, Binary.lowerEnd, Binary.center, four]
  split
  · rw [Nat.cast_sub (by omega)]
    push_cast
    ring
  · rw [Nat.cast_sub (by omega)]
    push_cast
    ring

/-- In units of the last place, a number that is covered lies within half a unit. -/
theorem Binary.Covers.near {format : Format} {x : Binary} {v : ℚ} (positive : 0 < x.mantissa)
    (h : x.Covers format v) :
    (x.mantissa : ℚ) - 1 / 2 ≤ v / 2 ^ x.exponent ∧ v / 2 ^ x.exponent ≤ x.mantissa + 1 / 2 ∧
      (x.mantissa % 2 = 0 ∨
        (x.mantissa : ℚ) - 1 / 2 < v / 2 ^ x.exponent ∧
          v / 2 ^ x.exponent < x.mantissa + 1 / 2) := by
  have unit : (0 : ℚ) < 2 ^ x.exponent := by positivity
  have half_below : ((x.mantissa : ℚ) - 1 / 2) * 2 ^ x.exponent ≤ x.lowerBound format := by
    rw [Binary.lowerBound_eq positive]
    refine mul_le_mul_of_nonneg_right ?_ unit.le
    split <;> linarith
  rw [le_div_iff₀ unit, lt_div_iff₀ unit, div_le_iff₀ unit, div_lt_iff₀ unit,
    ← Binary.upperBound_eq]
  obtain ⟨low, high⟩ := h.bounds
  refine ⟨half_below.trans low, high, ?_⟩
  unfold Binary.Covers at h
  split at h
  · next even => exact .inl even
  · exact .inr ⟨half_below.trans_lt h.1, h.2⟩

/-- A number within half a unit is covered, or within a quarter of a unit at a power of two. -/
theorem Binary.covers_of_near {format : Format} {x : Binary} {v : ℚ} (positive : 0 < x.mantissa)
    (low : (x.mantissa : ℚ) - 1 / 2 ≤ v / 2 ^ x.exponent)
    (high : v / 2 ^ x.exponent ≤ x.mantissa + 1 / 2)
    (inside : x.mantissa % 2 = 0 ∨
      (x.mantissa : ℚ) - 1 / 2 < v / 2 ^ x.exponent ∧ v / 2 ^ x.exponent < x.mantissa + 1 / 2)
    (power : x.mantissa = twoTo (format.precision - 1) → format.minExponent < x.exponent →
      x.mantissa % 2 = 0 ∧ (x.mantissa : ℚ) - 1 / 4 ≤ v / 2 ^ x.exponent) : x.Covers format v := by
  have unit : (0 : ℚ) < 2 ^ x.exponent := by positivity
  unfold Binary.Covers
  rw [Binary.lowerBound_eq positive, Binary.upperBound_eq, ← le_div_iff₀ unit, ← div_le_iff₀ unit,
    ← lt_div_iff₀ unit, ← div_lt_iff₀ unit]
  split
  · refine ⟨?_, high⟩
    split
    · next at_power => exact (power at_power.1 at_power.2).2
    · exact low
  · next odd =>
    have strict := inside.resolve_left odd
    refine ⟨?_, strict.2⟩
    split
    · next at_power => exact absurd (power at_power.1 at_power.2).1 odd
    · exact strict.1

/-- A covered number that is below the first bit of the last place is just below a power of two. -/
theorem Binary.Covers.below_power {format : Format} {x : Binary} {v : ℚ}
    (wide : 0 < format.precision) (normal : x.IsNormal format)
    (not_least : x.exponent ≠ format.minExponent)
    (below : v < twoTo (format.precision - 1) * 2 ^ x.exponent) (h : x.Covers format v) :
    x.mantissa = twoTo (format.precision - 1) ∧
      (twoTo format.precision : ℚ) - 1 / 2 ≤ v / 2 ^ (x.exponent - 1) ∧
        v / 2 ^ (x.exponent - 1) < twoTo format.precision := by
  have leading : twoTo (format.precision - 1) ≤ x.mantissa := normal.leading.resolve_right not_least
  have positive : 0 < x.mantissa := Nat.lt_of_lt_of_le (twoTo_pos _) leading
  have unit : (0 : ℚ) < 2 ^ (x.exponent - 1) := by positivity
  have double : (2 : ℚ) ^ x.exponent = 2 * 2 ^ (x.exponent - 1) := by
    rw [← zpow_one_add₀ (by norm_num), add_sub_cancel]
  have next := cast_twoTo_eq_double wide
  have low := h.bounds.1
  rw [Binary.lowerBound_eq positive, double] at low
  rw [double] at below
  by_cases power : x.mantissa = twoTo (format.precision - 1)
  · have above : format.minExponent < x.exponent := by
      have := normal.exponent_ge
      omega
    rw [if_pos ⟨power, above⟩, power] at low
    refine ⟨power, ?_, ?_⟩
    · rw [le_div_iff₀ unit, next]
      linarith
    · rw [div_lt_iff₀ unit, next]
      linarith
  · -- the next number down would be nearer
    have next_le : ((twoTo (format.precision - 1) + 1 : Nat) : ℚ) ≤ x.mantissa :=
      Nat.cast_le.mpr (Nat.lt_of_le_of_ne leading (Ne.symm power))
    rw [if_neg fun both => power both.1] at low
    push_cast at next_le
    nlinarith

namespace Format

variable {format : Format} {x : Binary} {y : Decimal}

/-- What a decimal number is rounded to, once its last place is known. -/
theorem round_of_lastPlace (nonzero : y.coefficient ≠ 0) {q : Int}
    (place : format.lastPlace y.numerator y.denominator = q) {r : Nat}
    (rounded : roundQuotient (scaleNumerator y.numerator q) (scaleDenominator y.denominator q) = r)
    {mantissa : Nat} {exponent : Int} (carried : format.carry r q = (mantissa, exponent))
    (small : exponent ≤ format.maxExponent) :
    format.round y = some ⟨y.negative, mantissa, exponent⟩ := by
  have carried_eq : format.carried y = (mantissa, exponent) := by
    unfold Format.carried
    dsimp only
    rw [place, rounded, carried]
  rw [round_of_ne_zero nonzero, carried_eq]
  exact if_neg (Int.not_lt.mpr small)

/-- Zero is far from every other number. -/
theorem coefficient_ne_zero_of_covers (positive : 0 < x.mantissa)
    (covers : x.Covers format y.magnitude) : y.coefficient ≠ 0 := by
  intro zero
  have low := (covers.near positive).1
  have some_mantissa : (1 : ℚ) ≤ x.mantissa := Nat.one_le_cast.mpr positive
  rw [Decimal.magnitude, zero, Nat.cast_zero, zero_mul, zero_div] at low
  linarith

/-- Where the binary number has its last place, the numbers around it have their first bit set, or
there is no lower place: there they are rounded to its mantissa. -/
theorem round_of_covers_at (wide : 0 < format.precision) (normal : x.IsNormal format)
    (positive : 0 < x.mantissa) (covers : x.Covers format y.magnitude)
    (bit : x.exponent = format.minExponent ∨
      ¬ ScaledBelow (twoTo (format.precision - 1)) y.numerator y.denominator x.exponent) :
    format.round y = some ⟨y.negative, x.mantissa, x.exponent⟩ := by
  have unit : (0 : ℚ) < 2 ^ x.exponent := by positivity
  have denominator := denominator_pos y
  have nonzero := coefficient_ne_zero_of_covers positive covers
  have numerator : y.numerator ≠ 0 := Nat.mul_ne_zero nonzero (Nat.ne_of_gt (tenTo_pos _))
  obtain ⟨low, high, inside⟩ := covers.near positive
  have room : ScaledBelow (twoTo format.precision) y.numerator y.denominator x.exponent := by
    have below : ((x.mantissa + 1 : Nat) : ℚ) ≤ twoTo format.precision :=
      Nat.cast_le.mpr normal.mantissa_lt
    rw [Nat.cast_add, Nat.cast_one] at below
    rw [scaledBelow_iff denominator, ← Decimal.magnitude_eq, ← div_lt_iff₀ unit]
    linarith
  have place := lastPlace_eq wide numerator denominator normal.exponent_ge room bit
  have rounded : roundQuotient (scaleNumerator y.numerator x.exponent)
      (scaleDenominator y.denominator x.exponent) = x.mantissa := by
    refine roundQuotient_eq_of_near (scaleDenominator_pos denominator _) ?_ ?_ ?_
    all_goals rwa [scaled_eq, ← Decimal.magnitude_eq]
  have carried : format.carry x.mantissa x.exponent = (x.mantissa, x.exponent) :=
    if_neg (Nat.ne_of_lt normal.mantissa_lt)
  exact round_of_lastPlace nonzero place rounded carried normal.exponent_le

/-- Below a power of two the last place is one lower: there the numbers around it are rounded up to
a mantissa that is one bit too long, and carried. -/
theorem round_of_covers_below (wide : 2 ≤ format.precision) (normal : x.IsNormal format)
    (positive : 0 < x.mantissa) (covers : x.Covers format y.magnitude)
    (not_least : x.exponent ≠ format.minExponent)
    (no_bit : ScaledBelow (twoTo (format.precision - 1)) y.numerator y.denominator x.exponent) :
    format.round y = some ⟨y.negative, x.mantissa, x.exponent⟩ := by
  have unit : (0 : ℚ) < 2 ^ (x.exponent - 1) := by positivity
  have denominator := denominator_pos y
  have nonzero := coefficient_ne_zero_of_covers positive covers
  have numerator : y.numerator ≠ 0 := Nat.mul_ne_zero nonzero (Nat.ne_of_gt (tenTo_pos _))
  have below : y.magnitude < twoTo (format.precision - 1) * 2 ^ x.exponent := by
    rw [Decimal.magnitude_eq]
    exact (scaledBelow_iff denominator _).mp no_bit
  obtain ⟨power, low, high⟩ := covers.below_power (by omega) normal not_least below
  have least := normal.exponent_ge
  have place : format.lastPlace y.numerator y.denominator = x.exponent - 1 := by
    refine lastPlace_eq (by omega) numerator denominator (by omega) ?_ (.inr ?_)
    · rw [scaledBelow_iff denominator, ← Decimal.magnitude_eq, ← div_lt_iff₀ unit]
      exact high
    · rw [scaledBelow_iff denominator, ← Decimal.magnitude_eq, ← div_lt_iff₀ unit]
      have one_le : (1 : ℚ) ≤ twoTo (format.precision - 1) := Nat.one_le_cast.mpr (twoTo_pos _)
      have double := cast_twoTo_eq_double (show 0 < format.precision by omega)
      linarith
  have rounded : roundQuotient (scaleNumerator y.numerator (x.exponent - 1))
      (scaleDenominator y.denominator (x.exponent - 1)) = twoTo format.precision := by
    refine roundQuotient_eq_of_near (scaleDenominator_pos denominator _) ?_ ?_ (.inl ?_)
    · rwa [scaled_eq, ← Decimal.magnitude_eq]
    · rw [scaled_eq, ← Decimal.magnitude_eq]
      linarith
    · exact twoTo_even (by omega)
  have carried : format.carry (twoTo format.precision) (x.exponent - 1) =
      (x.mantissa, x.exponent) := by
    rw [Format.carry, if_pos rfl, ← power, Int.sub_add_cancel]
  exact round_of_lastPlace nonzero place rounded carried normal.exponent_le

/-- **Every decimal number in the interval around a binary number rounds to it.** -/
theorem round_of_covers (wide : 2 ≤ format.precision) (normal : x.IsNormal format)
    (positive : 0 < x.mantissa) (covers : x.Covers format y.magnitude) :
    format.round y = some ⟨y.negative, x.mantissa, x.exponent⟩ := by
  by_cases bit : x.exponent = format.minExponent ∨
      ¬ ScaledBelow (twoTo (format.precision - 1)) y.numerator y.denominator x.exponent
  · exact round_of_covers_at (by omega) normal positive covers bit
  · rw [not_or, not_not] at bit
    exact round_of_covers_below wide normal positive covers bit.1 bit.2

/-- In units of its last place, a number is rounded to an integer: it has room there, its first bit
is set unless the place is the least, and the integer is the nearest one, or the even one of two. -/
structure RoundsAt (format : Format) (v : ℚ) (q : Int) (r : Nat) : Prop where
  least : format.minExponent ≤ q
  room : v / 2 ^ q < twoTo format.precision
  leading : q = format.minExponent ∨ (twoTo (format.precision - 1) : ℚ) ≤ v / 2 ^ q
  low : (r : ℚ) - 1 / 2 ≤ v / 2 ^ q
  high : v / 2 ^ q ≤ r + 1 / 2
  inside : r % 2 = 0 ∨ (r : ℚ) - 1 / 2 < v / 2 ^ q ∧ v / 2 ^ q < r + 1 / 2

/-- **How a decimal number other than zero is rounded**: in units of its last place, and carried. -/
theorem exists_roundsAt (wide : 0 < format.precision) (nonzero : y.coefficient ≠ 0) :
    ∃ q r, format.RoundsAt y.magnitude q r ∧ format.carried y = format.carry r q := by
  have denominator := denominator_pos y
  have numerator : y.numerator ≠ 0 := Nat.mul_ne_zero nonzero (Nat.ne_of_gt (tenTo_pos _))
  have room := format.scaledBelow_lastPlace y.numerator (Nat.ne_of_gt denominator)
  have leading := lastPlace_leading wide numerator denominator
  have unit : (0 : ℚ) < 2 ^ format.lastPlace y.numerator y.denominator := by positivity
  rw [scaledBelow_iff denominator, ← Decimal.magnitude_eq, ← div_lt_iff₀ unit] at room leading
  rw [not_lt] at leading
  refine ⟨_, _, ?_, rfl⟩
  have near := near_roundQuotient_div
    (scaleNumerator y.numerator (format.lastPlace y.numerator y.denominator))
    (scaleDenominator_pos denominator (format.lastPlace y.numerator y.denominator))
  rw [scaled_eq, ← Decimal.magnitude_eq] at near
  exact ⟨format.minExponent_le_lastPlace _ _, room, leading, near.1, near.2.1, near.2.2⟩

/-- What is rounded in units of the last place, and perhaps carried, is nearest to what comes of
it. -/
theorem RoundsAt.covers (wide : 2 ≤ format.precision) {v : ℚ} {q : Int} {r : Nat}
    (h : format.RoundsAt v q r) (carried : format.carry r q = (x.mantissa, x.exponent))
    (positive : 0 < x.mantissa) : x.Covers format v := by
  have even : twoTo (format.precision - 1) % 2 = 0 := twoTo_even (by omega)
  rw [Format.carry] at carried
  split at carried
  · next full =>
    obtain ⟨mantissa_eq, exponent_eq⟩ := Prod.mk.inj carried
    -- at a power of two, half a unit of the old place is a quarter of the new one
    have half : v / 2 ^ x.exponent = v / 2 ^ q / 2 := by
      rw [← exponent_eq, zpow_add_one₀ (by norm_num), div_div]
    have double := cast_twoTo_eq_double (show 0 < format.precision by omega)
    have low := h.low
    have room := h.room
    rw [full, double, mantissa_eq] at low
    rw [double, mantissa_eq] at room
    rw [mantissa_eq] at even
    refine Binary.covers_of_near positive ?_ ?_ (.inl even) fun _ _ => ⟨even, ?_⟩
    all_goals
      rw [half]
      linarith
  · obtain ⟨rfl, rfl⟩ := Prod.mk.inj carried
    refine Binary.covers_of_near positive h.low h.high h.inside fun power above => ?_
    have bit := h.leading.resolve_left (by omega)
    rw [← power] at bit even
    exact ⟨even, by linarith⟩

/-- **Only the decimal numbers in the interval around a binary number round to it.** -/
theorem covers_of_round (wide : 2 ≤ format.precision) (positive : 0 < x.mantissa)
    (h : format.round y = some x) : x.Covers format y.magnitude := by
  have nonzero : y.coefficient ≠ 0 := by
    intro zero
    rw [round, if_pos zero] at h
    obtain rfl := Option.some.inj h
    exact Nat.lt_irrefl 0 positive
  obtain ⟨-, rfl⟩ := round_eq_some nonzero h
  obtain ⟨q, r, rounds, carried⟩ := exists_roundsAt (show 0 < format.precision by omega) nonzero
  exact rounds.covers wide carried.symm positive

/-- A number keeps its sign when it is rounded. -/
theorem round_negative (h : format.round y = some x) : x.negative = y.negative := by
  unfold Format.round at h
  split at h
  · cases h
    rfl
  · dsimp only at h
    split at h
    · cases h
    · cases h
      rfl

/-- **The decimal numbers that round to a binary number** are those in the interval around it. -/
theorem round_eq_some_iff (wide : 2 ≤ format.precision) (normal : x.IsNormal format)
    (positive : 0 < x.mantissa) :
    format.round y = some x ↔ y.negative = x.negative ∧ x.Covers format y.magnitude := by
  constructor
  · intro rounds
    exact ⟨(round_negative rounds).symm, covers_of_round wide positive rounds⟩
  · intro h
    obtain ⟨sign, covers⟩ := h
    rw [round_of_covers wide normal positive covers, sign]

/-! ## Rounded numbers are normal -/

theorem le_roundQuotient {n d bound : Nat} (positive : 0 < d) (h : bound * d ≤ n) :
    bound ≤ roundQuotient n d := by
  have quotient_ge : bound ≤ n / d := (Nat.le_div_iff_mul_le positive).mpr h
  unfold roundQuotient
  dsimp only
  split
  · exact quotient_ge
  · split <;> omega

/-- **A rounded number is normal.** -/
theorem round_isNormal (wide : 0 < format.precision)
    (exponents : format.minExponent ≤ format.maxExponent) (h : format.round y = some x) :
    x.IsNormal format := by
  refine ⟨round_isOf wide exponents h, ?_⟩
  have denominator := denominator_pos y
  by_cases zero : y.coefficient = 0
  · rw [round, if_pos zero] at h
    obtain rfl := Option.some.inj h
    exact .inr rfl
  · obtain ⟨-, rfl⟩ := round_eq_some zero h
    have numerator : y.numerator ≠ 0 := Nat.mul_ne_zero zero (Nat.ne_of_gt (tenTo_pos _))
    unfold Format.carried
    dsimp only
    rw [Format.carry]
    split
    · exact .inl (Nat.le_refl _)
    · rcases lastPlace_leading wide numerator denominator with least | bit
      · exact .inr least
      · exact .inl (le_roundQuotient (scaleDenominator_pos denominator _) (Nat.not_lt.mp bit))

end Format

end Intake.Numeral
