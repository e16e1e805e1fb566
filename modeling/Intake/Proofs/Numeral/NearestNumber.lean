import Intake.Proofs.Numeral.Finite

/-!
# The nearest number of a format

Rounding takes a decimal number to the number of the format that is nearest to it, and of two that
are equally near to the one whose mantissa is even (`Format.round_isNearest`). There is only one
such number of a sign (`Binary.IsNearest.unique`).

Between a number of the format and its neighbours there is nothing, so half of the way to them is
where the numbers around it end (`Binary.IsNormal.above`, `Binary.IsNormal.below`).
-/

namespace Intake.Numeral

/-! ## Rational numbers -/

/-- The rational number of a sign and a magnitude. -/
def signed (negative : Bool) (magnitude : ℚ) : ℚ := if negative then -magnitude else magnitude

/-- The rational number that a decimal number is. -/
def Decimal.rational (x : Decimal) : ℚ := signed x.negative x.magnitude

/-- The rational number that a binary number is. -/
def Binary.rational (x : Binary) : ℚ := signed x.negative x.magnitude

theorem abs_signed (negative : Bool) {magnitude : ℚ} (positive : 0 ≤ magnitude) :
    |signed negative magnitude| = magnitude := by
  cases negative
  · exact abs_of_nonneg positive
  · exact (abs_neg _).trans (abs_of_nonneg positive)

/-- Two numbers of one sign are as far apart as their magnitudes. -/
theorem abs_signed_sub (negative : Bool) (a b : ℚ) :
    |signed negative a - signed negative b| = |a - b| := by
  cases negative
  · rfl
  · rw [← abs_neg (a - b), neg_sub]
    exact congrArg abs (neg_sub_neg a b)

/-- A number of the other sign is as far away as the sum of the magnitudes. -/
theorem abs_signed_sub_of_ne {negative negative' : Bool} (other : negative' ≠ negative) {a b : ℚ}
    (a_nonneg : 0 ≤ a) (b_nonneg : 0 ≤ b) :
    |signed negative' a - signed negative b| = a + b := by
  rw [← abs_of_nonneg (add_nonneg a_nonneg b_nonneg)]
  cases negative <;> cases negative'
  case false.false | true.true => exact absurd rfl other
  case false.true =>
    rw [← abs_neg]
    exact congrArg abs (by simp only [signed, if_true, Bool.false_eq_true, if_false]; ring)
  case true.false =>
    exact congrArg abs (by simp only [signed, if_true, Bool.false_eq_true, if_false]; ring)

theorem Decimal.magnitude_nonneg (x : Decimal) : 0 ≤ x.magnitude := by
  unfold Decimal.magnitude
  positivity

theorem Binary.magnitude_nonneg (x : Binary) : 0 ≤ x.magnitude := by
  unfold Binary.magnitude
  positivity

/-- **The number of the format that is nearest to a rational number**; of two that are equally near,
the one whose mantissa is even. -/
structure Binary.IsNearest (format : Format) (x : Binary) (v : ℚ) : Prop where
  normal : x.IsNormal format
  nearest : ∀ y : Binary, y.IsOf format → |x.rational - v| ≤ |y.rational - v|
  even : ∀ y : Binary, y.IsOf format → y.rational ≠ x.rational →
    |x.rational - v| = |y.rational - v| → x.mantissa % 2 = 0

/-! ## Neighbours -/

namespace Binary

variable {format : Format} {x z : Binary}

/-- In units of a lower place, a number is a whole number of units of the higher one. -/
theorem exists_magnitude_eq_mul {q : Int} (place : q ≤ z.exponent) :
    ∃ k : Nat, z.magnitude = k * 2 ^ q := by
  refine ⟨z.mantissa * 2 ^ (z.exponent - q).toNat, ?_⟩
  have exponents : z.exponent = ((z.exponent - q).toNat : Int) + q := by omega
  rw [Binary.magnitude]
  conv_lhs => rw [exponents, zpow_add₀ (by norm_num), zpow_natCast]
  push_cast
  ring

/-- A number with a lower last place stays below the first bit of the higher one, by a unit of the
place next to it. -/
theorem IsOf.magnitude_le_of_lt (wide : 0 < format.precision) (member : z.IsOf format) {q : Int}
    (lower : z.exponent < q) :
    z.magnitude ≤ (twoTo (format.precision - 1) - 1 / 2) * 2 ^ q := by
  have double := cast_twoTo_eq_double wide
  have some_bits : (1 : ℚ) ≤ twoTo (format.precision - 1) := Nat.one_le_cast.mpr (twoTo_pos _)
  have short : ((z.mantissa + 1 : Nat) : ℚ) ≤ twoTo format.precision :=
    Nat.cast_le.mpr member.mantissa_lt
  push_cast at short
  have place : (2 : ℚ) ^ z.exponent ≤ 2 ^ q / 2 := by
    rw [le_div_iff₀ (by norm_num), ← zpow_add_one₀ (by norm_num)]
    exact zpow_le_zpow_right₀ (by norm_num) (by omega)
  calc z.magnitude ≤ (2 * twoTo (format.precision - 1) - 1) * (2 ^ q / 2) :=
        mul_le_mul (by linarith) place (by positivity) (by linarith)
    _ = (twoTo (format.precision - 1) - 1 / 2) * 2 ^ q := by ring

/-- Above the least place, the first bit is set. -/
theorem IsNormal.leading_of_lt (normal : x.IsNormal format) (above : format.minExponent < x.exponent) :
    (twoTo (format.precision - 1) : ℚ) ≤ x.mantissa :=
  Nat.cast_le.mpr (normal.leading.resolve_right (by omega))

/-- A number with a lower last place is less. -/
theorem IsNormal.magnitude_lt_of_lt (wide : 0 < format.precision) (normal : x.IsNormal format)
    (member : z.IsOf format) (lower : z.exponent < x.exponent) : z.magnitude < x.magnitude := by
  have unit : (0 : ℚ) < 2 ^ x.exponent := by positivity
  have least := member.exponent_ge
  have bit := normal.leading_of_lt (by omega)
  calc z.magnitude ≤ (twoTo (format.precision - 1) - 1 / 2) * 2 ^ x.exponent :=
        member.magnitude_le_of_lt wide lower
    _ < x.mantissa * 2 ^ x.exponent := mul_lt_mul_of_pos_right (by linarith) unit

/-- **The next number up** is a unit of the last place away. -/
theorem IsNormal.next_le (wide : 0 < format.precision) (normal : x.IsNormal format)
    (member : z.IsOf format) (more : x.magnitude < z.magnitude) :
    (x.mantissa + 1) * 2 ^ x.exponent ≤ z.magnitude := by
  have unit : (0 : ℚ) < 2 ^ x.exponent := by positivity
  have place : x.exponent ≤ z.exponent := by
    by_contra lower
    have less := normal.magnitude_lt_of_lt wide member (by omega)
    linarith
  obtain ⟨k, k_eq⟩ := exists_magnitude_eq_mul place
  rw [Binary.magnitude, k_eq, mul_lt_mul_iff_left₀ unit, Nat.cast_lt] at more
  rw [k_eq]
  exact mul_le_mul_of_nonneg_right (by exact_mod_cast more) unit.le

/-- **The next number down** is a unit of the last place away, or half of one at a power of two. -/
theorem IsNormal.le_previous (wide : 0 < format.precision) (normal : x.IsNormal format)
    (member : z.IsOf format) (less : z.magnitude < x.magnitude) :
    z.magnitude ≤ (x.mantissa - (if x.mantissa = twoTo (format.precision - 1) ∧
      format.minExponent < x.exponent then 1 / 2 else 1)) * 2 ^ x.exponent := by
  have unit : (0 : ℚ) < 2 ^ x.exponent := by positivity
  rcases lt_or_ge z.exponent x.exponent with lower | place
  · have least := member.exponent_ge
    have finer := member.magnitude_le_of_lt wide lower
    refine finer.trans (mul_le_mul_of_nonneg_right ?_ unit.le)
    split
    · next power => rw [power.1]
    · next no_power =>
      have bit := normal.leading_of_lt (by omega)
      have apart : twoTo (format.precision - 1) ≠ x.mantissa := fun same =>
        no_power ⟨same.symm, by omega⟩
      have next : ((twoTo (format.precision - 1) + 1 : Nat) : ℚ) ≤ x.mantissa :=
        Nat.cast_le.mpr (Nat.lt_of_le_of_ne (Nat.cast_le.mp bit) apart)
      push_cast at next
      linarith
  · obtain ⟨k, k_eq⟩ := exists_magnitude_eq_mul place
    have x_eq : x.magnitude = x.mantissa * 2 ^ x.exponent := rfl
    rw [k_eq, x_eq, mul_lt_mul_iff_left₀ unit, Nat.cast_lt] at less
    have next : ((k + 1 : Nat) : ℚ) ≤ x.mantissa := Nat.cast_le.mpr less
    push_cast at next
    rw [k_eq]
    refine mul_le_mul_of_nonneg_right ?_ unit.le
    split <;> linarith

/-- The interval around a number ends half way to the numbers above it, or before. -/
theorem IsNormal.above (wide : 0 < format.precision) (normal : x.IsNormal format)
    (member : z.IsOf format) (more : x.magnitude < z.magnitude) :
    2 * x.upperBound ≤ x.magnitude + z.magnitude := by
  have next := normal.next_le wide member more
  rw [Binary.upperBound_eq, Binary.magnitude]
  linarith

/-- The interval around a number begins half way from the numbers below it, or after. -/
theorem IsNormal.below (wide : 0 < format.precision) (normal : x.IsNormal format)
    (member : z.IsOf format) (less : z.magnitude < x.magnitude) :
    x.magnitude + z.magnitude ≤ 2 * x.lowerBound format := by
  have previous := normal.le_previous wide member less
  have positive : 0 < x.mantissa := by
    refine Nat.pos_of_ne_zero fun zero => ?_
    have none_below := z.magnitude_nonneg
    have x_zero : x.magnitude = 0 := by rw [Binary.magnitude, zero, Nat.cast_zero, zero_mul]
    linarith
  have x_eq : x.magnitude = x.mantissa * 2 ^ x.exponent := rfl
  rw [Binary.lowerBound_eq positive]
  by_cases power : x.mantissa = twoTo (format.precision - 1) ∧ format.minExponent < x.exponent
  · rw [if_pos power] at previous ⊢
    linarith
  · rw [if_neg power] at previous ⊢
    linarith

/-! ## The nearest number -/

/-- **The numbers around a number are nearest to it** among the magnitudes of a format, and half way
to another only if its mantissa is even. -/
theorem Covers.distance_le (wide : 0 < format.precision) (normal : x.IsNormal format) {v : ℚ}
    (covers : x.Covers format v) (member : z.IsOf format) :
    |x.magnitude - v| ≤ |z.magnitude - v| ∧
      (z.magnitude ≠ x.magnitude → |x.magnitude - v| = |z.magnitude - v| →
        x.mantissa % 2 = 0) := by
  obtain ⟨low, high⟩ := covers.bounds
  have odd_inside (odd : ¬ x.mantissa % 2 = 0) : x.lowerBound format < v ∧ v < x.upperBound := by
    rwa [Binary.Covers, if_neg odd] at covers
  rcases lt_trichotomy z.magnitude x.magnitude with less | same | more
  · have half := normal.below wide member less
    rw [abs_sub_comm z.magnitude, abs_of_pos (show 0 < v - z.magnitude by linarith)]
    refine ⟨abs_le.mpr ⟨by linarith, by linarith⟩, fun _ tie => ?_⟩
    by_contra odd
    have inside := odd_inside odd
    rcases abs_cases (x.magnitude - v) with ⟨eq, -⟩ | ⟨eq, -⟩ <;> linarith
  · rw [same]
    exact ⟨le_rfl, fun other => absurd rfl other⟩
  · have half := normal.above wide member more
    rw [abs_of_pos (show 0 < z.magnitude - v by linarith)]
    refine ⟨abs_le.mpr ⟨by linarith, by linarith⟩, fun _ tie => ?_⟩
    by_contra odd
    have inside := odd_inside odd
    rcases abs_cases (x.magnitude - v) with ⟨eq, -⟩ | ⟨eq, -⟩ <;> linarith

/-- A number is nearest to the numbers around it, with its sign. -/
theorem Covers.isNearest (wide : 0 < format.precision) (normal : x.IsNormal format) {v : ℚ}
    (covers : x.Covers format v) : x.IsNearest format (signed x.negative v) := by
  have v_nonneg : 0 ≤ v := by
    have low := covers.bounds.1
    unfold Binary.lowerBound at low
    exact le_trans (by positivity) low
  -- on the other side of zero nothing is nearer than zero
  have zero_member : Binary.IsOf format ⟨x.negative, 0, format.minExponent⟩ :=
    ⟨twoTo_pos _, le_rfl, normal.exponent_ge.trans normal.exponent_le⟩
  have zero_magnitude : Binary.magnitude ⟨x.negative, 0, format.minExponent⟩ = 0 := by
    rw [Binary.magnitude, Nat.cast_zero, zero_mul]
  obtain ⟨zero_le, zero_even⟩ := covers.distance_le wide normal zero_member
  rw [zero_magnitude, zero_sub, abs_neg, abs_of_nonneg v_nonneg] at zero_le zero_even
  refine ⟨normal, fun y member => ?_, fun y member other tie => ?_⟩
  · rw [Binary.rational, abs_signed_sub]
    by_cases sign : y.negative = x.negative
    · rw [Binary.rational, sign, abs_signed_sub]
      exact (covers.distance_le wide normal member).1
    · rw [Binary.rational, abs_signed_sub_of_ne sign y.magnitude_nonneg v_nonneg]
      exact zero_le.trans (le_add_of_nonneg_left y.magnitude_nonneg)
  · rw [Binary.rational, abs_signed_sub] at tie
    by_cases sign : y.negative = x.negative
    · rw [Binary.rational, sign, abs_signed_sub] at tie
      refine (covers.distance_le wide normal member).2 (fun same => other ?_) tie
      rw [Binary.rational, Binary.rational, sign, same]
    · rw [Binary.rational, abs_signed_sub_of_ne sign y.magnitude_nonneg v_nonneg] at tie
      have zero : y.magnitude = 0 := le_antisymm (by linarith) y.magnitude_nonneg
      rw [zero, zero_add] at tie
      refine zero_even (fun same => other ?_) tie
      rw [Binary.rational, Binary.rational, zero, ← same]
      simp [signed]

/-- A magnitude has one normal number of each sign. -/
theorem IsNormal.eq_of_magnitude_eq (wide : 0 < format.precision) (normal : x.IsNormal format)
    (normal' : z.IsNormal format) (sign : x.negative = z.negative)
    (same : x.magnitude = z.magnitude) : x = z := by
  have unit : (0 : ℚ) < 2 ^ x.exponent := by positivity
  have exponents : x.exponent = z.exponent := by
    rcases Int.lt_trichotomy x.exponent z.exponent with lower | equal | higher
    · exact absurd same (normal'.magnitude_lt_of_lt wide normal.toIsOf lower).ne
    · exact equal
    · exact absurd same (normal.magnitude_lt_of_lt wide normal'.toIsOf higher).ne'
  have mantissas : x.mantissa = z.mantissa := by
    rw [Binary.magnitude, Binary.magnitude, ← exponents, mul_left_inj' unit.ne', Nat.cast_inj]
      at same
    exact same
  exact Binary.mk.injEq .. ▸ ⟨sign, mantissas, exponents⟩

/-- After an even mantissa there is room for the next. -/
theorem IsNormal.exists_next (wide : 0 < format.precision) (normal : x.IsNormal format)
    (even : x.mantissa % 2 = 0) :
    ∃ next : Binary, next.IsNormal format ∧ next.negative = x.negative ∧
      next.mantissa = x.mantissa + 1 ∧ next.magnitude = x.magnitude + 2 ^ x.exponent := by
  have room : x.mantissa + 1 < twoTo format.precision := by
    have short := normal.mantissa_lt
    have full_even := twoTo_even (show 1 ≤ format.precision from wide)
    omega
  refine ⟨⟨x.negative, x.mantissa + 1, x.exponent⟩, ?_, rfl, rfl, ?_⟩
  · exact ⟨⟨room, normal.exponent_ge, normal.exponent_le⟩,
      normal.leading.imp_left fun bit => bit.trans (Nat.le_succ _)⟩
  · simp only [Binary.magnitude]
    push_cast
    ring

/-- Two nearest numbers of one sign lie on either side of what they are nearest to, and both
mantissas are even. -/
theorem IsNearest.half_way {v : ℚ} (h : x.IsNearest format (signed x.negative v))
    (h' : z.IsNearest format (signed x.negative v)) (sign : z.negative = x.negative)
    (less : x.magnitude < z.magnitude) :
    2 * v = x.magnitude + z.magnitude ∧ x.mantissa % 2 = 0 ∧ z.mantissa % 2 = 0 := by
  have x_distance : |x.rational - signed x.negative v| = |x.magnitude - v| := abs_signed_sub _ _ _
  have z_distance : |z.rational - signed x.negative v| = |z.magnitude - v| := by
    rw [Binary.rational, sign, abs_signed_sub]
  have tie : |x.rational - signed x.negative v| = |z.rational - signed x.negative v| :=
    le_antisymm (h.nearest z h'.normal.toIsOf) (h'.nearest x h.normal.toIsOf)
  have apart : z.rational ≠ x.rational := by
    intro same
    have magnitudes := congrArg abs same
    rw [Binary.rational, Binary.rational, abs_signed _ z.magnitude_nonneg,
      abs_signed _ x.magnitude_nonneg] at magnitudes
    exact less.ne' magnitudes
  refine ⟨?_, h.even z h'.normal.toIsOf apart tie, h'.even x h.normal.toIsOf apart.symm tie.symm⟩
  rw [x_distance, z_distance] at tie
  rcases abs_eq_abs.mp tie with same | opposite
  · exact absurd same (by linarith)
  · linarith

/-- Of two numbers that are equally near, one would have an odd mantissa. -/
theorem IsNearest.not_magnitude_lt (wide : 0 < format.precision) {v : ℚ}
    (h : x.IsNearest format (signed x.negative v)) (h' : z.IsNearest format (signed x.negative v))
    (sign : z.negative = x.negative) : ¬ x.magnitude < z.magnitude := by
  intro less
  obtain ⟨half, x_even, z_even⟩ := h.half_way h' sign less
  obtain ⟨next, next_normal, next_sign, next_mantissa, next_eq⟩ :=
    h.normal.exists_next wide x_even
  have unit : (0 : ℚ) < 2 ^ x.exponent := by positivity
  have near := h.nearest next next_normal.toIsOf
  rw [Binary.rational, Binary.rational, next_sign, abs_signed_sub, abs_signed_sub, next_eq,
    abs_of_neg (show x.magnitude - v < 0 by linarith)] at near
  -- the next number is no nearer, so it is the other one, and its mantissa is odd
  have same : next.magnitude = z.magnitude := by
    have step := h.normal.next_le wide h'.normal.toIsOf less
    have x_eq : x.magnitude = x.mantissa * 2 ^ x.exponent := rfl
    rw [next_eq]
    rcases le_abs.mp near with beyond | before <;> linarith
  have next_is := next_normal.eq_of_magnitude_eq wide h'.normal (next_sign.trans sign.symm) same
  rw [next_is] at next_mantissa
  omega

/-- **There is one nearest number of each sign.** -/
theorem IsNearest.unique (wide : 0 < format.precision) {v : ℚ} (h : x.IsNearest format v)
    (h' : z.IsNearest format v) (sign : x.negative = z.negative) : x = z := by
  obtain ⟨w, rfl⟩ : ∃ w, v = signed x.negative w :=
    ⟨signed x.negative v, by cases x.negative <;> simp [signed]⟩
  have not_less := h.not_magnitude_lt wide h' sign.symm
  rw [sign] at h h'
  have not_more := h'.not_magnitude_lt wide h sign
  exact h.normal.eq_of_magnitude_eq wide h'.normal sign
    (le_antisymm (not_lt.mp not_more) (not_lt.mp not_less))

end Binary

/-! ## Rounding -/

namespace Format

variable {format : Format} {x : Binary} {y : Decimal}

/-- What is rounded to zero lies around it, too. -/
theorem covers_zero_of_round (wide : 2 ≤ format.precision) (zero : x.mantissa = 0)
    (h : format.round y = some x) : x.Covers format y.magnitude := by
  have lower_eq : x.lowerBound format = 0 := by
    simp [Binary.lowerBound, Binary.lowerEnd, Binary.center, zero]
  rw [Binary.Covers, if_pos (by omega), lower_eq, Binary.upperBound_eq, zero]
  refine ⟨y.magnitude_nonneg, ?_⟩
  by_cases nothing : y.coefficient = 0
  · rw [Decimal.magnitude, nothing, Nat.cast_zero, zero_mul]
    positivity
  · obtain ⟨q, r, rounds, carried⟩ := exists_roundsAt (show 0 < format.precision by omega) nothing
    obtain ⟨-, rfl⟩ := round_eq_some nothing h
    have unit : (0 : ℚ) < 2 ^ q := by positivity
    rw [carried, carry] at zero ⊢
    split at zero
    · exact absurd zero (Nat.ne_of_gt (twoTo_pos _))
    · next not_full =>
      rw [if_neg not_full]
      obtain rfl : r = 0 := zero
      exact (div_le_iff₀ unit).mp rounds.high

theorem covers_of_round_eq_some (wide : 2 ≤ format.precision) (h : format.round y = some x) :
    x.Covers format y.magnitude := by
  rcases Nat.eq_zero_or_pos x.mantissa with zero | positive
  · exact covers_zero_of_round wide zero h
  · exact covers_of_round wide positive h

/-- **Rounding takes a decimal number to the nearest number of the format**, of the same sign. -/
theorem round_isNearest (wide : 2 ≤ format.precision)
    (exponents : format.minExponent ≤ format.maxExponent) (h : format.round y = some x) :
    x.IsNearest format y.rational ∧ x.negative = y.negative := by
  have precise : 0 < format.precision := by omega
  have normal := round_isNormal precise exponents h
  have sign := round_negative h
  rw [Decimal.rational, ← sign]
  exact ⟨(covers_of_round_eq_some wide h).isNearest precise normal, rfl⟩

end Format

end Intake.Numeral
