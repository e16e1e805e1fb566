import Intake.Proofs.Numeral.Plain

/-!
# Which numbers are finite

A decimal number is finite in a format just if it lies below the greatest number of the format and
half a last place (`Format.round_isSome_iff`). A number that is finite in 32 bits and read with 64
stays finite in 32 bits when it is written with its shortest digits (`round_binary32_literal`): only
the number at the limit itself could be written beyond the limit, and it is not.
-/

namespace Intake.Numeral

/-- Where the finite numbers of a format end: half a last place above the greatest. -/
def Format.limit (format : Format) : ℚ := (twoTo format.precision - 1 / 2) * 2 ^ format.maxExponent

namespace Format

variable {format : Format} {y : Decimal}

theorem limit_pos (wide : 0 < format.precision) : 0 < format.limit := by
  have some_bits : (1 : ℚ) ≤ twoTo (format.precision - 1) := Nat.one_le_cast.mpr (twoTo_pos _)
  have double := cast_twoTo_eq_double wide
  exact mul_pos (by linarith) (by positivity)

/-- A number that is carried comes to an exponent of the format just if it lies below the limit. -/
theorem RoundsAt.lt_limit_iff_of_full (wide : 0 < format.precision) {v : ℚ} {q : Int}
    (h : format.RoundsAt v q (twoTo format.precision)) :
    q + 1 ≤ format.maxExponent ↔ v < format.limit := by
  have unit : (0 : ℚ) < 2 ^ q := by positivity
  have top : (0 : ℚ) < 2 ^ format.maxExponent := by positivity
  have some_bits : (1 : ℚ) ≤ twoTo (format.precision - 1) := Nat.one_le_cast.mpr (twoTo_pos _)
  have double := cast_twoTo_eq_double wide
  constructor
  · intro place
    have half : (2 : ℚ) ^ q ≤ 2 ^ format.maxExponent / 2 := by
      rw [le_div_iff₀ (by norm_num), ← zpow_add_one₀ (by norm_num)]
      exact zpow_le_zpow_right₀ (by norm_num) place
    calc v < twoTo format.precision * 2 ^ q := (div_lt_iff₀ unit).mp h.room
      _ ≤ twoTo format.precision * (2 ^ format.maxExponent / 2) :=
        mul_le_mul_of_nonneg_left half (by linarith)
      _ ≤ format.limit := by
        unfold limit
        nlinarith
  · intro less
    by_contra beyond
    have reached : format.limit ≤ v := calc
      format.limit ≤ (twoTo format.precision - 1 / 2) * 2 ^ q := mul_le_mul_of_nonneg_left
        (zpow_le_zpow_right₀ (by norm_num) (by omega)) (by linarith)
      _ ≤ v := (le_div_iff₀ unit).mp h.low
    linarith

/-- A number that is not carried lies half a unit and more below the first that would be: the
greatest mantissa is odd, so a tie with it goes up. -/
theorem RoundsAt.lt_of_not_full (wide : 1 ≤ format.precision) {v : ℚ} {q : Int} {r : Nat}
    (h : format.RoundsAt v q r) (not_full : r ≠ twoTo format.precision) :
    v / 2 ^ q < twoTo format.precision - 1 / 2 := by
  have even : twoTo format.precision % 2 = 0 := twoTo_even wide
  have at_most : r < twoTo format.precision := by
    have close : (r : ℚ) < twoTo format.precision + 1 := by linarith [h.low, h.room]
    have : r < twoTo format.precision + 1 := by exact_mod_cast close
    omega
  rcases h.inside with r_even | strict
  · have close : ((r + 2 : Nat) : ℚ) ≤ twoTo format.precision := Nat.cast_le.mpr (by omega)
    push_cast at close
    linarith [h.high]
  · have close : ((r + 1 : Nat) : ℚ) ≤ twoTo format.precision := Nat.cast_le.mpr at_most
    push_cast at close
    linarith [strict.2]

theorem RoundsAt.lt_limit_iff_of_not_full (wide : 1 ≤ format.precision)
    (exponents : format.minExponent ≤ format.maxExponent) {v : ℚ} {q : Int} {r : Nat}
    (h : format.RoundsAt v q r) (not_full : r ≠ twoTo format.precision) :
    q ≤ format.maxExponent ↔ v < format.limit := by
  have unit : (0 : ℚ) < 2 ^ q := by positivity
  have top : (0 : ℚ) < 2 ^ format.maxExponent := by positivity
  have some_bits : (1 : ℚ) ≤ twoTo (format.precision - 1) := Nat.one_le_cast.mpr (twoTo_pos _)
  have double := cast_twoTo_eq_double wide
  constructor
  · intro place
    calc v < (twoTo format.precision - 1 / 2) * 2 ^ q :=
        (div_lt_iff₀ unit).mp (h.lt_of_not_full wide not_full)
      _ ≤ format.limit := mul_le_mul_of_nonneg_left
        (zpow_le_zpow_right₀ (by norm_num) place) (by linarith)
  · intro less
    by_contra beyond
    have bit := h.leading.resolve_left (by omega)
    have next : (2 : ℚ) ^ format.maxExponent * 2 ≤ 2 ^ q := by
      rw [← zpow_add_one₀ (by norm_num)]
      exact zpow_le_zpow_right₀ (by norm_num) (by omega)
    have reached : format.limit ≤ v := calc
      format.limit ≤ twoTo (format.precision - 1) * (2 ^ format.maxExponent * 2) := by
        unfold limit
        nlinarith
      _ ≤ twoTo (format.precision - 1) * 2 ^ q := mul_le_mul_of_nonneg_left next (by linarith)
      _ ≤ v := (le_div_iff₀ unit).mp bit
    linarith

/-- A number is carried to an exponent of the format just if it lies below the limit. -/
theorem RoundsAt.carry_le_iff (wide : 1 ≤ format.precision)
    (exponents : format.minExponent ≤ format.maxExponent) {v : ℚ} {q : Int} {r : Nat}
    (h : format.RoundsAt v q r) :
    (format.carry r q).2 ≤ format.maxExponent ↔ v < format.limit := by
  rw [Format.carry]
  split
  · next full =>
    subst full
    exact h.lt_limit_iff_of_full wide
  · next not_full => exact h.lt_limit_iff_of_not_full wide exponents not_full

/-- **A decimal number is finite in a format** just if it lies below the limit. -/
theorem round_isSome_iff (wide : 1 ≤ format.precision)
    (exponents : format.minExponent ≤ format.maxExponent) :
    (format.round y).isSome = true ↔ y.magnitude < format.limit := by
  by_cases zero : y.coefficient = 0
  · rw [Format.round, if_pos zero, Decimal.magnitude, zero, Nat.cast_zero, zero_mul]
    exact iff_of_true rfl (limit_pos wide)
  obtain ⟨q, r, rounds, carried⟩ := exists_roundsAt wide zero
  rw [round_of_ne_zero zero, carried, ← rounds.carry_le_iff wide exponents]
  split
  · next beyond => simp [beyond]
  · next within => simpa using within

end Format

/-! ## Numbers of 32 bits among those of 64 -/

/-- The mantissa of 64 bits, with the exponent 75, that the limit of 32 bits has. -/
def limitMantissa : Nat := 9007198986305536

theorem limit_binary32 : binary32.limit = limitMantissa * 2 ^ (75 : Int) := by
  rw [Format.limit, cast_twoTo, limitMantissa]
  norm_num [binary32]

namespace Binary

variable {x : Binary}

/-- The numbers around one of 64 bits lie below the limit of 32 bits if one of them does, unless it
is the limit itself. -/
theorem below_or_at_limit (normal : x.IsNormal binary64) (positive : 0 < x.mantissa) {v : ℚ}
    (covers : x.Covers binary64 v) (below : v < binary32.limit) :
    x.upperBound < binary32.limit ∨ x.mantissa = limitMantissa ∧ x.exponent = 75 := by
  have low : (x.mantissa - 1 / 2 : ℚ) * 2 ^ x.exponent ≤ v := by
    have unit : (0 : ℚ) < 2 ^ x.exponent := by positivity
    exact (le_div_iff₀ unit).mp (covers.near positive).1
  rw [limit_binary32] at below ⊢
  rw [Binary.upperBound_eq]
  rcases Int.lt_trichotomy x.exponent 75 with less | same | more
  · -- with a lower exponent every mantissa stays below
    left
    have short : ((x.mantissa + 1 : Nat) : ℚ) ≤ twoTo 53 := Nat.cast_le.mpr normal.mantissa_lt
    rw [cast_twoTo, Nat.cast_add, Nat.cast_one] at short
    calc (x.mantissa + 1 / 2 : ℚ) * 2 ^ x.exponent
        ≤ 2 ^ 53 * 2 ^ (74 : Int) := mul_le_mul (by linarith)
          (zpow_le_zpow_right₀ (by norm_num) (by omega)) (by positivity) (by positivity)
      _ < limitMantissa * 2 ^ (75 : Int) := by
        rw [limitMantissa]
        norm_num
  · rw [same] at low ⊢
    rcases Nat.lt_trichotomy x.mantissa limitMantissa with less | at_limit | more
    · left
      have next : ((x.mantissa + 1 : Nat) : ℚ) ≤ limitMantissa := Nat.cast_le.mpr less
      push_cast at next
      exact mul_lt_mul_of_pos_right (by linarith) (by positivity)
    · exact .inr ⟨at_limit, rfl⟩
    · have next : ((limitMantissa + 1 : Nat) : ℚ) ≤ x.mantissa := Nat.cast_le.mpr more
      push_cast at next
      have beyond : (limitMantissa : ℚ) * 2 ^ (75 : Int) ≤ (x.mantissa - 1 / 2) * 2 ^ (75 : Int) :=
        mul_le_mul_of_nonneg_right (by linarith) (by positivity)
      linarith
  · -- with a higher one the first bit alone is beyond
    have bit : twoTo 52 ≤ x.mantissa :=
      normal.leading.resolve_right (by simp only [binary64]; omega)
    have long : ((twoTo 52 : Nat) : ℚ) ≤ x.mantissa := Nat.cast_le.mpr bit
    rw [cast_twoTo] at long
    have beyond : (limitMantissa : ℚ) * 2 ^ (75 : Int) ≤ v := calc
      (limitMantissa : ℚ) * 2 ^ (75 : Int) ≤ (2 ^ 52 - 1 / 2) * 2 ^ (76 : Int) := by
        rw [limitMantissa]
        norm_num
      _ ≤ (x.mantissa - 1 / 2) * 2 ^ x.exponent := mul_le_mul (by linarith)
        (zpow_le_zpow_right₀ (by norm_num) (by omega)) (by positivity) (by linarith)
      _ ≤ v := low
    linarith

end Binary

/-- **A number that is finite in 32 bits stays finite** when it is read with 64 bits and written
with its shortest digits. -/
theorem round_binary32_literal {x : Binary} {y : Decimal}
    (narrow : (binary32.round y).isSome = true) (wide : binary64.round y = some x) :
    (binary32.round (x.literal .plain).value).isSome = true := by
  have normal := Format.round_isNormal (by decide) (by decide) wide
  rw [Format.round_isSome_iff (by decide) (by decide)] at narrow
  rcases Nat.eq_zero_or_pos x.mantissa with zero | positive
  · rw [Binary.value_literal_of_zero zero, Format.round, if_pos rfl]
    rfl
  · have covers := Format.covers_of_round (by decide) positive wide
    rcases Binary.below_or_at_limit normal positive covers narrow with
      below | ⟨mantissa_eq, exponent_eq⟩
    · have written := Format.covers_of_round (by decide) positive (Binary.round_literal normal)
      rw [Format.round_isSome_iff (by decide) (by decide)]
      exact lt_of_le_of_lt written.bounds.2 below
    · -- the number at the limit is written below it, which is a computation
      obtain ⟨negative, mantissa, exponent⟩ := x
      obtain rfl : mantissa = limitMantissa := mantissa_eq
      obtain rfl : exponent = 75 := exponent_eq
      cases negative <;> decide +kernel

end Intake.Numeral
