import Intake.Proofs.Numeral.Nearest

/-!
# The shortest digits

The search for the shortest digits of a binary number goes from a grid that is too coarse to finer
ones. On each it looks at the two points on either side of the number: if neither rounds to the
number, no point of the grid does (`Binary.not_covers_of_gridPoint?`). So what it finds rounds to
the number, nothing on a coarser grid does, and on the same grid nothing nearer
(`Binary.shortest_isShortest`). The first grid is too coarse and the last one fine enough, which is
a matter of powers of two and ten (`gridGuess_bounds`).
-/

namespace Intake.Numeral

/-- The magnitude of a binary number. -/
def Binary.magnitude (x : Binary) : ℚ := x.mantissa * 2 ^ x.exponent

/-- The decimal number `j * 10 ^ k` rounds to the binary number; none with fewer digits does, and
none with as many is nearer. -/
structure Binary.IsShortest (format : Format) (x : Binary) (j : Nat) (k : Int) : Prop where
  covers : x.Covers format (j * 10 ^ k)
  coarser : ∀ j' : Nat, ¬ x.Covers format (j' * 10 ^ (k + 1))
  nearest : ∀ j' : Nat, x.Covers format (j' * 10 ^ k) →
    |j * 10 ^ k - x.magnitude| ≤ |j' * 10 ^ k - x.magnitude|

namespace Binary

variable {format : Format} {x : Binary}

/-! ## The interval -/

theorem magnitude_lt_upperBound (x : Binary) : x.magnitude < x.upperBound := by
  have unit : (0 : ℚ) < 2 ^ x.exponent := by positivity
  rw [Binary.upperBound_eq, Binary.magnitude]
  linarith

theorem lowerBound_lt_magnitude (format : Format) (positive : 0 < x.mantissa) :
    x.lowerBound format < x.magnitude := by
  have unit : (0 : ℚ) < 2 ^ x.exponent := by positivity
  rw [Binary.lowerBound_eq positive, Binary.magnitude]
  split <;> linarith

theorem lowerBound_pos (format : Format) (positive : 0 < x.mantissa) :
    0 < x.lowerBound format := by
  have some_mantissa : (1 : ℚ) ≤ x.mantissa := Nat.one_le_cast.mpr positive
  rw [Binary.lowerBound_eq positive]
  refine mul_pos ?_ (by positivity)
  split <;> linarith

/-- What lies between a covered number and the binary number itself is covered. -/
theorem Covers.up {v w : ℚ} (h : x.Covers format v) (le : v ≤ w) (below : w ≤ x.magnitude) :
    x.Covers format w := by
  have high := below.trans_lt x.magnitude_lt_upperBound
  unfold Covers at h ⊢
  split
  · next even =>
    rw [if_pos even] at h
    exact ⟨h.1.trans le, high.le⟩
  · next odd =>
    rw [if_neg odd] at h
    exact ⟨h.1.trans_le le, high⟩

theorem Covers.down (positive : 0 < x.mantissa) {v w : ℚ} (h : x.Covers format v) (le : w ≤ v)
    (above : x.magnitude ≤ w) : x.Covers format w := by
  have low := (lowerBound_lt_magnitude format positive).trans_le above
  unfold Covers at h ⊢
  split
  · next even =>
    rw [if_pos even] at h
    exact ⟨low.le, le.trans h.2⟩
  · next odd =>
    rw [if_neg odd] at h
    exact ⟨low, le.trans_lt h.2⟩

/-! ## Grid points -/

theorem gridDenominator_pos (x : Binary) (k : Int) : 0 < x.gridDenominator k :=
  Nat.mul_pos (twoTo_pos _) (tenTo_pos _)

/-- So many units, in steps of the grid. -/
theorem gridNumerator_div (x : Binary) (k : Int) (units : Nat) :
    (x.gridNumerator k units : ℚ) / x.gridDenominator k =
      units * 2 ^ (x.exponent - 2) / 10 ^ k := by
  have back : 2 - x.exponent = -(x.exponent - 2) := by omega
  rw [Binary.gridNumerator, Binary.gridDenominator, zpow_eq_div (by norm_num) (x.exponent - 2),
    zpow_eq_div (by norm_num) k, back]
  simp only [Nat.cast_mul, cast_twoTo, cast_tenTo]
  field_simp

/-- **A grid point rounds to the number just if it lies in the interval.** -/
theorem roundsFrom_iff {k : Int} {j : Nat} :
    x.roundsFrom format k j = true ↔ x.Covers format (j * 10 ^ k) := by
  have denominator : (0 : ℚ) < x.gridDenominator k := Nat.cast_pos.mpr (x.gridDenominator_pos k)
  have step : (0 : ℚ) < 10 ^ k := by positivity
  have le_point (units : Nat) : x.gridNumerator k units ≤ j * x.gridDenominator k ↔
      units * 2 ^ (x.exponent - 2) ≤ (j * 10 ^ k : ℚ) := by
    rw [← div_le_iff₀ step, ← gridNumerator_div, div_le_iff₀ denominator]
    exact_mod_cast Iff.rfl
  have point_le (units : Nat) : j * x.gridDenominator k ≤ x.gridNumerator k units ↔
      (j * 10 ^ k : ℚ) ≤ units * 2 ^ (x.exponent - 2) := by
    rw [← le_div_iff₀ step, ← gridNumerator_div, le_div_iff₀ denominator]
    exact_mod_cast Iff.rfl
  unfold Binary.roundsFrom Binary.Covers Binary.lowerBound Binary.upperBound
  dsimp only
  split
  · rw [Bool.and_eq_true, decide_eq_true_eq, decide_eq_true_eq, le_point, point_le]
  · rw [Bool.and_eq_true, decide_eq_true_eq, decide_eq_true_eq, ← Nat.not_le, ← Nat.not_le,
      le_point, point_le, not_le, not_le]

/-- The grid point next to the number from below. -/
def gridBelow (x : Binary) (k : Int) : Nat := x.gridNumerator k x.center / x.gridDenominator k

/-- The number itself, in steps of the grid. -/
theorem center_div (x : Binary) (k : Int) :
    x.magnitude / 10 ^ k = (x.gridNumerator k x.center : ℚ) / x.gridDenominator k := by
  rw [gridNumerator_div, Binary.magnitude, Binary.center, zpow_sub₀ (by norm_num)]
  push_cast
  ring

theorem gridBelow_bounds (x : Binary) (k : Int) :
    (x.gridBelow k * 10 ^ k : ℚ) ≤ x.magnitude ∧
      x.magnitude < (x.gridBelow k + 1 : Nat) * 10 ^ k := by
  have positive := x.gridDenominator_pos k
  have denominator : (0 : ℚ) < x.gridDenominator k := Nat.cast_pos.mpr positive
  have step : (0 : ℚ) < 10 ^ k := by positivity
  rw [← le_div_iff₀ step, ← div_lt_iff₀ step, center_div, le_div_iff₀ denominator,
    div_lt_iff₀ denominator]
  constructor
  · exact_mod_cast Nat.div_mul_le_self _ _
  · have next := Nat.lt_div_mul_add (a := x.gridNumerator k x.center) positive
    rw [← Nat.succ_mul] at next
    exact_mod_cast next

/-- How far the number is from the grid point below it, in steps of the grid. -/
theorem distance_below (x : Binary) (k : Int) :
    x.magnitude - x.gridBelow k * 10 ^ k =
      (x.gridNumerator k x.center - x.gridBelow k * x.gridDenominator k : Nat) /
        x.gridDenominator k * 10 ^ k := by
  have denominator : (0 : ℚ) < x.gridDenominator k := Nat.cast_pos.mpr (x.gridDenominator_pos k)
  have step : (0 : ℚ) < 10 ^ k := by positivity
  have below_le : x.gridBelow k * x.gridDenominator k ≤ x.gridNumerator k x.center :=
    Nat.div_mul_le_self _ _
  rw [Nat.cast_sub below_le, sub_div, ← center_div, Nat.cast_mul,
    mul_div_cancel_right₀ _ denominator.ne', sub_mul, div_mul_cancel₀ _ step.ne']

/-- And from the one above it. -/
theorem distance_above (x : Binary) (k : Int) :
    (x.gridBelow k + 1 : Nat) * 10 ^ k - x.magnitude =
      ((x.gridBelow k + 1) * x.gridDenominator k - x.gridNumerator k x.center : Nat) /
        x.gridDenominator k * 10 ^ k := by
  have positive := x.gridDenominator_pos k
  have denominator : (0 : ℚ) < x.gridDenominator k := Nat.cast_pos.mpr positive
  have step : (0 : ℚ) < 10 ^ k := by positivity
  have le_above : x.gridNumerator k x.center ≤ (x.gridBelow k + 1) * x.gridDenominator k := by
    rw [Nat.succ_mul]
    exact (Nat.lt_div_mul_add positive).le
  rw [Nat.cast_sub le_above, sub_div, ← center_div, Nat.cast_mul,
    mul_div_cancel_right₀ _ denominator.ne', sub_mul, div_mul_cancel₀ _ step.ne']

/-- The point that is chosen is one of the two around the number, and no farther than the other. -/
theorem nearer_cases (x : Binary) (tie : Tie) (k : Int) :
    x.nearer tie k (x.gridBelow k) = x.gridBelow k ∧
        x.magnitude - x.gridBelow k * 10 ^ k ≤ (x.gridBelow k + 1 : Nat) * 10 ^ k - x.magnitude ∨
      x.nearer tie k (x.gridBelow k) = x.gridBelow k + 1 ∧
        (x.gridBelow k + 1 : Nat) * 10 ^ k - x.magnitude ≤
          x.magnitude - x.gridBelow k * 10 ^ k := by
  have denominator : (0 : ℚ) < x.gridDenominator k := Nat.cast_pos.mpr (x.gridDenominator_pos k)
  have step : (0 : ℚ) < 10 ^ k := by positivity
  rw [distance_below, distance_above, mul_le_mul_iff_of_pos_right step,
    div_le_div_iff_of_pos_right denominator, Nat.cast_le, mul_le_mul_iff_of_pos_right step,
    div_le_div_iff_of_pos_right denominator, Nat.cast_le]
  unfold Binary.nearer
  dsimp only
  split
  · next nearer_below => exact .inl ⟨rfl, nearer_below.le⟩
  · next not_below =>
    split
    · next nearer_above => exact .inr ⟨rfl, nearer_above.le⟩
    · next not_above =>
      cases tie with
      | up => exact .inr ⟨rfl, Nat.not_lt.mp not_below⟩
      | even =>
        dsimp only
        rcases Nat.mod_two_eq_zero_or_one (x.gridBelow k) with even | odd
        · exact .inl ⟨by omega, Nat.not_lt.mp not_above⟩
        · exact .inr ⟨by omega, Nat.not_lt.mp not_below⟩

/-- **A grid point that is found rounds to the number.** -/
theorem covers_of_gridPoint? {tie : Tie} {k : Int} {j : Nat}
    (h : x.gridPoint? format tie k = some j) : x.Covers format (j * 10 ^ k) := by
  rw [← roundsFrom_iff]
  unfold Binary.gridPoint? at h
  dsimp only at h
  split at h
  · next below above =>
    obtain rfl := Option.some.inj h
    rcases x.nearer_cases tie k with ⟨same, -⟩ | ⟨same, -⟩
    · exact (congrArg _ same).trans below
    · exact (congrArg _ same).trans above
  · next below _ =>
    obtain rfl := Option.some.inj h
    exact below
  · next _ above =>
    obtain rfl := Option.some.inj h
    exact above
  · cases h

/-- If a point of the grid rounds to the number, so does the one next to the number on its side,
which is no farther. -/
theorem side_of_covers (positive : 0 < x.mantissa) {k : Int} {j : Nat}
    (covers : x.Covers format (j * 10 ^ k)) :
    x.roundsFrom format k (x.gridBelow k) = true ∧
        x.magnitude - x.gridBelow k * 10 ^ k ≤ |j * 10 ^ k - x.magnitude| ∨
      x.roundsFrom format k (x.gridBelow k + 1) = true ∧
        (x.gridBelow k + 1 : Nat) * 10 ^ k - x.magnitude ≤ |j * 10 ^ k - x.magnitude| := by
  have step : (0 : ℚ) < 10 ^ k := by positivity
  obtain ⟨below_le, lt_above⟩ := x.gridBelow_bounds k
  rcases Nat.lt_or_ge (x.gridBelow k) j with above | at_most
  · have le : ((x.gridBelow k + 1 : Nat) * 10 ^ k : ℚ) ≤ j * 10 ^ k :=
      mul_le_mul_of_nonneg_right (Nat.cast_le.mpr above) step.le
    refine .inr ⟨roundsFrom_iff.mpr (covers.down positive le lt_above.le), ?_⟩
    exact le_trans (by linarith) (le_abs_self _)
  · have le : (j * 10 ^ k : ℚ) ≤ x.gridBelow k * 10 ^ k :=
      mul_le_mul_of_nonneg_right (Nat.cast_le.mpr at_most) step.le
    refine .inl ⟨roundsFrom_iff.mpr (covers.up le below_le), ?_⟩
    exact le_trans (by linarith) (neg_le_abs _)

/-- **If none is found, no point of the grid rounds to the number.** -/
theorem not_covers_of_gridPoint? (positive : 0 < x.mantissa) {tie : Tie} {k : Int}
    (h : x.gridPoint? format tie k = none) (j : Nat) : ¬ x.Covers format (j * 10 ^ k) := by
  intro covers
  unfold Binary.gridPoint? at h
  dsimp only at h
  rw [← Binary.gridBelow] at h
  split at h
  · cases h
  · cases h
  · cases h
  · next below above =>
    rcases side_of_covers positive covers with ⟨side, -⟩ | ⟨side, -⟩
    · exact absurd side (by rw [below]; decide)
    · exact absurd side (by rw [above]; decide)

/-- **What is found is no farther from the number than any point that rounds to it.** -/
theorem nearest_of_gridPoint? (positive : 0 < x.mantissa) {tie : Tie} {k : Int} {j : Nat}
    (h : x.gridPoint? format tie k = some j) {j' : Nat} (covers : x.Covers format (j' * 10 ^ k)) :
    |j * 10 ^ k - x.magnitude| ≤ |j' * 10 ^ k - x.magnitude| := by
  obtain ⟨below_le, lt_above⟩ := x.gridBelow_bounds k
  have down : |x.gridBelow k * 10 ^ k - x.magnitude| = x.magnitude - x.gridBelow k * 10 ^ k := by
    rw [abs_sub_comm, abs_of_nonneg (by linarith)]
  have up : |(x.gridBelow k + 1 : Nat) * 10 ^ k - x.magnitude| =
      (x.gridBelow k + 1 : Nat) * 10 ^ k - x.magnitude := abs_of_nonneg (by linarith)
  have side := side_of_covers positive covers
  unfold Binary.gridPoint? at h
  dsimp only at h
  rw [← Binary.gridBelow] at h
  split at h
  · obtain rfl := Option.some.inj h
    rcases x.nearer_cases tie k with ⟨same, nearer⟩ | ⟨same, nearer⟩
    · rw [same, down]
      rcases side with ⟨-, far⟩ | ⟨-, far⟩ <;> linarith
    · rw [same, up]
      rcases side with ⟨-, far⟩ | ⟨-, far⟩ <;> linarith
  · next _ no_above =>
    obtain rfl := Option.some.inj h
    rw [down]
    exact (side.resolve_right fun above => absurd above.1 (by rw [no_above]; decide)).2
  · next no_below _ =>
    obtain rfl := Option.some.inj h
    rw [up]
    exact (side.resolve_left fun below => absurd below.1 (by rw [no_below]; decide)).2
  · cases h

/-! ## The search -/

/-- **The search stops at the coarsest grid that has a point**, if it comes to one in time. -/
theorem searchGrid_spec {tie : Tie} {steps : Nat} {start : Int}
    (found : ∃ i < steps, x.gridPoint? format tie (start - i) ≠ none) :
    let result := x.searchGrid format tie steps start
    x.gridPoint? format tie result.2 = some result.1 ∧ result.2 ≤ start ∧
      ∀ k, result.2 < k → k ≤ start → x.gridPoint? format tie k = none := by
  induction steps generalizing start with
  | zero =>
    obtain ⟨i, i_lt, -⟩ := found
    omega
  | succ steps ih =>
    rw [Binary.searchGrid]
    cases point : x.gridPoint? format tie start with
    | some j =>
      refine ⟨point, Int.le_refl _, fun k above at_most => ?_⟩
      dsimp only at above
      omega
    | none =>
      obtain ⟨i, i_lt, found⟩ := found
      cases i with
      | zero => exact absurd (by simpa using point) found
      | succ i =>
        have later : start - 1 - (i : Int) = start - ((i + 1 : Nat) : Int) := by omega
        rw [← later] at found
        obtain ⟨taken, at_most, none_before⟩ := ih ⟨i, by omega, found⟩
        refine ⟨taken, Int.le_trans at_most (by omega), fun k above k_le => ?_⟩
        rcases Int.lt_or_eq_of_le k_le with before | rfl
        · exact none_before k above (by omega)
        · exact point

/-! ## The first and the last grid -/

/-- The exponent of a power of ten for a power of two. -/
def gridGuess (bits : Int) : Int := bits * 30103 / 100000 + 1

/-- The powers of ten that are guessed lie close enough to the powers of two, in natural numbers. -/
theorem gridGuess_table : ∀ i < (2100 : Nat),
    twoTo ((i : Int) - 1074).toNat * tenTo (-gridGuess ((i : Int) - 1074)).toNat ≤
        tenTo (gridGuess ((i : Int) - 1074)).toNat * twoTo (-((i : Int) - 1074)).toNat ∧
      tenTo (gridGuess ((i : Int) - 1074) - 23).toNat * twoTo (-((i : Int) - 1074 - 54)).toNat <
        twoTo ((i : Int) - 1074 - 54).toNat * tenTo (-(gridGuess ((i : Int) - 1074) - 23)).toNat := by
  decide +kernel

/-- Powers of two and ten compare like the natural numbers behind them. -/
theorem zpow_two_le_ten_iff (b k : Int) :
    (2 : ℚ) ^ b ≤ 10 ^ k ↔
      twoTo b.toNat * tenTo (-k).toNat ≤ tenTo k.toNat * twoTo (-b).toNat := by
  rw [zpow_eq_div (by norm_num) b, zpow_eq_div (by norm_num) k,
    div_le_div_iff₀ (by positivity) (by positivity)]
  simp only [← cast_twoTo, ← cast_tenTo]
  exact_mod_cast Iff.rfl

/-- **The first grid is too coarse and the last one fine enough**, for the numbers of 64 bits. -/
theorem gridGuess_bounds {bits : Int} (first : -1074 ≤ bits) (last : bits ≤ 1025) :
    (2 : ℚ) ^ bits ≤ 10 ^ gridGuess bits ∧ (10 : ℚ) ^ (gridGuess bits - 23) < 2 ^ (bits - 54) := by
  obtain ⟨i, rfl⟩ : ∃ i : Nat, bits = (i : Int) - 1074 := ⟨(bits + 1074).toNat, by omega⟩
  obtain ⟨coarse, fine⟩ := gridGuess_table i (by omega)
  refine ⟨(zpow_two_le_ten_iff _ _).mpr coarse, ?_⟩
  rw [← not_le, zpow_two_le_ten_iff, Nat.not_le]
  exact fine

/-! ## The shortest digits -/

/-- The bits before the point bound a number from above. -/
theorem magnitude_lt (x : Binary) :
    x.magnitude < 2 ^ ((Nat.log2 x.mantissa : Int) + x.exponent + 1) := by
  have below : (x.mantissa : ℚ) < 2 ^ (x.mantissa.log2 + 1) := by
    rw [← cast_twoTo]
    exact Nat.cast_lt.mpr (lt_twoTo_log2 x.mantissa)
  have split : (Nat.log2 x.mantissa : Int) + x.exponent + 1 =
      ((x.mantissa.log2 + 1 : Nat) : Int) + x.exponent := by omega
  rw [Binary.magnitude, split, zpow_add₀ (by norm_num), zpow_natCast]
  exact mul_lt_mul_of_pos_right below (by positivity)

/-- A number of a format has as many bits as its format, or fewer. -/
theorem bits_bounds (normal : x.IsOf binary64) (positive : 0 < x.mantissa) :
    -1074 ≤ (Nat.log2 x.mantissa : Int) + x.exponent + 1 ∧
      (Nat.log2 x.mantissa : Int) + x.exponent + 1 ≤ 1025 ∧
      (Nat.log2 x.mantissa : Int) + x.exponent + 1 - 53 ≤ x.exponent := by
  have log_lt : x.mantissa.log2 < 53 := (Nat.log2_lt (by omega)).mpr normal.mantissa_lt
  have least : -1074 ≤ x.exponent := normal.exponent_ge
  have greatest : x.exponent ≤ 971 := normal.exponent_le
  omega

/-- A grid that is coarser than the first has no point that rounds to the number. -/
theorem not_covers_coarser (normal : x.IsOf binary64) (positive : 0 < x.mantissa) (j : Nat) :
    ¬ x.Covers binary64 (j * 10 ^ (x.coarseGrid + 1)) := by
  intro covers
  obtain ⟨low, high⟩ := covers.bounds
  obtain ⟨first, last, -⟩ := bits_bounds normal positive
  have power : (2 : ℚ) ^ ((Nat.log2 x.mantissa : Int) + x.exponent + 1) ≤ 10 ^ x.coarseGrid :=
    (gridGuess_bounds first last).1
  have small := x.magnitude_lt
  have some_mantissa : (1 : ℚ) ≤ x.mantissa := Nat.one_le_cast.mpr positive
  -- a point other than zero is ten steps of the first grid and more, which is beyond the interval
  have upper_le : x.upperBound ≤ 2 * x.magnitude := by
    rw [Binary.upperBound_eq, Binary.magnitude, ← mul_assoc]
    exact mul_le_mul_of_nonneg_right (by linarith) (by positivity)
  have step : (0 : ℚ) < 10 ^ x.coarseGrid := by positivity
  rw [zpow_add_one₀ (by norm_num)] at low high
  cases j with
  | zero =>
    have above := lowerBound_pos binary64 positive
    rw [Nat.cast_zero, zero_mul] at low
    linarith
  | succ j =>
    have one_le : (1 : ℚ) ≤ (j + 1 : Nat) := Nat.one_le_cast.mpr (Nat.succ_pos j)
    have point_ge : (1 : ℚ) * (10 ^ x.coarseGrid * 10) ≤ (j + 1 : Nat) * (10 ^ x.coarseGrid * 10) :=
      mul_le_mul_of_nonneg_right one_le (by positivity)
    linarith

/-- One of the grids that are tried has a point that rounds to the number: on the last one, the
points lie closer together than half a last place. -/
theorem exists_gridPoint? (normal : x.IsOf binary64) (positive : 0 < x.mantissa) (tie : Tie) :
    ∃ i < 24, x.gridPoint? binary64 tie (x.coarseGrid - (i : Nat)) ≠ none := by
  obtain ⟨first, last, place⟩ := bits_bounds normal positive
  have fine : (10 : ℚ) ^ (x.coarseGrid - 23) < 2 ^ (x.exponent - 1) := calc
    (10 : ℚ) ^ (x.coarseGrid - 23)
        < 2 ^ ((Nat.log2 x.mantissa : Int) + x.exponent + 1 - 54) := (gridGuess_bounds first last).2
    _ ≤ 2 ^ (x.exponent - 1) := zpow_le_zpow_right₀ (by norm_num) (by omega)
  obtain ⟨below_le, lt_above⟩ := x.gridBelow_bounds (x.coarseGrid - 23)
  have low := lowerBound_lt_magnitude binary64 positive
  have point_lt : ((x.gridBelow (x.coarseGrid - 23) + 1 : Nat) * 10 ^ (x.coarseGrid - 23) : ℚ) <
      x.upperBound := by
    have half : x.upperBound = x.magnitude + 2 ^ (x.exponent - 1) := by
      rw [Binary.upperBound_eq, Binary.magnitude, zpow_sub₀ (by norm_num)]
      ring
    rw [half, Nat.cast_add, Nat.cast_one, add_mul, one_mul]
    linarith
  have covers : x.Covers binary64
      ((x.gridBelow (x.coarseGrid - 23) + 1 : Nat) * 10 ^ (x.coarseGrid - 23)) := by
    unfold Binary.Covers
    split
    · exact ⟨(low.trans lt_above).le, point_lt.le⟩
    · exact ⟨low.trans lt_above, point_lt⟩
  refine ⟨23, by decide, fun nothing => ?_⟩
  exact not_covers_of_gridPoint? positive nothing _ covers

/-- **The shortest digits round to the number**; no fewer digits do, and no nearer ones. -/
theorem shortest_isShortest (normal : x.IsOf binary64) (positive : 0 < x.mantissa) (tie : Tie) :
    x.IsShortest binary64 (x.shortest binary64 tie).1 (x.shortest binary64 tie).2 := by
  obtain ⟨taken, at_most, none_before⟩ :=
    searchGrid_spec (exists_gridPoint? normal positive tie)
  rw [Binary.shortest, if_neg (Nat.ne_of_gt positive)]
  refine ⟨covers_of_gridPoint? taken, fun j => ?_,
    fun _ covers => nearest_of_gridPoint? positive taken covers⟩
  rcases Int.lt_or_eq_of_le at_most with finer | first
  · exact not_covers_of_gridPoint? positive (none_before _ (by omega) (by omega)) j
  · rw [first]
    exact not_covers_coarser normal positive j

end Binary

end Intake.Numeral
