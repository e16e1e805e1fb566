import Intake.Calendar.Gregorian
import Mathlib.Tactic.IntervalCases

/-!
# Days and dates

Every day has a date that exists, and the date has the day's number (`dayNumber_ofDayNumber`). Both
computations cut the days into eras of 400 years, centuries, spans of four years and years that
begin in March; the work is to bound what is left over at each cut, so that the last century of an
era and the last year of four may be a day longer than the others and no other may.
-/

namespace Intake.Calendar

/-! ## Years of an era -/

theorem emod_eraDays_bounds (n : Int) : 0 ≤ n % eraDays ∧ n % eraDays < eraDays := by
  unfold eraDays
  omega

/-- The parts of a day of an era: centuries, spans of four years and years before it, and the day of
its year. Only a year before a leap day has a 366th day. -/
theorem yearOfEraDay_spec {dayOfEra : Int} (first : 0 ≤ dayOfEra) (last : dayOfEra < eraDays) :
    ∃ century quad year : Int,
      (yearOfEraDay dayOfEra).1 = century * 100 + quad * 4 + year ∧
      dayOfEra = century * 36524 + quad * 1461 + year * 365 + (yearOfEraDay dayOfEra).2 ∧
      (0 ≤ century ∧ century ≤ 3) ∧ (0 ≤ quad ∧ quad ≤ 24) ∧ (0 ≤ year ∧ year ≤ 3) ∧
      (0 ≤ (yearOfEraDay dayOfEra).2 ∧ (yearOfEraDay dayOfEra).2 ≤ 365) ∧
      ((yearOfEraDay dayOfEra).2 = 365 → year = 3 ∧ (quad = 24 → century = 3)) := by
  unfold eraDays at last
  refine ⟨min (dayOfEra / 36524) 3, (dayOfEra - min (dayOfEra / 36524) 3 * 36524) / 1461,
    min ((dayOfEra - min (dayOfEra / 36524) 3 * 36524) % 1461 / 365) 3, rfl, ?_⟩
  simp only [yearOfEraDay]
  -- each remainder by its name, so that only linear facts are left
  generalize century_eq : min (dayOfEra / 36524) 3 = century
  generalize rest_eq : dayOfEra - century * 36524 = rest
  generalize year_eq : min (rest % 1461 / 365) 3 = year
  omega

/-- The 366th day of a year that begins in March is a leap day. -/
theorem isLeapYear_of_lastDay {century quad year : Int} (era : Int) (year_eq : year = 3)
    (quad_le : 0 ≤ quad ∧ quad ≤ 24) (last : quad = 24 → century = 3) :
    isLeapYear (era * 400 + (century * 100 + quad * 4 + year) + 1) = true := by
  simp only [isLeapYear, Bool.and_eq_true, Bool.or_eq_true, decide_eq_true_eq, ne_eq]
  omega

/-! ## Months -/

/-- The month, counted from March, of a day of a year. -/
theorem marchMonth_spec {dayOfYear : Int} (first : 0 ≤ dayOfYear) (last : dayOfYear ≤ 365) :
    (0 ≤ (5 * dayOfYear + 2) / 153 ∧ (5 * dayOfYear + 2) / 153 ≤ 11) ∧
      daysBeforeMonth ((5 * dayOfYear + 2) / 153) ≤ dayOfYear ∧
      dayOfYear < daysBeforeMonth ((5 * dayOfYear + 2) / 153 + 1) := by
  unfold daysBeforeMonth
  omega

/-- January and February lie in the year that began in the March before. -/
theorem marchYear_back (marchMonth year : Int) :
    (if ((marchMonth + 2) % 12 + 1).toNat ≤ 2 then
        (if (marchMonth + 2) % 12 + 1 ≤ 2 then year + 1 else year) - 1
      else if (marchMonth + 2) % 12 + 1 ≤ 2 then year + 1 else year) = year := by
  split <;> split <;> omega

/-- A day before the next month exists in its own: February is the last month, and has a 29th only
if the year has a 366th day. -/
theorem day_le_monthLength {marchMonth dayOfYear year : Int}
    (month : 0 ≤ marchMonth ∧ marchMonth ≤ 11) (next : dayOfYear < daysBeforeMonth (marchMonth + 1))
    (last : dayOfYear ≤ 365) (leap : marchMonth = 11 → dayOfYear = 365 → isLeapYear year = true) :
    (dayOfYear - daysBeforeMonth marchMonth + 1).toNat ≤
      monthLength year ((marchMonth + 2) % 12 + 1).toNat := by
  unfold daysBeforeMonth at *
  obtain ⟨march, february⟩ := month
  by_cases short : marchMonth = 11
  · subst short
    have length_eq : monthLength year (((11 : Int) + 2) % 12 + 1).toNat =
        if isLeapYear year then 29 else 28 := rfl
    rw [length_eq]
    split
    · omega
    · next common =>
      have : dayOfYear ≠ 365 := fun day_366 => common (leap rfl day_366)
      omega
  · interval_cases marchMonth <;> simp [monthLength] at * <;> omega

/-! ## The round trip -/

/-- **The date of a day has the number of the day.** -/
theorem dayNumber_ofDayNumber (n : Int) : (Date.ofDayNumber n).dayNumber = n := by
  have era_day := emod_eraDays_bounds (n + marchEpoch)
  obtain ⟨century, quad, year, year_eq, day_eq, century_le, quad_le, year_le, day_le, -⟩ :=
    yearOfEraDay_spec era_day.1 era_day.2
  obtain ⟨marchMonth_le, month_le, -⟩ := marchMonth_spec day_le.1 day_le.2
  unfold Date.ofDayNumber Date.dayNumber
  simp only [year_eq]
  generalize (yearOfEraDay ((n + marchEpoch) % eraDays)).2 = dayOfYear at *
  generalize (5 * dayOfYear + 2) / 153 = marchMonth at *
  have month_back : ((((marchMonth + 2) % 12 + 1).toNat : Int) + 9) % 12 = marchMonth := by omega
  have day_back : (((dayOfYear - daysBeforeMonth marchMonth + 1).toNat : Int) - 1) =
      dayOfYear - daysBeforeMonth marchMonth := by omega
  rw [month_back, day_back, marchYear_back]
  -- the year cuts into its era and its year of the era, and that into the spans behind `day_eq`
  generalize yearOfEra_eq : century * 100 + quad * 4 + year = yearOfEra
  have era_back : ((n + marchEpoch) / eraDays * 400 + yearOfEra) / 400 =
      (n + marchEpoch) / eraDays := by omega
  have rest_back : ((n + marchEpoch) / eraDays * 400 + yearOfEra) % 400 = yearOfEra := by omega
  have quads_back : yearOfEra / 4 = century * 25 + quad := by omega
  have centuries_back : yearOfEra / 100 = century := by omega
  rw [era_back, rest_back, quads_back, centuries_back]
  have cut := Int.mul_ediv_add_emod (n + marchEpoch) eraDays
  unfold eraDays at *
  omega

/-- **The date of a day exists.** -/
theorem ofDayNumber_isValid (n : Int) : (Date.ofDayNumber n).isValid = true := by
  have era_day := emod_eraDays_bounds (n + marchEpoch)
  obtain ⟨century, quad, year, year_eq, -, -, quad_le, -, day_le, last⟩ :=
    yearOfEraDay_spec era_day.1 era_day.2
  obtain ⟨marchMonth_le, month_le, month_gt⟩ := marchMonth_spec day_le.1 day_le.2
  unfold Date.ofDayNumber
  simp only [year_eq, Date.isValid, Bool.and_eq_true, decide_eq_true_eq]
  generalize (yearOfEraDay ((n + marchEpoch) % eraDays)).2 = dayOfYear at *
  -- only February asks for the year, and it lies in the year after the one that began in March
  have leap : (5 * dayOfYear + 2) / 153 = 11 → dayOfYear = 365 → isLeapYear
      (if ((5 * dayOfYear + 2) / 153 + 2) % 12 + 1 ≤ 2 then
        (n + marchEpoch) / eraDays * 400 + (century * 100 + quad * 4 + year) + 1
      else (n + marchEpoch) / eraDays * 400 + (century * 100 + quad * 4 + year)) = true := by
    intro february day_366
    rw [february, if_pos (by decide)]
    exact isLeapYear_of_lastDay _ (last day_366).1 quad_le (last day_366).2
  exact ⟨by omega, day_le_monthLength marchMonth_le month_gt day_le.2 leap⟩

end Intake.Calendar
