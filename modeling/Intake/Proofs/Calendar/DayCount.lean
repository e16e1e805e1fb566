import Intake.Proofs.Calendar.Canonical

/-!
# Counting the days

`Date.dayNumber` finds the number of a date by a formula on years that begin in March. Here the days
are counted one after the other instead: those of the years before, those of the months before, and
those of the month itself (`Date.elapsedDays`). From the year 0 on, both agree
(`Date.dayNumber_eq_elapsedDays`).
-/

namespace Intake.Calendar

/-- The days of a year. -/
def yearLength (year : Int) : Nat := if isLeapYear year then 366 else 365

/-- The days of the years from year 0 up to a year. -/
def daysBeforeYear : Nat → Nat
  | 0 => 0
  | year + 1 => daysBeforeYear year + yearLength year

/-- The days of a year that lie before one of its months. -/
def daysOfMonthsBefore (year : Int) : Nat → Nat
  | 0 => 0
  | month + 1 => daysOfMonthsBefore year month + monthLength year month

/-- The days from the first of January of the year 0 to the date, for years from then on. -/
def Date.elapsedDays (date : Date) : Nat :=
  daysBeforeYear date.year.toNat + daysOfMonthsBefore date.year date.month + (date.day - 1)

/-- The first of January 1970. -/
def Date.unixEpoch : Date := ⟨1970, 1, 1⟩

/-! ## Years and months -/

/-- Every fourth year has a leap day, but of the hundredth years only every fourth. -/
theorem daysBeforeYear_eq (year : Nat) :
    daysBeforeYear year + (year + 99) / 100 = 365 * year + (year + 3) / 4 + (year + 399) / 400 := by
  induction year with
  | zero => rfl
  | succ year ih =>
    rw [daysBeforeYear, yearLength]
    by_cases leap : isLeapYear year = true
    · rw [if_pos leap]
      simp only [isLeapYear, Bool.and_eq_true, Bool.or_eq_true, decide_eq_true_eq] at leap
      omega
    · rw [if_neg leap]
      simp only [isLeapYear, Bool.and_eq_true, Bool.or_eq_true, decide_eq_true_eq] at leap
      omega

/-- January and February are counted by their lengths; from March on, months and the days before
them, counted from March, follow the formula. -/
theorem daysOfMonthsBefore_eq (year : Int) {month : Nat} (first : 1 ≤ month) (last : month ≤ 12) :
    (daysOfMonthsBefore year month : Int) =
      if month ≤ 2 then 31 * ((month : Int) - 1)
      else 59 + (if isLeapYear year then 1 else 0) +
        daysBeforeMonth (((month : Int) + 9) % 12) := by
  by_cases leap : isLeapYear year = true
  · interval_cases month <;> simp [daysOfMonthsBefore, monthLength, daysBeforeMonth, leap]
  · interval_cases month <;> simp [daysOfMonthsBefore, monthLength, daysBeforeMonth, leap]

theorem Date.one_le_month_day {date : Date} (valid : date.isValid = true) :
    1 ≤ date.month ∧ 1 ≤ date.day := by
  simp only [Date.isValid, Bool.and_eq_true, decide_eq_true_eq] at valid
  obtain ⟨first, last⟩ := valid
  unfold monthLength at last
  split at last
  all_goals omega

theorem Date.elapsedDays_unixEpoch : Date.unixEpoch.elapsedDays = 719528 := by
  have years := daysBeforeYear_eq 1970
  simp only [Date.elapsedDays, Date.unixEpoch, Int.reduceToNat, daysOfMonthsBefore, monthLength]
  omega

/-! ## Days -/

/-- **The number of a date is the count of the days since the start of 1970.** -/
theorem Date.dayNumber_eq_elapsedDays {date : Date} (valid : date.isValid = true)
    (year : 0 ≤ date.year) :
    date.dayNumber = (date.elapsedDays : Int) - Date.unixEpoch.elapsedDays := by
  obtain ⟨first_month, first_day⟩ := Date.one_le_month_day valid
  obtain ⟨last_month, -⟩ := Date.month_day_le valid
  have years := daysBeforeYear_eq date.year.toNat
  have months := daysOfMonthsBefore_eq date.year first_month last_month
  rw [Date.elapsedDays_unixEpoch]
  simp only [Date.dayNumber, Date.elapsedDays, eraDays, marchEpoch]
  -- the years before, counted from March, are one less in January and February
  by_cases early : date.month ≤ 2
  · rw [if_pos early] at months ⊢
    simp only [daysBeforeMonth]
    omega
  · rw [if_neg early] at months ⊢
    by_cases leap : isLeapYear date.year = true
    · rw [if_pos leap] at months
      simp only [isLeapYear, Bool.and_eq_true, Bool.or_eq_true, decide_eq_true_eq] at leap
      omega
    · rw [if_neg leap] at months
      simp only [isLeapYear, Bool.and_eq_true, Bool.or_eq_true, decide_eq_true_eq] at leap
      omega

/-- The weekday is counted on from the first of January of the year 0, a Saturday. -/
theorem Date.weekday_eq_elapsedDays {date : Date} (valid : date.isValid = true)
    (year : 0 ≤ date.year) : date.weekday = ((date.elapsedDays + 5) % 7 : Nat) := by
  rw [Date.weekday, Date.dayNumber_eq_elapsedDays valid year, Date.elapsedDays_unixEpoch]
  omega

end Intake.Calendar
