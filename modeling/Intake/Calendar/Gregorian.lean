/-!
# The Gregorian calendar

Dates of the proleptic Gregorian calendar and their numbering by days, day 0 being the first of
January 1970. `Date.dayNumber` counts the days before a date and `Date.ofDayNumber` finds the date of
a day; both work on years that begin in March, so that a leap day is the last day of its year.
-/

namespace Intake.Calendar

/-- A calendar date. Months and days are counted from one. -/
structure Date where
  year : Int
  month : Nat
  day : Nat
  deriving DecidableEq, Repr

/-- Does the year have 366 days? -/
def isLeapYear (year : Int) : Bool :=
  year % 4 = 0 && (year % 100 ≠ 0 || year % 400 = 0)

/-- The number of days of a month. -/
def monthLength (year : Int) (month : Nat) : Nat :=
  match month with
  | 1 | 3 | 5 | 7 | 8 | 10 | 12 => 31
  | 4 | 6 | 9 | 11 => 30
  | 2 => if isLeapYear year then 29 else 28
  | _ => 0

/-- Is there such a date? -/
def Date.isValid (date : Date) : Bool :=
  1 ≤ date.day && date.day ≤ monthLength date.year date.month

/-! ## Counting days -/

/-- The days from the first of March of year 0 to the first of January 1970. -/
def marchEpoch : Int := 719468

/-- The days of 400 years. -/
def eraDays : Int := 146097

/-- The days before a month, counted from the first of March; March is month 0. -/
def daysBeforeMonth (marchMonth : Int) : Int := (153 * marchMonth + 2) / 5

/-- The days from the first of January 1970 to the date. -/
def Date.dayNumber (date : Date) : Int :=
  -- January and February belong to the year that began in the March before
  let year := if date.month ≤ 2 then date.year - 1 else date.year
  let marchMonth : Int := ((date.month : Int) + 9) % 12
  let yearOfEra := year % 400
  let dayOfYear := daysBeforeMonth marchMonth + ((date.day : Int) - 1)
  year / 400 * eraDays + (yearOfEra * 365 + yearOfEra / 4 - yearOfEra / 100 + dayOfYear) - marchEpoch

/-- The year of its era, and the day of that year, of a day of an era. A last century, and a last
year of four, may be one day longer than the others. -/
def yearOfEraDay (dayOfEra : Int) : Int × Int :=
  let century := min (dayOfEra / 36524) 3
  let dayOfCentury := dayOfEra - century * 36524
  let quad := dayOfCentury / 1461
  let dayOfQuad := dayOfCentury % 1461
  let year := min (dayOfQuad / 365) 3
  (century * 100 + quad * 4 + year, dayOfQuad - year * 365)

/-- The date of a day. -/
def Date.ofDayNumber (n : Int) : Date :=
  let days := n + marchEpoch
  let (yearOfEra, dayOfYear) := yearOfEraDay (days % eraDays)
  let marchMonth := (5 * dayOfYear + 2) / 153
  let month := (marchMonth + 2) % 12 + 1
  let year := days / eraDays * 400 + yearOfEra
  { year := if month ≤ 2 then year + 1 else year
    month := month.toNat
    day := (dayOfYear - daysBeforeMonth marchMonth + 1).toNat }

/-- The day of the week, Monday being 0. -/
def Date.weekday (date : Date) : Int := (date.dayNumber + 3) % 7

/-! ## The supported range -/

/-- The first date that instants may fall on. -/
def Date.earliest : Date := ⟨-262143, 1, 1⟩

/-- The last date that instants may fall on. -/
def Date.latest : Date := ⟨262142, 12, 31⟩

end Intake.Calendar
