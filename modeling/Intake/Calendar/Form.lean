import Intake.Calendar.Reading

/-!
# The recognised date forms

The forms of date texts, grouped by what they say: a moment with its offset from UTC, a moment
without one (read as UTC), or a date alone (read as midnight UTC).
-/

namespace Intake.Calendar

/-- A date in numbers, the year first. -/
def yearFirst (separator : Char) : Form :=
  [.number .year, .mark separator, .number .month, .mark separator, .number .day]

/-- Hours and minutes. -/
def hourMinute : Form := [.number .hour, .mark ':', .number .minute]

/-- Hours, minutes and seconds. -/
def hourMinuteSecond : Form := hourMinute ++ [.mark ':', .number .second]

/-- The internet form `2024-03-01T12:30:00.25+02:00`: every number with its full width, the offset
`Z` or with a colon. -/
def internetForm : Form :=
  [.digits .year 4, .mark '-', .digits .month 2, .mark '-', .digits .day 2, .oneOf ['T', 't', ' '],
   .digits .hour 2, .mark ':', .digits .minute 2, .mark ':', .digits .second 2, .fraction, .zone]

/-- Moments with a looser offset, such as `+0200`. -/
def offsetForms : List Form :=
  [yearFirst '-' ++ [.mark 'T'] ++ hourMinuteSecond ++ [.fraction, .looseZone],
   yearFirst '-' ++ [.blanks] ++ hourMinuteSecond ++ [.fraction, .looseZone]]

/-- Moments without an offset. -/
def zonelessForms : List Form :=
  [yearFirst '-' ++ [.mark 'T'] ++ hourMinuteSecond ++ [.fraction],
   yearFirst '-' ++ [.blanks] ++ hourMinuteSecond ++ [.fraction],
   yearFirst '-' ++ [.mark 'T'] ++ hourMinute,
   yearFirst '-' ++ [.blanks] ++ hourMinute,
   yearFirst '/' ++ [.blanks] ++ hourMinuteSecond]

/-- Dates alone. -/
def dateForms : List Form :=
  [yearFirst '-',
   yearFirst '/',
   [.number .day, .mark '.', .number .month, .mark '.', .number .year],
   [.monthName, .blanks, .number .day, .mark ',', .blanks, .number .year],
   [.number .day, .blanks, .monthName, .blanks, .number .year]]

end Intake.Calendar
