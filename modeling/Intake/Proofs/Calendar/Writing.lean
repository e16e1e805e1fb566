import Intake.Proofs.Calendar.DayCount

/-!
# Moments and how they are written

A moment is what a calendar, a clock and the clock's distance from UTC show (`Moment`). It is one
instant (`Moment.instant`): the days are counted one after the other, and the distance from UTC is
taken off. There are the ways to write a moment that people and programs use (`Style`); some of them
leave a part out, and then mean a moment without it (`Style.shown`).
-/

namespace Intake.Calendar

open Intake.Text

/-! ## Moments -/

/-- How far a clock is ahead of UTC, or behind it. -/
structure Offset where
  behind : Bool
  hours : Nat
  minutes : Nat
  deriving DecidableEq, Repr

/-- The offset of a clock that shows UTC. -/
def Offset.utc : Offset := ⟨false, 0, 0⟩

/-- Less than a day, in hours and minutes. -/
def Offset.IsPossible (offset : Offset) : Prop := offset.hours < 24 ∧ offset.minutes < 60

theorem Offset.isPossible_utc : Offset.utc.IsPossible := ⟨by decide, by decide⟩

/-- The seconds that a clock is ahead of UTC. -/
def Offset.seconds (offset : Offset) : Int :=
  (if offset.behind then -1 else 1) * ((offset.hours * 3600 + offset.minutes * 60 : Nat) : Int)

theorem Offset.seconds_utc : Offset.utc.seconds = 0 := by decide

/-- What a calendar and a clock show. -/
structure Moment where
  date : Date
  hour : Nat
  minute : Nat
  second : Nat
  /-- The digits of the fraction of the second. -/
  fraction : List Char
  offset : Offset
  deriving DecidableEq, Repr

/-- Midnight in UTC at the start of a date. -/
def Date.midnight (date : Date) : Moment := ⟨date, 0, 0, 0, [], .utc⟩

/-- The same time of the same day on a clock that shows UTC. -/
def Moment.inUtc (m : Moment) : Moment := { m with offset := .utc }

/-- The moment without the fraction of its second. -/
def Moment.wholeSecond (m : Moment) : Moment := { m with fraction := [] }

/-- The moment without the seconds of its minute. -/
def Moment.wholeMinute (m : Moment) : Moment := { m with second := 0, fraction := [] }

/-- The nanoseconds of the fraction. -/
def Moment.nanos (m : Moment) : Nat := digitsValue m.fraction * 10 ^ (9 - m.fraction.length)

theorem Moment.nanos_eq_zero {m : Moment} (none_left : m.fraction = []) : m.nanos = 0 := by
  rw [Moment.nanos, none_left]
  exact Nat.zero_mul _

/-- A moment of the years 0 to 9999, to the nanosecond at most. -/
structure Moment.IsPossible (m : Moment) : Prop where
  first_year : 0 ≤ m.date.year
  last_year : m.date.year ≤ 9999
  date : m.date.isValid = true
  hour : m.hour < 24
  minute : m.minute < 60
  second : m.second < 60
  fraction_length : m.fraction.length ≤ 9
  fraction_digits : ∀ c ∈ m.fraction, isAsciiDigit c = true
  offset : m.offset.IsPossible

/-- **The instant of a moment:** the days since the start of 1970, the time of day, and the offset
taken off. -/
def Moment.instant (m : Moment) : Instant where
  seconds := ((m.date.elapsedDays : Int) - Date.unixEpoch.elapsedDays) * 86400 +
    ((m.hour * 3600 + m.minute * 60 + m.second : Nat) : Int) - m.offset.seconds
  nanos := m.nanos

/-! ## Words -/

/-- The names of the months. -/
def monthWords : List (List Char) :=
  ["January".toList, "February".toList, "March".toList, "April".toList, "May".toList,
   "June".toList, "July".toList, "August".toList, "September".toList, "October".toList,
   "November".toList, "December".toList]

/-- The name of a month, in full or its three letters. -/
def monthWord (full : Bool) (month : Nat) : List Char :=
  let word := monthWords.getD (month - 1) []
  if full then word else word.take 3

/-- The names of the weekdays by three letters. -/
def weekdayWords : List (List Char) :=
  ["Mon".toList, "Tue".toList, "Wed".toList, "Thu".toList, "Fri".toList, "Sat".toList,
   "Sun".toList]

/-- The weekday of a date, counted on from the first of January of the year 0, a Saturday. -/
def Date.weekdayWord (date : Date) : List Char :=
  weekdayWords.getD ((date.elapsedDays + 5) % 7) []

/-! ## Parts -/

/-- A day, or a month, of one digit may have a zero in front. -/
def dayText (padded : Bool) (day : Nat) : List Char :=
  if padded then paddedNumeral 2 day else numeral day

/-- A year of four digits. -/
def Date.yearText (date : Date) : List Char := paddedNumeral 4 date.year.toNat

/-- Hours and minutes. -/
def Moment.clockText (m : Moment) : List Char :=
  paddedNumeral 2 m.hour ++ ':' :: paddedNumeral 2 m.minute

/-- The seconds and the colon before them. -/
def Moment.secondText (m : Moment) : List Char := ':' :: paddedNumeral 2 m.second

/-- The point and the fraction of a second, if there is one. -/
def Moment.fractionText (m : Moment) : List Char :=
  if m.fraction = [] then [] else '.' :: m.fraction

/-- An offset, with or without a colon. -/
def Offset.text (offset : Offset) (colon : Bool) : List Char :=
  (if offset.behind then '-' else '+') :: (paddedNumeral 2 offset.hours ++
    ((if colon then [':'] else []) ++ paddedNumeral 2 offset.minutes))

/-! ## Dates alone -/

/-- The ways to write a date. -/
inductive DateStyle where
  /-- `2024-03-01` -/
  | dashed
  /-- `2024/03/01` -/
  | slashed
  /-- `01.03.2024` -/
  | dotted
  /-- `March 1, 2024` or `Mar 01, 2024` -/
  | monthFirst (full padded : Bool)
  /-- `1 March 2024` or `01 Mar 2024` -/
  | dayFirst (full padded : Bool)
  deriving DecidableEq, Repr

/-- Year, month and day with a separator. -/
def Date.yearFirstText (date : Date) (separator : Char) : List Char :=
  date.yearText ++ separator :: (paddedNumeral 2 date.month ++ separator ::
    paddedNumeral 2 date.day)

/-- The text of a date. -/
def DateStyle.text (style : DateStyle) (date : Date) : List Char :=
  match style with
  | .dashed => date.yearFirstText '-'
  | .slashed => date.yearFirstText '/'
  | .dotted => paddedNumeral 2 date.day ++ '.' :: (paddedNumeral 2 date.month ++ '.' ::
      date.yearText)
  | .monthFirst full padded => monthWord full date.month ++ ' ' :: (dayText padded date.day ++
      ',' :: ' ' :: date.yearText)
  | .dayFirst full padded => dayText padded date.day ++ ' ' :: (monthWord full date.month ++
      ' ' :: date.yearText)

/-- Does the style write the name of the month? -/
def DateStyle.isNamed : DateStyle → Bool
  | .monthFirst _ _ | .dayFirst _ _ => true
  | _ => false

/-- The dates that a style can write, whether there are such dates or not: years of four digits,
months and days of two, or the months that have a name. -/
structure DateStyle.CanWrite (style : DateStyle) (date : Date) : Prop where
  first_year : 0 ≤ date.year
  last_year : date.year ≤ 9999
  month : date.month < 100
  day : date.day < 100
  name : style.isNamed = true → 1 ≤ date.month ∧ date.month ≤ 12

/-! ## Moments in writing -/

/-- What stands between a date and a time. -/
inductive Separator where
  | letter | blank
  deriving DecidableEq, Repr

/-- The character of a separator. -/
def Separator.char : Separator → Char
  | .letter => 'T'
  | .blank => ' '

/-- The ways to write the distance from UTC after a time. -/
inductive ZoneStyle where
  /-- `Z`, for a clock that shows UTC. -/
  | zulu
  /-- `+02:00` -/
  | colon
  /-- `+0200` -/
  | plain
  deriving DecidableEq, Repr

/-- The text of a zone. -/
def ZoneStyle.text (zone : ZoneStyle) (offset : Offset) : List Char :=
  match zone with
  | .zulu => ['Z']
  | .colon => offset.text true
  | .plain => offset.text false

/-- The ways to write a moment. -/
inductive Style where
  /-- `2024-03-01T12:30:00.25+02:00` -/
  | zoned (separator : Separator) (zone : ZoneStyle)
  /-- `2024-03-01 12:30:00.25`, or `2024-03-01 12:30` -/
  | zoneless (separator : Separator) (seconds : Bool)
  /-- `2024/03/01 12:30:00` -/
  | slashed
  /-- `Fri, 01 Mar 2024 12:30:00 +0200`, with or without the weekday and the seconds -/
  | mail (weekday padded seconds : Bool)
  /-- A date without a time. -/
  | dateAlone (style : DateStyle)
  deriving DecidableEq, Repr

/-- The text of a moment. -/
def Style.text (style : Style) (m : Moment) : List Char :=
  match style with
  | .zoned separator zone => m.date.yearFirstText '-' ++ separator.char :: (m.clockText ++
      (m.secondText ++ (m.fractionText ++ zone.text m.offset)))
  | .zoneless separator seconds => m.date.yearFirstText '-' ++ separator.char :: (m.clockText ++
      if seconds then m.secondText ++ m.fractionText else [])
  | .slashed => m.date.yearFirstText '/' ++ ' ' :: (m.clockText ++ m.secondText)
  | .mail weekday padded seconds =>
      (if weekday then m.date.weekdayWord ++ [',', ' '] else []) ++ (dayText padded m.date.day ++
        ' ' :: (monthWord false m.date.month ++ ' ' :: (m.date.yearText ++ ' ' :: (m.clockText ++
          ((if seconds then m.secondText else []) ++ ' ' :: m.offset.text false)))))
  | .dateAlone style => style.text m.date

/-- The moment that a text means: a part that is not written is zero, and without an offset the time
is in UTC. -/
def Style.shown (style : Style) (m : Moment) : Moment :=
  match style with
  | .zoned _ .zulu => m.inUtc
  | .zoned _ _ => m
  | .zoneless _ true => m.inUtc
  | .zoneless _ false => m.wholeMinute.inUtc
  | .slashed => m.wholeSecond.inUtc
  | .mail _ _ true => m.wholeSecond
  | .mail _ _ false => m.wholeMinute
  | .dateAlone _ => m.date.midnight

/-! ## Possible moments -/

namespace Moment.IsPossible

variable {m : Moment}

theorem inUtc (possible : m.IsPossible) : m.inUtc.IsPossible :=
  { possible with offset := Offset.isPossible_utc }

theorem wholeSecond (possible : m.IsPossible) : m.wholeSecond.IsPossible :=
  { possible with
    fraction_length := Nat.zero_le 9
    fraction_digits := fun _ mem => absurd mem List.not_mem_nil }

theorem wholeMinute (possible : m.IsPossible) : m.wholeMinute.IsPossible :=
  { possible.wholeSecond with second := Nat.zero_lt_succ 59 }

theorem midnight (possible : m.IsPossible) : m.date.midnight.IsPossible :=
  { possible.wholeMinute.inUtc with
    hour := Nat.zero_lt_succ 23
    minute := Nat.zero_lt_succ 59 }

/-- A moment without the parts that a style leaves out is possible too. -/
theorem shown (possible : m.IsPossible) (style : Style) : (style.shown m).IsPossible := by
  cases style with
  | zoned separator zone =>
    cases zone with
    | zulu => exact possible.inUtc
    | colon => exact possible
    | plain => exact possible
  | zoneless separator seconds =>
    cases seconds with
    | true => exact possible.inUtc
    | false => exact possible.wholeMinute.inUtc
  | slashed => exact possible.wholeSecond.inUtc
  | mail weekday padded seconds =>
    cases seconds with
    | true => exact possible.wholeSecond
    | false => exact possible.wholeMinute
  | dateAlone style => exact possible.midnight

end Moment.IsPossible

/-! ## The readings of moments -/

/-- What the text of a moment says, part by part. -/
def Moment.reading (m : Moment) : Reading where
  year := m.date.year
  month := m.date.month
  day := m.date.day
  hour := m.hour
  minute := m.minute
  second := m.second
  nanos := m.nanos
  offset := m.offset.seconds

theorem Moment.reading_inUtc (m : Moment) : m.inUtc.reading = m.reading.local := by
  have no_offset : m.inUtc.offset.seconds = 0 := Offset.seconds_utc
  rw [Moment.reading, no_offset]
  rfl

theorem Moment.reading_wholeSecond (m : Moment) :
    m.wholeSecond.reading = { m.reading with nanos := 0 } := by
  have no_nanos : m.wholeSecond.nanos = 0 := Moment.nanos_eq_zero rfl
  rw [Moment.reading, no_nanos]
  rfl

theorem Moment.reading_wholeMinute (m : Moment) :
    m.wholeMinute.reading = { m.reading with second := 0, nanos := 0 } := by
  have no_nanos : m.wholeMinute.nanos = 0 := Moment.nanos_eq_zero rfl
  rw [Moment.reading, no_nanos]
  rfl

theorem Date.reading_midnight (date : Date) :
    date.midnight.reading = ⟨date.year, date.month, date.day, 0, 0, 0, 0, 0⟩ := by
  have no_nanos : date.midnight.nanos = 0 := Moment.nanos_eq_zero rfl
  have no_offset : date.midnight.offset.seconds = 0 := Offset.seconds_utc
  rw [Moment.reading, no_nanos, no_offset]
  rfl

theorem Offset.IsPossible.seconds_bounds {offset : Offset} (possible : offset.IsPossible) :
    -86400 < offset.seconds ∧ offset.seconds < 86400 := by
  obtain ⟨hours, minutes⟩ := possible
  unfold Offset.seconds
  split <;> omega

/-- **The reading of a possible moment is its instant.** -/
theorem Moment.IsPossible.instant?_reading {m : Moment} (possible : m.IsPossible) :
    m.reading.instant? = some m.instant := by
  obtain ⟨first_year, last_year, valid, hour, minute, second, -, -, offset⟩ := possible
  have day_eq := Date.dayNumber_eq_elapsedDays valid first_year
  have day_bounds := Date.dayNumber_bounds valid ⟨first_year, last_year⟩
  have offset_bounds := offset.seconds_bounds
  have no_leap : min m.second 59 = m.second := by omega
  have instant_eq : m.reading.instant = m.instant := by
    have seconds_eq : m.reading.instant.seconds = m.instant.seconds := by
      show m.date.dayNumber * 86400 + ((m.hour * 3600 + m.minute * 60 + min m.second 59 : Nat) : Int)
        - m.offset.seconds = m.instant.seconds
      rw [no_leap, day_eq]
      rfl
    have nanos_eq : m.reading.instant.nanos = m.instant.nanos := by
      show m.nanos + (m.second - min m.second 59) * secondNanos = m.nanos
      rw [no_leap, Nat.sub_self, Nat.zero_mul, Nat.add_zero]
    exact Instant.mk.injEq .. ▸ ⟨seconds_eq, nanos_eq⟩
  have first : Date.earliest.dayNumber = -96465292 := by decide
  have last : Date.latest.dayNumber = 95026236 := by decide
  -- the years of four digits are far from the ends of the supported range
  have in_range (r : Reading) (same_date : r.date = m.date) (same_time : r.hour = m.hour ∧
      r.minute = m.minute) (bounds : -86400 < r.offset ∧ r.offset < 86400) :
      r.instant.isSupported = true := by
    simp only [Instant.isSupported, Reading.instant, same_date, same_time, first, last, daySeconds,
      Bool.and_eq_true, decide_eq_true_eq]
    omega
  have supported : m.reading.instant.isSupported = true :=
    in_range m.reading rfl ⟨rfl, rfl⟩ offset_bounds
  have local_supported : m.reading.local.instant.isSupported = true :=
    in_range m.reading.local rfl ⟨rfl, rfl⟩ (Offset.isPossible_utc).seconds_bounds
  have time : m.reading.hasTime = true := by
    have second_le : m.second ≤ 60 := by omega
    simp [Reading.hasTime, Moment.reading, hour, minute, second_le]
  have date : m.reading.date.isValid = true := valid
  rw [Reading.instant?, date, time, local_supported, supported, instant_eq]
  rfl

/-- There is no instant on a date that there is not. -/
theorem Reading.instant?_of_not_isValid {r : Reading} (impossible : r.date.isValid = false) :
    r.instant? = none := by
  rw [Reading.instant?, impossible]
  rfl

end Intake.Calendar
