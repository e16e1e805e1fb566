import Intake.Calendar.Gregorian
import Intake.Text.Digit

/-!
# Instants

An instant is a number of whole seconds since the start of 1970 in UTC and a number of nanoseconds
on top of them. A leap second is the last second of its minute with a thousand million nanoseconds
or more.

`Instant.canonical` is the text that documents hold: date and time in UTC with milliseconds.
`Instant.precise` keeps every digit that is there.
-/

namespace Intake.Calendar

open Intake.Text

/-- A moment of time in UTC. -/
structure Instant where
  seconds : Int
  nanos : Nat
  deriving DecidableEq, Repr

/-- The seconds of a day. -/
def daySeconds : Int := 86400

/-- The nanoseconds of a second. -/
def secondNanos : Nat := 1000000000

/-- Does the instant fall on a supported date? -/
def Instant.isSupported (t : Instant) : Bool :=
  Date.earliest.dayNumber * daySeconds ≤ t.seconds &&
    t.seconds < (Date.latest.dayNumber + 1) * daySeconds

/-- The date of an instant. -/
def Instant.date (t : Instant) : Date := Date.ofDayNumber (t.seconds / daySeconds)

/-- The second of its day. -/
def Instant.secondOfDay (t : Instant) : Nat := (t.seconds % daySeconds).toNat

/-- A leap second shows as second sixty. -/
def Instant.shownSecond (t : Instant) : Nat :=
  t.secondOfDay % 60 + t.nanos / secondNanos

/-- The nanoseconds of the shown second. -/
def Instant.shownNanos (t : Instant) : Nat := t.nanos % secondNanos

/-! ## Texts -/

/-- A year: four digits from 0 to 9999, and with a sign outside of that. -/
def yearText (year : Int) : List Char :=
  if 0 ≤ year ∧ year ≤ 9999 then paddedNumeral 4 year.toNat
  else (if year < 0 then '-' else '+') :: paddedNumeral 4 year.natAbs

/-- Year, month and day. -/
def Date.text (date : Date) : List Char :=
  yearText date.year ++ '-' :: paddedNumeral 2 date.month ++ '-' :: paddedNumeral 2 date.day

/-- Hours, minutes and seconds of an instant. -/
def Instant.timeText (t : Instant) : List Char :=
  paddedNumeral 2 (t.secondOfDay / 3600) ++ ':' :: paddedNumeral 2 (t.secondOfDay / 60 % 60) ++
    ':' :: paddedNumeral 2 t.shownSecond

/-- Date and time with a given fraction of the second. -/
def Instant.textWith (t : Instant) (fraction : List Char) : List Char :=
  t.date.text ++ 'T' :: t.timeText ++ fraction ++ ['Z']

/-- The canonical characters of an instant. -/
def Instant.canonicalChars (t : Instant) : List Char :=
  t.textWith ('.' :: paddedNumeral 3 (t.shownNanos / 1000000))

/-- The canonical text of an instant, in UTC with milliseconds. -/
def Instant.canonical (t : Instant) : String := String.ofList t.canonicalChars

/-- A fraction of a second with as many groups of three digits as it needs. -/
def fractionText (nanos : Nat) : List Char :=
  if nanos = 0 then []
  else if nanos % 1000000 = 0 then '.' :: paddedNumeral 3 (nanos / 1000000)
  else if nanos % 1000 = 0 then '.' :: paddedNumeral 6 (nanos / 1000)
  else '.' :: paddedNumeral 9 nanos

/-- The text of an instant with all its digits. -/
def Instant.precise (t : Instant) : String := String.ofList (t.textWith (fractionText t.shownNanos))

/-! ## Units of time since the start of 1970 -/

/-- The instant that lies `n` units after the start of 1970, where `perSecond` units make a second.
Before that start, too, the whole seconds are rounded down. -/
def Instant.ofUnits (perSecond : Nat) (n : Int) : Instant where
  seconds := n / (perSecond : Int)
  nanos := (n % (perSecond : Int)).toNat * (secondNanos / perSecond)

end Intake.Calendar
