import Intake.Calendar.Reading

/-!
# The dates of mail headers

The form `Fri, 01 Mar 2024 12:30:00 +0000`: perhaps a weekday, which then has to be the right one; a
day, a month's three letters, a year of two digits or more; hours, minutes and perhaps seconds; a
zone by offset or by one of the old names. Comments in round brackets may follow.
-/

namespace Intake.Calendar

open Intake.Text

/-- The zones that are known by a name, and their offsets from UTC in hours. -/
def zoneNames : List (List Char × Int) :=
  [("gmt".toList, 0), ("ut".toList, 0), ("edt".toList, -4), ("est".toList, -5),
   ("cdt".toList, -5), ("cst".toList, -6), ("mdt".toList, -6), ("mst".toList, -7),
   ("pdt".toList, -7), ("pst".toList, -8)]

/-- The offset in seconds of a zone by its name, in small letters. The single letters once stood for
zones too, but were so often wrong that all of them, `j` apart, now count as UTC. -/
def zoneOffset? (name : List Char) : Option Int :=
  match zoneNames.lookup name with
  | some hours => some (hours * 3600)
  | none =>
    match name with
    | [letter] => if letter ≠ 'j' then some 0 else none
    | _ => none

/-- Is the character a letter from `a` to `z` of either case? -/
def isAsciiLetter (c : Char) : Bool := ('a' ≤ c && c ≤ 'z') || ('A' ≤ c && c ≤ 'Z')

/-- Reads an offset without a colon; here a minus is always the plain hyphen. -/
def readPlainOffset : List Char → Option (Int × List Char)
  | c :: rest => if c = minusSign then none else readOffset some (c :: rest)
  | [] => none

/-- Reads a zone. -/
def readMailZone (cs : List Char) : Option (Int × List Char) :=
  let name := cs.takeWhile isAsciiLetter
  if name = [] then readPlainOffset cs
  else (zoneOffset? (name.map Char.toLower)).map fun offset => (offset, cs.drop name.length)

/-- The year that a number of so many digits means. Two digits are of this or the last century, and
three count from 1900. -/
def mailYear (digits n : Nat) : Nat :=
  if digits = 2 then (if n ≤ 49 then 2000 + n else 1900 + n)
  else if digits = 3 then 1900 + n
  else n

/-- Reads a year. -/
def readMailYear (cs : List Char) : Option (Nat × List Char) :=
  (readNumber 2 cs.length cs).map fun (n, rest) => (mailYear (cs.length - rest.length) n, rest)

/-- Reads the weekday and its comma, if the text begins with a weekday. -/
def readWeekdayName (cs : List Char) : Option (Option Nat × List Char) :=
  match readWeekday cs with
  | some (weekday, rest) => (readMark ',' rest).map fun rest => (some weekday, rest)
  | none => some (none, cs)

/-- Reads the seconds, if a colon follows. -/
def readMailSecond (cs : List Char) : Option (Nat × List Char) :=
  match readMark ':' (trimLeft cs) with
  | some rest => readNumber 2 2 rest
  | none => some (0, cs)

/-- Skips the rest of a comment that lies in so many brackets. A backslash protects the character
after it. -/
def skipComment : Nat → List Char → Option (List Char)
  | _, [] => none
  | depth, '(' :: rest => skipComment (depth + 1) rest
  | depth, ')' :: rest => if depth ≤ 1 then some rest else skipComment (depth - 1) rest
  | _, ['\\'] => none
  | depth, '\\' :: _ :: rest => skipComment depth rest
  | depth, _ :: rest => skipComment depth rest

/-- Skips the comments at the start, at most so many. -/
def skipComments : Nat → List Char → List Char
  | 0, cs => cs
  | count + 1, cs =>
    match trimLeft cs with
    | '(' :: rest =>
      match skipComment 1 rest with
      | some rest => skipComments count rest
      | none => cs
    | _ => cs

/-- Reads the date of a mail header. -/
def readMail? (cs : List Char) : Option Instant := do
  let (weekday, cs) ← readWeekdayName (trimLeft cs)
  let (day, cs) ← readNumber 1 2 (trimLeft cs)
  let cs ← readBlanks cs
  let (month, cs) ← readShortMonth cs
  let cs ← readBlanks cs
  let (year, cs) ← readMailYear cs
  let cs ← readBlanks cs
  let (hour, cs) ← readNumber 2 2 cs
  let cs ← readMark ':' (trimLeft cs)
  let (minute, cs) ← readNumber 2 2 (trimLeft cs)
  let (second, cs) ← readMailSecond cs
  let cs ← readBlanks cs
  let (offset, cs) ← readMailZone cs
  let reading : Reading := ⟨year, month, day, hour, minute, second, 0, offset⟩
  -- a weekday that is given has to be the right one
  let rightWeekday := match weekday with
    | some weekday => reading.date.weekday == weekday
    | none => true
  if rightWeekday && (skipComments cs.length cs).isEmpty then reading.instant? else none

end Intake.Calendar
