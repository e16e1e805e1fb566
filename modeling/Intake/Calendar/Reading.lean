import Intake.Calendar.Instant
import Intake.Numeral.Literal
import Intake.Text.Blank

/-!
# Reading the parts of a date

A date text is read piece by piece from the left. Each piece takes some characters off the text and
notes what they say in a `Reading`; when all pieces are read and nothing is left over, the reading is
checked and turned into an instant.
-/

namespace Intake.Calendar

open Intake.Text

/-- What the pieces of a text have said so far. The offset from UTC is in seconds. -/
structure Reading where
  year : Int
  month : Nat
  day : Nat
  hour : Nat
  minute : Nat
  second : Nat
  nanos : Nat
  offset : Int
  deriving DecidableEq, Repr

/-- Nothing read yet: midnight UTC of a first of January. -/
def Reading.start : Reading := ⟨0, 1, 1, 0, 0, 0, 0, 0⟩

/-- The date of a reading. -/
def Reading.date (r : Reading) : Date := ⟨r.year, r.month, r.day⟩

/-- Is the time of day possible? Second sixty is a leap second. -/
def Reading.hasTime (r : Reading) : Bool := r.hour < 24 && r.minute < 60 && r.second ≤ 60

/-- The instant of a reading whose date and time are known to be possible. -/
def Reading.instant (r : Reading) : Instant :=
  let second := min r.second 59
  { seconds := r.date.dayNumber * daySeconds +
      ((r.hour * 3600 + r.minute * 60 + second : Nat) : Int) - r.offset
    nanos := r.nanos + (r.second - second) * secondNanos }

/-- The same reading in UTC. -/
def Reading.local (r : Reading) : Reading := { r with offset := 0 }

/-- The instant of a reading, if its date and time are possible and lie, both as read and in UTC, in
the supported range. -/
def Reading.instant? (r : Reading) : Option Instant :=
  if r.date.isValid && r.hasTime && r.local.instant.isSupported && r.instant.isSupported then
    some r.instant
  else none

/-! ## Numbers and names -/

/-- Reads a number of `least` to `most` digits. -/
def readNumber (least most : Nat) (cs : List Char) : Option (Nat × List Char) :=
  let digits := (cs.take most).takeWhile isAsciiDigit
  if digits.length < least then none else some (digitsValue digits, cs.drop digits.length)

/-- Reads one given character. -/
def readMark (mark : Char) : List Char → Option (List Char)
  | c :: rest => if c = mark then some rest else none
  | [] => none

/-- Reads one blank or more. -/
def readBlanks : List Char → Option (List Char)
  | c :: rest => if isBlank c then some (trimLeft rest) else none
  | [] => none

/-- Month names: the three letters that every month is known by, and what follows them in full. -/
def monthNames : List (List Char × List Char) :=
  [("jan".toList, "uary".toList), ("feb".toList, "ruary".toList), ("mar".toList, "ch".toList),
   ("apr".toList, "il".toList), ("may".toList, []), ("jun".toList, "e".toList),
   ("jul".toList, "y".toList), ("aug".toList, "ust".toList), ("sep".toList, "tember".toList),
   ("oct".toList, "ober".toList), ("nov".toList, "ember".toList), ("dec".toList, "ember".toList)]

/-- Weekday names by their three letters, from Monday. -/
def weekdayNames : List (List Char) :=
  ["mon".toList, "tue".toList, "wed".toList, "thu".toList, "fri".toList, "sat".toList,
   "sun".toList]

/-- Does the text begin with the word, in letters of either case? -/
def startsWithWord (word cs : List Char) : Bool :=
  cs.length ≥ word.length && (cs.take word.length).map Char.toLower == word

/-- Reads a three-letter month name: the number of the month. -/
def readShortMonth (cs : List Char) : Option (Nat × List Char) :=
  (monthNames.findIdx? fun name => startsWithWord name.1 cs).map fun i => (i + 1, cs.drop 3)

/-- Reads a month name, in full or by three letters. -/
def readMonth (cs : List Char) : Option (Nat × List Char) :=
  match readShortMonth cs with
  | none => none
  | some (month, rest) =>
    match monthNames[month - 1]? with
    | some (_, ending) =>
      some (month, if startsWithWord ending rest then rest.drop ending.length else rest)
    | none => some (month, rest)

/-- Reads a three-letter weekday name, Monday being 0. -/
def readWeekday (cs : List Char) : Option (Nat × List Char) :=
  (weekdayNames.findIdx? fun name => startsWithWord name cs).map fun i => (i, cs.drop 3)

/-- Reads the fraction of a second in nanoseconds. Digits beyond the ninth are dropped. -/
def readFraction : List Char → Option (Nat × List Char)
  | '.' :: rest =>
    let digits := rest.takeWhile isAsciiDigit
    if digits = [] then none
    else
      let kept := digits.take 9
      some (digitsValue kept * Numeral.tenTo (9 - kept.length), rest.dropWhile isAsciiDigit)
  | cs => some (0, cs)

/-! ## Offsets from UTC -/

/-- The minus sign of mathematical text. -/
def minusSign : Char := Char.ofNat 0x2212

/-- Reads the sign of an offset: `-1` or `1`. -/
def readOffsetSign : List Char → Option (Int × List Char)
  | c :: rest => if c = '+' then some (1, rest)
      else if c = '-' ∨ c = minusSign then some (-1, rest)
      else none
  | [] => none

/-- Reads hours and minutes of an offset, with what may stand between them taken off by `between`:
the offset in seconds, less than a day. -/
def readOffset (between : List Char → Option (List Char)) (cs : List Char) :
    Option (Int × List Char) := do
  let (sign, cs) ← readOffsetSign cs
  let (hours, cs) ← readNumber 2 2 cs
  let cs ← between cs
  let (minutes, cs) ← readNumber 2 2 cs
  if hours < 24 ∧ minutes < 60 then some (sign * ((hours * 3600 + minutes * 60 : Nat) : Int), cs)
  else none

/-- Any colons and blanks between the hours and minutes of an offset. -/
def skipColonsAndBlanks (cs : List Char) : List Char :=
  cs.dropWhile fun c => c == ':' || isBlank c

/-! ## Pieces -/

/-- The parts of a date and time that are numbers. -/
inductive Part where
  | year | month | day | hour | minute | second
  deriving DecidableEq, Repr

/-- Notes a number that was read. -/
def Reading.set (r : Reading) (part : Part) (n : Nat) : Reading :=
  match part with
  | .year => { r with year := n }
  | .month => { r with month := n }
  | .day => { r with day := n }
  | .hour => { r with hour := n }
  | .minute => { r with minute := n }
  | .second => { r with second := n }

/-- A piece of a date form. -/
inductive Piece where
  /-- Exactly this character. -/
  | mark (c : Char)
  /-- One of these characters. -/
  | oneOf (cs : List Char)
  /-- Any number of blanks, even none. -/
  | blanks
  /-- A number of exactly so many digits. -/
  | digits (part : Part) (count : Nat)
  /-- Blanks, then a number of the usual width. -/
  | number (part : Part)
  /-- The name of a month. -/
  | monthName
  /-- A point and the fraction of a second, or nothing. -/
  | fraction
  /-- `Z`, or an offset with a colon. -/
  | zone
  /-- Blanks, then an offset with or without separators. -/
  | looseZone
  deriving DecidableEq, Repr

/-- Reads a year: up to four digits, or any number of digits after a sign. -/
def readYear : List Char → Option (Int × List Char)
  | '-' :: rest => (readNumber 1 rest.length rest).map fun (n, rest) => (-(n : Int), rest)
  | '+' :: rest => (readNumber 1 rest.length rest).map fun (n, rest) => ((n : Int), rest)
  | cs => (readNumber 1 4 cs).map fun (n, rest) => ((n : Int), rest)

/-- Reads one piece. -/
def Piece.read (piece : Piece) (r : Reading) (cs : List Char) : Option (Reading × List Char) :=
  match piece with
  | .mark c => (readMark c cs).map fun rest => (r, rest)
  | .oneOf marks =>
    match cs with
    | c :: rest => if c ∈ marks then some (r, rest) else none
    | [] => none
  | .blanks => some (r, trimLeft cs)
  | .digits part count => (readNumber count count cs).map fun (n, rest) => (r.set part n, rest)
  | .number .year => (readYear (trimLeft cs)).map fun (year, rest) => ({ r with year }, rest)
  | .number part => (readNumber 1 2 (trimLeft cs)).map fun (n, rest) => (r.set part n, rest)
  | .monthName => (readMonth cs).map fun (month, rest) => ({ r with month }, rest)
  | .fraction => (readFraction cs).map fun (nanos, rest) => ({ r with nanos }, rest)
  | .zone =>
    match cs with
    | 'Z' :: rest | 'z' :: rest => some ({ r with offset := 0 }, rest)
    | _ => (readOffset (readMark ':') cs).map fun (offset, rest) => ({ r with offset }, rest)
  | .looseZone =>
    (readOffset (fun cs => some (skipColonsAndBlanks cs)) (trimLeft cs)).map
      fun (offset, rest) => ({ r with offset }, rest)

/-- A date form: the pieces that make up a text. -/
abbrev Form := List Piece

/-- Reads the pieces of a form one after the other. -/
def Form.readFrom : Form → Reading → List Char → Option (Reading × List Char)
  | [], r, cs => some (r, cs)
  | piece :: form, r, cs =>
    match piece.read r cs with
    | some (r, rest) => Form.readFrom form r rest
    | none => none

/-- Reads a whole text in a form. -/
def Form.read? (form : Form) (cs : List Char) : Option Instant :=
  match form.readFrom Reading.start cs with
  | some (r, []) => r.instant?
  | _ => none

end Intake.Calendar
