import Intake.Calendar.Form
import Intake.Calendar.Mail
import Intake.Numeral.Integer

/-!
# Recognising dates

A date text is read by the first form that takes the whole of it. Texts that begin like a date with
the year first are tried in the forms of that kind, others as the date of a mail header, and both
then as a date alone.

A sign and up to nineteen digits are not a date text but a number of seconds, milliseconds or
microseconds since the start of 1970, told apart by the number of digits. Whether such numbers are
read at all is a matter of policy.
-/

namespace Intake.Calendar

open Intake.Text Intake.Numeral

/-- Whether numbers count as dates. -/
inductive DatePolicy where
  /-- Only texts in a date form are dates. -/
  | textOnly
  /-- Numbers of seconds, milliseconds and microseconds are dates too. -/
  | textOrEpoch
  deriving DecidableEq, Repr, Inhabited

/-- Why a text is no date. -/
inductive DateFault where
  | unrecognized
  | epochOutOfRange (text : String)
  deriving DecidableEq, Repr

/-- The wording of a date fault. -/
def DateFault.message : DateFault → String
  | .unrecognized => "unrecognized date format"
  | .epochOutOfRange text => s!"epoch value {text} out of range"

/-! ## Texts -/

/-- Tries readers in order. -/
def firstOf (readers : List (List Char → Option Instant)) (cs : List Char) : Option Instant :=
  readers.findSome? fun read => read cs

/-- Reads a date and a time that begin with the year. -/
def readYearFirst? (cs : List Char) : Option Instant :=
  firstOf (internetForm.read? :: (offsetForms ++ zonelessForms).map Form.read?) cs

/-- Reads a date alone. -/
def readDateAlone? (cs : List Char) : Option Instant := firstOf (dateForms.map Form.read?) cs

/-- Is the character a separator of dates with the year first? -/
def isDateSeparator (c : Char) : Bool := c == '-' || c == '/'

/-- Cuts off one or two decimal digits of any script and the separator after them. -/
def dropMonthAndSeparator : List Char → Option (List Char)
  | a :: b :: rest =>
    if isDecimalDigit a then
      if isDateSeparator b then some rest
      else if isDecimalDigit b then
        match rest with
        | c :: rest => if isDateSeparator c then some rest else none
        | [] => none
      else none
    else none
  | _ => none

/-- Does the text begin like a date with the year first: four digits, a month and a first digit of
the day, with separators between them? -/
def beginsWithYear : List Char → Bool
  | a :: b :: c :: d :: separator :: rest =>
    [a, b, c, d].all isDecimalDigit && isDateSeparator separator &&
      (match dropMonthAndSeparator rest with
        | some (day :: _) => isDecimalDigit day
        | _ => false)
  | _ => false

/-- Reads a date text. -/
def readDateText? (cs : List Char) : Option Instant :=
  (if beginsWithYear cs then readYearFirst? cs else readMail? cs).or (readDateAlone? cs)

/-! ## Numbers -/

/-- The digits of a number that may count units since the start of 1970: one to nineteen decimal
digits of any script, perhaps after a sign. -/
def epochDigits? (cs : List Char) : Option (List Char) :=
  let digits := match cs with
    | '+' :: rest | '-' :: rest => rest
    | _ => cs
  if digits ≠ [] ∧ digits.length ≤ 19 ∧ digits.all isDecimalDigit then some digits else none

/-- How many units make a second in a number of so many digits. -/
def epochUnit? (digits : Nat) : Option Nat :=
  if digits ≤ 10 then some 1
  else if digits ≤ 13 then some 1000
  else if digits ≤ 16 then some 1000000
  else none

/-- Reads a number of units since the start of 1970. -/
def readEpoch? (cs digits : List Char) : Option Instant :=
  match readInt 64 cs, epochUnit? digits.length with
  | .ok n, some unit => some (Instant.ofUnits unit n)
  | _, _ => none

/-! ## Dates -/

/-- Reads a date. -/
def readDate (policy : DatePolicy) (cs : List Char) : Except DateFault Instant :=
  match epochDigits? cs with
  | some digits =>
    match policy with
    | .textOnly => .error .unrecognized
    | .textOrEpoch =>
      match readEpoch? cs digits with
      | some t => .ok t
      | none => .error (.epochOutOfRange (String.ofList cs))
  | none =>
    match readDateText? cs with
    | some t => .ok t
    | none => .error .unrecognized

end Intake.Calendar
