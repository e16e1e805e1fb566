import Intake.Text.Utf8
import Intake.Text.Digit
import Intake.Text.Quoted

/-!
# Faults in JSON text

A fault says what is wrong and where. Where is counted in bytes: either up to the last byte taken,
or up to a byte that was only looked at. A `Refusal` has the place resolved to a line and a column
of the text.

Besides faults of the text itself there are those of its content, for texts that are read as values
of some type: a value of another kind than expected, a missing member, a name that is not among the
known ones.
-/

namespace Intake.Json

open Intake.Text

/-- What was found where something else was expected. -/
inductive Found where
  | null
  | bool (value : Bool)
  /-- An integer that fits 64 bits, by its text. -/
  | integer (text : String)
  /-- Any other number. -/
  | number
  | string (value : String)
  | list
  | object
  deriving DecidableEq, Repr

/-- The wording of what was found. -/
def Found.message : Found → String
  | .null => "null"
  | .bool true => "boolean `true`"
  | .bool false => "boolean `false`"
  | .integer text => "integer `" ++ text ++ "`"
  | .number => "number"
  | .string value => "string " ++ quoted value
  | .list => "sequence"
  | .object => "map"

/-- What can be wrong with a JSON text. -/
inductive Problem where
  | endOfValue
  | endOfList
  | endOfObject
  | endOfString
  | expectedValue
  | expectedWord
  | expectedColon
  | expectedListEnd
  | expectedObjectEnd
  | keyNotString
  | trailingComma
  | trailingText
  | invalidNumber
  | invalidEscape
  | incompleteEscape
  | loneSurrogate
  | controlCharacter
  | tooDeep
  /-- A value of another kind than expected. -/
  | mismatch (found : Found) (expected : String)
  /-- A list with too few or too many items. -/
  | wrongLength (length : Nat) (expected : String)
  | missingMember (key : String)
  | repeatedMember (key : String)
  /-- A name that is not one of the known ones. -/
  | unknownName (name : String) (known : List String)
  /-- A content that its reader refuses for a reason of its own. -/
  | refused (reason : String)
  deriving DecidableEq, Repr

/-- A name between backquotes. -/
def backquoted (name : String) : String := "`" ++ name ++ "`"

/-- The names that would have been right. -/
def knownNames : List String → String
  | [] => ""
  | [name] => backquoted name
  | [first, second] => backquoted first ++ " or " ++ backquoted second
  | names => "one of " ++ ", ".intercalate (names.map backquoted)

/-- The wording of a problem. -/
def Problem.message : Problem → String
  | .endOfValue => "EOF while parsing a value"
  | .endOfList => "EOF while parsing a list"
  | .endOfObject => "EOF while parsing an object"
  | .endOfString => "EOF while parsing a string"
  | .expectedValue => "expected value"
  | .expectedWord => "expected ident"
  | .expectedColon => "expected `:`"
  | .expectedListEnd => "expected `,` or `]`"
  | .expectedObjectEnd => "expected `,` or `\x7d`"
  | .keyNotString => "key must be a string"
  | .trailingComma => "trailing comma"
  | .trailingText => "trailing characters"
  | .invalidNumber => "invalid number"
  | .invalidEscape => "invalid escape"
  | .incompleteEscape => "unexpected end of hex escape"
  | .loneSurrogate => "lone leading surrogate in hex escape"
  | .controlCharacter => "control character (\\u0000-\\u001F) found while parsing a string"
  | .tooDeep => "recursion limit exceeded"
  | .mismatch found expected => "invalid type: " ++ found.message ++ ", expected " ++ expected
  | .wrongLength length expected =>
    "invalid length " ++ String.ofList (numeral length) ++ ", expected " ++ expected
  | .missingMember key => "missing field " ++ backquoted key
  | .repeatedMember key => "duplicate field " ++ backquoted key
  | .unknownName name known =>
    "unknown variant " ++ backquoted name ++ ", expected " ++ knownNames known
  | .refused reason => reason

/-! ## Places -/

/-- Where a fault lies. -/
inductive Place where
  /-- In the text that is left: so many bytes of it have been taken, and one more is only looked at
  if `ahead` holds. -/
  | before (rest : List Char) (taken : Nat) (ahead : Bool)
  /-- At a line and column that are known already. -/
  | exactly (line column : Nat)
  deriving DecidableEq, Repr

/-- A problem and its place. -/
structure Fault where
  problem : Problem
  place : Place
  deriving DecidableEq, Repr

/-- A problem at the next byte, which is only looked at. -/
def Fault.ahead (problem : Problem) (rest : List Char) : Fault :=
  ⟨problem, .before rest 0 true⟩

/-- A problem noticed after taking so many bytes of what is left. -/
def Fault.after (problem : Problem) (taken : Nat) (rest : List Char) : Fault :=
  ⟨problem, .before rest taken false⟩

/-- A problem noticed before taking anything more. -/
def Fault.here (problem : Problem) (rest : List Char) : Fault := .after problem 0 rest

/-- Line and column after some bytes: lines are counted from one, and the column is the number of
bytes since the last line feed. -/
def lineAndColumn (bytes : List UInt8) : Nat × Nat :=
  (bytes.count 10 + 1, (bytes.reverse.takeWhile (· != 10)).length)

/-- Line and column of a place in a text. -/
def Place.resolve (text : List Char) : Place → Nat × Nat
  | .exactly line column => (line, column)
  | .before rest taken ahead =>
    lineAndColumn
      ((encode text).take (byteSize text - byteSize rest + taken + if ahead then 1 else 0))

/-- A problem with its line and column. -/
structure Refusal where
  problem : Problem
  line : Nat
  column : Nat
  deriving DecidableEq, Repr

/-- The place that ends a message. -/
def placeText (line column : Nat) : String :=
  " at line " ++ String.ofList (numeral line) ++ " column " ++ String.ofList (numeral column)

/-- The wording of a refusal: the problem and its place. -/
def Refusal.message (r : Refusal) : String := r.problem.message ++ placeText r.line r.column

/-- The fault of a text, with its place resolved. -/
def Fault.resolve (text : List Char) (fault : Fault) : Refusal :=
  let (line, column) := fault.place.resolve text
  ⟨fault.problem, line, column⟩

end Intake.Json
