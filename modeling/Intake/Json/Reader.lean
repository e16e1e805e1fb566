import Intake.Json.Basic
import Intake.Json.Scan

/-!
# Reading JSON values

`Json.read` reads a whole text as one value. Lists and objects may be nested to a fixed depth. A key
that comes up again gives its member a new value.

An object whose first key is the number marker stands for a number: its only value is the number's
text. Objects read `asWritten` keep repeated keys and give the marker no meaning.
-/

namespace Intake.Json

open Intake.Numeral

/-- How deep lists and objects may be nested. -/
def maxDepth : Nat := 127

/-- The key that marks an object as a number. -/
def numberMarker : String := "$serde_json::private::Number"

/-! ## Numbers in disguise -/

/-- Reads a text that has to be a number from end to end. -/
def readNumberText (text : List Char) : Except Fault Literal :=
  match text with
  | [] => .error (.ahead .endOfValue [])
  | c :: _ =>
    if c = '-' ∨ Text.isAsciiDigit c then
      match readNumber text with
      | .ok (n, []) => .ok n
      | .ok (_, rest) => .error (.ahead .invalidNumber rest)
      | .error ⟨problem, .before rest taken ahead⟩ =>
        if taken < Text.byteSize rest then .error ⟨.invalidNumber, .before rest taken true⟩
        else .error ⟨problem, .before rest taken ahead⟩
      | .error fault => .error fault
    else .error (.ahead .invalidNumber text)

/-- Is the literal an integer that fits 64 bits? Minus zero is not one. -/
def isSmallInteger (n : Literal) : Bool :=
  n.fraction.isNone && n.exponent.isNone &&
    (let magnitude := n.value.coefficient
     if n.negative then 0 < magnitude && magnitude ≤ twoTo 63 else magnitude < twoTo 64)

/-- What a number counts as when something else was expected. -/
def foundNumber (other : Found) (n : Literal) : Found :=
  if isSmallInteger n then .integer n.text else other

/-- What is expected after the number marker. -/
def markedNumberExpected : String := "string containing a number"

/-- A value of the wrong kind after the number marker. -/
def markedMismatch (found : Found) (rest : List Char) : Fault :=
  .here (.mismatch found markedNumberExpected) rest

/-- Skips what a list of the wrong kind lets pass before the fault is placed. -/
def skipListStart (s : List Char) : List Char :=
  match skipSpace s with
  | ']' :: s => s
  | ',' :: s => skipSpace s
  | s => s

/-- Skips what an object of the wrong kind lets pass before the fault is placed. -/
def skipObjectStart (s : List Char) : List Char :=
  match skipSpace s with
  | '\x7d' :: s => s
  | s => s

/-- Reads the text of a number after the number marker and its colon. -/
def readMarkedNumber (depth : Nat) : Reader Literal := fun s =>
  match skipSpace s with
  | [] => .error (.ahead .endOfValue [])
  | '"' :: s => do
    let (text, s) ← readString s
    match readNumberText text.toList with
    | .ok n => .ok (n, s)
    | .error fault =>
      let r := fault.resolve text.toList
      .error ⟨r.problem, .exactly r.line r.column⟩
  | 'n' :: s => do
    let s ← readWord "ull".toList s
    .error (markedMismatch .null s)
  | 't' :: s => do
    let s ← readWord "rue".toList s
    .error (markedMismatch (.bool true) s)
  | 'f' :: s => do
    let s ← readWord "alse".toList s
    .error (markedMismatch (.bool false) s)
  | '[' :: s =>
    if depth = 0 then .error (.ahead .tooDeep ('[' :: s))
    else .error (markedMismatch .list (skipListStart s))
  | '\x7b' :: s =>
    if depth = 0 then .error (.ahead .tooDeep ('\x7b' :: s))
    else .error (markedMismatch .object (skipObjectStart s))
  | c :: s =>
    if c = '-' ∨ Text.isAsciiDigit c then do
      let (n, s) ← readNumber (c :: s)
      .error (markedMismatch (foundNumber .object n) s)
    else .error (.ahead .expectedValue (c :: s))

/-! ## Values -/

/-- Reads a value, given readers for lists and objects that begin at their bracket. -/
def readWith (list object : Reader Json) : Reader Json := fun s =>
  match skipSpace s with
  | [] => .error (.ahead .endOfValue [])
  | 'n' :: s => do return (.null, ← readWord "ull".toList s)
  | 't' :: s => do return (.bool true, ← readWord "rue".toList s)
  | 'f' :: s => do return (.bool false, ← readWord "alse".toList s)
  | '"' :: s => do
    let (text, s) ← readString s
    return (.string text, s)
  | '[' :: s => list ('[' :: s)
  | '\x7b' :: s => object ('\x7b' :: s)
  | c :: s =>
    if c = '-' ∨ Text.isAsciiDigit c then do
      let (n, s) ← readNumber (c :: s)
      return (.number n, s)
    else .error (.ahead .expectedValue (c :: s))

/-- Adds a member that was read to those before it. -/
def addMember (asWritten : Bool) (key : String) (value : Json) (members : List (String × Json)) :
    List (String × Json) :=
  if asWritten then members ++ [(key, value)] else putEntry key value members

/-- Reads the members of an object up to the brace that ends it, at most so many, onto those before
them. -/
def readMembers (asWritten : Bool) (value : Reader Json) :
    Nat → Bool → List (String × Json) → Reader (List (String × Json))
  | 0, _, _, s => .error (.here .endOfObject s)
  | fuel + 1, first, members, s => do
    match ← nextKey first s with
    | (none, s) => return (members, s)
    | (some key, s) =>
      let s ← readColon s
      let (v, s) ← value s
      readMembers asWritten value fuel false (addMember asWritten key v members) s

/-- Reads an object after its opening brace. -/
def readObjectBody (asWritten : Bool) (depth : Nat) (value : Reader Json) : Reader Json := fun s => do
  match ← nextKey true s with
  | (none, s) => return (.object [], ← closeObject s)
  | (some key, s) =>
    let s ← readColon s
    if key = numberMarker ∧ asWritten = false then
      let (n, s) ← readMarkedNumber depth s
      return (.number n, ← closeObject s)
    else
      let (v, s) ← value s
      let (members, s) ← readMembers asWritten value (s.length + 1) false [(key, v)] s
      return (.object members, ← closeObject s)

/-- Reads a value whose lists and objects are nested at most so deep. -/
def readValue (asWritten : Bool) : Nat → Reader Json
  | 0 => readWith (fun s => .error (.ahead .tooDeep s)) (fun s => .error (.ahead .tooDeep s))
  | depth + 1 =>
    readWith
      (fun s => do
        let (items, s) ← readListBody (readValue asWritten depth) (s.drop 1)
        return (.array items, s))
      (fun s => readObjectBody asWritten depth (readValue asWritten depth) (s.drop 1))

/-- Reads a JSON text. -/
def read (text : String) : Except Refusal Json := readAll (readValue false maxDepth) text.toList

end Intake.Json
