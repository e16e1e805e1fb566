import Intake.Json.Reader
import Intake.Json.Skip

/-!
# Reading JSON into types

Readers that expect a value of one kind: a string, a truth value, a list, a map, one of some names,
or a record. They go over the text once, from left to right, so the first fault in the text is the
one that is reported, whether it lies in the form or in the content.

A record is written as an object of its members, or as a list of them in their order. Members that
nobody knows are skipped, a member may not come twice, and one that is not required may be left out.
-/

namespace Intake.Json

open Intake.Text

/-! ## The wrong kind -/

/-- The fault of a value, at the front of the text, that is not of the expected kind. A value that
cannot even be told apart is a fault of its own. -/
def mistyped (expected : String) (s : List Char) : Fault :=
  let at_ (found : Found) (rest : List Char) : Fault := .here (.mismatch found expected) rest
  let word (letters : String) (found : Found) (rest : List Char) : Fault :=
    match readWord letters.toList rest with
    | .ok rest => at_ found rest
    | .error fault => fault
  match s with
  | [] => .ahead .endOfValue []
  | 'n' :: s => word "ull" .null s
  | 't' :: s => word "rue" (.bool true) s
  | 'f' :: s => word "alse" (.bool false) s
  | '"' :: s =>
    match readString s with
    | .ok (text, rest) => at_ (.string text) rest
    | .error fault => fault
  | '[' :: s => at_ .list ('[' :: s)
  | '\x7b' :: s => at_ .object ('\x7b' :: s)
  | c :: s =>
    if c = '-' ∨ isAsciiDigit c then
      match readNumber (c :: s) with
      | .ok (n, rest) => at_ (foundNumber .number n) rest
      | .error fault => fault
    else .ahead .expectedValue (c :: s)

/-! ## Simple kinds -/

/-- Expects a string. -/
def stringReader (expected : String) : Reader String := fun s =>
  match skipSpace s with
  | '"' :: s => readString s
  | s => .error (mistyped expected s)

/-- Expects a string. -/
def aString : Reader String := stringReader "a string"

/-- Expects a truth value. -/
def aBool : Reader Bool := fun s =>
  match skipSpace s with
  | 't' :: s => do return (true, ← readWord "rue".toList s)
  | 'f' :: s => do return (false, ← readWord "alse".toList s)
  | s => .error (mistyped "a boolean" s)

/-- Expects a value or null. -/
def optional {α : Type} (reader : Reader α) : Reader (Option α) := fun s =>
  match skipSpace s with
  | 'n' :: s => do return (none, ← readWord "ull".toList s)
  | s => do
    let (a, s) ← reader s
    return (some a, s)

/-- Expects a list, where so many more brackets may be opened. -/
def aList {α : Type} (depth : Nat) (item : Reader α) : Reader (List α) := fun s =>
  match skipSpace s with
  | '[' :: s => if depth = 0 then .error (.ahead .tooDeep ('[' :: s)) else readListBody item s
  | s => .error (mistyped "a sequence" s)

/-- Reads the entries of a map up to the brace that ends it, at most so many. -/
def readEntries {α : Type} (value : Reader α) : Nat → Bool → Reader (List (String × α))
  | 0, _, s => .error (.here .endOfObject s)
  | fuel + 1, first, s => do
    match ← nextKey first s with
    | (none, s) => return ([], s)
    | (some key, s) =>
      let s ← readColon s
      let (a, s) ← value s
      let (entries, s) ← readEntries value fuel false s
      return ((key, a) :: entries, s)

/-- Expects a map from keys to values. -/
def aMap {α : Type} (depth : Nat) (value : Reader α) : Reader (List (String × α)) := fun s =>
  match skipSpace s with
  | '\x7b' :: s =>
    if depth = 0 then .error (.ahead .tooDeep ('\x7b' :: s))
    else do
      let (entries, s) ← readEntries value (s.length + 1) true s
      return (entries, ← closeObject s)
  | s => .error (mistyped "a map" s)

/-! ## Names -/

/-- The value of a name, or the fault of not being one of the known ones. -/
def nameValue {α : Type} (known : List (String × α)) (name : String) (rest : List Char) :
    Except Fault (α × List Char) :=
  match known.lookup name with
  | some a => .ok (a, rest)
  | none => .error (.here (.unknownName name (known.map (·.1))) rest)

/-- Expects one of some names as a string. -/
def nameReader {α : Type} (known : List (String × α)) : Reader α := fun s => do
  let (name, s) ← stringReader "variant identifier" s
  nameValue known name s

/-- Expects nothing but null. -/
def aUnit : Reader Unit := fun s =>
  match skipSpace s with
  | 'n' :: s => do return ((), ← readWord "ull".toList s)
  | s => .error (mistyped "unit" s)

/-- Expects one of some names: as a string, or as the key of an object whose only value is null. -/
def oneOf {α : Type} (depth : Nat) (known : List (String × α)) : Reader α := fun s =>
  match skipSpace s with
  | [] => .error (.ahead .endOfValue [])
  | '"' :: s => nameReader known ('"' :: s)
  | '\x7b' :: s =>
    if depth = 0 then .error (.ahead .tooDeep ('\x7b' :: s))
    else do
      let (a, s) ← nameReader known s
      let s ← readColon s
      let (_, s) ← aUnit s
      match skipSpace s with
      | [] => .error (.here .endOfObject [])
      | '\x7d' :: s => return (a, s)
      | s => .error (.here .expectedValue s)
  | s => .error (.ahead .expectedValue s)

/-! ## Records -/

/-- A member of a record that is collected in a draft of type `σ`. -/
structure Member (σ : Type) where
  key : String
  required : Bool
  isSet : σ → Bool
  read : σ → Reader σ

/-- A kind of record: its title and its members in order. -/
structure Shape (σ : Type) where
  title : String
  members : List (Member σ)

/-- What is expected of a record that is written as a list. -/
def Shape.expected {σ : Type} (shape : Shape σ) : String :=
  let count := shape.members.length
  shape.title ++ " with " ++ String.ofList (numeral count) ++
    (if count = 1 then " element" else " elements")

/-- Reads the members of a record written as an object, at most so many. -/
def Shape.readKeyed {σ : Type} (shape : Shape σ) : Nat → Bool → σ → Reader σ
  | 0, _, _, s => .error (.here .endOfObject s)
  | fuel + 1, first, draft, s => do
    match ← nextKey first s with
    | (none, s) =>
      match shape.members.find? fun m => m.required && !m.isSet draft with
      | some m => .error (.here (.missingMember m.key) s)
      | none => return (draft, s)
    | (some key, s) =>
      match shape.members.find? fun m => m.key == key with
      | some m =>
        if m.isSet draft then .error (.here (.repeatedMember key) s)
        else
          let s ← readColon s
          let (draft, s) ← m.read draft s
          shape.readKeyed fuel false draft s
      | none =>
        let s ← readColon s
        let s ← skipValue s
        shape.readKeyed fuel false draft s

/-- Reads the members of a record written as a list. -/
def Shape.readListed {σ : Type} (shape : Shape σ) :
    List (Member σ) → Nat → Bool → σ → Reader σ
  | [], _, _, draft, s => .ok (draft, s)
  | m :: members, index, first, draft, s => do
    let (more, s) ← nextItem first s
    if more then
      let (draft, s) ← m.read draft s
      shape.readListed members (index + 1) false draft s
    else if m.required then .error (.here (.wrongLength index shape.expected) s)
    else shape.readListed members (index + 1) first draft s

/-- Expects a record, onto a draft of it. -/
def Shape.read {σ : Type} (shape : Shape σ) (depth : Nat) (draft : σ) : Reader σ := fun s =>
  match skipSpace s with
  | '[' :: s =>
    if depth = 0 then .error (.ahead .tooDeep ('[' :: s))
    else do
      let (draft, s) ← shape.readListed shape.members 0 true draft s
      return (draft, ← closeList s)
  | '\x7b' :: s =>
    if depth = 0 then .error (.ahead .tooDeep ('\x7b' :: s))
    else do
      let (draft, s) ← shape.readKeyed (s.length + 1) true draft s
      return (draft, ← closeObject s)
  | s => .error (mistyped shape.title s)

/-- Carries the value of a reader over. -/
def Reader.map {α β : Type} (f : α → β) (reader : Reader α) : Reader β := fun s => do
  let (a, s) ← reader s
  return (f a, s)

/-- A member that has to be there. -/
def Member.needed {σ α : Type} (key : String) (get : σ → Option α) (set : σ → α → σ)
    (reader : Reader α) : Member σ where
  key := key
  required := true
  isSet draft := (get draft).isSome
  read draft := reader.map (set draft)

/-- A member that may be left out. -/
def Member.free {σ α : Type} (key : String) (get : σ → Option α) (set : σ → α → σ)
    (reader : Reader α) : Member σ where
  key := key
  required := false
  isSet draft := (get draft).isSome
  read draft := reader.map (set draft)

end Intake.Json
