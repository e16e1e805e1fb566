import Intake.Error
import Intake.Json.Basic
import Intake.Numeral.Float
import Intake.Numeral.Shortest
import Intake.Text.Utf8

/-!
# Coercion

Coercion turns the raw text of a scalar into a value of its field's type. Blank text is no value; a
field without a type takes the text as it is; for all others the blanks around the text go, and what
is left has to be of the type. A text that is not is dropped if the field ignores malformed values
and refused otherwise; a type that holds no values is refused always.

What a value looks like is up to a `Rendering`: `textRendering` gives the texts that documents hold,
`typedRendering` gives typed values. Both follow the same decisions.
-/

namespace Intake

open Intake.Schema Intake.Numeral Intake.Calendar Intake.Text

/-- What to make of an accepted scalar. Next to the value comes the text it was read from, without
the blanks around it. -/
structure Rendering (α : Type) where
  /-- A scalar of a field without a type, with all its blanks. -/
  untyped : String → α
  binary : String → List UInt8 → α
  boolean : String → Bool → α
  date : String → Instant → α
  integer : String → Int → α
  float : String → Binary → α
  text : String → α

/-! ## The decisions -/

/-- The words for true, in small letters. -/
def trueWords : List (List Char) :=
  ["true".toList, "t".toList, "yes".toList, "y".toList, "on".toList, "1".toList]

/-- The words for false, in small letters. -/
def falseWords : List (List Char) :=
  ["false".toList, "f".toList, "no".toList, "n".toList, "off".toList, "0".toList]

/-- Reads a truth value from one of its words, in letters of either case. -/
def readBoolean? (cs : List Char) : Option Bool :=
  let word := cs.map Char.toLower
  if trueWords.contains word then some true
  else if falseWords.contains word then some false
  else none

/-- What comes of a scalar that is not of its field's type: nothing, if the field ignores malformed
values, and otherwise an error that quotes the raw text. -/
def reject {α : Type} (field : Field) (raw : String) (fault : Option ValueFault) :
    Except IngestError (Option α) :=
  if field.ignoresMalformed then .ok none
  else .error (.malformed field.name field.typeName raw fault)

/-- Reads a floating-point number whose magnitude rounds to a finite number of `format`; the value
is always read with 64 bits. -/
def readFiniteFloat (format : Format) (cs : List Char) : Except (Option ValueFault) Binary :=
  match readFloat? cs with
  | none => .error (some .float)
  | some .word => .error none
  | some (.literal number) =>
    match format.round number.value, binary64.round number.value with
    | some _, some x => .ok x
    | _, _ => .error none

/-- Coerces a scalar that is not blank for a field of a type. -/
def coerceAs {α : Type} (render : Rendering α) (dates : DatePolicy) (field : Field)
    (type : FieldType) (raw trimmed : String) : Except IngestError (Option α) :=
  let integer (bits : Nat) : Except IngestError (Option α) :=
    match readInt bits trimmed.toList with
    | .ok n => .ok (some (render.integer trimmed n))
    | .error fault => reject field raw (some (.integer fault))
  let float (format : Format) : Except IngestError (Option α) :=
    match readFiniteFloat format trimmed.toList with
    | .ok x => .ok (some (render.float trimmed x))
    | .error fault => reject field raw fault
  match type with
  | .binary =>
    match Base64.decode (utf8 trimmed) with
    | .ok bytes => .ok (some (render.binary trimmed bytes))
    | .error fault => reject field raw (some (.base64 fault))
  | .boolean =>
    match readBoolean? trimmed.toList with
    | some value => .ok (some (render.boolean trimmed value))
    | none => reject field raw none
  | .date =>
    match readDate dates trimmed.toList with
    | .ok instant => .ok (some (render.date trimmed instant))
    | .error fault => reject field raw (some (.date fault))
  | .byte => integer 8
  | .short => integer 16
  | .integer => integer 32
  | .long => integer 64
  | .float => float binary32
  | .double => float binary64
  | .text | .keyword => .ok (some (render.text trimmed))
  | .geoPoint | .integerRange | .longRange | .floatRange | .doubleRange | .dateRange =>
    .error (.unsupportedType field.name type)

/-- Coerces a scalar for a field. -/
def coerce {α : Type} (render : Rendering α) (dates : DatePolicy) (field : Field) (raw : String) :
    Except IngestError (Option α) :=
  if isBlankText raw then .ok none
  else
    match field.type with
    | none => .ok (some (render.untyped raw))
    | some type => coerceAs render dates field type raw (trim raw)

/-! ## Texts -/

/-- The word for a truth value. -/
def boolText (value : Bool) : String := if value then "true" else "false"

/-- The texts that documents hold: numbers and binary values as they were written, truth values and
dates in one form. -/
def textRendering : Rendering String where
  untyped raw := raw
  binary trimmed _ := trimmed
  boolean _ value := boolText value
  date _ instant := instant.canonical
  integer trimmed _ := trimmed
  float trimmed _ := trimmed
  text trimmed := trimmed

/-- Coerces a scalar to the text that documents hold. -/
def coerceText (dates : DatePolicy) (field : Field) (raw : String) :
    Except IngestError (Option String) :=
  coerce textRendering dates field raw

/-! ## Typed values -/

/-- A typed value. -/
inductive FieldValue where
  | binary (bytes : List UInt8)
  | boolean (value : Bool)
  | date (instant : Instant)
  | integer (value : Int)
  | float (value : Binary)
  | text (value : String)
  deriving DecidableEq, Repr

/-- Typed values of every type. -/
def typedRendering : Rendering FieldValue where
  untyped := .text
  binary _ bytes := .binary bytes
  boolean _ value := .boolean value
  date _ instant := .date instant
  integer _ value := .integer value
  float _ value := .float value
  text := .text

/-- Coerces a scalar to a typed value. -/
def coerceTyped (dates : DatePolicy) (field : Field) (raw : String) :
    Except IngestError (Option FieldValue) :=
  coerce typedRendering dates field raw

namespace FieldValue

/-- The one text of a value; binary values have none. -/
def normalized? : FieldValue → Option String
  | .binary _ => none
  | .boolean value => some (boolText value)
  | .date instant => some instant.canonical
  | .integer value => some (String.ofList (signedNumeral value))
  | .float value => some (value.literal .plain).text
  | .text value => some value

/-- The value as a 64-bit floating-point number, if it is a number. -/
def asFloat? : FieldValue → Option Binary
  | .float value => some value
  | .integer value => nearestBinary value
  | _ => none

/-- The value in JSON: bytes as a list of numbers, a date with all its digits. -/
def toJson : FieldValue → Json
  | .binary bytes => .array (bytes.map fun b => Json.ofNat b.toNat)
  | .boolean value => .bool value
  | .date instant => .string instant.precise
  | .integer value => .number (Literal.ofInt value)
  | .float value => .number (value.literal .json)
  | .text value => .string value

end FieldValue

end Intake
