import Intake.Json.Printer
import Intake.Schema.Field
import Intake.Text.Blank

/-!
# Documents

A document collects the values of fields while a record is read. A field appears with its first
value, and fields keep the order in which they appeared; a field's values are distinct and keep their
order too; blank texts are no values. An index by name says at which place a field's entry stands.

As JSON, a field with one value is written as that value and a field with several as a list.
-/

namespace Intake

open Intake.Schema

/-- A field and its values. The field is the one that the first value came with. -/
structure Entry where
  field : Field
  values : List String
  deriving Repr, Inhabited

/-- Adds a value at the end. -/
def Entry.add (entry : Entry) (value : String) : Entry :=
  { entry with values := entry.values ++ [value] }

/-- The values collected so far, with an index by the names of the fields. -/
structure Document where
  entries : List Entry
  /-- At which place the entry of each name stands. -/
  positions : List (String × Nat)
  deriving Repr, Inhabited

namespace Document

/-- A document without values. -/
def empty : Document := ⟨[], []⟩

/-- Takes every value out, and every name out of the index. -/
def clear (doc : Document) : Document := { doc with entries := [], positions := [] }

/-- The values at a place. -/
def valuesAt (doc : Document) (position : Nat) : List String :=
  match doc.entries[position]? with
  | some entry => entry.values
  | none => []

/-- Adds an entry for a field that has none. -/
def addEntry (doc : Document) (field : Field) (value : String) : Document where
  entries := doc.entries ++ [⟨field, [value]⟩]
  positions := doc.positions ++ [(field.name, doc.entries.length)]

/-- Adds a value for a field, unless it is blank or there already; the answer says whether it was
added. -/
def push (doc : Document) (field : Field) (value : String) : Document × Bool :=
  if Text.isBlankText value then (doc, false)
  else
    match doc.positions.lookup field.name with
    | some position =>
      if (doc.valuesAt position).contains value then (doc, false)
      else ({ doc with entries := doc.entries.modify position (·.add value) }, true)
    | none => (doc.addEntry field value, true)

/-- The values of a field. -/
def get? (doc : Document) (name : String) : Option (List String) :=
  (doc.positions.lookup name).map doc.valuesAt

/-- The first value of a field. -/
def first? (doc : Document) (name : String) : Option String :=
  (doc.get? name).bind List.head?

/-- Has the field a value? -/
def contains (doc : Document) (name : String) : Bool := (doc.positions.lookup name).isSome

/-- The names of the fields that have values, in order. -/
def names (doc : Document) : List String := doc.entries.map (·.field.name)

/-- The number of fields that have values. -/
def size (doc : Document) : Nat := doc.entries.length

/-- Has no field a value? -/
def isEmpty (doc : Document) : Bool := doc.entries.isEmpty

/-! ## Pushing and clearing -/

theorem clear_eq_empty (doc : Document) : doc.clear = empty := rfl

theorem push_of_isBlankText {value : String} (doc : Document) (field : Field)
    (h : Text.isBlankText value = true) : doc.push field value = (doc, false) := by
  simp [push, h]

end Document

namespace Document

/-! ## The aggregate text -/

/-- The values of all fields that take part in the aggregate text. -/
def aggregated (doc : Document) : List String :=
  (doc.entries.filter fun entry => entry.field.isAggregated).flatMap (·.values)

end Document

/-- Adds a value to an aggregate text, after a space if there is any text before it. -/
def appendValue (buffer value : String) : String :=
  if buffer = "" then value else buffer ++ " " ++ value

namespace Document

/-- Adds the values that take part in the aggregate text to it. -/
def appendAggregate (doc : Document) (buffer : String) : String :=
  doc.aggregated.foldl appendValue buffer

/-! ## The document line -/

/-- The JSON value of a field's values. -/
def valuesToJson : List String → Json
  | [value] => .string value
  | values => .array (values.map .string)

/-- The JSON value of a document. -/
def toJson (doc : Document) : Json :=
  .object (doc.entries.map fun entry => (entry.field.name, valuesToJson entry.values))

/-- The document as one line of text. -/
def line (doc : Document) : String := doc.toJson.text

end Document

end Intake
