/-!
# Fields

A field is a named, typed element of a mapping. Its two flags have three states: set, cleared and not
mentioned; the last behaves like cleared, and is written back as not mentioned.
-/

namespace Intake.Schema

/-- The types a field may declare. Points and ranges can be declared but hold no values. -/
inductive FieldType where
  | binary | boolean | date
  | byte | short | integer | long
  | double | float
  | text | keyword
  | geoPoint
  | integerRange | longRange | floatRange | doubleRange | dateRange
  deriving DecidableEq, Repr, Inhabited

/-- The name of a type in schema texts and messages. -/
def FieldType.name : FieldType → String
  | .binary => "binary"
  | .boolean => "boolean"
  | .date => "date"
  | .byte => "byte"
  | .short => "short"
  | .integer => "integer"
  | .long => "long"
  | .double => "double"
  | .float => "float"
  | .text => "text"
  | .keyword => "keyword"
  | .geoPoint => "geo_point"
  | .integerRange => "integer_range"
  | .longRange => "long_range"
  | .floatRange => "float_range"
  | .doubleRange => "double_range"
  | .dateRange => "date_range"

/-- All types, in the order in which messages list them. -/
def FieldType.all : List FieldType :=
  [.binary, .boolean, .date, .byte, .short, .integer, .long, .double, .float, .text, .keyword,
   .geoPoint, .integerRange, .longRange, .floatRange, .doubleRange, .dateRange]

theorem FieldType.mem_all (type : FieldType) : type ∈ FieldType.all := by
  cases type <;> decide

/-- A named, typed element of a mapping. A field without a type takes any text as it is. -/
structure Field where
  name : String
  type : Option FieldType
  subFields : List Field
  ignoreMalformed : Option Bool
  includeInAggregate : Option Bool
  deriving Repr, Inhabited

namespace Field

/-- A field of a type. -/
def ofType (name : String) (type : FieldType) : Field := ⟨name, some type, [], none, none⟩

/-- A field without a type. -/
def untyped (name : String) : Field := ⟨name, none, [], none, none⟩

/-- The name of the declared type. -/
def typeName (field : Field) : String :=
  match field.type with
  | some type => type.name
  | none => "untyped"

/-- Are malformed values dropped instead of refused? -/
def ignoresMalformed (field : Field) : Bool := field.ignoreMalformed.getD false

/-- Do the values take part in the aggregate text? -/
def isAggregated (field : Field) : Bool := field.includeInAggregate.getD false

end Field

end Intake.Schema
