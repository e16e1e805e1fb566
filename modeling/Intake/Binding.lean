import Intake.Schema.Mapping
import Intake.Text.Blank

/-!
# Bindings

A binding says which source paths feed which fields: it turns the declarations "this field is read
from that path" around. Paths come in the order in which they are first declared, and so do the
fields of each path. While declarations are gone through, a table says in which slot of the list the
binding of each path is (`BoundPaths`).

A binding is made once for a mapping and then used for any number of documents.
-/

namespace Intake

open Intake.Schema

/-- A source path and the fields that it feeds. -/
structure PathBinding where
  path : String
  fields : List Field
  deriving Repr, Inhabited

/-- The keys that a path is made of, with dots between them. -/
def pathSegments (path : String) : List String :=
  (Text.splitAtEach (· == '.') path.toList).map String.ofList

/-- The keys of a bound path. -/
def PathBinding.segments (binding : PathBinding) : List String := pathSegments binding.path

/-- The source paths of a mapping and the fields that they feed. -/
structure Binding where
  index : String
  mapping : String
  paths : List PathBinding
  deriving Repr, Inhabited

/-- Adds a field, unless one of its name is there. -/
def addDistinct (field : Field) (fields : List Field) : List Field :=
  if fields.any fun f => f.name == field.name then fields else fields ++ [field]

/-- The paths that are bound while declarations are gone through. -/
structure BoundPaths where
  paths : List PathBinding
  /-- In which slot the binding of each path is. -/
  slots : List (String × Nat)
  deriving Repr, Inhabited

namespace BoundPaths

/-- No path is bound yet. -/
def empty : BoundPaths := ⟨[], []⟩

/-- The slot of a path. A path that has none gets one at the end. -/
def slotOf (bound : BoundPaths) (path : String) : Nat × BoundPaths :=
  match bound.slots.lookup path with
  | some slot => (slot, bound)
  | none =>
    let paths := bound.paths ++ [⟨path, []⟩]
    (paths.length - 1, ⟨paths, putEntry path (paths.length - 1) bound.slots⟩)

/-- Has the path in a slot feed one more field. -/
def feedFrom (bound : BoundPaths) (slot : Nat) (field : Field) : BoundPaths :=
  { bound with
    paths := bound.paths.modify slot fun p => { p with fields := addDistinct field p.fields } }

/-- Binds a field to a path. -/
def bindPath (bound : BoundPaths) (field : Field) (path : String) : BoundPaths :=
  let (slot, bound) := bound.slotOf path
  bound.feedFrom slot field

end BoundPaths

namespace Binding

/-- Adds one declaration: the field has to be in the mapping, and the path must not be empty. -/
def declare (mapping : Mapping) (bound : BoundPaths) (declaration : String × String) :
    Except IngestError BoundPaths := do
  let field ← mapping.require declaration.1
  if declaration.2 = "" then .error (.config (.emptyPath declaration.1))
  else .ok (bound.bindPath field declaration.2)

/-- The declarations: fields with their paths, and fields that are read from the path of their own
name. -/
def declarations (associations : List (String × String)) (identity : List String) :
    List (String × String) :=
  associations ++ identity.map fun name => (name, name)

/-- Derives the binding of a document type from its declarations. -/
def derive (index : Index) (docType : String) (associations : List (String × String))
    (identity : List String) : Except IngestError Binding := do
  let mapping ← index.resolve docType
  let bound ← (declarations associations identity).foldlM (declare mapping) .empty
  return ⟨index.name, mapping.name, bound.paths⟩

/-- The fields that a path feeds. -/
def fieldsFor (binding : Binding) (path : String) : List Field :=
  match binding.paths.find? fun p => p.path == path with
  | some p => p.fields
  | none => []

/-- Every field that is fed by some path, in the order of the paths. -/
def targets (binding : Binding) : List Field :=
  (binding.paths.flatMap (·.fields)).foldl (fun fields field => addDistinct field fields) []

end Binding

end Intake
