import Intake.Json.Printer
import Intake.Json.Typed
import Intake.Schema.Mapping

/-!
# Schemas as JSON

Fields and indices are written as JSON and read back. A flag or a type that is not mentioned is left
out, as is an empty list of sub-fields, and the mappings of an index are written by ascending key.
Either kind of record may also be written as a list of its members.
-/

namespace Intake.Schema

open Intake.Json

/-! ## Writing -/

/-- A member that is written only if it has a value. -/
def optionalMember {α : Type} (key : String) (write : α → Json) (value : Option α) :
    List (String × Json) :=
  match value with
  | some a => [(key, write a)]
  | none => []

mutual

/-- The JSON value of a field. -/
def Field.toJson : Field → Json
  | ⟨name, type, subFields, ignoreMalformed, includeInAggregate⟩ =>
    .object <|
      [("name", .string name)] ++
      optionalMember "type" (fun type => .string type.name) type ++
      (match subFields with
        | [] => []
        | field :: rest => [("fields", .array (field.toJson :: fieldsToJson rest))]) ++
      optionalMember "ignore_malformed" .bool ignoreMalformed ++
      optionalMember "include_in_aggregate" .bool includeInAggregate

/-- The JSON values of some fields. -/
def fieldsToJson : List Field → List Json
  | [] => []
  | field :: rest => field.toJson :: fieldsToJson rest

end

/-- The JSON value of a mapping; its name is the key it stands under. -/
def Mapping.toJson (mapping : Mapping) : Json :=
  .object [("fields", .array (fieldsToJson mapping.fields))]

/-- Puts an entry before the first one with a greater key. -/
def insertByKey (entry : String × Mapping) : List (String × Mapping) → List (String × Mapping)
  | [] => [entry]
  | head :: rest =>
    if entry.1 < head.1 then entry :: head :: rest else head :: insertByKey entry rest

/-- The entries by ascending key. -/
def sortByKey (entries : List (String × Mapping)) : List (String × Mapping) :=
  entries.foldr insertByKey []

/-- The JSON value of an index. -/
def IndexTable.toJson (table : IndexTable) : Json :=
  .object
    [("name", .string table.name),
     ("mappings", .object ((sortByKey table.mappings).map fun entry => (entry.1, entry.2.toJson)))]

/-! ## Reading fields -/

/-- The types by name. -/
def typesByName : List (String × FieldType) := FieldType.all.map fun type => (type.name, type)

/-- What is known of a field while it is read. -/
structure FieldDraft where
  name : Option String
  type : Option (Option FieldType)
  subFields : Option (List Field)
  ignoreMalformed : Option (Option Bool)
  includeInAggregate : Option (Option Bool)

/-- Nothing known yet. -/
def FieldDraft.empty : FieldDraft := ⟨none, none, none, none, none⟩

/-- The field of a finished draft. -/
def FieldDraft.field (draft : FieldDraft) : Field where
  name := draft.name.getD ""
  type := draft.type.getD none
  subFields := draft.subFields.getD []
  ignoreMalformed := draft.ignoreMalformed.getD none
  includeInAggregate := draft.includeInAggregate.getD none

/-- The members of a field, where `depth` more brackets may be opened and `subFields` reads the list
of sub-fields. -/
def fieldShape (depth : Nat) (subFields : Reader (List Field)) : Shape FieldDraft where
  title := "struct Field"
  members :=
    [.needed "name" (·.name) (fun draft name => { draft with name := some name }) aString,
     .free "type" (·.type) (fun draft type => { draft with type := some type })
       (optional (oneOf depth typesByName)),
     .free "fields" (·.subFields) (fun draft fields => { draft with subFields := some fields })
       subFields,
     .free "ignore_malformed" (·.ignoreMalformed)
       (fun draft flag => { draft with ignoreMalformed := some flag }) (optional aBool),
     .free "include_in_aggregate" (·.includeInAggregate)
       (fun draft flag => { draft with includeInAggregate := some flag }) (optional aBool)]

mutual

/-- Reads a field, where `depth` more brackets may be opened. -/
def readField : Nat → Reader Field
  | 0 =>
    ((fieldShape 0 (fun s => .error (.ahead .tooDeep s))).read 0 FieldDraft.empty).map
      FieldDraft.field
  | depth + 1 =>
    ((fieldShape depth (readFields depth)).read (depth + 1) FieldDraft.empty).map FieldDraft.field

/-- Reads a list of fields, where `depth` more brackets may be opened. -/
def readFields : Nat → Reader (List Field)
  | 0 => aList 0 (fun s => .error (.ahead .tooDeep s))
  | depth + 1 => aList (depth + 1) (readField depth)

end

/-- Reads the text of a field. -/
def Field.parse (text : String) : Except Refusal Field := readAll (readField maxDepth) text.toList

/-! ## Reading indices -/

/-- What is known of a mapping while it is read: its fields. -/
structure MappingDraft where
  fields : Option (List Field)

/-- The members of a mapping. -/
def mappingShape (depth : Nat) : Shape MappingDraft where
  title := "struct MappingRepr"
  members := [.free "fields" (·.fields) (fun _ fields => ⟨some fields⟩) (readFields depth)]

/-- Reads the fields of a mapping. -/
def readMappingFields (depth : Nat) : Reader (List Field) :=
  ((mappingShape (depth - 1)).read depth ⟨none⟩).map fun draft => draft.fields.getD []

/-- What is known of an index while it is read. -/
structure IndexDraft where
  name : Option String
  mappings : Option (List (String × List Field))

/-- The members of an index. -/
def indexShape (depth : Nat) : Shape IndexDraft where
  title := "struct IndexRepr"
  members :=
    [.needed "name" (·.name) (fun draft name => { draft with name := some name }) aString,
     .free "mappings" (·.mappings) (fun draft mappings => { draft with mappings := some mappings })
       (aMap depth (readMappingFields (depth - 1)))]

/-- The entries with the last value of every key. -/
def lastEntries {α : Type} : List (String × α) → List (String × α)
  | [] => []
  | (key, a) :: rest =>
    if rest.any fun entry => entry.1 == key then lastEntries rest else (key, a) :: lastEntries rest

/-- The table of a finished draft, if the fields of its mappings are in order. -/
def IndexDraft.table (draft : IndexDraft) : Except IngestError IndexTable :=
  (lastEntries (draft.mappings.getD [])).foldlM
    (fun table entry => do return table.addMapping (← Mapping.ofFields entry.1 entry.2))
    (IndexTable.empty (draft.name.getD ""))

/-- **The table of a draft is sound**: each mapping takes its fields one by one, and is then added
under its name. -/
theorem IndexDraft.table_isSound {draft : IndexDraft} {table : IndexTable}
    (h : draft.table = .ok table) : table.IsSound := by
  refine foldlM_induction (P := fun _ table => table.IsSound) h (IndexTable.empty_isSound _) ?_
  intro _ entry _ before next _ added sound
  obtain ⟨mapping, made, given⟩ := bind_eq_ok.mp added
  cases given
  exact sound.addMapping (Mapping.indexed_of_ofFields made)

/-- The index of a finished draft. -/
def IndexDraft.index (draft : IndexDraft) : Except IngestError Index :=
  match made : draft.table with
  | .ok table => .ok ⟨table, IndexDraft.table_isSound made⟩
  | .error error => .error error

/-- Reads an index, where `depth` more brackets may be opened. -/
def readIndex (depth : Nat) : Reader Index := fun s => do
  let (draft, s) ← (indexShape (depth - 1)).read depth ⟨none, none⟩ s
  match draft.index with
  | .ok index => return (index, s)
  | .error error => .error (.here (.refused error.message) s)

/-- Reads the text of an index. -/
def Index.parse (text : String) : Except Refusal Index := readAll (readIndex maxDepth) text.toList

end Intake.Schema
