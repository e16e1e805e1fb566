import Intake.Error
import Intake.Except
import Intake.Table

/-!
# Mappings and indices

A mapping is an ordered set of fields that describes one shape of documents; no field is without a
name and no two have the same one. Beside the fields it keeps a table of their positions by name, and
finds a field through it. Adding a field changes the one and then the other (`Mapping.addField`);
`Mapping.Indexed` says that they agree.

An index keeps mappings by name. A document type without a mapping of its own falls back to the
default mapping.
-/

namespace Intake.Schema

/-- An ordered set of fields. -/
structure Mapping where
  name : String
  fields : List Field
  /-- At which position the field of each name is. -/
  positions : List (String × Nat)
  deriving Repr, Inhabited

namespace Mapping

/-- A mapping without fields. -/
def empty (name : String) : Mapping := ⟨name, [], []⟩

/-- The names of the fields, in order. -/
def names (mapping : Mapping) : List String := mapping.fields.map (·.name)

theorem length_names (mapping : Mapping) : mapping.names.length = mapping.fields.length :=
  List.length_map _

/-- The field of a name. -/
def get? (mapping : Mapping) (name : String) : Option Field :=
  (mapping.positions.lookup name).bind fun position => mapping.fields[position]?

/-- Is there a field of that name? -/
def contains (mapping : Mapping) (name : String) : Bool := (mapping.positions.lookup name).isSome

/-- The number of fields. -/
def size (mapping : Mapping) : Nat := mapping.fields.length

/-- Has the mapping no fields? -/
def isEmpty (mapping : Mapping) : Bool := mapping.fields.isEmpty

/-- The field of a name, or the error that there is none. -/
def require (mapping : Mapping) (name : String) : Except IngestError Field :=
  match mapping.get? name with
  | some field => .ok field
  | none => .error (.unknownField name mapping.name)

end Mapping

/-! ## Adding fields -/

/-- A step on a mapping, which may fail. What was done to the mapping before a failure stays done. -/
abbrev MappingM (α : Type) := ExceptT IngestError (StateM Mapping) α

/-- Runs a step on a mapping. -/
def MappingM.on {α : Type} (step : MappingM α) (mapping : Mapping) :
    Except IngestError α × Mapping :=
  StateT.run (ExceptT.run step) mapping

namespace Mapping

/-- Has the table say that the field of the name comes next. -/
def notePosition (mapping : Mapping) (name : String) : Mapping :=
  { mapping with positions := putEntry name mapping.fields.length mapping.positions }

/-- Puts a field at the end. -/
def pushField (mapping : Mapping) (field : Field) : Mapping :=
  { mapping with fields := mapping.fields ++ [field] }

theorem names_pushField (mapping : Mapping) (field : Field) :
    (mapping.pushField field).names = mapping.names ++ [field.name] :=
  List.map_append

/-- Adds a field at the end. It needs a name, and one that is not taken. -/
def addField (field : Field) : MappingM Unit := do
  let mapping ← get
  if field.name = "" then throw (.config (.unnamedField mapping.name))
  if mapping.contains field.name then
    throw (.config (.repeatedField field.name mapping.name))
  modify (·.notePosition field.name)
  modify (·.pushField field)

/-- The mapping with one more field. -/
def withField (mapping : Mapping) (field : Field) : Except IngestError Mapping :=
  match (addField field).on mapping with
  | (.ok (), added) => .ok added
  | (.error error, _) => .error error

/-- A mapping of fields, added in order. -/
def ofFields (name : String) (fields : List Field) : Except IngestError Mapping :=
  fields.foldlM withField (empty name)

/-- **What adding a field does.** A field that is refused leaves everything as it was. -/
theorem addField_on (field : Field) (mapping : Mapping) :
    (addField field).on mapping =
      if field.name = "" then (.error (.config (.unnamedField mapping.name)), mapping)
      else if mapping.contains field.name = true then
        (.error (.config (.repeatedField field.name mapping.name)), mapping)
      else (.ok (), (mapping.notePosition field.name).pushField field) := by
  by_cases unnamed : field.name = ""
  · simp only [addField, if_pos unnamed]
    rfl
  · simp only [addField, if_neg unnamed]
    show MappingM.on (if mapping.contains field.name = true then _ else _) mapping = _
    by_cases taken : mapping.contains field.name = true
    · rw [if_pos taken, if_pos taken]
      rfl
    · rw [if_neg taken, if_neg taken]
      rfl

theorem withField_eq_ok_iff {mapping added : Mapping} {field : Field} :
    mapping.withField field = .ok added ↔
      field.name ≠ "" ∧ mapping.contains field.name = false ∧
        added = (mapping.notePosition field.name).pushField field := by
  rw [withField, addField_on]
  by_cases unnamed : field.name = ""
  · simp [unnamed]
  · by_cases taken : mapping.contains field.name = true
    · simp [unnamed, taken]
    · simpa [unnamed, taken] using eq_comm

/-! ## The table of positions -/

/-- The table finds the name of every field at the position of the field, and finds no other name. -/
def Indexed (mapping : Mapping) : Prop := IsIndexOf mapping.positions mapping.names

theorem empty_indexed (name : String) : (empty name).Indexed := .nil

section

variable {mapping : Mapping} (indexed : mapping.Indexed)

include indexed

theorem Indexed.contains_iff {name : String} :
    mapping.contains name = true ↔ name ∈ mapping.names := by
  rw [contains, Option.isSome_iff_ne_none, Ne, indexed.lookup_eq_none_iff, Decidable.not_not]

/-- **A field is found by its name**, and nothing else is found. -/
theorem Indexed.get?_eq_some_iff {name : String} {field : Field} :
    mapping.get? name = some field ↔ field ∈ mapping.fields ∧ field.name = name := by
  rw [get?, Option.bind_eq_some_iff]
  constructor
  · rintro ⟨position, found, here⟩
    have named := (indexed name position).mp found
    rw [names, List.getElem?_map, here] at named
    exact ⟨List.mem_of_getElem? here, Option.some.inj named⟩
  · rintro ⟨mem, rfl⟩
    obtain ⟨position, here⟩ := List.mem_iff_getElem?.mp mem
    refine ⟨position, (indexed field.name position).mpr ?_, here⟩
    rw [names, List.getElem?_map, here]
    rfl

theorem Indexed.contains_iff_exists {name : String} :
    mapping.contains name = true ↔ ∃ field, mapping.get? name = some field := by
  rw [indexed.contains_iff, names, List.mem_map]
  exact exists_congr fun field => indexed.get?_eq_some_iff.symm

/-- **A step.** Whether a field is refused or taken, the table and the fields agree afterwards. -/
theorem Indexed.addField (field : Field) : ((addField field).on mapping).2.Indexed := by
  rw [addField_on]
  split
  · exact indexed
  · split
    · exact indexed
    · next free =>
      have fresh : field.name ∉ mapping.names := mt indexed.contains_iff.mpr free
      have grown := indexed.append fresh
      rw [length_names, ← names_pushField] at grown
      exact grown

theorem Indexed.withField {added : Mapping} {field : Field}
    (h : mapping.withField field = .ok added) : added.Indexed := by
  have after := indexed.addField field
  rw [Mapping.withField] at h
  split at h
  · next same =>
    obtain rfl := Except.ok.inj h
    rwa [same] at after
  · cases h

end

/-- **The mapping of any fields** is indexed. -/
theorem indexed_of_ofFields {name : String} {fields : List Field} {mapping : Mapping}
    (h : ofFields name fields = .ok mapping) : mapping.Indexed :=
  foldlM_induction (P := fun _ mapping => mapping.Indexed) h (empty_indexed name)
    fun _ _ _ _ _ _ added indexed => indexed.withField added

/-- **A field that was added is found by its name.** -/
theorem get?_withField_self {mapping added : Mapping} {field : Field}
    (h : mapping.withField field = .ok added) : added.get? field.name = some field := by
  obtain ⟨-, -, rfl⟩ := withField_eq_ok_iff.mp h
  simp [get?, notePosition, pushField, lookup_putEntry_self]

/-- Adding a field hides none that was there, and brings none of another name. -/
theorem get?_withField_of_ne {mapping added : Mapping} {field : Field} {name : String}
    (indexed : mapping.Indexed) (h : mapping.withField field = .ok added) (ne : name ≠ field.name) :
    added.get? name = mapping.get? name := by
  obtain ⟨-, -, rfl⟩ := withField_eq_ok_iff.mp h
  simp only [get?, notePosition, pushField, lookup_putEntry_of_ne _ _ ne]
  cases found : mapping.positions.lookup name with
  | none => rfl
  | some position =>
    have inside := (List.getElem?_eq_some_iff.mp ((indexed name position).mp found)).1
    rw [length_names] at inside
    exact List.getElem?_append_left inside

end Mapping

/-! ## Indices -/

/-- The name of the mapping that stands in for missing ones. -/
def defaultMappingName : String := "_default_"

/-- A named table of mappings. What is added is put under the name of the mapping. -/
structure IndexTable where
  name : String
  /-- The mappings, under their keys. -/
  mappings : List (String × Mapping)
  deriving Repr, Inhabited

namespace IndexTable

/-- A table without mappings. -/
def empty (name : String) : IndexTable := ⟨name, []⟩

/-- Adds a mapping under its name, or replaces the one that stands there. -/
def addMapping (table : IndexTable) (mapping : Mapping) : IndexTable :=
  { table with mappings := putEntry mapping.name mapping table.mappings }

/-- The mapping under a key. -/
def mapping? (table : IndexTable) (name : String) : Option Mapping := table.mappings.lookup name

/-- **A mapping that was added is found under its name.** -/
theorem mapping?_addMapping_self (table : IndexTable) (mapping : Mapping) :
    (table.addMapping mapping).mapping? mapping.name = some mapping :=
  lookup_putEntry_self mapping.name mapping table.mappings

/-- Adding a mapping leaves those of other names alone. -/
theorem mapping?_addMapping_of_ne (table : IndexTable) (mapping : Mapping) {name : String}
    (ne : name ≠ mapping.name) : (table.addMapping mapping).mapping? name = table.mapping? name :=
  lookup_putEntry_of_ne mapping table.mappings ne

/-- The mapping that stands in for missing ones. -/
def defaultMapping? (table : IndexTable) : Option Mapping := table.mapping? defaultMappingName

/-- The mapping for a document type: its own, or else the default one. -/
def resolve (table : IndexTable) (docType : String) : Except IngestError Mapping :=
  match (table.mapping? docType).or table.defaultMapping? with
  | some mapping => .ok mapping
  | none => .error (.unknownMapping table.name docType)

/-- Every mapping stands under its own name, no two under one, and their fields are indexed. -/
structure IsSound (table : IndexTable) : Prop where
  keyed : ∀ entry ∈ table.mappings, entry.1 = entry.2.name
  distinct : (table.mappings.map Prod.fst).Nodup
  indexed : ∀ entry ∈ table.mappings, entry.2.Indexed

theorem empty_isSound (name : String) : (empty name).IsSound where
  keyed := nofun
  distinct := List.nodup_nil
  indexed := nofun

/-- **One more mapping** keeps a table sound. -/
theorem IsSound.addMapping {table : IndexTable} (sound : table.IsSound) {mapping : Mapping}
    (indexed : mapping.Indexed) : (table.addMapping mapping).IsSound where
  keyed := forall_mem_putEntry rfl sound.keyed
  distinct := nodup_keys_putEntry sound.distinct
  indexed := forall_mem_putEntry indexed sound.indexed

theorem IsSound.indexed_of_mapping? {table : IndexTable} (sound : table.IsSound) {name : String}
    {mapping : Mapping} (found : table.mapping? name = some mapping) : mapping.Indexed :=
  sound.indexed _ ((lookup_eq_some_iff_mem sound.distinct).mp found)

theorem IsSound.indexed_of_resolve {table : IndexTable} (sound : table.IsSound) {docType : String}
    {mapping : Mapping} (resolved : table.resolve docType = .ok mapping) : mapping.Indexed := by
  unfold resolve at resolved
  split at resolved
  · next found =>
    obtain rfl := Except.ok.inj resolved
    rcases Option.or_eq_some_iff.mp found with own | ⟨-, default⟩
    · exact sound.indexed_of_mapping? own
    · exact sound.indexed_of_mapping? default
  · cases resolved

end IndexTable

/-- A named set of mappings, each under its own name: a table with what holds of it however its
mappings were added. -/
structure Index extends IndexTable where
  sound : toIndexTable.IsSound
  deriving Repr

namespace Index

/-- An index without mappings. -/
def empty (name : String) : Index := ⟨.empty name, IndexTable.empty_isSound name⟩

instance : Inhabited Index := ⟨empty ""⟩

/-- The index with one more mapping, or another one of that name. The mapping has to be one that its
fields make. -/
def withMapping (index : Index) (mapping : Mapping)
    (made : Mapping.ofFields mapping.name mapping.fields = .ok mapping) : Index :=
  ⟨index.addMapping mapping, index.sound.addMapping (Mapping.indexed_of_ofFields made)⟩

end Index

end Intake.Schema
