import Intake.Proofs.Json.Typed
import Intake.Schema.Codec

/-!
# Fields that are written and read again

A field that was read is restored from what is written of it (`readField_restores`). What is written
is never deeper than what was read: sub-fields lie below two brackets each, a field that was read
fits into the room that it was read in (`readField_gives`), and its text needs no more.
-/

namespace Intake.Schema

open Intake.Json

/-! ## Fields -/

/-- The field can be read where so many more brackets may be opened: one for the field, and one more
for the list of its sub-fields, if it has any. -/
inductive Field.Fits : Nat → Field → Prop
  | intro {depth : Nat} {field : Field} (inner : ∀ sub ∈ field.subFields, Fits (depth - 1) sub) :
      Fits (depth + 1) field

/-- A field needs room. -/
theorem Field.Fits.room {depth : Nat} {field : Field} (h : field.Fits depth) : 0 < depth := by
  cases h with
  | intro inner => exact Nat.succ_pos _

theorem fieldsToJson_eq_map (fields : List Field) :
    fieldsToJson fields = fields.map Field.toJson := by
  induction fields with
  | nil => rfl
  | cons field rest ih => rw [fieldsToJson, ih, List.map_cons]

theorem lookup_typesByName (type : FieldType) : typesByName.lookup type.name = some type := by
  cases type <;> decide

/-- The member of sub-fields, which is written only if there are some. -/
def subFieldsMember (fields : List Field) : List (String × Json) :=
  if fields = [] then [] else [("fields", .array (fieldsToJson fields))]

/-- The members of a field, as they are written. -/
def Field.members (field : Field) : List (String × Json) :=
  ("name", .string field.name) ::
    (optionalMember "type" (fun type => .string type.name) field.type ++
      (subFieldsMember field.subFields ++
        (optionalMember "ignore_malformed" .bool field.ignoreMalformed ++
          optionalMember "include_in_aggregate" .bool field.includeInAggregate)))

theorem Field.toJson_eq (field : Field) : field.toJson = .object field.members := by
  obtain ⟨name, type, subFields, ignoreMalformed, includeInAggregate⟩ := field
  cases subFields <;> simp [Field.toJson, Field.members, subFieldsMember, fieldsToJson]

/-- The draft that is full: what is not written is not known. -/
def FieldDraft.ofField (field : Field) : FieldDraft where
  name := some field.name
  type := field.type.map some
  subFields := if field.subFields = [] then none else some field.subFields
  ignoreMalformed := field.ignoreMalformed.map some
  includeInAggregate := field.includeInAggregate.map some

theorem FieldDraft.field_ofField (field : Field) : (ofField field).field = field := by
  obtain ⟨name, type, subFields, ignoreMalformed, includeInAggregate⟩ := field
  cases type <;> cases subFields <;> cases ignoreMalformed <;> cases includeInAggregate <;> rfl

/-- **The members of a field fill its draft**, if its sub-fields are restored. -/
theorem fieldShape_fills (depth : Nat) {subFields : Reader (List Field)} (field : Field)
    (restores : field.subFields ≠ [] →
      subFields.Restores (.array (fieldsToJson field.subFields)) field.subFields) :
    (fieldShape depth subFields).Fills .empty field.members (.ofField field) := by
  obtain ⟨name, type, subs, ignoreMalformed, includeInAggregate⟩ := field
  have type_fills : (fieldShape depth subFields).Fills ⟨some name, none, none, none, none⟩
      (optionalMember "type" (fun type => .string type.name) type)
      ⟨some name, type.map some, none, none, none⟩ := by
    cases type with
    | none => exact .nil _
    | some type =>
      have read := optional_restores (oneOf_restores depth (lookup_typesByName type)) nofun
      exact .cons rfl rfl (Member.free_restores read _) (.nil _)
  have subs_fill : (fieldShape depth subFields).Fills ⟨some name, type.map some, none, none, none⟩
      (subFieldsMember subs)
      ⟨some name, type.map some, if subs = [] then none else some subs, none, none⟩ := by
    unfold subFieldsMember
    split
    · exact .nil _
    · next some_left =>
      exact .cons rfl rfl (Member.free_restores (restores some_left) _) (.nil _)
  have ignore_fills (subs? : Option (List Field)) : (fieldShape depth subFields).Fills
      ⟨some name, type.map some, subs?, none, none⟩
      (optionalMember "ignore_malformed" .bool ignoreMalformed)
      ⟨some name, type.map some, subs?, ignoreMalformed.map some, none⟩ := by
    cases ignoreMalformed with
    | none => exact .nil _
    | some flag =>
      have read := optional_restores (aBool_restores flag) (by cases flag <;> nofun)
      exact .cons rfl rfl (Member.free_restores read _) (.nil _)
  have include_fills (subs? : Option (List Field)) : (fieldShape depth subFields).Fills
      ⟨some name, type.map some, subs?, ignoreMalformed.map some, none⟩
      (optionalMember "include_in_aggregate" .bool includeInAggregate)
      ⟨some name, type.map some, subs?, ignoreMalformed.map some,
        includeInAggregate.map some⟩ := by
    cases includeInAggregate with
    | none => exact .nil _
    | some flag =>
      have read := optional_restores (aBool_restores flag) (by cases flag <;> nofun)
      exact .cons rfl rfl (Member.free_restores read _) (.nil _)
  refine .cons rfl rfl (Member.needed_restores (aString_restores name) _) ?_
  exact type_fills.append (subs_fill.append ((ignore_fills _).append (include_fills _)))

/-- A list of fields is restored, if each of them is. -/
theorem readFields_restores {depth : Nat} (room : 0 < depth) {fields : List Field}
    (restores : ∀ field ∈ fields, (readField (depth - 1)).Restores field.toJson field) :
    (readFields depth).Restores (.array (fieldsToJson fields)) fields := by
  obtain ⟨depth, rfl⟩ := Nat.exists_eq_add_one_of_ne_zero (Nat.ne_of_gt room)
  have items : List.Forall₂ (readField depth).Restores (fields.map Field.toJson) fields :=
    List.forall₂_map_left_iff.mpr (List.forall₂_same.mpr restores)
  rw [fieldsToJson_eq_map]
  exact aList_restores room items

/-- **A field that fits is restored.** -/
theorem readField_restores {depth : Nat} {field : Field} (fits : field.Fits depth) :
    (readField depth).Restores field.toJson field := by
  induction fits with
  | @intro depth field inner ih =>
    have sub_fields : field.subFields ≠ [] →
        (readFields depth).Restores (.array (fieldsToJson field.subFields)) field.subFields := by
      intro some_left
      obtain ⟨sub, mem⟩ := List.exists_mem_of_ne_nil _ some_left
      exact readFields_restores (Nat.lt_of_lt_of_le (inner sub mem).room (Nat.sub_le depth 1)) ih
    have record := Shape.read_restores (Nat.succ_pos depth)
      (fieldShape_fills depth field sub_fields) rfl
    have whole := record.map FieldDraft.field
    rw [FieldDraft.field_ofField, ← Field.toJson_eq] at whole
    exact whole

/-- **A field that was read fits** into the room that it was read in. -/
theorem readField_gives (depth : Nat) :
    (readField depth).Gives (Field.Fits depth) ∧
      (readFields depth).Gives fun fields => ∀ field ∈ fields, field.Fits (depth - 1) := by
  induction depth with
  | zero =>
    constructor
    · exact (Shape.read_zero_gives _ _ fun _ => False).map nofun
    · exact aList_zero_gives _ _
  | succ depth ih =>
    obtain ⟨field_gives, fields_give⟩ := ih
    constructor
    · -- only the sub-fields need room, and the other members leave them alone
      have keeps : (fieldShape depth (readFields depth)).Keeps fun draft =>
          ∀ fields, draft.subFields = some fields → ∀ field ∈ fields, field.Fits (depth - 1) := by
        intro m mem draft kept
        simp only [fieldShape, List.mem_cons, List.not_mem_nil, or_false] at mem
        rcases mem with rfl | rfl | rfl | rfl | rfl
        · exact Member.needed_gives (Reader.gives_any _) fun _ _ => kept
        · exact Member.free_gives (Reader.gives_any _) fun _ _ => kept
        · refine Member.free_gives fields_give ?_
          intro fields fit fields' same
          obtain rfl := Option.some.inj same
          exact fit
        · exact Member.free_gives (Reader.gives_any _) fun _ _ => kept
        · exact Member.free_gives (Reader.gives_any _) fun _ _ => kept
      have start : ∀ fields, FieldDraft.empty.subFields = some fields →
          ∀ field ∈ fields, field.Fits (depth - 1) := by simp [FieldDraft.empty]
      refine (Shape.read_gives keeps (depth + 1) start).map fun draft fit => .intro ?_
      cases known : draft.subFields with
      | none => simp [FieldDraft.field, known]
      | some fields => simpa [FieldDraft.field, known] using fit fields known
    · exact aList_gives (depth + 1) field_gives

end Intake.Schema
