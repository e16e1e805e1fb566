import Intake.Coercion

/-!
# How coercion fails

A scalar is refused in two ways only: as malformed, with the raw text, by a field that does not
ignore malformed values; or because the field's type holds no values at all.
-/

namespace Intake

open Intake.Schema Intake.Calendar

variable {α : Type}

theorem reject_eq_error {field : Field} {raw : String} {fault : Option ValueFault}
    {error : IngestError} (h : (reject field raw fault : Except IngestError (Option α)) = .error error) :
    field.ignoresMalformed = false ∧ error = .malformed field.name field.typeName raw fault := by
  unfold reject at h
  split at h
  · cases h
  · next strict => exact ⟨Bool.not_eq_true _ ▸ strict, (Except.error.inj h).symm⟩

/-- What an error of coercion says: the value is malformed and the field minds, or the field's type
holds no values. -/
inductive IsRefusalOf (field : Field) (raw : String) : IngestError → Prop where
  | malformed (fault : Option ValueFault) (strict : field.ignoresMalformed = false) :
      IsRefusalOf field raw (.malformed field.name field.typeName raw fault)
  | unsupported (type : FieldType) (declared : field.type = some type) :
      IsRefusalOf field raw (.unsupportedType field.name type)

theorem isRefusalOf_of_reject {field : Field} {raw : String} {fault : Option ValueFault}
    {error : IngestError}
    (h : (reject field raw fault : Except IngestError (Option α)) = .error error) :
    IsRefusalOf field raw error := by
  obtain ⟨strict, rfl⟩ := reject_eq_error h
  exact .malformed fault strict

theorem coerceAs_eq_error {render : Rendering α} {dates : DatePolicy} {field : Field}
    {type : FieldType} {raw trimmed : String} {error : IngestError}
    (declared : field.type = some type)
    (h : coerceAs render dates field type raw trimmed = .error error) :
    IsRefusalOf field raw error := by
  cases type <;> simp only [coerceAs] at h
  case text | keyword => cases h
  case geoPoint | integerRange | longRange | floatRange | doubleRange | dateRange =>
    obtain rfl := Except.error.inj h
    exact .unsupported _ declared
  all_goals
    split at h
    · cases h
    · exact isRefusalOf_of_reject h

/-- **Coercion fails as malformed or as unsupported**, and in no other way. -/
theorem coerce_eq_error {render : Rendering α} {dates : DatePolicy} {field : Field} {raw : String}
    {error : IngestError} (h : coerce render dates field raw = .error error) :
    IsRefusalOf field raw error := by
  rw [coerce] at h
  split at h
  · cases h
  · split at h
    · cases h
    · next type declared => exact coerceAs_eq_error declared h

theorem IsRefusalOf.isConfiguration_eq_false {field : Field} {raw : String} {error : IngestError}
    (h : IsRefusalOf field raw error) : error.isConfiguration = false := by
  cases h <;> rfl

end Intake
