import Intake.Coercion
import Intake.Proofs.Coercion.Visible

/-!
# What tolerance changes

A field that ignores malformed values answers as the same field does that minds them, except that
its refusals of malformed values become drops (`coerce_tolerant`). What is unsupported stays so
(`coerce_unsupported`).
-/

namespace Intake

open Intake.Schema Intake.Calendar

namespace Schema.Field

/-- The same field, ignoring malformed values. -/
def tolerant (field : Field) : Field := { field with ignoreMalformed := some true }

theorem tolerant_ignoresMalformed (field : Field) : field.tolerant.ignoresMalformed = true := rfl

/-- The same field, which may have been made to ignore malformed values. -/
def RelaxedTo (field relaxed : Field) : Prop := relaxed = field ∨ relaxed = field.tolerant

/-- A relaxed field that minds malformed values has not been changed. -/
theorem RelaxedTo.eq_of_strict {field relaxed : Field} (h : field.RelaxedTo relaxed)
    (strict : relaxed.ignoresMalformed = false) : relaxed = field := by
  rcases h with same | rfl
  · exact same
  · cases strict

end Schema.Field

/-! ## Answers beside each other -/

/-- Is the error about a malformed value? -/
def IngestError.isMalformed : IngestError → Bool
  | .malformed .. => true
  | _ => false

/-- An answer of a strict field or build, and the one of its tolerant counterpart: they fail alike
or give related values, but where the strict one fails for a malformed value, anything may come. -/
inductive Tolerates {α β : Type} (R : α → β → Prop) :
    Except IngestError α → Except IngestError β → Prop where
  | failed (error : IngestError) : Tolerates R (.error error) (.error error)
  | given {a : α} {b : β} (related : R a b) : Tolerates R (.ok a) (.ok b)
  | tolerated {field typeName value : String} {fault : Option ValueFault}
      (answer : Except IngestError β) :
      Tolerates R (.error (.malformed field typeName value fault)) answer

namespace Tolerates

variable {α β γ δ : Type} {R : α → β → Prop} {S : γ → δ → Prop}

/-- What is done next is tolerant too. -/
theorem bind {first : Except IngestError α} {first' : Except IngestError β}
    {next : α → Except IngestError γ} {next' : β → Except IngestError δ}
    (h : Tolerates R first first') (h' : ∀ a b, R a b → Tolerates S (next a) (next' b)) :
    Tolerates S (first >>= next) (first' >>= next') := by
  cases h with
  | failed error => exact .failed error
  | given related => exact h' _ _ related
  | tolerated => exact .tolerated _

end Tolerates

/-! ## One field -/

section

variable {α : Type} (render : Rendering α) (dates : DatePolicy) (field : Field)

/-- A drop in place of the refusal of a malformed value. -/
def BecomesDrop (strict tolerant : Except IngestError (Option α)) : Prop :=
  (∃ raw fault, strict = .error (.malformed field.name field.typeName raw fault)) ∧
    tolerant = .ok none

theorem reject_tolerant (raw : String) (fault : Option ValueFault) :
    (reject field.tolerant raw fault : Except IngestError (Option α)) = reject field raw fault ∨
      BecomesDrop field (reject field raw fault : Except IngestError (Option α))
        (reject field.tolerant raw fault) := by
  have dropped : (reject field.tolerant raw fault : Except IngestError (Option α)) = .ok none :=
    if_pos field.tolerant_ignoresMalformed
  rw [dropped]
  unfold reject
  split
  · exact .inl rfl
  · exact .inr ⟨⟨raw, fault, rfl⟩, rfl⟩

theorem coerceAs_tolerant (type : FieldType) (raw trimmed : String) :
    coerceAs render dates field.tolerant type raw trimmed =
        coerceAs render dates field type raw trimmed ∨
      BecomesDrop field (coerceAs render dates field type raw trimmed)
        (coerceAs render dates field.tolerant type raw trimmed) := by
  cases type <;> simp only [coerceAs]
  case text | keyword => exact .inl trivial
  case geoPoint | integerRange | longRange | floatRange | doubleRange | dateRange => exact .inl rfl
  all_goals
    split
    · exact .inl rfl
    · exact reject_tolerant field raw _

/-- **Tolerance turns refusals of malformed values into drops**, and changes nothing else. -/
theorem coerce_tolerant (raw : String) :
    coerce render dates field.tolerant raw = coerce render dates field raw ∨
      BecomesDrop field (coerce render dates field raw)
        (coerce render dates field.tolerant raw) := by
  have type_eq : field.tolerant.type = field.type := rfl
  unfold coerce
  rw [type_eq]
  split
  · exact .inl rfl
  · split
    · exact .inl rfl
    · next type _ => exact coerceAs_tolerant render dates field type raw _

variable {field}

/-- What tolerance leaves alone or turns into a drop is tolerated. -/
theorem Schema.Field.RelaxedTo.tolerates {relaxed : Field} (h : field.RelaxedTo relaxed)
    (answer : Field → Except IngestError (Option α))
    (tolerant : answer field.tolerant = answer field ∨
      BecomesDrop field (answer field) (answer field.tolerant)) :
    Tolerates Eq (answer field) (answer relaxed) := by
  have same (strict : Except IngestError (Option α)) : Tolerates Eq strict strict := by
    cases strict with
    | error error => exact .failed error
    | ok value? => exact .given rfl
  rcases h with rfl | rfl
  · exact same _
  · rcases tolerant with unchanged | ⟨⟨_, _, refused⟩, -⟩
    · rw [unchanged]
      exact same _
    · rw [refused]
      exact .tolerated _

/-- The types that can be declared but hold no values. -/
def unsupportedTypes : List FieldType :=
  [.geoPoint, .integerRange, .longRange, .floatRange, .doubleRange, .dateRange]

/-- **A type that holds no values is refused always**, but for blank texts, whatever the flag. -/
theorem coerce_unsupported (flag : Option Bool) {type : FieldType}
    (declared : field.type = some type) (unsupported : type ∈ unsupportedTypes) {raw : String}
    (visible : Text.isBlankText raw = false) :
    coerce render dates { field with ignoreMalformed := flag } raw =
      .error (.unsupportedType field.name type) := by
  rw [coerce, if_neg (by simp [visible]), declared]
  cases type with
  | geoPoint | integerRange | longRange | floatRange | doubleRange | dateRange => rfl
  | _ => exact absurd unsupported (by decide)

end

end Intake
