import Intake.Proofs.Coercion.Dates

/-!
# Coercing twice

What coercion gives, it takes: the text that came out of a scalar is a scalar of the field's type,
and comes out of itself (`coerceText_idempotent`). For most types it is the text that was read,
trimmed; truth values come out as words that are truth words themselves; and a date comes out as a
text that is the text of a date, as long as its year has four digits.
-/

namespace Intake

open Intake.Schema Intake.Text Intake.Calendar

/-! ## Scalars of a type -/

/-- Whether a scalar is accepted, and as what, is told by its trimmed text; the raw text shows in
errors only. -/
theorem coerceAs_eq_some {α : Type} {render : Rendering α} {dates : DatePolicy} {field : Field}
    {type : FieldType} {raw trimmed : String} {a : α}
    (h : coerceAs render dates field type raw trimmed = .ok (some a)) (again : String) :
    coerceAs render dates field type again trimmed = .ok (some a) := by
  cases type <;> simp only [coerceAs] at h ⊢
  case text | keyword => exact h
  case geoPoint | integerRange | longRange | floatRange | doubleRange | dateRange => cases h
  all_goals
    split at h
    · exact h
    · exact absurd h reject_ne_some

/-- Scalars of most types come out as their trimmed text. -/
theorem eq_trimmed_of_coerceAs {dates : DatePolicy} {field : Field} {type : FieldType}
    {raw trimmed value : String} (no_truth : type ≠ .boolean) (no_date : type ≠ .date)
    (h : coerceAs textRendering dates field type raw trimmed = .ok (some value)) :
    value = trimmed := by
  cases type <;> simp only [coerceAs] at h
  case boolean => exact absurd rfl no_truth
  case date => exact absurd rfl no_date
  case text | keyword => exact (Option.some.inj (Except.ok.inj h)).symm
  case geoPoint | integerRange | longRange | floatRange | doubleRange | dateRange => cases h
  all_goals
    split at h
    · exact (Option.some.inj (Except.ok.inj h)).symm
    · exact absurd h reject_ne_some

/-- The word of a truth value is read as that truth value. -/
theorem readBoolean?_boolText (value : Bool) :
    readBoolean? (trim (boolText value)).toList = some value := by
  cases value <;> decide +kernel

/-! ## Scalars of a field -/

/-- The dates that a field reads from a text have years of four digits. -/
def ReadsPlainDates (dates : DatePolicy) (field : Field) (raw : String) : Prop :=
  field.type = some .date → ∀ t, readDate dates (trim raw).toList = .ok t → t.HasPlainYear

instance (dates : DatePolicy) (field : Field) (raw : String) :
    Decidable (ReadsPlainDates dates field raw) :=
  match read : readDate dates (trim raw).toList with
  | .ok t =>
    decidable_of_iff (field.type = some .date → t.HasPlainYear)
      (imp_congr_right fun _ => by rw [read]; exact ⟨fun plain _ e => Except.ok.inj e ▸ plain,
        fun plain => plain t rfl⟩)
  | .error _ => .isTrue fun _ t date_read => nomatch read.symm.trans date_read

/-- A date of a plain year comes out as the text of a date. -/
theorem coerceText_idempotent_date {dates : DatePolicy} {field : Field} {raw value : String}
    (type_eq : field.type = some .date) (plain : ReadsPlainDates dates field raw)
    (h : coerceText dates field raw = .ok (some value)) :
    coerceText dates field value = .ok (some value) := by
  obtain ⟨t, read, rfl⟩ := coerceText_eq_canonical type_eq h
  have reread : readDate dates t.canonicalChars = .ok t.truncated :=
    readDate_canonicalChars (readDate_isProper read) (plain type_eq t read) dates
  have same_text : t.truncated.canonical = t.canonical :=
    congrArg String.ofList t.canonicalChars_truncated
  rw [coerceText_canonical dates type_eq t, reread]
  exact congrArg (fun text => Except.ok (some text)) same_text

/-- A truth value comes out as one of its words. -/
theorem coerceText_idempotent_boolean {dates : DatePolicy} {field : Field} {raw value : String}
    (type_eq : field.type = some .boolean) (h : coerceText dates field raw = .ok (some value)) :
    coerceText dates field value = .ok (some value) := by
  have visible := coerceText_visible h
  rw [coerceText_of_visible dates type_eq (visible_of_coerceText h)] at h
  simp only [coerceAs] at h
  split at h
  · next word _ =>
    obtain rfl : boolText word = value := Option.some.inj (Except.ok.inj h)
    rw [coerceText_of_visible dates type_eq visible]
    simp only [coerceAs, readBoolean?_boolText]
    rfl
  · exact absurd h reject_ne_some

/-- **What coercion gives is coerced to itself** under the same policy. -/
theorem coerceText_idempotent {dates : DatePolicy} {field : Field} {raw value : String}
    (plain : ReadsPlainDates dates field raw)
    (h : coerceText dates field raw = .ok (some value)) :
    coerceText dates field value = .ok (some value) := by
  have visible := coerceText_visible h
  cases type_eq : field.type with
  | none => exact coerceText_untyped dates type_eq visible
  | some type =>
    by_cases is_date : type = .date
    · subst is_date
      exact coerceText_idempotent_date type_eq plain h
    · by_cases is_truth : type = .boolean
      · subst is_truth
        exact coerceText_idempotent_boolean type_eq h
      · rw [coerceText_of_visible dates type_eq (visible_of_coerceText h)] at h
        obtain rfl := eq_trimmed_of_coerceAs is_truth is_date h
        rw [coerceText_of_visible dates type_eq visible, trim_trim]
        exact coerceAs_eq_some h _

end Intake
