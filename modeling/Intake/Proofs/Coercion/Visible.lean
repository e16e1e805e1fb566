import Intake.Coercion
import Intake.Proofs.Text.Trim

/-!
# Coerced texts are visible

Blank scalars are dropped before anything else is looked at, and no reader turns what is left into
blanks: trimming leaves the first visible character, and truth words and dates are written with
visible characters of their own. So whatever a document is asked to take in, is taken in.
-/

namespace Intake

open Intake.Schema Intake.Text Intake.Calendar

/-! ## Renderings of accepted scalars -/

theorem boolText_visible (value : Bool) : isBlankText (boolText value) = false := by
  cases value <;> decide

theorem canonical_visible (t : Instant) : isBlankText t.canonical = false := by
  have zed : isBlank 'Z' = false := by decide
  rw [isBlankText, Instant.canonical, String.toList_ofList, Instant.canonicalChars,
    Instant.textWith, List.all_append]
  simp [zed]

/-- A rejected scalar gives no value. -/
theorem reject_ne_some {α : Type} {field : Field} {raw : String} {fault : Option ValueFault}
    {a : α} : reject field raw fault ≠ .ok (some a) := by
  unfold reject
  split <;> simp

theorem coerceAs_visible {dates : DatePolicy} {field : Field} {type : FieldType}
    {raw trimmed value : String} (visible : isBlankText trimmed = false)
    (h : coerceAs textRendering dates field type raw trimmed = .ok (some value)) :
    isBlankText value = false := by
  cases type <;> simp only [coerceAs] at h
  case boolean =>
    split at h
    · next word _ =>
      obtain rfl : boolText word = value := by simpa [textRendering] using h
      exact boolText_visible word
    · exact absurd h reject_ne_some
  case date =>
    split at h
    · next instant _ =>
      obtain rfl : instant.canonical = value := by simpa [textRendering] using h
      exact canonical_visible instant
    · exact absurd h reject_ne_some
  case text | keyword =>
    obtain rfl : trimmed = value := by simpa [textRendering] using h
    exact visible
  case geoPoint | integerRange | longRange | floatRange | doubleRange | dateRange => cases h
  all_goals
    split at h
    · obtain rfl : trimmed = value := by simpa [textRendering] using h
      exact visible
    · exact absurd h reject_ne_some

/-! ## Scalars of a field -/

/-- Blank scalars have no value. -/
theorem visible_of_coerceText {dates : DatePolicy} {field : Field} {raw value : String}
    (h : coerceText dates field raw = .ok (some value)) : isBlankText raw = false := by
  rw [← Bool.not_eq_true]
  intro blank
  rw [coerceText, coerce, if_pos blank] at h
  cases h

/-- Other scalars are coerced as the field's type says. -/
theorem coerce_of_visible {α : Type} (render : Rendering α) (dates : DatePolicy) {field : Field}
    {type : FieldType} (type_eq : field.type = some type) {raw : String}
    (visible : isBlankText raw = false) :
    coerce render dates field raw = coerceAs render dates field type raw (trim raw) := by
  rw [coerce, if_neg (by simp [visible]), type_eq]

theorem coerceText_of_visible (dates : DatePolicy) {field : Field} {type : FieldType}
    (type_eq : field.type = some type) {raw : String} (visible : isBlankText raw = false) :
    coerceText dates field raw = coerceAs textRendering dates field type raw (trim raw) :=
  coerce_of_visible textRendering dates type_eq visible

theorem coerceText_untyped (dates : DatePolicy) {field : Field} (type_eq : field.type = none)
    {raw : String} (visible : isBlankText raw = false) :
    coerceText dates field raw = .ok (some raw) := by
  rw [coerceText, coerce, if_neg (by simp [visible]), type_eq]
  rfl

/-- **A coerced text is never blank.** -/
theorem coerceText_visible {dates : DatePolicy} {field : Field} {raw value : String}
    (h : coerceText dates field raw = .ok (some value)) : isBlankText value = false := by
  have visible := visible_of_coerceText h
  cases type_eq : field.type with
  | none =>
    rw [coerceText_untyped dates type_eq visible] at h
    cases h
    exact visible
  | some type =>
    rw [coerceText_of_visible dates type_eq visible] at h
    exact coerceAs_visible (isBlankText_trim visible) h

end Intake
