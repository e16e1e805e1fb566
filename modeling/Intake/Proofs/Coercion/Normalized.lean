import Intake.Proofs.Coercion.Typed
import Intake.Proofs.Numeral.Finite

/-!
# The one text of a number

A document holds a number as it was written; its typed value knows the number only, and has one text
for it. That text is a plain numeral of the value, with its shortest digits, and coerces to itself
and to the value. So it is the text that was written just if that is a plain numeral of the same
number (`normalized_of_coerceTyped`): a plus sign, a needless zero, a power of ten, digits beyond
the shortest or, in an integer, a minus sign before zero are not kept.
-/

namespace Intake

open Intake.Schema Intake.Numeral Intake.Calendar Intake.Text

/-- The types of fields that hold numbers. -/
def numberTypes : List FieldType := [.byte, .short, .integer, .long, .float, .double]

/-! ## Two kinds of fields -/

/-- Coercion for a field of integers of a width. -/
def coerceInteger {α : Type} (render : Rendering α) (bits : Nat) (field : Field)
    (raw trimmed : String) : Except IngestError (Option α) :=
  match readInt bits trimmed.toList with
  | .ok n => .ok (some (render.integer trimmed n))
  | .error fault => reject field raw (some (.integer fault))

/-- Coercion for a field of floating-point numbers of a format. -/
def coerceFloat {α : Type} (render : Rendering α) (format : Format) (field : Field)
    (raw trimmed : String) : Except IngestError (Option α) :=
  match readFiniteFloat format trimmed.toList with
  | .ok x => .ok (some (render.float trimmed x))
  | .error fault => reject field raw fault

/-- Fields of the type hold integers of so many bits. -/
def HoldsIntegers (type : FieldType) (bits : Nat) : Prop :=
  ∀ {α : Type} (render : Rendering α) (dates : DatePolicy) (field : Field) (raw trimmed : String),
    coerceAs render dates field type raw trimmed = coerceInteger render bits field raw trimmed

/-- Fields of the type hold floating-point numbers that are finite in the format. -/
def HoldsFloats (type : FieldType) (format : Format) : Prop :=
  ∀ {α : Type} (render : Rendering α) (dates : DatePolicy) (field : Field) (raw trimmed : String),
    coerceAs render dates field type raw trimmed = coerceFloat render format field raw trimmed

/-- A field of numbers holds integers of some width, or floating-point numbers of 32 or 64 bits. -/
theorem holds_of_number {type : FieldType} (number : type ∈ numberTypes) :
    (∃ bits, HoldsIntegers type bits) ∨
      ∃ format, (format = binary32 ∨ format = binary64) ∧ HoldsFloats type format := by
  cases type
  case byte => exact .inl ⟨8, fun _ _ _ _ _ => rfl⟩
  case short => exact .inl ⟨16, fun _ _ _ _ _ => rfl⟩
  case integer => exact .inl ⟨32, fun _ _ _ _ _ => rfl⟩
  case long => exact .inl ⟨64, fun _ _ _ _ _ => rfl⟩
  case float => exact .inr ⟨binary32, .inl rfl, fun _ _ _ _ _ => rfl⟩
  case double => exact .inr ⟨binary64, .inr rfl, fun _ _ _ _ _ => rfl⟩
  all_goals exact absurd number (by decide)

/-! ## Numbers are read back from their texts -/

/-- An integer is read back from its numeral. -/
theorem readInt_ofInt {bits : Nat} {cs : List Char} {n : Int} (h : readInt bits cs = .ok n) :
    readInt bits (Literal.ofInt n).chars = .ok n := by
  rw [chars_ofInt, readInt_eq_ok_iff]
  exact ⟨isIntegerText_signedNumeral n, (readInt_eq_ok_iff.mp h).2⟩

/-- A floating-point number is read back from its plain numeral. -/
theorem readFiniteFloat_literal {format : Format} (known : format = binary32 ∨ format = binary64)
    {cs : List Char} {x : Binary} (h : readFiniteFloat format cs = .ok x) :
    readFiniteFloat format (x.literal .plain).chars = .ok x := by
  obtain ⟨number, -, fits, rounded⟩ := readFiniteFloat_eq_ok h
  have normal := Format.round_isNormal (by decide) (by decide) rounded
  have again := Binary.round_literal normal
  -- rounding to 64 bits may take a number up to the limit of 32 bits, but its digits stay below
  have finite : (format.round (x.literal .plain).value).isSome = true := by
    rcases known with rfl | rfl
    · exact round_binary32_literal fits rounded
    · rw [again]
      rfl
  obtain ⟨narrow, narrow_eq⟩ := Option.isSome_iff_exists.mp finite
  rw [readFiniteFloat, (Binary.isPlain_literal normal.toIsOf).readFloat?_chars]
  dsimp only
  rw [narrow_eq, again]

/-! ## The one text -/

/-- What the one text of a number has to do with the text the number was written as. -/
structure IsNormalizedFrom (dates : DatePolicy) (field : Field) (value : FieldValue)
    (normal : Literal) (written : String) : Prop where
  normalized : value.normalized? = some normal.text
  plain : normal.IsPlain
  /-- Other floating-point numbers than zero are written with their shortest digits. -/
  shortest : ∀ x, value = .float x → 0 < x.mantissa →
    ∃ y, x.IsShortestDecimal y ∧ normal.value.magnitude = y.magnitude
  /-- A document that holds this text keeps it, and the number. -/
  kept : coerceText dates field normal.text = .ok (some normal.text)
  value_kept : coerceTyped dates field normal.text = .ok (some value)
  /-- The two are one text just if a plain numeral of the same number was written. -/
  same_iff : normal.text = written ↔ ∃ l : Literal, l.IsPlain ∧ l.text = written ∧
    l.negative = normal.negative ∧ l.value.magnitude = normal.value.magnitude

/-- A plain numeral is the only one of its number. -/
theorem text_eq_iff {normal : Literal} (plain : normal.IsPlain) (written : String) :
    normal.text = written ↔ ∃ l : Literal, l.IsPlain ∧ l.text = written ∧
      l.negative = normal.negative ∧ l.value.magnitude = normal.value.magnitude := by
  constructor
  · intro same
    exact ⟨normal, plain, same, rfl, rfl⟩
  · intro other
    obtain ⟨l, l_plain, rfl, sign, same⟩ := other
    rw [l_plain.eq_of_magnitude_eq plain sign same]

/-- A plain numeral is coerced as it is. -/
theorem coerce_text {α : Type} (render : Rendering α) (dates : DatePolicy) {field : Field}
    {type : FieldType} (declared : field.type = some type) {normal : Literal}
    (plain : normal.IsPlain) :
    coerce render dates field normal.text =
      coerceAs render dates field type normal.text normal.text := by
  obtain ⟨visible, trimmed⟩ := plain.isNumber.visible
  rw [Literal.text, coerce_of_visible render dates declared visible, trimmed]

/-- Numbers are coerced as their type says, if the text is not blank. -/
theorem coerceAs_of_coerce {α β : Type} {render : Rendering α} {dates : DatePolicy}
    {field : Field} {type : FieldType} (declared : field.type = some type) {raw : String} {a : α}
    (h : coerce render dates field raw = .ok (some a)) (other : Rendering β) :
    coerceAs render dates field type raw (trim raw) = .ok (some a) ∧
      coerce other dates field raw = coerceAs other dates field type raw (trim raw) := by
  unfold coerce at h ⊢
  split at h
  · cases h
  · next visible =>
    rw [declared] at h ⊢
    exact ⟨h, if_neg visible⟩

/-- An integer has its numeral as its one text. -/
theorem isNormalizedFrom_integer {dates : DatePolicy} {field : Field} {type : FieldType}
    (declared : field.type = some type) {bits : Nat} (integers : HoldsIntegers type bits)
    {written : String} {n : Int} (read : readInt bits written.toList = .ok n) :
    IsNormalizedFrom dates field (.integer n) (Literal.ofInt n) written := by
  have plain := isPlain_ofInt n
  have again : readInt bits (Literal.ofInt n).text.toList = .ok n := by
    rw [Literal.text, String.toList_ofList]
    exact readInt_ofInt read
  have coerced {α : Type} (render : Rendering α) :
      coerce render dates field (Literal.ofInt n).text =
        .ok (some (render.integer (Literal.ofInt n).text n)) := by
    rw [coerce_text render dates declared plain, integers, coerceInteger, again]
  refine ⟨?_, plain, nofun, coerced textRendering, coerced typedRendering,
    text_eq_iff plain written⟩
  rw [FieldValue.normalized?, ← chars_ofInt]
  rfl

/-- A floating-point number has its shortest digits, written out, as its one text. -/
theorem isNormalizedFrom_float {dates : DatePolicy} {field : Field} {type : FieldType}
    (declared : field.type = some type) {format : Format}
    (known : format = binary32 ∨ format = binary64) (floats : HoldsFloats type format)
    {written : String} {x : Binary} (read : readFiniteFloat format written.toList = .ok x) :
    IsNormalizedFrom dates field (.float x) (x.literal .plain) written := by
  obtain ⟨number, -, -, rounded⟩ := readFiniteFloat_eq_ok read
  have normal := Format.round_isNormal (by decide) (by decide) rounded
  have plain := Binary.isPlain_literal normal.toIsOf
  have again : readFiniteFloat format (x.literal .plain).text.toList = .ok x := by
    rw [Literal.text, String.toList_ofList]
    exact readFiniteFloat_literal known read
  have coerced {α : Type} (render : Rendering α) :
      coerce render dates field (x.literal .plain).text =
        .ok (some (render.float (x.literal .plain).text x)) := by
    rw [coerce_text render dates declared plain, floats, coerceFloat, again]
  refine ⟨rfl, plain, ?_, coerced textRendering, coerced typedRendering, text_eq_iff plain written⟩
  intro y same positive
  cases same
  exact Binary.isShortestDecimal_literal normal positive

/-- **What the one text of a typed number has to do with the text in a document.** For every field
of numbers, every text and every date policy: if a value is given, the document holds the text as it
was written, and the one text of the value is a plain numeral with the shortest digits, which
coerces to itself and to the value. The two are the same just if a plain numeral of the same number
was written. -/
theorem normalized_of_coerceTyped {dates : DatePolicy} {field : Field} {type : FieldType}
    {raw : String} {value : FieldValue} (number : type ∈ numberTypes)
    (declared : field.type = some type) (typed : coerceTyped dates field raw = .ok (some value)) :
    coerceText dates field raw = .ok (some (trim raw)) ∧
      ∃ normal, IsNormalizedFrom dates field value normal (trim raw) := by
  obtain ⟨given, text_eq⟩ := coerceAs_of_coerce declared typed textRendering
  rw [coerceText, text_eq]
  rcases holds_of_number number with ⟨bits, integers⟩ | ⟨format, known, floats⟩
  · rw [integers, coerceInteger] at given
    rw [integers, coerceInteger]
    split at given
    · next n read =>
      cases given
      exact ⟨rfl, _, isNormalizedFrom_integer declared integers read⟩
    · exact absurd given reject_ne_some
  · rw [floats, coerceFloat] at given
    rw [floats, coerceFloat]
    split at given
    · next x read =>
      cases given
      exact ⟨rfl, _, isNormalizedFrom_float declared known floats read⟩
    · exact absurd given reject_ne_some

/-- A byte that is written with a plus sign keeps it in the document only. -/
theorem normalized_of_coerceTyped_plus :
    FieldType.byte ∈ numberTypes ∧ (Field.ofType "n" .byte).type = some .byte ∧
    coerceTyped .textOnly (Field.ofType "n" .byte) "+127" = .ok (some (.integer 127)) ∧
    coerceText .textOnly (Field.ofType "n" .byte) "+127" = .ok (some "+127") ∧
    (FieldValue.integer 127).normalized? = some "127" ∧
    ∃ normal, IsNormalizedFrom .textOnly (Field.ofType "n" .byte) (.integer 127) normal
      (trim "+127") :=
  ⟨by decide, rfl, rfl, rfl, rfl, (normalized_of_coerceTyped (by decide) rfl rfl).2⟩

end Intake
