import Intake.Coercion
import Intake.Proofs.Base64
import Intake.Proofs.Coercion.Visible
import Intake.Except
import Intake.Proofs.Numeral.Integer
import Intake.Proofs.Numeral.Rounding

/-!
# Texts and typed values of a scalar

Coercion decides without looking at the values it makes (`coerce_map`), so the text of a scalar and
its typed value are the two halves of one answer: both are missing, or both fail alike, or they
belong together (`coerceText_agrees_coerceTyped`). Which text belongs to which value is said by the
type of the field, without regard to how either was made (`IsTextOf`).
-/

namespace Intake

open Intake.Schema Intake.Numeral Intake.Calendar Intake.Text

/-! ## Coercion decides alike for all renderings -/

section Map

variable {α β : Type} (f : α → β)

/-- Renders, and then applies a function. -/
def Rendering.map (render : Rendering α) : Rendering β where
  untyped raw := f (render.untyped raw)
  binary trimmed bytes := f (render.binary trimmed bytes)
  boolean trimmed value := f (render.boolean trimmed value)
  date trimmed instant := f (render.date trimmed instant)
  integer trimmed value := f (render.integer trimmed value)
  float trimmed value := f (render.float trimmed value)
  text trimmed := f (render.text trimmed)

theorem reject_map (field : Field) (raw : String) (fault : Option ValueFault) :
    (reject field raw fault : Except IngestError (Option β)) =
      (reject field raw fault).map (Option.map f) := by
  unfold reject
  split <;> rfl

theorem coerceAs_map (render : Rendering α) (dates : DatePolicy) (field : Field) (type : FieldType)
    (raw trimmed : String) :
    coerceAs (render.map f) dates field type raw trimmed =
      (coerceAs render dates field type raw trimmed).map (Option.map f) := by
  cases type <;> simp only [coerceAs]
  case text | keyword => rfl
  case geoPoint | integerRange | longRange | floatRange | doubleRange | dateRange => rfl
  all_goals
    split
    · rfl
    · exact reject_map f field raw _

/-- **Coercion does not look at the values it makes.** -/
theorem coerce_map (render : Rendering α) (dates : DatePolicy) (field : Field) (raw : String) :
    coerce (render.map f) dates field raw =
      (coerce render dates field raw).map (Option.map f) := by
  unfold coerce
  split
  · rfl
  · split
    · rfl
    · exact coerceAs_map f render dates field _ raw (trim raw)

end Map

/-- The text and the typed value at once. -/
def pairRendering : Rendering (String × FieldValue) where
  untyped raw := (textRendering.untyped raw, typedRendering.untyped raw)
  binary trimmed bytes := (textRendering.binary trimmed bytes, typedRendering.binary trimmed bytes)
  boolean trimmed value :=
    (textRendering.boolean trimmed value, typedRendering.boolean trimmed value)
  date trimmed instant := (textRendering.date trimmed instant, typedRendering.date trimmed instant)
  integer trimmed value :=
    (textRendering.integer trimmed value, typedRendering.integer trimmed value)
  float trimmed value := (textRendering.float trimmed value, typedRendering.float trimmed value)
  text trimmed := (textRendering.text trimmed, typedRendering.text trimmed)

theorem coerceText_eq_map (dates : DatePolicy) (field : Field) (raw : String) :
    coerceText dates field raw =
      (coerce pairRendering dates field raw).map (Option.map Prod.fst) :=
  coerce_map Prod.fst pairRendering dates field raw

theorem coerceTyped_eq_map (dates : DatePolicy) (field : Field) (raw : String) :
    coerceTyped dates field raw =
      (coerce pairRendering dates field raw).map (Option.map Prod.snd) :=
  coerce_map Prod.snd pairRendering dates field raw

/-! ## Texts of typed values -/

/-- The text is a decimal numeral of the value, which is an integer of `bits` bits. -/
def IsIntegerTextOf (bits : Nat) (text : String) (value : FieldValue) : Prop :=
  ∃ n, value = .integer n ∧ IsIntegerText text.toList n ∧ fitsInt bits n

/-- The text is a decimal literal, and the value the finite 64-bit number nearest to it. -/
def IsFloatTextOf (text : String) (value : FieldValue) : Prop :=
  ∃ number x, value = .float x ∧ readFloat? text.toList = some (.literal number) ∧
    binary64.round number.value = some x ∧ x.IsOf binary64

/-- The text is the padded Base64 writing of the value. -/
def IsBase64TextOf (text : String) (value : FieldValue) : Prop :=
  ∃ bytes, value = .binary bytes ∧ Base64.encode bytes = utf8 text

/-- The text belongs to the value, in a field of the given type. -/
def IsTextOf (type : Option FieldType) (text : String) (value : FieldValue) : Prop :=
  match type with
  | none | some .text | some .keyword | some .boolean | some .date => value.normalized? = some text
  | some .byte => IsIntegerTextOf 8 text value
  | some .short => IsIntegerTextOf 16 text value
  | some .integer => IsIntegerTextOf 32 text value
  | some .long => IsIntegerTextOf 64 text value
  | some .float | some .double => IsFloatTextOf text value
  | some .binary => IsBase64TextOf text value
  | some .geoPoint | some .integerRange | some .longRange | some .floatRange | some .doubleRange
  | some .dateRange => False

/-- The answers for the text and for the typed value of one scalar. -/
inductive Agree (type : Option FieldType) :
    Except IngestError (Option String) → Except IngestError (Option FieldValue) → Prop where
  | dropped : Agree type (.ok none) (.ok none)
  | failed (error : IngestError) : Agree type (.error error) (.error error)
  | given {text : String} {value : FieldValue} (belong : IsTextOf type text value) :
      Agree type (.ok (some text)) (.ok (some value))

/-! ## What is read -/

/-- The text is the writing of some value of the type. -/
def IsWritingFor (dates : DatePolicy) (type : FieldType) (text : String) : Prop :=
  match type with
  | .binary => ∃ bytes, Base64.encode bytes = utf8 text
  | .boolean => ∃ value, readBoolean? text.toList = some value
  | .date => ∃ instant, readDate dates text.toList = .ok instant
  | .byte => ∃ n, IsIntegerText text.toList n ∧ fitsInt 8 n
  | .short => ∃ n, IsIntegerText text.toList n ∧ fitsInt 16 n
  | .integer => ∃ n, IsIntegerText text.toList n ∧ fitsInt 32 n
  | .long => ∃ n, IsIntegerText text.toList n ∧ fitsInt 64 n
  | .float => ∃ number, readFloat? text.toList = some (.literal number) ∧
      (binary32.round number.value).isSome = true
  | .double => ∃ number, readFloat? text.toList = some (.literal number) ∧
      (binary64.round number.value).isSome = true
  | .text | .keyword => True
  | .geoPoint | .integerRange | .longRange | .floatRange | .doubleRange | .dateRange => False

/-- **A finite number is read with 64 bits**, whatever the format that it has to fit. -/
theorem readFiniteFloat_eq_ok {format : Format} {cs : List Char} {x : Binary}
    (h : readFiniteFloat format cs = .ok x) :
    ∃ number, readFloat? cs = some (.literal number) ∧
      (format.round number.value).isSome = true ∧ binary64.round number.value = some x := by
  unfold readFiniteFloat at h
  split at h
  · cases h
  · cases h
  · next number read =>
    split at h
    · next fits rounded =>
      cases h
      exact ⟨number, read, fits ▸ rfl, rounded⟩
    · cases h

/-- A literal is read just if it is finite in its format, which must be no wider than 64 bits. -/
theorem exists_readFiniteFloat_iff {format : Format} (cs : List Char)
    (narrow : ∀ (x : Decimal) (b : Binary), format.round x = some b →
      ∃ wide, binary64.round x = some wide) :
    (∃ x, readFiniteFloat format cs = .ok x) ↔
      ∃ number, readFloat? cs = some (.literal number) ∧
        (format.round number.value).isSome = true := by
  constructor
  · rintro ⟨x, read⟩
    obtain ⟨number, literal, fits, -⟩ := readFiniteFloat_eq_ok read
    exact ⟨number, literal, fits⟩
  · rintro ⟨number, literal, fits⟩
    obtain ⟨b, rounded⟩ := Option.isSome_iff_exists.mp fits
    obtain ⟨x, wide⟩ := narrow number.value b rounded
    refine ⟨x, ?_⟩
    rw [readFiniteFloat, literal]
    dsimp only
    rw [rounded, wide]

theorem isFloatTextOf_of_read {format : Format} {trimmed : String} {x : Binary}
    (h : readFiniteFloat format trimmed.toList = .ok x) : IsFloatTextOf trimmed (.float x) := by
  obtain ⟨number, read, -, rounded⟩ := readFiniteFloat_eq_ok h
  exact ⟨number, x, rfl, read, rounded, Format.round_isOf (by decide) (by decide) rounded⟩

theorem isIntegerTextOf_of_read {bits : Nat} {trimmed : String} {n : Int}
    (h : readInt bits trimmed.toList = .ok n) : IsIntegerTextOf bits trimmed (.integer n) :=
  ⟨n, rfl, readInt_eq_ok_iff.mp h⟩

theorem isBase64TextOf_of_read {trimmed : String} {bytes : List UInt8}
    (h : Base64.decode (utf8 trimmed) = .ok bytes) : IsBase64TextOf trimmed (.binary bytes) :=
  ⟨bytes, rfl, Base64.decode_eq_ok_iff.mp h⟩

/-- In Base64 the text tells the bytes, and the bytes the text. -/
theorem IsBase64TextOf.text_eq_iff {text other : String} {value otherValue : FieldValue}
    (h : IsBase64TextOf text value) (h' : IsBase64TextOf other otherValue) :
    text = other ↔ value = otherValue := by
  obtain ⟨bytes, rfl, text_eq⟩ := h
  obtain ⟨otherBytes, rfl, other_eq⟩ := h'
  constructor
  · rintro rfl
    rw [Base64.encode_injective (text_eq.trans other_eq.symm)]
  · rintro ⟨⟩
    have bytes_eq : ofUtf8? (utf8 text) = ofUtf8? (utf8 other) := by rw [← text_eq, ← other_eq]
    rw [ofUtf8?_utf8, ofUtf8?_utf8] at bytes_eq
    exact Option.some.inj bytes_eq

/-! ## The two answers -/

/-- **A scalar that is not blank is given a value just if it is the writing of one**, whatever the
values look like. -/
theorem coerceAs_gives_iff {α : Type} {render : Rendering α} {dates : DatePolicy} {field : Field}
    {type : FieldType} {raw trimmed : String} :
    (∃ a, coerceAs render dates field type raw trimmed = .ok (some a)) ↔
      IsWritingFor dates type trimmed := by
  have double := exists_readFiniteFloat_iff trimmed.toList fun x b rounded => ⟨b, rounded⟩
  have float := exists_readFiniteFloat_iff trimmed.toList fun x b narrow =>
    (round_binary64_of_binary32 narrow).imp fun _ => And.left
  cases type <;> simp only [coerceAs, IsWritingFor, ← Base64.decode_eq_ok_iff,
    ← readInt_eq_ok_iff, ← double, ← float]
  case text | keyword => simp
  case geoPoint | integerRange | longRange | floatRange | doubleRange | dateRange => simp
  -- every other type reads a value, and rejects what it cannot read
  all_goals
    constructor
    · rintro ⟨a, given⟩
      split at given
      · next value read => exact ⟨value, read⟩
      · exact absurd given reject_ne_some
    · rintro ⟨value, read⟩
      rw [read]
      exact ⟨_, rfl⟩

/-- **The text and the typed value that are given belong together.** -/
theorem isTextOf_of_coerceAs {dates : DatePolicy} {field : Field} {type : FieldType}
    {raw trimmed : String} {given : String × FieldValue}
    (h : coerceAs pairRendering dates field type raw trimmed = .ok (some given)) :
    IsTextOf (some type) given.1 given.2 := by
  cases type <;> simp only [coerceAs] at h
  case geoPoint | integerRange | longRange | floatRange | doubleRange | dateRange => cases h
  case text | keyword =>
    cases h
    rfl
  all_goals
    split at h
    · next read =>
      cases h
      first
      | rfl
      | exact isIntegerTextOf_of_read read
      | exact isFloatTextOf_of_read read
      | exact isBase64TextOf_of_read read
    · exact absurd h reject_ne_some

theorem isTextOf_of_coerce {dates : DatePolicy} {field : Field} {raw : String}
    {given : String × FieldValue} (h : coerce pairRendering dates field raw = .ok (some given)) :
    IsTextOf field.type given.1 given.2 := by
  unfold coerce at h
  split at h
  · cases h
  · split at h
    · next untyped =>
      cases h
      rw [untyped]
      rfl
    · next type declared => exact declared ▸ isTextOf_of_coerceAs h

theorem agree_coerce (dates : DatePolicy) (field : Field) (raw : String) :
    Agree field.type (coerceText dates field raw) (coerceTyped dates field raw) := by
  rw [coerceText_eq_map, coerceTyped_eq_map]
  match answer : coerce pairRendering dates field raw with
  | .error error => exact .failed error
  | .ok none => exact .dropped
  | .ok (some _) => exact .given (isTextOf_of_coerce answer)

theorem coerce_gives_iff {α : Type} {render : Rendering α} {dates : DatePolicy} {field : Field}
    {raw : String} :
    (∃ a, coerce render dates field raw = .ok (some a)) ↔
      isBlankText raw = false ∧
        ∀ type, field.type = some type → IsWritingFor dates type (trim raw) := by
  unfold coerce
  split
  · next blank => simp [blank]
  · next visible =>
    split
    · next untyped => simp [visible, untyped]
    · next type declared => simp [visible, declared, coerceAs_gives_iff]

/-- In fields of binary values, the answers for the texts are as different as those for the
values. -/
theorem Agree.eq_iff {text other : Except IngestError (Option String)}
    {value otherValue : Except IngestError (Option FieldValue)}
    (h : Agree (some .binary) text value) (h' : Agree (some .binary) other otherValue) :
    text = other ↔ value = otherValue := by
  cases h with
  | dropped => cases h' <;> simp
  | failed error => cases h' <;> simp
  | given belong =>
    cases h' with
    | dropped => simp
    | failed error => simp
    | given belong' => simpa using belong.text_eq_iff belong'

/-- **The text of a scalar and its typed value are two halves of one answer.** For every field,
scalar and date policy: either both are missing, or both fail with the same error, or both are
given. They are given just if the scalar is not blank and, in a field of a type, writes a value of
the type; and then the text belongs to the value as the type of the field says. The texts of binary
values determine the bytes, and the bytes the texts. -/
theorem coerceText_agrees_coerceTyped (dates : DatePolicy) (field : Field) (raw : String) :
    Agree field.type (coerceText dates field raw) (coerceTyped dates field raw) ∧
    ((∃ text, coerceText dates field raw = .ok (some text)) ↔
      isBlankText raw = false ∧
        ∀ type, field.type = some type → IsWritingFor dates type (trim raw)) ∧
    ∀ (again : DatePolicy) (other : Field) (otherRaw : String),
      field.type = some .binary → other.type = some .binary →
        (coerceText dates field raw = coerceText again other otherRaw ↔
          coerceTyped dates field raw = coerceTyped again other otherRaw) := by
  refine ⟨agree_coerce dates field raw, coerce_gives_iff, ?_⟩
  intro again other otherRaw binary otherBinary
  have agree := agree_coerce dates field raw
  have otherAgree := agree_coerce again other otherRaw
  rw [binary] at agree
  rw [otherBinary] at otherAgree
  exact agree.eq_iff otherAgree

/-- A greeting in Base64 is the same value with blanks around it and without. -/
theorem coerceText_agrees_greeting :
    (Field.ofType "blob" .binary).type = some .binary ∧
    coerceText .textOnly (Field.ofType "blob" .binary) " aGVsbG8= " = .ok (some "aGVsbG8=") ∧
    coerceTyped .textOnly (Field.ofType "blob" .binary) " aGVsbG8= " =
      .ok (some (.binary [104, 101, 108, 108, 111])) ∧
    (coerceText .textOnly (Field.ofType "blob" .binary) " aGVsbG8= " =
        coerceText .textOrEpoch (Field.ofType "file" .binary) "aGVsbG8=\n" ↔
      coerceTyped .textOnly (Field.ofType "blob" .binary) " aGVsbG8= " =
        coerceTyped .textOrEpoch (Field.ofType "file" .binary) "aGVsbG8=\n") := by
  refine ⟨rfl, rfl, rfl, ?_⟩
  exact (coerceText_agrees_coerceTyped .textOnly (Field.ofType "blob" .binary) " aGVsbG8= ").2.2
    .textOrEpoch (Field.ofType "file" .binary) "aGVsbG8=\n" rfl rfl

end Intake
