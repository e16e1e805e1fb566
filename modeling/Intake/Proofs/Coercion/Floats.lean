import Intake.Proofs.Coercion.Normalized
import Intake.Proofs.Numeral.Denotation

/-!
# Fields of floating-point numbers

A field of floating-point numbers takes just the decimal literals whose exact rational number lies
below the limit of its format, half a last place above the greatest number; the typed value is the
number of 64 bits that is nearest to it (`coerce_float_exact`). The limit of 32 bits lies below that
of 64, so what the narrow field takes, the wide one takes as the same value.
-/

namespace Intake

open Intake.Schema Intake.Numeral Intake.Calendar Intake.Text

/-- Where the numbers that a type takes end. -/
def floatLimit? : FieldType → Option ℚ
  | .float => some (2 ^ 128 - 2 ^ 103)
  | .double => some (2 ^ 1024 - 2 ^ 970)
  | _ => none

/-- The text writes a decimal number whose exact value lies within the limit. -/
structure WritesWithin (limit : ℚ) (text : String) (l : Literal) : Prop where
  writes : WritesLiteral text.toList l
  within : |l.exact| < limit

/-- The scalar is refused, as a text and as a typed value: a field that ignores malformed values
drops it, and a field that minds quotes it. -/
structure IsRefused (dates : DatePolicy) (field : Field) (raw : String)
    (fault : Option ValueFault) : Prop where
  dropped : field.ignoresMalformed = true →
    coerceTyped dates field raw = .ok none ∧ coerceText dates field raw = .ok none
  quoted : field.ignoresMalformed = false →
    coerceTyped dates field raw =
        .error (.malformed field.name field.typeName raw fault) ∧
      coerceText dates field raw = .error (.malformed field.name field.typeName raw fault)

/-! ## The two formats -/

/-- The limit of a format is half a last place below a power of two. -/
theorem limit_eq_sub {format : Format} {top half : Nat}
    (top_eq : (format.precision : Int) + format.maxExponent = top)
    (half_eq : format.maxExponent = half + 1) : format.limit = 2 ^ top - 2 ^ half := by
  have top_power : (2 : ℚ) ^ top = 2 ^ format.precision * 2 ^ format.maxExponent := by
    rw [← zpow_natCast 2 top, ← top_eq, zpow_add₀ (by norm_num), zpow_natCast]
  have half_power : (2 : ℚ) ^ format.maxExponent = 2 ^ half * 2 := by
    rw [half_eq, zpow_add_one₀ (by norm_num), zpow_natCast]
  rw [Format.limit, cast_twoTo, top_power, half_power]
  ring

/-- Fields of the types with a limit hold the numbers of the format with that limit. -/
theorem holdsFloats_of_limit {type : FieldType} {limit : ℚ}
    (limited : floatLimit? type = some limit) :
    ∃ format, (format = binary32 ∨ format = binary64) ∧ HoldsFloats type format ∧
      format.limit = limit := by
  cases type
  case float =>
    refine ⟨binary32, .inl rfl, fun _ _ _ _ _ => rfl, ?_⟩
    rw [← Option.some.inj limited]
    exact limit_eq_sub rfl rfl
  case double =>
    refine ⟨binary64, .inr rfl, fun _ _ _ _ _ => rfl, ?_⟩
    rw [← Option.some.inj limited]
    exact limit_eq_sub rfl rfl
  all_goals cases limited

/-- Rounding to a format that is no wider than 64 bits, within its limit, leads to the nearest
number of 64 bits; beyond the limit there is none. -/
theorem readFiniteFloat_cases {format : Format} (known : format = binary32 ∨ format = binary64)
    {cs : List Char} {l : Literal} (writes : WritesLiteral cs l) :
    (l.value.magnitude < format.limit ∧ ∃ x, readFiniteFloat format cs = .ok x ∧
        x.IsNearest binary64 l.value.rational ∧ x.negative = l.negative) ∨
      format.limit ≤ l.value.magnitude ∧ readFiniteFloat format cs = .error none := by
  have finite_iff : (format.round l.value).isSome = true ↔ l.value.magnitude < format.limit := by
    rcases known with rfl | rfl
    · exact Format.round_isSome_iff (by decide) (by decide)
    · exact Format.round_isSome_iff (by decide) (by decide)
  have read := readFloat?_eq_literal_iff.mpr writes
  cases rounded : format.round l.value with
  | none =>
    right
    rw [rounded] at finite_iff
    refine ⟨not_lt.mp fun less => absurd (finite_iff.mpr less) (by decide), ?_⟩
    simp only [readFiniteFloat, read, rounded]
  | some b =>
    left
    rw [rounded] at finite_iff
    obtain ⟨x, wide⟩ : ∃ x, binary64.round l.value = some x := by
      rcases known with rfl | rfl
      · obtain ⟨x, wide, -⟩ := round_binary64_of_binary32 rounded
        exact ⟨x, wide⟩
      · exact ⟨b, rounded⟩
    obtain ⟨nearest, sign⟩ := Format.round_isNearest (by decide) (by decide) wide
    refine ⟨finite_iff.mp rfl, x, ?_, nearest, sign⟩
    simp only [readFiniteFloat, read, rounded, wide]

/-- What a narrow format takes, the wide one takes as the same number. -/
theorem readFiniteFloat_wide {format : Format} {cs : List Char} {x : Binary}
    (h : readFiniteFloat format cs = .ok x) : readFiniteFloat binary64 cs = .ok x := by
  obtain ⟨number, read, -, rounded⟩ := readFiniteFloat_eq_ok h
  simp only [readFiniteFloat, read, rounded]

/-- What is no literal is refused with its fault. -/
theorem readFiniteFloat_of_writesNothing (format : Format) {cs : List Char}
    (nothing : ∀ l, ¬ WritesLiteral cs l) :
    (IsFloatWord cs → readFiniteFloat format cs = .error none) ∧
      (¬ IsFloatWord cs → readFiniteFloat format cs = .error (some .float)) := by
  have no_literal : ∀ l, readFloat? cs ≠ some (.literal l) := fun l read =>
    nothing l (readFloat?_eq_literal_iff.mp read)
  constructor
  · intro word
    simp only [readFiniteFloat, readFloat?_eq_word_iff.mpr word]
  · intro no_word
    have no_text : readFloat? cs = none := by
      cases read : readFloat? cs with
      | none => rfl
      | some text =>
        cases text with
        | literal l => exact absurd read (no_literal l)
        | word => exact absurd (readFloat?_eq_word_iff.mp read) no_word
    simp only [readFiniteFloat, no_text]

/-- A word is no literal. -/
theorem not_writesLiteral_of_word {cs : List Char} (word : IsFloatWord cs) (l : Literal) :
    ¬ WritesLiteral cs l := by
  intro writes
  have read := readFloat?_eq_literal_iff.mpr writes
  rw [readFloat?_eq_word_iff.mpr word] at read
  cases read

/-! ## Coercion -/

section

variable {dates : DatePolicy} {field : Field} {type : FieldType} {format : Format} {raw : String}

theorem coerce_float {α : Type} (render : Rendering α) (declared : field.type = some type)
    (floats : HoldsFloats type format) (visible : isBlankText raw = false) :
    coerce render dates field raw = coerceFloat render format field raw (trim raw) := by
  rw [coerce_of_visible render dates declared visible, floats]

/-- What is read is the value, with the text it was read from. -/
theorem coerce_of_readFiniteFloat {α : Type} (render : Rendering α)
    (declared : field.type = some type) (floats : HoldsFloats type format)
    (visible : isBlankText raw = false) {x : Binary}
    (read : readFiniteFloat format (trim raw).toList = .ok x) :
    coerce render dates field raw = .ok (some (render.float (trim raw) x)) := by
  rw [coerce_float render declared floats visible, coerceFloat, read]

/-- A value is what was read. -/
theorem exists_readFiniteFloat_of_coerce {α : Type} {render : Rendering α}
    (declared : field.type = some type) (floats : HoldsFloats type format)
    (visible : isBlankText raw = false) {a : α} (given : coerce render dates field raw = .ok (some a)) :
    ∃ x, readFiniteFloat format (trim raw).toList = .ok x ∧ a = render.float (trim raw) x := by
  rw [coerce_float render declared floats visible, coerceFloat] at given
  split at given
  · next x read =>
    cases given
    exact ⟨x, read, rfl⟩
  · exact absurd given reject_ne_some

/-- What is not read is refused. -/
theorem isRefused_of_readFiniteFloat (declared : field.type = some type)
    (floats : HoldsFloats type format) (visible : isBlankText raw = false)
    {fault : Option ValueFault} (read : readFiniteFloat format (trim raw).toList = .error fault) :
    IsRefused dates field raw fault := by
  have refused {α : Type} (render : Rendering α) :
      coerce render dates field raw = reject field raw fault := by
    rw [coerce_float render declared floats visible, coerceFloat, read]
  constructor
  · intro ignores
    exact ⟨(refused _).trans (if_pos ignores), (refused _).trans (if_pos ignores)⟩
  · intro minds
    have minds : ¬ field.ignoresMalformed = true := Bool.eq_false_iff.mp minds
    exact ⟨(refused _).trans (if_neg minds), (refused _).trans (if_neg minds)⟩

/-- The number of a literal that is read lies within the limit, and the value is nearest to it. -/
theorem writesWithin_of_read (known : format = binary32 ∨ format = binary64) {text : String}
    (small : ∀ l, WritesLiteral text.toList l → |l.power| < 65536) {x : Binary}
    (read : readFiniteFloat format text.toList = .ok x) :
    ∃ l, WritesWithin format.limit text l ∧ x.IsNearest binary64 l.exact ∧
      x.negative = l.negative := by
  obtain ⟨l, literal_read, -, -⟩ := readFiniteFloat_eq_ok read
  have writes := readFloat?_eq_literal_iff.mp literal_read
  have exact_eq := Literal.exact_eq_rational (small l writes)
  rcases readFiniteFloat_cases known writes with ⟨within, y, read', nearest, sign⟩ | ⟨-, refused⟩
  · rw [read] at read'
    cases read'
    refine ⟨l, ⟨writes, ?_⟩, exact_eq ▸ nearest, sign⟩
    rw [exact_eq, Decimal.rational, abs_signed _ l.value.magnitude_nonneg]
    exact within
  · rw [read] at refused
    cases refused

/-- A literal whose number lies within the limit is read. -/
theorem exists_read_of_writesWithin (known : format = binary32 ∨ format = binary64) {text : String}
    {l : Literal} (small : |l.power| < 65536) (within : WritesWithin format.limit text l) :
    ∃ x, readFiniteFloat format text.toList = .ok x ∧ x.IsNearest binary64 l.exact ∧
      x.negative = l.negative := by
  have exact_eq := Literal.exact_eq_rational small
  have less := within.within
  rw [exact_eq, Decimal.rational, abs_signed _ l.value.magnitude_nonneg] at less
  rcases readFiniteFloat_cases known within.writes with ⟨-, x, read, nearest, sign⟩ | ⟨beyond, -⟩
  · exact ⟨x, read, exact_eq ▸ nearest, sign⟩
  · exact absurd less (not_lt.mpr beyond)

/-- A literal whose number reaches the limit is not read. -/
theorem read_of_writesBeyond (known : format = binary32 ∨ format = binary64) {cs : List Char}
    {l : Literal} (small : |l.power| < 65536) (writes : WritesLiteral cs l)
    (beyond : format.limit ≤ |l.exact|) : readFiniteFloat format cs = .error none := by
  rw [Literal.exact_eq_rational small, Decimal.rational,
    abs_signed _ l.value.magnitude_nonneg] at beyond
  rcases readFiniteFloat_cases known writes with ⟨within, -⟩ | ⟨-, refused⟩
  · exact absurd within (not_lt.mpr beyond)
  · exact refused

end

/-- **Floating-point numbers are accepted exactly.** A scalar that is not blank gives a value in a
field of floating-point numbers just if it is, without the blanks around it, a decimal literal whose
exact rational number lies below the limit of the type; then the text is the text without the blanks
and the typed value is the number of 64 bits that is nearest to that number, of two the even one. A
literal that reaches the limit and a word for infinity or for "not a number" are refused without a
cause, and every other text as a number that is not well formed. This holds if the digits of the
power of ten, where there is one, are below 65536, which is as far as they are read.

Whatever a narrow field takes, a wide one takes with the same text and as the same value. -/
theorem coerce_float_exact (dates : DatePolicy) {field : Field} {type : FieldType} {limit : ℚ}
    {raw : String} (declared : field.type = some type) (limited : floatLimit? type = some limit)
    (visible : isBlankText raw = false) :
    ((∀ l, WritesLiteral (trim raw).toList l → |l.power| < 65536) →
      (∀ value, coerceTyped dates field raw = .ok (some value) ↔
        ∃ l x, WritesWithin limit (trim raw) l ∧ x.IsNearest binary64 l.exact ∧
          x.negative = l.negative ∧ value = .float x) ∧
      (∀ text, coerceText dates field raw = .ok (some text) ↔
        (∃ l, WritesWithin limit (trim raw) l) ∧ text = trim raw) ∧
      ((∃ value, coerceTyped dates field raw = .ok (some value)) ↔
        ∃ l, WritesWithin limit (trim raw) l) ∧
      (∀ l, WritesLiteral (trim raw).toList l → limit ≤ |l.exact| →
        IsRefused dates field raw none)) ∧
    (IsFloatWord (trim raw).toList → IsRefused dates field raw none) ∧
    (¬ IsFloatWord (trim raw).toList → (∀ l, ¬ WritesLiteral (trim raw).toList l) →
      IsRefused dates field raw (some .float)) ∧
    (∀ (again : DatePolicy) (wide : Field), wide.type = some .double →
      ∀ value, coerceTyped dates field raw = .ok (some value) →
        coerceTyped again wide raw = .ok (some value) ∧
          coerceText dates field raw = .ok (some (trim raw)) ∧
            coerceText again wide raw = .ok (some (trim raw))) := by
  obtain ⟨format, known, floats, rfl⟩ := holdsFloats_of_limit limited
  refine ⟨fun small => ⟨?typed, ?text, ?gives, ?beyond⟩, ?word, ?malformed, ?wide⟩
  case typed =>
    intro value
    constructor
    · intro given
      obtain ⟨x, read, rfl⟩ := exists_readFiniteFloat_of_coerce declared floats visible given
      obtain ⟨l, within, nearest, sign⟩ := writesWithin_of_read known small read
      exact ⟨l, x, within, nearest, sign, rfl⟩
    · intro written
      obtain ⟨l, x, within, nearest, sign, rfl⟩ := written
      obtain ⟨y, read, nearest', sign'⟩ :=
        exists_read_of_writesWithin known (small l within.writes) within
      obtain rfl := nearest.unique (by decide) nearest' (sign.trans sign'.symm)
      exact coerce_of_readFiniteFloat typedRendering declared floats visible read
  case text =>
    intro text
    constructor
    · intro given
      obtain ⟨x, read, rfl⟩ := exists_readFiniteFloat_of_coerce declared floats visible given
      obtain ⟨l, within, -⟩ := writesWithin_of_read known small read
      exact ⟨⟨l, within⟩, rfl⟩
    · intro written
      obtain ⟨⟨l, within⟩, rfl⟩ := written
      obtain ⟨x, read, -⟩ := exists_read_of_writesWithin known (small l within.writes) within
      exact coerce_of_readFiniteFloat textRendering declared floats visible read
  case gives =>
    constructor
    · intro given
      obtain ⟨value, given⟩ := given
      obtain ⟨x, read, -⟩ := exists_readFiniteFloat_of_coerce declared floats visible given
      obtain ⟨l, within, -⟩ := writesWithin_of_read known small read
      exact ⟨l, within⟩
    · intro written
      obtain ⟨l, within⟩ := written
      obtain ⟨x, read, -⟩ := exists_read_of_writesWithin known (small l within.writes) within
      exact ⟨_, coerce_of_readFiniteFloat typedRendering declared floats visible read⟩
  case beyond =>
    intro l writes beyond
    exact isRefused_of_readFiniteFloat declared floats visible
      (read_of_writesBeyond known (small l writes) writes beyond)
  case word =>
    intro word
    have nothing := not_writesLiteral_of_word word
    exact isRefused_of_readFiniteFloat declared floats visible
      ((readFiniteFloat_of_writesNothing format nothing).1 word)
  case malformed =>
    intro no_word nothing
    exact isRefused_of_readFiniteFloat declared floats visible
      ((readFiniteFloat_of_writesNothing format nothing).2 no_word)
  case wide =>
    intro again wide wide_declared value given
    have wide_floats : HoldsFloats .double binary64 := fun _ _ _ _ _ => rfl
    obtain ⟨x, read, rfl⟩ := exists_readFiniteFloat_of_coerce declared floats visible given
    have wide_read := readFiniteFloat_wide read
    exact ⟨coerce_of_readFiniteFloat typedRendering wide_declared wide_floats visible wide_read,
      coerce_of_readFiniteFloat textRendering declared floats visible read,
      coerce_of_readFiniteFloat textRendering wide_declared wide_floats visible wide_read⟩

/-- The last whole number below the limit of 32 bits. -/
def lastFloatText : String := "340282356779733661637539395458142568447"

/-- The limit of 32 bits. -/
def floatLimitText : String := "340282356779733661637539395458142568448"

/-- The last whole number below the limit of 32 bits is taken, with 64 bits too, and the limit
itself is refused. -/
theorem coerce_float_exact_atLimit :
    (Field.ofType "ratio" .float).type = some .float ∧
    floatLimit? .float = some (2 ^ 128 - 2 ^ 103) ∧
    isBlankText lastFloatText = false ∧ isBlankText floatLimitText = false ∧
    coerceText .textOnly (Field.ofType "ratio" .float) lastFloatText = .ok (some lastFloatText) ∧
    (∃ value,
      coerceTyped .textOnly (Field.ofType "ratio" .float) lastFloatText = .ok (some value) ∧
      coerceTyped .textOnly (Field.ofType "ratio" .double) lastFloatText = .ok (some value)) ∧
    coerceText .textOnly (Field.ofType "ratio" .float) floatLimitText =
      .error (.malformed "ratio" "float" floatLimitText none) := by
  have declared : (Field.ofType "ratio" .float).type = some .float := rfl
  have limited : floatLimit? .float = some (2 ^ 128 - 2 ^ 103) := rfl
  have last_visible : isBlankText lastFloatText = false := by decide
  have limit_visible : isBlankText floatLimitText = false := by decide
  have last_trimmed : trim lastFloatText = lastFloatText := by decide +kernel
  have limit_trimmed : trim floatLimitText = floatLimitText := by decide +kernel
  have last_writes : WritesLiteral lastFloatText.toList ⟨false, lastFloatText.toList, none, none⟩ :=
    readFloat?_eq_literal_iff.mp (by decide +kernel)
  have limit_writes :
      WritesLiteral floatLimitText.toList ⟨false, floatLimitText.toList, none, none⟩ :=
    readFloat?_eq_literal_iff.mp (by decide +kernel)
  have last_value : digitsValue lastFloatText.toList = 2 ^ 128 - 2 ^ 103 - 1 := by decide +kernel
  have limit_value : digitsValue floatLimitText.toList = 2 ^ 128 - 2 ^ 103 := by decide +kernel
  have no_power (digits : List Char) : |(Literal.mk false digits none none).power| < 65536 := by
    simp [Literal.power]
  have whole (digits : List Char) :
      (Literal.mk false digits none none).exact = digitsValue digits := by
    simp [Literal.exact, Literal.power, Literal.decimals, signed]
  obtain ⟨last, -, -, wide⟩ := coerce_float_exact .textOnly declared limited last_visible
  obtain ⟨limit, -⟩ := coerce_float_exact .textOnly declared limited limit_visible
  rw [last_trimmed] at last wide
  rw [limit_trimmed] at limit
  obtain ⟨-, text, gives, -⟩ := last fun l writes => writes.unique last_writes ▸ no_power _
  obtain ⟨-, -, -, beyond⟩ := limit fun l writes => writes.unique limit_writes ▸ no_power _
  have within : WritesWithin (2 ^ 128 - 2 ^ 103) lastFloatText
      ⟨false, lastFloatText.toList, none, none⟩ := by
    refine ⟨last_writes, ?_⟩
    rw [whole, last_value]
    norm_num
  obtain ⟨value, given⟩ := gives.mpr ⟨_, within⟩
  refine ⟨declared, limited, last_visible, limit_visible, ?_, ⟨value, given, ?_⟩, ?_⟩
  · exact (text _).mpr ⟨⟨_, within⟩, rfl⟩
  · exact (wide .textOnly (Field.ofType "ratio" .double) rfl value given).1
  · refine ((beyond _ limit_writes ?_).quoted rfl).2
    rw [whole, limit_value]
    norm_num

end Intake
