import Intake.Proofs.Coercion.Normalized

/-!
# Fields of integers

A field of integers of a width takes just the decimal numerals of the integers of that width, each
as its integer; no number is cut off or wrapped around, and what fits a width fits every greater one
(`coerce_integer_exact`).

What is refused is refused for its first digits if they make, with the sign, a number that is out of
range, whatever comes after them; and otherwise for a character that is no digit.
-/

namespace Intake

open Intake.Schema Intake.Numeral Intake.Calendar Intake.Text

/-- How many bits the integers of a type have. -/
def integerBits? : FieldType → Option Nat
  | .byte => some 8
  | .short => some 16
  | .integer => some 32
  | .long => some 64
  | _ => none

/-- The text is a decimal numeral of the integer, which has `bits` bits in two's complement. -/
structure WritesInteger (bits : Nat) (text : String) (n : Int) : Prop where
  numeral : IsIntegerText text.toList n
  least : -2 ^ (bits - 1) ≤ n
  greatest : n ≤ 2 ^ (bits - 1) - 1

/-- What is wrong with a text that writes no integer of `bits` bits. -/
def faultOfDigits (bits : Nat) (text : String) : IntegerFault :=
  if leadingInt text.toList < -2 ^ (bits - 1) then .tooSmall
  else if 2 ^ (bits - 1) - 1 < leadingInt text.toList then .tooLarge
  else .invalidDigit

/-! ## Reading -/

theorem leastInt_eq (bits : Nat) : leastInt bits = -2 ^ (bits - 1) := by
  rw [leastInt, twoTo]
  exact congrArg (- ·) (Nat.cast_pow 2 (bits - 1))

theorem greatestInt_eq (bits : Nat) : greatestInt bits = 2 ^ (bits - 1) - 1 := by
  rw [greatestInt, twoTo]
  exact congrArg (· - 1) (Nat.cast_pow 2 (bits - 1))

theorem writesInteger_iff {bits : Nat} {text : String} {n : Int} :
    WritesInteger bits text n ↔ readInt bits text.toList = .ok n := by
  rw [readInt_eq_ok_iff, fitsInt, leastInt_eq, greatestInt_eq]
  constructor
  · intro h
    exact ⟨h.numeral, h.least, h.greatest⟩
  · intro h
    exact ⟨h.1, h.2.1, h.2.2⟩

/-- A text writes no more than one integer. -/
theorem WritesInteger.unique {bits : Nat} {text : String} {m n : Int}
    (h : WritesInteger bits text m) (h' : WritesInteger bits text n) : m = n :=
  h.numeral.unique h'.numeral

/-- An integer of some bits is one of more bits. -/
theorem WritesInteger.widen {bits wider : Nat} {text : String} {n : Int}
    (h : WritesInteger bits text n) (le : bits ≤ wider) : WritesInteger wider text n := by
  have powers : (2 : Int) ^ (bits - 1) ≤ 2 ^ (wider - 1) :=
    pow_le_pow_right₀ (by decide) (Nat.sub_le_sub_right le 1)
  have least := h.least
  have greatest := h.greatest
  exact ⟨h.numeral, by omega, by omega⟩

theorem faultOfDigits_eq (bits : Nat) (text : String) :
    faultOfDigits bits text =
      (rangeFault? bits (leadingInt text.toList)).getD .invalidDigit := by
  rw [faultOfDigits, rangeFault?, leastInt_eq, greatestInt_eq]
  split
  · rfl
  · split <;> rfl

/-- **A text is read as the integer it writes**, and refused for its first digits if it writes
none. -/
theorem readInt_cases (bits : Nat) (text : String) :
    (∃ n, WritesInteger bits text n ∧ readInt bits text.toList = .ok n) ∨
      (∀ n, ¬ WritesInteger bits text n) ∧
        readInt bits text.toList = .error (faultOfDigits bits text) := by
  cases read_eq : readInt bits text.toList with
  | ok n => exact .inl ⟨n, writesInteger_iff.mpr read_eq, rfl⟩
  | error fault =>
    right
    refine ⟨fun n writes => ?_, ?_⟩
    · rw [writesInteger_iff.mp writes] at read_eq
      cases read_eq
    · rw [faultOfDigits_eq, readInt_eq_error read_eq]

/-! ## Coercion -/

/-- Fields of those types hold integers of so many bits. -/
theorem holdsIntegers_of_bits {type : FieldType} {bits : Nat}
    (width : integerBits? type = some bits) : HoldsIntegers type bits := by
  intro α render dates field raw trimmed
  cases type <;> cases width <;> rfl

section

variable {α : Type} (render : Rendering α) (dates : DatePolicy) {field : Field} {type : FieldType}
  {bits : Nat} {raw : String}

theorem coerce_integer (declared : field.type = some type) (width : integerBits? type = some bits)
    (visible : isBlankText raw = false) :
    coerce render dates field raw = coerceInteger render bits field raw (trim raw) := by
  rw [coerce_of_visible render dates declared visible, holdsIntegers_of_bits width]

theorem coerce_of_writesInteger (declared : field.type = some type)
    (width : integerBits? type = some bits) (visible : isBlankText raw = false) {n : Int}
    (writes : WritesInteger bits (trim raw) n) :
    coerce render dates field raw = .ok (some (render.integer (trim raw) n)) := by
  rw [coerce_integer render dates declared width visible, coerceInteger,
    writesInteger_iff.mp writes]

theorem coerce_of_writesNoInteger (declared : field.type = some type)
    (width : integerBits? type = some bits) (visible : isBlankText raw = false)
    (none_written : ∀ n, ¬ WritesInteger bits (trim raw) n) :
    coerce render dates field raw =
      reject field raw (some (.integer (faultOfDigits bits (trim raw)))) := by
  rw [coerce_integer render dates declared width visible, coerceInteger]
  rcases readInt_cases bits (trim raw) with ⟨n, writes, -⟩ | ⟨-, refused⟩
  · exact absurd writes (none_written n)
  · rw [refused]

/-- **A value is given just for the numerals of integers that fit.** -/
theorem coerce_integer_gives_iff (declared : field.type = some type)
    (width : integerBits? type = some bits) (visible : isBlankText raw = false) (a : α) :
    coerce render dates field raw = .ok (some a) ↔
      ∃ n, WritesInteger bits (trim raw) n ∧ a = render.integer (trim raw) n := by
  constructor
  · intro given
    rcases readInt_cases bits (trim raw) with ⟨n, writes, -⟩ | ⟨none_written, -⟩
    · rw [coerce_of_writesInteger render dates declared width visible writes] at given
      cases given
      exact ⟨n, writes, rfl⟩
    · rw [coerce_of_writesNoInteger render dates declared width visible none_written] at given
      exact absurd given reject_ne_some
  · intro written
    obtain ⟨n, writes, rfl⟩ := written
    exact coerce_of_writesInteger render dates declared width visible writes

end

/-- **Integers are never cut off, wrapped around or misread.** A scalar that is not blank gives a
value in a field of integers just if it is, without the blanks around it, a sign or none and then
ASCII digits, and their number fits the field's width. Then that number is the typed value, the text
is the text without the blanks, and fields of every greater width give the same. Any other scalar is
dropped by a field that ignores malformed values; a field that minds refuses it with its raw text:
as too small or too large if the sign and the longest run of digits after it make a number out of
range, and otherwise for a character that is no digit. -/
theorem coerce_integer_exact (dates : DatePolicy) {field : Field} {type : FieldType} {bits : Nat}
    {raw : String} (declared : field.type = some type) (width : integerBits? type = some bits)
    (visible : isBlankText raw = false) :
    (∀ value, coerceTyped dates field raw = .ok (some value) ↔
      ∃ n, WritesInteger bits (trim raw) n ∧ value = .integer n) ∧
    (∀ text, coerceText dates field raw = .ok (some text) ↔
      (∃ n, WritesInteger bits (trim raw) n) ∧ text = trim raw) ∧
    (∀ n, WritesInteger bits (trim raw) n →
      ∀ (again : DatePolicy) (wide : Field) (wideType : FieldType) (wideBits : Nat),
        wide.type = some wideType → integerBits? wideType = some wideBits → bits ≤ wideBits →
          coerceTyped again wide raw = .ok (some (.integer n)) ∧
            coerceText again wide raw = .ok (some (trim raw))) ∧
    ((∀ n, ¬ WritesInteger bits (trim raw) n) →
      (field.ignoresMalformed = true →
        coerceTyped dates field raw = .ok none ∧ coerceText dates field raw = .ok none) ∧
      (field.ignoresMalformed = false →
        let error := IngestError.malformed field.name field.typeName raw
          (some (.integer (faultOfDigits bits (trim raw))))
        coerceTyped dates field raw = .error error ∧
          coerceText dates field raw = .error error)) := by
  refine ⟨?_, ?_, ?_, ?_⟩
  · intro value
    exact coerce_integer_gives_iff typedRendering dates declared width visible value
  · intro text
    rw [← exists_and_right]
    exact coerce_integer_gives_iff textRendering dates declared width visible text
  · intro n writes again wide wideType wideBits wide_declared wide_width le
    have wide_writes := writes.widen le
    exact ⟨coerce_of_writesInteger typedRendering again wide_declared wide_width visible wide_writes,
      coerce_of_writesInteger textRendering again wide_declared wide_width visible wide_writes⟩
  · intro none_written
    have typed := coerce_of_writesNoInteger typedRendering dates declared width visible none_written
    have text := coerce_of_writesNoInteger textRendering dates declared width visible none_written
    constructor
    · intro ignores
      exact ⟨typed.trans (if_pos ignores), text.trans (if_pos ignores)⟩
    · intro minds
      have minds : ¬ field.ignoresMalformed = true := Bool.eq_false_iff.mp minds
      exact ⟨typed.trans (if_neg minds), text.trans (if_neg minds)⟩

/-- A byte takes the least of its integers, and so does a long; a number that is too small by one is
refused as such, although a letter comes after it. -/
theorem coerce_integer_leastByte :
    (Field.ofType "age" .byte).type = some .byte ∧ integerBits? .byte = some 8 ∧
    isBlankText " -128\n" = false ∧ isBlankText " -129x" = false ∧
    (Field.ofType "age" .byte).ignoresMalformed = false ∧
    WritesInteger 8 (trim " -128\n") (-128) ∧ (∀ n, ¬ WritesInteger 8 (trim " -129x") n) ∧
    coerceTyped .textOnly (Field.ofType "age" .byte) " -128\n" = .ok (some (.integer (-128))) ∧
    coerceTyped .textOnly (Field.ofType "ages" .long) " -128\n" = .ok (some (.integer (-128))) ∧
    coerceText .textOnly (Field.ofType "age" .byte) " -129x" =
      .error (.malformed "age" "byte" " -129x" (some (.integer .tooSmall))) := by
  have declared : (Field.ofType "age" .byte).type = some .byte := rfl
  have visible : isBlankText " -128\n" = false := by decide
  have visible' : isBlankText " -129x" = false := by decide
  have writes : WritesInteger 8 (trim " -128\n") (-128) := writesInteger_iff.mpr rfl
  have none_written : ∀ n, ¬ WritesInteger 8 (trim " -129x") n := by
    intro n writes
    have read_eq := writesInteger_iff.mp writes
    cases read_eq
  obtain ⟨typed, -, wide, -⟩ := coerce_integer_exact .textOnly declared rfl visible
  obtain ⟨-, -, -, refused⟩ := coerce_integer_exact .textOnly declared rfl visible'
  have fault_eq : faultOfDigits 8 (trim " -129x") = .tooSmall := by decide +kernel
  refine ⟨declared, rfl, visible, visible', rfl, writes, none_written, ?_, ?_, ?_⟩
  · exact (typed _).mpr ⟨-128, writes, rfl⟩
  · exact (wide (-128) writes .textOnly (Field.ofType "ages" .long) .long 64 rfl rfl
      (by decide)).1
  · have error_eq := ((refused none_written).2 rfl).2
    rw [fault_eq] at error_eq
    exact error_eq

end Intake
