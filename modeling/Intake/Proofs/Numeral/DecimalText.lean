import Intake.Numeral.Float
import Intake.Proofs.Json.Follow
import Intake.Proofs.Numeral.Integer
import Intake.Proofs.Text.Numeral

/-!
# The texts of decimal numbers

What a decimal literal is, as a grammar: a sign or none, digits, perhaps a point with more digits,
at least one digit on either side of it, and perhaps a power of ten (`WritesLiteral`). The reader of
floating-point numbers takes exactly the texts of this grammar, each as the literal that is written
(`readFloat?_eq_literal_iff`), and besides them the words for infinity and for "not a number"
(`readFloat?_eq_word_iff`).
-/

namespace Intake.Numeral

open Intake.Text

/-! ## The grammar -/

/-- A sign, or none. -/
inductive WritesSign : List Char → Bool → Prop where
  | none : WritesSign [] false
  | plus : WritesSign ['+'] false
  | minus : WritesSign ['-'] true

/-- A point and digits after it, even none, or no point. -/
inductive WritesFraction : List Char → Option (List Char) → Prop where
  | none : WritesFraction [] none
  | point {digits : List Char} (all : ∀ c ∈ digits, isAsciiDigit c = true) :
      WritesFraction ('.' :: digits) (some digits)

/-- The letter of a power of ten, a sign or none, and at least one digit, or no power of ten. -/
inductive WritesPower : List Char → Option Exponent → Prop where
  | none : WritesPower [] none
  | power {mark : Char} {sign digits : List Char} {negative : Bool}
      (is_mark : mark = 'e' ∨ mark = 'E') (writes_sign : WritesSign sign negative)
      (are_digits : AreDigits digits) :
      WritesPower (mark :: (sign ++ digits)) (some ⟨negative, digits⟩)

/-- The characters of a literal after its sign. -/
inductive WritesUnsigned : List Char → Literal → Prop where
  | intro {whole point power : List Char} {fraction : Option (List Char)}
      {exponent : Option Exponent} (negative : Bool)
      (whole_digits : ∀ c ∈ whole, isAsciiDigit c = true)
      (writes_point : WritesFraction point fraction)
      (some_digit : whole ≠ [] ∨ fraction.getD [] ≠ [])
      (writes_power : WritesPower power exponent) :
      WritesUnsigned (whole ++ (point ++ power)) ⟨negative, whole, fraction, exponent⟩

/-- The characters of a literal. -/
inductive WritesLiteral : List Char → Literal → Prop where
  | intro {sign unsigned : List Char} {l : Literal} (writes_sign : WritesSign sign l.negative)
      (writes_unsigned : WritesUnsigned unsigned l) : WritesLiteral (sign ++ unsigned) l

/-- A word for infinity or for "not a number", in letters of either case, perhaps after a sign. -/
def IsFloatWord (cs : List Char) : Prop :=
  ∃ sign negative word, WritesSign sign negative ∧ word.map Char.toLower ∈ floatWords ∧
    cs = sign ++ word

/-! ## Signs -/

/-- Is the character a sign? -/
def isSign (c : Char) : Bool := c == '+' || c == '-'

theorem isSign_iff {c : Char} : isSign c = true ↔ c = '+' ∨ c = '-' := by
  simp [isSign]

theorem isSign_eq_false_of_digit {c : Char} (digit : isAsciiDigit c = true) : isSign c = false := by
  rw [← Bool.not_eq_true, isSign_iff]
  rintro (rfl | rfl) <;> exact absurd digit (by decide)

/-- What is cut off in front of the rest is a sign or nothing. -/
theorem exists_writesSign {cs rest : List Char} {negative : Bool}
    (h : readSign cs = (negative, rest)) : ∃ sign, cs = sign ++ rest ∧ WritesSign sign negative := by
  unfold readSign at h
  split at h
  · cases h
    exact ⟨['-'], rfl, .minus⟩
  · cases h
    exact ⟨['+'], rfl, .plus⟩
  · cases h
    exact ⟨[], rfl, .none⟩

/-- A sign is read if no other follows. -/
theorem WritesSign.readSign_append {sign rest : List Char} {negative : Bool}
    (h : WritesSign sign negative) (no_sign : Json.Ends isSign rest) :
    readSign (sign ++ rest) = (negative, rest) := by
  cases h with
  | plus => rfl
  | minus => rfl
  | none =>
    rw [List.nil_append]
    unfold readSign
    split
    · next digits => exact absurd (no_sign '-' rfl) (by decide)
    · next digits => exact absurd (no_sign '+' rfl) (by decide)
    · rfl

theorem AreDigits.no_sign {digits : List Char} (h : AreDigits digits) :
    Json.Ends isSign digits := by
  intro c first
  exact isSign_eq_false_of_digit (h.digits c (List.mem_of_mem_head? first))

/-! ## Points and powers -/

/-- What is cut off in front of the rest is a point with its digits or nothing. -/
theorem exists_writesFraction {cs rest : List Char} {fraction : Option (List Char)}
    (h : readFraction cs = (fraction, rest)) :
    ∃ point, cs = point ++ rest ∧ WritesFraction point fraction := by
  unfold readFraction at h
  split at h
  · cases h
    obtain ⟨text_eq, digits⟩ := Json.of_splitDigits_eq rfl
    exact ⟨_, congrArg ('.' :: ·) text_eq, .point digits⟩
  · cases h
    exact ⟨[], rfl, .none⟩

/-- A point with its digits is read if no more of them follow. -/
theorem WritesFraction.readFraction_append {point rest : List Char} {fraction : Option (List Char)}
    (h : WritesFraction point fraction) (ends : Json.Ends Json.isFractionChar rest) :
    readFraction (point ++ rest) = (fraction, rest) := by
  cases h with
  | none =>
    rw [List.nil_append]
    unfold readFraction
    split
    · next digits => exact absurd (ends '.' rfl) (by decide)
    · rfl
  | point digits =>
    have no_digit : Json.Ends isAsciiDigit rest :=
      ends.mono fun c digit => by rw [Json.isFractionChar, digit, Bool.true_or]
    rw [List.cons_append, readFraction, Json.splitDigits_of_ends digits no_digit]

theorem WritesPower.ends {power : List Char} {exponent : Option Exponent}
    (h : WritesPower power exponent) : Json.Ends Json.isFractionChar power := by
  cases h with
  | none => exact .nil
  | power is_mark _ _ =>
    refine .cons ?_ _
    rcases is_mark with rfl | rfl <;> decide

/-- **A power of ten is read** just if it is one. -/
theorem readExponent?_eq_some_iff {cs : List Char} {exponent : Option Exponent} :
    readExponent? cs = some exponent ↔ WritesPower cs exponent := by
  constructor
  · intro read
    unfold readExponent? at read
    split at read
    · cases read
      exact .none
    · next mark rest =>
      split at read
      · next is_mark =>
        cases sign_eq : readSign rest with
        | mk negative digits =>
          obtain ⟨sign, rfl, writes_sign⟩ := exists_writesSign sign_eq
          rw [sign_eq] at read
          dsimp only at read
          split at read
          · next are_digits =>
            cases read
            exact .power is_mark writes_sign ⟨are_digits.1, List.all_eq_true.mp are_digits.2⟩
          · cases read
      · cases read
  · intro writes
    cases writes with
    | none => rfl
    | power is_mark writes_sign are_digits =>
      have sign_read := writes_sign.readSign_append are_digits.no_sign
      have all := List.all_eq_true.mpr are_digits.digits
      rw [readExponent?, if_pos is_mark, sign_read]
      exact if_pos ⟨are_digits.ne_nil, all⟩

/-! ## Literals -/

theorem WritesFraction.ends {point : List Char} {fraction : Option (List Char)}
    (h : WritesFraction point fraction) {rest : List Char}
    (ends : Json.Ends isAsciiDigit rest) : Json.Ends isAsciiDigit (point ++ rest) := by
  cases h with
  | none => exact ends
  | point digits => exact .cons (by decide) _

/-- **A literal is read after its sign** just if it is written there. -/
theorem readUnsigned?_eq_some_iff {negative : Bool} {cs : List Char} {l : Literal} :
    readUnsigned? negative cs = some l ↔ WritesUnsigned cs l ∧ l.negative = negative := by
  constructor
  · intro read
    unfold readUnsigned? at read
    cases whole_eq : splitDigits cs with
    | mk whole after =>
    cases point_eq : readFraction after with
    | mk fraction power =>
      obtain ⟨rfl, digits⟩ := Json.of_splitDigits_eq whole_eq
      obtain ⟨point, rfl, writes_point⟩ := exists_writesFraction point_eq
      rw [whole_eq] at read
      dsimp only at read
      rw [point_eq] at read
      dsimp only at read
      split at read
      · cases read
      · next some_digit =>
        obtain ⟨exponent, power_read, rfl⟩ := Option.map_eq_some_iff.mp read
        exact ⟨.intro negative digits writes_point (not_and_or.mp some_digit)
          (readExponent?_eq_some_iff.mp power_read), rfl⟩
  · intro h
    obtain ⟨writes, rfl⟩ := h
    cases writes with
    | intro negative digits writes_point some_digit writes_power =>
      have no_fraction := writes_power.ends
      have no_digit : Json.Ends isAsciiDigit _ :=
        no_fraction.mono fun c digit => by rw [Json.isFractionChar, digit, Bool.true_or]
      have whole_read := Json.splitDigits_of_ends digits (writes_point.ends no_digit)
      have point_read := writes_point.readFraction_append no_fraction
      have power_read := readExponent?_eq_some_iff.mpr writes_power
      unfold readUnsigned?
      rw [whole_read]
      dsimp only
      rw [point_read]
      dsimp only
      rw [if_neg (not_and_or.mpr some_digit), power_read]
      rfl

/-- A literal begins, after its sign, with a digit or a point. -/
theorem WritesUnsigned.exists_head {cs : List Char} {l : Literal} (h : WritesUnsigned cs l) :
    ∃ c rest, cs = c :: rest ∧ Json.isFractionChar c = true := by
  cases h with
  | @intro whole point power fraction exponent negative digits writes_point some_digit _ =>
    cases whole with
    | cons c more =>
      refine ⟨c, _, rfl, ?_⟩
      rw [Json.isFractionChar, digits c List.mem_cons_self, Bool.true_or]
    | nil =>
      cases writes_point with
      | none => exact absurd rfl (some_digit.resolve_left fun none => none rfl)
      | point _ => exact ⟨'.', _, rfl, by decide⟩

theorem isSign_eq_false_of_fractionChar {c : Char} (front : Json.isFractionChar c = true) :
    isSign c = false := by
  rw [← Bool.not_eq_true, isSign_iff]
  rintro (rfl | rfl) <;> exact absurd front (by decide)

theorem WritesUnsigned.no_sign {cs : List Char} {l : Literal} (h : WritesUnsigned cs l) :
    Json.Ends isSign cs := by
  obtain ⟨c, rest, rfl, front⟩ := h.exists_head
  exact .cons (isSign_eq_false_of_fractionChar front) rest

/-! ## Words -/

theorem floatWords_head :
    ∀ word ∈ floatWords, word.head? = some 'i' ∨ word.head? = some 'n' := by decide

/-- No word begins with a digit. -/
theorem not_mem_floatWords {c : Char} (digit : isAsciiDigit c = true) (rest : List Char) :
    (c :: rest).map Char.toLower ∉ floatWords := by
  have all : ∀ k < 10, (Char.ofNat (48 + k)).toLower ≠ 'i' ∧
      (Char.ofNat (48 + k)).toLower ≠ 'n' := by decide
  obtain ⟨n, n_lt, rfl, -⟩ := exists_eq_digitChar digit
  obtain ⟨no_i, no_n⟩ := all (n % 10) (Nat.mod_lt n (by decide))
  intro word
  rcases floatWords_head _ word with head | head
  · exact no_i (Option.some.inj head)
  · exact no_n (Option.some.inj head)

/-- A word begins with a letter. -/
theorem exists_head_of_floatWord {word : List Char} (h : word.map Char.toLower ∈ floatWords) :
    ∃ c rest, word = c :: rest ∧ Json.isFractionChar c = false ∧ isSign c = false := by
  cases word with
  | nil => exact absurd h (by decide)
  | cons c rest =>
    have other (d : Char) (no_i : d.toLower ≠ 'i') (no_n : d.toLower ≠ 'n') : c ≠ d := by
      rintro rfl
      rcases floatWords_head _ h with head | head
      · exact no_i (Option.some.inj head)
      · exact no_n (Option.some.inj head)
    have no_digit : isAsciiDigit c = false := by
      rw [← Bool.not_eq_true]
      intro digit
      exact not_mem_floatWords digit rest h
    refine ⟨c, rest, rfl, ?_, ?_⟩
    · have no_point := other '.' (by decide) (by decide)
      simp [Json.isFractionChar, no_digit, no_point]
    · rw [← Bool.not_eq_true, isSign_iff]
      rintro (plus | minus)
      · exact other '+' (by decide) (by decide) plus
      · exact other '-' (by decide) (by decide) minus

/-! ## Floating-point texts -/

/-- **The reader takes just the texts of literals**, each as the literal that is written. -/
theorem readFloat?_eq_literal_iff {cs : List Char} {l : Literal} :
    readFloat? cs = some (.literal l) ↔ WritesLiteral cs l := by
  constructor
  · intro read
    unfold readFloat? at read
    cases sign_eq : readSign cs with
    | mk negative rest =>
      obtain ⟨sign, rfl, writes_sign⟩ := exists_writesSign sign_eq
      rw [sign_eq] at read
      dsimp only at read
      split at read
      · cases read
      · obtain ⟨l', unsigned_read, same⟩ := Option.map_eq_some_iff.mp read
        cases same
        obtain ⟨writes, rfl⟩ := readUnsigned?_eq_some_iff.mp unsigned_read
        exact .intro writes_sign writes
  · intro writes
    cases writes with
    | @intro sign unsigned l writes_sign writes_unsigned =>
      have sign_read := writes_sign.readSign_append writes_unsigned.no_sign
      have no_word : unsigned.map Char.toLower ∉ floatWords := by
        intro word
        obtain ⟨c, rest, unsigned_eq, front⟩ := writes_unsigned.exists_head
        obtain ⟨d, more, unsigned_eq', letter, -⟩ := exists_head_of_floatWord word
        obtain ⟨rfl, -⟩ := List.cons.inj (unsigned_eq.symm.trans unsigned_eq')
        rw [front] at letter
        cases letter
      unfold readFloat?
      rw [sign_read]
      dsimp only
      rw [if_neg no_word, readUnsigned?_eq_some_iff.mpr ⟨writes_unsigned, rfl⟩]
      rfl

/-- **The reader knows the words for infinity and for "not a number".** -/
theorem readFloat?_eq_word_iff {cs : List Char} :
    readFloat? cs = some .word ↔ IsFloatWord cs := by
  constructor
  · intro read
    unfold readFloat? at read
    cases sign_eq : readSign cs with
    | mk negative rest =>
      obtain ⟨sign, rfl, writes_sign⟩ := exists_writesSign sign_eq
      rw [sign_eq] at read
      dsimp only at read
      split at read
      · next word => exact ⟨sign, negative, rest, writes_sign, word, rfl⟩
      · obtain ⟨l, -, same⟩ := Option.map_eq_some_iff.mp read
        cases same
  · intro h
    obtain ⟨sign, negative, word, writes_sign, is_word, rfl⟩ := h
    obtain ⟨c, rest, rfl, -, no_sign⟩ := exists_head_of_floatWord is_word
    unfold readFloat?
    rw [writes_sign.readSign_append (.cons no_sign rest)]
    exact if_pos is_word

/-- A text writes one literal at most. -/
theorem WritesLiteral.unique {cs : List Char} {l l' : Literal} (h : WritesLiteral cs l)
    (h' : WritesLiteral cs l') : l = l' := by
  have read := readFloat?_eq_literal_iff.mpr h
  rw [readFloat?_eq_literal_iff.mpr h'] at read
  cases read
  rfl

end Intake.Numeral
