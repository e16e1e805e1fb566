import Intake.Proofs.Json.Numbers
import Intake.Proofs.Numeral.Denotation

/-!
# Numbers that are written again

A number is written again as it was read, but for the mark of its power of ten: the letter becomes a
small `e`, and a sign that was left out becomes a plus (`plainMark`). So the text that is written is
again a number (`isNumber_plainMark`), it stays as it is when it is read and written once more
(`plainMark_plainMark`), it denotes the same rational number (`denotes_plainMark`), and two numbers
become the same text only if they differ in nothing but the mark (`plainMark_eq_iff`).
-/

namespace Intake.Json

open Intake.Text Intake.Numeral

/-! ## The mark of a power of ten -/

/-- Is the character the letter of a power of ten? -/
def isMark (c : Char) : Bool := c == 'e' || c == 'E'

/-- A plus is put in front where there is no sign. -/
def putSign (cs : List Char) : List Char := if cs.head?.any isSign then cs else '+' :: cs

/-- The text of a number in which only the mark of the power of ten is made plain: its letter is
written small, and a missing sign is written as a plus. -/
def plainMark : List Char → List Char
  | [] => []
  | c :: cs => if isMark c then 'e' :: putSign cs else c :: plainMark cs

/-- Two texts that are the same but for the mark of a power of ten: its letter, and whether the
plus is written. -/
inductive DiffersInMark : List Char → List Char → Prop where
  | same (n : List Char) : DiffersInMark n n
  | mark {front sign sign' digits : List Char} {mark mark' : Char} {negative : Bool}
      (no_mark : ∀ c ∈ front, isMark c = false) (is_mark : isMark mark = true)
      (is_mark' : isMark mark' = true) (writes_sign : WritesSign sign negative)
      (writes_sign' : WritesSign sign' negative) (are_digits : AreDigits digits) :
      DiffersInMark (front ++ mark :: (sign ++ digits)) (front ++ mark' :: (sign' ++ digits))

theorem isMark_iff {c : Char} : isMark c = true ↔ c = 'e' ∨ c = 'E' := by
  simp [isMark]

theorem isMark_eq_false_of_digit {c : Char} (digit : isAsciiDigit c = true) : isMark c = false := by
  rw [← Bool.not_eq_true, isMark_iff]
  rintro (rfl | rfl) <;> exact absurd digit (by decide)

/-- **Where there is no power of ten, nothing changes.** -/
theorem plainMark_of_no_mark {n : List Char} (no_mark : ∀ c ∈ n, isMark c = false) :
    plainMark n = n := by
  induction n with
  | nil => rfl
  | cons c n ih =>
    obtain ⟨c_other, rest_other⟩ := List.forall_mem_cons.mp no_mark
    rw [plainMark, c_other, ih rest_other]
    rfl

/-- What stands before the mark does not change. -/
theorem plainMark_append {front : List Char} (no_mark : ∀ c ∈ front, isMark c = false)
    (rest : List Char) : plainMark (front ++ rest) = front ++ plainMark rest := by
  induction front with
  | nil => rfl
  | cons c front ih =>
    obtain ⟨c_other, rest_other⟩ := List.forall_mem_cons.mp no_mark
    rw [List.cons_append, plainMark, c_other, ih rest_other]
    rfl

theorem plainMark_mark {mark : Char} (is_mark : isMark mark = true) (rest : List Char) :
    plainMark (mark :: rest) = 'e' :: putSign rest := if_pos is_mark

theorem putSign_putSign (cs : List Char) : putSign (putSign cs) = putSign cs := by
  unfold putSign
  split <;> rfl

/-- **A text that was made plain stays as it is.** -/
theorem plainMark_plainMark (n : List Char) : plainMark (plainMark n) = plainMark n := by
  induction n with
  | nil => rfl
  | cons c n ih =>
    cases is_mark : isMark c with
    | true => rw [plainMark_mark is_mark, plainMark_mark rfl, putSign_putSign]
    | false => simp [plainMark, is_mark, ih]

theorem putSign_append {sign digits : List Char} {negative : Bool}
    (writes_sign : WritesSign sign negative) (are_digits : AreDigits digits) :
    putSign (sign ++ digits) = (if negative then '-' else '+') :: digits := by
  cases writes_sign with
  | plus => rfl
  | minus => rfl
  | none =>
    obtain ⟨d, more, rfl⟩ := List.exists_cons_of_ne_nil are_digits.ne_nil
    have no_sign := isSign_eq_false_of_digit (are_digits.digits d List.mem_cons_self)
    simp [putSign, no_sign]

/-! ## Numbers that are written again -/

/-- The characters of a number before its power of ten. -/
theorem no_mark_front (negative : Bool) {whole point : List Char} {fraction : Option (List Char)}
    (plain : IsPlainWhole whole) (writes_point : WritesFraction point fraction) :
    ∀ c ∈ minusChars negative ++ (whole ++ point), isMark c = false := by
  simp only [List.mem_append]
  intro c mem
  rcases mem with minus | whole_mem | point_mem
  · cases negative with
    | false => cases minus
    | true =>
      obtain rfl := List.mem_singleton.mp minus
      rfl
  · exact isMark_eq_false_of_digit (plain.digits c whole_mem)
  · cases writes_point with
    | none => cases point_mem
    | point digits =>
      rcases List.mem_cons.mp point_mem with rfl | digit_mem
      · rfl
      · exact isMark_eq_false_of_digit (digits c digit_mem)

/-- A power of ten as it is written again. -/
theorem plainMark_power {power : List Char} {exponent : Option Exponent}
    (writes : WritesPower power exponent) :
    plainMark power = (exponent.map Exponent.chars).getD [] := by
  cases writes with
  | none => rfl
  | power is_mark writes_sign are_digits =>
    rw [plainMark_mark (isMark_iff.mpr is_mark), putSign_append writes_sign are_digits]
    rfl

/-- **A number is written again as it was**, but for the mark of its power of ten. -/
theorem WritesNumber.chars_eq {n : List Char} {l : Literal} (h : WritesNumber n l) :
    l.chars = plainMark n := by
  cases h with
  | @intro whole point power fraction exponent negative plain writes_point some_digits
      writes_power =>
    have front := no_mark_front negative plain writes_point
    have regroup : minusChars negative ++ (whole ++ (point ++ power)) =
        minusChars negative ++ (whole ++ point) ++ power := by simp
    rw [chars_eq_append, regroup, plainMark_append front, plainMark_power writes_power,
      WritesFraction.point_eq writes_point]
    simp

/-- What is written is again a number, and the same one. -/
theorem WritesNumber.chars {n : List Char} {l : Literal} (h : WritesNumber n l) :
    WritesNumber l.chars l := by
  cases h with
  | @intro whole point power fraction exponent negative plain writes_point some_digits
      writes_power =>
    have writes_again : WritesPower ((exponent.map Exponent.chars).getD []) exponent := by
      cases writes_power with
      | none => exact .none
      | @power _ _ digits negative _ _ are_digits =>
        have mark : 'e' = 'e' ∨ 'e' = 'E' := .inl rfl
        cases negative with
        | false => exact WritesPower.power mark .plus are_digits
        | true => exact WritesPower.power mark .minus are_digits
    rw [chars_eq_append, ← WritesFraction.point_eq writes_point]
    exact .intro negative plain writes_point some_digits writes_again

theorem isNumber_plainMark {n : List Char} (h : IsNumber n) : IsNumber (plainMark n) := by
  obtain ⟨l, writes⟩ := h
  exact ⟨l, writes.chars_eq ▸ writes.chars⟩

/-- **The number that is written is the same rational number.** -/
theorem denotes_plainMark {n : List Char} (h : IsNumber n) (q : ℚ) :
    Denotes (plainMark n) q ↔ Denotes n q := by
  obtain ⟨l, writes⟩ := h
  have written_again := writes.chars
  rw [writes.chars_eq] at written_again
  rw [written_again.writesLiteral.denotes_iff, writes.writesLiteral.denotes_iff]

/-- **Two numbers are written as one text** just if they differ in nothing but the mark. -/
theorem plainMark_eq_iff {n n' : List Char} (h : IsNumber n) (h' : IsNumber n') :
    plainMark n = plainMark n' ↔ DiffersInMark n n' := by
  constructor
  · intro same
    -- What is written again is read as the number it comes from, so both texts write one number.
    obtain ⟨l, writes⟩ := h
    obtain ⟨l', writes'⟩ := h'
    have chars_same : l.chars = l'.chars := by rw [writes.chars_eq, writes'.chars_eq, same]
    obtain rfl : l = l' := (chars_same ▸ writes.chars).unique writes'.chars
    -- One number has one sign, one row of digits and one point; only its mark is open.
    cases writes with
    | @intro whole point power fraction exponent negative plain writes_point _ writes_power =>
      cases writes' with
      | @intro _ point' power' _ _ _ _ writes_point' _ writes_power' =>
        obtain rfl : point = point' :=
          (WritesFraction.point_eq writes_point).trans (WritesFraction.point_eq writes_point').symm
        have front := no_mark_front negative plain writes_point
        cases writes_power with
        | none =>
          cases writes_power'
          exact .same _
        | power is_mark writes_sign are_digits =>
          cases writes_power' with
          | power is_mark' writes_sign' _ =>
            have differs := DiffersInMark.mark front (isMark_iff.mpr is_mark)
              (isMark_iff.mpr is_mark') writes_sign writes_sign' are_digits
            simpa using differs
  · intro differs
    cases differs with
    | same => rfl
    | mark no_mark is_mark is_mark' writes_sign writes_sign' are_digits =>
      rw [plainMark_append no_mark, plainMark_append no_mark, plainMark_mark is_mark,
        plainMark_mark is_mark', putSign_append writes_sign are_digits,
        putSign_append writes_sign' are_digits]

end Intake.Json
