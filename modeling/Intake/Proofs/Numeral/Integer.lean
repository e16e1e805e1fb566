import Intake.Numeral.Integer

/-!
# Integers are read exactly

Reading an integer of a width takes exactly the decimal numerals of the integers of that width
(`readInt_eq_ok_iff`). The range check at each digit refuses no numeral that fits as a whole, since
further digits only lead away from zero (`fitsInt_of_le`).

What is refused is refused for the number that its sign and its first digits make, if that is out of
range, and else for a character that is no digit (`readInt_eq_error`).
-/

namespace Intake.Numeral

open Intake.Text

/-- At least one digit, and digits only. -/
structure AreDigits (cs : List Char) : Prop where
  ne_nil : cs ≠ []
  digits : ∀ c ∈ cs, isAsciiDigit c = true

/-- The characters are a decimal numeral of an integer: digits, after a sign or without one. -/
inductive IsIntegerText : List Char → Int → Prop where
  | unsigned {cs : List Char} (digits : AreDigits cs) : IsIntegerText cs (digitsValue cs)
  | plus {cs : List Char} (digits : AreDigits cs) : IsIntegerText ('+' :: cs) (digitsValue cs)
  | minus {cs : List Char} (digits : AreDigits cs) : IsIntegerText ('-' :: cs) (-digitsValue cs)

/-! ## Magnitudes -/

/-- The integer of a sign and a magnitude. -/
def withSign (negative : Bool) (magnitude : Nat) : Int :=
  if negative then -magnitude else magnitude

theorem withSign_zero (negative : Bool) : withSign negative 0 = 0 := by
  cases negative <;> rfl

/-- Appending a digit appends it to the magnitude. -/
theorem appendDigit_withSign (negative : Bool) (magnitude digit : Nat) :
    appendDigit negative (withSign negative magnitude) digit =
      withSign negative (10 * magnitude + digit) := by
  cases negative with
  | false => simp [appendDigit, withSign]
  | true =>
    simp only [appendDigit, withSign, if_true]
    omega

/-- Closer to zero, a number still fits. -/
theorem fitsInt_of_le {bits m n : Nat} {negative : Bool} (le : m ≤ n)
    (h : fitsInt bits (withSign negative n)) : fitsInt bits (withSign negative m) := by
  have zero_fits := twoTo_pos (bits - 1)
  cases negative <;> simp only [fitsInt, leastInt, greatestInt, withSign, Bool.false_eq_true,
    if_true, if_false] at h ⊢ <;> omega

/-- The number that digits make when they are appended to a magnitude. -/
def appendDigits (magnitude : Nat) (cs : List Char) : Nat :=
  cs.foldl (fun value c => 10 * value + (asciiDigit? c).getD 0) magnitude

theorem le_appendDigits (magnitude : Nat) (cs : List Char) :
    magnitude ≤ appendDigits magnitude cs := by
  induction cs generalizing magnitude with
  | nil => exact Nat.le_refl _
  | cons c rest ih =>
    have step := ih (10 * magnitude + (asciiDigit? c).getD 0)
    rw [appendDigits, List.foldl_cons]
    exact Nat.le_trans (by omega) step

theorem isAsciiDigit_iff {c : Char} : isAsciiDigit c = true ↔ ∃ digit, asciiDigit? c = some digit := by
  unfold asciiDigit?
  split <;> simp_all

/-! ## Reading -/

/-- **Reading digits onto a number** succeeds just if they are digits and the whole number fits. -/
theorem readIntDigits_eq_ok_iff {bits magnitude : Nat} {negative : Bool}
    (fits : fitsInt bits (withSign negative magnitude)) (cs : List Char) (n : Int) :
    readIntDigits bits negative (withSign negative magnitude) cs = .ok n ↔
      (∀ c ∈ cs, isAsciiDigit c = true) ∧ n = withSign negative (appendDigits magnitude cs) ∧
        fitsInt bits n := by
  induction cs generalizing magnitude with
  | nil =>
    simp only [readIntDigits, appendDigits, List.foldl_nil, Except.ok.injEq]
    constructor
    · rintro rfl
      exact ⟨by simp, rfl, fits⟩
    · rintro ⟨-, rfl, -⟩
      rfl
  | cons c rest ih =>
    rw [readIntDigits, List.forall_mem_cons, isAsciiDigit_iff]
    cases digit_eq : asciiDigit? c with
    | none => simp
    | some digit =>
      have digits_eq : appendDigits magnitude (c :: rest) =
          appendDigits (10 * magnitude + digit) rest := by
        rw [appendDigits, List.foldl_cons, digit_eq]
        rfl
      rw [digits_eq]
      dsimp only
      rw [appendDigit_withSign]
      by_cases next_fits : fitsInt bits (withSign negative (10 * magnitude + digit))
      · rw [if_neg (Int.not_lt.mpr next_fits.1), if_neg (Int.not_lt.mpr next_fits.2),
          ih next_fits]
        simp
      · refine iff_of_false ?_ ?_
        · intro in_range
          split at in_range
          · cases in_range
          · split at in_range
            · cases in_range
            · exact next_fits ⟨by omega, by omega⟩
        · -- what is out of range now stays out of range
          rintro ⟨-, n_eq, n_fits⟩
          exact next_fits (fitsInt_of_le (le_appendDigits _ rest) (n_eq ▸ n_fits))

/-- A digit is no sign. -/
theorem readSign_of_digit {c : Char} (digit : isAsciiDigit c = true) (rest : List Char) :
    readSign (c :: rest) = (false, c :: rest) := by
  unfold readSign
  split
  · next eq => cases eq; exact absurd digit (by decide)
  · next eq => cases eq; exact absurd digit (by decide)
  · rfl

theorem readSign_of_areDigits {cs : List Char} (h : AreDigits cs) : readSign cs = (false, cs) := by
  match cs, h with
  | [], h => exact absurd rfl h.ne_nil
  | c :: rest, h => exact readSign_of_digit (h.digits c (by simp)) rest

/-- What is left after the sign tells the numeral. -/
theorem isIntegerText_iff {cs : List Char} {n : Int} :
    IsIntegerText cs n ↔
      AreDigits (readSign cs).2 ∧ n = withSign (readSign cs).1 (digitsValue (readSign cs).2) := by
  constructor
  · rintro (digits | digits | digits)
    · rw [readSign_of_areDigits digits]
      exact ⟨digits, rfl⟩
    · exact ⟨digits, rfl⟩
    · exact ⟨digits, rfl⟩
  · rintro ⟨digits, rfl⟩
    revert digits
    unfold readSign
    split
    · exact .minus
    · exact .plus
    · exact .unsigned

/-- **Exactly the numerals of the integers of a width are read**, each as its integer. -/
theorem readInt_eq_ok_iff {bits : Nat} {cs : List Char} {n : Int} :
    readInt bits cs = .ok n ↔ IsIntegerText cs n ∧ fitsInt bits n := by
  have zero_fits : fitsInt bits 0 := by
    have positive := twoTo_pos (bits - 1)
    constructor <;> simp only [leastInt, greatestInt] <;> omega
  rw [isIntegerText_iff, readInt]
  obtain ⟨negative, digits⟩ := readSign cs
  cases digits with
  | nil => exact iff_of_false nofun fun ⟨⟨digits, _⟩, _⟩ => digits.ne_nil rfl
  | cons c rest =>
    have read := readIntDigits_eq_ok_iff ((withSign_zero negative).symm ▸ zero_fits) (c :: rest) n
    rw [withSign_zero] at read
    rw [read]
    constructor
    · rintro ⟨digits, n_eq, fits⟩
      exact ⟨⟨⟨by simp, digits⟩, n_eq⟩, fits⟩
    · rintro ⟨⟨digits, n_eq⟩, fits⟩
      exact ⟨digits.digits, n_eq, fits⟩

/-- A numeral tells its integer. -/
theorem IsIntegerText.unique {cs : List Char} {m n : Int} (h : IsIntegerText cs m)
    (h' : IsIntegerText cs n) : m = n := by
  rw [(isIntegerText_iff.mp h).2, (isIntegerText_iff.mp h').2]

/-! ## Refusing -/

/-- What is wrong with a number that is out of range. -/
def rangeFault? (bits : Nat) (n : Int) : Option IntegerFault :=
  if n < leastInt bits then some .tooSmall
  else if greatestInt bits < n then some .tooLarge
  else none

theorem rangeFault?_of_fits {bits : Nat} {n : Int} (fits : fitsInt bits n) :
    rangeFault? bits n = none := by
  rw [rangeFault?, if_neg (Int.not_lt.mpr fits.1), if_neg (Int.not_lt.mpr fits.2)]

/-- Farther from zero, a number is out of range on the same side. -/
theorem rangeFault?_of_le {bits m n : Nat} {negative : Bool} (le : m ≤ n) {fault : IntegerFault}
    (h : rangeFault? bits (withSign negative m) = some fault) :
    rangeFault? bits (withSign negative n) = some fault := by
  have zero_fits := twoTo_pos (bits - 1)
  unfold rangeFault? leastInt greatestInt at *
  cases negative <;> simp only [withSign, Bool.false_eq_true, if_true, if_false] at h ⊢
  · rw [if_neg (by omega)] at h ⊢
    split at h
    · rw [if_pos (by omega), h]
    · cases h
  · split at h
    · rw [if_pos (by omega), h]
    · rw [if_neg (by omega)] at h
      cases h

/-- **Why digits are not read onto a number**: the digits in front take it out of range, or they are
not all. -/
theorem readIntDigits_eq_error {bits magnitude : Nat} {negative : Bool} {cs : List Char}
    (fits : fitsInt bits (withSign negative magnitude)) {fault : IntegerFault}
    (h : readIntDigits bits negative (withSign negative magnitude) cs = .error fault) :
    (rangeFault? bits (withSign negative
      (appendDigits magnitude (cs.takeWhile isAsciiDigit)))).getD .invalidDigit = fault := by
  induction cs generalizing magnitude with
  | nil => cases h
  | cons c rest ih =>
    rw [readIntDigits] at h
    cases digit_eq : asciiDigit? c with
    | none =>
      have other : ¬ isAsciiDigit c = true := by simp [isAsciiDigit_iff, digit_eq]
      rw [digit_eq] at h
      rw [List.takeWhile_cons_of_neg other, appendDigits, List.foldl_nil,
        rangeFault?_of_fits fits]
      exact Except.error.inj h
    | some digit =>
      have is_digit : isAsciiDigit c = true := isAsciiDigit_iff.mpr ⟨digit, digit_eq⟩
      have digits_eq : appendDigits magnitude ((c :: rest).takeWhile isAsciiDigit) =
          appendDigits (10 * magnitude + digit) (rest.takeWhile isAsciiDigit) := by
        rw [List.takeWhile_cons_of_pos is_digit, appendDigits, List.foldl_cons, digit_eq]
        rfl
      rw [digit_eq] at h
      dsimp only at h
      rw [appendDigit_withSign] at h
      rw [digits_eq]
      by_cases next_fits : fitsInt bits (withSign negative (10 * magnitude + digit))
      · rw [if_neg (Int.not_lt.mpr next_fits.1), if_neg (Int.not_lt.mpr next_fits.2)] at h
        exact ih next_fits h
      · -- the first digit that leads out of range decides
        have next_fault :
            rangeFault? bits (withSign negative (10 * magnitude + digit)) = some fault := by
          rw [rangeFault?]
          split at h
          · next small => rw [if_pos small, Except.error.inj h]
          · next not_small =>
            rw [if_neg not_small]
            split at h
            · next large => rw [if_pos large, Except.error.inj h]
            · exact absurd ⟨by omega, by omega⟩ next_fits
        rw [rangeFault?_of_le (le_appendDigits _ _) next_fault, Option.getD_some]

/-- The number that the sign of a text and the longest run of digits after it make. -/
def leadingInt (cs : List Char) : Int :=
  withSign (readSign cs).1 (digitsValue ((readSign cs).2.takeWhile isAsciiDigit))

/-- **Why a text is no integer of a width**: the number that it begins with is out of range, or, if
there is no such fault, it is no numeral. -/
theorem readInt_eq_error {bits : Nat} {cs : List Char} {fault : IntegerFault}
    (h : readInt bits cs = .error fault) :
    (rangeFault? bits (leadingInt cs)).getD .invalidDigit = fault := by
  have zero_fits : fitsInt bits 0 := by
    have positive := twoTo_pos (bits - 1)
    constructor <;> simp only [leastInt, greatestInt] <;> omega
  rw [readInt] at h
  rw [leadingInt]
  generalize readSign cs = signed at h ⊢
  obtain ⟨negative, digits⟩ := signed
  have zero_eq := withSign_zero negative
  cases digits with
  | nil =>
    rw [List.takeWhile_nil]
    show (rangeFault? bits (withSign negative 0)).getD .invalidDigit = fault
    rw [zero_eq, rangeFault?_of_fits zero_fits]
    exact Except.error.inj h
  | cons c rest => exact readIntDigits_eq_error (zero_eq ▸ zero_fits) (zero_eq ▸ h)

end Intake.Numeral
