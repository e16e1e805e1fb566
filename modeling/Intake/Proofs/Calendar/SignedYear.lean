import Intake.Proofs.Calendar.YearInFront

/-!
# Years with a sign

A year that does not have four digits is written with a sign, and no date is read from such a text
(`readDate_canonicalChars_of_signed`). The sign keeps it from the forms that begin with four digits,
from mail headers and from the forms that begin with a day or a month; the forms of a date alone do
take a year with a sign, but the time of day is left over.
-/

namespace Intake.Calendar

open Intake.Text Intake.Numeral

theorem trimLeft_numeral {width n : Nat} {cs : List Char} (numeral : IsNumeralOf (width + 1) n cs)
    (rest : List Char) : trimLeft (cs ++ rest) = cs ++ rest := by
  obtain ⟨length_eq, digits, -⟩ := numeral
  cases cs with
  | nil => cases length_eq
  | cons c cs => exact trimLeft_cons (isBlank_eq_false_of_digit (digits c (by simp))) _

/-! ## Signs -/

/-- The signs of years. -/
def yearSign (year : Int) : Char := if year < 0 then '-' else '+'

theorem isBlank_yearSign (year : Int) : isBlank (yearSign year) = false := by
  unfold yearSign
  split <;> decide

theorem isDecimalDigit_yearSign (year : Int) : isDecimalDigit (yearSign year) = false := by
  unfold yearSign
  split <;> decide

theorem isAsciiDigit_yearSign (year : Int) : isAsciiDigit (yearSign year) = false := by
  unfold yearSign
  split <;> decide

/-- A text with a sign in front is not of a form that begins with four digits. -/
theorem beginsWithYear_yearSign (year : Int) (cs : List Char) :
    beginsWithYear (yearSign year :: cs) = false := by
  unfold beginsWithYear
  split
  · next a b c d separator rest same =>
    obtain rfl := (List.cons.inj same).1
    simp [isDecimalDigit_yearSign]
  · rfl

/-- The sign and the padded year are a year in front. -/
theorem hasYearInFront_yearSign (year : Int) (rest : List Char) :
    HasYearInFront (yearSign year :: (paddedNumeral 4 year.natAbs ++ '-' :: rest)) := by
  have sign_mem : [yearSign year] ∈ signs := by
    unfold yearSign
    split <;> decide
  have some_digits : paddedNumeral 4 year.natAbs ≠ [] := by
    refine List.ne_nil_of_length_pos ?_
    have := le_length_paddedNumeral 4 year.natAbs
    omega
  obtain ⟨-, digits, -⟩ := isNumeralOf_paddedNumeral 4 year.natAbs
  exact .intro sign_mem some_digits
    (fun c mem => isDecimalDigit_of_isAsciiDigit (digits c mem)) rfl

/-! ## Dates alone -/

/-- A year with a sign is read up to the next character. -/
theorem readYear_yearSign (year : Int) (rest : List Char) :
    ∃ y, readYear (yearSign year :: (paddedNumeral 4 year.natAbs ++ '-' :: rest)) =
      some (y, '-' :: rest) := by
  have number_read : readNumber 1 (paddedNumeral 4 year.natAbs ++ '-' :: rest).length
      (paddedNumeral 4 year.natAbs ++ '-' :: rest) = some (year.natAbs, '-' :: rest) := by
    refine readNumber_append (isNumeralOf_paddedNumeral 4 _) ?_ ?_ (.inr ?_)
    · have := le_length_paddedNumeral 4 year.natAbs
      omega
    · rw [List.length_append]
      omega
    · intro c mem
      obtain rfl : '-' = c := by simpa using mem
      decide
  unfold yearSign
  split
  · exact ⟨-year.natAbs, by rw [readYear, number_read]; rfl⟩
  · exact ⟨year.natAbs, by rw [readYear, number_read]; rfl⟩

/-- A number of one or two digits reads two. -/
theorem Piece.read_number_append {part : Part} (not_year : part ≠ .year) (r : Reading) {n : Nat}
    {cs : List Char} (numeral : IsNumeralOf 2 n cs) (rest : List Char) :
    (Piece.number part).read r (cs ++ rest) = some (r.set part n, rest) := by
  rw [Piece.read_number not_year, trimLeft_numeral numeral,
    readNumber_append numeral (by decide) (by decide) (.inl rfl)]
  rfl

/-- **A canonical text whose year has a sign is no date alone:** the forms that take the year leave
its time. -/
theorem readDateAlone?_yearSign (year : Int) {m d : Nat} {month day : List Char}
    (month_numeral : IsNumeralOf 2 m month) (day_numeral : IsNumeralOf 2 d day)
    (time : List Char) :
    readDateAlone? (yearSign year :: (paddedNumeral 4 year.natAbs ++ '-' ::
      (month ++ '-' :: (day ++ 'T' :: time)))) = none := by
  generalize after_eq : month ++ '-' :: (day ++ 'T' :: time) = after
  obtain ⟨y, year_read⟩ := readYear_yearSign year after
  have year_piece : (Piece.number .year).read Reading.start
      (yearSign year :: (paddedNumeral 4 year.natAbs ++ '-' :: after)) =
        some ({ Reading.start with year := y }, '-' :: after) := by
    rw [Piece.read, trimLeft_cons (isBlank_yearSign year), year_read]
    rfl
  obtain ⟨r, time_left⟩ : ∃ r, (yearFirst '-').readFrom Reading.start
      (yearSign year :: (paddedNumeral 4 year.natAbs ++ '-' :: after)) = some (r, 'T' :: time) := by
    rw [yearFirst, Form.readFrom_cons year_piece, Form.readFrom_cons (Piece.read_mark _ _ _),
      ← after_eq, Form.readFrom_cons (Piece.read_number_append (by decide) _ month_numeral _),
      Form.readFrom_cons (Piece.read_mark _ _ _),
      Form.readFrom_cons (Piece.read_number_append (by decide) _ day_numeral _)]
    exact ⟨_, rfl⟩
  exact (hasYearInFront_yearSign year after).trimmed.readDateAlone?_eq_none time_left
    (List.cons_ne_nil _ _)

/-! ## Canonical texts -/

theorem Instant.canonicalChars_of_signed {t : Instant} (signed : ¬ t.HasPlainYear) :
    ∃ time, t.canonicalChars = yearSign t.date.year :: (paddedNumeral 4 t.date.year.natAbs ++
      '-' :: (paddedNumeral 2 t.date.month ++ '-' :: (paddedNumeral 2 t.date.day ++
        'T' :: time))) := by
  have year_eq : yearText t.date.year =
      yearSign t.date.year :: paddedNumeral 4 t.date.year.natAbs := if_neg signed
  exact ⟨_, by rw [t.canonicalChars_eq, year_eq]; rfl⟩

/-- **No date is read from a canonical text whose year has a sign, under either policy.** -/
theorem readDate_canonicalChars_of_signed {t : Instant} (signed : ¬ t.HasPlainYear)
    (policy : DatePolicy) : readDate policy t.canonicalChars = .error .unrecognized := by
  have no_text : readDateText? t.canonicalChars = none := by
    obtain ⟨time, chars_eq⟩ := Instant.canonicalChars_of_signed signed
    have no_mail := (hasYearInFront_yearSign t.date.year (paddedNumeral 2 t.date.month ++
      '-' :: (paddedNumeral 2 t.date.day ++ 'T' :: time))).trimmed.readMail?_eq_none
    rw [readDateText?, chars_eq, beginsWithYear_yearSign, if_neg (by decide), no_mail,
      readDateAlone?_yearSign _ t.month_numeral t.day_numeral]
    rfl
  rw [readDate, epochDigits?_canonicalChars]
  dsimp only
  rw [no_text]

end Intake.Calendar
