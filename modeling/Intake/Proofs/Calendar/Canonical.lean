import Intake.Calendar.Recognize
import Intake.Proofs.Calendar.Gregorian
import Intake.Proofs.Calendar.Proper

/-!
# Reading canonical texts

The canonical text of a proper instant whose year has four digits is read back as that instant
without what lies below its milliseconds (`readDate_canonicalChars`): no number policy touches it,
it begins with a year, and the first of the forms, the internet form, reads every numeral with the
width it was written with.
-/

namespace Intake.Calendar

open Intake.Text Intake.Numeral

/-- The instant without what lies below its milliseconds. -/
def Instant.truncated (t : Instant) : Instant :=
  { t with nanos := t.nanos / 1000000 * 1000000 }

/-- Does the year of the instant have four digits? -/
def Instant.HasPlainYear (t : Instant) : Prop := 0 ≤ t.date.year ∧ t.date.year ≤ 9999

instance (t : Instant) : Decidable t.HasPlainYear := inferInstanceAs (Decidable (_ ∧ _))

theorem Instant.HasPlainYear.yearText_eq {t : Instant} (plain : t.HasPlainYear) :
    yearText t.date.year = paddedNumeral 4 t.date.year.toNat := if_pos plain

/-- The numerals of a canonical text and the characters between them. -/
theorem Instant.canonicalChars_eq (t : Instant) :
    t.canonicalChars = yearText t.date.year ++ '-' :: (paddedNumeral 2 t.date.month ++ '-' ::
      (paddedNumeral 2 t.date.day ++ 'T' :: (paddedNumeral 2 (t.secondOfDay / 3600) ++ ':' ::
        (paddedNumeral 2 (t.secondOfDay / 60 % 60) ++ ':' :: (paddedNumeral 2 t.shownSecond ++
          '.' :: (paddedNumeral 3 (t.shownNanos / 1000000) ++ ['Z'])))))) := by
  simp only [Instant.canonicalChars, Instant.textWith, Date.text, Instant.timeText,
    List.append_assoc, List.cons_append]

/-- **Dropping what lies below the milliseconds leaves the canonical text as it is.** -/
theorem Instant.canonicalChars_truncated (t : Instant) :
    t.truncated.canonicalChars = t.canonicalChars := by
  have second_eq : t.truncated.shownSecond = t.shownSecond := by
    simp only [Instant.shownSecond, Instant.truncated, Instant.secondOfDay, secondNanos]
    omega
  have millis_eq : t.truncated.shownNanos / 1000000 = t.shownNanos / 1000000 := by
    simp only [Instant.shownNanos, Instant.truncated, secondNanos]
    omega
  rw [Instant.canonicalChars_eq, Instant.canonicalChars_eq, second_eq, millis_eq]
  rfl

/-! ## Bounds -/

theorem Date.month_day_le {date : Date} (h : date.isValid = true) :
    date.month ≤ 12 ∧ date.day ≤ 31 := by
  simp only [Date.isValid, Bool.and_eq_true, decide_eq_true_eq] at h
  obtain ⟨first, last⟩ := h
  unfold monthLength at last
  split at last
  all_goals try exact ⟨by omega, by omega⟩
  split at last <;> exact ⟨by omega, by omega⟩

/-- The dates with a year of four digits are far from the ends of the supported range. -/
theorem Date.dayNumber_bounds {date : Date} (valid : date.isValid = true)
    (year : 0 ≤ date.year ∧ date.year ≤ 9999) :
    -1000000 < date.dayNumber ∧ date.dayNumber < 4000000 := by
  obtain ⟨month_le, day_le⟩ := Date.month_day_le valid
  simp only [Date.dayNumber, daysBeforeMonth, eraDays, marchEpoch]
  split <;> omega

/-! ## The numerals of a canonical text -/

namespace Instant

variable {t : Instant}

theorem HasPlainYear.year_numeral (plain : t.HasPlainYear) :
    IsNumeralOf 4 t.date.year.toNat (paddedNumeral 4 t.date.year.toNat) := by
  have small : t.date.year.toNat < 10000 := by
    have := plain.2
    omega
  exact isNumeralOf_of_lt small

theorem month_numeral (t : Instant) :
    IsNumeralOf 2 t.date.month (paddedNumeral 2 t.date.month) := by
  obtain ⟨month_le, -⟩ := Date.month_day_le (ofDayNumber_isValid (t.seconds / daySeconds))
  exact isNumeralOf_two (Nat.lt_of_le_of_lt month_le (by decide))

theorem day_numeral (t : Instant) : IsNumeralOf 2 t.date.day (paddedNumeral 2 t.date.day) := by
  obtain ⟨-, day_le⟩ := Date.month_day_le (ofDayNumber_isValid (t.seconds / daySeconds))
  exact isNumeralOf_two (Nat.lt_of_le_of_lt day_le (by decide))

theorem secondOfDay_lt (t : Instant) : t.secondOfDay < 86400 := by
  unfold secondOfDay daySeconds
  omega

theorem hour_numeral (t : Instant) :
    IsNumeralOf 2 (t.secondOfDay / 3600) (paddedNumeral 2 (t.secondOfDay / 3600)) := by
  have := t.secondOfDay_lt
  exact isNumeralOf_two (by omega)

theorem minute_numeral (t : Instant) :
    IsNumeralOf 2 (t.secondOfDay / 60 % 60) (paddedNumeral 2 (t.secondOfDay / 60 % 60)) :=
  isNumeralOf_two (by omega)

/-- Second sixty is the greatest, and is shown for leap seconds only. -/
theorem IsProper.shownSecond_le (proper : t.IsProper) : t.shownSecond ≤ 60 := by
  simp only [IsProper, shownSecond, secondNanos] at *
  unfold secondOfDay daySeconds
  omega

theorem IsProper.second_numeral (proper : t.IsProper) :
    IsNumeralOf 2 t.shownSecond (paddedNumeral 2 t.shownSecond) :=
  isNumeralOf_two (Nat.lt_of_le_of_lt proper.shownSecond_le (by decide))

theorem millis_numeral (t : Instant) :
    IsNumeralOf 3 (t.shownNanos / 1000000) (paddedNumeral 3 (t.shownNanos / 1000000)) := by
  have small : t.shownNanos / 1000000 < 1000 := by
    unfold shownNanos secondNanos
    omega
  exact isNumeralOf_of_lt small

end Instant

/-! ## Reading back what was written -/

/-- A numeral is read off a text where its width or the next character ends it. -/
theorem readNumber_append {least most width n : Nat} {cs rest : List Char}
    (numeral : IsNumeralOf width n cs) (least_le : least ≤ width) (le_most : width ≤ most)
    (stop : width = most ∨ ∀ c ∈ rest.head?, isAsciiDigit c = false) :
    readNumber least most (cs ++ rest) = some (n, rest) := by
  obtain ⟨rfl, digits, rfl⟩ := numeral
  have rest_digits : (rest.take (most - cs.length)).takeWhile isAsciiDigit = [] := by
    rcases stop with full | next
    · rw [full, Nat.sub_self]
      rfl
    · cases rest with
      | nil => simp
      | cons c rest =>
        have not_digit : isAsciiDigit c = false := next c (by simp)
        cases most - cs.length <;> simp [not_digit]
  have taken : ((cs ++ rest).take most).takeWhile isAsciiDigit = cs := by
    rw [List.take_append, List.take_of_length_le le_most, List.takeWhile_append_of_pos digits,
      rest_digits, List.append_nil]
  unfold readNumber
  dsimp only
  rw [taken, if_neg (by omega), List.drop_left]

/-- A piece of a fixed width reads a numeral of that width. -/
theorem Piece.read_digits (r : Reading) (part : Part) {width n : Nat} {cs : List Char}
    (numeral : IsNumeralOf width n cs) (rest : List Char) :
    (Piece.digits part width).read r (cs ++ rest) = some (r.set part n, rest) := by
  rw [Piece.read, readNumber_append numeral (Nat.le_refl _) (Nat.le_refl _) (.inl rfl)]
  rfl

theorem Piece.read_mark (r : Reading) (c : Char) (rest : List Char) :
    (Piece.mark c).read r (c :: rest) = some (r, rest) := by
  rw [Piece.read, readMark, if_pos rfl]
  rfl

theorem Piece.read_oneOf (r : Reading) {marks : List Char} {c : Char} (mem : c ∈ marks)
    (rest : List Char) : (Piece.oneOf marks).read r (c :: rest) = some (r, rest) := by
  simp only [Piece.read]
  rw [if_pos mem]

theorem Piece.read_zulu (r : Reading) (rest : List Char) :
    Piece.zone.read r ('Z' :: rest) = some ({ r with offset := 0 }, rest) := rfl

/-- Milliseconds are read with six zeros after them. -/
theorem readFraction_millis {millis : Nat} {cs : List Char} (numeral : IsNumeralOf 3 millis cs) :
    readFraction ('.' :: (cs ++ ['Z'])) = some (millis * 1000000, ['Z']) := by
  obtain ⟨length_eq, digits, value_eq⟩ := numeral
  have taken : (cs ++ ['Z']).takeWhile isAsciiDigit = cs := by
    rw [List.takeWhile_append_of_pos digits]
    exact List.append_nil _
  have left : (cs ++ ['Z']).dropWhile isAsciiDigit = ['Z'] := by
    rw [List.dropWhile_append_of_pos digits]
    rfl
  have some_digit : cs ≠ [] := by
    rintro rfl
    cases length_eq
  simp only [readFraction]
  rw [taken, left, if_neg some_digit, List.take_of_length_le (by omega), value_eq, length_eq]
  rfl

theorem Piece.read_millis (r : Reading) {millis : Nat} {cs : List Char}
    (numeral : IsNumeralOf 3 millis cs) :
    Piece.fraction.read r ('.' :: (cs ++ ['Z'])) =
      some ({ r with nanos := millis * 1000000 }, ['Z']) := by
  rw [Piece.read, readFraction_millis numeral]
  rfl

theorem Form.readFrom_cons {piece : Piece} {form : Form} {r r' : Reading} {cs rest : List Char}
    (h : piece.read r cs = some (r', rest)) :
    Form.readFrom (piece :: form) r cs = Form.readFrom form r' rest := by
  rw [Form.readFrom, h]

/-! ## The internet form -/

/-- What the canonical text of an instant says. -/
def Instant.reading (t : Instant) : Reading where
  year := t.date.year
  month := t.date.month
  day := t.date.day
  hour := t.secondOfDay / 3600
  minute := t.secondOfDay / 60 % 60
  second := t.shownSecond
  nanos := t.shownNanos / 1000000 * 1000000
  offset := 0

/-- **The internet form reads a canonical text.** -/
theorem readFrom_internetForm {t : Instant} (proper : t.IsProper) (plain : t.HasPlainYear) :
    internetForm.readFrom Reading.start t.canonicalChars = some (t.reading, []) := by
  rw [t.canonicalChars_eq, plain.yearText_eq, internetForm]
  rw [Form.readFrom_cons (Piece.read_digits _ _ plain.year_numeral _)]
  rw [Form.readFrom_cons (Piece.read_mark _ _ _)]
  rw [Form.readFrom_cons (Piece.read_digits _ _ t.month_numeral _)]
  rw [Form.readFrom_cons (Piece.read_mark _ _ _)]
  rw [Form.readFrom_cons (Piece.read_digits _ _ t.day_numeral _)]
  rw [Form.readFrom_cons (Piece.read_oneOf _ (by decide) _)]
  rw [Form.readFrom_cons (Piece.read_digits _ _ t.hour_numeral _)]
  rw [Form.readFrom_cons (Piece.read_mark _ _ _)]
  rw [Form.readFrom_cons (Piece.read_digits _ _ t.minute_numeral _)]
  rw [Form.readFrom_cons (Piece.read_mark _ _ _)]
  rw [Form.readFrom_cons (Piece.read_digits _ _ proper.second_numeral _)]
  rw [Form.readFrom_cons (Piece.read_millis _ t.millis_numeral)]
  rw [Form.readFrom_cons (Piece.read_zulu _ _)]
  have year_back : (t.date.year.toNat : Int) = t.date.year := Int.toNat_of_nonneg plain.1
  simp only [Reading.set, year_back]
  rfl

theorem Instant.HasPlainYear.isSupported {t : Instant} (plain : t.HasPlainYear) (s : Nat) :
    ({ t with nanos := s } : Instant).isSupported = true := by
  have bounds := Date.dayNumber_bounds (ofDayNumber_isValid (t.seconds / daySeconds)) plain
  rw [dayNumber_ofDayNumber] at bounds
  have first : Date.earliest.dayNumber = -96465292 := by decide
  have last : Date.latest.dayNumber = 95026236 := by decide
  simp only [Instant.isSupported, first, last, daySeconds, Bool.and_eq_true,
    decide_eq_true_eq] at *
  omega

/-- What a canonical text says is the instant without what lies below its milliseconds. -/
theorem reading_instant {t : Instant} (proper : t.IsProper) : t.reading.instant = t.truncated := by
  have day_eq : t.reading.date.dayNumber = t.seconds / daySeconds := dayNumber_ofDayNumber _
  have seconds_eq : t.reading.instant.seconds = t.truncated.seconds := by
    -- a second sixty that is shown falls back on the last second of its minute
    simp only [Reading.instant, day_eq]
    simp only [Instant.reading, Instant.truncated, Instant.IsProper, Instant.shownSecond,
      Instant.secondOfDay, daySeconds, secondNanos] at *
    omega
  have nanos_eq : t.reading.instant.nanos = t.truncated.nanos := by
    simp only [Reading.instant, Instant.reading, Instant.truncated, Instant.IsProper,
      Instant.shownSecond, Instant.shownNanos, Instant.secondOfDay, daySeconds, secondNanos] at *
    omega
  exact Instant.mk.injEq .. ▸ ⟨seconds_eq, nanos_eq⟩

theorem reading_instant? {t : Instant} (proper : t.IsProper) (plain : t.HasPlainYear) :
    t.reading.instant? = some t.truncated := by
  have of_day := t.secondOfDay_lt
  have valid : t.reading.date.isValid = true := ofDayNumber_isValid _
  have time : t.reading.hasTime = true := by
    have hour_lt : t.reading.hour < 24 := by
      show t.secondOfDay / 3600 < 24
      omega
    have minute_lt : t.reading.minute < 60 := Nat.mod_lt _ (by decide)
    have second_le : t.reading.second ≤ 60 := proper.shownSecond_le
    simp [Reading.hasTime, hour_lt, minute_lt, second_le]
  -- a canonical text is in UTC, so the time as read and the time in UTC are the same
  have in_utc : t.reading.local.instant = t.truncated := reading_instant proper
  rw [Reading.instant?, valid, time, in_utc, reading_instant proper]
  have supported : t.truncated.isSupported = true := plain.isSupported _
  rw [supported]
  rfl

/-! ## Recognising canonical texts -/

/-- A text that holds a character other than digits and signs is no number. -/
theorem epochDigits?_eq_none {cs : List Char} {c : Char} (mem : c ∈ cs) (not_plus : c ≠ '+')
    (not_minus : c ≠ '-') (not_digit : isDecimalDigit c = false) : epochDigits? cs = none := by
  have has_other {digits : List Char} (mem : c ∈ digits) : digits.all isDecimalDigit = false := by
    rw [List.all_eq_false]
    exact ⟨c, mem, by simp [not_digit]⟩
  unfold epochDigits?
  -- a sign in front is not that character, so it is among what has to be digits
  split
  · next rest => simp [has_other ((List.mem_cons.mp mem).resolve_left not_plus)]
  · next rest => simp [has_other ((List.mem_cons.mp mem).resolve_left not_minus)]
  · simp [has_other mem]

theorem epochDigits?_canonicalChars (t : Instant) : epochDigits? t.canonicalChars = none := by
  have mem : 'Z' ∈ t.canonicalChars := by simp [Instant.canonicalChars, Instant.textWith]
  exact epochDigits?_eq_none mem (by decide) (by decide) (by decide)

theorem isDateSeparator_eq_false {c : Char} (digit : isAsciiDigit c = true) :
    isDateSeparator c = false := by
  simp only [isDateSeparator, Bool.or_eq_false_iff, beq_eq_false_iff_ne]
  constructor <;> rintro rfl <;> cases digit

theorem dropMonthAndSeparator_numeral {n : Nat} {month : List Char}
    (numeral : IsNumeralOf 2 n month) (rest : List Char) :
    dropMonthAndSeparator (month ++ '-' :: rest) = some rest := by
  obtain ⟨length_eq, digits, -⟩ := numeral
  match month, length_eq with
  | [a, b], _ =>
    have a_digit := isDecimalDigit_of_isAsciiDigit (digits a (by simp))
    have b_digit := isDecimalDigit_of_isAsciiDigit (digits b (by simp))
    have b_not : isDateSeparator b = false := isDateSeparator_eq_false (digits b (by simp))
    have hyphen : isDateSeparator '-' = true := rfl
    simp [dropMonthAndSeparator, a_digit, b_digit, b_not, hyphen]

/-- A text begins with a year if four digits, two digits and a digit do, with hyphens between. -/
theorem beginsWithYear_numerals {y m d : Nat} {year month day : List Char}
    (year_numeral : IsNumeralOf 4 y year) (month_numeral : IsNumeralOf 2 m month)
    (day_numeral : IsNumeralOf 2 d day) (rest : List Char) :
    beginsWithYear (year ++ '-' :: (month ++ '-' :: (day ++ rest))) = true := by
  obtain ⟨year_length, year_digits, -⟩ := year_numeral
  obtain ⟨day_length, day_digits, -⟩ := day_numeral
  match year, year_length, day, day_length with
  | [a, b, c, d], _, [first, second], _ =>
    have all_digits : [a, b, c, d].all isDecimalDigit = true := by
      rw [List.all_eq_true]
      exact fun c mem => isDecimalDigit_of_isAsciiDigit (year_digits c mem)
    have first_digit := isDecimalDigit_of_isAsciiDigit (day_digits first (by simp))
    simp only [List.cons_append, List.nil_append, beginsWithYear,
      dropMonthAndSeparator_numeral month_numeral, all_digits, first_digit]
    rfl

theorem beginsWithYear_canonicalChars {t : Instant} (plain : t.HasPlainYear) :
    beginsWithYear t.canonicalChars = true := by
  rw [t.canonicalChars_eq, plain.yearText_eq]
  exact beginsWithYear_numerals plain.year_numeral t.month_numeral t.day_numeral _

/-- **The canonical text of a proper instant whose year has four digits is a date under either
policy: the instant without what lies below its milliseconds.** -/
theorem readDate_canonicalChars {t : Instant} (proper : t.IsProper) (plain : t.HasPlainYear)
    (policy : DatePolicy) : readDate policy t.canonicalChars = .ok t.truncated := by
  have form_read : internetForm.read? t.canonicalChars = some t.truncated := by
    rw [Form.read?, readFrom_internetForm proper plain]
    exact reading_instant? proper plain
  have first_read : readYearFirst? t.canonicalChars = some t.truncated := by
    rw [readYearFirst?, firstOf, List.findSome?_cons, form_read]
  have text_read : readDateText? t.canonicalChars = some t.truncated := by
    rw [readDateText?, beginsWithYear_canonicalChars plain, if_pos rfl, first_read]
    rfl
  rw [readDate, epochDigits?_canonicalChars]
  dsimp only
  rw [text_read]

end Intake.Calendar
