import Intake.Proofs.Calendar.YearInFront

/-!
# Dates as they are written

The forms with the year first take more than the gate in front of them lets pass: blanks may stand
before each number, a year may have a sign or fewer than four digits (`readFrom_yearFirst`). The
gate lets a date pass just if it has none of these (`WrittenDate.beginsWithYear_chars_iff`), and the
internet form takes no other (`read?_internetForm`).
-/

namespace Intake.Calendar

open Intake.Text

/-! ## What the gate lets pass -/

theorem dropMonthAndSeparator_eq_some_iff {cs rest : List Char} :
    dropMonthAndSeparator cs = some rest ↔
      ∃ month separator, cs = month ++ separator :: rest ∧
        (month.length = 1 ∨ month.length = 2) ∧ (∀ c ∈ month, isDecimalDigit c = true) ∧
        isDateSeparator separator = true := by
  constructor
  · intro h
    unfold dropMonthAndSeparator at h
    split at h
    · next a b after =>
      split at h
      · next a_digit =>
        split at h
        · next separates =>
          cases h
          exact ⟨[a], b, rfl, .inl rfl, by simp [a_digit], separates⟩
        · split at h
          · next b_digit =>
            split at h
            · next c more =>
              split at h
              · next separates =>
                cases h
                exact ⟨[a, b], c, rfl, .inr rfl, by simp [a_digit, b_digit], separates⟩
              · cases h
            · cases h
          · cases h
      · cases h
    · cases h
  · rintro ⟨month, separator, rfl, width, digits, separates⟩
    match month, width with
    | [a], _ =>
      simp [dropMonthAndSeparator, digits a (by simp), separates]
    | [a, b], _ =>
      have b_digit := digits b (by simp)
      have b_not : isDateSeparator b = false := by
        rw [← Bool.not_eq_true, isDateSeparator_iff]
        rintro (rfl | rfl) <;> exact absurd b_digit (by decide)
      simp [dropMonthAndSeparator, digits a (by simp), b_digit, b_not, separates]

/-- **The gate lets pass** what begins with four digits, a month of one or two digits and a digit of
the day, with separators between them. -/
theorem beginsWithYear_iff {cs : List Char} :
    beginsWithYear cs = true ↔
      ∃ year separator month separator' day rest,
        cs = year ++ separator :: (month ++ separator' :: day :: rest) ∧ year.length = 4 ∧
          (month.length = 1 ∨ month.length = 2) ∧
          (∀ c ∈ year ++ month ++ [day], isDecimalDigit c = true) ∧
          isDateSeparator separator = true ∧ isDateSeparator separator' = true := by
  constructor
  · intro h
    unfold beginsWithYear at h
    split at h
    · next a b c d separator after =>
      simp only [Bool.and_eq_true, List.all_eq_true] at h
      obtain ⟨⟨year_digits, separates⟩, h⟩ := h
      split at h
      · next day rest dropped =>
        obtain ⟨month, separator', rfl, width, month_digits, separates'⟩ :=
          dropMonthAndSeparator_eq_some_iff.mp dropped
        refine ⟨[a, b, c, d], separator, month, separator', day, rest, rfl, rfl, width, ?_,
          separates, separates'⟩
        simp only [List.forall_mem_append, List.forall_mem_singleton]
        exact ⟨⟨year_digits, month_digits⟩, h⟩
      · cases h
    · cases h
  · rintro ⟨year, separator, month, separator', day, rest, rfl, year_width, width, digits,
      separates, separates'⟩
    simp only [List.forall_mem_append, List.forall_mem_singleton] at digits
    obtain ⟨⟨year_digits, month_digits⟩, day_digit⟩ := digits
    have dropped :
        dropMonthAndSeparator (month ++ separator' :: day :: rest) = some (day :: rest) :=
      dropMonthAndSeparator_eq_some_iff.mpr
        ⟨month, separator', rfl, width, month_digits, separates'⟩
    match year, year_width with
    | [a, b, c, d], _ =>
      have all_digits : [a, b, c, d].all isDecimalDigit = true := List.all_eq_true.mpr year_digits
      simp only [List.cons_append, List.nil_append, beginsWithYear, all_digits, separates,
        dropped, day_digit, Bool.and_self]

theorem hasYearInFront_of_beginsWithYear {cs : List Char} (h : beginsWithYear cs = true) :
    HasYearInFront cs := by
  obtain ⟨year, separator, month, separator', day, rest, rfl, width, -, digits, separates, -⟩ :=
    beginsWithYear_iff.mp h
  have some_digits : year ≠ [] := List.ne_nil_of_length_eq_add_one width
  have year_digits : ∀ c ∈ year, isDecimalDigit c = true := fun c mem => digits c (by simp [mem])
  have no_sign : [] ∈ signs := by decide
  exact .intro no_sign some_digits year_digits separates

/-- Digits that end in a separator can be told from what follows. -/
theorem digits_unique {digits digits' rest rest' : List Char} {separator separator' : Char}
    (h : digits ++ separator :: rest = digits' ++ separator' :: rest')
    (all : ∀ c ∈ digits, isDecimalDigit c = true) (all' : ∀ c ∈ digits', isDecimalDigit c = true)
    (separates : isDateSeparator separator = true)
    (separates' : isDateSeparator separator' = true) : digits = digits' ∧ rest = rest' := by
  have front {xs : List Char} {c : Char} (all : ∀ c ∈ xs, isDecimalDigit c = true)
      (separates : isDateSeparator c = true) (more : List Char) :
      (xs ++ c :: more).takeWhile isDecimalDigit = xs := by
    rw [List.takeWhile_append_of_pos all, List.takeWhile_cons_of_neg (by
      simp [isDecimalDigit_eq_false_of_separator separates]), List.append_nil]
  have same := congrArg (List.takeWhile isDecimalDigit) h
  rw [front all separates, front all' separates'] at same
  subst same
  exact ⟨rfl, (List.cons.inj (List.append_cancel_left h)).2⟩

/-! ## Dates -/

/-- A date as the forms with the year first take it: blanks may stand before each number, and the
year may have a sign; without one it has no more than four digits. -/
structure WrittenDate where
  beforeYear : List Char
  sign : List Char
  year : List Char
  beforeMonth : List Char
  month : List Char
  beforeDay : List Char
  day : List Char
  blanks : ∀ c ∈ beforeYear ++ beforeMonth ++ beforeDay, isBlank c = true
  sign_mem : sign ∈ signs
  digits : ∀ c ∈ year ++ month ++ day, isAsciiDigit c = true
  year_width : 1 ≤ year.length ∧ (sign = [] → year.length ≤ 4)
  month_width : month.length = 1 ∨ month.length = 2
  day_width : day.length = 1 ∨ day.length = 2

namespace WrittenDate

/-- The characters of a date in front of others. -/
def chars (date : WrittenDate) (separator : Char) (rest : List Char) : List Char :=
  date.beforeYear ++ (date.sign ++ (date.year ++ separator :: (date.beforeMonth ++ (date.month ++
    separator :: (date.beforeDay ++ (date.day ++ rest))))))

/-- A year of four digits without a sign, and no blanks. -/
def IsPlain (date : WrittenDate) : Prop :=
  date.beforeYear = [] ∧ date.sign = [] ∧ date.year.length = 4 ∧ date.beforeMonth = [] ∧
    date.beforeDay = []

variable (date : WrittenDate) {separator : Char} (rest : List Char)

theorem decimal_digits :
    (∀ c ∈ date.year, isDecimalDigit c = true) ∧ (∀ c ∈ date.month, isDecimalDigit c = true) ∧
      ∀ c ∈ date.day, isDecimalDigit c = true := by
  have digits := date.digits
  simp only [List.forall_mem_append] at digits
  obtain ⟨⟨year, month⟩, day⟩ := digits
  exact ⟨fun c mem => isDecimalDigit_of_isAsciiDigit (year c mem),
    fun c mem => isDecimalDigit_of_isAsciiDigit (month c mem),
    fun c mem => isDecimalDigit_of_isAsciiDigit (day c mem)⟩

theorem hasYearInFront (separates : isDateSeparator separator = true) :
    HasYearInFront (trimLeft (date.chars separator rest)) := by
  have in_front : HasYearInFront (date.sign ++ (date.year ++ separator :: (date.beforeMonth ++
      (date.month ++ separator :: (date.beforeDay ++ (date.day ++ rest)))))) :=
    .intro date.sign_mem (List.ne_nil_of_length_pos date.year_width.1) date.decimal_digits.1
      separates
  have blanks : ∀ c ∈ date.beforeYear, isBlank c = true :=
    fun c mem => date.blanks c (by simp [mem])
  rw [chars, trimLeft, List.dropWhile_append_of_pos blanks, ← trimLeft, in_front.trimLeft_eq]
  exact in_front

theorem no_digit_in_blanks :
    (∀ c ∈ date.beforeYear, isDecimalDigit c = false) ∧
      (∀ c ∈ date.beforeMonth, isDecimalDigit c = false) ∧
        ∀ c ∈ date.beforeDay, isDecimalDigit c = false := by
  have blanks := date.blanks
  simp only [List.forall_mem_append] at blanks
  obtain ⟨⟨year, month⟩, day⟩ := blanks
  exact ⟨fun c mem => isDecimalDigit_eq_false_of_blank (year c mem),
    fun c mem => isDecimalDigit_eq_false_of_blank (month c mem),
    fun c mem => isDecimalDigit_eq_false_of_blank (day c mem)⟩

variable {date} {rest}

/-- The gate lets plain dates pass. -/
theorem beginsWithYear_of_isPlain (separates : isDateSeparator separator = true)
    (plain : date.IsPlain) : beginsWithYear (date.chars separator rest) = true := by
  obtain ⟨no_blanks, no_sign, width, no_month_blanks, no_day_blanks⟩ := plain
  obtain ⟨year_digits, month_digits, day_digits⟩ := date.decimal_digits
  obtain ⟨day, more, day_eq⟩ : ∃ day more, date.day = day :: more := by
    refine List.exists_cons_of_length_pos ?_
    have := date.day_width
    omega
  rw [chars, no_blanks, no_sign, no_month_blanks, no_day_blanks, day_eq]
  refine beginsWithYear_iff.mpr ⟨date.year, separator, date.month, separator, day, more ++ rest,
    rfl, width, date.month_width, ?_, separates, separates⟩
  simp only [List.forall_mem_append, List.forall_mem_singleton]
  exact ⟨⟨year_digits, month_digits⟩, day_digits day (by simp [day_eq])⟩

/-- The gate lets no other dates pass: the text as the gate sees it and the date as it is written
are compared from the left. -/
theorem isPlain_of_beginsWithYear (separates : isDateSeparator separator = true)
    (passes : beginsWithYear (date.chars separator rest) = true) : date.IsPlain := by
  obtain ⟨year_digits, month_digits, -⟩ := date.decimal_digits
  obtain ⟨year_blanks, month_blanks, day_blanks⟩ := date.no_digit_in_blanks
  obtain ⟨year, separator₁, month, separator₂, day, after, text_eq, width, month_width, all,
    separates₁, separates₂⟩ := beginsWithYear_iff.mp passes
  simp only [List.forall_mem_append, List.forall_mem_singleton] at all
  obtain ⟨⟨year_all, month_all⟩, day_digit⟩ := all
  obtain ⟨y, year_rest, rfl⟩ := List.exists_cons_of_length_eq_add_one width
  have y_digit := year_all y List.mem_cons_self
  have no_blanks : date.beforeYear = [] := nothing_before_digit text_eq y_digit year_blanks
  rw [chars, no_blanks, List.nil_append] at text_eq
  have no_sign : date.sign = [] :=
    nothing_before_digit text_eq y_digit (isDecimalDigit_eq_false_of_sign _ date.sign_mem)
  rw [no_sign, List.nil_append] at text_eq
  obtain ⟨year_eq, text_eq⟩ := digits_unique text_eq year_digits year_all separates separates₁
  obtain ⟨m, month_rest, rfl⟩ : ∃ m more, month = m :: more := by
    refine List.exists_cons_of_length_pos ?_
    omega
  have no_month_blanks : date.beforeMonth = [] :=
    nothing_before_digit text_eq (month_all m List.mem_cons_self) month_blanks
  rw [no_month_blanks, List.nil_append] at text_eq
  obtain ⟨-, text_eq⟩ := digits_unique text_eq month_digits month_all separates separates₂
  have no_day_blanks : date.beforeDay = [] := nothing_before_digit text_eq day_digit day_blanks
  exact ⟨no_blanks, no_sign, year_eq ▸ width, no_month_blanks, no_day_blanks⟩

/-- **The gate lets a date pass just if it is plain.** -/
theorem beginsWithYear_chars_iff (date : WrittenDate) (rest : List Char)
    (separates : isDateSeparator separator = true) :
    beginsWithYear (date.chars separator rest) = true ↔ date.IsPlain :=
  ⟨isPlain_of_beginsWithYear separates, beginsWithYear_of_isPlain separates⟩

end WrittenDate

/-! ## Reading a date with the year first -/

/-- A year takes digits, after a sign any number of them and without one up to four. -/
theorem readYear_eq_some {cs rest : List Char} {y : Int} (h : readYear cs = some (y, rest)) :
    ∃ sign ∈ signs, ∃ digits, cs = sign ++ (digits ++ rest) ∧ 1 ≤ digits.length ∧
      (sign = [] → digits.length ≤ 4) ∧ ∀ c ∈ digits, isAsciiDigit c = true := by
  unfold readYear at h
  split at h
  all_goals
    obtain ⟨⟨n, _⟩, read, same⟩ := Option.map_eq_some_iff.mp h
    cases same
    obtain ⟨digits, rfl, some_digit, width, all⟩ := readNumber_eq_some read
  · exact ⟨['-'], by decide, digits, rfl, some_digit, nofun, all⟩
  · exact ⟨['+'], by decide, digits, rfl, some_digit, nofun, all⟩
  · exact ⟨[], by decide, digits, rfl, some_digit, fun _ => width, all⟩

theorem trimLeft_split (cs : List Char) :
    ∃ gap, cs = gap ++ trimLeft cs ∧ ∀ c ∈ gap, isBlank c = true :=
  ⟨cs.takeWhile isBlank, List.takeWhile_append_dropWhile.symm, fun _ => List.mem_takeWhile_imp⟩

/-- A number other than a year takes one or two digits, after any blanks. -/
theorem Piece.read_number_eq_some {part : Part} (not_year : part ≠ .year) {r r' : Reading}
    {cs rest : List Char} (h : (Piece.number part).read r cs = some (r', rest)) :
    ∃ gap digits, cs = gap ++ (digits ++ rest) ∧ (∀ c ∈ gap, isBlank c = true) ∧
      (digits.length = 1 ∨ digits.length = 2) ∧ ∀ c ∈ digits, isAsciiDigit c = true := by
  rw [Piece.read_number not_year] at h
  obtain ⟨⟨n, left⟩, read, noted⟩ := Option.map_eq_some_iff.mp h
  cases noted
  obtain ⟨gap, split_eq, blanks⟩ := trimLeft_split cs
  obtain ⟨digits, digits_eq, least, most, all⟩ := readNumber_eq_some read
  rw [digits_eq] at split_eq
  exact ⟨gap, digits, split_eq, blanks, by omega, all⟩

/-- **What the date of a form takes is a written date.** -/
theorem readFrom_yearFirst {separator : Char} {r r' : Reading} {cs rest : List Char}
    (h : Form.readFrom (yearFirst separator) r cs = some (r', rest)) :
    ∃ date : WrittenDate, cs = date.chars separator rest := by
  simp only [yearFirst, Form.readFrom_cons_eq_some] at h
  obtain ⟨r₁, cs₁, year_read, r₂, cs₂, mark_read, r₃, cs₃, month_read, r₄, cs₄, mark_read', r₅, cs₅,
    day_read, done⟩ := h
  obtain rfl : cs₅ = rest := (Prod.mk.inj (Option.some.inj done)).2
  obtain ⟨⟨y, left⟩, year_read, noted⟩ := Option.map_eq_some_iff.mp year_read
  cases noted
  obtain ⟨left, marked, noted⟩ := Option.map_eq_some_iff.mp mark_read
  cases noted
  obtain rfl := readMark_eq_some marked
  obtain ⟨left, marked, noted⟩ := Option.map_eq_some_iff.mp mark_read'
  cases noted
  obtain rfl := readMark_eq_some marked
  obtain ⟨gap, cs_eq, blanks⟩ := trimLeft_split cs
  obtain ⟨sign, sign_mem, year, year_eq, some_digit, width, year_digits⟩ :=
    readYear_eq_some year_read
  obtain ⟨month_gap, month, rfl, month_blanks, month_width, month_digits⟩ :=
    Piece.read_number_eq_some (by decide) month_read
  obtain ⟨day_gap, day, rfl, day_blanks, day_width, day_digits⟩ :=
    Piece.read_number_eq_some (by decide) day_read
  rw [year_eq] at cs_eq
  refine ⟨⟨gap, sign, year, month_gap, month, day_gap, day, ?_, sign_mem, ?_, ⟨some_digit, width⟩,
    month_width, day_width⟩, cs_eq⟩
  · simp only [List.forall_mem_append]
    exact ⟨⟨blanks, month_blanks⟩, day_blanks⟩
  · simp only [List.forall_mem_append]
    exact ⟨⟨year_digits, month_digits⟩, day_digits⟩

/-- A number of a fixed width takes so many digits. -/
theorem Piece.read_digits_eq_some {part : Part} {width : Nat} {r r' : Reading} {cs rest : List Char}
    (h : (Piece.digits part width).read r cs = some (r', rest)) :
    ∃ digits, cs = digits ++ rest ∧ digits.length = width ∧
      ∀ c ∈ digits, isAsciiDigit c = true := by
  obtain ⟨⟨n, left⟩, read, noted⟩ := Option.map_eq_some_iff.mp h
  cases noted
  obtain ⟨digits, digits_eq, least, most, all⟩ := readNumber_eq_some read
  exact ⟨digits, digits_eq, Nat.le_antisymm most least, all⟩

/-- **The internet form takes plain dates only.** -/
theorem read?_internetForm {cs : List Char} {t : Instant} (h : internetForm.read? cs = some t) :
    ∃ (date : WrittenDate) (rest : List Char), cs = date.chars '-' rest ∧ date.IsPlain := by
  obtain ⟨r, form_read, -⟩ := Form.read?_eq_some_iff.mp h
  simp only [internetForm, Form.readFrom_cons_eq_some] at form_read
  obtain ⟨_, _, year_read, _, _, mark_read, _, _, month_read, _, _, mark_read', _, rest, day_read,
    -⟩ := form_read
  obtain ⟨year, rfl, year_width, year_digits⟩ := Piece.read_digits_eq_some year_read
  obtain rfl := Piece.read_mark_eq_some mark_read
  obtain ⟨month, rfl, month_width, month_digits⟩ := Piece.read_digits_eq_some month_read
  obtain rfl := Piece.read_mark_eq_some mark_read'
  obtain ⟨day, rfl, day_width, day_digits⟩ := Piece.read_digits_eq_some day_read
  refine ⟨⟨[], [], year, [], month, [], day, by simp, by decide, ?_, by omega, .inr month_width,
    .inr day_width⟩, rest, rfl, rfl, rfl, year_width, rfl, rfl⟩
  simp only [List.forall_mem_append]
  exact ⟨⟨year_digits, month_digits⟩, day_digits⟩

end Intake.Calendar
