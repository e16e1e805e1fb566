import Intake.Proofs.Calendar.WrittenParts

/-!
# Dates that are written alone

A date that is written without a time is read by the one form that its style belongs to
(`DateStyle.readDate_text`): the text has no colon, which every form with a time wants, and it lacks
a mark of each other form of a date, or the letters of a month.
-/

namespace Intake.Calendar

open Intake.Text

/-! ## The form of a style -/

/-- The form that takes the texts of a style. -/
def DateStyle.form : DateStyle → Form
  | .dashed => yearFirst '-'
  | .slashed => yearFirst '/'
  | .dotted => [.number .day, .mark '.', .number .month, .mark '.', .number .year]
  | .monthFirst _ _ => [.monthName, .blanks, .number .day, .mark ',', .blanks, .number .year]
  | .dayFirst _ _ => [.number .day, .blanks, .monthName, .blanks, .number .year]

theorem DateStyle.form_mem (style : DateStyle) : style.form ∈ dateForms := by
  cases style <;> simp [DateStyle.form, dateForms]

/-- A date with the year first is read, whatever follows. -/
theorem readFrom_yearFirstText (r : Reading) (separator : Char) {date : Date}
    (first : 0 ≤ date.year) (last : date.year ≤ 9999) (month : date.month < 100)
    (day : date.day < 100) (rest : List Char) :
    (yearFirst separator).readFrom r (date.yearFirstText separator ++ rest) =
      some ({ r with year := date.year, month := date.month, day := date.day }, rest) := by
  simp only [Date.yearFirstText, List.append_assoc, List.cons_append]
  rw [yearFirst, Form.readFrom_cons (Piece.read_yearText _ first last _),
    Form.readFrom_cons (Piece.read_mark _ _ _),
    Form.readFrom_cons (Piece.read_number_append (by decide) _ (isNumeralOf_two month) _),
    Form.readFrom_cons (Piece.read_mark _ _ _),
    Form.readFrom_cons (Piece.read_number_append (by decide) _ (isNumeralOf_two day) _)]
  rfl

/-- **The form of a style reads its texts.** -/
theorem DateStyle.readFrom_text {style : DateStyle} {date : Date} (can : style.CanWrite date) :
    style.form.readFrom Reading.start (style.text date) = some (date.midnight.reading, []) := by
  obtain ⟨first, last, month, day, name⟩ := can
  have year_read (r : Reading) : (Piece.number .year).read r date.yearText =
      some ({ r with year := date.year }, []) := by
    have read := Piece.read_yearText r first last []
    rwa [List.append_nil] at read
  have year_trimmed : trimLeft date.yearText = date.yearText := by
    have trimmed := trimLeft_yearText last []
    rwa [List.append_nil] at trimmed
  rw [Date.reading_midnight]
  cases style with
  | dashed =>
    have read := readFrom_yearFirstText Reading.start '-' first last month day []
    rw [List.append_nil] at read
    exact read
  | slashed =>
    have read := readFrom_yearFirstText Reading.start '/' first last month day []
    rw [List.append_nil] at read
    exact read
  | dotted =>
    rw [DateStyle.form, DateStyle.text,
      Form.readFrom_cons (Piece.read_number_append (by decide) _ (isNumeralOf_two day) _),
      Form.readFrom_cons (Piece.read_mark _ _ _),
      Form.readFrom_cons (Piece.read_number_append (by decide) _ (isNumeralOf_two month) _),
      Form.readFrom_cons (Piece.read_mark _ _ _), Form.readFrom_cons (year_read _)]
    rfl
  | monthFirst full padded =>
    obtain ⟨first_month, last_month⟩ := name rfl
    rw [DateStyle.form, DateStyle.text,
      Form.readFrom_cons (Piece.read_monthWord _ full first_month last_month _),
      Form.readFrom_cons (Piece.read_blank _ (trimLeft_dayText padded day _)),
      Form.readFrom_cons (Piece.read_dayText _ padded day (by decide) _),
      Form.readFrom_cons (Piece.read_mark _ _ _),
      Form.readFrom_cons (Piece.read_blank _ year_trimmed), Form.readFrom_cons (year_read _)]
    rfl
  | dayFirst full padded =>
    obtain ⟨first_month, last_month⟩ := name rfl
    rw [DateStyle.form, DateStyle.text,
      Form.readFrom_cons (Piece.read_dayText _ padded day (by decide) _),
      Form.readFrom_cons (Piece.read_blank _ (trimLeft_monthWord full first_month last_month _)),
      Form.readFrom_cons (Piece.read_monthWord _ full first_month last_month _),
      Form.readFrom_cons (Piece.read_blank _ year_trimmed), Form.readFrom_cons (year_read _)]
    rfl

/-! ## The other forms -/

/-- What a style writes besides digits and letters. -/
def DateStyle.marks : DateStyle → List Char
  | .dashed => ['-']
  | .slashed => ['/']
  | .dotted => ['.']
  | .monthFirst _ _ => [' ', ',']
  | .dayFirst _ _ => [' ']

theorem isAsciiDigit_dayText {padded : Bool} {day : Nat} {c : Char} (mem : c ∈ dayText padded day) :
    isAsciiDigit c = true := by
  cases padded with
  | true => exact paddedNumeral_isAsciiDigit mem
  | false => exact digitsOf_isAsciiDigit mem

/-- **The characters of a date** are digits, marks of the style and, if the style names the month,
letters. -/
theorem DateStyle.mem_text {style : DateStyle} {date : Date} (can : style.CanWrite date) {c : Char}
    (mem : c ∈ style.text date) :
    isAsciiDigit c = true ∨ (isAsciiLetter c = true ∧ style.isNamed = true) ∨ c ∈ style.marks := by
  have padded {width n : Nat} (mem : c ∈ paddedNumeral width n) : isAsciiDigit c = true :=
    paddedNumeral_isAsciiDigit mem
  have letter {full : Bool} (name : style.isNamed = true) (mem : c ∈ monthWord full date.month) :
      isAsciiLetter c = true :=
    isAsciiLetter_monthWord full (can.name name).1 (can.name name).2 c mem
  cases style with
  | dashed =>
    simp only [DateStyle.text, Date.yearFirstText, List.mem_append, List.mem_cons] at mem
    rcases mem with year | rfl | month | rfl | day
    · exact .inl (padded year)
    · exact .inr (.inr List.mem_cons_self)
    · exact .inl (padded month)
    · exact .inr (.inr List.mem_cons_self)
    · exact .inl (padded day)
  | slashed =>
    simp only [DateStyle.text, Date.yearFirstText, List.mem_append, List.mem_cons] at mem
    rcases mem with year | rfl | month | rfl | day
    · exact .inl (padded year)
    · exact .inr (.inr List.mem_cons_self)
    · exact .inl (padded month)
    · exact .inr (.inr List.mem_cons_self)
    · exact .inl (padded day)
  | dotted =>
    simp only [DateStyle.text, List.mem_append, List.mem_cons] at mem
    rcases mem with day | rfl | month | rfl | year
    · exact .inl (padded day)
    · exact .inr (.inr List.mem_cons_self)
    · exact .inl (padded month)
    · exact .inr (.inr List.mem_cons_self)
    · exact .inl (padded year)
  | monthFirst full padded_day =>
    simp only [DateStyle.text, List.mem_append, List.mem_cons] at mem
    rcases mem with month | rfl | day | rfl | rfl | year
    · exact .inr (.inl ⟨letter rfl month, rfl⟩)
    · exact .inr (.inr List.mem_cons_self)
    · exact .inl (isAsciiDigit_dayText day)
    · exact .inr (.inr (List.mem_cons_of_mem _ List.mem_cons_self))
    · exact .inr (.inr List.mem_cons_self)
    · exact .inl (padded year)
  | dayFirst full padded_day =>
    simp only [DateStyle.text, List.mem_append, List.mem_cons] at mem
    rcases mem with day | rfl | month | rfl | year
    · exact .inl (isAsciiDigit_dayText day)
    · exact .inr (.inr List.mem_cons_self)
    · exact .inr (.inl ⟨letter rfl month, rfl⟩)
    · exact .inr (.inr List.mem_cons_self)
    · exact .inl (padded year)

/-- A mark of another style is not in the text. -/
theorem DateStyle.not_mem_text {style : DateStyle} {date : Date} (can : style.CanWrite date)
    {mark : Char} (not_digit : isAsciiDigit mark = false) (not_letter : isAsciiLetter mark = false)
    (other : mark ∉ style.marks) : mark ∉ style.text date := by
  intro mem
  rcases DateStyle.mem_text can mem with digit | ⟨letter, -⟩ | own
  · rw [not_digit] at digit
    cases digit
  · rw [not_letter] at letter
    cases letter
  · exact other own

/-- What sets a form apart from the texts of a style: a mark that the style does not write, the name
of a month, or a day where the style begins with the month. -/
def DateStyle.lacks (style : DateStyle) (form : Form) : Bool :=
  ['-', '/', '.', ','].any (fun mark => form.contains (.mark mark) && !style.marks.contains mark) ||
    (form.contains .monthName && !style.isNamed) ||
    (form.head? == some (.number .day) && style.form.head? == some .monthName)

theorem DateStyle.lacks_of_ne (style : DateStyle) :
    ∀ form ∈ dateForms, form ≠ style.form → style.lacks form = true := by
  cases style with
  | dashed => decide
  | slashed => decide
  | dotted => decide
  | monthFirst full padded => cases full <;> cases padded <;> decide
  | dayFirst full padded => cases full <;> cases padded <;> decide

/-- **A form of which a style lacks something does not read its texts.** -/
theorem DateStyle.read?_eq_none {style : DateStyle} {date : Date} (can : style.CanWrite date)
    {form : Form} (lacks : style.lacks form = true) : form.read? (style.text date) = none := by
  simp only [DateStyle.lacks, Bool.or_eq_true, Bool.and_eq_true, List.any_eq_true,
    Bool.not_eq_true', List.contains_iff_mem, beq_iff_eq] at lacks
  rcases lacks with (⟨mark, mark_mem, in_form, other⟩ | ⟨named, unnamed⟩) | ⟨day_first, month_first⟩
  · have plain : ['-', '/', '.', ','].all
        (fun mark => !isAsciiDigit mark && !isAsciiLetter mark) = true := rfl
    have other_kind := List.all_eq_true.mp plain mark mark_mem
    rw [Bool.and_eq_true, Bool.not_eq_true', Bool.not_eq_true'] at other_kind
    obtain ⟨not_digit, not_letter⟩ := other_kind
    have absent : mark ∉ style.text date :=
      DateStyle.not_mem_text can not_digit not_letter (by simpa using other)
    exact Form.read?_eq_none_of_mark in_form absent
  · refine Form.read?_eq_none_of_monthName named fun c mem => ?_
    have no_letters : style.marks.all (!isAsciiLetter ·) = true := by cases style <;> rfl
    rcases DateStyle.mem_text can mem with digit | ⟨-, name⟩ | own
    · exact isAsciiLetter_eq_false_of_decimalDigit (isDecimalDigit_of_isAsciiDigit digit)
    · rw [unnamed] at name
      cases name
    · simpa using List.all_eq_true.mp no_letters c own
  · obtain ⟨others, rfl⟩ := List.head?_eq_some_iff.mp day_first
    cases style with
    | monthFirst full padded =>
      exact Form.read?_eq_none others (Piece.read_day_monthWord _ full (can.name rfl) _)
    | _ => cases month_first

/-- Of several forms the only one that may read a text decides. -/
theorem firstOf_eq_of_others {forms : List Form} {form : Form} (mem : form ∈ forms)
    {cs : List Char} (others : ∀ other ∈ forms, other ≠ form → other.read? cs = none) :
    firstOf (forms.map Form.read?) cs = form.read? cs := by
  cases read : firstOf (forms.map Form.read?) cs with
  | none =>
    rw [firstOf, List.findSome?_eq_none_iff] at read
    exact (read _ (List.mem_map_of_mem mem)).symm
  | some t =>
    obtain ⟨reader, reader_mem, taken⟩ := List.exists_of_findSome?_eq_some read
    obtain ⟨other, other_mem, rfl⟩ := List.mem_map.mp reader_mem
    by_cases same : other = form
    · rw [← same, taken]
    · rw [others other other_mem same] at taken
      cases taken

/-! ## Dates alone -/

/-- A date is no number. -/
theorem DateStyle.epochDigits?_text {style : DateStyle} {date : Date} (can : style.CanWrite date) :
    epochDigits? (style.text date) = none := by
  have some_year : date.yearText ≠ [] :=
    List.ne_nil_of_length_eq_add_one (Date.isNumeralOf_yearText can.last_year).length_eq
  cases style with
  | dashed => exact epochDigits?_append_eq_none some_year (by decide) _
  | slashed => exact epochDigits?_append_eq_none some_year (by decide) _
  | dotted =>
    have some_day : paddedNumeral 2 date.day ≠ [] :=
      List.ne_nil_of_length_eq_add_one (isNumeralOf_two can.day).length_eq
    exact epochDigits?_append_eq_none some_day (by decide) _
  | monthFirst full padded =>
    obtain ⟨first, last⟩ := can.name rfl
    exact epochDigits?_append_eq_none (monthWord_ne_nil full first last) (by decide) _
  | dayFirst full padded =>
    exact epochDigits?_append_eq_none (dayText_ne_nil padded can.day) (by decide) _

/-- **Of a date that is written alone its form decides**, whether there is such a date or not. -/
theorem DateStyle.readDate_text {style : DateStyle} {date : Date} (can : style.CanWrite date)
    (policy : DatePolicy) :
    readDate policy (style.text date) =
      match date.midnight.reading.instant? with
      | some t => .ok t
      | none => .error .unrecognized := by
  have no_colon : ':' ∉ style.text date := by
    refine DateStyle.not_mem_text can (by decide) (by decide) ?_
    cases style <;> (simp only [DateStyle.marks]; decide)
  have form_reads : style.form.read? (style.text date) = date.midnight.reading.instant? := by
    rw [Form.read?, DateStyle.readFrom_text can]
  have text_reads : readDateText? (style.text date) = date.midnight.reading.instant? := by
    rw [readDateText?_eq_readDateAlone? no_colon, readDateAlone?,
      firstOf_eq_of_others style.form_mem fun form mem other =>
        DateStyle.read?_eq_none can (style.lacks_of_ne form mem other), form_reads]
  have no_number := DateStyle.epochDigits?_text can
  cases instant : date.midnight.reading.instant? with
  | some t => simp [readDate, no_number, text_reads, instant]
  | none => simp [readDate, no_number, text_reads, instant]

end Intake.Calendar
