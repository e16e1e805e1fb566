import Intake.Proofs.Calendar.Canonical
import Intake.Proofs.Calendar.Policy
import Intake.Proofs.Text.Trim

/-!
# Texts with a year in front

A text that begins with a year, perhaps after a sign, and a separator is neither a mail header nor a
date that begins with the day or the month: those begin with a letter, or with a number after which
they go on with a blank, a point or a month (`HasYearInFront.readMail?_eq_none`,
`HasYearInFront.readDateAlone?_eq_none`).
-/

namespace Intake.Calendar

open Intake.Text

/-! ## Digits, blanks and letters -/

/-- No digit of any script is a blank. -/
theorem isBlank_eq_false_of_decimalDigit {c : Char} (digit : isDecimalDigit c = true) :
    isBlank c = false := by
  have apart : ∀ first ∈ digitZeros, ∀ range ∈ blankRanges,
      range.2 < first ∨ first + 9 < range.1 := by decide +kernel
  obtain ⟨first, first_mem, within⟩ := List.any_eq_true.mp digit
  simp only [Bool.and_eq_true, decide_eq_true_eq] at within
  rw [isBlank, Ranges.contains, List.any_eq_false]
  intro range range_mem
  have := apart first first_mem range range_mem
  simp only [Bool.and_eq_true, decide_eq_true_eq]
  omega

theorem isAsciiLetter_iff {c : Char} :
    isAsciiLetter c = true ↔
      (97 ≤ c.toNat ∧ c.toNat ≤ 122) ∨ (65 ≤ c.toNat ∧ c.toNat ≤ 90) := by
  simp only [isAsciiLetter, Bool.or_eq_true, Bool.and_eq_true, decide_eq_true_eq]
  rfl

/-- No digit of any script is a letter from `a` to `z`. -/
theorem isAsciiLetter_eq_false_of_decimalDigit {c : Char} (digit : isDecimalDigit c = true) :
    isAsciiLetter c = false := by
  have apart : ∀ first ∈ digitZeros, first + 9 < 65 ∨ 122 < first := by decide
  obtain ⟨first, first_mem, within⟩ := List.any_eq_true.mp digit
  have := apart first first_mem
  simp only [Bool.and_eq_true, decide_eq_true_eq] at within
  rw [← Bool.not_eq_true, isAsciiLetter_iff]
  omega

theorem isAsciiLetter_eq_false_of_blank {c : Char} (blank : isBlank c = true) :
    isAsciiLetter c = false := by
  have apart : ∀ range ∈ blankRanges, range.2 < 65 ∨ 122 < range.1 := by decide
  obtain ⟨range, range_mem, within⟩ := List.any_eq_true.mp blank
  have := apart range range_mem
  simp only [Bool.and_eq_true, decide_eq_true_eq] at within
  rw [← Bool.not_eq_true, isAsciiLetter_iff]
  omega

theorem isDecimalDigit_eq_false_of_blank {c : Char} (blank : isBlank c = true) :
    isDecimalDigit c = false := by
  rw [← Bool.not_eq_true]
  intro digit
  rw [isBlank_eq_false_of_decimalDigit digit] at blank
  cases blank

theorem isDateSeparator_iff {c : Char} : isDateSeparator c = true ↔ c = '-' ∨ c = '/' := by
  simp [isDateSeparator]

theorem isDecimalDigit_eq_false_of_separator {c : Char} (separates : isDateSeparator c = true) :
    isDecimalDigit c = false := by
  rcases isDateSeparator_iff.mp separates with rfl | rfl <;> decide

theorem isDecimalDigit_eq_false_of_sign :
    ∀ sign ∈ signs, ∀ c ∈ sign, isDecimalDigit c = false := by
  have none_digit : ∀ sign ∈ signs, sign.any isDecimalDigit = false := by decide
  intro sign mem c c_mem
  simpa using List.any_eq_false.mp (none_digit sign mem) c c_mem

/-- In front of a text that begins with a digit, there is nothing that has none. -/
theorem nothing_before_digit {gap rest more : List Char} {c : Char} (h : gap ++ rest = c :: more)
    (digit : isDecimalDigit c = true) (others : ∀ c ∈ gap, isDecimalDigit c = false) :
    gap = [] := by
  cases gap with
  | nil => rfl
  | cons d gap =>
    obtain rfl : d = c := (List.cons.inj h).1
    rw [others d List.mem_cons_self] at digit
    cases digit

/-! ## Names -/

/-- A text begins with a word only if its first character is the first of the word. -/
theorem startsWithWord_eq_false {word : List Char} {c : Char} (some_letter : word ≠ [])
    (other : word.head? ≠ some c.toLower) (cs : List Char) :
    startsWithWord word (c :: cs) = false := by
  cases word with
  | nil => exact absurd rfl some_letter
  | cons letter word =>
    have different : c.toLower ≠ letter := fun same => other (by rw [List.head?_cons, same])
    simp [startsWithWord, different]

/-- The name of a month or a weekday begins with a letter. -/
theorem startsWithWord_name {c : Char} (other : isAsciiLetter c = false) (cs : List Char) :
    ∀ name ∈ monthNames.map Prod.fst ++ weekdayNames, startsWithWord name (c :: cs) = false := by
  have letters : ∀ name ∈ monthNames.map Prod.fst ++ weekdayNames,
      name ≠ [] ∧ name.head?.all isAsciiLetter = true := by decide
  have same : c.toLower = c := by
    refine dif_neg fun upper => ?_
    have letter : isAsciiLetter c = true := by
      simp only [isAsciiLetter, Bool.or_eq_true, Bool.and_eq_true, decide_eq_true_eq]
      exact .inr upper
    rw [other] at letter
    cases letter
  intro name mem
  refine startsWithWord_eq_false (letters name mem).1 (fun head => ?_) cs
  have letter := (letters name mem).2
  rw [head, same, Option.all_some, other] at letter
  cases letter

theorem readMonth_eq_none {c : Char} (other : isAsciiLetter c = false) (cs : List Char) :
    readMonth (c :: cs) = none := by
  have no_name : readShortMonth (c :: cs) = none := by
    rw [readShortMonth, Option.map_eq_none_iff, List.findIdx?_eq_none_iff]
    exact fun name mem => startsWithWord_name other cs name.1
      (List.mem_append_left _ (List.mem_map_of_mem mem))
  rw [readMonth, no_name]

theorem readWeekdayName_of_not_letter {c : Char} (other : isAsciiLetter c = false)
    (cs : List Char) : readWeekdayName (c :: cs) = some (none, c :: cs) := by
  have no_name : readWeekday (c :: cs) = none := by
    rw [readWeekday, Option.map_eq_none_iff, List.findIdx?_eq_none_iff]
    exact fun name mem => startsWithWord_name other cs name (List.mem_append_right _ mem)
  rw [readWeekdayName, no_name]

/-! ## What the readers take -/

theorem readMark_eq_some {mark : Char} {cs rest : List Char} (h : readMark mark cs = some rest) :
    cs = mark :: rest := by
  cases cs with
  | nil => cases h
  | cons c cs =>
    rw [readMark] at h
    split at h
    · next same =>
      obtain rfl := Option.some.inj h
      rw [same]
    · cases h

/-- A number takes ASCII digits, as many as it may. -/
theorem readNumber_eq_some {least most n : Nat} {cs rest : List Char}
    (h : readNumber least most cs = some (n, rest)) :
    ∃ digits, cs = digits ++ rest ∧ least ≤ digits.length ∧ digits.length ≤ most ∧
      ∀ c ∈ digits, isAsciiDigit c = true := by
  unfold readNumber at h
  dsimp only at h
  split at h
  · cases h
  · next enough =>
    have in_front := (List.takeWhile_prefix isAsciiDigit).trans (List.take_prefix most cs)
    obtain ⟨left, split_eq⟩ := in_front
    generalize taken_eq : (cs.take most).takeWhile isAsciiDigit = taken at *
    rw [← split_eq, List.drop_left] at h
    obtain rfl := (Prod.mk.inj (Option.some.inj h)).2
    refine ⟨taken, split_eq.symm, Nat.le_of_not_lt enough, ?_, ?_⟩
    · rw [← taken_eq]
      exact (List.takeWhile_prefix _).length_le.trans (List.length_take_le most cs)
    · rw [← taken_eq]
      exact fun c mem => List.mem_takeWhile_imp mem

theorem Piece.read_mark_eq_some {mark : Char} {r r' : Reading} {cs rest : List Char}
    (h : (Piece.mark mark).read r cs = some (r', rest)) : cs = mark :: rest := by
  obtain ⟨left, marked, noted⟩ := Option.map_eq_some_iff.mp h
  cases noted
  exact readMark_eq_some marked

theorem Form.readFrom_cons_eq_some {piece : Piece} {form : Form} {r : Reading} {cs : List Char}
    {result : Reading × List Char} :
    Form.readFrom (piece :: form) r cs = some result ↔
      ∃ r' rest, piece.read r cs = some (r', rest) ∧ Form.readFrom form r' rest = some result := by
  rw [Form.readFrom]
  cases piece.read r cs with
  | none => simp
  | some read =>
    obtain ⟨r', rest⟩ := read
    simp

/-- A form whose first piece is not read does not read the text. -/
theorem Form.read?_eq_none {piece : Piece} (form : Form) {cs : List Char}
    (h : piece.read Reading.start cs = none) : Form.read? (piece :: form) cs = none := by
  rw [Form.read?, Form.readFrom, h]

theorem Form.read?_eq_some_iff {form : Form} {cs : List Char} {t : Instant} :
    form.read? cs = some t ↔
      ∃ r, form.readFrom Reading.start cs = some (r, []) ∧ r.instant? = some t := by
  rw [Form.read?]
  cases form.readFrom Reading.start cs with
  | none => simp
  | some read =>
    obtain ⟨r, rest⟩ := read
    cases rest <;> simp

/-! ## A year in front -/

/-- The text begins with a year that ends in a separator. -/
inductive HasYearInFront : List Char → Prop
  | intro {sign year rest : List Char} {separator : Char} (sign_mem : sign ∈ signs)
      (not_empty : year ≠ []) (digits : ∀ c ∈ year, isDecimalDigit c = true)
      (separates : isDateSeparator separator = true) :
      HasYearInFront (sign ++ (year ++ separator :: rest))

namespace HasYearInFront

variable {cs : List Char}

/-- The first character is a sign or a digit. -/
theorem first_char (h : HasYearInFront cs) :
    ∃ c rest, cs = c :: rest ∧ isBlank c = false ∧ isAsciiLetter c = false := by
  obtain ⟨sign_mem, not_empty, digits, -⟩ := h
  simp only [signs, List.mem_cons, List.not_mem_nil, or_false] at sign_mem
  rcases sign_mem with rfl | rfl | rfl
  · obtain ⟨c, year, rfl⟩ := List.exists_cons_of_ne_nil not_empty
    have digit := digits c List.mem_cons_self
    exact ⟨c, _, rfl, isBlank_eq_false_of_decimalDigit digit,
      isAsciiLetter_eq_false_of_decimalDigit digit⟩
  · exact ⟨'+', _, rfl, by decide, by decide⟩
  · exact ⟨'-', _, rfl, by decide, by decide⟩

theorem trimLeft_eq (h : HasYearInFront cs) : trimLeft cs = cs := by
  obtain ⟨c, rest, rfl, visible, -⟩ := h.first_char
  exact trimLeft_cons visible rest

theorem trimmed (h : HasYearInFront cs) : HasYearInFront (trimLeft cs) :=
  h.trimLeft_eq.symm ▸ h

/-- **No day is read off a year**: after the number there is another digit or the separator. -/
theorem readNumber_day (h : HasYearInFront cs) {n : Nat} {rest : List Char}
    (read : readNumber 1 2 cs = some (n, rest)) :
    ∃ c more, rest = c :: more ∧ (isDecimalDigit c = true ∨ isDateSeparator c = true) := by
  obtain @⟨sign, year, after, separator, sign_mem, not_empty, digits, separates⟩ := h
  obtain ⟨taken, text_eq, some_digit, -, taken_digits⟩ := readNumber_eq_some read
  obtain ⟨first, others, rfl⟩ := List.exists_cons_of_length_pos some_digit
  have first_digit := isDecimalDigit_of_isAsciiDigit (taken_digits first List.mem_cons_self)
  have no_sign : sign = [] :=
    nothing_before_digit text_eq first_digit (isDecimalDigit_eq_false_of_sign sign sign_mem)
  have not_taken : separator ∉ first :: others := by
    intro mem
    rw [isDateSeparator_eq_false (taken_digits separator mem)] at separates
    cases separates
  rw [no_sign, List.nil_append] at text_eq
  rcases List.append_eq_append_iff.mp text_eq with ⟨more, taken_eq, left_eq⟩ | ⟨more, rfl, rfl⟩
  · -- the number would reach the separator
    cases more with
    | nil => exact ⟨separator, after, left_eq.symm, .inr separates⟩
    | cons c more =>
      obtain rfl : separator = c := (List.cons.inj left_eq).1
      exact absurd (by simp [taken_eq]) not_taken
  · cases more with
    | nil => exact ⟨separator, after, rfl, .inr separates⟩
    | cons c more => exact ⟨c, _, rfl, .inl (digits c (by simp))⟩

/-- What follows a number at the front of a year is neither a blank, nor a point, nor a month. -/
theorem after_day (h : HasYearInFront cs) {n : Nat} {rest : List Char}
    (read : readNumber 1 2 cs = some (n, rest)) :
    readBlanks rest = none ∧ readMark '.' rest = none ∧ readMonth (trimLeft rest) = none := by
  obtain ⟨c, more, rfl, next⟩ := h.readNumber_day read
  have facts : isBlank c = false ∧ c ≠ '.' ∧ isAsciiLetter c = false := by
    rcases next with digit | separates
    · refine ⟨isBlank_eq_false_of_decimalDigit digit, ?_,
        isAsciiLetter_eq_false_of_decimalDigit digit⟩
      rintro rfl
      exact absurd digit (by decide)
    · rcases isDateSeparator_iff.mp separates with rfl | rfl <;> decide
  obtain ⟨visible, no_point, no_letter⟩ := facts
  refine ⟨by simp [readBlanks, visible], by simp [readMark, no_point], ?_⟩
  rw [trimLeft_cons visible, readMonth_eq_none no_letter]

variable (h : HasYearInFront (trimLeft cs))
include h

/-- **A year in front is no mail header**, with or without blanks before it. -/
theorem readMail?_eq_none : readMail? cs = none := by
  have no_name : readWeekdayName (trimLeft cs) = some (none, trimLeft cs) := by
    obtain ⟨c, more, text_eq, -, no_letter⟩ := h.first_char
    rw [text_eq, readWeekdayName_of_not_letter no_letter]
  rw [readMail?, no_name]
  show (readNumber 1 2 (trimLeft (trimLeft cs))).bind _ = none
  rw [h.trimLeft_eq, Option.bind_eq_none_iff]
  rintro ⟨n, rest⟩ read
  show (readBlanks rest).bind _ = none
  rw [(h.after_day read).1]
  rfl

/-- A year in front is no day: a form that goes on with a point or a month does not read it. -/
theorem read?_day_eq_none {form : Form}
    (stuck : ∀ r rest, readMark '.' rest = none → readMonth (trimLeft rest) = none →
      Form.readFrom form r rest = none) : Form.read? (.number .day :: form) cs = none := by
  rw [Form.read?, Form.readFrom, Piece.read_number (by decide)]
  cases read : readNumber 1 2 (trimLeft cs) with
  | none => rfl
  | some numbered =>
    obtain ⟨-, no_point, no_month⟩ := h.after_day read
    simp only [Option.map_some, stuck _ _ no_point no_month]

/-- A year in front is no month, with or without blanks before it. -/
theorem read_monthName (r : Reading) : Piece.monthName.read r cs = none := by
  obtain ⟨c, more, rfl, no_letter⟩ : ∃ c more, cs = c :: more ∧ isAsciiLetter c = false := by
    cases cs with
    | nil =>
      obtain ⟨c, more, impossible, -⟩ := h.first_char
      cases impossible
    | cons c more =>
      refine ⟨c, more, rfl, ?_⟩
      cases visible : isBlank c with
      | true => exact isAsciiLetter_eq_false_of_blank visible
      | false =>
        rw [trimLeft_cons visible] at h
        obtain ⟨c', more', text_eq, -, no_letter⟩ := h.first_char
        obtain rfl := (List.cons.inj text_eq).1
        exact no_letter
  rw [Piece.read, readMonth_eq_none no_letter]
  rfl

/-- **A year in front of a date and a time is no date alone:** the forms with the year first leave
the time over, or stop at the wrong separator; the others want a day or a month in front. -/
theorem readDateAlone?_eq_none {separator : Char} {r : Reading} {rest : List Char}
    (read : Form.readFrom (yearFirst separator) Reading.start cs = some (r, rest))
    (more : rest ≠ []) : readDateAlone? cs = none := by
  have dates (other : Char) : Form.read? (yearFirst other) cs = none := by
    rw [Option.eq_none_iff_forall_ne_some]
    intro instant alone
    obtain ⟨_, alone, -⟩ := Form.read?_eq_some_iff.mp alone
    by_cases same : other = separator
    · rw [same, read] at alone
      exact more (Prod.mk.inj (Option.some.inj alone)).2
    · simp only [yearFirst, Form.readFrom_cons_eq_some] at read alone
      obtain ⟨_, _, year_read, _, _, mark_read, -⟩ := read
      obtain ⟨_, _, year_read', _, _, mark_read', -⟩ := alone
      rw [year_read] at year_read'
      cases year_read'
      rw [Piece.read_mark_eq_some mark_read] at mark_read'
      exact same (List.cons.inj (Piece.read_mark_eq_some mark_read')).1.symm
  have every_form : ∀ form ∈ dateForms, form.read? cs = none := by
    simp only [dateForms, List.forall_mem_cons, List.not_mem_nil, false_implies, implies_true]
    refine ⟨dates '-', dates '/', h.read?_day_eq_none fun r rest no_point _ => ?_,
      Form.read?_eq_none _ (h.read_monthName _),
      h.read?_day_eq_none fun r rest _ no_month => ?_, trivial⟩
    · rw [Form.readFrom, Piece.read, no_point]
      rfl
    · show Form.readFrom (.monthName :: _) r (trimLeft rest) = none
      rw [Form.readFrom, Piece.read, no_month]
      rfl
  rw [readDateAlone?, firstOf, List.findSome?_eq_none_iff]
  intro reader reader_mem
  obtain ⟨form, form_mem, rfl⟩ := List.mem_map.mp reader_mem
  exact every_form form form_mem

end HasYearInFront

end Intake.Calendar
