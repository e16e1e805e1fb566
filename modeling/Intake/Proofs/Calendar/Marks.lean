import Intake.Proofs.Calendar.WrittenDate

/-!
# What a text has to hold

Every piece of a form takes its characters off the front of the text and leaves the rest as it is
(`Piece.read_suffix`). So a text that is read in a form holds what each piece of the form has to
find somewhere: every mark of the form, and a letter if a month is named in it
(`Form.exists_mem_of_readFrom`). This tells the forms apart without a look at what comes before the
missing character. Moments are never read from a text without a colon
(`readDateText?_eq_readDateAlone?`).
-/

namespace Intake.Calendar

open Intake.Text

/-! ## What is left over -/

theorem trimLeft_suffix (cs : List Char) : trimLeft cs <:+ cs := List.dropWhile_suffix _

theorem readNumber_suffix {least most n : Nat} {cs rest : List Char}
    (h : readNumber least most cs = some (n, rest)) : rest <:+ cs := by
  obtain ⟨digits, rfl, -⟩ := readNumber_eq_some h
  exact List.suffix_append _ _

theorem readMark_suffix {mark : Char} {cs rest : List Char} (h : readMark mark cs = some rest) :
    rest <:+ cs := by
  rw [readMark_eq_some h]
  exact List.suffix_cons _ _

theorem readBlanks_suffix {cs rest : List Char} (h : readBlanks cs = some rest) : rest <:+ cs := by
  cases cs with
  | nil => cases h
  | cons c cs =>
    rw [readBlanks] at h
    split at h
    · cases h
      exact (trimLeft_suffix cs).trans (List.suffix_cons _ _)
    · cases h

theorem readShortMonth_suffix {month : Nat} {cs rest : List Char}
    (h : readShortMonth cs = some (month, rest)) : rest <:+ cs := by
  obtain ⟨i, -, same⟩ := Option.map_eq_some_iff.mp h
  cases same
  exact List.drop_suffix _ _

theorem readMonth_suffix {month : Nat} {cs rest : List Char}
    (h : readMonth cs = some (month, rest)) : rest <:+ cs := by
  unfold readMonth at h
  split at h
  · cases h
  · next short =>
    have short_suffix := readShortMonth_suffix short
    split at h
    · split at h
      · cases h
        exact (List.drop_suffix _ _).trans short_suffix
      · cases h
        exact short_suffix
    · cases h
      exact short_suffix

theorem readYear_suffix {year : Int} {cs rest : List Char}
    (h : readYear cs = some (year, rest)) : rest <:+ cs := by
  unfold readYear at h
  split at h
  all_goals
    obtain ⟨⟨n, left⟩, read, same⟩ := Option.map_eq_some_iff.mp h
    cases same
  · exact (readNumber_suffix read).trans (List.suffix_cons _ _)
  · exact (readNumber_suffix read).trans (List.suffix_cons _ _)
  · exact readNumber_suffix read

theorem readFraction_suffix {nanos : Nat} {cs rest : List Char}
    (h : readFraction cs = some (nanos, rest)) : rest <:+ cs := by
  unfold readFraction at h
  split at h
  · dsimp only at h
    split at h
    · cases h
    · cases h
      exact (List.dropWhile_suffix _).trans (List.suffix_cons _ _)
  · cases h
    exact List.suffix_rfl

theorem readOffsetSign_suffix {sign : Int} {cs rest : List Char}
    (h : readOffsetSign cs = some (sign, rest)) : rest <:+ cs := by
  cases cs with
  | nil => cases h
  | cons c cs =>
    rw [readOffsetSign] at h
    split at h
    · cases h
      exact List.suffix_cons _ _
    · split at h
      · cases h
        exact List.suffix_cons _ _
      · cases h

theorem readOffset_suffix {between : List Char → Option (List Char)}
    (between_suffix : ∀ cs rest, between cs = some rest → rest <:+ cs) {offset : Int}
    {cs rest : List Char} (h : readOffset between cs = some (offset, rest)) : rest <:+ cs := by
  simp only [readOffset, Option.bind_eq_bind, Option.bind_eq_some_iff, Prod.exists] at h
  obtain ⟨sign, cs₁, sign_read, hours, cs₂, hours_read, cs₃, between_read, minutes, cs₄,
    minutes_read, h⟩ := h
  split at h
  · cases h
    exact (readNumber_suffix minutes_read).trans <| (between_suffix _ _ between_read).trans <|
      (readNumber_suffix hours_read).trans (readOffsetSign_suffix sign_read)
  · cases h

/-- **Reading a piece leaves an end of the text.** -/
theorem Piece.read_suffix {piece : Piece} {r r' : Reading} {cs rest : List Char}
    (h : piece.read r cs = some (r', rest)) : rest <:+ cs := by
  cases piece
  case mark c =>
    obtain ⟨left, read, same⟩ := Option.map_eq_some_iff.mp h
    cases same
    exact readMark_suffix read
  case oneOf marks =>
    simp only [Piece.read] at h
    split at h
    · split at h
      · cases h
        exact List.suffix_cons _ _
      · cases h
    · cases h
  case blanks =>
    cases h
    exact trimLeft_suffix cs
  case digits part count =>
    obtain ⟨⟨n, left⟩, read, same⟩ := Option.map_eq_some_iff.mp h
    cases same
    exact readNumber_suffix read
  case number part =>
    by_cases year : part = .year
    · subst year
      obtain ⟨⟨y, left⟩, read, same⟩ := Option.map_eq_some_iff.mp h
      cases same
      exact (readYear_suffix read).trans (trimLeft_suffix cs)
    · rw [Piece.read_number year] at h
      obtain ⟨⟨n, left⟩, read, same⟩ := Option.map_eq_some_iff.mp h
      cases same
      exact (readNumber_suffix read).trans (trimLeft_suffix cs)
  case monthName =>
    obtain ⟨⟨month, left⟩, read, same⟩ := Option.map_eq_some_iff.mp h
    cases same
    exact readMonth_suffix read
  case fraction =>
    obtain ⟨⟨nanos, left⟩, read, same⟩ := Option.map_eq_some_iff.mp h
    cases same
    exact readFraction_suffix read
  case zone =>
    simp only [Piece.read] at h
    split at h
    · cases h
      exact List.suffix_cons _ _
    · cases h
      exact List.suffix_cons _ _
    · obtain ⟨⟨offset, left⟩, read, same⟩ := Option.map_eq_some_iff.mp h
      cases same
      exact readOffset_suffix (fun _ _ => readMark_suffix) read
  case looseZone =>
    obtain ⟨⟨offset, left⟩, read, same⟩ := Option.map_eq_some_iff.mp h
    cases same
    refine (readOffset_suffix (fun cs rest skipped => ?_) read).trans (trimLeft_suffix cs)
    cases skipped
    exact List.dropWhile_suffix _

/-! ## What a form needs -/

/-- **A text that is read in a form holds what each of the pieces needs.** -/
theorem Form.exists_mem_of_readFrom {form : Form} {piece : Piece} (mem : piece ∈ form)
    {needed : Char → Prop}
    (needs : ∀ r cs r' rest, piece.read r cs = some (r', rest) → ∃ c ∈ cs, needed c) {r : Reading}
    {cs : List Char} {result : Reading × List Char} (h : form.readFrom r cs = some result) :
    ∃ c ∈ cs, needed c := by
  induction form generalizing r cs with
  | nil => cases mem
  | cons first form ih =>
    obtain ⟨r', rest, first_read, read⟩ := Form.readFrom_cons_eq_some.mp h
    rcases List.mem_cons.mp mem with rfl | later
    · exact needs _ _ _ _ first_read
    · obtain ⟨c, c_mem, c_needed⟩ := ih later read
      exact ⟨c, (Piece.read_suffix first_read).subset c_mem, c_needed⟩

/-- A form does not read a text that lacks one of its marks. -/
theorem Form.read?_eq_none_of_mark {form : Form} {mark : Char} (mem : .mark mark ∈ form)
    {cs : List Char} (absent : mark ∉ cs) : form.read? cs = none := by
  rw [Option.eq_none_iff_forall_ne_some]
  intro t read
  obtain ⟨r, read, -⟩ := Form.read?_eq_some_iff.mp read
  have needs (r : Reading) (cs : List Char) (r' : Reading) (rest : List Char)
      (h : (Piece.mark mark).read r cs = some (r', rest)) : ∃ c ∈ cs, c = mark :=
    ⟨mark, by simp [Piece.read_mark_eq_some h], rfl⟩
  obtain ⟨c, c_mem, rfl⟩ := Form.exists_mem_of_readFrom mem needs read
  exact absent c_mem

/-- A form with the name of a month does not read a text without letters. -/
theorem Form.read?_eq_none_of_monthName {form : Form} (mem : .monthName ∈ form) {cs : List Char}
    (no_letter : ∀ c ∈ cs, isAsciiLetter c = false) : form.read? cs = none := by
  rw [Option.eq_none_iff_forall_ne_some]
  intro t read
  obtain ⟨r, read, -⟩ := Form.read?_eq_some_iff.mp read
  have needs (r : Reading) (cs : List Char) (r' : Reading) (rest : List Char)
      (h : Piece.monthName.read r cs = some (r', rest)) : ∃ c ∈ cs, isAsciiLetter c = true := by
    obtain ⟨⟨month, left⟩, read, -⟩ := Option.map_eq_some_iff.mp h
    cases cs with
    | nil => cases read
    | cons c cs =>
      refine ⟨c, List.mem_cons_self, ?_⟩
      rw [← Bool.not_eq_false]
      intro other
      rw [readMonth_eq_none other] at read
      cases read
  obtain ⟨c, c_mem, letter⟩ := Form.exists_mem_of_readFrom mem needs read
  rw [no_letter c c_mem] at letter
  cases letter

/-! ## Texts without a colon -/

theorem readYearFirst?_eq_none_of_colon {cs : List Char} (absent : ':' ∉ cs) :
    readYearFirst? cs = none := by
  have colons : ∀ form ∈ internetForm :: (offsetForms ++ zonelessForms), Piece.mark ':' ∈ form := by
    decide
  rw [readYearFirst?, ← List.map_cons, firstOf, List.findSome?_eq_none_iff]
  intro reader reader_mem
  obtain ⟨form, form_mem, rfl⟩ := List.mem_map.mp reader_mem
  exact Form.read?_eq_none_of_mark (colons form form_mem) absent

theorem readWeekdayName_suffix {weekday : Option Nat} {cs rest : List Char}
    (h : readWeekdayName cs = some (weekday, rest)) : rest <:+ cs := by
  unfold readWeekdayName at h
  split at h
  · next named =>
    obtain ⟨i, -, same⟩ := Option.map_eq_some_iff.mp named
    cases same
    obtain ⟨left, comma, same⟩ := Option.map_eq_some_iff.mp h
    cases same
    exact (readMark_suffix comma).trans (List.drop_suffix _ _)
  · cases h
    exact List.suffix_rfl

/-- A mail header holds a colon between the hour and the minute. -/
theorem readMail?_eq_none_of_colon {cs : List Char} (absent : ':' ∉ cs) : readMail? cs = none := by
  rw [Option.eq_none_iff_forall_ne_some]
  intro t h
  rw [readMail?] at h
  obtain ⟨⟨weekday, cs₁⟩, weekday_read, h⟩ := Option.bind_eq_some_iff.mp h
  obtain ⟨⟨day, cs₂⟩, day_read, h⟩ := Option.bind_eq_some_iff.mp h
  obtain ⟨cs₃, blanks, h⟩ := Option.bind_eq_some_iff.mp h
  obtain ⟨⟨month, cs₄⟩, month_read, h⟩ := Option.bind_eq_some_iff.mp h
  obtain ⟨cs₅, blanks', h⟩ := Option.bind_eq_some_iff.mp h
  obtain ⟨⟨year, cs₆⟩, year_read, h⟩ := Option.bind_eq_some_iff.mp h
  obtain ⟨cs₇, blanks'', h⟩ := Option.bind_eq_some_iff.mp h
  obtain ⟨⟨hour, cs₈⟩, hour_read, h⟩ := Option.bind_eq_some_iff.mp h
  obtain ⟨cs₉, colon, -⟩ := Option.bind_eq_some_iff.mp h
  have year_suffix : cs₆ <:+ cs₅ := by
    obtain ⟨⟨n, left⟩, read, same⟩ := Option.map_eq_some_iff.mp year_read
    cases same
    exact readNumber_suffix read
  have colon_mem : ':' ∈ trimLeft cs₈ := by
    rw [readMark_eq_some colon]
    exact List.mem_cons_self
  -- the colon has been in the text from the start
  have after_weekday : cs₁ <:+ cs :=
    (readWeekdayName_suffix weekday_read).trans (trimLeft_suffix cs)
  have after_day : cs₃ <:+ cs₁ :=
    (readBlanks_suffix blanks).trans ((readNumber_suffix day_read).trans (trimLeft_suffix cs₁))
  have after_month : cs₅ <:+ cs₃ :=
    (readBlanks_suffix blanks').trans (readShortMonth_suffix month_read)
  have after_year : cs₇ <:+ cs₅ := (readBlanks_suffix blanks'').trans year_suffix
  have after_hour : trimLeft cs₈ <:+ cs₇ :=
    (trimLeft_suffix cs₈).trans (readNumber_suffix hour_read)
  have whole : trimLeft cs₈ <:+ cs :=
    after_hour.trans (after_year.trans (after_month.trans (after_day.trans after_weekday)))
  exact absent (whole.subset colon_mem)

/-- **A text without a colon is at most a date alone.** -/
theorem readDateText?_eq_readDateAlone? {cs : List Char} (absent : ':' ∉ cs) :
    readDateText? cs = readDateAlone? cs := by
  rw [readDateText?, readYearFirst?_eq_none_of_colon absent, readMail?_eq_none_of_colon absent,
    ite_self, Option.none_or]

/-! ## The gates -/

/-- A text is no number if it holds something other than a digit after its first character. -/
theorem epochDigits?_append_eq_none {front : List Char} (some_front : front ≠ []) {c : Char}
    (not_digit : isDecimalDigit c = false) (rest : List Char) :
    epochDigits? (front ++ c :: rest) = none := by
  rw [epochDigits?_eq_none_iff]
  intro shaped
  obtain ⟨sign, sign_mem, digits, cs_eq, -, -, all⟩ := shaped
  -- a sign has one character at most, so what comes after the first is a digit
  have one_at_most : ∀ sign ∈ signs, sign.length ≤ 1 := by decide
  have digits_after : c ∈ digits := by
    have short := one_at_most sign sign_mem
    have some_length := List.length_pos_of_ne_nil some_front
    have digits_eq : digits = (front ++ c :: rest).drop sign.length := by rw [cs_eq, List.drop_left]
    rw [digits_eq, List.drop_append_of_le_length (by omega)]
    simp
  rw [all c digits_after] at not_digit
  cases not_digit

/-- A text that holds something other than a digit among its first four characters does not begin
with a year. -/
theorem beginsWithYear_append_eq_false {front : List Char} (short : front.length < 4) {c : Char}
    (not_digit : isDecimalDigit c = false) (rest : List Char) :
    beginsWithYear (front ++ c :: rest) = false := by
  rw [← Bool.not_eq_true, beginsWithYear_iff]
  intro written
  obtain ⟨year, separator, month, separator', day, after, cs_eq, width, -, digits, -⟩ := written
  have in_year : c ∈ year := by
    have year_eq : year = (front ++ c :: rest).take 4 := by rw [cs_eq, ← width, List.take_left]
    rw [year_eq, List.take_append, List.take_of_length_le (by omega)]
    obtain ⟨k, k_eq⟩ : ∃ k, 4 - front.length = k + 1 := ⟨3 - front.length, by omega⟩
    simp [k_eq]
  rw [digits c (by simp [in_year])] at not_digit
  cases not_digit

end Intake.Calendar
