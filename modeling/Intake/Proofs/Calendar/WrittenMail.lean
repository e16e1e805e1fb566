import Intake.Proofs.Calendar.WrittenMoments

/-!
# Dates of mail headers in writing

A mail header begins with a weekday or with a day of two digits at most, and the gate on the year
lets neither pass. Its parts are read one after the other, and a weekday that is written is the one
that the date falls on (`Moment.IsPossible.readDate_mail`).
-/

namespace Intake.Calendar

open Intake.Text

variable {m : Moment}

/-! ## Parts -/

/-- The text of a mail header after its weekday. -/
def Moment.mailText (m : Moment) (padded seconds : Bool) : List Char :=
  dayText padded m.date.day ++ ' ' :: (monthWord false m.date.month ++ ' ' :: (m.date.yearText ++
    ' ' :: (m.clockText ++ ((if seconds then m.secondText else []) ++ ' ' :: m.offset.text false))))

/-- A year of four digits is the year that it says. -/
theorem readMailYear_yearText {date : Date} (last : date.year ≤ 9999) (rest : List Char) :
    readMailYear (date.yearText ++ ' ' :: rest) = some (date.year.toNat, ' ' :: rest) := by
  have year := Date.isNumeralOf_yearText last
  have year_read : readNumber 2 (date.yearText ++ ' ' :: rest).length
      (date.yearText ++ ' ' :: rest) = some (date.year.toNat, ' ' :: rest) := by
    refine readNumber_append year (by decide) ?_ (.inr fun c mem => ?_)
    · rw [List.length_append, year.length_eq]
      omega
    · obtain rfl : ' ' = c := Option.some.inj mem
      decide
  have four : (date.yearText ++ ' ' :: rest).length - (' ' :: rest).length = 4 := by
    rw [List.length_append, year.length_eq, Nat.add_sub_cancel]
  rw [readMailYear, year_read, Option.map_some]
  simp only [four]
  rfl

/-- A number of two digits is read. -/
theorem readNumber_two {n : Nat} (small : n < 100) (rest : List Char) :
    readNumber 2 2 (paddedNumeral 2 n ++ rest) = some (n, rest) :=
  readNumber_append (isNumeralOf_two small) (Nat.le_refl 2) (Nat.le_refl 2) (.inl rfl)

/-- The seconds are read if they are there. -/
theorem Moment.IsPossible.readMailSecond_text (possible : m.IsPossible) (seconds : Bool) :
    readMailSecond ((if seconds then m.secondText else []) ++ ' ' :: m.offset.text false) =
      some (if seconds then m.second else 0, ' ' :: m.offset.text false) := by
  cases seconds with
  | true =>
    have colon : readMark ':' (trimLeft (m.secondText ++ ' ' :: m.offset.text false)) =
        some (paddedNumeral 2 m.second ++ ' ' :: m.offset.text false) := by
      rw [Moment.secondText, List.cons_append, trimLeft_cons (by decide)]
      rfl
    simp only [if_true, readMailSecond, colon,
      readNumber_two (Nat.lt_trans possible.second (by decide))]
  | false =>
    have no_colon : readMark ':' (trimLeft (' ' :: m.offset.text false)) = none := by
      rw [trimLeft_blank, trimLeft_offsetText]
      obtain ⟨digits, text_eq, -⟩ := readOffsetSign_text m.offset false
      rw [text_eq]
      cases m.offset.behind <;> rfl
    simp only [Bool.false_eq_true, if_false, List.nil_append, readMailSecond, no_colon]

theorem Moment.IsPossible.mailText_eq_cons (possible : m.IsPossible) (padded seconds : Bool) :
    ∃ c rest, m.mailText padded seconds = c :: rest ∧ isAsciiDigit c = true := by
  have day_mem {c : Char} : c ∈ dayText padded m.date.day → isAsciiDigit c = true :=
    isAsciiDigit_dayText
  cases day_eq : dayText padded m.date.day with
  | nil => exact absurd day_eq (dayText_ne_nil padded possible.month_day.2)
  | cons c day =>
    rw [Moment.mailText, day_eq]
    exact ⟨c, _, rfl, day_mem (by simp [day_eq])⟩

/-! ## Headers -/

/-- **The parts of a mail header are read one after the other**, with or without a weekday in front
of them. -/
theorem Moment.IsPossible.readMail?_parts (possible : m.IsPossible) {weekday : Option Nat}
    (named padded seconds : Bool) {cs gap : List Char} (trimmed : trimLeft cs = cs)
    (weekday_read : readWeekdayName cs = some (weekday, gap))
    (before_day : trimLeft gap = m.mailText padded seconds)
    (right : ∀ n ∈ weekday, m.date.weekday = n) :
    readMail? cs = some ((Style.mail named padded seconds).shown m).instant := by
  obtain ⟨first_month, last_month⟩ := possible.month_bounds
  have hour_lt : m.hour < 100 := Nat.lt_trans possible.hour (by decide)
  have minute_lt : m.minute < 100 := Nat.lt_trans possible.minute (by decide)
  have day_read (rest : List Char) :=
    readNumber_dayText padded possible.month_day.2 (c := ' ') (by decide) rest
  have colon (rest : List Char) : readMark ':' (trimLeft (':' :: rest)) = some rest := by
    rw [trimLeft_cons (by decide)]
    rfl
  have before_minute (rest : List Char) := trimLeft_numeral (isNumeralOf_two minute_lt) rest
  rw [readMail?, trimmed]
  refine Option.bind_eq_some_iff.mpr ⟨_, weekday_read, ?_⟩
  dsimp only
  rw [before_day, Moment.mailText]
  refine Option.bind_eq_some_iff.mpr ⟨_, day_read _, ?_⟩
  refine Option.bind_eq_some_iff.mpr ⟨_, readBlanks_blank
    (trimLeft_monthWord false first_month last_month _), ?_⟩
  refine Option.bind_eq_some_iff.mpr ⟨_, readShortMonth_monthWord first_month last_month _, ?_⟩
  refine Option.bind_eq_some_iff.mpr ⟨_, readBlanks_blank
    (trimLeft_yearText possible.last_year _), ?_⟩
  refine Option.bind_eq_some_iff.mpr ⟨_, readMailYear_yearText possible.last_year _, ?_⟩
  refine Option.bind_eq_some_iff.mpr ⟨_, readBlanks_blank (possible.trimLeft_clockText _), ?_⟩
  dsimp only
  rw [Moment.clockText, List.append_assoc, List.cons_append]
  refine Option.bind_eq_some_iff.mpr ⟨_, readNumber_two hour_lt _, ?_⟩
  refine Option.bind_eq_some_iff.mpr ⟨_, colon _, ?_⟩
  dsimp only
  rw [before_minute]
  refine Option.bind_eq_some_iff.mpr ⟨_, readNumber_two minute_lt _, ?_⟩
  refine Option.bind_eq_some_iff.mpr ⟨_, possible.readMailSecond_text seconds, ?_⟩
  refine Option.bind_eq_some_iff.mpr ⟨_, readBlanks_blank (trimLeft_offsetText m.offset false), ?_⟩
  refine Option.bind_eq_some_iff.mpr ⟨_, readMailZone_text possible.offset, ?_⟩
  have back : (m.date.year.toNat : Int) = m.date.year := Int.toNat_of_nonneg possible.first_year
  have reading_eq : (⟨(m.date.year.toNat : Int), m.date.month, m.date.day, m.hour, m.minute,
      if seconds then m.second else 0, 0, m.offset.seconds⟩ : Reading) =
        ((Style.mail named padded seconds).shown m).reading := by
    rw [back]
    cases seconds with
    | true => exact (Moment.reading_wholeSecond m).symm
    | false => exact (Moment.reading_wholeMinute m).symm
  have date_eq : ((Style.mail named padded seconds).shown m).reading.date = m.date := by
    cases seconds <;> rfl
  dsimp only
  rw [reading_eq, date_eq, (possible.shown _).instant?_reading]
  cases weekday with
  | none => rfl
  | some n =>
    have same : m.date.weekday = n := right n rfl
    simp only [same, beq_self_eq_true]
    rfl

/-! ## Mail headers -/

/-- **A mail header is read**, with or without its weekday. -/
theorem Moment.IsPossible.readMail?_text (possible : m.IsPossible) (named padded seconds : Bool) :
    readMail? ((Style.mail named padded seconds).text m) =
      some ((Style.mail named padded seconds).shown m).instant := by
  have day_trimmed : trimLeft (m.mailText padded seconds) = m.mailText padded seconds :=
    trimLeft_dayText padded possible.month_day.2 _
  cases named with
  | true =>
    have in_front : (Style.mail true padded seconds).text m =
        m.date.weekdayWord ++ ',' :: ' ' :: m.mailText padded seconds := by
      rw [Style.text, if_pos rfl, List.append_assoc]
      rfl
    have right : ∀ n ∈ some ((m.date.elapsedDays + 5) % 7), m.date.weekday = n := by
      intro n mem
      obtain rfl := Option.some.inj mem
      exact Date.weekday_eq_elapsedDays possible.date possible.first_year
    rw [in_front]
    exact possible.readMail?_parts true padded seconds (trimLeft_weekdayWord m.date _)
      (readWeekdayName_weekdayWord m.date _) (by rw [trimLeft_blank, day_trimmed]) right
  | false =>
    have no_weekday : readWeekdayName (m.mailText padded seconds) =
        some (none, m.mailText padded seconds) := by
      obtain ⟨c, rest, text_eq, digit⟩ := possible.mailText_eq_cons padded seconds
      rw [text_eq]
      exact readWeekdayName_of_not_letter (isAsciiLetter_eq_false_of_decimalDigit
        (isDecimalDigit_of_isAsciiDigit digit)) rest
    exact possible.readMail?_parts false padded seconds day_trimmed no_weekday day_trimmed (by simp)

/-- A mail header begins with one to three characters and then a comma or a blank. -/
theorem Moment.IsPossible.mail_text_eq (possible : m.IsPossible) (named padded seconds : Bool) :
    ∃ front c rest, (Style.mail named padded seconds).text m = front ++ c :: rest ∧ front ≠ [] ∧
      front.length < 4 ∧ isDecimalDigit c = false := by
  cases named with
  | true =>
    obtain ⟨length_eq, -⟩ := m.date.weekdayWord_spec
    refine ⟨m.date.weekdayWord, ',', ' ' :: m.mailText padded seconds, ?_,
      List.ne_nil_of_length_eq_add_one length_eq, by omega, by decide⟩
    rw [Style.text, if_pos rfl, List.append_assoc]
    rfl
  | false =>
    obtain ⟨width, numeral, narrow⟩ := isNumeralOf_dayText padded possible.month_day.2
    exact ⟨dayText padded m.date.day, ' ', _, rfl, dayText_ne_nil padded possible.month_day.2,
      by rw [numeral.length_eq]; omega, by decide⟩

theorem Moment.IsPossible.readDate_mail (possible : m.IsPossible) (policy : DatePolicy)
    (named padded seconds : Bool) :
    readDate policy ((Style.mail named padded seconds).text m) =
      .ok ((Style.mail named padded seconds).shown m).instant := by
  have mail_read := possible.readMail?_text named padded seconds
  obtain ⟨front, c, rest, text_eq, some_front, short, not_digit⟩ :=
    possible.mail_text_eq named padded seconds
  rw [text_eq] at mail_read ⊢
  refine readDate_of_readDateText? (epochDigits?_append_eq_none some_front not_digit rest) ?_ policy
  rw [readDateText?, beginsWithYear_append_eq_false short not_digit, if_neg Bool.false_ne_true,
    mail_read, Option.some_or]

end Intake.Calendar
