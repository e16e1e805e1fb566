import Intake.Proofs.Calendar.WrittenDates

/-!
# Moments with the year first

Of the forms behind the gate on the year those that take a date with hyphens only differ in what
comes after the date: four forms of a time (`timeForms`), which are tried in order on what follows
the separator (`Moment.IsPossible.readYearFirst?_dashed`). A text with slashes lacks the hyphens of
all forms but one. A mail header begins with a weekday or with a day of two digits at most, and the
gate lets neither pass.
-/

namespace Intake.Calendar

open Intake.Text

/-! ## The forms of a time -/

/-- Reads the rest of a text in the rest of a form. -/
def Form.readRest? (form : Form) (r : Reading) (cs : List Char) : Option Instant :=
  match form.readFrom r cs with
  | some (r, []) => r.instant?
  | _ => none

theorem Form.read?_eq_readRest? (form : Form) (cs : List Char) :
    form.read? cs = form.readRest? Reading.start cs := rfl

theorem Form.readRest?_append {front : Form} {r r' : Reading} {cs rest : List Char}
    (h : front.readFrom r cs = some (r', rest)) (form : Form) :
    Form.readRest? (front ++ form) r cs = form.readRest? r' rest := by
  rw [Form.readRest?, Form.readFrom_append, h]
  rfl

theorem Form.readRest?_cons {piece : Piece} {r r' : Reading} {cs rest : List Char}
    (h : piece.read r cs = some (r', rest)) (form : Form) :
    Form.readRest? (piece :: form) r cs = form.readRest? r' rest := by
  rw [Form.readRest?, Form.readFrom_cons h]
  rfl

theorem Form.readRest?_cons_eq_none {piece : Piece} {r : Reading} {cs : List Char}
    (h : piece.read r cs = none) (form : Form) : Form.readRest? (piece :: form) r cs = none := by
  rw [Form.readRest?, Form.readFrom, h]

/-- The time of the internet form. -/
def internetTime : Form :=
  [.digits .hour 2, .mark ':', .digits .minute 2, .mark ':', .digits .second 2, .fraction, .zone]

/-- The times that may follow a date with hyphens, in the order in which they are tried. -/
def timeForms : List Form :=
  [internetTime, hourMinuteSecond ++ [.fraction, .looseZone], hourMinuteSecond ++ [.fraction],
   hourMinute]

/-! ## Dates with hyphens -/

variable {m : Moment}

/-- The reading of a date before its time is read. -/
def Date.start (date : Date) : Reading :=
  { Reading.start with year := date.year, month := date.month, day := date.day }

theorem Moment.IsPossible.month_day (possible : m.IsPossible) :
    m.date.month < 100 ∧ m.date.day < 100 := by
  obtain ⟨month_le, day_le⟩ := Date.month_day_le possible.date
  omega

theorem Moment.IsPossible.month_bounds (possible : m.IsPossible) :
    1 ≤ m.date.month ∧ m.date.month ≤ 12 :=
  ⟨(Date.one_le_month_day possible.date).1, (Date.month_day_le possible.date).1⟩

theorem Moment.IsPossible.canWrite (possible : m.IsPossible) (style : DateStyle) :
    style.CanWrite m.date :=
  ⟨possible.first_year, possible.last_year, possible.month_day.1, possible.month_day.2,
    fun _ => possible.month_bounds⟩

/-- The gate lets every date with the year first pass. -/
theorem Moment.IsPossible.beginsWithYear_text (possible : m.IsPossible) {separator : Char}
    (separates : isDateSeparator separator = true) (rest : List Char) :
    beginsWithYear (m.date.yearFirstText separator ++ rest) = true := by
  obtain ⟨month_lt, day_lt⟩ := possible.month_day
  have year := Date.isNumeralOf_yearText possible.last_year
  have month := isNumeralOf_two month_lt
  have day := isNumeralOf_two day_lt
  obtain ⟨first, others, day_eq⟩ := List.exists_cons_of_length_eq_add_one day.length_eq
  refine beginsWithYear_iff.mpr ⟨m.date.yearText, separator, paddedNumeral 2 m.date.month, separator,
    first, others ++ rest, ?_, year.length_eq, .inr month.length_eq, ?_, separates, separates⟩
  · simp [Date.yearFirstText, day_eq]
  · simp only [List.forall_mem_append, List.forall_mem_singleton]
    have first_digit : isAsciiDigit first = true := day.digits first (by simp [day_eq])
    exact ⟨⟨fun c mem => isDecimalDigit_of_isAsciiDigit (year.digits c mem),
      fun c mem => isDecimalDigit_of_isAsciiDigit (month.digits c mem)⟩,
      isDecimalDigit_of_isAsciiDigit first_digit⟩

theorem Moment.IsPossible.readFrom_date (possible : m.IsPossible) (separator : Char)
    (rest : List Char) :
    (yearFirst separator).readFrom Reading.start (m.date.yearFirstText separator ++ rest) =
      some (m.date.start, rest) :=
  readFrom_yearFirstText _ separator possible.first_year possible.last_year possible.month_day.1
    possible.month_day.2 rest

/-- The internet form reads the date by its width and any separator. -/
theorem Moment.IsPossible.read?_internetForm (possible : m.IsPossible) (separator : Separator)
    (time : List Char) :
    internetForm.read? (m.date.yearFirstText '-' ++ separator.char :: time) =
      internetTime.readRest? m.date.start time := by
  have year := Date.isNumeralOf_yearText possible.last_year
  have month := isNumeralOf_two possible.month_day.1
  have day := isNumeralOf_two possible.month_day.2
  have back : (m.date.year.toNat : Int) = m.date.year := Int.toNat_of_nonneg possible.first_year
  have any : separator.char ∈ ['T', 't', ' '] := by cases separator <;> decide
  simp only [Date.yearFirstText, List.append_assoc, List.cons_append]
  rw [Form.read?_eq_readRest?, internetForm,
    Form.readRest?_cons (Piece.read_digits _ _ year _), Form.readRest?_cons (Piece.read_mark _ _ _),
    Form.readRest?_cons (Piece.read_digits _ _ month _),
    Form.readRest?_cons (Piece.read_mark _ _ _), Form.readRest?_cons (Piece.read_digits _ _ day _),
    Form.readRest?_cons (Piece.read_oneOf _ any _)]
  simp only [Reading.set, back]
  rfl

/-- A form of a date and a time goes on after the date. -/
theorem Moment.IsPossible.read?_dated (possible : m.IsPossible) (separator : Char) (time : Form)
    (rest : List Char) :
    Form.read? (yearFirst separator ++ time) (m.date.yearFirstText separator ++ rest) =
      time.readRest? m.date.start rest := by
  rw [Form.read?_eq_readRest?, Form.readRest?_append (possible.readFrom_date separator rest)]

/-- A form with a letter after the date reads no blank there, and a form with blanks no letter. -/
theorem Moment.IsPossible.read?_separated (possible : m.IsPossible) (separator : Separator)
    {c : Char} (digit : isAsciiDigit c = true) (time : List Char) (form : Form) :
    Form.read? (yearFirst '-' ++ .mark 'T' :: .number .hour :: form)
        (m.date.yearFirstText '-' ++ separator.char :: c :: time) =
      (if separator = .letter then Form.readRest? (.number .hour :: form) m.date.start (c :: time)
        else none) ∧
      Form.read? (yearFirst '-' ++ .blanks :: .number .hour :: form)
        (m.date.yearFirstText '-' ++ separator.char :: c :: time) =
      (if separator = .blank then Form.readRest? (.number .hour :: form) m.date.start (c :: time)
        else none) := by
  rw [possible.read?_dated, possible.read?_dated]
  cases separator with
  | letter =>
    have no_blank : Piece.blanks.read m.date.start ('T' :: c :: time) =
        some (m.date.start, 'T' :: c :: time) := by
      rw [Piece.read, trimLeft_cons (by decide)]
    have no_hour : (Piece.number .hour).read m.date.start ('T' :: c :: time) = none := by
      rw [Piece.read_number (by decide), trimLeft_cons (by decide)]
      rfl
    exact ⟨Form.readRest?_cons (Piece.read_mark _ _ _) _,
      (Form.readRest?_cons no_blank _).trans (Form.readRest?_cons_eq_none no_hour _)⟩
  | blank =>
    have no_letter : (Piece.mark 'T').read m.date.start (' ' :: c :: time) = none := rfl
    have trimmed : trimLeft (c :: time) = c :: time :=
      trimLeft_cons (isBlank_eq_false_of_digit digit) time
    exact ⟨Form.readRest?_cons_eq_none no_letter _,
      Form.readRest?_cons (Piece.read_blank _ trimmed) _⟩

/-- The form with slashes stops at the first hyphen. -/
theorem Moment.IsPossible.read?_slashed_dashed (possible : m.IsPossible) (form : Form)
    (rest : List Char) :
    Form.read? (yearFirst '/' ++ form) (m.date.yearFirstText '-' ++ rest) = none := by
  have no_slash (r : Reading) (cs : List Char) : (Piece.mark '/').read r ('-' :: cs) = none := rfl
  simp only [Date.yearFirstText, yearFirst, List.append_assoc, List.cons_append]
  rw [Form.read?_eq_readRest?,
    Form.readRest?_cons (Piece.read_yearText _ possible.first_year possible.last_year _),
    Form.readRest?_cons_eq_none (no_slash _ _)]

theorem Moment.IsPossible.clockText_eq_cons (possible : m.IsPossible) :
    ∃ c rest, m.clockText = c :: rest ∧ isAsciiDigit c = true := by
  have hour := isNumeralOf_two (Nat.lt_trans possible.hour (by decide))
  obtain ⟨c, rest, hour_eq⟩ := List.exists_cons_of_length_eq_add_one hour.length_eq
  refine ⟨c, rest ++ ':' :: paddedNumeral 2 m.minute, ?_, hour.digits c (by simp [hour_eq])⟩
  rw [Moment.clockText, hour_eq, List.cons_append]

/-- **A time after a date with hyphens** is read by the first form of a time that takes it. -/
theorem Moment.IsPossible.readYearFirst?_dashed (possible : m.IsPossible) (separator : Separator)
    (rest : List Char) :
    readYearFirst? (m.date.yearFirstText '-' ++ separator.char :: (m.clockText ++ rest)) =
      timeForms.findSome? fun form => form.readRest? m.date.start (m.clockText ++ rest) := by
  obtain ⟨c, clock, clock_eq, digit⟩ := possible.clockText_eq_cons
  have separated := possible.read?_separated separator digit (clock ++ rest)
  have slashed := possible.read?_slashed_dashed
  rw [clock_eq]
  simp only [readYearFirst?, firstOf, offsetForms, zonelessForms, timeForms, hourMinuteSecond,
    hourMinute, List.map_cons, List.map_nil, List.append_assoc, List.cons_append, List.nil_append,
    List.findSome?_cons, List.findSome?_nil, possible.read?_internetForm, separated, slashed]
  cases separator <;> simp

/-! ## Times -/

/-- The time of the internet form is read by its width up to the zone. -/
theorem Moment.IsPossible.readRest?_internetTime (possible : m.IsPossible) {zone : List Char}
    (stop : ∀ c ∈ zone.head?, isAsciiDigit c = false ∧ c ≠ '.') :
    internetTime.readRest? m.date.start (m.clockText ++ (m.secondText ++ (m.fractionText ++ zone))) =
      Form.readRest? [.zone] m.reading.local zone := by
  have hour := isNumeralOf_two (Nat.lt_trans possible.hour (by decide))
  have minute := isNumeralOf_two (Nat.lt_trans possible.minute (by decide))
  have second := isNumeralOf_two (Nat.lt_trans possible.second (by decide))
  simp only [Moment.clockText, Moment.secondText, List.append_assoc, List.cons_append]
  rw [internetTime, Form.readRest?_cons (Piece.read_digits _ _ hour _),
    Form.readRest?_cons (Piece.read_mark _ _ _), Form.readRest?_cons (Piece.read_digits _ _ minute _),
    Form.readRest?_cons (Piece.read_mark _ _ _), Form.readRest?_cons (Piece.read_digits _ _ second _),
    Form.readRest?_cons (Piece.read_fractionText _ possible stop)]
  rfl

/-- The other forms of a time with a fraction read the same. -/
theorem Moment.IsPossible.readRest?_fraction (possible : m.IsPossible) (form : Form)
    {zone : List Char} (stop : ∀ c ∈ zone.head?, isAsciiDigit c = false ∧ c ≠ '.') :
    Form.readRest? (hourMinuteSecond ++ .fraction :: form) m.date.start
        (m.clockText ++ (m.secondText ++ (m.fractionText ++ zone))) =
      form.readRest? m.reading.local zone := by
  rw [Form.readRest?_append (readFrom_hourMinuteSecond _ possible _),
    Form.readRest?_cons (Piece.read_fractionText _ possible stop)]
  rfl

/-- After hours and minutes alone, only the form without seconds is left. -/
theorem Moment.IsPossible.findSome?_clockText (possible : m.IsPossible) :
    (timeForms.findSome? fun form => form.readRest? m.date.start m.clockText) =
      m.wholeMinute.inUtc.reading.instant? := by
  have hour := isNumeralOf_two (Nat.lt_trans possible.hour (by decide))
  have minute := isNumeralOf_two (Nat.lt_trans possible.minute (by decide))
  have minute_read (r : Reading) := Piece.read_digits r .minute minute []
  rw [List.append_nil] at minute_read
  have clock_read := readFrom_hourMinute m.date.start possible []
  rw [List.append_nil] at clock_read
  have internet : internetTime.readRest? m.date.start m.clockText = none := by
    rw [internetTime, Moment.clockText, Form.readRest?_cons (Piece.read_digits _ _ hour _),
      Form.readRest?_cons (Piece.read_mark _ _ _), Form.readRest?_cons (minute_read _),
      Form.readRest?_cons_eq_none rfl]
  have seconds (form : Form) :
      Form.readRest? (hourMinuteSecond ++ form) m.date.start m.clockText = none := by
    rw [hourMinuteSecond, List.append_assoc, Form.readRest?_append clock_read, List.cons_append,
      Form.readRest?_cons_eq_none rfl]
  have minutes : hourMinute.readRest? m.date.start m.clockText =
      m.wholeMinute.inUtc.reading.instant? := by
    rw [Form.readRest?, clock_read, Moment.reading_inUtc, Moment.reading_wholeMinute]
    rfl
  simp only [timeForms, List.findSome?_cons, List.findSome?_nil, internet, seconds, minutes]
  cases m.wholeMinute.inUtc.reading.instant? <;> rfl

/-! ## Texts behind the gate -/

theorem readDate_of_readDateText? {cs : List Char} {t : Instant} (no_number : epochDigits? cs = none)
    (read : readDateText? cs = some t) (policy : DatePolicy) : readDate policy cs = .ok t := by
  rw [readDate, no_number]
  simp only [read]

/-- A text with the year first is read by the forms behind the gate. -/
theorem Moment.IsPossible.readDate_yearFirst (possible : m.IsPossible) {separator : Char}
    (separates : isDateSeparator separator = true) {rest : List Char} {t : Instant}
    (read : readYearFirst? (m.date.yearFirstText separator ++ rest) = some t)
    (policy : DatePolicy) : readDate policy (m.date.yearFirstText separator ++ rest) = .ok t := by
  have no_number : epochDigits? (m.date.yearFirstText separator ++ rest) = none := by
    have some_year : m.date.yearText ≠ [] :=
      List.ne_nil_of_length_eq_add_one (Date.isNumeralOf_yearText possible.last_year).length_eq
    rw [Date.yearFirstText, List.append_assoc, List.cons_append]
    exact epochDigits?_append_eq_none some_year (isDecimalDigit_eq_false_of_separator separates) _
  refine readDate_of_readDateText? no_number ?_ policy
  rw [readDateText?, possible.beginsWithYear_text separates, if_pos rfl, read, Option.some_or]

/-- Neither a digit nor a point begins a zone. -/
theorem ZoneStyle.head?_text (zone : ZoneStyle) (offset : Offset) :
    ∀ c ∈ (zone.text offset).head?, isAsciiDigit c = false ∧ c ≠ '.' := by
  have sign : ∀ c ∈ some (if offset.behind then '-' else '+'),
      isAsciiDigit c = false ∧ c ≠ '.' := by
    intro c mem
    obtain rfl := Option.some.inj mem
    cases offset.behind <;> decide
  cases zone with
  | zulu =>
    intro c mem
    obtain rfl : 'Z' = c := Option.some.inj mem
    decide
  | colon => exact sign
  | plain => exact sign

/-- **A time with a zone** is read by the internet form, or without a colon by the next. -/
theorem Moment.IsPossible.findSome?_zoned (possible : m.IsPossible) (separator : Separator)
    (zone : ZoneStyle) :
    (timeForms.findSome? fun form => form.readRest? m.date.start
      (m.clockText ++ (m.secondText ++ (m.fractionText ++ zone.text m.offset)))) =
        some ((Style.zoned separator zone).shown m).instant := by
  have stop := zone.head?_text m.offset
  have whole := possible.instant?_reading
  simp only [timeForms, List.findSome?_cons, possible.readRest?_internetTime stop,
    possible.readRest?_fraction _ stop]
  cases zone with
  | zulu =>
    have read : Form.readRest? [.zone] m.reading.local ['Z'] = some m.inUtc.instant := by
      rw [Form.readRest?_cons (Piece.read_zulu _ _), ← possible.inUtc.instant?_reading,
        Moment.reading_inUtc]
      rfl
    simp only [ZoneStyle.text, read]
    rfl
  | colon =>
    have zone_read : Piece.zone.read m.reading.local (m.offset.text true) =
        some (m.reading, []) := by
      rw [Piece.read_zone_offset, readOffset_text possible.offset true rfl]
      rfl
    have read : Form.readRest? [.zone] m.reading.local (m.offset.text true) = some m.instant := by
      rw [Form.readRest?_cons zone_read, ← whole]
      rfl
    simp only [ZoneStyle.text, read]
    rfl
  | plain =>
    have no_zone : Piece.zone.read m.reading.local (m.offset.text false) = none := by
      rw [Piece.read_zone_offset, readOffset_text_plain possible.offset]
      rfl
    have read : Form.readRest? [.looseZone] m.reading.local (m.offset.text false) =
        some m.instant := by
      rw [Form.readRest?_cons (Piece.read_looseZone_plain _ possible.offset), ← whole]
      rfl
    simp only [ZoneStyle.text, Form.readRest?_cons_eq_none no_zone, read]
    rfl

/-- **A time without a zone** is read by the form that wants none. -/
theorem Moment.IsPossible.findSome?_zoneless (possible : m.IsPossible) :
    (timeForms.findSome? fun form => form.readRest? m.date.start
      (m.clockText ++ (m.secondText ++ m.fractionText))) = some m.inUtc.instant := by
  have stop : ∀ c ∈ ([] : List Char).head?, isAsciiDigit c = false ∧ c ≠ '.' := nofun
  have internet := possible.readRest?_internetTime stop
  have others (form : Form) := possible.readRest?_fraction form stop
  have no_zone (r : Reading) : Form.readRest? [.zone] r [] = none := rfl
  have no_looseZone (r : Reading) : Form.readRest? [.looseZone] r [] = none := rfl
  have read : Form.readRest? [] m.reading.local [] = some m.inUtc.instant := by
    rw [← possible.inUtc.instant?_reading, Moment.reading_inUtc]
    rfl
  rw [List.append_nil] at internet others
  simp only [timeForms, List.findSome?_cons, internet, others, no_zone, no_looseZone, read]

/-! ## Moments in the forms with the year first -/

theorem Moment.IsPossible.readDate_zoned (possible : m.IsPossible) (policy : DatePolicy)
    (separator : Separator) (zone : ZoneStyle) :
    readDate policy ((Style.zoned separator zone).text m) =
      .ok ((Style.zoned separator zone).shown m).instant := by
  refine possible.readDate_yearFirst rfl ?_ policy
  rw [possible.readYearFirst?_dashed, possible.findSome?_zoned separator]

theorem Moment.IsPossible.readDate_zoneless (possible : m.IsPossible) (policy : DatePolicy)
    (separator : Separator) (seconds : Bool) :
    readDate policy ((Style.zoneless separator seconds).text m) =
      .ok ((Style.zoneless separator seconds).shown m).instant := by
  refine possible.readDate_yearFirst rfl ?_ policy
  rw [possible.readYearFirst?_dashed]
  cases seconds with
  | true => exact possible.findSome?_zoneless
  | false =>
    have shown := possible.wholeMinute.inUtc.instant?_reading
    rw [if_neg Bool.false_ne_true, List.append_nil, possible.findSome?_clockText, shown]
    rfl

/-- The only form with slashes and a time. -/
def slashedForm : Form := yearFirst '/' ++ [.blanks] ++ hourMinuteSecond

theorem Moment.IsPossible.trimLeft_clockText (possible : m.IsPossible) (rest : List Char) :
    trimLeft (m.clockText ++ rest) = m.clockText ++ rest := by
  obtain ⟨c, clock, clock_eq, digit⟩ := possible.clockText_eq_cons
  rw [clock_eq]
  exact trimLeft_cons (isBlank_eq_false_of_digit digit) _

theorem Moment.IsPossible.read?_slashedForm (possible : m.IsPossible) :
    slashedForm.read? (Style.slashed.text m) = some (Style.slashed.shown m).instant := by
  have time_read := readFrom_hourMinuteSecond m.date.start possible []
  rw [List.append_nil] at time_read
  have shown := possible.wholeSecond.inUtc.instant?_reading
  rw [slashedForm, Style.text, List.append_assoc, possible.read?_dated, List.singleton_append,
    Form.readRest?_cons (Piece.read_blank _ (possible.trimLeft_clockText _)), Form.readRest?,
    time_read, Style.shown, ← shown, Moment.reading_inUtc, Moment.reading_wholeSecond]
  rfl

/-- The characters of a text with slashes. -/
theorem hyphen_not_mem_slashed (m : Moment) : '-' ∉ Style.slashed.text m := by
  have not_digit {width n : Nat} (mem : '-' ∈ paddedNumeral width n) : False := by
    have digit := paddedNumeral_isAsciiDigit mem
    cases digit
  intro mem
  simp only [Style.text, Date.yearFirstText, Moment.clockText, Moment.secondText, List.mem_append,
    List.mem_cons] at mem
  rcases mem with (year | slash | month | slash | day) | blank | (hour | colon | minute) | colon |
    second
  · exact not_digit year
  · cases slash
  · exact not_digit month
  · cases slash
  · exact not_digit day
  · cases blank
  · exact not_digit hour
  · cases colon
  · exact not_digit minute
  · cases colon
  · exact not_digit second

theorem Moment.IsPossible.readDate_slashed (possible : m.IsPossible) (policy : DatePolicy) :
    readDate policy (Style.slashed.text m) = .ok (Style.slashed.shown m).instant := by
  have hyphens : ∀ form ∈ internetForm :: (offsetForms ++ zonelessForms), form ≠ slashedForm →
      Piece.mark '-' ∈ form := by decide
  have slashed_mem : slashedForm ∈ internetForm :: (offsetForms ++ zonelessForms) := by decide
  refine possible.readDate_yearFirst rfl ?_ policy
  show readYearFirst? (Style.slashed.text m) = _
  rw [readYearFirst?, ← List.map_cons, firstOf_eq_of_others slashed_mem fun form mem other =>
    Form.read?_eq_none_of_mark (hyphens form mem other) (hyphen_not_mem_slashed m),
    possible.read?_slashedForm]

end Intake.Calendar
