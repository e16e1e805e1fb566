import Intake.Proofs.Calendar.Marks
import Intake.Proofs.Calendar.SignedYear
import Intake.Proofs.Calendar.Writing
import Intake.Proofs.Calendar.YearGate

/-!
# Reading the parts of a written moment

Each part of a written moment is read back by the piece of a form that looks for it, whatever
follows, as long as what follows does not go on with the part: a numeral must not be followed by a
digit, nor a time without a fraction by a point.
-/

namespace Intake.Calendar

open Intake.Text Intake.Numeral

/-! ## Numbers -/

/-- A day has one or two digits. -/
theorem isNumeralOf_dayText (padded : Bool) {day : Nat} (small : day < 100) :
    ∃ width, IsNumeralOf (width + 1) day (dayText padded day) ∧ width ≤ 1 := by
  cases padded with
  | true => exact ⟨1, isNumeralOf_two small, Nat.le_refl 1⟩
  | false =>
    have at_least : 1 ≤ (numeral day).length := List.length_pos_of_ne_nil (numeral_ne_nil day)
    have at_most : (numeral day).length ≤ 2 := length_digitsOf_le small
    obtain ⟨width, width_eq⟩ := Nat.exists_eq_add_of_le' at_least
    refine ⟨width, ?_, by omega⟩
    rw [← width_eq]
    exact isNumeralOf_numeral day

/-- A day is read where another character follows. -/
theorem readNumber_dayText (padded : Bool) {day : Nat} (small : day < 100) {c : Char}
    (stop : isAsciiDigit c = false) (rest : List Char) :
    readNumber 1 2 (dayText padded day ++ c :: rest) = some (day, c :: rest) := by
  obtain ⟨width, numeral, narrow⟩ := isNumeralOf_dayText padded small
  refine readNumber_append numeral (by omega) (by omega) (.inr fun d mem => ?_)
  obtain rfl : c = d := by simpa using mem
  exact stop

theorem trimLeft_dayText (padded : Bool) {day : Nat} (small : day < 100) (rest : List Char) :
    trimLeft (dayText padded day ++ rest) = dayText padded day ++ rest := by
  obtain ⟨width, numeral, -⟩ := isNumeralOf_dayText padded small
  exact trimLeft_numeral numeral rest

theorem dayText_ne_nil (padded : Bool) {day : Nat} (small : day < 100) :
    dayText padded day ≠ [] := by
  obtain ⟨width, numeral, -⟩ := isNumeralOf_dayText padded small
  exact List.ne_nil_of_length_eq_add_one numeral.length_eq

theorem Piece.read_dayText (r : Reading) (padded : Bool) {day : Nat} (small : day < 100) {c : Char}
    (stop : isAsciiDigit c = false) (rest : List Char) :
    (Piece.number .day).read r (dayText padded day ++ c :: rest) =
      some (r.set .day day, c :: rest) := by
  rw [Piece.read_number (by decide), trimLeft_dayText padded small,
    readNumber_dayText padded small stop]
  rfl

/-- A year of four digits. -/
theorem Date.isNumeralOf_yearText {date : Date} (last : date.year ≤ 9999) :
    IsNumeralOf 4 date.year.toNat date.yearText := by
  have small : date.year.toNat < 10000 := by omega
  exact isNumeralOf_of_lt small

theorem readYear_yearText {date : Date} (first : 0 ≤ date.year) (last : date.year ≤ 9999)
    (rest : List Char) : readYear (date.yearText ++ rest) = some (date.year, rest) := by
  have numeral := Date.isNumeralOf_yearText last
  have number_read : readNumber 1 4 (date.yearText ++ rest) = some (date.year.toNat, rest) :=
    readNumber_append numeral (by decide) (Nat.le_refl 4) (.inl rfl)
  have back : (date.year.toNat : Int) = date.year := Int.toNat_of_nonneg first
  obtain ⟨length_eq, digits, -⟩ := numeral
  obtain ⟨c, year, year_eq⟩ := List.exists_cons_of_length_eq_add_one length_eq
  have digit : isAsciiDigit c = true := digits c (by simp [year_eq])
  rw [year_eq] at number_read ⊢
  -- a digit in front is no sign
  unfold readYear
  split
  · next same =>
    obtain rfl := (List.cons.inj same).1
    cases digit
  · next same =>
    obtain rfl := (List.cons.inj same).1
    cases digit
  · simp only [number_read, Option.map_some, back]

theorem trimLeft_yearText {date : Date} (last : date.year ≤ 9999) (rest : List Char) :
    trimLeft (date.yearText ++ rest) = date.yearText ++ rest :=
  trimLeft_numeral (Date.isNumeralOf_yearText last) rest

theorem Piece.read_yearText (r : Reading) {date : Date} (first : 0 ≤ date.year)
    (last : date.year ≤ 9999) (rest : List Char) :
    (Piece.number .year).read r (date.yearText ++ rest) =
      some ({ r with year := date.year }, rest) := by
  rw [Piece.read, trimLeft_yearText last, readYear_yearText first last]
  rfl

/-! ## Blanks -/

theorem trimLeft_blank (cs : List Char) : trimLeft (' ' :: cs) = trimLeft cs := by
  rw [trimLeft, List.dropWhile_cons_of_pos (by decide)]
  rfl

theorem readBlanks_blank {cs : List Char} (trimmed : trimLeft cs = cs) :
    readBlanks (' ' :: cs) = some cs := by
  have blank : isBlank ' ' = true := by decide
  rw [readBlanks, if_pos blank, trimmed]

theorem Piece.read_blank (r : Reading) {cs : List Char} (trimmed : trimLeft cs = cs) :
    Piece.blanks.read r (' ' :: cs) = some (r, cs) := by
  rw [Piece.read, trimLeft_blank, trimmed]

/-! ## Names -/

/-- Of so many characters in front only their letters count. -/
theorem startsWithWord_append {word front : List Char} (same_length : front.length = word.length)
    (rest : List Char) :
    startsWithWord word (front ++ rest) = (front.map Char.toLower == word) := by
  have enough : word.length ≤ (front ++ rest).length := by
    rw [List.length_append]
    omega
  rw [startsWithWord, ← same_length, List.take_left, same_length, decide_eq_true enough,
    Bool.true_and]

/-- A search by words of one length only looks at so many characters in front. -/
theorem findIdx?_startsWithWord {α : Type} {names : List α} {word : α → List Char}
    {front : List Char} (lengths : ∀ name ∈ names, front.length = (word name).length)
    (rest : List Char) :
    names.findIdx? (fun name => startsWithWord (word name) (front ++ rest)) =
      names.findIdx? (fun name => front.map Char.toLower == word name) := by
  induction names with
  | nil => rfl
  | cons name names ih =>
    rw [List.forall_mem_cons] at lengths
    simp only [List.findIdx?_cons, startsWithWord_append lengths.1, ih lengths.2]

/-- What follows the three letters in the full name of a month. -/
def monthEnding (month : Nat) : List Char := (monthWord true month).drop 3

/-- The names of the months as they are written, and as they are looked for. -/
structure IsMonthName (month : Nat) : Prop where
  full_eq : monthWord true month = monthWord false month ++ monthEnding month
  length_eq : (monthWord false month).length = 3
  found : monthNames.findIdx? (fun name => (monthWord false month).map Char.toLower == name.1) =
    some (month - 1)
  ending : (monthNames[month - 1]?).map Prod.snd = some (monthEnding month)
  ending_lower : (monthEnding month).map Char.toLower = monthEnding month
  ending_visible : ' ' ∉ monthEnding month

theorem isMonthName {month : Nat} (first : 1 ≤ month) (last : month ≤ 12) : IsMonthName month := by
  have full : ∀ month < 13, 1 ≤ month →
      monthWord true month = monthWord false month ++ monthEnding month ∧
        (monthWord false month).length = 3 := by decide
  have found : ∀ month < 13, 1 ≤ month →
      monthNames.findIdx? (fun name => (monthWord false month).map Char.toLower == name.1) =
        some (month - 1) := by decide
  have ending : ∀ month < 13, 1 ≤ month →
      (monthNames[month - 1]?).map Prod.snd = some (monthEnding month) ∧
        (monthEnding month).map Char.toLower = monthEnding month ∧ ' ' ∉ monthEnding month := by
    decide
  obtain ⟨full_eq, length_eq⟩ := full month (by omega) first
  obtain ⟨ending_eq, ending_lower, ending_visible⟩ := ending month (by omega) first
  exact ⟨full_eq, length_eq, found month (by omega) first, ending_eq, ending_lower, ending_visible⟩

theorem readShortMonth_monthWord {month : Nat} (first : 1 ≤ month) (last : month ≤ 12)
    (rest : List Char) :
    readShortMonth (monthWord false month ++ rest) = some (month, rest) := by
  have name := isMonthName first last
  have lengths : ∀ name ∈ monthNames, (monthWord false month).length = name.1.length := by
    have three : ∀ name ∈ monthNames, name.1.length = 3 := by decide
    intro other mem
    rw [name.length_eq, three other mem]
  have left : (monthWord false month ++ rest).drop 3 = rest := by
    rw [← name.length_eq, List.drop_left]
  rw [readShortMonth, findIdx?_startsWithWord lengths, name.found, Option.map_some, left,
    Nat.sub_add_cancel first]

/-- A blank does not go on with a word. -/
theorem skip_word_blank {word : List Char} (visible : ' ' ∉ word) (rest : List Char) :
    (if startsWithWord word (' ' :: rest) then (' ' :: rest).drop word.length else ' ' :: rest) =
      ' ' :: rest := by
  cases word with
  | nil => exact ite_self _
  | cons c word =>
    have other : (c :: word).head? ≠ some (' ' : Char).toLower := by
      intro same
      obtain rfl : c = ' ' := by simpa using same
      exact visible List.mem_cons_self
    rw [startsWithWord_eq_false (List.cons_ne_nil c word) other]
    rfl

/-- **A month is read by its name, in full or not.** -/
theorem readMonth_monthWord (full : Bool) {month : Nat} (first : 1 ≤ month) (last : month ≤ 12)
    (rest : List Char) :
    readMonth (monthWord full month ++ ' ' :: rest) = some (month, ' ' :: rest) := by
  have name := isMonthName first last
  obtain ⟨⟨short, ending⟩, listed, ending_eq⟩ := Option.map_eq_some_iff.mp name.ending
  obtain rfl : ending = monthEnding month := ending_eq
  cases full with
  | false =>
    simp only [readMonth, readShortMonth_monthWord first last, listed,
      skip_word_blank name.ending_visible]
  | true =>
    have goes_on :
        startsWithWord (monthEnding month) (monthEnding month ++ ' ' :: rest) = true := by
      rw [startsWithWord_append rfl, beq_iff_eq]
      exact name.ending_lower
    rw [name.full_eq, List.append_assoc]
    simp only [readMonth, readShortMonth_monthWord first last, listed, goes_on, if_true,
      List.drop_left]

theorem Piece.read_monthWord (r : Reading) (full : Bool) {month : Nat} (first : 1 ≤ month)
    (last : month ≤ 12) (rest : List Char) :
    Piece.monthName.read r (monthWord full month ++ ' ' :: rest) =
      some ({ r with month }, ' ' :: rest) := by
  rw [Piece.read, readMonth_monthWord full first last]
  rfl

theorem monthWord_ne_nil (full : Bool) {month : Nat} (first : 1 ≤ month) (last : month ≤ 12) :
    monthWord full month ≠ [] := by
  have name := isMonthName first last
  have some_letters : monthWord false month ≠ [] := List.ne_nil_of_length_eq_add_one name.length_eq
  cases full with
  | false => exact some_letters
  | true =>
    rw [name.full_eq]
    exact List.append_ne_nil_of_left_ne_nil some_letters _

/-- The name of a month is made of letters. -/
theorem isAsciiLetter_monthWord (full : Bool) {month : Nat} (first : 1 ≤ month)
    (last : month ≤ 12) : ∀ c ∈ monthWord full month, isAsciiLetter c = true := by
  have all : ∀ full, ∀ month < 13, 1 ≤ month →
      (monthWord full month).all isAsciiLetter = true := by decide
  exact List.all_eq_true.mp (all full month (by omega) first)

/-- A word does not begin with a blank. -/
theorem trimLeft_word {word : List Char} (some_letter : word ≠ [])
    (letters : ∀ c ∈ word, isAsciiLetter c = true) (rest : List Char) :
    trimLeft (word ++ rest) = word ++ rest := by
  obtain ⟨c, word, rfl⟩ := List.exists_cons_of_ne_nil some_letter
  have visible : isBlank c = false := by
    rw [← Bool.not_eq_true]
    intro blank
    have letter := letters c List.mem_cons_self
    rw [isAsciiLetter_eq_false_of_blank blank] at letter
    cases letter
  exact trimLeft_cons visible _

theorem trimLeft_monthWord (full : Bool) {month : Nat} (first : 1 ≤ month) (last : month ≤ 12)
    (rest : List Char) : trimLeft (monthWord full month ++ rest) = monthWord full month ++ rest :=
  trimLeft_word (monthWord_ne_nil full first last) (isAsciiLetter_monthWord full first last) rest

/-- The name of a month is no day. -/
theorem Piece.read_day_monthWord (r : Reading) (full : Bool) {month : Nat}
    (named : 1 ≤ month ∧ month ≤ 12) (rest : List Char) :
    (Piece.number .day).read r (monthWord full month ++ rest) = none := by
  obtain ⟨first, last⟩ := named
  have letters := isAsciiLetter_monthWord full first last
  rw [Piece.read_number (by decide), trimLeft_monthWord full first last, Option.map_eq_none_iff,
    Option.eq_none_iff_forall_ne_some]
  rintro ⟨n, left⟩ read
  obtain ⟨digits, text_eq, some_digit, -, all⟩ := readNumber_eq_some read
  obtain ⟨d, digits, rfl⟩ := List.exists_cons_of_length_pos some_digit
  cases word_eq : monthWord full month with
  | nil => exact monthWord_ne_nil full first last word_eq
  | cons c word =>
    rw [word_eq] at text_eq letters
    obtain rfl : c = d := (List.cons.inj text_eq).1
    have letter := letters c List.mem_cons_self
    rw [isAsciiLetter_eq_false_of_decimalDigit
      (isDecimalDigit_of_isAsciiDigit (all c List.mem_cons_self))] at letter
    cases letter

/-- The name of a weekday as it is written, and as it is looked for. -/
theorem Date.weekdayWord_spec (date : Date) :
    date.weekdayWord.length = 3 ∧ (∀ c ∈ date.weekdayWord, isAsciiLetter c = true) ∧
      weekdayNames.findIdx? (fun name => date.weekdayWord.map Char.toLower == name) =
        some ((date.elapsedDays + 5) % 7) := by
  have all : ∀ i < 7, (weekdayWords.getD i []).length = 3 ∧
      (weekdayWords.getD i []).all isAsciiLetter = true ∧
        weekdayNames.findIdx? (fun name => (weekdayWords.getD i []).map Char.toLower == name) =
          some i := by decide
  obtain ⟨length_eq, letters, found⟩ :=
    all ((date.elapsedDays + 5) % 7) (Nat.mod_lt _ (by decide))
  exact ⟨length_eq, List.all_eq_true.mp letters, found⟩

theorem trimLeft_weekdayWord (date : Date) (rest : List Char) :
    trimLeft (date.weekdayWord ++ rest) = date.weekdayWord ++ rest := by
  obtain ⟨length_eq, letters, -⟩ := date.weekdayWord_spec
  exact trimLeft_word (List.ne_nil_of_length_eq_add_one length_eq) letters rest

/-- **A weekday is read by its name.** -/
theorem readWeekdayName_weekdayWord (date : Date) (rest : List Char) :
    readWeekdayName (date.weekdayWord ++ ',' :: rest) =
      some (some ((date.elapsedDays + 5) % 7), rest) := by
  obtain ⟨length_eq, -, found⟩ := date.weekdayWord_spec
  have lengths : ∀ name ∈ weekdayNames, date.weekdayWord.length = name.length := by
    have three : ∀ name ∈ weekdayNames, name.length = 3 := by decide
    intro name mem
    rw [length_eq, three name mem]
  have left : (date.weekdayWord ++ ',' :: rest).drop 3 = ',' :: rest := by
    rw [← length_eq, List.drop_left]
  have named : readWeekday (date.weekdayWord ++ ',' :: rest) =
      some ((date.elapsedDays + 5) % 7, ',' :: rest) := by
    rw [readWeekday, findIdx?_startsWithWord lengths, found, Option.map_some, left]
  have comma : readMark ',' (',' :: rest) = some rest := rfl
  simp only [readWeekdayName, named, comma, Option.map_some]

/-! ## Times -/

/-- **The fraction of a second is read** where neither a digit nor a point follows. -/
theorem Piece.read_fractionText (r : Reading) {m : Moment} (possible : m.IsPossible)
    {rest : List Char} (stop : ∀ c ∈ rest.head?, isAsciiDigit c = false ∧ c ≠ '.') :
    Piece.fraction.read r (m.fractionText ++ rest) = some ({ r with nanos := m.nanos }, rest) := by
  have digits := possible.fraction_digits
  unfold Moment.fractionText
  by_cases none_left : m.fraction = []
  · have no_nanos : m.nanos = 0 := Moment.nanos_eq_zero none_left
    have no_point : ∀ more, rest ≠ '.' :: more := by
      rintro more rfl
      exact (stop '.' rfl).2 rfl
    rw [if_pos none_left, List.nil_append, Piece.read, no_nanos]
    unfold readFraction
    split
    · next more => exact absurd rfl (no_point more)
    · rfl
  · have taken : (m.fraction ++ rest).takeWhile isAsciiDigit = m.fraction := by
      rw [List.takeWhile_append_of_pos digits]
      cases rest with
      | nil => exact List.append_nil _
      | cons c rest =>
        rw [List.takeWhile_cons_of_neg (by simp [(stop c rfl).1]), List.append_nil]
    have left : (m.fraction ++ rest).dropWhile isAsciiDigit = rest := by
      rw [List.dropWhile_append_of_pos digits]
      cases rest with
      | nil => rfl
      | cons c rest => exact List.dropWhile_cons_of_neg (by simp [(stop c rfl).1])
    have kept : m.fraction.take 9 = m.fraction := List.take_of_length_le possible.fraction_length
    rw [if_neg none_left, Piece.read, List.cons_append, readFraction]
    simp only [taken, left, if_neg none_left, kept, Option.map_some]
    rfl

/-- Hours and minutes are read. -/
theorem readFrom_hourMinute (r : Reading) {m : Moment} (possible : m.IsPossible)
    (rest : List Char) :
    hourMinute.readFrom r (m.clockText ++ rest) =
      some ({ r with hour := m.hour, minute := m.minute }, rest) := by
  have hour := isNumeralOf_two (Nat.lt_trans possible.hour (by decide))
  have minute := isNumeralOf_two (Nat.lt_trans possible.minute (by decide))
  rw [Moment.clockText, List.append_assoc, List.cons_append, hourMinute,
    Form.readFrom_cons (Piece.read_number_append (by decide) _ hour _),
    Form.readFrom_cons (Piece.read_mark _ _ _),
    Form.readFrom_cons (Piece.read_number_append (by decide) _ minute _)]
  rfl

theorem readFrom_hourMinuteSecond (r : Reading) {m : Moment} (possible : m.IsPossible)
    (rest : List Char) :
    hourMinuteSecond.readFrom r (m.clockText ++ (m.secondText ++ rest)) =
      some ({ r with hour := m.hour, minute := m.minute, second := m.second }, rest) := by
  have second := isNumeralOf_two (Nat.lt_trans possible.second (by decide))
  rw [hourMinuteSecond, Form.readFrom_append, readFrom_hourMinute r possible, Option.bind_some,
    Moment.secondText, List.cons_append]
  dsimp only
  rw [Form.readFrom_cons (Piece.read_mark _ _ _),
    Form.readFrom_cons (Piece.read_number_append (by decide) _ second _)]
  rfl

/-! ## Offsets -/

theorem readOffsetSign_text (offset : Offset) (colon : Bool) :
    ∃ digits, offset.text colon = (if offset.behind then '-' else '+') :: digits ∧
      readOffsetSign (offset.text colon) = some (if offset.behind then -1 else 1, digits) := by
  refine ⟨_, rfl, ?_⟩
  unfold Offset.text
  cases offset.behind <;> rfl

/-- **An offset is read** if what stands between its hours and minutes is taken off. -/
theorem readOffset_text {offset : Offset} (possible : offset.IsPossible) (colon : Bool)
    {between : List Char → Option (List Char)}
    (skips : between ((if colon then [':'] else []) ++ paddedNumeral 2 offset.minutes) =
      some (paddedNumeral 2 offset.minutes)) :
    readOffset between (offset.text colon) = some (offset.seconds, []) := by
  obtain ⟨hours_lt, minutes_lt⟩ := possible
  have hours := isNumeralOf_two (Nat.lt_trans hours_lt (by decide))
  have minutes := isNumeralOf_two (Nat.lt_trans minutes_lt (by decide))
  have hours_read (rest : List Char) :
      readNumber 2 2 (paddedNumeral 2 offset.hours ++ rest) = some (offset.hours, rest) :=
    readNumber_append hours (Nat.le_refl 2) (Nat.le_refl 2) (.inl rfl)
  have minutes_read : readNumber 2 2 (paddedNumeral 2 offset.minutes ++ []) =
      some (offset.minutes, []) :=
    readNumber_append minutes (Nat.le_refl 2) (Nat.le_refl 2) (.inl rfl)
  rw [List.append_nil] at minutes_read
  obtain ⟨digits, text_eq, sign_read⟩ := readOffsetSign_text offset colon
  obtain rfl := (List.cons.inj text_eq).2
  simp only [readOffset, sign_read, hours_read, skips, minutes_read, hours_lt, minutes_lt, and_self,
    if_true, Option.bind_eq_bind, Option.bind_some]
  rfl

/-- An offset without a colon is not read where a colon has to be. -/
theorem readOffset_text_plain {offset : Offset} (possible : offset.IsPossible) :
    readOffset (readMark ':') (offset.text false) = none := by
  obtain ⟨hours_lt, minutes_lt⟩ := possible
  have hours := isNumeralOf_two (Nat.lt_trans hours_lt (by decide))
  have hours_read (rest : List Char) :
      readNumber 2 2 (paddedNumeral 2 offset.hours ++ rest) = some (offset.hours, rest) :=
    readNumber_append hours (Nat.le_refl 2) (Nat.le_refl 2) (.inl rfl)
  have no_colon : readMark ':' ([] ++ paddedNumeral 2 offset.minutes) = none := by
    rw [Option.eq_none_iff_forall_ne_some]
    intro rest read
    have digits := (isNumeralOf_two (Nat.lt_trans minutes_lt (by decide))).digits
    have digit := digits ':' (by
      rw [← List.nil_append (paddedNumeral 2 offset.minutes), readMark_eq_some read]
      exact List.mem_cons_self)
    cases digit
  obtain ⟨digits, text_eq, sign_read⟩ := readOffsetSign_text offset false
  obtain rfl := (List.cons.inj text_eq).2
  simp only [readOffset, sign_read, Option.bind_eq_bind, Option.bind_some]
  show (readNumber 2 2 (paddedNumeral 2 offset.hours ++
    ([] ++ paddedNumeral 2 offset.minutes))).bind _ = none
  rw [hours_read]
  show (readMark ':' ([] ++ paddedNumeral 2 offset.minutes)).bind _ = none
  rw [no_colon]
  rfl

theorem trimLeft_offsetText (offset : Offset) (colon : Bool) :
    trimLeft (offset.text colon) = offset.text colon := by
  have visible : isBlank (if offset.behind then '-' else '+') = false := by
    cases offset.behind <;> decide
  exact trimLeft_cons visible _

/-- The piece for a zone takes an offset for what it is. -/
theorem Piece.read_zone_offset (r : Reading) (offset : Offset) (colon : Bool) :
    Piece.zone.read r (offset.text colon) =
      (readOffset (readMark ':') (offset.text colon)).map
        fun (offset, rest) => ({ r with offset }, rest) := by
  obtain ⟨behind, hours, minutes⟩ := offset
  cases behind <;> rfl

theorem skipColonsAndBlanks_numeral {width n : Nat} {cs : List Char}
    (numeral : IsNumeralOf (width + 1) n cs) : skipColonsAndBlanks cs = cs := by
  obtain ⟨length_eq, digits, -⟩ := numeral
  obtain ⟨c, rest, rfl⟩ := List.exists_cons_of_length_eq_add_one length_eq
  have digit := digits c List.mem_cons_self
  have no_colon : c ≠ ':' := by
    rintro rfl
    cases digit
  rw [skipColonsAndBlanks, List.dropWhile_cons_of_neg]
  simp [no_colon, isBlank_eq_false_of_digit digit]

/-- An offset without a colon is read where separators may be missing. -/
theorem Piece.read_looseZone_plain (r : Reading) {offset : Offset} (possible : offset.IsPossible) :
    Piece.looseZone.read r (offset.text false) =
      some ({ r with offset := offset.seconds }, []) := by
  have minutes := isNumeralOf_two (Nat.lt_trans possible.2 (by decide))
  have skips : some (skipColonsAndBlanks ([] ++ paddedNumeral 2 offset.minutes)) =
      some (paddedNumeral 2 offset.minutes) := by
    rw [List.nil_append, skipColonsAndBlanks_numeral minutes]
  rw [Piece.read, trimLeft_offsetText, readOffset_text possible false skips]
  rfl

/-- An offset without a colon is the zone of a mail header. -/
theorem readMailZone_text {offset : Offset} (possible : offset.IsPossible) :
    readMailZone (offset.text false) = some (offset.seconds, []) := by
  have read : readOffset some (offset.text false) = some (offset.seconds, []) :=
    readOffset_text possible false rfl
  obtain ⟨behind, hours, minutes⟩ := offset
  cases behind
  · exact read
  · exact read

end Intake.Calendar
