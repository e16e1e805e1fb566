import Intake.Proofs.Calendar.DayCount
import Intake.Proofs.Calendar.Marks
import Intake.Proofs.Numeral.Integer
import Mathlib.Data.Rat.Floor

/-!
# The scale of a number

A number counts seconds, milliseconds or microseconds since the start of 1970, as it has up to 10,
13 or 16 digits; zeros in front are counted with the others. The instant lies exactly there, before
1970 too, and so near to it that its canonical text is a date again; with more digits there is no
date (`readDate_writtenNumber`).
-/

namespace Intake.Calendar

open Intake.Text Intake.Numeral

/-! ## Numbers as they are written -/

/-- A sign or none, and at least one digit. -/
structure WrittenNumber where
  sign : List Char
  digits : List Char
  sign_mem : sign ∈ signs
  are_digits : AreDigits digits

namespace WrittenNumber

/-- The characters of a number. -/
def chars (number : WrittenNumber) : List Char := number.sign ++ number.digits

/-- The integer that is written. -/
def value (number : WrittenNumber) : Int := withSign (number.sign = ['-']) (digitsValue number.digits)

/-- The number with zeros after its digits. -/
def shifted (number : WrittenNumber) (zeros : Nat) : WrittenNumber where
  sign := number.sign
  digits := number.digits ++ List.replicate zeros '0'
  sign_mem := number.sign_mem
  are_digits := by
    refine ⟨by simp [number.are_digits.ne_nil], ?_⟩
    rw [List.forall_mem_append]
    refine ⟨number.are_digits.digits, fun c mem => ?_⟩
    rw [(List.mem_replicate.mp mem).2]
    decide

variable (number : WrittenNumber)

theorem shifted_value (zeros : Nat) : (number.shifted zeros).value = number.value * 10 ^ zeros := by
  have zeros_eq : (tenTo zeros : Int) = 10 ^ zeros := Nat.cast_pow 10 zeros
  by_cases negative : number.sign = ['-']
  · simp [value, shifted, withSign, digitsValue_append_zeros, zeros_eq, negative]
  · simp [value, shifted, withSign, digitsValue_append_zeros, zeros_eq, negative]

theorem readSign_chars : readSign number.chars = (decide (number.sign = ['-']), number.digits) := by
  have sign_cases : number.sign = [] ∨ number.sign = ['+'] ∨ number.sign = ['-'] := by
    simpa [signs] using number.sign_mem
  rw [chars]
  rcases sign_cases with sign_eq | sign_eq | sign_eq
  · rw [sign_eq]
    exact readSign_of_areDigits number.are_digits
  · rw [sign_eq]
    rfl
  · rw [sign_eq]
    rfl

/-- A number is written with signs and digits. -/
theorem mem_chars {c : Char} (mem : c ∈ number.chars) :
    c ∈ ['+', '-'] ∨ isAsciiDigit c = true := by
  rcases List.mem_append.mp mem with in_sign | in_digits
  · have signs_mem : ∀ sign ∈ signs, ∀ c ∈ sign, c ∈ ['+', '-'] := by simp [signs]
    exact .inl (signs_mem _ number.sign_mem _ in_sign)
  · exact .inr (number.are_digits.digits c in_digits)

theorem isIntegerText : IsIntegerText number.chars number.value := by
  rw [isIntegerText_iff, readSign_chars]
  exact ⟨number.are_digits, rfl⟩

/-- So many digits are less than the power of ten. -/
theorem value_bounds : -10 ^ number.digits.length < number.value ∧
    number.value < 10 ^ number.digits.length := by
  have small : (digitsValue number.digits : Int) < 10 ^ number.digits.length := by
    have := digitsValue_lt number.digits
    exact_mod_cast this
  simp only [value, withSign]
  split <;> omega

/-- The digits of a number are what the policy counts. -/
theorem epochDigits?_chars :
    epochDigits? number.chars = if number.digits.length ≤ 19 then some number.digits else none := by
  have after_sign (cs : List Char) : epochDigits? cs =
      if (readSign cs).2 ≠ [] ∧ (readSign cs).2.length ≤ 19 ∧ (readSign cs).2.all isDecimalDigit then
        some (readSign cs).2 else none := by
    unfold epochDigits?
    dsimp only
    split
    · rfl
    · rfl
    · next no_plus no_minus =>
      have unsigned : readSign cs = (false, cs) := by
        unfold readSign
        split
        · exact absurd rfl (no_minus _)
        · exact absurd rfl (no_plus _)
        · rfl
      rw [unsigned]
  have decimal : number.digits.all isDecimalDigit = true :=
    List.all_eq_true.mpr fun c mem => isDecimalDigit_of_isAsciiDigit (number.are_digits.digits c mem)
  rw [after_sign, readSign_chars]
  simp [number.are_digits.ne_nil, decimal]

end WrittenNumber

/-! ## Instants -/

/-- The instant lies `n` units after the start of 1970, or before it if `n` is negative, where
`perSecond` units make a second: its whole seconds are rounded down, and its date and its second of
the day are those of the calendar. -/
structure Instant.LiesAfterEpoch (t : Instant) (perSecond : Nat) (n : Int) : Prop where
  seconds_eq : t.seconds = ⌊(n / perSecond : ℚ)⌋
  nanos_lt : t.nanos < 10 ^ 9
  exact_eq : (t.seconds + t.nanos / 10 ^ 9 : ℚ) = n / perSecond
  date_valid : t.date.isValid = true
  days_eq : t.seconds =
    ((t.date.elapsedDays : Int) - Date.unixEpoch.elapsedDays) * 86400 + t.secondOfDay
  second_lt : t.secondOfDay < 86400

/-- The dates of so many days around the start of 1970 have a year of four digits. -/
theorem Date.plainYear_of_dayNumber {n : Int} (first : -700000 ≤ n) (last : n ≤ 2900000) :
    0 ≤ (Date.ofDayNumber n).year ∧ (Date.ofDayNumber n).year ≤ 9999 := by
  have valid := ofDayNumber_isValid n
  have number_eq := dayNumber_ofDayNumber n
  generalize Date.ofDayNumber n = date at *
  obtain ⟨first_month, first_day⟩ := Date.one_le_month_day valid
  obtain ⟨last_month, last_day⟩ := Date.month_day_le valid
  simp only [Date.dayNumber, daysBeforeMonth, eraDays, marchEpoch] at number_eq
  split at number_eq <;> omega

variable {t : Instant}

theorem Instant.secondOfDay_eq (t : Instant) :
    t.seconds = t.seconds / daySeconds * daySeconds + t.secondOfDay := by
  unfold Instant.secondOfDay daySeconds
  omega

/-- From the year 0 on, the seconds count the days of the calendar. -/
theorem Instant.HasPlainYear.days_eq (plain : t.HasPlainYear) : t.seconds =
    ((t.date.elapsedDays : Int) - Date.unixEpoch.elapsedDays) * 86400 + t.secondOfDay := by
  have day_eq : t.date.dayNumber = t.seconds / daySeconds := dayNumber_ofDayNumber _
  have valid : t.date.isValid = true := ofDayNumber_isValid _
  rw [← Date.dayNumber_eq_elapsedDays valid plain.1, day_eq]
  exact t.secondOfDay_eq

/-! ## Units -/

theorem epochUnit?_eq_some {width perSecond : Nat} (h : epochUnit? width = some perSecond) :
    (width ≤ 10 ∧ perSecond = 1) ∨ (width ≤ 13 ∧ perSecond = 1000) ∨
      (width ≤ 16 ∧ perSecond = 1000000) := by
  unfold epochUnit? at h
  split at h
  · next most => exact .inl ⟨most, (Option.some.inj h).symm⟩
  · split at h
    · next most => exact .inr (.inl ⟨most, (Option.some.inj h).symm⟩)
    · split at h
      · next most => exact .inr (.inr ⟨most, (Option.some.inj h).symm⟩)
      · cases h

variable {perSecond : Nat}

/-- What is left over of a second has so many nanoseconds for each unit. -/
theorem Instant.ofUnits_exact (n : Int) (pos : 0 < perSecond)
    (divides : perSecond * (secondNanos / perSecond) = secondNanos) :
    ((Instant.ofUnits perSecond n).seconds + (Instant.ofUnits perSecond n).nanos / 10 ^ 9 : ℚ) =
      n / perSecond := by
  simp only [Instant.ofUnits]
  generalize secondNanos / perSecond = nanos at divides
  have product : (perSecond : ℚ) * nanos = 10 ^ 9 := by
    exact_mod_cast divides
  have nanos_ne_zero : (nanos : ℚ) ≠ 0 := by
    intro zero
    rw [zero, mul_zero] at product
    norm_num at product
  have rest_eq : ((n % (perSecond : Int)).toNat : Int) = n % (perSecond : Int) :=
    Int.toNat_of_nonneg (Int.emod_nonneg n (by omega))
  have rest_cast : ((n % (perSecond : Int)).toNat : ℚ) = (n % (perSecond : Int) : Int) := by
    exact_mod_cast rest_eq
  have cut : (n : ℚ) = perSecond * (n / (perSecond : Int) : Int) + (n % (perSecond : Int) : Int) := by
    exact_mod_cast (Int.mul_ediv_add_emod n perSecond).symm
  rw [← product, cut, Nat.cast_mul, rest_cast]
  field_simp

/-- The instant of so many units has a year of four digits if it is not too far from 1970. -/
theorem Instant.ofUnits_hasPlainYear {n : Int} (pos : 0 < perSecond)
    (least : -10 ^ 10 * (perSecond : Int) < n) (most : n < 10 ^ 10 * (perSecond : Int)) :
    (Instant.ofUnits perSecond n).HasPlainYear := by
  have first_second : -10 ^ 10 ≤ n / (perSecond : Int) :=
    (Int.le_ediv_iff_mul_le (by omega)).mpr least.le
  have last_second : n / (perSecond : Int) < 10 ^ 10 := Int.ediv_lt_of_lt_mul (by omega) most
  refine Date.plainYear_of_dayNumber ?_ ?_
  all_goals
    simp only [Instant.ofUnits, daySeconds]
    omega

/-- **The instant of so many units lies where they say.** -/
theorem Instant.ofUnits_liesAfterEpoch {n : Int} (pos : 0 < perSecond)
    (divides : perSecond * (secondNanos / perSecond) = secondNanos)
    (plain : (Instant.ofUnits perSecond n).HasPlainYear) :
    (Instant.ofUnits perSecond n).LiesAfterEpoch perSecond n where
  seconds_eq := (Rat.floor_intCast_div_natCast n perSecond).symm
  nanos_lt := Instant.ofUnits_nanos_lt n pos divides
  exact_eq := Instant.ofUnits_exact n pos divides
  date_valid := ofDayNumber_isValid _
  days_eq := plain.days_eq
  second_lt := Instant.secondOfDay_lt _

/-- Units of which more make a second are as many times more. -/
theorem Instant.ofUnits_mul (n : Int) (pos : 0 < perSecond) :
    Instant.ofUnits perSecond (n * perSecond) = Instant.ofUnits 1 n := by
  have nonzero : (perSecond : Int) ≠ 0 := by omega
  simp [Instant.ofUnits, Int.mul_ediv_cancel _ nonzero]

/-! ## Reading -/

namespace WrittenNumber

variable {number : WrittenNumber}

/-- A number with up to sixteen digits is read in the unit for so many digits. -/
theorem readDate_chars (unit_eq : epochUnit? number.digits.length = some perSecond) :
    readDate .textOrEpoch number.chars = .ok (Instant.ofUnits perSecond number.value) := by
  have short : number.digits.length ≤ 16 := by
    have := epochUnit?_eq_some unit_eq
    omega
  have fits : fitsInt 64 number.value := by
    obtain ⟨least, most⟩ := number.value_bounds
    have width : (10 : Int) ^ number.digits.length ≤ 10 ^ 16 := pow_le_pow_right₀ (by decide) short
    have least_eq : leastInt 64 = -9223372036854775808 := by decide
    have greatest_eq : greatestInt 64 = 9223372036854775807 := by decide
    rw [fitsInt, least_eq, greatest_eq]
    omega
  have read : readInt 64 number.chars = .ok number.value :=
    readInt_eq_ok_iff.mpr ⟨number.isIntegerText, fits⟩
  rw [readDate, epochDigits?_chars, if_pos (by omega)]
  simp only [readEpoch?, read, unit_eq]

theorem not_mem_chars {c : Char} (no_sign : c ∉ ['+', '-']) (no_digit : isAsciiDigit c = false) :
    c ∉ number.chars := by
  intro mem
  rcases number.mem_chars mem with sign | digit
  · exact no_sign sign
  · rw [digit] at no_digit
    cases no_digit

theorem isAsciiLetter_chars {c : Char} (mem : c ∈ number.chars) : isAsciiLetter c = false := by
  have signs_letter : ∀ c ∈ ['+', '-'], isAsciiLetter c = false := by simp [isAsciiLetter]
  rcases number.mem_chars mem with sign | digit
  · exact signs_letter c sign
  · exact isAsciiLetter_eq_false_of_decimalDigit (isDecimalDigit_of_isAsciiDigit digit)

/-- A number has one minus at most, its sign. -/
theorem count_minus_chars : number.chars.count '-' ≤ 1 := by
  have no_minus : number.digits.count '-' = 0 := by
    refine List.count_eq_zero.mpr fun mem => ?_
    exact absurd (number.are_digits.digits '-' mem) (by decide)
  have signs_minus : ∀ sign ∈ signs, sign.count '-' ≤ 1 := by decide
  rw [chars, List.count_append, no_minus]
  exact signs_minus _ number.sign_mem

/-- A number of any length is in no form of a date. -/
theorem readDateText?_chars : readDateText? number.chars = none := by
  have no_point : '.' ∉ number.chars := not_mem_chars (by decide) (by decide)
  have no_slash : '/' ∉ number.chars := not_mem_chars (by decide) (by decide)
  have no_colon : ':' ∉ number.chars := not_mem_chars (by decide) (by decide)
  have no_letter : ∀ c ∈ number.chars, isAsciiLetter c = false := fun c => isAsciiLetter_chars
  have year_minus : (yearFirst '-').read? number.chars = none := by
    rw [Option.eq_none_iff_forall_ne_some]
    intro t read
    -- two of them would stand around the month
    obtain ⟨r, form_read, -⟩ := Form.read?_eq_some_iff.mp read
    obtain ⟨date, chars_eq⟩ := readFrom_yearFirst form_read
    have one := number.count_minus_chars
    rw [chars_eq, WrittenDate.chars] at one
    simp only [List.count_append, List.count_cons_self] at one
    omega
  rw [readDateText?_eq_readDateAlone? no_colon, readDateAlone?, firstOf, List.findSome?_eq_none_iff]
  intro reader reader_mem
  obtain ⟨form, form_mem, rfl⟩ := List.mem_map.mp reader_mem
  simp only [dateForms, List.mem_cons, List.not_mem_nil, or_false] at form_mem
  rcases form_mem with rfl | rfl | rfl | rfl | rfl
  · exact year_minus
  · exact Form.read?_eq_none_of_mark (by decide) no_slash
  · exact Form.read?_eq_none_of_mark (by decide) no_point
  · exact Form.read?_eq_none_of_monthName (by decide) no_letter
  · exact Form.read?_eq_none_of_monthName (by decide) no_letter

/-- A number with seventeen digits or more is no date: up to nineteen it is out of range, and beyond
that it is not even a number to the policy. -/
theorem readDate_chars_of_long (long : 17 ≤ number.digits.length) :
    readDate .textOrEpoch number.chars =
      .error (if number.digits.length ≤ 19 then .epochOutOfRange (String.ofList number.chars)
        else .unrecognized) := by
  rw [readDate, epochDigits?_chars]
  by_cases counts : number.digits.length ≤ 19
  · have no_unit : epochUnit? number.digits.length = none := by
      rw [epochUnit?, if_neg (by omega), if_neg (by omega), if_neg (by omega)]
    rw [if_pos counts, if_pos counts]
    simp only [readEpoch?, no_unit]
    cases readInt 64 number.chars <;> rfl
  · rw [if_neg counts, if_neg counts]
    dsimp only
    rw [readDateText?_chars]

/-! ## The scale of a number -/

/-- The number counts units since the start of 1970, `perSecond` of which make a second; the
instant has a canonical text that is a date again. -/
def Counts (number : WrittenNumber) (perSecond : Nat) : Prop :=
  ∃ t, readDate .textOrEpoch number.chars = .ok t ∧ t.LiesAfterEpoch perSecond number.value ∧
    t.HasPlainYear ∧ ∀ policy, readDate policy t.canonical.toList = .ok t.truncated

theorem counts_of_unit (unit_eq : epochUnit? number.digits.length = some perSecond) :
    number.Counts perSecond := by
  have read := readDate_chars unit_eq
  obtain ⟨pos, divides, width⟩ : 0 < perSecond ∧
      perSecond * (secondNanos / perSecond) = secondNanos ∧
        (10 : Int) ^ number.digits.length ≤ 10 ^ 10 * perSecond := by
    rcases epochUnit?_eq_some unit_eq with ⟨most, rfl⟩ | ⟨most, rfl⟩ | ⟨most, rfl⟩
    · exact ⟨by decide, by decide, pow_le_pow_right₀ (by decide) most⟩
    · exact ⟨by decide, by decide, (pow_le_pow_right₀ (by decide) most).trans (by norm_num)⟩
    · exact ⟨by decide, by decide, (pow_le_pow_right₀ (by decide) most).trans (by norm_num)⟩
  obtain ⟨least, most⟩ := number.value_bounds
  have plain : (Instant.ofUnits perSecond number.value).HasPlainYear :=
    Instant.ofUnits_hasPlainYear pos (by linarith) (by linarith)
  refine ⟨_, read, Instant.ofUnits_liesAfterEpoch pos divides plain, plain, fun policy => ?_⟩
  rw [Instant.canonical, String.toList_ofList]
  exact readDate_canonicalChars (readDate_isProper read) plain policy

/-- Three or six zeros more make the next smaller units of the same instant. -/
theorem readDate_shifted (least : 8 ≤ number.digits.length) (most : number.digits.length ≤ 10)
    {zeros : Nat} (three_or_six : zeros ∈ [3, 6]) :
    readDate .textOrEpoch (number.shifted zeros).chars = readDate .textOrEpoch number.chars := by
  have width : (number.shifted zeros).digits.length = number.digits.length + zeros := by
    simp [shifted]
  have unit_eq : epochUnit? (number.shifted zeros).digits.length = some (10 ^ zeros) := by
    rw [width, epochUnit?]
    simp only [List.mem_cons, List.not_mem_nil, or_false] at three_or_six
    rcases three_or_six with rfl | rfl
    · rw [if_neg (by omega), if_pos (by omega)]
      rfl
    · rw [if_neg (by omega), if_neg (by omega), if_pos (by omega)]
      rfl
  have seconds_eq : epochUnit? number.digits.length = some 1 := if_pos most
  have same := Instant.ofUnits_mul number.value (show 0 < 10 ^ zeros by positivity)
  push_cast at same
  rw [readDate_chars unit_eq, readDate_chars seconds_eq, shifted_value, same]

end WrittenNumber

/-- **Numbers are read at the scale that their digits tell**: as seconds, milliseconds or
microseconds, none of which leaves the years of four digits; more than sixteen digits are no date.
So seconds of eight to ten digits are the same instant in milliseconds and in microseconds. -/
theorem readDate_writtenNumber (number : WrittenNumber) :
    (number.digits.length ≤ 10 → number.Counts 1) ∧
    (11 ≤ number.digits.length ∧ number.digits.length ≤ 13 → number.Counts 1000) ∧
    (14 ≤ number.digits.length ∧ number.digits.length ≤ 16 → number.Counts 1000000) ∧
    (17 ≤ number.digits.length → readDate .textOrEpoch number.chars =
      .error (if number.digits.length ≤ 19 then .epochOutOfRange (String.ofList number.chars)
        else .unrecognized)) ∧
    (8 ≤ number.digits.length ∧ number.digits.length ≤ 10 → ∀ zeros ∈ [3, 6],
      readDate .textOrEpoch (number.shifted zeros).chars =
        readDate .textOrEpoch number.chars) := by
  refine ⟨?seconds, ?milliseconds, ?microseconds, ?long, ?shifted⟩
  case seconds =>
    intro most
    exact WrittenNumber.counts_of_unit (if_pos most)
  case milliseconds =>
    intro width
    refine WrittenNumber.counts_of_unit ?_
    rw [epochUnit?, if_neg (by omega), if_pos (by omega)]
  case microseconds =>
    intro width
    refine WrittenNumber.counts_of_unit ?_
    rw [epochUnit?, if_neg (by omega), if_neg (by omega), if_pos (by omega)]
  case long =>
    exact WrittenNumber.readDate_chars_of_long
  case shifted =>
    intro width zeros three_or_six
    exact WrittenNumber.readDate_shifted width.1 width.2 three_or_six

/-- A millisecond before the start of 1970, with zeros in front. -/
def earlyMillisecond : WrittenNumber where
  sign := ['-']
  digits := "00000000001".toList
  sign_mem := by decide
  are_digits := ⟨by decide, List.all_eq_true.mp (by decide)⟩

/-- The last second with ten digits. -/
def lastSecond : WrittenNumber where
  sign := ['+']
  digits := "9999999999".toList
  sign_mem := by decide
  are_digits := ⟨by decide, List.all_eq_true.mp (by decide)⟩

/-- Eleven digits are milliseconds, however small, and the second before 1970 is rounded down; ten
digits are seconds, and the same instant with three or six zeros more. -/
theorem readDate_writtenNumber_edges :
    (∃ t, readDate .textOrEpoch earlyMillisecond.chars = .ok t ∧ t.seconds = -1 ∧
      t.nanos = 999000000 ∧ t.LiesAfterEpoch 1000 (-1) ∧ t.HasPlainYear) ∧
    readDate .textOrEpoch "+9999999999000".toList = .ok ⟨9999999999, 0⟩ ∧
    readDate .textOrEpoch "+9999999999000000".toList = .ok ⟨9999999999, 0⟩ := by
  constructor
  · obtain ⟨-, milliseconds, -⟩ := readDate_writtenNumber earlyMillisecond
    obtain ⟨t, read, lies, plain, -⟩ := milliseconds ⟨by decide, by decide⟩
    have known : readDate .textOrEpoch earlyMillisecond.chars = .ok ⟨-1, 999000000⟩ := by decide
    obtain rfl := Except.ok.inj (read.symm.trans known)
    exact ⟨_, read, rfl, rfl, lies, plain⟩
  · obtain ⟨-, -, -, -, shifted⟩ := readDate_writtenNumber lastSecond
    have known : readDate .textOrEpoch lastSecond.chars = .ok ⟨9999999999, 0⟩ := by decide
    have same := shifted ⟨by decide, by decide⟩
    exact ⟨(same 3 (by decide)).trans known, (same 6 (by decide)).trans known⟩

end Intake.Calendar
