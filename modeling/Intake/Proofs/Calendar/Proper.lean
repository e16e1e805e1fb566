import Intake.Calendar.Recognize
import Intake.Proofs.Text.Numeral

/-!
# Proper instants

An instant is proper if it has less than a second of nanoseconds, or is a leap second at the end of
its minute. Every instant that is read is proper (`readDate_isProper`): a piece of a text notes less
than a second of nanoseconds and moves the clock by whole minutes only, so that second sixty of a
text is second sixty in UTC too.
-/

namespace Intake.Calendar

open Intake.Text Intake.Numeral

/-- Less than a second of nanoseconds, or a leap second at the end of its minute. -/
def Instant.IsProper (t : Instant) : Prop :=
  t.nanos < secondNanos ∨ (t.nanos < 2 * secondNanos ∧ t.seconds % 60 = 59)

/-- A reading whose instant is proper: its offset is made of whole minutes and its fraction is less
than a second. -/
structure Reading.IsProper (r : Reading) : Prop where
  offset_whole : r.offset % 60 = 0
  nanos_lt : r.nanos < secondNanos

theorem Reading.start_isProper : Reading.start.IsProper := ⟨by decide, by decide⟩

/-! ## Pieces -/

theorem readOffsetSign_eq {cs rest : List Char} {sign : Int}
    (h : readOffsetSign cs = some (sign, rest)) : sign = 1 ∨ sign = -1 := by
  cases cs with
  | nil => cases h
  | cons c cs =>
    simp only [readOffsetSign] at h
    split at h
    · cases h
      exact .inl rfl
    · split at h
      · cases h
        exact .inr rfl
      · cases h

/-- An offset is made of whole minutes. -/
theorem readOffset_whole {between : List Char → Option (List Char)} {cs rest : List Char}
    {offset : Int} (h : readOffset between cs = some (offset, rest)) : offset % 60 = 0 := by
  simp only [readOffset, Option.bind_eq_bind, Option.bind_eq_some_iff, Prod.exists] at h
  obtain ⟨sign, cs₁, sign_read, hours, cs₂, -, cs₃, -, minutes, cs₄, -, h⟩ := h
  split at h
  · cases h
    rcases readOffsetSign_eq sign_read with rfl | rfl <;> omega
  · cases h

/-- Nine digits, or fewer with zeros after them, are less than a second of nanoseconds. -/
theorem kept_lt {digits : List Char} (short : digits.length ≤ 9) :
    digitsValue digits * tenTo (9 - digits.length) < secondNanos := by
  have scaled : digitsValue digits * tenTo (9 - digits.length) <
      tenTo digits.length * tenTo (9 - digits.length) :=
    Nat.mul_lt_mul_of_pos_right (digitsValue_lt digits) (tenTo_pos _)
  have total : tenTo digits.length * tenTo (9 - digits.length) = tenTo 9 := by
    show Nat.pow 10 digits.length * Nat.pow 10 (9 - digits.length) = Nat.pow 10 9
    exact (Nat.pow_add 10 _ _).symm.trans (by rw [Nat.add_sub_cancel' short])
  rw [total] at scaled
  exact scaled

theorem readFraction_lt {cs rest : List Char} {nanos : Nat}
    (h : readFraction cs = some (nanos, rest)) : nanos < secondNanos := by
  unfold readFraction at h
  split at h
  · dsimp only at h
    split at h
    · cases h
    · cases h
      exact kept_lt (by rw [List.length_take]; omega)
  · cases h
    decide

/-- A number other than a year has one or two digits. -/
theorem Piece.read_number {part : Part} (not_year : part ≠ .year) (r : Reading) (cs : List Char) :
    (Piece.number part).read r cs =
      (readNumber 1 2 (trimLeft cs)).map fun (n, rest) => (r.set part n, rest) := by
  cases part <;> first | rfl | exact absurd rfl not_year

theorem Reading.IsProper.set {r : Reading} (hr : r.IsProper) (part : Part) (n : Nat) :
    (r.set part n).IsProper := by
  cases part <;> exact ⟨hr.offset_whole, hr.nanos_lt⟩

/-- **Reading a piece keeps a reading proper.** -/
theorem Piece.read_isProper {piece : Piece} {r r' : Reading} {cs rest : List Char}
    (hr : r.IsProper) (h : piece.read r cs = some (r', rest)) : r'.IsProper := by
  cases piece
  case mark c =>
    obtain ⟨_, -, same⟩ := Option.map_eq_some_iff.mp h
    cases same
    exact hr
  case oneOf marks =>
    simp only [Piece.read] at h
    split at h
    · split at h
      · cases h
        exact hr
      · cases h
    · cases h
  case blanks =>
    cases h
    exact hr
  case digits part count =>
    obtain ⟨⟨n, _⟩, -, noted⟩ := Option.map_eq_some_iff.mp h
    cases noted
    exact hr.set part n
  case number part =>
    by_cases year : part = .year
    · subst year
      obtain ⟨_, -, noted⟩ := Option.map_eq_some_iff.mp h
      cases noted
      exact ⟨hr.offset_whole, hr.nanos_lt⟩
    · rw [Piece.read_number year] at h
      obtain ⟨⟨n, _⟩, -, noted⟩ := Option.map_eq_some_iff.mp h
      cases noted
      exact hr.set part n
  case monthName =>
    obtain ⟨_, -, noted⟩ := Option.map_eq_some_iff.mp h
    cases noted
    exact ⟨hr.offset_whole, hr.nanos_lt⟩
  case fraction =>
    obtain ⟨_, fraction_read, noted⟩ := Option.map_eq_some_iff.mp h
    cases noted
    exact ⟨hr.offset_whole, readFraction_lt fraction_read⟩
  case zone =>
    simp only [Piece.read] at h
    split at h
    · cases h
      exact ⟨rfl, hr.nanos_lt⟩
    · cases h
      exact ⟨rfl, hr.nanos_lt⟩
    · obtain ⟨_, offset_read, noted⟩ := Option.map_eq_some_iff.mp h
      cases noted
      exact ⟨readOffset_whole offset_read, hr.nanos_lt⟩
  case looseZone =>
    obtain ⟨_, offset_read, noted⟩ := Option.map_eq_some_iff.mp h
    cases noted
    exact ⟨readOffset_whole offset_read, hr.nanos_lt⟩

/-! ## Forms -/

theorem Form.readFrom_isProper {form : Form} {r r' : Reading} {cs rest : List Char}
    (hr : r.IsProper) (h : form.readFrom r cs = some (r', rest)) : r'.IsProper := by
  induction form generalizing r cs with
  | nil =>
    cases h
    exact hr
  | cons piece form ih =>
    rw [Form.readFrom] at h
    split at h
    · next piece_read => exact ih (Piece.read_isProper hr piece_read) h
    · cases h

/-- The instant of a proper reading is proper: second sixty is the last of its minute in UTC. -/
theorem Reading.IsProper.instant? {r : Reading} {t : Instant} (hr : r.IsProper)
    (h : r.instant? = some t) : t.IsProper := by
  unfold Reading.instant? at h
  split at h
  · next possible =>
    cases h
    simp only [Bool.and_eq_true, Reading.hasTime, decide_eq_true_eq] at possible
    obtain ⟨⟨⟨-, ⟨-, -⟩, second_le⟩, -⟩, -⟩ := possible
    have offset_whole := hr.offset_whole
    have nanos_lt := hr.nanos_lt
    unfold Instant.IsProper Reading.instant
    simp only [daySeconds, secondNanos] at *
    -- an offset of whole minutes does not move a second within its minute
    by_cases leap : r.second = 60
    · right
      rw [leap]
      omega
    · left
      have : min r.second 59 = r.second := by omega
      rw [this, Nat.sub_self, Nat.zero_mul, Nat.add_zero]
      exact nanos_lt
  · cases h

theorem Form.read?_isProper {form : Form} {cs : List Char} {t : Instant}
    (h : form.read? cs = some t) : t.IsProper := by
  unfold Form.read? at h
  split at h
  · next form_read =>
    exact (Form.readFrom_isProper Reading.start_isProper form_read).instant? h
  · cases h

theorem firstOf_isProper (forms : List Form) {cs : List Char} {t : Instant}
    (h : firstOf (forms.map Form.read?) cs = some t) : t.IsProper := by
  obtain ⟨read, mem, form_read⟩ := List.exists_of_findSome?_eq_some h
  obtain ⟨form, -, rfl⟩ := List.mem_map.mp mem
  exact Form.read?_isProper form_read

/-! ## Mail headers and numbers -/

theorem zoneOffset?_whole {name : List Char} {offset : Int} (h : zoneOffset? name = some offset) :
    offset % 60 = 0 := by
  unfold zoneOffset? at h
  split at h
  · cases h
    omega
  · split at h
    · split at h
      · cases h
        decide
      · cases h
    · cases h

theorem readMailZone_whole {cs rest : List Char} {offset : Int}
    (h : readMailZone cs = some (offset, rest)) : offset % 60 = 0 := by
  unfold readMailZone at h
  dsimp only at h
  split at h
  · cases cs with
    | nil => cases h
    | cons c cs =>
      simp only [readPlainOffset] at h
      split at h
      · cases h
      · exact readOffset_whole h
  · obtain ⟨_, offset_known, same⟩ := Option.map_eq_some_iff.mp h
    cases same
    exact zoneOffset?_whole offset_known

theorem readMail?_isProper {cs : List Char} {t : Instant} (h : readMail? cs = some t) :
    t.IsProper := by
  rw [readMail?] at h
  obtain ⟨⟨weekday, cs⟩, -, h⟩ := Option.bind_eq_some_iff.mp h
  obtain ⟨⟨day, cs⟩, -, h⟩ := Option.bind_eq_some_iff.mp h
  obtain ⟨cs, -, h⟩ := Option.bind_eq_some_iff.mp h
  obtain ⟨⟨month, cs⟩, -, h⟩ := Option.bind_eq_some_iff.mp h
  obtain ⟨cs, -, h⟩ := Option.bind_eq_some_iff.mp h
  obtain ⟨⟨year, cs⟩, -, h⟩ := Option.bind_eq_some_iff.mp h
  obtain ⟨cs, -, h⟩ := Option.bind_eq_some_iff.mp h
  obtain ⟨⟨hour, cs⟩, -, h⟩ := Option.bind_eq_some_iff.mp h
  obtain ⟨cs, -, h⟩ := Option.bind_eq_some_iff.mp h
  obtain ⟨⟨minute, cs⟩, -, h⟩ := Option.bind_eq_some_iff.mp h
  obtain ⟨⟨second, cs⟩, -, h⟩ := Option.bind_eq_some_iff.mp h
  obtain ⟨cs, -, h⟩ := Option.bind_eq_some_iff.mp h
  obtain ⟨⟨offset, cs⟩, zone_read, h⟩ := Option.bind_eq_some_iff.mp h
  dsimp only at h
  rw [Option.ite_none_right_eq_some] at h
  refine Reading.IsProper.instant? ⟨readMailZone_whole zone_read, ?_⟩ h.2
  exact (by decide : 0 < secondNanos)

/-- A whole number of units of at most a second leaves less than a second. -/
theorem Instant.ofUnits_nanos_lt {unit : Nat} (n : Int) (pos : 0 < unit)
    (divides : unit * (secondNanos / unit) = secondNanos) :
    (Instant.ofUnits unit n).nanos < secondNanos := by
  have rest_lt : (n % (unit : Int)).toNat < unit := by
    have := Int.emod_lt_of_pos n (show (0 : Int) < unit by omega)
    omega
  have nanos_pos : 0 < secondNanos / unit := by
    refine Nat.pos_of_ne_zero fun none_left => ?_
    rw [none_left, Nat.mul_zero] at divides
    exact absurd divides (by decide)
  calc (n % (unit : Int)).toNat * (secondNanos / unit)
      < unit * (secondNanos / unit) := Nat.mul_lt_mul_of_pos_right rest_lt nanos_pos
    _ = secondNanos := divides

theorem Instant.ofUnits_isProper {unit : Nat} (n : Int) (pos : 0 < unit)
    (divides : unit * (secondNanos / unit) = secondNanos) : (Instant.ofUnits unit n).IsProper :=
  .inl (Instant.ofUnits_nanos_lt n pos divides)

theorem readEpoch?_isProper {cs digits : List Char} {t : Instant}
    (h : readEpoch? cs digits = some t) : t.IsProper := by
  unfold readEpoch? at h
  split at h
  · next n unit _ unit_eq =>
    cases h
    unfold epochUnit? at unit_eq
    split at unit_eq
    · cases unit_eq
      exact Instant.ofUnits_isProper n (by decide) (by decide)
    · split at unit_eq
      · cases unit_eq
        exact Instant.ofUnits_isProper n (by decide) (by decide)
      · split at unit_eq
        · cases unit_eq
          exact Instant.ofUnits_isProper n (by decide) (by decide)
        · cases unit_eq
  · cases h

/-! ## Dates -/

theorem readDateText?_isProper {cs : List Char} {t : Instant} (h : readDateText? cs = some t) :
    t.IsProper := by
  unfold readDateText? at h
  rcases Option.or_eq_some_iff.mp h with first | ⟨-, alone⟩
  · split at first
    · exact firstOf_isProper (internetForm :: (offsetForms ++ zonelessForms)) first
    · exact readMail?_isProper first
  · exact firstOf_isProper dateForms alone

/-- **Every instant that is read is proper.** -/
theorem readDate_isProper {policy : DatePolicy} {cs : List Char} {t : Instant}
    (h : readDate policy cs = .ok t) : t.IsProper := by
  unfold readDate at h
  split at h
  · split at h
    · cases h
    · split at h
      · next epoch_read =>
        cases h
        exact readEpoch?_isProper epoch_read
      · cases h
  · split at h
    · next text_read =>
      cases h
      exact readDateText?_isProper text_read
    · cases h

end Intake.Calendar
