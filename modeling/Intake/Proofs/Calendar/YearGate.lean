import Intake.Proofs.Calendar.WrittenDate

/-!
# The gate on the year

The forms that begin with the year are tried only for texts that begin with four digits, a
separator, one or two digits, another separator and a digit. Reading without that gate would try
every form in turn (`readUngated`).

The gate hides some texts (`readDate_eq_readUngated_unless_hidden`). The forms behind it take years
with a sign or with fewer than four digits, and blanks in front of every number; of such texts the
gate lets none pass, and no other form takes them. All other texts are read as without the gate. The
reason is in the first characters: a year that ends in a separator is no day and no name of a month,
so mail headers and the forms that begin with either never compete with those that begin with the
year.
-/

namespace Intake.Calendar

open Intake.Text

/-! ## Reading without the gate -/

/-- Tries every form there is, whatever the text begins with. -/
def readAnyForm? (cs : List Char) : Option Instant :=
  firstOf
    ([internetForm.read?] ++ offsetForms.map Form.read? ++ zonelessForms.map Form.read? ++
      [readMail?] ++ dateForms.map Form.read?) cs

/-- Reads a date text by the first form that takes it. -/
def readUngated (cs : List Char) : Except DateFault Instant :=
  match readAnyForm? cs with
  | some t => .ok t
  | none => .error .unrecognized

theorem readAnyForm?_eq (cs : List Char) :
    readAnyForm? cs = (readYearFirst? cs).or ((readMail? cs).or (readDateAlone? cs)) := by
  simp only [readAnyForm?, readYearFirst?, readDateAlone?, firstOf, List.findSome?_append,
    List.map_append, List.findSome?_cons, List.findSome?_nil, Option.or_assoc]
  cases internetForm.read? cs <;> cases readMail? cs <;> simp [Option.or_assoc]

/-! ## The forms behind the gate -/

theorem Form.readFrom_append (form form' : Form) (r : Reading) (cs : List Char) :
    Form.readFrom (form ++ form') r cs =
      (Form.readFrom form r cs).bind fun (r', rest) => Form.readFrom form' r' rest := by
  induction form generalizing r cs with
  | nil => rfl
  | cons piece form ih =>
    rw [List.cons_append, Form.readFrom, Form.readFrom]
    cases piece.read r cs with
    | none => rfl
    | some read => exact ih read.1 read.2

/-- **The other forms behind the gate** begin with a date and go on with a time. -/
theorem mem_offsetForms_zonelessForms {form : Form} (mem : form ∈ offsetForms ++ zonelessForms) :
    ∃ separator time, isDateSeparator separator = true ∧ form = yearFirst separator ++ time ∧
      ∀ r, Form.readFrom time r [] = none := by
  simp only [offsetForms, zonelessForms, List.cons_append, List.nil_append, List.mem_cons,
    List.not_mem_nil, or_false] at mem
  rcases mem with rfl | rfl | rfl | rfl | rfl | rfl | rfl
  on_goal 7 => exact ⟨'/', _, rfl, rfl, fun _ => rfl⟩
  all_goals exact ⟨'-', _, rfl, rfl, fun _ => rfl⟩

/-- **A form with a time after the date** takes what neither mail headers nor dates alone are. -/
theorem others_of_read? {form : Form} (mem : form ∈ offsetForms ++ zonelessForms) {cs : List Char}
    {t : Instant} (h : form.read? cs = some t) :
    (∃ (date : WrittenDate) (separator : Char) (rest : List Char),
      isDateSeparator separator = true ∧ cs = date.chars separator rest) ∧
      readMail? cs = none ∧ readDateAlone? cs = none := by
  obtain ⟨separator, time, separates, rfl, needs_time⟩ := mem_offsetForms_zonelessForms mem
  obtain ⟨r, form_read, -⟩ := Form.read?_eq_some_iff.mp h
  rw [Form.readFrom_append, Option.bind_eq_some_iff] at form_read
  obtain ⟨⟨dated, rest⟩, date_read, time_read⟩ := form_read
  have time_read : Form.readFrom time dated rest = some (r, []) := time_read
  obtain ⟨date, cs_eq⟩ := readFrom_yearFirst date_read
  have in_front : HasYearInFront (trimLeft cs) := cs_eq ▸ date.hasYearInFront rest separates
  have some_time : rest ≠ [] := by
    rintro rfl
    rw [needs_time] at time_read
    cases time_read
  exact ⟨⟨date, separator, rest, separates, cs_eq⟩, in_front.readMail?_eq_none,
    in_front.readDateAlone?_eq_none date_read some_time⟩

/-! ## Hidden dates -/

/-- The forms behind the gate would read the text as the instant, but its date is not plain: there
are blanks before a number, or the year has a sign or fewer than four digits. -/
def IsHiddenDate (cs : List Char) (t : Instant) : Prop :=
  readYearFirst? cs = some t ∧
    ∃ (date : WrittenDate) (separator : Char) (rest : List Char),
      isDateSeparator separator = true ∧ cs = date.chars separator rest ∧ ¬ date.IsPlain

/-- What the forms behind the gate read is plain and passes, or is hidden from all forms. -/
theorem of_readYearFirst? {cs : List Char} {t : Instant} (h : readYearFirst? cs = some t) :
    (∃ (date : WrittenDate) (separator : Char) (rest : List Char),
      isDateSeparator separator = true ∧ cs = date.chars separator rest ∧
        (date.IsPlain ∨ readMail? cs = none ∧ readDateAlone? cs = none)) := by
  rw [readYearFirst?, firstOf, List.findSome?_cons] at h
  split at h
  · next read =>
    obtain ⟨date, rest, cs_eq, plain⟩ := read?_internetForm read
    exact ⟨date, '-', rest, rfl, cs_eq, .inl plain⟩
  · obtain ⟨read, mem, form_read⟩ := List.exists_of_findSome?_eq_some h
    obtain ⟨form, form_mem, rfl⟩ := List.mem_map.mp mem
    obtain ⟨⟨date, separator, rest, separates, cs_eq⟩, no_mail, no_date⟩ :=
      others_of_read? form_mem form_read
    exact ⟨date, separator, rest, separates, cs_eq, .inr ⟨no_mail, no_date⟩⟩

theorem IsHiddenDate.readDateText?_eq_none {cs : List Char} {t : Instant} (h : IsHiddenDate cs t) :
    readDateText? cs = none := by
  obtain ⟨read, date, separator, rest, separates, cs_eq, not_plain⟩ := h
  have stopped : beginsWithYear cs = false := by
    rw [← Bool.not_eq_true, cs_eq, date.beginsWithYear_chars_iff rest separates]
    exact not_plain
  obtain ⟨date', separator', rest', separates', cs_eq', plain | ⟨no_mail, no_date⟩⟩ :=
    of_readYearFirst? read
  · have passes := (date'.beginsWithYear_chars_iff rest' separates').mpr plain
    rw [← cs_eq', stopped] at passes
    cases passes
  · rw [readDateText?, stopped, if_neg (by decide), no_mail, no_date]
    rfl

/-- **Where no date is hidden, the gate changes nothing.** -/
theorem readDateText?_eq_readAnyForm? {cs : List Char} (shown : ∀ t, ¬ IsHiddenDate cs t) :
    readDateText? cs = readAnyForm? cs := by
  rw [readDateText?, readAnyForm?_eq]
  cases passes : beginsWithYear cs with
  | true =>
    have in_front := hasYearInFront_of_beginsWithYear passes
    have no_mail : readMail? cs = none :=
      in_front.trimmed.readMail?_eq_none
    rw [if_pos rfl, no_mail, Option.none_or]
  | false =>
    have not_read : readYearFirst? cs = none := by
      rw [Option.eq_none_iff_forall_ne_some]
      intro t read
      obtain ⟨date, separator, rest, separates, cs_eq, -⟩ := of_readYearFirst? read
      refine shown t ⟨read, date, separator, rest, separates, cs_eq, fun plain => ?_⟩
      have lets_pass := (date.beginsWithYear_chars_iff rest separates).mpr plain
      rw [← cs_eq, passes] at lets_pass
      cases lets_pass
    rw [if_neg (by decide), not_read, Option.none_or]

/-- **The gate changes no answer, but for the dates that it hides.** Let a text be no number. If it
is no hidden date, it is read, under either policy, as the first of all forms reads it that takes
it. If it is one, it is not recognised, though without the gate it would be read. -/
theorem readDate_eq_readUngated_unless_hidden (policy : DatePolicy) {cs : List Char}
    (no_number : ¬ IsEpochShaped cs) :
    ((∀ t, ¬ IsHiddenDate cs t) → readDate policy cs = readUngated cs) ∧
      ∀ t, IsHiddenDate cs t →
        readDate policy cs = .error .unrecognized ∧ readUngated cs = .ok t := by
  rw [readDate, epochDigits?_eq_none_iff.mpr no_number]
  dsimp only
  constructor
  · intro shown
    have same := readDateText?_eq_readAnyForm? shown
    unfold readUngated
    cases read : readAnyForm? cs with
    | none => simp only [same, read]
    | some t => simp only [same, read]
  · intro t hidden
    constructor
    · rw [hidden.readDateText?_eq_none]
    · rw [readUngated, readAnyForm?_eq, hidden.1, Option.some_or]

/-- A moment as it is usually written is read as without the gate; with a short year, a blank before
the month and no seconds, it is hidden. -/
theorem readDate_eq_readUngated_noon :
    ¬ IsEpochShaped "2024-03-01T12:30:00.25+02:00".toList ∧
      readDate .textOnly "2024-03-01T12:30:00.25+02:00".toList =
        readUngated "2024-03-01T12:30:00.25+02:00".toList ∧
      ¬ IsEpochShaped "824- 3-01 12:30".toList ∧
      readDate .textOrEpoch "824- 3-01 12:30".toList = .error .unrecognized ∧
      readUngated "824- 3-01 12:30".toList = .ok ⟨-36159046200, 0⟩ := by
  have no_number : ¬ IsEpochShaped "2024-03-01T12:30:00.25+02:00".toList :=
    epochDigits?_eq_none_iff.mp (by decide)
  have no_number' : ¬ IsEpochShaped "824- 3-01 12:30".toList :=
    epochDigits?_eq_none_iff.mp (by decide)
  have shown (t : Instant) : ¬ IsHiddenDate "2024-03-01T12:30:00.25+02:00".toList t := by
    rintro ⟨-, date, separator, rest, separates, cs_eq, not_plain⟩
    exact not_plain ((date.beginsWithYear_chars_iff rest separates).mp (cs_eq ▸ by decide))
  have hidden : IsHiddenDate "824- 3-01 12:30".toList ⟨-36159046200, 0⟩ := by
    refine ⟨by decide, ⟨[], [], ['8', '2', '4'], [' '], ['3'], [], ['0', '1'],
      List.all_eq_true.mp (by decide), by decide, List.all_eq_true.mp (by decide), by decide,
      by decide, by decide⟩, '-', " 12:30".toList, by decide, by decide, ?_⟩
    rintro ⟨-, -, width, -⟩
    cases width
  exact ⟨no_number, (readDate_eq_readUngated_unless_hidden .textOnly no_number).1 shown, no_number',
    (readDate_eq_readUngated_unless_hidden .textOrEpoch no_number').2 _ hidden⟩

/-- **The gate does hide dates:** a moment whose year has a sign is not recognised, though one of
the forms takes it. -/
theorem readDate_ne_readUngated_signedYear :
    ¬ IsEpochShaped "+2024-03-01 12:30:00".toList ∧
      readDate .textOnly "+2024-03-01 12:30:00".toList = .error .unrecognized ∧
      readUngated "+2024-03-01 12:30:00".toList = .ok ⟨1709296200, 0⟩ ∧
      readDate .textOnly "+2024-03-01 12:30:00".toList ≠
        readUngated "+2024-03-01 12:30:00".toList := by
  have gated : readDate .textOnly "+2024-03-01 12:30:00".toList = .error .unrecognized := by
    decide
  have ungated : readUngated "+2024-03-01 12:30:00".toList = .ok ⟨1709296200, 0⟩ := by decide
  exact ⟨epochDigits?_eq_none_iff.mp (by decide), gated, ungated, by rw [gated, ungated]; nofun⟩

end Intake.Calendar
