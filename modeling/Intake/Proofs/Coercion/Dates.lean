import Intake.Proofs.Calendar.SignedYear
import Intake.Proofs.Coercion.Visible

/-!
# Dates coerced again

The text of a date is meant to be the text of itself: read again it should give the same date, under
either policy. That holds for every date whose year, in UTC, has four digits, and for no other
(`date_reread_iff_hasPlainYear`): other years are written with a sign, and texts with a sign are
refused.
-/

namespace Intake.Calendar

open Intake.Text

/-- The shape of canonical texts. -/
def canonicalShape : List Char := "0000-00-00T00:00:00.000Z".toList

/-- A character that is not zero stands for itself. -/
theorem isShapedLike_mark {mark : Char} {template cs : List Char} (not_zero : mark ≠ '0') :
    isShapedLike (mark :: template) (mark :: cs) = isShapedLike template cs := by
  rw [isShapedLike, if_neg not_zero, beq_self_eq_true, Bool.true_and]

/-- **The canonical text of a proper instant has the canonical shape just if its year has four
digits.** -/
theorem isShapedLike_canonicalShape_iff {t : Instant} (proper : t.IsProper) :
    isShapedLike canonicalShape t.canonicalChars = true ↔ t.HasPlainYear := by
  constructor
  · intro shaped
    by_cases plain : t.HasPlainYear
    · exact plain
    · -- the shape begins with a digit, and the text with a sign
      obtain ⟨time, chars_eq⟩ := Instant.canonicalChars_of_signed plain
      have sign_digit : isAsciiDigit (yearSign t.date.year) = true := by
        rw [chars_eq] at shaped
        exact (Bool.and_eq_true_iff.mp shaped).1
      rw [isAsciiDigit_yearSign] at sign_digit
      cases sign_digit
  · intro plain
    have shape_eq : canonicalShape = List.replicate 4 '0' ++ '-' :: (List.replicate 2 '0' ++ '-' ::
        (List.replicate 2 '0' ++ 'T' :: (List.replicate 2 '0' ++ ':' :: (List.replicate 2 '0' ++
          ':' :: (List.replicate 2 '0' ++ '.' :: (List.replicate 3 '0' ++ ['Z'])))))) := rfl
    rw [t.canonicalChars_eq, plain.yearText_eq, shape_eq,
      isShapedLike_numeral plain.year_numeral, isShapedLike_mark (by decide),
      isShapedLike_numeral t.month_numeral, isShapedLike_mark (by decide),
      isShapedLike_numeral t.day_numeral, isShapedLike_mark (by decide),
      isShapedLike_numeral t.hour_numeral, isShapedLike_mark (by decide),
      isShapedLike_numeral t.minute_numeral, isShapedLike_mark (by decide),
      isShapedLike_numeral proper.second_numeral, isShapedLike_mark (by decide),
      isShapedLike_numeral t.millis_numeral]
    rfl

end Intake.Calendar

namespace Intake

open Intake.Schema Intake.Text Intake.Calendar

/-! ## Date fields -/

/-- A text for a date field is read as a date without the blanks around it. -/
theorem coerceText_date (policy : DatePolicy) {field : Field} (type_eq : field.type = some .date)
    {raw : String} (visible : isBlankText raw = false) :
    coerceText policy field raw =
      match readDate policy (trim raw).toList with
      | .ok t => .ok (some t.canonical)
      | .error fault => reject field raw (some (.date fault)) := by
  rw [coerceText_of_visible policy type_eq visible]
  rfl

/-- The text of a date field is the canonical text of the date that was read. -/
theorem coerceText_eq_canonical {policy : DatePolicy} {field : Field} {raw value : String}
    (type_eq : field.type = some .date) (h : coerceText policy field raw = .ok (some value)) :
    ∃ t, readDate policy (trim raw).toList = .ok t ∧ value = t.canonical := by
  rw [coerceText_date policy type_eq (visible_of_coerceText h)] at h
  split at h
  · next t date_read =>
    cases h
    exact ⟨t, date_read, rfl⟩
  · exact absurd h reject_ne_some

/-- A canonical text begins with a digit or a sign. -/
theorem canonicalChars_eq_cons (t : Instant) :
    ∃ first back, t.canonicalChars = first :: back ∧ isBlank first = false := by
  by_cases plain : t.HasPlainYear
  · obtain ⟨length_eq, digits, -⟩ := plain.year_numeral
    rw [t.canonicalChars_eq, plain.yearText_eq]
    match paddedNumeral 4 t.date.year.toNat, length_eq, digits with
    | first :: back, _, digits =>
      exact ⟨first, _, rfl, isBlank_eq_false_of_digit (digits first (by simp))⟩
  · obtain ⟨time, chars_eq⟩ := Instant.canonicalChars_of_signed plain
    exact ⟨_, _, chars_eq, isBlank_yearSign _⟩

/-- A canonical text is trimmed already. -/
theorem trim_canonical (t : Instant) : trim t.canonical = t.canonical := by
  obtain ⟨first, back, chars_eq, visible⟩ := canonicalChars_eq_cons t
  rw [trim, Instant.canonical, String.toList_ofList,
    trimChars_eq_self chars_eq rfl visible (by decide)]

/-- Coercing a canonical text for a date field reads just that text. -/
theorem coerceText_canonical (policy : DatePolicy) {field : Field}
    (type_eq : field.type = some .date) (t : Instant) :
    coerceText policy field t.canonical =
      match readDate policy t.canonicalChars with
      | .ok again => .ok (some again.canonical)
      | .error fault => reject field t.canonical (some (.date fault)) := by
  rw [coerceText_date policy type_eq (canonical_visible t), trim_canonical, Instant.canonical,
    String.toList_ofList]

/-- **Exactly the dates whose year in UTC has four digits are read again as themselves.** For every
date that is read under `policy`, and for `policy` as for the other one: its canonical text has the
canonical shape just if the year has four digits; if so, the text is read as the date without what
lies below its milliseconds, whose canonical text is the same, and otherwise it is no date. So the
text of a date field is coerced again to itself just if it has the canonical shape, and rejected
otherwise. -/
theorem date_reread_iff_hasPlainYear (policy again : DatePolicy) :
    (∀ {cs : List Char} {t : Instant}, readDate policy cs = .ok t →
      (isShapedLike canonicalShape t.canonicalChars = true ↔ t.HasPlainYear) ∧
      t.truncated.canonical = t.canonical ∧
      readDate again t.canonicalChars =
        if t.HasPlainYear then .ok t.truncated else .error .unrecognized) ∧
    ∀ {field : Field} {raw value : String}, field.type = some .date →
      coerceText policy field raw = .ok (some value) →
      coerceText again field value =
        if isShapedLike canonicalShape value.toList then .ok (some value)
        else reject field value (some (.date .unrecognized)) := by
  have reread (t : Instant) (proper : t.IsProper) : readDate again t.canonicalChars =
      if t.HasPlainYear then .ok t.truncated else .error .unrecognized := by
    split
    · next plain => exact readDate_canonicalChars proper plain again
    · next signed => exact readDate_canonicalChars_of_signed signed again
  have canonical_eq (t : Instant) : t.truncated.canonical = t.canonical :=
    congrArg String.ofList t.canonicalChars_truncated
  refine ⟨fun {cs t} read => ?_, fun {field raw value} type_eq coerced => ?_⟩
  · have proper := readDate_isProper read
    exact ⟨isShapedLike_canonicalShape_iff proper, canonical_eq t, reread t proper⟩
  · obtain ⟨t, read, rfl⟩ := coerceText_eq_canonical type_eq coerced
    have proper := readDate_isProper read
    rw [coerceText_canonical again type_eq, reread t proper, Instant.canonical,
      String.toList_ofList]
    by_cases plain : t.HasPlainYear
    · rw [if_pos plain, if_pos ((isShapedLike_canonicalShape_iff proper).mpr plain)]
      exact congrArg (fun text => Except.ok (some text)) (canonical_eq t)
    · rw [if_neg plain, if_neg (mt (isShapedLike_canonicalShape_iff proper).mp plain)]

/-- The leap second at the end of 2016 is read again to the millisecond; the last hour of the year
9999 west of Greenwich lies in the year 10000 and is rejected. -/
theorem date_reread_leapSecond_lastHour :
    (readDate .textOnly "2016-12-31T23:59:60.98765Z".toList = .ok ⟨1483228799, 1987650000⟩ ∧
      readDate .textOrEpoch (Instant.mk 1483228799 1987650000).canonicalChars =
        .ok ⟨1483228799, 1987000000⟩) ∧
    coerceText .textOnly (Field.ofType "made" .date) "9999-12-31T23:59:59-01:00" =
        .ok (some "+10000-01-01T00:59:59.000Z") ∧
      coerceText .textOrEpoch (Field.ofType "made" .date) "+10000-01-01T00:59:59.000Z" =
        .error (.malformed "made" "date" "+10000-01-01T00:59:59.000Z"
          (some (.date .unrecognized))) := by
  obtain ⟨dates, fields⟩ := date_reread_iff_hasPlainYear .textOnly .textOrEpoch
  have leap_second : readDate .textOnly "2016-12-31T23:59:60.98765Z".toList =
      .ok ⟨1483228799, 1987650000⟩ := by rfl
  have is_date : (Field.ofType "made" .date).type = some .date := rfl
  have last_hour_read : readDate .textOnly (trim "9999-12-31T23:59:59-01:00").toList =
      .ok ⟨253402304399, 0⟩ := by rfl
  have last_hour : coerceText .textOnly (Field.ofType "made" .date) "9999-12-31T23:59:59-01:00" =
      .ok (some "+10000-01-01T00:59:59.000Z") := by
    rw [coerceText_date _ is_date (by decide), last_hour_read]
    rfl
  have four_digits : (Instant.mk 1483228799 1987650000).HasPlainYear := by decide +kernel
  have five_digits : ¬ isShapedLike canonicalShape "+10000-01-01T00:59:59.000Z".toList = true := by
    decide +kernel
  refine ⟨⟨leap_second, ?_⟩, last_hour, ?_⟩
  · rw [(dates leap_second).2.2, if_pos four_digits]
    rfl
  · rw [fields is_date last_hour, if_neg five_digits]
    rfl

end Intake
