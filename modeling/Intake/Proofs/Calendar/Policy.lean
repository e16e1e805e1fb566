import Mathlib.Logic.Basic
import Intake.Calendar.Recognize

/-!
# What the policy on numbers decides

A text of one to nineteen digits, perhaps after a sign, is a number. If only texts are dates, then no
number is one; if numbers count as dates too, then some are. All other texts are read without regard
to the policy. So to let numbers count adds dates and changes none (`readDate_textOrEpoch_extends`).
-/

namespace Intake.Calendar

open Intake.Text

/-! ## The shape of a number -/

/-- A sign in front of a number, or none. -/
def signs : List (List Char) := [[], ['+'], ['-']]

/-- The text is a number: perhaps a sign, then one to nineteen digits of any script. -/
def IsEpochShaped (cs : List Char) : Prop :=
  ∃ sign ∈ signs, ∃ digits, cs = sign ++ digits ∧ digits ≠ [] ∧ digits.length ≤ 19 ∧
    ∀ c ∈ digits, isDecimalDigit c = true

/-- **The texts that count as numbers** are those of that shape. -/
theorem epochDigits?_eq_none_iff {cs : List Char} :
    epochDigits? cs = none ↔ ¬ IsEpochShaped cs := by
  have digits_iff (digits : List Char) :
      (if digits ≠ [] ∧ digits.length ≤ 19 ∧ digits.all isDecimalDigit then some digits else none) =
          none ↔
        ¬ (digits ≠ [] ∧ digits.length ≤ 19 ∧ ∀ c ∈ digits, isDecimalDigit c = true) := by
    rw [ite_eq_right_iff, List.all_eq_true]
    simp
  have not_sign {digits : List Char} (h : ∀ c ∈ digits, isDecimalDigit c = true)
      (rest : List Char) : digits ≠ '+' :: rest ∧ digits ≠ '-' :: rest := by
    constructor
    · rintro rfl
      exact absurd (h '+' List.mem_cons_self) (by decide)
    · rintro rfl
      exact absurd (h '-' List.mem_cons_self) (by decide)
  unfold epochDigits?
  dsimp only
  rw [digits_iff, not_iff_not]
  constructor
  · intro shaped
    split at shaped
    · next rest => exact ⟨['+'], by decide, rest, rfl, shaped⟩
    · next rest => exact ⟨['-'], by decide, rest, rfl, shaped⟩
    · exact ⟨[], by decide, cs, rfl, shaped⟩
  · rintro ⟨sign, sign_mem, digits, rfl, shaped⟩
    simp only [signs, List.mem_cons, List.not_mem_nil, or_false] at sign_mem
    rcases sign_mem with rfl | rfl | rfl
    · split
      · next rest same => exact absurd same (not_sign shaped.2.2 rest).1
      · next rest same => exact absurd same (not_sign shaped.2.2 rest).2
      · exact shaped
    · exact shaped
    · exact shaped

/-! ## Two policies -/

/-- If only texts are dates, a number is none. -/
theorem readDate_textOnly_of_isEpochShaped {cs : List Char} (number : IsEpochShaped cs) :
    readDate .textOnly cs = .error .unrecognized := by
  cases counts : epochDigits? cs with
  | none => exact absurd number (epochDigits?_eq_none_iff.mp counts)
  | some digits => simp only [readDate, counts]

/-- What is no number is read without regard to the policy. -/
theorem readDate_eq_of_not_isEpochShaped {cs : List Char} (no_number : ¬ IsEpochShaped cs)
    (policy policy' : DatePolicy) : readDate policy cs = readDate policy' cs := by
  have counts : epochDigits? cs = none := epochDigits?_eq_none_iff.mpr no_number
  simp only [readDate, counts]

/-- **To let numbers count changes no date.** -/
theorem readDate_textOrEpoch_extends {cs : List Char} {t : Instant}
    (read : readDate .textOnly cs = .ok t) : readDate .textOrEpoch cs = .ok t := by
  by_cases number : IsEpochShaped cs
  · rw [readDate_textOnly_of_isEpochShaped number] at read
    cases read
  · rw [readDate_eq_of_not_isEpochShaped number .textOrEpoch .textOnly, read]

end Intake.Calendar
