import Intake.Proofs.Numeral.DecimalText
import Intake.Proofs.Numeral.NearestNumber

/-!
# The numbers that texts denote

A decimal literal writes a rational number (`Literal.exact`). It is the number that is read, unless
the digits of its power of ten are so many that the reader gives up
(`Literal.exact_eq_rational`).
-/

namespace Intake.Numeral

open Intake.Text

/-- The power of ten that is written. -/
def Literal.power (l : Literal) : Int :=
  (l.exponent.map fun e => withSign e.negative (digitsValue e.digits)).getD 0

/-- The rational number that is written. -/
def Literal.exact (l : Literal) : ℚ :=
  signed l.negative (digitsValue (l.whole ++ l.decimals) / 10 ^ l.decimals.length * 10 ^ l.power)

/-- The text writes a rational number. -/
def Denotes (cs : List Char) (q : ℚ) : Prop := ∃ l, WritesLiteral cs l ∧ l.exact = q

theorem WritesLiteral.denotes_iff {cs : List Char} {l : Literal} (h : WritesLiteral cs l) {q : ℚ} :
    Denotes cs q ↔ l.exact = q := by
  constructor
  · intro denotes
    obtain ⟨l', writes, exact_eq⟩ := denotes
    rw [h.unique writes, exact_eq]
  · intro exact_eq
    exact ⟨l, h, exact_eq⟩

/-- Below the ceiling, all digits of a power of ten count. -/
theorem exponentValue_eq {digits : List Char} (small : digitsValue digits < exponentCeiling) :
    exponentValue digits = digitsValue digits := by
  induction digits using List.reverseRecOn with
  | nil => rfl
  | append_singleton digits d ih =>
    rw [digitsValue_append_singleton] at small ⊢
    have front_small : digitsValue digits < exponentCeiling := by omega
    have front := ih front_small
    unfold exponentValue at front ⊢
    rw [List.foldl_append, front, List.foldl_cons, List.foldl_nil, if_pos front_small]

theorem Exponent.value_eq {e : Exponent}
    (small : |withSign e.negative (digitsValue e.digits)| < exponentCeiling) :
    e.value = withSign e.negative (digitsValue e.digits) := by
  have digits_small : digitsValue e.digits < exponentCeiling := by
    unfold withSign at small
    split at small
    · rw [abs_neg] at small
      exact_mod_cast small
    · exact_mod_cast small
  rw [Exponent.value, exponentValue_eq digits_small]
  rfl

/-- **The number that is written is the number that is read**, if its power of ten is below the
ceiling. -/
theorem Literal.exact_eq_rational {l : Literal} (small : |l.power| < exponentCeiling) :
    l.exact = l.value.rational := by
  have power_eq : (l.exponent.map Exponent.value).getD 0 = l.power := by
    unfold Literal.power at small ⊢
    cases exponent_eq : l.exponent with
    | none => rfl
    | some e =>
      rw [exponent_eq] at small
      exact Exponent.value_eq small
  rw [Literal.exact, Decimal.rational, Decimal.magnitude, Literal.value, power_eq,
    zpow_sub₀ (by norm_num), zpow_natCast]
  simp only [Literal.decimals]
  congr 1
  ring

end Intake.Numeral
