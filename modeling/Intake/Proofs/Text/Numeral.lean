import Intake.Numeral.Power
import Intake.Text.Digit
import Mathlib.Data.List.Basic
import Mathlib.Data.List.Induction
import Mathlib.Tactic.Ring

/-!
# Numerals

A number that is small enough is filled up to exactly the width asked for, with digits only and
without changing its value (`isNumeralOf_of_lt`); and so many digits never say more than the
width allows (`digitsValue_lt`).

A number has one numeral of each width (`eq_of_digitsValue_eq`), and one without needless zeros in
front (`IsPlainWhole.numeral_digitsValue`).
-/

namespace Intake.Text

open Intake.Numeral

/-- The characters are `width` ASCII digits that stand for `n`. -/
structure IsNumeralOf (width n : Nat) (cs : List Char) : Prop where
  length_eq : cs.length = width
  digits : ∀ c ∈ cs, isAsciiDigit c = true
  value_eq : digitsValue cs = n

/-! ## Digits -/

theorem isAsciiDigit_digitChar (n : Nat) : isAsciiDigit (digitChar n) = true := by
  have all : ∀ k < 10, isAsciiDigit (Char.ofNat (48 + k)) = true := by decide
  exact all (n % 10) (Nat.mod_lt n (by decide))

theorem digitsOf_isAsciiDigit {fuel n : Nat} {c : Char} (h : c ∈ digitsOf fuel n) :
    isAsciiDigit c = true := by
  induction fuel generalizing n with
  | zero => simp [digitsOf] at h
  | succ fuel ih =>
    rw [digitsOf] at h
    split at h
    · rw [List.mem_singleton.mp h]
      exact isAsciiDigit_digitChar n
    · rcases List.mem_append.mp h with front | last
      · exact ih front
      · rw [List.mem_singleton.mp last]
        exact isAsciiDigit_digitChar n

/-- A number below a power of ten has no more digits than the power has zeros. -/
theorem length_digitsOf_le {fuel n width : Nat} (small : n < tenTo (width + 1)) :
    (digitsOf fuel n).length ≤ width + 1 := by
  induction fuel generalizing n width with
  | zero => simp [digitsOf]
  | succ fuel ih =>
    rw [digitsOf]
    split
    · simp
    · next large =>
      cases width with
      | zero => exact absurd (show n < 10 from small) large
      | succ width =>
        rw [tenTo_succ] at small
        have front : (digitsOf fuel (n / 10)).length ≤ width + 1 := ih (by omega)
        rw [List.length_append, List.length_singleton]
        omega

/-- **So many digits stand for less than the power of ten with so many zeros.** -/
theorem digitsValue_lt (cs : List Char) : digitsValue cs < tenTo cs.length := by
  have digit_lt (c : Char) : (asciiDigit? c).getD 0 ≤ 9 := by
    unfold asciiDigit?
    split
    · next digit =>
      simp only [isAsciiDigit, Bool.and_eq_true, decide_eq_true_eq] at digit
      have : c.toNat ≤ 57 := digit.2
      rw [Option.getD_some]
      omega
    · simp
  suffices reversed : ∀ ds : List Char, digitsValue ds.reverse < tenTo ds.length by
    simpa using reversed cs.reverse
  intro ds
  induction ds with
  | nil => exact tenTo_pos 0
  | cons d ds ih =>
    rw [List.reverse_cons, digitsValue_append_singleton, List.length_cons, tenTo_succ]
    have := digit_lt d
    omega

theorem digitsValue_append (cs ds : List Char) :
    digitsValue (cs ++ ds) = digitsValue cs * tenTo ds.length + digitsValue ds := by
  induction ds using List.reverseRecOn with
  | nil => simp [tenTo, digitsValue]
  | append_singleton ds d ih =>
    rw [← List.append_assoc, digitsValue_append_singleton, ih, digitsValue_append_singleton,
      List.length_append, List.length_singleton, tenTo_succ]
    ring

/-- Where the last digits begin tells their value and that of the digits in front. -/
theorem digitsValue_append_inj {cs cs' ds ds' : List Char} (length_eq : ds.length = ds'.length)
    (value_eq : digitsValue (cs ++ ds) = digitsValue (cs' ++ ds')) :
    digitsValue cs = digitsValue cs' ∧ digitsValue ds = digitsValue ds' := by
  have quotient (n : Nat) {r : Nat} (small : r < tenTo ds.length) :
      (n * tenTo ds.length + r) / tenTo ds.length = n := by
    rw [Nat.mul_comm, Nat.mul_add_div (tenTo_pos _), Nat.div_eq_of_lt small, Nat.add_zero]
  rw [digitsValue_append, digitsValue_append, ← length_eq] at value_eq
  have front : digitsValue cs = digitsValue cs' := by
    rw [← quotient (digitsValue cs) (digitsValue_lt ds), value_eq,
      quotient _ (length_eq ▸ digitsValue_lt ds')]
  rw [front] at value_eq
  exact ⟨front, Nat.add_left_cancel value_eq⟩

/-- A digit is the digit of a number below ten. -/
theorem exists_eq_digitChar {c : Char} (digit : isAsciiDigit c = true) :
    ∃ n < 10, c = digitChar n ∧ asciiDigit? c = some n := by
  have bounds := digit
  simp only [isAsciiDigit, Bool.and_eq_true, decide_eq_true_eq] at bounds
  have low : 48 ≤ c.toNat := bounds.1
  have high : c.toNat ≤ 57 := bounds.2
  refine ⟨c.toNat - 48, by omega, ?_, if_pos digit⟩
  rw [digitChar, Nat.mod_eq_of_lt (by omega), Nat.add_sub_cancel' low, Char.ofNat_toNat]

/-- **So many digits with one value are the same digits.** -/
theorem eq_of_digitsValue_eq {cs ds : List Char} (length_eq : cs.length = ds.length)
    (digits : ∀ c ∈ cs, isAsciiDigit c = true) (digits' : ∀ d ∈ ds, isAsciiDigit d = true)
    (value_eq : digitsValue cs = digitsValue ds) : cs = ds := by
  -- the last digit is what is left when the value is divided by ten
  induction cs using List.reverseRecOn generalizing ds with
  | nil => exact (List.length_eq_zero_iff.mp length_eq.symm).symm
  | append_singleton cs c ih =>
    cases ds using List.reverseRecOn with
    | nil => simp at length_eq
    | append_singleton ds d =>
      simp only [List.length_append, List.length_singleton, Nat.add_right_cancel_iff] at length_eq
      simp only [List.forall_mem_append, List.forall_mem_singleton] at digits digits'
      obtain ⟨m, m_lt, rfl, m_eq⟩ := exists_eq_digitChar digits.2
      obtain ⟨n, n_lt, rfl, n_eq⟩ := exists_eq_digitChar digits'.2
      rw [digitsValue_append_singleton, digitsValue_append_singleton, m_eq, n_eq,
        Option.getD_some, Option.getD_some] at value_eq
      obtain rfl : m = n := by omega
      rw [ih length_eq digits.1 digits'.1 (by omega)]

/-! ## Numerals of any width -/

theorem isNumeralOf_numeral (n : Nat) : IsNumeralOf (numeral n).length n (numeral n) where
  length_eq := rfl
  digits _ := digitsOf_isAsciiDigit
  value_eq := digitsValue_numeral n

theorem numeral_of_lt {n : Nat} (small : n < 10) : numeral n = [digitChar n] := if_pos small

/-- Fuel that is enough is as good as any. -/
theorem digitsOf_eq_of_lt {n fuel more : Nat} (enough : n < fuel) (enough' : n < more) :
    digitsOf fuel n = digitsOf more n := by
  induction fuel generalizing n more with
  | zero => omega
  | succ fuel ih =>
    obtain ⟨more, rfl⟩ := Nat.exists_eq_add_one_of_ne_zero (Nat.ne_zero_of_lt enough')
    rw [digitsOf, digitsOf]
    split
    · rfl
    · rw [ih (by omega) (show n / 10 < more by omega)]

/-- The last digit stands at the end. -/
theorem numeral_of_ge {n : Nat} (large : 10 ≤ n) :
    numeral n = numeral (n / 10) ++ [digitChar n] := by
  rw [numeral, digitsOf, if_neg (by omega), numeral,
    digitsOf_eq_of_lt (show n / 10 < n by omega) (Nat.lt_succ_self _)]

theorem exists_numeral_eq_append (n : Nat) : ∃ front, numeral n = front ++ [digitChar n] := by
  rcases Nat.lt_or_ge n 10 with small | large
  · exact ⟨[], numeral_of_lt small⟩
  · exact ⟨_, numeral_of_ge large⟩

theorem numeral_ne_nil (n : Nat) : numeral n ≠ [] := by
  obtain ⟨front, numeral_eq⟩ := exists_numeral_eq_append n
  rw [numeral_eq]
  exact List.append_ne_nil_of_right_ne_nil _ (List.cons_ne_nil _ _)

/-- Digits that write a natural number with no needless zero in front. -/
structure IsPlainWhole (cs : List Char) : Prop where
  ne_nil : cs ≠ []
  digits : ∀ c ∈ cs, isAsciiDigit c = true
  front : cs.head? = some '0' → cs = ['0']

theorem digitChar_eq_zero_iff {n : Nat} : digitChar n = '0' ↔ n % 10 = 0 := by
  have all : ∀ k < 10, Char.ofNat (48 + k) = '0' ↔ k = 0 := by decide
  exact all (n % 10) (Nat.mod_lt n (by decide))

theorem isPlainWhole_numeral (n : Nat) : IsPlainWhole (numeral n) where
  ne_nil := numeral_ne_nil n
  digits _ := digitsOf_isAsciiDigit
  front zero := by
    induction n using Nat.strongRecOn with
    | ind n ih =>
      rcases Nat.lt_or_ge n 10 with small | large
      · rw [numeral_of_lt small] at zero ⊢
        rw [Option.some.inj zero]
      · rw [numeral_of_ge large, List.head?_append_of_ne_nil _ (numeral_ne_nil _)] at zero
        have value_eq := digitsValue_numeral (n / 10)
        rw [ih (n / 10) (by omega) zero] at value_eq
        have zero_value : digitsValue ['0'] = 0 := rfl
        omega

/-- **Digits with no needless zero in front are the numeral of their value.** -/
theorem IsPlainWhole.numeral_digitsValue {cs : List Char} (h : IsPlainWhole cs) :
    numeral (digitsValue cs) = cs := by
  induction cs using List.reverseRecOn with
  | nil => exact absurd rfl h.ne_nil
  | append_singleton cs c ih =>
    have digits := h.digits
    simp only [List.forall_mem_append, List.forall_mem_singleton] at digits
    obtain ⟨n, n_lt, rfl, n_eq⟩ := exists_eq_digitChar digits.2
    rw [digitsValue_append_singleton, n_eq, Option.getD_some]
    by_cases single : cs = []
    · subst single
      rw [digitsValue, List.foldl_nil, Nat.mul_zero, Nat.zero_add, numeral_of_lt n_lt,
        List.nil_append]
    · -- in front of the last digit there is no needless zero, either, nor a zero alone
      have front : cs.head? ≠ some '0' := fun zero => by
        have whole := h.front (by rwa [List.head?_append_of_ne_nil _ single])
        simp [List.append_eq_singleton_iff, single] at whole
      have numeral_eq := ih ⟨single, digits.1, fun zero => absurd zero front⟩
      have positive : digitsValue cs ≠ 0 := fun zero => by
        rw [zero] at numeral_eq
        exact front (numeral_eq ▸ rfl)
      have last : digitChar (10 * digitsValue cs + n) = digitChar n := by
        rw [digitChar, Nat.mul_add_mod, digitChar]
      rw [numeral_of_ge (by omega), last, show (10 * digitsValue cs + n) / 10 = digitsValue cs by
        omega, numeral_eq]

/-! ## Filling up -/

/-- Zeros in front do not count. -/
theorem digitsValue_zeros_append (count : Nat) (cs : List Char) :
    digitsValue (List.replicate count '0' ++ cs) = digitsValue cs := by
  induction count with
  | zero => rfl
  | succ count ih =>
    rw [← ih]
    rfl

/-- Zeros behind the digits are powers of ten. -/
theorem digitsValue_append_zeros (cs : List Char) (n : Nat) :
    digitsValue (cs ++ List.replicate n '0') = digitsValue cs * tenTo n := by
  have zeros : digitsValue (List.replicate n '0') = 0 := by
    have value_eq := digitsValue_zeros_append n []
    rwa [List.append_nil] at value_eq
  rw [digitsValue_append, zeros, List.length_replicate, Nat.add_zero]

theorem paddedNumeral_isAsciiDigit {width n : Nat} {c : Char} (h : c ∈ paddedNumeral width n) :
    isAsciiDigit c = true := by
  rw [paddedNumeral] at h
  rcases List.mem_append.mp h with zero | digit
  · rw [(List.mem_replicate.mp zero).2]
    decide
  · exact digitsOf_isAsciiDigit digit

/-- A numeral that is filled up has the width it is filled up to, or more. -/
theorem isNumeralOf_paddedNumeral (width n : Nat) :
    IsNumeralOf (paddedNumeral width n).length n (paddedNumeral width n) where
  length_eq := rfl
  digits _ := paddedNumeral_isAsciiDigit
  value_eq := by rw [paddedNumeral, digitsValue_zeros_append, digitsValue_numeral]

theorem le_length_paddedNumeral (width n : Nat) : width ≤ (paddedNumeral width n).length := by
  rw [paddedNumeral, List.length_append, List.length_replicate]
  omega

/-- **A number that fits is written with exactly the digits of the width.** -/
theorem isNumeralOf_of_lt {width n : Nat} (small : n < tenTo (width + 1)) :
    IsNumeralOf (width + 1) n (paddedNumeral (width + 1) n) := by
  obtain ⟨-, digits, value_eq⟩ := isNumeralOf_paddedNumeral (width + 1) n
  refine ⟨?_, digits, value_eq⟩
  have fits : (numeral n).length ≤ width + 1 := length_digitsOf_le small
  rw [paddedNumeral, List.length_append, List.length_replicate]
  omega

theorem isNumeralOf_two {n : Nat} (small : n < 100) : IsNumeralOf 2 n (paddedNumeral 2 n) :=
  isNumeralOf_of_lt small

/-! ## Shapes -/

/-- Does the text look like the template? A zero stands for any ASCII digit and every other
character for itself. -/
def isShapedLike : List Char → List Char → Bool
  | [], [] => true
  | mark :: template, c :: cs =>
    (if mark = '0' then isAsciiDigit c else c == mark) && isShapedLike template cs
  | _, _ => false

/-- A numeral has the shape of as many zeros. -/
theorem isShapedLike_numeral {width n : Nat} {cs rest template : List Char}
    (numeral : IsNumeralOf width n cs) :
    isShapedLike (List.replicate width '0' ++ template) (cs ++ rest) =
      isShapedLike template rest := by
  obtain ⟨rfl, digits, -⟩ := numeral
  induction cs with
  | nil => rfl
  | cons c cs ih =>
    have tail := ih fun d mem => digits d (List.mem_cons_of_mem c mem)
    rw [List.length_cons, List.replicate_succ, List.cons_append, List.cons_append, isShapedLike,
      if_pos rfl, digits c (by simp), Bool.true_and, tail]

end Intake.Text
