import Intake.Text.Blank
import Intake.Text.Digit
import Mathlib.Data.List.DropRight

/-!
# Trimming

Trimming leaves something of every text that is not made of blanks only (`isBlankText_trim`), and
leaves a text as it is whose ends are visible (`trimChars_eq_self`), such as one that was trimmed
(`trim_trim`).
-/

namespace Intake.Text

/-- A digit is no blank. -/
theorem isBlank_eq_false_of_digit {c : Char} (digit : isAsciiDigit c = true) :
    isBlank c = false := by
  have all : ∀ n < 10, isBlank (Char.ofNat (48 + n)) = false := by decide
  simp only [isAsciiDigit, Bool.and_eq_true, decide_eq_true_eq] at digit
  have first : 48 ≤ c.toNat := digit.1
  have last : c.toNat ≤ 57 := digit.2
  have same : Char.ofNat (48 + (c.toNat - 48)) = c := by
    rw [Nat.add_sub_cancel' first, Char.ofNat_toNat]
  rw [← same]
  exact all _ (by omega)

/-- What is left at the end of trimming the start is nothing or begins with a visible character. -/
theorem trimLeft_eq_nil_of_all_isBlank {cs : List Char} (h : (trimLeft cs).all isBlank = true) :
    trimLeft cs = [] := by
  induction cs with
  | nil => rfl
  | cons c rest ih =>
    by_cases hc : isBlank c = true
    · rw [trimLeft, List.dropWhile_cons_of_pos hc] at h ⊢
      exact ih h
    · rw [trimLeft, List.dropWhile_cons_of_neg hc, List.all_cons, Bool.and_eq_true] at h
      exact absurd h.1 hc

theorem all_isBlank_of_trimChars {cs : List Char} (h : (trimChars cs).all isBlank = true) :
    cs.all isBlank = true := by
  rw [trimChars, List.all_reverse] at h
  have nothing_left := trimLeft_eq_nil_of_all_isBlank h
  rw [trimLeft_eq_nil_iff, List.all_reverse] at nothing_left
  exact trimLeft_eq_nil_iff.mp (trimLeft_eq_nil_of_all_isBlank nothing_left)

/-- **Trimming leaves something of a text that is not blank.** -/
theorem isBlankText_trim {s : String} (h : isBlankText s = false) :
    isBlankText (trim s) = false := by
  rw [← Bool.not_eq_true] at h ⊢
  intro blank
  rw [isBlankText, trim, String.toList_ofList] at blank
  exact h (all_isBlank_of_trimChars blank)

/-! ## Visible ends -/

theorem trimLeft_cons {c : Char} (visible : isBlank c = false) (cs : List Char) :
    trimLeft (c :: cs) = c :: cs := by
  rw [trimLeft, List.dropWhile_cons_of_neg (by simp [visible])]

/-- **A text that begins and ends with visible characters is trimmed already.** -/
theorem trimChars_eq_self {first last : Char} {cs front back : List Char}
    (cs_eq : cs = first :: back) (cs_eq' : cs = front ++ [last])
    (first_visible : isBlank first = false) (last_visible : isBlank last = false) :
    trimChars cs = cs := by
  have start : trimLeft cs = cs := by rw [cs_eq, trimLeft_cons first_visible]
  rw [trimChars, start, cs_eq', List.reverse_append, List.reverse_singleton, List.singleton_append,
    trimLeft_cons last_visible, List.reverse_cons, List.reverse_reverse]

/-- A text without blanks is trimmed already. -/
theorem trimChars_of_visible {cs : List Char} (visible : ∀ c ∈ cs, isBlank c = false) :
    trimChars cs = cs := by
  have kept (ds : List Char) (ds_visible : ∀ c ∈ ds, isBlank c = false) : trimLeft ds = ds := by
    cases ds with
    | nil => rfl
    | cons d ds => exact trimLeft_cons (ds_visible d List.mem_cons_self) ds
  rw [trimChars, kept cs visible, kept cs.reverse fun c mem => visible c (List.mem_reverse.mp mem),
    List.reverse_reverse]

/-! ## Trimming twice -/

/-- Of a text that begins with a visible character, so does every beginning. -/
theorem trimLeft_eq_self_of_prefix {front whole : List Char} (h : front <+: whole)
    (trimmed : trimLeft whole = whole) : trimLeft front = front := by
  cases front with
  | nil => rfl
  | cons c rest =>
    obtain ⟨back, rfl⟩ := h
    cases visible : isBlank c with
    | false => exact trimLeft_cons visible rest
    | true =>
      -- a blank would be gone
      rw [trimLeft, List.cons_append, List.dropWhile_cons_of_pos visible] at trimmed
      have shorter := (List.dropWhile_sublist (p := isBlank) (l := rest ++ back)).length_le
      rw [trimmed, List.length_cons] at shorter
      omega

/-- **A text that was trimmed is trimmed already.** -/
theorem trimChars_trimChars (cs : List Char) : trimChars (trimChars cs) = trimChars cs := by
  have start : trimLeft (trimLeft cs) = trimLeft cs := List.dropWhile_idempotent _ _
  have front : trimChars cs <+: trimLeft cs := List.rdropWhile_prefix isBlank _
  have kept : trimLeft (trimChars cs) = trimChars cs := trimLeft_eq_self_of_prefix front start
  have finish : trimLeft (trimChars cs).reverse = (trimChars cs).reverse := by
    rw [trimChars, List.reverse_reverse]
    exact List.dropWhile_idempotent _ _
  rw [trimChars, kept, finish, List.reverse_reverse]

theorem trim_trim (s : String) : trim (trim s) = trim s := by
  rw [trim, trim, String.toList_ofList, trimChars_trimChars]

end Intake.Text
