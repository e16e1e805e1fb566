import Intake.Json.Reader
import Intake.Proofs.Json.Nesting

/-!
# What may follow

A number goes on as long as characters of numbers follow it, so what may follow it is limited
(`Ends`). What can stand after a value in JSON, a blank, a comma or a closing bracket, always ends
it (`Stops`). What a reader takes off the front of a text is said with such a condition on the rest
(`Reader.Takes`).
-/

namespace Intake.Json

open Intake.Text Intake.Numeral

/-- The text does not go on with a character of the kind. -/
def Ends (kind : Char → Bool) (rest : List Char) : Prop := ∀ c ∈ rest.head?, kind c = false

theorem Ends.nil {kind : Char → Bool} : Ends kind [] := fun _ none_there => nomatch none_there

theorem Ends.cons {kind : Char → Bool} {c : Char} (other : kind c = false) (rest : List Char) :
    Ends kind (c :: rest) := by
  intro d first
  obtain rfl := Option.some.inj first
  exact other

theorem Ends.append {kind : Char → Bool} {used rest : List Char} (h : Ends kind used)
    (ends : Ends kind rest) : Ends kind (used ++ rest) := by
  cases used with
  | nil => exact ends
  | cons c used => exact h

theorem Ends.mono {kind wider : Char → Bool} {rest : List Char}
    (le : ∀ c, kind c = true → wider c = true) (h : Ends wider rest) : Ends kind rest := by
  intro c first
  refine Bool.eq_false_iff.mpr fun same => ?_
  exact absurd (h c first) (Bool.not_eq_false _ ▸ le c same)

/-- Is the character one that a fraction is written with? -/
def isFractionChar (c : Char) : Bool := isAsciiDigit c || c == '.'

/-- Is the character one that a number is written with? -/
def isNumberChar (c : Char) : Bool := isFractionChar c || c ∈ ['e', 'E', '-', '+']

theorem isNumberChar_of_isAsciiDigit {c : Char} (digit : isAsciiDigit c = true) :
    isNumberChar c = true := by
  rw [isNumberChar, isFractionChar, digit, Bool.true_or, Bool.true_or]

/-- Can the character follow a value? -/
def isStop (c : Char) : Bool := isSpace c || isClosing c || c == ','

theorem isNumberChar_of_isStop {c : Char} (stop : isStop c = true) : isNumberChar c = false := by
  simp only [isStop, isSpace, isClosing, Bool.or_eq_true, beq_iff_eq, or_assoc] at stop
  rcases stop with rfl | rfl | rfl | rfl | rfl | rfl | rfl <;> decide

/-- The text goes on as it may after a value: not at all, or with a blank, a comma, or a bracket
that closes. -/
def Stops (rest : List Char) : Prop := ∀ c ∈ rest.head?, isStop c = true

theorem Stops.nil : Stops [] := fun _ none_there => nomatch none_there

theorem Stops.cons {c : Char} (stop : isStop c = true) (rest : List Char) : Stops (c :: rest) := by
  intro d first
  obtain rfl := Option.some.inj first
  exact stop

theorem Stops.ends {rest : List Char} (h : Stops rest) : Ends isNumberChar rest :=
  fun c first => isNumberChar_of_isStop (h c first)

/-- The reader takes the characters off every text that begins with them, if what follows is as it
may be. -/
def Reader.Takes {α : Type} (reader : Reader α) (Follows : List Char → Prop) (used : List Char)
    (a : α) : Prop :=
  ∀ rest, Follows rest → reader (used ++ rest) = .ok (a, rest)

/-! ## Digits -/

theorem splitDigits_of_ends {digits rest : List Char}
    (are_digits : ∀ c ∈ digits, isAsciiDigit c = true) (ends : Ends isAsciiDigit rest) :
    splitDigits (digits ++ rest) = (digits, rest) := by
  rw [splitDigits, List.takeWhile_append_of_pos are_digits, List.dropWhile_append_of_pos are_digits]
  cases rest with
  | nil => simp
  | cons c rest =>
    have other : ¬ isAsciiDigit c = true := Bool.eq_false_iff.mp (ends c rfl)
    rw [List.takeWhile_cons_of_neg other, List.dropWhile_cons_of_neg other, List.append_nil]

theorem of_splitDigits_eq {s digits rest : List Char} (h : splitDigits s = (digits, rest)) :
    s = digits ++ rest ∧ ∀ c ∈ digits, isAsciiDigit c = true := by
  have parts := splitDigits_append s
  rw [h] at parts
  obtain ⟨rfl, -⟩ := Prod.mk.inj h
  exact ⟨parts.symm, List.all_eq_true.mp List.all_takeWhile⟩

theorem splitDigits_ne_nil {c : Char} (digit : isAsciiDigit c = true) {s digits rest : List Char}
    (h : splitDigits (c :: s) = (digits, rest)) : ∃ more, digits = c :: more := by
  rw [splitDigits, List.takeWhile_cons_of_pos digit] at h
  exact ⟨_, (Prod.mk.inj h).1.symm⟩

end Intake.Json
