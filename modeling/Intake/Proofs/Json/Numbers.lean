import Intake.Except
import Intake.Proofs.Numeral.DecimalText
import Intake.Proofs.Text.Trim

/-!
# The texts of numbers

What a number is in JSON, as a grammar: perhaps a minus, whole digits with no needless zero in
front, perhaps a point with digits after it, perhaps a power of ten (`WritesNumber`). The reader
takes just these texts off the front of what follows (`WritesNumber.takes`,
`exists_writesNumber`).
-/

namespace Intake.Json

open Intake.Text Intake.Numeral

/-! ## The grammar -/

/-- The minus in front of a number, or nothing. -/
def minusChars (negative : Bool) : List Char := if negative then ['-'] else []

/-- The characters of a number. -/
inductive WritesNumber : List Char → Literal → Prop where
  | intro {whole point power : List Char} {fraction : Option (List Char)}
      {exponent : Option Exponent} (negative : Bool) (plain : IsPlainWhole whole)
      (writes_point : WritesFraction point fraction) (some_digits : fraction ≠ some [])
      (writes_power : WritesPower power exponent) :
      WritesNumber (minusChars negative ++ (whole ++ (point ++ power)))
        ⟨negative, whole, fraction, exponent⟩

/-- The characters are a number. -/
def IsNumber (n : List Char) : Prop := ∃ l, WritesNumber n l

theorem writesSign_minusChars (negative : Bool) : WritesSign (minusChars negative) negative := by
  cases negative with
  | false => exact .none
  | true => exact .minus

/-- A number is a decimal literal. -/
theorem WritesNumber.writesLiteral {n : List Char} {l : Literal} (h : WritesNumber n l) :
    WritesLiteral n l := by
  cases h with
  | intro negative plain writes_point some_digits writes_power =>
    exact .intro (writesSign_minusChars negative)
      (.intro negative plain.digits writes_point (.inl plain.ne_nil) writes_power)

/-- A text is one number at most. -/
theorem WritesNumber.unique {n : List Char} {l l' : Literal} (h : WritesNumber n l)
    (h' : WritesNumber n l') : l = l' := h.writesLiteral.unique h'.writesLiteral

/-! ## Reading numbers -/

theorem splitMinus_append {negative : Bool} {rest : List Char} (no_sign : Ends isSign rest) :
    splitMinus (minusChars negative ++ rest) = (negative, rest) := by
  cases negative with
  | true => rfl
  | false =>
    show splitMinus rest = (false, rest)
    unfold splitMinus
    split
    · exact absurd (no_sign '-' rfl) (by decide)
    · rfl

theorem exists_minusChars {s rest : List Char} {negative : Bool}
    (h : splitMinus s = (negative, rest)) : s = minusChars negative ++ rest := by
  unfold splitMinus at h
  split at h <;> cases h <;> rfl

/-- Whole digits are read up to the next character that is none. -/
theorem readWhole_append {whole rest : List Char} (plain : IsPlainWhole whole)
    (ends : Ends isAsciiDigit rest) : readWhole (whole ++ rest) = .ok (whole, rest) := by
  obtain ⟨c, more, rfl⟩ := List.exists_cons_of_ne_nil plain.ne_nil
  have digit := plain.digits c List.mem_cons_self
  by_cases zero : c = '0'
  · subst zero
    obtain rfl : more = [] := (List.cons.inj (plain.front rfl)).2
    cases rest with
    | nil => rfl
    | cons d rest =>
      show (if isAsciiDigit d then _ else _) = _
      rw [ends d rfl]
      rfl
  · have split_eq := splitDigits_of_ends plain.digits ends
    rw [List.cons_append] at split_eq ⊢
    rw [readWhole, if_pos digit, split_eq]
    exact zero

theorem isPlainWhole_of_readWhole {s digits rest : List Char}
    (h : readWhole s = .ok (digits, rest)) : s = digits ++ rest ∧ IsPlainWhole digits := by
  have zero : IsPlainWhole ['0'] := ⟨List.cons_ne_nil _ _, List.all_eq_true.mp rfl, fun _ => rfl⟩
  unfold readWhole at h
  split at h
  · cases h
  · split at h
    · split at h
      · cases h
      · cases h
        exact ⟨rfl, zero⟩
    · cases h
      exact ⟨rfl, zero⟩
  · next c t not_zero =>
    split at h
    · next digit =>
      obtain ⟨text_eq, are_digits⟩ := of_splitDigits_eq (Except.ok.inj h)
      obtain ⟨more, rfl⟩ := splitDigits_ne_nil digit (Except.ok.inj h)
      refine ⟨text_eq, List.cons_ne_nil _ _, are_digits, fun front => ?_⟩
      exact absurd (Option.some.inj front) not_zero
    · cases h

/-- A point with its digits is read if no more of them follow. -/
theorem readFraction_append {point rest : List Char} {fraction : Option (List Char)}
    (writes : WritesFraction point fraction) (some_digits : fraction ≠ some [])
    (ends : Ends isFractionChar rest) : readFraction (point ++ rest) = .ok (fraction, rest) := by
  cases writes with
  | none =>
    rw [List.nil_append]
    unfold readFraction
    split
    · exact absurd (ends '.' rfl) (by decide)
    · rfl
  | @point digits all =>
    have no_digit : Ends isAsciiDigit rest :=
      ends.mono fun c digit => by rw [isFractionChar, digit, Bool.true_or]
    rw [List.cons_append, readFraction, splitDigits_of_ends all no_digit]
    cases digits with
    | nil => exact absurd rfl some_digits
    | cons d digits => rfl

theorem exists_point {s rest : List Char} {fraction : Option (List Char)}
    (h : readFraction s = .ok (fraction, rest)) :
    ∃ point, s = point ++ rest ∧ WritesFraction point fraction ∧ fraction ≠ some [] := by
  unfold readFraction at h
  split at h
  · split at h
    · cases h
    · cases h
    · next _ digits after _ some_digits split_eq =>
      cases h
      obtain ⟨rfl, are_digits⟩ := of_splitDigits_eq split_eq
      exact ⟨'.' :: digits, rfl, .point are_digits, fun none => some_digits (Option.some.inj none)⟩
  · cases h
    exact ⟨[], rfl, .none, nofun⟩

theorem readPower_append {negative : Bool} {digits rest : List Char} (are_digits : AreDigits digits)
    (ends : Ends isAsciiDigit rest) :
    readPower negative (digits ++ rest) = .ok (some ⟨negative, digits⟩, rest) := by
  obtain ⟨c, more, rfl⟩ := List.exists_cons_of_ne_nil are_digits.ne_nil
  have split_eq := splitDigits_of_ends are_digits.digits ends
  rw [List.cons_append] at split_eq ⊢
  rw [readPower, if_pos (are_digits.digits c List.mem_cons_self), split_eq]

theorem exists_digits {negative : Bool} {s rest : List Char} {power : Option Exponent}
    (h : readPower negative s = .ok (power, rest)) :
    ∃ digits, s = digits ++ rest ∧ AreDigits digits ∧ power = some ⟨negative, digits⟩ := by
  unfold readPower at h
  split at h
  · cases h
  · next c t =>
    split at h
    · next digit =>
      cases split_eq : splitDigits (c :: t) with
      | mk digits after =>
      rw [split_eq] at h
      cases h
      obtain ⟨text_eq, are_digits⟩ := of_splitDigits_eq split_eq
      obtain ⟨more, rfl⟩ := splitDigits_ne_nil digit split_eq
      exact ⟨c :: more, text_eq, ⟨List.cons_ne_nil _ _, are_digits⟩, rfl⟩
    · cases h

/-- A power of ten is read if no more characters of numbers follow. -/
theorem readExponent_append {power rest : List Char} {exponent : Option Exponent}
    (writes : WritesPower power exponent) (ends : Ends isNumberChar rest) :
    readExponent (power ++ rest) = .ok (exponent, rest) := by
  cases writes with
  | none =>
    cases rest with
    | nil => rfl
    | cons c rest =>
      have no_letter : ¬ (c = 'e' ∨ c = 'E') := by
        rintro (rfl | rfl) <;> exact absurd (ends _ rfl) (by decide)
      rw [List.nil_append, readExponent, if_neg no_letter]
  | @power mark sign digits negative is_mark writes_sign are_digits =>
    have no_sign : Ends isSign (digits ++ rest) := by
      obtain ⟨d, more, rfl⟩ := List.exists_cons_of_ne_nil are_digits.ne_nil
      exact .cons (isSign_eq_false_of_digit (are_digits.digits d List.mem_cons_self)) _
    rw [List.cons_append, readExponent, if_pos is_mark, List.append_assoc,
      writes_sign.readSign_append no_sign]
    exact readPower_append are_digits (ends.mono fun _ => isNumberChar_of_isAsciiDigit)

theorem exists_power {s rest : List Char} {exponent : Option Exponent}
    (h : readExponent s = .ok (exponent, rest)) :
    ∃ power, s = power ++ rest ∧ WritesPower power exponent := by
  unfold readExponent at h
  split at h
  · split at h
    · next mark t is_mark =>
      cases sign_eq : readSign t with
      | mk negative after =>
      rw [sign_eq] at h
      obtain ⟨sign, rfl, writes_sign⟩ := exists_writesSign sign_eq
      obtain ⟨digits, rfl, are_digits, rfl⟩ := exists_digits h
      exact ⟨mark :: (sign ++ digits), by simp, .power is_mark writes_sign are_digits⟩
    · cases h
      exact ⟨[], rfl, .none⟩
  · cases h
    exact ⟨[], rfl, .none⟩

/-- **A number is read** off every text that begins with it, unless more characters of numbers
follow. -/
theorem WritesNumber.takes {n : List Char} {l : Literal} (h : WritesNumber n l) :
    readNumber.Takes (Ends isNumberChar) n l := by
  intro rest ends
  cases h with
  | @intro whole point power fraction exponent negative plain writes_point some_digits
      writes_power =>
    -- Each part ends where the next one begins.
    have no_fraction : Ends isFractionChar (power ++ rest) := writes_power.ends.append
      (ends.mono fun c fraction => by rw [isNumberChar, fraction, Bool.true_or])
    have no_digit : Ends isAsciiDigit (point ++ (power ++ rest)) := writes_point.ends
      (no_fraction.mono fun c digit => by rw [isFractionChar, digit, Bool.true_or])
    have no_sign : Ends isSign (whole ++ (point ++ (power ++ rest))) := by
      obtain ⟨d, more, rfl⟩ := List.exists_cons_of_ne_nil plain.ne_nil
      exact .cons (isSign_eq_false_of_digit (plain.digits d List.mem_cons_self)) _
    simp only [List.append_assoc]
    rw [readNumber, splitMinus_append no_sign]
    show (readWhole _ >>= fun r => _) = _
    rw [readWhole_append plain no_digit]
    show (readFraction _ >>= fun r => _) = _
    rw [readFraction_append writes_point some_digits no_fraction]
    show (readExponent _ >>= fun r => _) = _
    rw [readExponent_append writes_power ends]
    rfl

/-- **What is read as a number is one.** -/
theorem exists_writesNumber {s rest : List Char} {l : Literal} (h : readNumber s = .ok (l, rest)) :
    ∃ n, s = n ++ rest ∧ WritesNumber n l := by
  cases minus_eq : splitMinus s with
  | mk negative s₁ =>
  rw [readNumber, minus_eq] at h
  obtain ⟨⟨whole, s₂⟩, whole_eq, after_whole⟩ := bind_eq_ok.mp h
  obtain ⟨⟨fraction, s₃⟩, fraction_eq, after_fraction⟩ := bind_eq_ok.mp after_whole
  obtain ⟨⟨exponent, s₄⟩, exponent_eq, done⟩ := bind_eq_ok.mp after_fraction
  cases done
  obtain ⟨rfl, plain⟩ := isPlainWhole_of_readWhole whole_eq
  obtain ⟨point, rfl, writes_point, some_digits⟩ := exists_point fraction_eq
  obtain ⟨power, rfl, writes_power⟩ := exists_power exponent_eq
  refine ⟨_, ?_, .intro negative plain writes_point some_digits writes_power⟩
  simp [exists_minusChars minus_eq]

/-- A text that is read as a number from end to end is one. -/
theorem writesNumber_of_readNumber {n : List Char} {l : Literal}
    (h : readNumber n = .ok (l, [])) : WritesNumber n l := by
  obtain ⟨used, text_eq, writes⟩ := exists_writesNumber h
  rwa [text_eq, List.append_nil]

/-- Each character of a number is one that numbers are written with. -/
theorem WritesNumber.isNumberChar {n : List Char} {l : Literal} (h : WritesNumber n l) :
    ∀ c ∈ n, isNumberChar c = true := by
  cases h with
  | @intro whole point power fraction exponent negative plain writes_point _ writes_power =>
    simp only [List.forall_mem_append]
    refine ⟨?_, fun c mem => isNumberChar_of_isAsciiDigit (plain.digits c mem), ?_, ?_⟩
    · cases negative <;> simp [minusChars, Json.isNumberChar]
    · cases writes_point with
      | none => exact List.forall_mem_nil _
      | point digits =>
        refine List.forall_mem_cons.mpr ⟨rfl, fun c mem => ?_⟩
        exact isNumberChar_of_isAsciiDigit (digits c mem)
    · cases writes_power with
      | none => exact List.forall_mem_nil _
      | power is_mark writes_sign are_digits =>
        simp only [List.forall_mem_cons, List.forall_mem_append]
        refine ⟨?_, ?_, fun c mem => isNumberChar_of_isAsciiDigit (are_digits.digits c mem)⟩
        · rcases is_mark with rfl | rfl <;> rfl
        · cases writes_sign <;> simp [Json.isNumberChar]

theorem WritesNumber.ne_nil {n : List Char} {l : Literal} (h : WritesNumber n l) : n ≠ [] := by
  cases h with
  | intro negative plain _ _ _ =>
    exact List.append_ne_nil_of_right_ne_nil _ (List.append_ne_nil_of_left_ne_nil plain.ne_nil _)

/-- A number begins with a minus or a digit. -/
theorem WritesNumber.exists_head {n : List Char} {l : Literal} (h : WritesNumber n l) :
    ∃ c more, n = c :: more ∧ (c = '-' ∨ isAsciiDigit c = true) := by
  cases h with
  | @intro whole point power fraction exponent negative plain _ _ _ =>
    cases negative with
    | true => exact ⟨'-', _, rfl, .inl rfl⟩
    | false =>
      obtain ⟨d, more, rfl⟩ := List.exists_cons_of_ne_nil plain.ne_nil
      exact ⟨d, _, rfl, .inr (plain.digits d List.mem_cons_self)⟩

/-! ## The characters of a number -/

theorem IsNumber.isNumberChar {n : List Char} (h : IsNumber n) :
    ∀ c ∈ n, isNumberChar c = true := by
  obtain ⟨l, writes⟩ := h
  exact writes.isNumberChar

theorem isBlank_of_isNumberChar {c : Char} (h : Json.isNumberChar c = true) :
    isBlank c = false := by
  simp only [Json.isNumberChar, isFractionChar, Bool.or_eq_true, beq_iff_eq, decide_eq_true_eq,
    List.mem_cons, List.not_mem_nil, or_false] at h
  obtain (digit | rfl) | rfl | rfl | rfl | rfl := h
  · exact isBlank_eq_false_of_digit digit
  all_goals decide

/-- The characters of a number are no blank text, and there is nothing to trim. -/
theorem IsNumber.visible {n : List Char} (h : IsNumber n) :
    isBlankText (String.ofList n) = false ∧ trim (String.ofList n) = String.ofList n := by
  have no_blank : ∀ c ∈ n, isBlank c = false :=
    fun c mem => isBlank_of_isNumberChar (h.isNumberChar c mem)
  constructor
  · obtain ⟨l, writes⟩ := h
    obtain ⟨c, more, rfl, -⟩ := writes.exists_head
    simp [isBlankText, no_blank c List.mem_cons_self]
  · rw [trim, String.toList_ofList, trimChars_of_visible no_blank]

theorem WritesFraction.point_eq {point : List Char} {fraction : Option (List Char)}
    (writes : WritesFraction point fraction) : point = (fraction.map ('.' :: ·)).getD [] := by
  cases writes <;> rfl

theorem chars_eq_append (l : Literal) :
    l.chars = minusChars l.negative ++ (l.whole ++ ((l.fraction.map ('.' :: ·)).getD [] ++
      (l.exponent.map Exponent.chars).getD [])) := by
  obtain ⟨negative, whole, fraction, exponent⟩ := l
  cases fraction <;> cases exponent <;> simp [Literal.chars, minusChars]

end Intake.Json
