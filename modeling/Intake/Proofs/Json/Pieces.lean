import Intake.Except
import Intake.Proofs.Json.Follow

/-!
# What words and strings depend on

What is taken off the front of a text is the same whatever follows it: a word or a string says by
itself where it ends. Each lemma gives the characters that were taken, and the reader takes the same
off every text that begins with them (`readString_local`).
-/

namespace Intake.Json

open Intake.Text

theorem readWord_append (word rest : List Char) : readWord word (word ++ rest) = .ok rest := by
  induction word with
  | nil => rfl
  | cons letter word ih => rw [List.cons_append, readWord, if_pos rfl, ih]

theorem readWord_local {word s rest : List Char} (h : readWord word s = .ok rest) :
    s = word ++ rest := by
  induction word generalizing s with
  | nil =>
    cases h
    rfl
  | cons letter word ih =>
    cases s with
    | nil => cases h
    | cons c s =>
      rw [readWord] at h
      split at h
      · next same => rw [same, ih h, List.cons_append]
      · cases h

theorem hexValue?_eq_some {c : Char} {n : Nat} (h : hexValue? c = some n) : c ≠ '"' ∧ c ≠ '\\' := by
  constructor <;>
  · rintro rfl
    cases h

theorem readHex4_local {s rest : List Char} {n : Nat} (h : readHex4 s = .ok (n, rest)) :
    ∃ used, s = used ++ rest ∧ Quiet used ∧
      Reader.Takes readHex4 (fun _ => True) used n := by
  unfold readHex4 at h
  split at h
  · cases h
  · next enough =>
    split at h
    · next a b c d rest' =>
      split at h
      · next n' value_eq =>
        cases h
        obtain ⟨va, a_eq, value⟩ := Option.bind_eq_some_iff.mp value_eq
        obtain ⟨vb, b_eq, value⟩ := Option.bind_eq_some_iff.mp value
        obtain ⟨vc, c_eq, value⟩ := Option.bind_eq_some_iff.mp value
        obtain ⟨vd, d_eq, -⟩ := Option.bind_eq_some_iff.mp value
        obtain ⟨qa, ba⟩ := hexValue?_eq_some a_eq
        obtain ⟨qb, bb⟩ := hexValue?_eq_some b_eq
        obtain ⟨qc, bc⟩ := hexValue?_eq_some c_eq
        obtain ⟨qd, bd⟩ := hexValue?_eq_some d_eq
        refine ⟨[a, b, c, d], rfl, .cons qa ba <| .cons qb bb <| .cons qc bc <| .cons qd bd .nil,
          fun rest _ => ?_⟩
        show readHex4 (a :: b :: c :: d :: rest) = _
        have enough : ¬ byteSize (List.take 4 (a :: b :: c :: d :: rest)) < 4 := enough
        rw [readHex4, if_neg enough]
        simp only [value_eq]
      · cases h
    · cases h

theorem readTrailing_local {leading : Nat} {s rest : List Char} {c : Char}
    (h : readTrailing leading s = .ok (c, rest)) :
    ∃ used, s = used ++ rest ∧ Quiet used ∧
      Reader.Takes (readTrailing leading) (fun _ => True) used c := by
  unfold readTrailing at h
  split at h
  · cases h
  · cases h
  · obtain ⟨⟨n, rest'⟩, hex_eq, h⟩ := bind_eq_ok.mp h
    dsimp only at h
    split at h
    · next trailing =>
      obtain ⟨rfl, rfl⟩ := Prod.mk.inj (Except.ok.inj h)
      obtain ⟨used, rfl, quiet, again⟩ := readHex4_local hex_eq
      refine ⟨'\\' :: 'u' :: used, rfl, .escaped 'u' quiet, fun rest _ => ?_⟩
      rw [List.cons_append, List.cons_append, readTrailing, again rest trivial]
      show (if isTrailing n then _ else _) = _
      rw [if_pos trailing]
    · cases h
  · cases h
  · cases h

theorem readCodeEscape_local {s rest : List Char} {c : Char}
    (h : readCodeEscape s = .ok (c, rest)) :
    ∃ used, s = used ++ rest ∧ Quiet used ∧
      Reader.Takes readCodeEscape (fun _ => True) used c := by
  obtain ⟨⟨n, rest'⟩, hex_eq, read_eq⟩ := bind_eq_ok.mp h
  obtain ⟨used, rfl, quiet, again⟩ := readHex4_local hex_eq
  dsimp only at read_eq
  split at read_eq
  · cases read_eq
  · next not_trailing =>
    split at read_eq
    · next leading =>
      obtain ⟨more, rfl, more_quiet, more_again⟩ := readTrailing_local read_eq
      refine ⟨used ++ more, by simp, quiet.append more_quiet, fun rest _ => ?_⟩
      rw [List.append_assoc, readCodeEscape, again _ trivial]
      show (if isTrailing n then _ else if isLeading n then _ else _) = _
      rw [if_neg not_trailing, if_pos leading, more_again rest trivial]
    · next not_leading =>
      obtain ⟨rfl, rfl⟩ := Prod.mk.inj (Except.ok.inj read_eq)
      refine ⟨used, rfl, quiet, fun rest _ => ?_⟩
      rw [readCodeEscape, again rest trivial]
      show (if isTrailing n then _ else if isLeading n then _ else _) = _
      rw [if_neg not_trailing, if_neg not_leading]

theorem readEscape_local {s rest : List Char} {c : Char} (h : readEscape s = .ok (c, rest)) :
    ∃ used, s = used ++ rest ∧ Quiet ('\\' :: used) ∧
      Reader.Takes readEscape (fun _ => True) used c := by
  unfold readEscape at h
  split at h
  case h_10 s' =>
    obtain ⟨used, rfl, quiet, again⟩ := readCodeEscape_local h
    exact ⟨'u' :: used, rfl, .escaped 'u' quiet, fun rest _ => again rest trivial⟩
  case h_1 => cases h
  case h_11 => cases h
  all_goals
    cases h
    exact ⟨[_], rfl, .escaped _ .nil, fun rest _ => rfl⟩

/-- The characters of a string are read off again from as many characters. -/
theorem readChars_local {fuel : Nat} {s cs rest : List Char}
    (h : readChars fuel s = .ok (cs, rest)) :
    ∃ used, s = used ++ '"' :: rest ∧ Quiet used ∧ ∀ fuel, used.length < fuel → ∀ rest,
      readChars fuel (used ++ '"' :: rest) = .ok (cs, rest) := by
  induction fuel generalizing s cs rest with
  | zero => cases h
  | succ fuel ih =>
    cases s with
    | nil => cases h
    | cons c s =>
      rw [readChars] at h
      split at h
      · next quote =>
        cases h
        refine ⟨[], by rw [quote, List.nil_append], .nil, fun fuel enough rest => ?_⟩
        obtain ⟨fuel, rfl⟩ := Nat.exists_eq_add_one_of_ne_zero (Nat.ne_zero_of_lt enough)
        rfl
      split at h
      · next not_quote backslash =>
        obtain ⟨⟨e, s₁⟩, escape_eq, h⟩ := bind_eq_ok.mp h
        obtain ⟨⟨es, s₂⟩, chars_eq, h⟩ := bind_eq_ok.mp h
        cases h
        obtain ⟨escape, rfl, escape_quiet, escape_again⟩ := readEscape_local escape_eq
        obtain ⟨used, rfl, quiet, again⟩ := ih chars_eq
        refine ⟨'\\' :: escape ++ used, by rw [backslash]; simp, escape_quiet.append quiet,
          fun fuel enough rest => ?_⟩
        rw [List.length_append, List.length_cons] at enough
        obtain ⟨fuel, rfl⟩ := Nat.exists_eq_add_one_of_ne_zero (Nat.ne_zero_of_lt enough)
        rw [List.append_assoc, List.cons_append, readChars, if_neg (by decide), if_pos rfl,
          escape_again _ trivial]
        show (readChars fuel (used ++ '"' :: rest) >>= fun r => _) = _
        rw [again fuel (by omega)]
        rfl
      split at h
      · cases h
      · next not_quote not_backslash visible =>
        obtain ⟨⟨es, s₁⟩, chars_eq, h⟩ := bind_eq_ok.mp h
        cases h
        obtain ⟨used, rfl, quiet, again⟩ := ih chars_eq
        refine ⟨c :: used, rfl, .cons not_quote not_backslash quiet, fun fuel enough rest => ?_⟩
        obtain ⟨fuel, rfl⟩ := Nat.exists_eq_add_one_of_ne_zero (Nat.ne_zero_of_lt enough)
        rw [List.cons_append, readChars, if_neg not_quote, if_neg not_backslash, if_neg visible,
          again fuel (Nat.lt_of_succ_lt_succ enough)]
        rfl

/-- **A string is read off again** from its characters and closing quote. -/
theorem readString_local {s rest : List Char} {text : String}
    (h : readString s = .ok (text, rest)) :
    ∃ used, s = used ++ '"' :: rest ∧ Quiet used ∧ ∀ rest,
      readString (used ++ '"' :: rest) = .ok (text, rest) := by
  obtain ⟨⟨cs, s₁⟩, chars_eq, h⟩ := bind_eq_ok.mp h
  cases h
  obtain ⟨used, rfl, quiet, again⟩ := readChars_local chars_eq
  refine ⟨used, rfl, quiet, fun rest => ?_⟩
  have enough : used.length < (used ++ '"' :: rest).length + 1 := by
    rw [List.length_append]
    omega
  rw [readString, again _ enough]
  rfl

end Intake.Json
