import Intake.Proofs.Text.Cutting
import Intake.Text.Utf8

/-!
# UTF-8 and line feeds

Reading UTF-8 accepts what writing gives and nothing else (`decode_eq_some_iff`), and the byte of a
line feed stands for a line feed only. So a stream may be cut at its line feeds before its bytes are
read: it is a text exactly when all its pieces are (`decode_isSome_iff_pieces`).
-/

namespace Intake.Text

/-! ## Only written texts are read -/

theorem byte_eq {n : Nat} {b : UInt8} (h : b.toNat = n) : byte n = b := by
  rw [byte, ← h, UInt8.ofNat_toNat]

theorem continuation?_eq_some {b : UInt8} {n : Nat} (h : continuation? b = some n) :
    n < 0x40 ∧ b.toNat = 0x80 + n := by
  unfold continuation? at h
  split at h
  · obtain rfl := Option.some.inj h
    omega
  · cases h

theorem charOfCode?_eq_some {n : Nat} {c : Char} (h : charOfCode? n = some c) : c.toNat = n := by
  unfold charOfCode? at h
  split at h
  · next valid =>
    obtain rfl := Option.some.inj h
    have : n.isValidChar := by unfold Nat.isValidChar; omega
    rw [Char.ofNat, dif_pos this]
    rfl
  · cases h

theorem wideChar?_eq_some {least n : Nat} {c : Char} (h : wideChar? least n = some c) :
    least ≤ n ∧ c.toNat = n := by
  unfold wideChar? at h
  split at h
  · cases h
  · exact ⟨by omega, charOfCode?_eq_some h⟩

theorem encode_cons (c : Char) (cs : List Char) : encode (c :: cs) = encodeChar c ++ encode cs := by
  rw [encode, List.flatMap_cons, ← encode]

theorem encodeChar_one {c : Char} {b : UInt8} (small : b.toNat < 0x80) (code : c.toNat = b.toNat) :
    encodeChar c = [b] := by
  rw [encodeChar, if_pos (by omega), byte_eq code.symm]

theorem encodeChar_two {c : Char} {b b1 : UInt8} {c1 : Nat} (least : 0x80 ≤ c.toNat)
    (lead : 0xC0 ≤ b.toNat ∧ b.toNat < 0xE0) (tail1 : c1 < 0x40 ∧ b1.toNat = 0x80 + c1)
    (code : c.toNat = (b.toNat - 0xC0) * 0x40 + c1) : encodeChar c = [b, b1] := by
  rw [encodeChar, if_neg (by omega), if_pos (by omega), byte_eq (b := b) (by omega),
    byte_eq (b := b1) (by omega)]

theorem encodeChar_three {c : Char} {b b1 b2 : UInt8} {c1 c2 : Nat} (least : 0x800 ≤ c.toNat)
    (lead : 0xE0 ≤ b.toNat ∧ b.toNat < 0xF0) (tail1 : c1 < 0x40 ∧ b1.toNat = 0x80 + c1)
    (tail2 : c2 < 0x40 ∧ b2.toNat = 0x80 + c2)
    (code : c.toNat = (b.toNat - 0xE0) * 0x1000 + c1 * 0x40 + c2) :
    encodeChar c = [b, b1, b2] := by
  rw [encodeChar, if_neg (by omega), if_neg (by omega), if_pos (by omega),
    byte_eq (b := b) (by omega), byte_eq (b := b1) (by omega), byte_eq (b := b2) (by omega)]

theorem encodeChar_four {c : Char} {b b1 b2 b3 : UInt8} {c1 c2 c3 : Nat}
    (least : 0x10000 ≤ c.toNat) (lead : 0xF0 ≤ b.toNat)
    (tail1 : c1 < 0x40 ∧ b1.toNat = 0x80 + c1) (tail2 : c2 < 0x40 ∧ b2.toNat = 0x80 + c2)
    (tail3 : c3 < 0x40 ∧ b3.toNat = 0x80 + c3)
    (code : c.toNat = (b.toNat - 0xF0) * 0x40000 + c1 * 0x1000 + c2 * 0x40 + c3) :
    encodeChar c = [b, b1, b2, b3] := by
  rw [encodeChar, if_neg (by omega), if_neg (by omega), if_neg (by omega),
    byte_eq (b := b) (by omega), byte_eq (b := b1) (by omega), byte_eq (b := b2) (by omega),
    byte_eq (b := b3) (by omega)]

/-- A character that is read before a text stands at its start. -/
theorem decode_cons_inv {c? : Option Char} {rest : List UInt8} {cs : List Char}
    (h : (do return (← c?) :: (← decode rest)) = some cs) :
    ∃ c tail, c? = some c ∧ decode rest = some tail ∧ cs = c :: tail := by
  cases c? with
  | none => cases h
  | some c =>
    cases tail_eq : decode rest with
    | none => rw [tail_eq] at h; cases h
    | some tail =>
      rw [tail_eq] at h
      exact ⟨c, tail, rfl, rfl, (Option.some.inj h).symm⟩

/-- **What is read was written.** -/
theorem encode_of_decode {bytes : List UInt8} {cs : List Char} (h : decode bytes = some cs) :
    encode cs = bytes := by
  fun_induction decode bytes generalizing cs with
  | case1 => obtain rfl := Option.some.inj h; rfl
  | case2 b rest lead small =>
    rename_i ih
    have h : (do return (← some (Char.ofNat b.toNat)) :: (← decode rest)) = some cs := h
    obtain ⟨c, tail, found, rest_eq, rfl⟩ := decode_cons_inv h
    have code : c.toNat = b.toNat := by
      obtain rfl := Option.some.inj found
      exact charOfCode?_eq_some (by rw [charOfCode?, if_pos (by omega)])
    rw [encode_cons, ih rest_eq, encodeChar_one small code]
    rfl
  | case6 b lead h1 h2 b1 rest c1 tail1 h3 =>
    rename_i ih
    obtain ⟨c, tail, found, rest_eq, rfl⟩ := decode_cons_inv h
    obtain ⟨least, code⟩ := wideChar?_eq_some found
    rw [encode_cons, ih rest_eq,
      encodeChar_two (by omega) ⟨by omega, h3⟩ (continuation?_eq_some tail1) code]
    rfl
  | case9 b lead h1 h2 b1 c1 tail1 h3 b2 rest c2 tail2 h4 =>
    rename_i ih
    obtain ⟨c, tail, found, rest_eq, rfl⟩ := decode_cons_inv h
    obtain ⟨least, code⟩ := wideChar?_eq_some found
    rw [encode_cons, ih rest_eq,
      encodeChar_three (by omega) ⟨by omega, h4⟩ (continuation?_eq_some tail1)
        (continuation?_eq_some tail2) code]
    rfl
  | case12 b lead h1 h2 b1 c1 tail1 h3 b2 c2 tail2 h4 b3 rest c3 tail3 =>
    rename_i ih
    obtain ⟨c, tail, found, rest_eq, rfl⟩ := decode_cons_inv h
    obtain ⟨least, code⟩ := wideChar?_eq_some found
    rw [encode_cons, ih rest_eq,
      encodeChar_four (by omega) (by omega) (continuation?_eq_some tail1)
        (continuation?_eq_some tail2) (continuation?_eq_some tail3) code]
    rfl
  | _ => cases h

/-- **Bytes are read as a text exactly if they are its encoding.** -/
theorem decode_eq_some_iff {bytes : List UInt8} {cs : List Char} :
    decode bytes = some cs ↔ encode cs = bytes :=
  ⟨encode_of_decode, fun h => h ▸ decode_encode cs⟩

/-! ## Cutting at line feeds -/

/-- **A character is one byte below `0x80`, or has no such byte.** -/
theorem encodeChar_cases (c : Char) :
    (c.toNat < 0x80 ∧ encodeChar c = [byte c.toNat]) ∨
      (0x80 ≤ c.toNat ∧ encodeChar c ≠ [] ∧ ∀ b ∈ encodeChar c, 0x80 ≤ b.toNat) := by
  have bound : c.toNat < 0x110000 := by
    have : c.toNat < 0xD800 ∨ 0xDFFF < c.toNat ∧ c.toNat < 0x110000 := c.valid
    omega
  have high : ∀ n, 0x80 ≤ n → n < 0x100 → 0x80 ≤ (byte n).toNat := by
    intro n h h'
    rwa [byte_toNat h']
  by_cases one : c.toNat < 0x80
  · exact Or.inl ⟨one, by rw [encodeChar, if_pos one]⟩
  · refine Or.inr ⟨by omega, ?_⟩
    by_cases two : c.toNat < 0x800
    · rw [encodeChar, if_neg one, if_pos two]
      simp only [ne_eq, reduceCtorEq, not_false_eq_true, List.forall_mem_cons, true_and]
      exact ⟨high _ (by omega) (by omega), high _ (by omega) (by omega), by simp⟩
    · by_cases three : c.toNat < 0x10000
      · rw [encodeChar, if_neg one, if_neg two, if_pos three]
        simp only [ne_eq, reduceCtorEq, not_false_eq_true, List.forall_mem_cons, true_and]
        exact ⟨high _ (by omega) (by omega), high _ (by omega) (by omega),
          high _ (by omega) (by omega), by simp⟩
      · rw [encodeChar, if_neg one, if_neg two, if_neg three]
        simp only [ne_eq, reduceCtorEq, not_false_eq_true, List.forall_mem_cons, true_and]
        exact ⟨high _ (by omega) (by omega), high _ (by omega) (by omega),
          high _ (by omega) (by omega), high _ (by omega) (by omega), by simp⟩

/-- The byte of a line feed stands for a line feed only. -/
theorem ten_mem_encodeChar_iff (c : Char) : (10 : UInt8) ∈ encodeChar c ↔ c = '\n' := by
  constructor
  · intro member
    rcases encodeChar_cases c with ⟨small, bytes_eq⟩ | ⟨-, -, high⟩
    · rw [bytes_eq, List.mem_singleton] at member
      have code : c.toNat = 10 := by rw [← byte_toNat (n := c.toNat) (by omega), ← member]; rfl
      rw [← Char.ofNat_toNat c, code]
    · exact absurd (high 10 member) (by decide)
  · rintro rfl
    decide

theorem ten_not_mem_encode {cs : List Char} (h : '\n' ∉ cs) : 10 ∉ encode cs := by
  intro mem
  obtain ⟨c, c_mem, ten⟩ := List.mem_flatMap.mp mem
  exact h ((ten_mem_encodeChar_iff c).mp ten ▸ c_mem)

/-- If the bytes of a character end with one below `0x80`, they are that byte. -/
theorem encodeChar_of_append {c : Char} {before : List UInt8} {last : UInt8}
    (bytes_eq : encodeChar c = before ++ [last]) (small : last.toNat < 0x80) : before = [] := by
  rcases encodeChar_cases c with ⟨-, one⟩ | ⟨-, -, high⟩
  · rw [one, ← List.nil_append [byte c.toNat]] at bytes_eq
    exact (List.append_inj' bytes_eq rfl).1.symm
  · have := high last (by rw [bytes_eq]; simp)
    omega

/-- **Cutting and writing commute**: the pieces of the bytes are the bytes of the pieces. -/
theorem splitAtEach_encode (cs : List Char) :
    splitAtEach (· == 10) (encode cs) = (splitAtEach (· == '\n') cs).map encode := by
  induction cs with
  | nil => rfl
  | cons c rest ih =>
    cases pieces_eq : splitAtEach (· == '\n') rest with
    | nil => exact absurd pieces_eq (splitAtEach_ne_nil _ _)
    | cons piece pieces =>
      rw [pieces_eq, List.map_cons] at ih
      rw [encode_cons, splitAtEach, pieces_eq]
      by_cases newline : c = '\n'
      · subst newline
        rw [show encodeChar '\n' = [10] from rfl, List.singleton_append, splitAtEach,
          if_pos (by rfl), if_pos (by rfl), ih]
        rfl
      · have uncut : ∀ b ∈ encodeChar c, (b == 10) = false := by
          intro b member
          refine beq_eq_false_iff_ne.mpr fun ten => newline ?_
          exact (ten_mem_encodeChar_iff c).mp (ten ▸ member)
        rw [splitAtEach_append uncut, ih, foldr_consPiece, if_neg (by simp [newline]), consPiece,
          List.map_cons, encode_cons]

/-! ## Texts piece by piece -/

theorem decode_isSome_iff {bytes : List UInt8} :
    (decode bytes).isSome = true ↔ ∃ cs, encode cs = bytes := by
  rw [Option.isSome_iff_exists]
  exact exists_congr fun cs => decode_eq_some_iff

/-- A byte below `0x80` at the end is a character of its own. -/
theorem decode_isSome_append_singleton {bytes : List UInt8} {b : UInt8} (small : b.toNat < 0x80) :
    (decode (bytes ++ [b])).isSome = (decode bytes).isSome := by
  rw [Bool.eq_iff_iff, decode_isSome_iff, decode_isSome_iff]
  constructor
  · rintro ⟨cs, whole⟩
    rcases List.eq_nil_or_concat cs with rfl | ⟨before, c, rfl⟩
    · exact absurd whole (by simp [encode])
    · have some_bytes : encodeChar c ≠ [] := by
        rcases encodeChar_cases c with ⟨-, one⟩ | ⟨-, some_bytes, -⟩
        · simp [one]
        · exact some_bytes
      obtain ⟨head, last, bytes_eq⟩ := List.eq_nil_or_concat (encodeChar c) |>.resolve_left some_bytes
      rw [List.concat_eq_append] at bytes_eq
      rw [List.concat_eq_append, encode_append, encode_cons, bytes_eq, show encode [] = [] from rfl,
        List.append_nil, ← List.append_assoc] at whole
      obtain ⟨init_eq, last_eq⟩ := List.append_inj' whole rfl
      obtain rfl : last = b := List.singleton_inj.mp last_eq
      rw [encodeChar_of_append bytes_eq small, List.append_nil] at init_eq
      exact ⟨before, init_eq⟩
  · rintro ⟨cs, rfl⟩
    have code : (Char.ofNat b.toNat).toNat = b.toNat :=
      charOfCode?_eq_some (by rw [charOfCode?, if_pos (by omega)])
    refine ⟨cs ++ [Char.ofNat b.toNat], ?_⟩
    rw [encode_append, encode_cons, encodeChar_one small code]
    rfl

/-- Texts with line feeds between them are a text. -/
theorem decode_isSome_intercalate {pieces : List (List UInt8)}
    (texts : ∀ piece ∈ pieces, (decode piece).isSome = true) :
    (decode ([10].intercalate pieces)).isSome = true := by
  induction pieces with
  | nil => rfl
  | cons piece rest ih =>
    have first := texts piece (List.mem_cons_self ..)
    have others := ih fun p member => texts p (List.mem_cons_of_mem _ member)
    cases rest with
    | nil => simpa using first
    | cons second rest =>
      obtain ⟨cs, rfl⟩ := decode_isSome_iff.mp first
      obtain ⟨ds, tail⟩ := decode_isSome_iff.mp others
      rw [List.intercalate_cons_cons, ← tail, decode_isSome_iff]
      exact ⟨cs ++ ['\n'] ++ ds, by rw [encode_append, encode_append]; rfl⟩

/-- **A stream is a text exactly if all its pieces are.** -/
theorem decode_isSome_iff_pieces (bytes : List UInt8) :
    (decode bytes).isSome = true ↔
      ∀ piece ∈ splitAtEach (· == 10) bytes, (decode piece).isSome = true := by
  constructor
  · intro whole piece member
    obtain ⟨cs, rfl⟩ := decode_isSome_iff.mp whole
    rw [splitAtEach_encode] at member
    obtain ⟨part, -, rfl⟩ := List.mem_map.mp member
    rw [decode_encode]
    rfl
  · intro texts
    rw [← intercalate_splitAtEach 10 bytes]
    exact decode_isSome_intercalate texts

end Intake.Text
