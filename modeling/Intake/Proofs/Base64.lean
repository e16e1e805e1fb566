import Intake.Base64
import Intake.Except

/-!
# Base64 has one writing

Reading takes the writing of some bytes and nothing else (`decode_eq_ok_iff`): whatever is read is
written again as it was, padding and unused bits included. So the text says which bytes are meant,
and the bytes say which text.
-/

namespace Intake.Base64

/-! ## Symbols -/

/-- A symbol is the one of its value. -/
theorem value?_eq_some {b : UInt8} {v : Nat} (h : value? b = some v) : v < 64 ∧ symbol v = b := by
  have all : ∀ n < 256, ∀ w ∈ value? (UInt8.ofNat n), w < 64 ∧ symbol w = UInt8.ofNat n := by
    decide +kernel
  have found := all b.toNat b.toNat_lt v (by rw [UInt8.ofNat_toNat]; exact h)
  rwa [UInt8.ofNat_toNat] at found

theorem value?_symbol {v : Nat} (h : v < 64) : value? (symbol v) = some v := by
  have all : ∀ w < 64, value? (symbol w) = some w := by decide +kernel
  exact all v h

theorem symbol_ne_pad {v : Nat} (h : v < 64) : symbol v ≠ pad := by
  have all : ∀ w < 64, symbol w ≠ pad := by decide +kernel
  exact all v h

theorem valueAt_symbol {v : Nat} (offset : Nat) (h : v < 64) :
    valueAt offset (symbol v) = .ok v := by
  rw [valueAt, value?_symbol h]

theorem valueAt_eq_ok {offset v : Nat} {b : UInt8} (h : valueAt offset b = .ok v) :
    v < 64 ∧ symbol v = b := by
  unfold valueAt at h
  split at h
  · next found =>
    cases h
    exact value?_eq_some found
  · cases h

/-- Symbols that are read are those of their values. -/
theorem valuesFrom_eq_ok {offset : Nat} {symbols : List UInt8} {values : List Nat}
    (h : valuesFrom offset symbols = .ok values) :
    (∀ v ∈ values, v < 64) ∧ values.map symbol = symbols := by
  induction symbols generalizing offset values with
  | nil =>
    cases h
    exact ⟨by simp, rfl⟩
  | cons b rest ih =>
    rw [valuesFrom] at h
    obtain ⟨v, first, h⟩ := bind_eq_ok.mp h
    obtain ⟨vs, others, h⟩ := bind_eq_ok.mp h
    cases h
    obtain ⟨small, symbol_eq⟩ := valueAt_eq_ok first
    obtain ⟨rest_small, rest_eq⟩ := ih others
    exact ⟨List.forall_mem_cons.mpr ⟨small, rest_small⟩, by rw [List.map_cons, symbol_eq, rest_eq]⟩

/-! ## Groups -/

/-- The number of a byte that was put together from a number below 256. -/
theorem toNat_ofNat {n : Nat} (h : n < 256) : (UInt8.ofNat n).toNat = n := by
  rw [UInt8.toNat_ofNat', Nat.mod_eq_of_lt h]

theorem firstByte_toNat {v0 v1 : Nat} (h0 : v0 < 64) (h1 : v1 < 64) :
    (firstByte v0 v1).toNat = v0 * 4 + v1 / 16 := toNat_ofNat (by omega)

theorem secondByte_toNat {v1 v2 : Nat} (h2 : v2 < 64) :
    (secondByte v1 v2).toNat = v1 % 16 * 16 + v2 / 4 := toNat_ofNat (by omega)

theorem thirdByte_toNat {v2 v3 : Nat} (h3 : v3 < 64) :
    (thirdByte v2 v3).toNat = v2 % 4 * 64 + v3 := toNat_ofNat (by omega)

/-- The values of a whole group's symbols are put together to its bytes again. -/
theorem bytes_of_values (a b c : UInt8) :
    firstByte (a.toNat / 4) (a.toNat % 4 * 16 + b.toNat / 16) = a ∧
      secondByte (a.toNat % 4 * 16 + b.toNat / 16) (b.toNat % 16 * 4 + c.toNat / 64) = b ∧
      thirdByte (b.toNat % 16 * 4 + c.toNat / 64) (c.toNat % 64) = c := by
  have ha := a.toNat_lt
  have hb := b.toNat_lt
  have hc := c.toNat_lt
  refine ⟨UInt8.toNat_inj.mp ?_, UInt8.toNat_inj.mp ?_, UInt8.toNat_inj.mp ?_⟩
  · rw [firstByte_toNat (by omega) (by omega)]
    omega
  · rw [secondByte_toNat (by omega)]
    omega
  · rw [thirdByte_toNat (by omega)]
    omega

/-- The bytes of a whole group are written with its symbols. -/
theorem encode_group {v0 v1 v2 v3 : Nat} (h0 : v0 < 64) (h1 : v1 < 64) (h2 : v2 < 64)
    (h3 : v3 < 64) (rest : List UInt8) :
    encode (firstByte v0 v1 :: secondByte v1 v2 :: thirdByte v2 v3 :: rest) =
      symbol v0 :: symbol v1 :: symbol v2 :: symbol v3 :: encode rest := by
  rw [encode, firstByte_toNat h0 h1, secondByte_toNat h2, thirdByte_toNat h3]
  have e0 : (v0 * 4 + v1 / 16) / 4 = v0 := by omega
  have e1 : (v0 * 4 + v1 / 16) % 4 * 16 + (v1 % 16 * 16 + v2 / 4) / 16 = v1 := by omega
  have e2 : (v1 % 16 * 16 + v2 / 4) % 16 * 4 + (v2 % 4 * 64 + v3) / 64 = v2 := by omega
  have e3 : (v2 % 4 * 64 + v3) % 64 = v3 := by omega
  rw [e0, e1, e2, e3]

/-- The last group is filled up with padding to four. -/
def paddedGroup (values : List Nat) : List UInt8 :=
  values.map symbol ++ List.replicate (4 - values.length) pad

/-- **What the last group gives is written with it.** -/
theorem encode_lastBytes {offset : Nat} {last : UInt8} {values : List Nat} {bytes : List UInt8}
    (small : ∀ v ∈ values, v < 64) (h : lastBytes offset last values = .ok bytes) :
    encode bytes = paddedGroup values := by
  unfold lastBytes at h
  split at h
  · next v0 v1 =>
    split at h
    · next unused =>
      cases h
      obtain ⟨h0, h1, -⟩ : v0 < 64 ∧ v1 < 64 ∧ True := by simpa using small
      have e0 : (v0 * 4 + v1 / 16) / 4 = v0 := by omega
      have e1 : (v0 * 4 + v1 / 16) % 4 * 16 = v1 := by omega
      rw [encode, firstByte_toNat h0 h1, e0, e1]
      rfl
    · cases h
  · next v0 v1 v2 =>
    split at h
    · next unused =>
      cases h
      obtain ⟨h0, h1, h2, -⟩ : v0 < 64 ∧ v1 < 64 ∧ v2 < 64 ∧ True := by simpa using small
      have e0 : (v0 * 4 + v1 / 16) / 4 = v0 := by omega
      have e1 : (v0 * 4 + v1 / 16) % 4 * 16 + (v1 % 16 * 16 + v2 / 4) / 16 = v1 := by omega
      have e2 : (v1 % 16 * 16 + v2 / 4) % 16 * 4 = v2 := by omega
      rw [encode, firstByte_toNat h0 h1, secondByte_toNat h2, e0, e1, e2]
      rfl
    · cases h
  · next v0 v1 v2 v3 =>
    cases h
    obtain ⟨h0, h1, h2, h3, -⟩ : v0 < 64 ∧ v1 < 64 ∧ v2 < 64 ∧ v3 < 64 ∧ True := by
      simpa using small
    exact encode_group h0 h1 h2 h3 []
  · cases h

/-! ## The last group -/

/-- Symbols without padding among them are taken whole, and what follows them is left. -/
theorem span_symbols {values : List Nat} (small : ∀ v ∈ values, v < 64) (count : Nat) :
    (values.map symbol ++ List.replicate count pad).takeWhile (· != pad) = values.map symbol ∧
      (values.map symbol ++ List.replicate count pad).dropWhile (· != pad) =
        List.replicate count pad := by
  have no_pad : ∀ b ∈ values.map symbol, (b != pad) = true := by
    intro b mem
    obtain ⟨v, v_mem, rfl⟩ := List.mem_map.mp mem
    exact bne_iff_ne.mpr (symbol_ne_pad (small v v_mem))
  have stop (k : Nat) : (List.replicate k pad).takeWhile (· != pad) = [] ∧
      (List.replicate k pad).dropWhile (· != pad) = List.replicate k pad := by
    cases k <;> simp [List.replicate_succ]
  rw [List.takeWhile_append_of_pos no_pad, List.dropWhile_append_of_pos no_pad, (stop count).1,
    (stop count).2, List.append_nil]
  exact ⟨rfl, rfl⟩

theorem valuesFrom_map_symbol {values : List Nat} (small : ∀ v ∈ values, v < 64) (offset : Nat) :
    valuesFrom offset (values.map symbol) = .ok values := by
  induction values generalizing offset with
  | nil => rfl
  | cons v rest ih =>
    obtain ⟨v_small, rest_small⟩ := List.forall_mem_cons.mp small
    rw [List.map_cons, valuesFrom, valueAt_symbol offset v_small]
    show (valuesFrom (offset + 1) (rest.map symbol) >>= fun vs => _) = _
    rw [ih rest_small]
    rfl

/-- **A padded group is read as its values say**, if there are at least two of them. -/
theorem decodeLast_paddedGroup {values : List Nat} (small : ∀ v ∈ values, v < 64)
    (least : 2 ≤ values.length) (most : values.length ≤ 4) (offset : Nat) :
    decodeLast offset (paddedGroup values) =
      lastBytes offset ((values.map symbol).getLastD 0) values := by
  obtain ⟨symbols_eq, padding_eq⟩ := span_symbols small (4 - values.length)
  have no_fault : ¬ (List.replicate (4 - values.length) pad ≠ [] ∧
      ((values.map symbol).length < 2 ∨
        (List.replicate (4 - values.length) pad).any (· != pad))) := by
    rw [List.length_map]
    rintro ⟨-, short | other⟩
    · omega
    · simp at other
  have long : ¬ (values.map symbol).length < 2 := by
    rw [List.length_map]
    omega
  have whole : ¬ ((values.map symbol).length + (List.replicate (4 - values.length) pad).length) % 4
      ≠ 0 := by
    rw [List.length_map, List.length_replicate]
    omega
  rw [decodeLast, paddedGroup, symbols_eq, padding_eq, valuesFrom_map_symbol small]
  simp only [bind, Except.bind, throw, throwThe, MonadExceptOf.throw, if_neg no_fault, if_neg long,
    if_neg whole]

/-- **A group that is read is padded** to four symbols, of which at least two have a value. -/
theorem decodeLast_eq_ok {offset : Nat} {group bytes : List UInt8} (most : group.length ≤ 4)
    (h : decodeLast offset group = .ok bytes) : encode bytes = group := by
  have parts : group.takeWhile (· != pad) ++ group.dropWhile (· != pad) = group :=
    List.takeWhile_append_dropWhile
  rw [decodeLast] at h
  simp only [bind, Except.bind, throw, throwThe, MonadExceptOf.throw] at h
  generalize group.takeWhile (· != pad) = symbols at h parts
  generalize group.dropWhile (· != pad) = padding at h parts
  split at h
  · cases h
  rename_i values values_eq
  split at h
  · cases h
  rename_i in_place
  split at h
  · cases h
  rename_i long
  split at h
  · cases h
  rename_i whole
  obtain ⟨small, symbols_eq⟩ := valuesFrom_eq_ok values_eq
  have only_pads : ∀ b ∈ padding, b = pad := by
    intro b mem
    have quiet : ¬ padding.any (· != pad) = true := fun other =>
      in_place ⟨List.ne_nil_of_mem mem, .inr other⟩
    simpa using fun differs => quiet (List.any_eq_true.mpr ⟨b, mem, differs⟩)
  have total : symbols.length + padding.length = group.length := by
    rw [← parts, List.length_append]
  have length_eq : symbols.length = values.length := by rw [← symbols_eq, List.length_map]
  have padding_eq : padding = List.replicate (4 - values.length) pad :=
    List.eq_replicate_iff.mpr ⟨by omega, only_pads⟩
  rw [encode_lastBytes small h, paddedGroup, symbols_eq, ← padding_eq, parts]

/-! ## Whole texts -/

/-- **What is written is read back**, wherever it stands. -/
theorem decodeFrom_encode (offset : Nat) (bytes : List UInt8) :
    decodeFrom offset (encode bytes) = .ok bytes := by
  induction bytes using encode.induct generalizing offset with
  | case1 => rfl
  | case2 a =>
    have ha := a.toNat_lt
    have small : ∀ v ∈ [a.toNat / 4, a.toNat % 4 * 16], v < 64 := by simp; omega
    have a_eq := (bytes_of_values a 0 0).1
    show decodeLast offset (paddedGroup [a.toNat / 4, a.toNat % 4 * 16]) = .ok [a]
    rw [decodeLast_paddedGroup small (Nat.le_refl 2) (by simp), lastBytes, if_pos (by omega)]
    exact congrArg (fun byte => Except.ok [byte]) a_eq
  | case3 a b =>
    have ha := a.toNat_lt
    have hb := b.toNat_lt
    have small : ∀ v ∈ [a.toNat / 4, a.toNat % 4 * 16 + b.toNat / 16, b.toNat % 16 * 4],
        v < 64 := by
      simp; omega
    obtain ⟨a_eq, b_eq, -⟩ := bytes_of_values a b 0
    show decodeLast offset
      (paddedGroup [a.toNat / 4, a.toNat % 4 * 16 + b.toNat / 16, b.toNat % 16 * 4]) = .ok [a, b]
    rw [decodeLast_paddedGroup small (by simp) (by simp), lastBytes, if_pos (by omega), a_eq]
    exact congrArg (fun byte => Except.ok [a, byte]) b_eq
  | case4 a b c rest ih =>
    have ha := a.toNat_lt
    have hb := b.toNat_lt
    have hc := c.toNat_lt
    obtain ⟨a_eq, b_eq, c_eq⟩ := bytes_of_values a b c
    have small : ∀ v ∈ [a.toNat / 4, a.toNat % 4 * 16 + b.toNat / 16,
        b.toNat % 16 * 4 + c.toNat / 64, c.toNat % 64], v < 64 := by
      simp; omega
    -- Only a group with another behind it is read symbol by symbol.
    cases rest_eq : encode rest with
    | nil =>
      have at_end := ih 0
      rw [rest_eq] at at_end
      obtain rfl : [] = rest := Except.ok.inj at_end
      show decodeLast offset (paddedGroup [a.toNat / 4, a.toNat % 4 * 16 + b.toNat / 16,
        b.toNat % 16 * 4 + c.toNat / 64, c.toNat % 64]) = .ok [a, b, c]
      rw [decodeLast_paddedGroup small (by simp) (by simp), lastBytes, a_eq, b_eq, c_eq]
    | cons e more =>
      have rest_read := ih (offset + 4)
      rw [rest_eq] at rest_read
      obtain ⟨h0, h1, h2, h3, -⟩ : a.toNat / 4 < 64 ∧ a.toNat % 4 * 16 + b.toNat / 16 < 64 ∧
          b.toNat % 16 * 4 + c.toNat / 64 < 64 ∧ c.toNat % 64 < 64 ∧ True := by
        simpa using small
      rw [encode, rest_eq, decodeFrom, valueAt_symbol _ h0, valueAt_symbol _ h1,
        valueAt_symbol _ h2, valueAt_symbol _ h3, rest_read]
      show Except.ok _ = Except.ok _
      rw [a_eq, b_eq, c_eq]

/-- **What is read was written.** -/
theorem encode_of_decodeFrom {offset : Nat} {input bytes : List UInt8}
    (h : decodeFrom offset input = .ok bytes) : encode bytes = input := by
  fun_induction decodeFrom offset input generalizing bytes with
  | case1 offset a b c d e rest ih =>
    obtain ⟨v0, a_eq, h⟩ := bind_eq_ok.mp h
    obtain ⟨v1, b_eq, h⟩ := bind_eq_ok.mp h
    obtain ⟨v2, c_eq, h⟩ := bind_eq_ok.mp h
    obtain ⟨v3, d_eq, h⟩ := bind_eq_ok.mp h
    obtain ⟨more, rest_eq, h⟩ := bind_eq_ok.mp h
    cases h
    obtain ⟨h0, rfl⟩ := valueAt_eq_ok a_eq
    obtain ⟨h1, rfl⟩ := valueAt_eq_ok b_eq
    obtain ⟨h2, rfl⟩ := valueAt_eq_ok c_eq
    obtain ⟨h3, rfl⟩ := valueAt_eq_ok d_eq
    rw [encode_group h0 h1 h2 h3, ih rest_eq]
  | case2 offset => cases h; rfl
  | case3 offset group long some_symbol =>
    refine decodeLast_eq_ok ?_ h
    match group with
    | [] | [_] | [_, _] | [_, _, _] | [_, _, _, _] => simp
    | a :: b :: c :: d :: e :: rest => exact absurd rfl (long a b c d e rest)

/-- Symbols come in groups of four. -/
theorem length_encode_mod (bytes : List UInt8) : (encode bytes).length % 4 = 0 := by
  induction bytes using encode.induct with
  | case1 => rfl
  | case2 a => simp [encode]
  | case3 a b => simp [encode]
  | case4 a b c rest ih =>
    simp only [encode, List.length_cons]
    omega

/-- **A text is read as some bytes exactly if it is their writing.** -/
theorem decode_eq_ok_iff {input bytes : List UInt8} :
    decode input = .ok bytes ↔ encode bytes = input := by
  constructor
  · intro h
    unfold decode at h
    split at h
    · cases h
    · exact encode_of_decodeFrom h
  · rintro rfl
    have no_stray : strayEnd? (encode bytes) = none := by
      have groups := length_encode_mod bytes
      unfold strayEnd?
      split
      · rw [if_neg (by omega)]
      · rfl
    rw [decode, no_stray, decodeFrom_encode]

/-- Different bytes are written differently. -/
theorem encode_injective {bytes others : List UInt8} (h : encode bytes = encode others) :
    bytes = others := by
  have read := decode_eq_ok_iff.mpr h
  rw [decode_eq_ok_iff.mpr rfl] at read
  exact (Except.ok.inj read).symm

end Intake.Base64
