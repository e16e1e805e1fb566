/-!
# UTF-8

Streams are bytes and texts are characters. `encode` writes a text in UTF-8; `decode` reads bytes
back and refuses whatever is not the encoding of some text: stray continuation bytes, sequences cut
short, longer forms than needed, surrogates and numbers beyond the last code point.
-/

namespace Intake.Text

/-- The byte of a number below 256. -/
def byte (n : Nat) : UInt8 := UInt8.ofNat n

/-- The bytes of one character. -/
def encodeChar (c : Char) : List UInt8 :=
  let n := c.toNat
  if n < 0x80 then [byte n]
  else if n < 0x800 then [byte (0xC0 + n / 0x40), byte (0x80 + n % 0x40)]
  else if n < 0x10000 then
    [byte (0xE0 + n / 0x1000), byte (0x80 + n / 0x40 % 0x40), byte (0x80 + n % 0x40)]
  else
    [byte (0xF0 + n / 0x40000), byte (0x80 + n / 0x1000 % 0x40), byte (0x80 + n / 0x40 % 0x40),
     byte (0x80 + n % 0x40)]

/-- The bytes of a text. -/
def encode (cs : List Char) : List UInt8 := cs.flatMap encodeChar

/-- The number of bytes of a text. -/
def byteSize (cs : List Char) : Nat := (encode cs).length

/-- The six bits that a continuation byte carries. -/
def continuation? (b : UInt8) : Option Nat :=
  if 0x80 ≤ b.toNat ∧ b.toNat < 0xC0 then some (b.toNat - 0x80) else none

/-- The character with a given code point, unless the number is a surrogate or too large. -/
def charOfCode? (n : Nat) : Option Char :=
  if n < 0xD800 ∨ (0xE000 ≤ n ∧ n < 0x110000) then some (Char.ofNat n) else none

/-- Reads one character of two to four bytes from its lead byte and continuation bits. A number that
fits a shorter form is refused. -/
def wideChar? (least n : Nat) : Option Char :=
  if n < least then none else charOfCode? n

/-- Reads a text, if the bytes are the UTF-8 encoding of one. -/
def decode : List UInt8 → Option (List Char)
  | [] => some []
  | b :: rest =>
    let lead := b.toNat
    if lead < 0x80 then do
      return Char.ofNat lead :: (← decode rest)
    else if lead < 0xC0 then none
    else
      match rest with
      | [] => none
      | b1 :: rest1 =>
        match continuation? b1 with
        | none => none
        | some c1 =>
          if lead < 0xE0 then do
            let c ← wideChar? 0x80 ((lead - 0xC0) * 0x40 + c1)
            return c :: (← decode rest1)
          else
            match rest1 with
            | [] => none
            | b2 :: rest2 =>
              match continuation? b2 with
              | none => none
              | some c2 =>
                if lead < 0xF0 then do
                  let c ← wideChar? 0x800 ((lead - 0xE0) * 0x1000 + c1 * 0x40 + c2)
                  return c :: (← decode rest2)
                else
                  match rest2 with
                  | [] => none
                  | b3 :: rest3 =>
                    match continuation? b3 with
                    | none => none
                    | some c3 => do
                      let c ← wideChar? 0x10000
                        ((lead - 0xF0) * 0x40000 + c1 * 0x1000 + c2 * 0x40 + c3)
                      return c :: (← decode rest3)

/-- The bytes of a string. -/
def utf8 (s : String) : List UInt8 := encode s.toList

/-- The string that the bytes encode, if they encode one. -/
def ofUtf8? (bytes : List UInt8) : Option String := (decode bytes).map String.ofList

/-! ## Reading what was written -/

theorem encode_append (a b : List Char) : encode (a ++ b) = encode a ++ encode b := by
  simp [encode]

theorem byte_toNat {n : Nat} (h : n < 256) : (byte n).toNat = n := by
  simp [byte, UInt8.toNat_ofNat', Nat.mod_eq_of_lt h]

theorem continuation?_byte {n : Nat} (h : n < 0x40) : continuation? (byte (0x80 + n)) = some n := by
  have := byte_toNat (n := 0x80 + n) (by omega)
  simp only [continuation?, this]
  rw [if_pos ⟨by omega, by omega⟩]
  simp

theorem charOfCode?_toNat (c : Char) : charOfCode? c.toNat = some c := by
  have hv : c.toNat < 0xD800 ∨ 0xDFFF < c.toNat ∧ c.toNat < 0x110000 := c.valid
  rw [charOfCode?, if_pos (by omega), Char.ofNat_toNat]

/-- **A character is read back from its bytes**, whatever follows them. -/
theorem decode_encodeChar_append (c : Char) (rest : List UInt8) :
    decode (encodeChar c ++ rest) = (decode rest).map (c :: ·) := by
  have hv : c.toNat < 0x110000 := by
    have : c.toNat < 0xD800 ∨ 0xDFFF < c.toNat ∧ c.toNat < 0x110000 := c.valid
    omega
  have hc := charOfCode?_toNat c
  simp only [encodeChar]
  split
  · next h =>
    rw [List.singleton_append, decode.eq_def]
    simp only [byte_toNat (show c.toNat < 256 by omega), if_pos h, Char.ofNat_toNat]
    cases decode rest <;> rfl
  · split
    · next h1 h2 =>
      have hb := byte_toNat (n := 0xC0 + c.toNat / 0x40) (by omega)
      have e : (0xC0 + c.toNat / 0x40 - 0xC0) * 0x40 + c.toNat % 0x40 = c.toNat := by omega
      rw [List.cons_append, decode.eq_def]
      simp only [hb, List.cons_append, List.nil_append,
        continuation?_byte (show c.toNat % 0x40 < 0x40 by omega), wideChar?, e, hc,
        if_neg (show ¬ 0xC0 + c.toNat / 0x40 < 0x80 by omega),
        if_neg (show ¬ 0xC0 + c.toNat / 0x40 < 0xC0 by omega),
        if_pos (show 0xC0 + c.toNat / 0x40 < 0xE0 by omega), if_neg (show ¬ c.toNat < 0x80 by omega)]
      cases decode rest <;> rfl
    · split
      · next h1 h2 h3 =>
        have hb := byte_toNat (n := 0xE0 + c.toNat / 0x1000) (by omega)
        have e : (0xE0 + c.toNat / 0x1000 - 0xE0) * 0x1000 + c.toNat / 0x40 % 0x40 * 0x40 +
            c.toNat % 0x40 = c.toNat := by omega
        rw [List.cons_append, decode.eq_def]
        simp only [hb, List.cons_append, List.nil_append,
          continuation?_byte (show c.toNat % 0x40 < 0x40 by omega),
          continuation?_byte (show c.toNat / 0x40 % 0x40 < 0x40 by omega), wideChar?, e, hc,
          if_neg (show ¬ 0xE0 + c.toNat / 0x1000 < 0x80 by omega),
          if_neg (show ¬ 0xE0 + c.toNat / 0x1000 < 0xC0 by omega),
          if_neg (show ¬ 0xE0 + c.toNat / 0x1000 < 0xE0 by omega),
          if_pos (show 0xE0 + c.toNat / 0x1000 < 0xF0 by omega),
          if_neg (show ¬ c.toNat < 0x800 by omega)]
        cases decode rest <;> rfl
      · next h1 h2 h3 =>
        have hb := byte_toNat (n := 0xF0 + c.toNat / 0x40000) (by omega)
        have e : (0xF0 + c.toNat / 0x40000 - 0xF0) * 0x40000 + c.toNat / 0x1000 % 0x40 * 0x1000 +
            c.toNat / 0x40 % 0x40 * 0x40 + c.toNat % 0x40 = c.toNat := by omega
        rw [List.cons_append, decode.eq_def]
        simp only [hb, List.cons_append, List.nil_append,
          continuation?_byte (show c.toNat % 0x40 < 0x40 by omega),
          continuation?_byte (show c.toNat / 0x40 % 0x40 < 0x40 by omega),
          continuation?_byte (show c.toNat / 0x1000 % 0x40 < 0x40 by omega), wideChar?, e, hc,
          if_neg (show ¬ 0xF0 + c.toNat / 0x40000 < 0x80 by omega),
          if_neg (show ¬ 0xF0 + c.toNat / 0x40000 < 0xC0 by omega),
          if_neg (show ¬ 0xF0 + c.toNat / 0x40000 < 0xE0 by omega),
          if_neg (show ¬ 0xF0 + c.toNat / 0x40000 < 0xF0 by omega),
          if_neg (show ¬ c.toNat < 0x10000 by omega)]
        cases decode rest <;> rfl

/-- **A text is read back from its bytes.** -/
theorem decode_encode (cs : List Char) : decode (encode cs) = some cs := by
  induction cs with
  | nil => rfl
  | cons c rest ih =>
    rw [encode, List.flatMap_cons, decode_encodeChar_append, ← encode, ih]
    rfl

theorem ofUtf8?_utf8 (s : String) : ofUtf8? (utf8 s) = some s := by
  simp [ofUtf8?, utf8, decode_encode]

end Intake.Text
