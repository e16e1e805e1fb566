/-!
# Base64

Binary values are written in the standard alphabet with padding: three bytes become four symbols,
and a last group of one or two bytes is filled up with `=`. `decode` takes exactly the canonical
writing: padding is required, and the bits that the last symbol does not need must be zero. Whatever
else it meets is refused with the offset of the first offending symbol.
-/

namespace Intake.Base64

/-- Why a text is not the writing of some bytes. -/
inductive Fault where
  /-- A symbol outside the alphabet, or padding where none may stand. -/
  | invalidSymbol (offset : Nat) (symbol : UInt8)
  /-- A last symbol with bits beyond the last byte. -/
  | invalidLastSymbol (offset : Nat) (symbol : UInt8)
  /-- A last group of a single symbol. -/
  | invalidLength (length : Nat)
  /-- A last group without its full padding. -/
  | invalidPadding
  deriving DecidableEq, Repr

/-- The wording of a fault. -/
def Fault.message : Fault → String
  | .invalidSymbol offset symbol => s!"Invalid symbol {symbol.toNat}, offset {offset}."
  | .invalidLastSymbol offset symbol => s!"Invalid last symbol {symbol.toNat}, offset {offset}."
  | .invalidLength length => s!"Invalid input length: {length}"
  | .invalidPadding => "Invalid padding"

/-! ## The alphabet -/

/-- The byte of the padding symbol `=`. -/
def pad : UInt8 := 61

/-- The six bits that a symbol stands for. -/
def value? (b : UInt8) : Option Nat :=
  let n := b.toNat
  if 65 ≤ n ∧ n ≤ 90 then some (n - 65)
  else if 97 ≤ n ∧ n ≤ 122 then some (n - 71)
  else if 48 ≤ n ∧ n ≤ 57 then some (n + 4)
  else if n = 43 then some 62
  else if n = 47 then some 63
  else none

/-- The symbol for six bits. -/
def symbol (v : Nat) : UInt8 :=
  if v < 26 then UInt8.ofNat (v + 65)
  else if v < 52 then UInt8.ofNat (v + 71)
  else if v < 62 then UInt8.ofNat (v - 4)
  else if v = 62 then 43
  else 47

/-! ## Writing -/

/-- The symbols of some bytes, padded to whole groups of four. -/
def encode : List UInt8 → List UInt8
  | [] => []
  | [a] =>
    [symbol (a.toNat / 4), symbol (a.toNat % 4 * 16), pad, pad]
  | [a, b] =>
    [symbol (a.toNat / 4), symbol (a.toNat % 4 * 16 + b.toNat / 16),
     symbol (b.toNat % 16 * 4), pad]
  | a :: b :: c :: rest =>
    symbol (a.toNat / 4) :: symbol (a.toNat % 4 * 16 + b.toNat / 16) ::
      symbol (b.toNat % 16 * 4 + c.toNat / 64) :: symbol (c.toNat % 64) :: encode rest

/-! ## Reading -/

/-- The value of a symbol, or the fault of finding it at `offset`. -/
def valueAt (offset : Nat) (b : UInt8) : Except Fault Nat :=
  match value? b with
  | some v => .ok v
  | none => .error (.invalidSymbol offset b)

/-- The values of symbols that start at `offset`; the first bad one is the fault. -/
def valuesFrom (offset : Nat) : List UInt8 → Except Fault (List Nat)
  | [] => .ok []
  | b :: rest => do
    let v ← valueAt offset b
    let vs ← valuesFrom (offset + 1) rest
    return v :: vs

/-- The first byte of a group. -/
def firstByte (v0 v1 : Nat) : UInt8 := UInt8.ofNat (v0 * 4 + v1 / 16)

/-- The second byte of a group. -/
def secondByte (v1 v2 : Nat) : UInt8 := UInt8.ofNat (v1 % 16 * 16 + v2 / 4)

/-- The third byte of a group. -/
def thirdByte (v2 v3 : Nat) : UInt8 := UInt8.ofNat (v2 % 4 * 64 + v3)

/-- The bytes of the last group, given the values of its symbols. The bits of the last symbol that
no byte needs must be zero. -/
def lastBytes (offset : Nat) (last : UInt8) : List Nat → Except Fault (List UInt8)
  | [v0, v1] =>
    if v1 % 16 = 0 then .ok [firstByte v0 v1] else .error (.invalidLastSymbol (offset + 1) last)
  | [v0, v1, v2] =>
    if v2 % 4 = 0 then .ok [firstByte v0 v1, secondByte v1 v2]
    else .error (.invalidLastSymbol (offset + 2) last)
  | [v0, v1, v2, v3] => .ok [firstByte v0 v1, secondByte v1 v2, thirdByte v2 v3]
  | vs => .error (.invalidLength (offset + vs.length))

/-- Reads the last group: at least two symbols, then nothing but padding up to four. -/
def decodeLast (offset : Nat) (group : List UInt8) : Except Fault (List UInt8) := do
  let symbols := group.takeWhile (· != pad)
  let padding := group.dropWhile (· != pad)
  let values ← valuesFrom offset symbols
  -- padding may neither come too early nor be followed by symbols
  if padding ≠ [] ∧ (symbols.length < 2 ∨ padding.any (· != pad)) then
    throw (.invalidSymbol (offset + symbols.length) pad)
  -- a single symbol holds less than a byte
  if symbols.length < 2 then
    throw (.invalidLength (offset + symbols.length))
  if (symbols.length + padding.length) % 4 ≠ 0 then
    throw .invalidPadding
  lastBytes offset (symbols.getLastD 0) values

/-- Reads groups from `offset` on. Only the last group may hold padding. -/
def decodeFrom (offset : Nat) : List UInt8 → Except Fault (List UInt8)
  | a :: b :: c :: d :: e :: rest => do
    let v0 ← valueAt offset a
    let v1 ← valueAt (offset + 1) b
    let v2 ← valueAt (offset + 2) c
    let v3 ← valueAt (offset + 3) d
    let bytes ← decodeFrom (offset + 4) (e :: rest)
    return firstByte v0 v1 :: secondByte v1 v2 :: thirdByte v2 v3 :: bytes
  | [] => .ok []
  | group => decodeLast offset group

/-- A single symbol after whole groups that belongs to no alphabet is reported before all else: it
is most often a line end left on the text. -/
def strayEnd? (input : List UInt8) : Option Fault :=
  match input.getLast? with
  | some last =>
    if input.length % 4 = 1 ∧ last ≠ pad ∧ value? last = none then
      some (.invalidSymbol (input.length - 1) last)
    else none
  | none => none

/-- Reads the bytes that a text writes. -/
def decode (input : List UInt8) : Except Fault (List UInt8) :=
  match strayEnd? input with
  | some fault => .error fault
  | none => decodeFrom 0 input

end Intake.Base64
