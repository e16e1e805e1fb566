import Intake.Json.Fault
import Intake.Numeral.Literal

/-!
# The pieces of JSON text

A reader takes a value off the front of a text and hands back what follows it. This module holds the
readers of single pieces: words, numbers, strings, and the steps from one item of a list or member
of an object to the next.
-/

namespace Intake.Json

open Intake.Text Intake.Numeral

/-- Takes a value off the front of a text. -/
abbrev Reader (α : Type) := List Char → Except Fault (α × List Char)

/-- The blanks that JSON allows between its pieces. -/
def isSpace (c : Char) : Bool := c == ' ' || c == '\n' || c == '\t' || c == '\r'

/-- Skips blanks. -/
def skipSpace (s : List Char) : List Char := s.dropWhile isSpace

/-- Reads the letters of a word. -/
def readWord : List Char → List Char → Except Fault (List Char)
  | [], s => .ok s
  | _ :: _, [] => .error (.ahead .endOfValue [])
  | letter :: word, c :: s =>
    if c = letter then readWord word s else .error (.after .expectedWord 1 (c :: s))

/-! ## Numbers -/

/-- Reads whole digits. A zero stands alone. -/
def readWhole : Reader (List Char)
  | [] => .error (.ahead .endOfValue [])
  | '0' :: s =>
    match s with
    | c :: _ => if isAsciiDigit c then .error (.ahead .invalidNumber s) else .ok (['0'], s)
    | [] => .ok (['0'], [])
  | c :: s =>
    if isAsciiDigit c then .ok (splitDigits (c :: s))
    else .error (.after .invalidNumber 1 (c :: s))

/-- Reads a point and the digits after it, if there is a point. -/
def readFraction : Reader (Option (List Char))
  | '.' :: s =>
    match splitDigits s with
    | ([], []) => .error (.ahead .endOfValue [])
    | ([], rest) => .error (.ahead .invalidNumber rest)
    | (digits, rest) => .ok (some digits, rest)
  | s => .ok (none, s)

/-- Reads the digits of a power of ten. -/
def readPower (negative : Bool) : Reader (Option Exponent)
  | [] => .error (.ahead .endOfValue [])
  | c :: s =>
    if isAsciiDigit c then
      let (digits, rest) := splitDigits (c :: s)
      .ok (some ⟨negative, digits⟩, rest)
    else .error (.after .invalidNumber 1 (c :: s))

/-- Reads a power of ten, if there is one. -/
def readExponent : Reader (Option Exponent)
  | c :: s =>
    if c = 'e' ∨ c = 'E' then
      let (negative, s) := readSign s
      readPower negative s
    else .ok (none, c :: s)
  | [] => .ok (none, [])

/-- Cuts off a leading minus. -/
def splitMinus : List Char → Bool × List Char
  | '-' :: s => (true, s)
  | s => (false, s)

/-- Reads a number. -/
def readNumber : Reader Literal := fun s => do
  let (negative, s) := splitMinus s
  let (whole, s) ← readWhole s
  let (fraction, s) ← readFraction s
  let (exponent, s) ← readExponent s
  return (⟨negative, whole, fraction, exponent⟩, s)

/-! ## Strings -/

/-- The value of four hexadecimal digits. -/
def hexValue4? (a b c d : Char) : Option Nat := do
  let a ← hexValue? a
  let b ← hexValue? b
  let c ← hexValue? c
  let d ← hexValue? d
  return ((a * 16 + b) * 16 + c) * 16 + d

/-- Reads the four hexadecimal digits of an escape. They are taken together, whatever they are. -/
def readHex4 : Reader Nat := fun s =>
  if byteSize (s.take 4) < 4 then .error (.here .endOfString [])
  else
    match s with
    | a :: b :: c :: d :: rest =>
      match hexValue4? a b c d with
      | some n => .ok (n, rest)
      | none => .error (.after .invalidEscape 4 s)
    | _ => .error (.after .invalidEscape 4 s)

/-- Is the number the first half of a pair of surrogates? -/
def isLeading (n : Nat) : Bool := 0xD800 ≤ n && n ≤ 0xDBFF

/-- Is the number the second half of a pair of surrogates? -/
def isTrailing (n : Nat) : Bool := 0xDC00 ≤ n && n ≤ 0xDFFF

/-- The character that a pair of surrogates stands for. -/
def pairChar (leading trailing : Nat) : Char :=
  Char.ofNat ((leading - 0xD800) * 0x400 + (trailing - 0xDC00) + 0x10000)

/-- Reads the second half of a pair of surrogates, escape and all. -/
def readTrailing (leading : Nat) : Reader Char
  | [] => .error (.here .endOfString [])
  | ['\\'] => .error (.here .endOfString [])
  | '\\' :: 'u' :: s => do
    let (n, rest) ← readHex4 s
    if isTrailing n then .ok (pairChar leading n, rest) else .error (.here .loneSurrogate rest)
  | '\\' :: s => .error (.after .incompleteEscape 2 ('\\' :: s))
  | s => .error (.after .incompleteEscape 1 s)

/-- Reads the number of an escape by code point, or two of them for a pair of surrogates. -/
def readCodeEscape : Reader Char := fun s => do
  let (n, rest) ← readHex4 s
  if isTrailing n then .error (.here .loneSurrogate rest)
  else if isLeading n then readTrailing n rest
  else .ok (Char.ofNat n, rest)

/-- Reads an escape after its backslash. -/
def readEscape : Reader Char
  | [] => .error (.here .endOfString [])
  | '"' :: s => .ok ('"', s)
  | '\\' :: s => .ok ('\\', s)
  | '/' :: s => .ok ('/', s)
  | 'b' :: s => .ok (Char.ofNat 8, s)
  | 'f' :: s => .ok (Char.ofNat 12, s)
  | 'n' :: s => .ok ('\n', s)
  | 'r' :: s => .ok ('\r', s)
  | 't' :: s => .ok ('\t', s)
  | 'u' :: s => readCodeEscape s
  | s => .error (.after .invalidEscape 1 s)

/-- Reads the characters of a string up to its closing quote, at most so many of them. -/
def readChars : Nat → Reader (List Char)
  | 0, s => .error (.here .endOfString s)
  | _, [] => .error (.here .endOfString [])
  | fuel + 1, c :: s =>
    if c = '"' then .ok ([], s)
    else if c = '\\' then do
      let (c, s) ← readEscape s
      let (cs, s) ← readChars fuel s
      return (c :: cs, s)
    else if c.toNat < 32 then .error (.after .controlCharacter 1 (c :: s))
    else do
      let (cs, s) ← readChars fuel s
      return (c :: cs, s)

/-- Reads a string after its opening quote. -/
def readString : Reader String := fun s => do
  let (cs, s) ← readChars (s.length + 1) s
  return (String.ofList cs, s)

/-! ## Lists -/

/-- Goes to the next item of a list. The answer says whether there is one; the bracket that ends the
list is left in place. -/
def nextItem (first : Bool) : Reader Bool := fun s =>
  match skipSpace s with
  | [] => .error (.ahead .endOfList [])
  | c :: s =>
    if c = ']' then .ok (false, c :: s)
    else if first then .ok (true, c :: s)
    else if c = ',' then
      match skipSpace s with
      | [] => .error (.ahead .endOfValue [])
      | c :: s => if c = ']' then .error (.ahead .trailingComma (c :: s)) else .ok (true, c :: s)
    else .error (.ahead .expectedListEnd (c :: s))

/-- Reads the bracket that ends a list. -/
def closeList (s : List Char) : Except Fault (List Char) :=
  match skipSpace s with
  | [] => .error (.ahead .endOfList [])
  | c :: s =>
    if c = ']' then .ok s
    else if c = ',' then
      match skipSpace s with
      | ']' :: s => .error (.ahead .trailingComma (']' :: s))
      | s => .error (.ahead .trailingText s)
    else .error (.ahead .trailingText (c :: s))

/-- Reads the items of a list up to the bracket that ends it, at most so many. -/
def readItems {α : Type} (item : Reader α) : Nat → Bool → Reader (List α)
  | 0, _, s => .error (.here .endOfList s)
  | fuel + 1, first, s => do
    let (more, s) ← nextItem first s
    if more then
      let (a, s) ← item s
      let (as, s) ← readItems item fuel false s
      return (a :: as, s)
    else return ([], s)

/-- Reads a list after its opening bracket. -/
def readListBody {α : Type} (item : Reader α) : Reader (List α) := fun s => do
  let (as, s) ← readItems item (s.length + 1) true s
  let s ← closeList s
  return (as, s)

/-! ## Objects -/

/-- Goes to the next key of an object and reads it. The brace that ends the object is left in
place. -/
def nextKey (first : Bool) : Reader (Option String) := fun s =>
  match skipSpace s with
  | [] => .error (.ahead .endOfObject [])
  | c :: s =>
    if c = '\x7d' then .ok (none, c :: s)
    else if first then
      if c = '"' then do
        let (key, s) ← readString s
        return (some key, s)
      else .error (.ahead .keyNotString (c :: s))
    else if c = ',' then
      match skipSpace s with
      | [] => .error (.ahead .endOfValue [])
      | c :: s =>
        if c = '"' then do
          let (key, s) ← readString s
          return (some key, s)
        else if c = '\x7d' then .error (.ahead .trailingComma (c :: s))
        else .error (.ahead .keyNotString (c :: s))
    else .error (.ahead .expectedObjectEnd (c :: s))

/-- Reads the colon after a key. -/
def readColon (s : List Char) : Except Fault (List Char) :=
  match skipSpace s with
  | [] => .error (.ahead .endOfObject [])
  | c :: s => if c = ':' then .ok s else .error (.ahead .expectedColon (c :: s))

/-- Reads the brace that ends an object. -/
def closeObject (s : List Char) : Except Fault (List Char) :=
  match skipSpace s with
  | [] => .error (.ahead .endOfObject [])
  | c :: s =>
    if c = '\x7d' then .ok s
    else if c = ',' then .error (.ahead .trailingComma (c :: s))
    else .error (.ahead .trailingText (c :: s))

/-- Reads a whole text: one value and nothing but blanks after it. -/
def readAll {α : Type} (reader : Reader α) (text : List Char) : Except Refusal α :=
  match reader text with
  | .error fault => .error (fault.resolve text)
  | .ok (a, rest) =>
    match skipSpace rest with
    | [] => .ok a
    | rest => .error ((Fault.ahead .trailingText rest).resolve text)

end Intake.Json
