import Intake.Json.Scan

/-!
# Skipping JSON values

A member that nobody asked for is skipped. Skipping only follows the outline of a value: it has no
limit of depth, does not join surrogates, and blames a list or an object that goes wrong in simpler
terms than reading does.
-/

namespace Intake.Json

open Intake.Text Intake.Numeral

/-- Skips an escape after its backslash. -/
def skipEscape (s : List Char) : Except Fault (List Char) :=
  match s with
  | [] => .error (.here .endOfString [])
  | 'u' :: s => do
    let (_, s) ← readHex4 s
    return s
  | c :: s =>
    if c ∈ ['"', '\\', '/', 'b', 'f', 'n', 'r', 't'] then .ok s
    else .error (.after .invalidEscape 1 (c :: s))

/-- Skips the characters of a string up to its closing quote, at most so many of them. -/
def skipChars : Nat → List Char → Except Fault (List Char)
  | 0, s => .error (.here .endOfString s)
  | _, [] => .error (.here .endOfString [])
  | fuel + 1, c :: s =>
    if c = '"' then .ok s
    else if c = '\\' then do
      let s ← skipEscape s
      skipChars fuel s
    else if c.toNat < 32 then .error (.here .controlCharacter (c :: s))
    else skipChars fuel s

/-- Skips a string after its opening quote. -/
def skipString (s : List Char) : Except Fault (List Char) := skipChars (s.length + 1) s

/-- Skips whole digits. -/
def skipWhole (s : List Char) : Except Fault (List Char) :=
  match s with
  | '0' :: s =>
    match s with
    | c :: _ => if isAsciiDigit c then .error (.ahead .invalidNumber s) else .ok s
    | [] => .ok []
  | c :: s => if isAsciiDigit c then .ok (splitDigits s).2 else .error (.after .invalidNumber 1 (c :: s))
  | [] => .error (.here .invalidNumber [])

/-- Skips a point and the digits after it, if there is a point. -/
def skipFraction (s : List Char) : Except Fault (List Char) :=
  match s with
  | '.' :: s =>
    match splitDigits s with
    | ([], rest) => .error (.ahead .invalidNumber rest)
    | (_, rest) => .ok rest
  | s => .ok s

/-- Skips a power of ten, if there is one. -/
def skipExponent (s : List Char) : Except Fault (List Char) :=
  match s with
  | c :: rest =>
    if c = 'e' ∨ c = 'E' then
      match (readSign rest).2 with
      | d :: rest =>
        if isAsciiDigit d then .ok (splitDigits rest).2
        else .error (.after .invalidNumber 1 (d :: rest))
      | [] => .error (.here .invalidNumber [])
    else .ok s
  | [] => .ok []

/-- Skips a number. -/
def skipNumber (s : List Char) : Except Fault (List Char) := do
  let s ← skipWhole (splitMinus s).2
  let s ← skipFraction s
  skipExponent s

/-- Skips a key and its colon, or finds fault with what stands in their place. -/
def skipKey (s : List Char) : Except Fault (List Char) :=
  match skipSpace s with
  | [] => .error (.ahead .endOfObject [])
  | '"' :: s => do
    let s ← skipString s
    readColon s
  | s => .error (.ahead .keyNotString s)

mutual

/-- Skips a value. -/
def skipWith : Nat → List Char → Except Fault (List Char)
  | 0, s => .error (.ahead .endOfValue s)
  | fuel + 1, s =>
    match skipSpace s with
    | [] => .error (.ahead .endOfValue [])
    | 'n' :: s => readWord "ull".toList s
    | 't' :: s => readWord "rue".toList s
    | 'f' :: s => readWord "alse".toList s
    | '"' :: s => skipString s
    | '[' :: s => skipItems fuel false s
    | '\x7b' :: s => skipMembers fuel false s
    | c :: s =>
      if c = '-' ∨ isAsciiDigit c then skipNumber (c :: s) else .error (.ahead .expectedValue (c :: s))

/-- Skips the items of a list and its closing bracket; a comma may come after an item only. -/
def skipItems : Nat → Bool → List Char → Except Fault (List Char)
  | 0, _, s => .error (.ahead .endOfList s)
  | fuel + 1, afterItem, s =>
    match skipSpace s with
    | [] => .error (.ahead .endOfList [])
    | ']' :: s => .ok s
    | c :: s =>
      if afterItem && c != ',' then .error (.ahead .expectedListEnd (c :: s))
      else do
        let s ← skipWith fuel (if afterItem then s else c :: s)
        skipItems fuel true s

/-- Skips the members of an object and its closing brace; a comma may come after a member only. -/
def skipMembers : Nat → Bool → List Char → Except Fault (List Char)
  | 0, _, s => .error (.ahead .endOfObject s)
  | fuel + 1, afterMember, s =>
    match skipSpace s with
    | [] => .error (.ahead .endOfObject [])
    | '\x7d' :: s => .ok s
    | c :: s =>
      if afterMember && c != ',' then .error (.ahead .expectedObjectEnd (c :: s))
      else do
        let s ← skipKey (if afterMember then s else c :: s)
        let s ← skipWith fuel s
        skipMembers fuel true s

end

/-- Skips a value. Every second step takes a character. -/
def skipValue (s : List Char) : Except Fault (List Char) := skipWith (2 * s.length + 2) s

end Intake.Json
