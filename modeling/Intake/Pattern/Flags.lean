import Intake.Pattern.CharSet
import Intake.Text.Blank

/-!
# Flags

A pattern can set flags that change how the rest of it is read. With `ignoreBlanks`, blanks and
comments between the parts of a pattern mean nothing; `skipIgnored` passes over them.
-/

namespace Intake.Pattern

open Intake.Text

/-- How a pattern is read. -/
structure Flags where
  ignoreCase : Bool
  /-- Do `^` and `$` look at lines? -/
  multiLine : Bool
  /-- Does the dot match line feeds too? -/
  dotMatchesAll : Bool
  swapGreed : Bool
  /-- Do classes reach beyond ASCII? -/
  unicode : Bool
  /-- Do carriage returns end lines too? -/
  returns : Bool
  ignoreBlanks : Bool
  deriving DecidableEq, Repr, Inhabited

namespace Flags

/-- The flags at the start of a pattern. -/
def initial : Flags := ⟨false, false, false, false, true, false, false⟩

/-- Sets or clears the flag of a letter. -/
def put? (flags : Flags) (letter : Char) (on : Bool) : Option Flags :=
  match letter with
  | 'i' => some { flags with ignoreCase := on }
  | 'm' => some { flags with multiLine := on }
  | 's' => some { flags with dotMatchesAll := on }
  | 'U' => some { flags with swapGreed := on }
  | 'u' => some { flags with unicode := on }
  | 'R' => some { flags with returns := on }
  | 'x' => some { flags with ignoreBlanks := on }
  | _ => none

/-- Reads the letters of a flag group up to its colon or parenthesis: a letter may come once, and so
may the minus after which letters clear their flags, but not at the end. -/
def read (on : Bool) (seen : List Char) (flags : Flags) :
    List Char → Option (Flags × List Char × List Char)
  | [] => none
  | c :: s =>
    if c = ':' ∨ c = ')' then
      if seen.head? = some '-' then none else some (flags, seen, c :: s)
    else if seen.contains c then none
    else if c = '-' then read false (c :: seen) flags s
    else
      match flags.put? c on with
      | some flags => read on (c :: seen) flags s
      | none => none

/-- The set with everything that the flags do not tell apart from its members. -/
def fold (flags : Flags) (set : CharSet) : CharSet :=
  if flags.ignoreCase then
    if flags.unicode then .caseClosure set else .asciiCaseClosure set
  else set

/-- The set or its complement. A complement reaches beyond ASCII, which needs the flag for it. -/
def negate? (flags : Flags) (negated : Bool) (set : CharSet) : Option CharSet :=
  if negated then
    if flags.unicode then some (.complement set) else none
  else some set

end Flags

/-! ## Ignored text -/

/-- Skips blanks and comments, starting inside a comment or not. A comment ends with its line. -/
def skipFrom : Bool → List Char → List Char
  | _, [] => []
  | true, c :: s => skipFrom (c != '\n') s
  | false, c :: s =>
    if isBlank c then skipFrom false s else if c = '#' then skipFrom true s else c :: s

/-- Skips what the flags say is to be ignored. -/
def skipIgnored (flags : Flags) (s : List Char) : List Char :=
  if flags.ignoreBlanks then skipFrom false s else s

/-- Takes characters while a condition holds, at most so many, skipping after each what is to be
ignored. -/
def takeWhileSkipping (flags : Flags) (p : Char → Bool) : Nat → List Char → List Char × List Char
  | 0, s => ([], s)
  | _, [] => ([], [])
  | fuel + 1, c :: s =>
    if p c then
      let (cs, rest) := takeWhileSkipping flags p fuel (skipIgnored flags s)
      (c :: cs, rest)
    else ([], c :: s)

/-- Takes characters while a condition holds, skipping after each what is to be ignored. -/
def spanSkipping (flags : Flags) (p : Char → Bool) (s : List Char) : List Char × List Char :=
  takeWhileSkipping flags p s.length s

end Intake.Pattern
