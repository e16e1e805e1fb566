import Intake.Text.CaseOrbit
import Intake.Text.Category
import Intake.Text.Digit
import Intake.Text.Script

/-!
# Sets of characters

The sets that a pattern can name, and how they are put together. `CharSet.contains` says which
characters are in a set.
-/

namespace Intake.Pattern

open Intake.Text

/-- A set of characters. -/
inductive CharSet where
  | ranges (ranges : Ranges)
  | digit
  | blank
  /-- What words are made of: letters, marks, digits, and what connects them. -/
  | word
  | category (kinds : List Category)
  | script (name : String)
  | union (a b : CharSet)
  | intersection (a b : CharSet)
  | difference (a b : CharSet)
  | symmetricDifference (a b : CharSet)
  | complement (a : CharSet)
  /-- Everything that differs from a member in case at most. -/
  | caseClosure (a : CharSet)
  /-- Everything that differs from a member in the case of an ASCII letter at most. -/
  | asciiCaseClosure (a : CharSet)
  deriving Repr, Inhabited

/-- Characters of words besides letters, marks, digits, letter numbers and connectors: the joiners,
and the letters in circles and squares. -/
def otherWordRanges : Ranges :=
  [(0x200C, 0x200D), (0x24B6, 0x24E9), (0x1F130, 0x1F149), (0x1F150, 0x1F169), (0x1F170, 0x1F189)]

/-- Is the character part of words? -/
def isWordChar (c : Char) : Bool :=
  let kind := category c
  kind.isLetter || kind.isMark || kind == .decimalNumber || kind == .letterNumber ||
    kind == .connectorPunctuation || otherWordRanges.contains c

/-- The ASCII characters that words are made of. -/
def asciiWordRanges : Ranges := [(0x30, 0x39), (0x41, 0x5A), (0x5F, 0x5F), (0x61, 0x7A)]

namespace CharSet

/-- Is the character in the set? -/
def contains : CharSet → Char → Bool
  | .ranges table, c => table.contains c
  | .digit, c => isDecimalDigit c
  | .blank, c => isBlank c
  | .word, c => isWordChar c
  | .category kinds, c => kinds.contains (Text.category c)
  | .script name, c => Text.script c == name
  | .union a b, c => a.contains c || b.contains c
  | .intersection a b, c => a.contains c && b.contains c
  | .difference a b, c => a.contains c && !b.contains c
  | .symmetricDifference a b, c => a.contains c != b.contains c
  | .complement a, c => !a.contains c
  | .caseClosure a, c => (caseOrbit c).any a.contains
  | .asciiCaseClosure a, c => (asciiCaseOrbit c).any a.contains

/-- The set of one character. -/
def single (c : Char) : CharSet := .ranges [(c.toNat, c.toNat)]

/-- The characters from one to another. -/
def between (first last : Char) : CharSet := .ranges [(first.toNat, last.toNat)]

/-- No character. -/
def none : CharSet := .ranges []

/-- Every character. -/
def all : CharSet := .ranges [(0, 0x10FFFF)]

/-- The ASCII characters. -/
def ascii : CharSet := .ranges [(0, 0x7F)]

/-- Every character but some. -/
def allBut (cs : List Char) : CharSet := .complement (.ranges (cs.map fun c => (c.toNat, c.toNat)))

end CharSet

end Intake.Pattern
