import Intake.Pattern.Escape

/-!
# Sets in brackets

A set in brackets lists its members: characters, ranges, classes and further sets in brackets. Two
lists may be joined by an operator, `&&`, `--` or `~~`; operators are applied from left to right.

A reader gives, next to a set, how deep brackets, lists and operators are nested in it.
-/

namespace Intake.Pattern

open Intake.Text

/-- A set and the depth of its nesting. -/
structure Nested where
  set : CharSet
  depth : Nat
  deriving Repr, Inhabited

/-- What joins two lists of members. -/
inductive SetOperator where
  | intersection | difference | symmetricDifference
  deriving DecidableEq, Repr

/-- Applies an operator. -/
def SetOperator.apply : SetOperator → CharSet → CharSet → CharSet
  | .intersection => .intersection
  | .difference => .difference
  | .symmetricDifference => .symmetricDifference

/-- A set whose bracket has not been closed yet. -/
structure OpenBracket where
  negated : Bool
  /-- What stands before the last operator. -/
  pending : Option (SetOperator × Nested)
  /-- The members since, last first. -/
  members : List Nested
  deriving Repr, Inhabited

namespace OpenBracket

/-- Adds a member. -/
def add (bracket : OpenBracket) (member : Nested) : OpenBracket :=
  { bracket with members := member :: bracket.members }

/-- The union of the members since the last operator. -/
def union (bracket : OpenBracket) : Nested :=
  match bracket.members with
  | [] => ⟨CharSet.none, 0⟩
  | [member] => member
  | members =>
    ⟨members.foldl (fun set member => .union member.set set) CharSet.none,
     (members.map (·.depth)).foldl max 0 + 1⟩

/-- Everything in the bracket, with the pending operator applied. -/
def content (bracket : OpenBracket) (flags : Flags) : Nested :=
  let right := bracket.union
  match bracket.pending with
  | none => right
  | some (operator, left) =>
    ⟨operator.apply (flags.fold left.set) (flags.fold right.set), max left.depth right.depth + 1⟩

/-- Goes on after an operator. -/
def operate (bracket : OpenBracket) (flags : Flags) (operator : SetOperator) : OpenBracket :=
  { bracket with pending := some (operator, bracket.content flags), members := [] }

/-- The set of a bracket that has been closed. -/
def close? (bracket : OpenBracket) (flags : Flags) : Option Nested := do
  let content := bracket.content flags
  return ⟨← flags.negate? bracket.negated (flags.fold content.set), content.depth + 1⟩

end OpenBracket

/-! ## Members -/

/-- Reads a single character or an escape. -/
def readElement (flags : Flags) : List Char → Option (Primitive × List Char)
  | [] => none
  | '\\' :: s => readEscape flags s
  | c :: s => some (.literal c, s)

/-- A character that may be in a set. -/
def literal? (flags : Flags) : Primitive → Option Char
  | .literal c => if flags.unicode || c.toNat < 128 then some c else none
  | _ => none

/-- The set of a member. -/
def memberSet? (flags : Flags) : Primitive → Option CharSet
  | .set set => some set
  | element => (literal? flags element).map CharSet.single

/-- The next character that is not ignored, where a comment counts by its first character. -/
def peekSkipping (flags : Flags) (s : List Char) : Option Char :=
  if flags.ignoreBlanks then
    match s.dropWhile isBlank with
    | '#' :: s => (s.dropWhile isBlank).head?
    | s => s.head?
  else s.head?

/-- Reads a member: a range, or a single element. A hyphen makes a range unless a bracket or another
hyphen follows it. -/
def readMember (flags : Flags) (s : List Char) : Option (Nested × List Char) := do
  let (first, s) ← readElement flags s
  match skipIgnored flags s with
  | [] => none
  | '-' :: rest =>
    let next := peekSkipping flags rest
    if next = some ']' ∨ next = some '-' then return (⟨← memberSet? flags first, 0⟩, '-' :: rest)
    else
      let (last, rest) ← readElement flags (skipIgnored flags rest)
      let lo ← literal? flags first
      let hi ← literal? flags last
      if lo ≤ hi then return (⟨CharSet.between lo hi, 0⟩, rest) else none
  | s => return (⟨← memberSet? flags first, 0⟩, s)

/-- Cuts off a leading caret. -/
def splitCaret : List Char → Bool × List Char
  | '^' :: s => (true, s)
  | s => (false, s)

/-- Reads the name of an ASCII class and what ends it, after its bracket. -/
def readAsciiClass (s : List Char) : Option ((Bool × Ranges) × List Char) :=
  match s with
  | ':' :: s =>
    let (negated, s) := splitCaret s
    match s.dropWhile (· != ':') with
    | ':' :: ']' :: rest =>
      (asciiClasses.lookup (String.ofList (s.takeWhile (· != ':')))).map fun ranges =>
        ((negated, ranges), rest)
    | _ => none
  | _ => none

/-! ## Brackets -/

/-- Reads the start of a bracket: a caret negates it, and hyphens and then a closing bracket stand
for themselves in the first place. -/
def openBracket (flags : Flags) (s : List Char) : OpenBracket × List Char :=
  let (negated, s) := splitCaret (skipIgnored flags s)
  let (hyphens, s) := spanSkipping flags (· == '-') (skipIgnored flags s)
  let bracket : OpenBracket := ⟨negated, none, hyphens.map fun c => ⟨CharSet.single c, 0⟩⟩
  match hyphens, s with
  | [], ']' :: s => (bracket.add ⟨CharSet.single ']', 0⟩, s)
  | _, s => (bracket, s)

/-- Reads a bracket up to its end, at most so many steps, inside some others. -/
def readBracketFrom (flags : Flags) :
    Nat → OpenBracket → List OpenBracket → List Char → Option (Nested × List Char)
  | 0, _, _, _ => none
  | fuel + 1, bracket, outer, s =>
    match skipIgnored flags s with
    | [] => none
    | '[' :: s =>
      match readAsciiClass s with
      | some ((negated, ranges), s) => do
        let set ← flags.negate? negated (flags.fold (.ranges ranges))
        readBracketFrom flags fuel (bracket.add ⟨set, 0⟩) outer s
      | none =>
        let (inner, s) := openBracket flags s
        readBracketFrom flags fuel inner (bracket :: outer) s
    | ']' :: s => do
      let closed ← bracket.close? flags
      match outer with
      | [] => return (closed, s)
      | parent :: outer => readBracketFrom flags fuel (parent.add closed) outer s
    | '&' :: '&' :: s => readBracketFrom flags fuel (bracket.operate flags .intersection) outer s
    | '-' :: '-' :: s => readBracketFrom flags fuel (bracket.operate flags .difference) outer s
    | '~' :: '~' :: s =>
      readBracketFrom flags fuel (bracket.operate flags .symmetricDifference) outer s
    | s => do
      let (member, s) ← readMember flags s
      readBracketFrom flags fuel (bracket.add member) outer s

/-- Reads a set in brackets after its opening bracket. -/
def readBracket (flags : Flags) (s : List Char) : Option (Nested × List Char) :=
  let (bracket, rest) := openBracket flags s
  readBracketFrom flags (s.length + 1) bracket [] rest

end Intake.Pattern
