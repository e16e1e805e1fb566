import Intake.Pattern.CharSet

/-!
# Patterns

A pattern describes texts: single characters from a set, places with certain neighbours, sequences,
choices and repetitions. What stands first in a choice is preferred, and a repetition prefers more
rounds if it is greedy and fewer if it is not.
-/

namespace Intake.Pattern

/-- Where a place lies with respect to words. -/
inductive WordEdge where
  | boundary | noBoundary
  | wordStart | wordEnd
  /-- No word before the place, or none after it. -/
  | afterNoWord | beforeNoWord
  deriving DecidableEq, Repr

/-- A condition on a place in a text. -/
inductive Look where
  | textStart | textEnd
  /-- Start or end of a line; with `returns`, carriage returns end lines too. -/
  | lineStart (returns : Bool)
  | lineEnd (returns : Bool)
  /-- A place with respect to words, of all characters or of ASCII ones. -/
  | word (edge : WordEdge) (unicode : Bool)
  deriving DecidableEq, Repr

/-- Is the character, if there is one, part of a word? -/
def isInWord (unicode : Bool) : Option Char → Bool
  | some c => if unicode then isWordChar c else asciiWordRanges.contains c
  | none => false

/-- Does the condition hold between two neighbours? -/
def Look.holds : Look → Option Char → Option Char → Bool
  | .textStart, before, _ => before.isNone
  | .textEnd, _, after => after.isNone
  | .lineStart false, before, _ => before.isNone || before == some '\n'
  | .lineEnd false, _, after => after.isNone || after == some '\n'
  | .lineStart true, before, after =>
    before.isNone || before == some '\n' || (before == some '\r' && after != some '\n')
  | .lineEnd true, before, after =>
    after.isNone || after == some '\r' || (after == some '\n' && before != some '\r')
  | .word edge unicode, before, after =>
    let left := isInWord unicode before
    let right := isInWord unicode after
    match edge with
    | .boundary => left != right
    | .noBoundary => left == right
    | .wordStart => !left && right
    | .wordEnd => left && !right
    | .afterNoWord => !left
    | .beforeNoWord => !right

/-- What a pattern is made of. -/
inductive Node where
  | empty
  | one (set : CharSet)
  | look (look : Look)
  | sequence (first second : Node)
  | choice (preferred other : Node)
  /-- At least so many rounds and at most so many, if there is a limit. -/
  | repetition (least : Nat) (most : Option Nat) (greedy : Bool) (body : Node)
  deriving Repr, Inhabited

namespace Node

/-- Can the node match the empty text? -/
def isNullable : Node → Bool
  | .empty | .look _ => true
  | .one _ => false
  | .sequence a b => a.isNullable && b.isNullable
  | .choice a b => a.isNullable || b.isNullable
  | .repetition least _ _ body => least == 0 || body.isNullable

/-- Can the node match nothing but the empty text? -/
def isAlwaysEmpty : Node → Bool
  | .empty | .look _ => true
  | .one _ => false
  | .sequence a b | .choice a b => a.isAlwaysEmpty && b.isAlwaysEmpty
  | .repetition _ most _ body => most == some 0 || body.isAlwaysEmpty

/-- Repeats a node. Repeating what is always empty more than once adds nothing. -/
def repeated (least : Nat) (most : Option Nat) (greedy : Bool) (body : Node) : Node :=
  let (least, most) :=
    if body.isAlwaysEmpty then (min least 1, some (min (most.getD 1) 1)) else (least, most)
  if most = some 0 then .empty
  else if least = 1 ∧ most = some 1 then body
  else .repetition least most greedy body

/-- The sequence of some nodes. -/
def sequenceOf : List Node → Node
  | [] => .empty
  | [node] => node
  | node :: rest => .sequence node (sequenceOf rest)

/-- The choice between a node and some others. -/
def choiceOf (first : Node) : List Node → Node
  | [] => first
  | next :: rest => .choice first (choiceOf next rest)

end Node

end Intake.Pattern
