import Intake.Pattern.Bracket

/-!
# Reading patterns

A pattern is read from left to right. What has been read so far is a stack of levels, one for each
group that is still open; a level holds the items of the branch that is being read and the branches
before it. `Node.read?` gives nothing for a text that is not a pattern.
-/

namespace Intake.Pattern

open Intake.Text

/-- A piece of a pattern, with how deep groups, repetitions, sequences and choices are nested in
it. -/
structure Item where
  node : Node
  depth : Nat
  /-- May a repetition follow? -/
  repeatable : Bool
  deriving Repr, Inhabited

/-- A piece without any nesting. -/
def Item.plain (node : Node) : Item := ⟨node, 0, true⟩

/-- The depth of several pieces put together. -/
def depthOf (items : List Item) : Nat :=
  match items with
  | [] => 0
  | [item] => item.depth
  | items => (items.map (·.depth)).foldl max 0 + 1

/-- A group that is still open, or the whole pattern. -/
structure Level where
  flags : Flags
  /-- The branches that are finished, last first. -/
  branches : List Item
  /-- The items of the branch that is being read, last first. -/
  items : List Item
  deriving Repr, Inhabited

namespace Level

/-- A level with nothing in it. -/
def start (flags : Flags) : Level := ⟨flags, [], []⟩

/-- Adds an item. -/
def add (level : Level) (item : Item) : Level := { level with items := item :: level.items }

/-- Finishes the branch that is being read. -/
def endBranch (level : Level) : Level :=
  let branch : Item :=
    ⟨Node.sequenceOf (level.items.reverse.map (·.node)), depthOf level.items, true⟩
  { level with branches := branch :: level.branches, items := [] }

/-- Everything on the level as one item. -/
def close (level : Level) : Item :=
  let branches := level.endBranch.branches.reverse
  match branches.map (·.node) with
  | [] => Item.plain .empty
  | first :: rest => ⟨Node.choiceOf first rest, depthOf branches, true⟩

end Level

/-- What has been read of a pattern. -/
structure Progress where
  level : Level
  /-- The levels around it, innermost first. -/
  outer : List Level
  /-- The names of the groups so far. -/
  names : List (List Char)
  deriving Repr, Inhabited

/-- Nothing read yet. -/
def Progress.start : Progress := ⟨Level.start Flags.initial, [], []⟩

namespace Progress

/-- Adds an item to the level that is being read. -/
def add (progress : Progress) (item : Item) : Progress :=
  { progress with level := progress.level.add item }

/-! ## Groups -/

/-- Begins a group. -/
def enter (progress : Progress) (flags : Flags) : Progress :=
  { progress with level := Level.start flags, outer := progress.level :: progress.outer }

/-- Can the character be part of a group's name? -/
def isNameChar (first : Bool) (c : Char) : Bool :=
  c == '_' || isAlphabetic c ||
    (!first && (c == '.' || c == '[' || c == ']' || (category c).isNumber))

/-- Begins a group with a name, which no other group may have. -/
def enterNamed (progress : Progress) (s : List Char) : Option (Progress × List Char) :=
  let name := s.takeWhile (· != '>')
  match s.dropWhile (· != '>') with
  | '>' :: rest =>
    if name.isEmpty || !(name.take 1).all (isNameChar true) || !(name.drop 1).all (isNameChar false)
        || progress.names.contains name then none
    else some ({ progress.enter progress.level.flags with names := name :: progress.names }, rest)
  | _ => none

/-- Reads a group after its parenthesis: flags for the group or for the rest of the level, a named
group, or a plain one. Groups that look ahead or back are not part of patterns. -/
def readGroup (progress : Progress) (s : List Char) : Option (Progress × List Char) :=
  let flags := progress.level.flags
  match skipIgnored flags s with
  | '?' :: 'P' :: '<' :: s => progress.enterNamed s
  | '?' :: '<' :: s =>
    match s with
    | '=' :: _ | '!' :: _ => none
    | _ => progress.enterNamed s
  | '?' :: s =>
    match Flags.read true [] flags s with
    | some (flags, _, ':' :: s) => some (progress.enter flags, s)
    | some (flags, letters, ')' :: s) =>
      if letters.isEmpty then none
      else
        let level := { progress.level with flags }
        some ({ progress with level := level.add ⟨.empty, 0, false⟩ }, s)
    | _ => none
  | s => some (progress.enter flags, s)

/-- Ends the innermost group. -/
def leave (progress : Progress) : Option Progress :=
  match progress.outer with
  | [] => none
  | parent :: outer =>
    let group := progress.level.close
    some { progress with level := parent.add { group with depth := group.depth + 1 }, outer }

/-! ## Repetitions -/

/-- Repeats the last item. -/
def repeatLast (progress : Progress) (least : Nat) (most : Option Nat) (greedy : Bool) :
    Option Progress :=
  match progress.level.items with
  | [] => none
  | item :: items =>
    if item.repeatable then
      let node := Node.repeated least most (greedy != progress.level.flags.swapGreed) item.node
      some { progress with
        level := { progress.level with items := ⟨node, item.depth + 1, true⟩ :: items } }
    else none

/-- Cuts off a question mark, which makes a repetition prefer fewer rounds. -/
def splitGreed : List Char → Bool × List Char
  | '?' :: s => (false, s)
  | s => (true, s)

/-- Reads a repetition after its sign. -/
def readRepetition (progress : Progress) (least : Nat) (most : Option Nat) (s : List Char) :
    Option (Progress × List Char) := do
  let (greedy, s) := splitGreed s
  return (← progress.repeatLast least most greedy, s)

/-- Counts are below this bound: they have to fit 32 bits. -/
def countLimit : Nat := 4294967296

/-- Reads a count, with blanks around it. -/
def readCount (flags : Flags) (s : List Char) : Option (Nat × List Char) :=
  let (digits, s) := spanSkipping flags isAsciiDigit (s.dropWhile isBlank)
  if digits.isEmpty || countLimit ≤ digitsValue digits then none
  else some (digitsValue digits, skipIgnored flags (s.dropWhile isBlank))

/-- Reads the counts of a repetition after its brace. -/
def readCounts (flags : Flags) (s : List Char) : Option ((Nat × Option Nat) × List Char) := do
  let (least, s) ← readCount flags (skipIgnored flags s)
  match s with
  | '\x7d' :: s => return ((least, some least), s)
  | ',' :: s =>
    match skipIgnored flags s with
    | '\x7d' :: s => return ((least, none), s)
    | s =>
      let (most, s) ← readCount flags s
      match s with
      | '\x7d' :: s => if least ≤ most then return ((least, some most), s) else none
      | _ => none
  | _ => none

/-! ## Steps -/

/-- The node of a single element. -/
def nodeOf (flags : Flags) : Primitive → Node
  | .literal c => .one (flags.fold (CharSet.single c))
  | .set set => .one set
  | .look look => .look look

/-- The set of the dot: everything but the ends of lines, unless the flags say otherwise. -/
def dotSet (flags : Flags) : CharSet :=
  if flags.dotMatchesAll then CharSet.all
  else if flags.returns then CharSet.allBut ['\r', '\n']
  else CharSet.allBut ['\n']

/-- Reads one piece of a pattern. -/
def step (progress : Progress) (s : List Char) : Option (Progress × List Char) :=
  let flags := progress.level.flags
  match s with
  | [] => none
  | '(' :: s => progress.readGroup s
  | ')' :: s => progress.leave.map (·, s)
  | '|' :: s => some ({ progress with level := progress.level.endBranch }, s)
  | '[' :: s => do
    let (nested, s) ← readBracket flags s
    return (progress.add ⟨.one nested.set, nested.depth, true⟩, s)
  | '?' :: s => progress.readRepetition 0 (some 1) s
  | '*' :: s => progress.readRepetition 0 none s
  | '+' :: s => progress.readRepetition 1 none s
  | '\x7b' :: s => do
    let ((least, most), s) ← readCounts flags s
    progress.readRepetition least most (skipIgnored flags s)
  | '\\' :: s => do
    let (element, s) ← readEscape flags s
    return (progress.add (Item.plain (nodeOf flags element)), s)
  | '.' :: s =>
    if flags.unicode then some (progress.add (Item.plain (.one (dotSet flags))), s) else none
  | '^' :: s =>
    let look := if flags.multiLine then Look.lineStart flags.returns else .textStart
    some (progress.add (Item.plain (.look look)), s)
  | '$' :: s =>
    let look := if flags.multiLine then Look.lineEnd flags.returns else .textEnd
    some (progress.add (Item.plain (.look look)), s)
  | c :: s => some (progress.add (Item.plain (nodeOf flags (.literal c))), s)

/-- Reads the rest of a pattern, at most so many pieces. -/
def run : Nat → Progress → List Char → Option Progress
  | 0, _, _ => none
  | fuel + 1, progress, s =>
    match skipIgnored progress.level.flags s with
    | [] => if progress.outer.isEmpty then some progress else none
    | s => do
      let (progress, s) ← progress.step s
      run fuel progress s

end Progress

/-- How deep a pattern may be nested. -/
def maxDepth : Nat := 250

/-- Reads a pattern. -/
def Node.read? (cs : List Char) : Option Node := do
  let progress ← Progress.run (cs.length + 1) Progress.start cs
  let item := progress.level.close
  if item.depth ≤ maxDepth then some item.node else none

end Intake.Pattern
