import Intake.Pattern.Basic
import Intake.Pattern.Flags
import Intake.Pattern.Named
import Intake.Text.Utf8

/-!
# Escapes

A backslash gives the characters after it a meaning, or takes one away. An escape stands for a single
character, a set of characters or a place.
-/

namespace Intake.Pattern

open Intake.Text

/-- What an escape stands for. -/
inductive Primitive where
  | literal (c : Char)
  | set (set : CharSet)
  | look (look : Look)
  deriving Repr

/-! ## Characters by number -/

/-- Reads so many hexadecimal digits. -/
def readHexDigits (flags : Flags) : Nat → Nat → List Char → Option (Nat × List Char)
  | 0, value, s => some (value, s)
  | _, _, [] => none
  | count + 1, value, c :: s => do
    let digit ← hexValue? c
    readHexDigits flags count (16 * value + digit) (skipIgnored flags s)

/-- The number that hexadecimal digits write. -/
def hexNumber (cs : List Char) : Nat :=
  cs.foldl (fun value c => 16 * value + (hexValue? c).getD 0) 0

/-- Reads a character by its number, which has so many digits or stands in braces. A number of two
digits is a byte, and one beyond ASCII needs the flag for it. -/
def readNumbered (flags : Flags) (digits : Nat) (s : List Char) : Option (Primitive × List Char) :=
  match skipIgnored flags s with
  | '\x7b' :: s => do
    let (cs, s) := spanSkipping flags (fun c => (hexValue? c).isSome) (skipIgnored flags s)
    match s with
    | '\x7d' :: s =>
      if cs.isEmpty then none
      else do return (.literal (← charOfCode? (hexNumber cs)), skipIgnored flags s)
    | _ => none
  | s => do
    let (n, s) ← readHexDigits flags digits 0 s
    if digits = 2 ∧ 128 ≤ n ∧ flags.unicode = false then none
    else return (.literal (← charOfCode? n), s)

/-! ## Classes -/

/-- The digits, blanks or word characters, within ASCII or not. -/
def classOfLetter (unicode : Bool) (letter : Char) : CharSet :=
  match letter, unicode with
  | 'd', true => .digit
  | 's', true => .blank
  | 'd', false => .ranges [(0x30, 0x39)]
  | 's', false => .ranges [(0x09, 0x0D), (0x20, 0x20)]
  | _, true => .word
  | _, false => .ranges asciiWordRanges

/-- Cuts a text before the first place where another one begins. -/
def cutAt? (mark : List Char) : List Char → Option (List Char × List Char)
  | [] => none
  | c :: s =>
    if mark.isPrefixOf (c :: s) then some ([], (c :: s).drop mark.length)
    else (cutAt? mark s).map fun (before, after) => (c :: before, after)

/-- The set of a name in braces, which may be a property with a value; `!=` negates it. -/
def setOfBraces? (name : List Char) : Option (CharSet × Bool) :=
  match cutAt? ['!', '='] name with
  | some (property, value) => (setOfValue? property value).map (·, true)
  | none =>
    match (cutAt? [':'] name).or (cutAt? ['='] name) with
    | some (property, value) => (setOfValue? property value).map (·, false)
    | none => (setOfName? name).map (·, false)

/-- Reads the name of a set, a letter or a text in braces. -/
def readSetName (flags : Flags) (s : List Char) : Option ((CharSet × Bool) × List Char) :=
  match skipIgnored flags s with
  | [] => none
  | '\x7b' :: s =>
    let (name, s) := spanSkipping flags (· != '\x7d') (skipIgnored flags s)
    match s with
    | '\x7d' :: s => do return (← setOfBraces? name, s)
    | _ => none
  | c :: s =>
    if c = '\\' then none
    else do return ((← setOfName? [c], false), skipIgnored flags s)

/-- Reads a set by name. -/
def readNamedSet (flags : Flags) (negated : Bool) (s : List Char) :
    Option (Primitive × List Char) := do
  let ((set, inverted), s) ← readSetName flags s
  if flags.unicode then
    return (.set (← flags.negate? (negated != inverted) (flags.fold set)), s)
  else none

/-! ## Places -/

/-- The names of word edges in braces. -/
def edgeNames : List (String × WordEdge) :=
  [("start", .wordStart), ("end", .wordEnd), ("start-half", .afterNoWord),
   ("end-half", .beforeNoWord)]

/-- Can the character be part of an edge's name? -/
def isEdgeLetter (c : Char) : Bool := c.isAlpha || c == '-'

/-- Reads the name of a word edge in braces, if there is one; braces with anything else in them are
left alone. -/
def readEdge (flags : Flags) (s : List Char) : Option (WordEdge × List Char) :=
  match s with
  | '\x7b' :: inner =>
    match skipIgnored flags inner with
    | [] => none
    | c :: rest =>
      if isEdgeLetter c then
        let (name, rest) := spanSkipping flags isEdgeLetter (c :: rest)
        match rest with
        | '\x7d' :: rest => (edgeNames.lookup (String.ofList name)).map (·, rest)
        | _ => none
      else some (.boundary, s)
  | _ => some (.boundary, s)

/-! ## Escapes -/

/-- The characters with a meaning of their own. -/
def isMeta (c : Char) : Bool :=
  ['\\', '.', '+', '*', '?', '(', ')', '|', '[', ']', '\x7b', '\x7d', '^', '$', '#', '&', '-',
   '~'].contains c

/-- Can the character be escaped to stand for itself? -/
def isEscapable (c : Char) : Bool :=
  isMeta c || (c.toNat < 128 && !c.isAlphanum && c != '<' && c != '>')

/-- Reads an escape after its backslash. -/
def readEscape (flags : Flags) (s : List Char) : Option (Primitive × List Char) :=
  let word (edge : WordEdge) : Primitive := .look (.word edge flags.unicode)
  match s with
  | [] => none
  | c :: s =>
    match c with
    | 'x' => readNumbered flags 2 s
    | 'u' => readNumbered flags 4 s
    | 'U' => readNumbered flags 8 s
    | 'p' => readNamedSet flags false s
    | 'P' => readNamedSet flags true s
    | 'd' | 's' | 'w' => some (.set (classOfLetter flags.unicode c), s)
    | 'D' | 'S' | 'W' => do
      return (.set (← flags.negate? true (classOfLetter flags.unicode c.toLower)), s)
    | 'a' => some (.literal (Char.ofNat 7), s)
    | 'f' => some (.literal (Char.ofNat 12), s)
    | 't' => some (.literal '\t', s)
    | 'n' => some (.literal '\n', s)
    | 'r' => some (.literal '\r', s)
    | 'v' => some (.literal (Char.ofNat 11), s)
    | 'A' => some (.look .textStart, s)
    | 'z' => some (.look .textEnd, s)
    | 'b' => do
      let (edge, s) ← readEdge flags s
      return (word edge, s)
    | 'B' => some (word .noBoundary, s)
    | '<' => some (word .wordStart, s)
    | '>' => some (word .wordEnd, s)
    | _ => if isEscapable c then some (.literal c, s) else none

end Intake.Pattern
