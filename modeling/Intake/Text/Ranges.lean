/-!
# Code-point tables

Character properties are given by tables over code points. A property with two values is a list of
inclusive ranges; a property with many values is a list of runs, each holding from its start up to
the start of the next.

Large tables are written as packed text (`41-5a 61-7a aa`, or `0Cc 20Zs 21Po`), which `unpack`
reads; the small ones are plain lists.
-/

namespace Intake.Text

/-- Inclusive ranges of code points. -/
abbrev Ranges := List (Nat × Nat)

/-- Does one of the ranges hold the character? -/
def Ranges.contains (ranges : Ranges) (c : Char) : Bool :=
  ranges.any fun range => range.1 ≤ c.toNat && c.toNat ≤ range.2

/-! ## Packed tables -/

/-- The value of a lower-case hexadecimal digit. -/
def packedDigit? (c : Char) : Option Nat :=
  if '0' ≤ c ∧ c ≤ '9' then some (c.toNat - 48)
  else if 'a' ≤ c ∧ c ≤ 'f' then some (c.toNat - 87)
  else none

/-- Reads hexadecimal digits onto `value` and hands back what follows them. -/
def readPacked (value : Nat) : List Char → Nat × List Char
  | [] => (value, [])
  | c :: rest =>
    match packedDigit? c with
    | some digit => readPacked (16 * value + digit) rest
    | none => (value, c :: rest)

/-- Cuts a packed table at its blanks. -/
def packedEntries : List Char → List Char → List (List Char)
  | [], entry => if entry.isEmpty then [] else [entry.reverse]
  | c :: rest, entry =>
    if c = ' ' then
      if entry.isEmpty then packedEntries rest [] else entry.reverse :: packedEntries rest []
    else packedEntries rest (c :: entry)

/-- Reads one packed range: `lo-hi`, or `lo` for a single code point. -/
def packedRange (entry : List Char) : Nat × Nat :=
  match readPacked 0 entry with
  | (lo, '-' :: hi) => (lo, (readPacked 0 hi).1)
  | (lo, _) => (lo, lo)

/-- Reads a packed table of ranges, given by rows. -/
def Ranges.unpack (rows : List String) : Ranges :=
  rows.flatMap fun row => (packedEntries row.toList []).map packedRange

/-- Runs of code points with a common value, by ascending start. -/
abbrev Runs (α : Type) := Array (Nat × α)

/-- Reads one packed run: its start, followed by the text of its value. -/
def packedRun {α : Type} (value : String → α) (entry : List Char) : Nat × α :=
  let (start, text) := readPacked 0 entry
  (start, value (String.ofList text))

/-- Reads a packed table of runs, given by rows. -/
def Runs.unpack {α : Type} (value : String → α) (rows : List String) : Runs α :=
  (rows.flatMap fun row => (packedEntries row.toList []).map (packedRun value)).toArray

/-- Narrows the interval `[lo, hi)` of runs around code point `n`, at most `steps` times. -/
def Runs.locate {α : Type} (runs : Runs α) (n : Nat) : Nat → Nat → Nat → Nat
  | 0, lo, _ => lo
  | steps + 1, lo, hi =>
    if hi ≤ lo + 1 then lo
    else
      let mid := (lo + hi) / 2
      match runs[mid]? with
      | some run => if run.1 ≤ n then runs.locate n steps mid hi else runs.locate n steps lo mid
      | none => lo

/-- The value of the run that holds the character. -/
def Runs.get? {α : Type} (runs : Runs α) (c : Char) : Option α :=
  runs[runs.locate c.toNat 32 0 runs.size]?.map (·.2)

end Intake.Text
