import Intake.Pattern.Fault
import Intake.Pattern.Program
import Intake.Pattern.Reader

/-!
# Finding matches

`Program.run` follows all threads of a program through a text at once, in the order of preference: a
thread that comes to a state where a better one has been at the same place is given up, and so are
all threads behind one that accepts. `Program.findAll` lists the matches of a text from left to
right.
-/

namespace Intake.Pattern

/-- Threads at one place: the states that take the next character, best first, and whether a thread
behind them accepts. -/
structure Threads where
  takes : List (CharSet × Nat)
  accepted : Bool
  deriving Repr, Inhabited

namespace Program

/-- Follows threads at one place up to where they take a character, at most so many steps. The
states still to be followed come best first, and what was found so far last first. -/
def follow (program : Program) (before after : Option Char) :
    Nat → List Nat → Array Bool → List (CharSet × Nat) → Threads
  | 0, _, _, found => ⟨found.reverse, false⟩
  | _, [], _, found => ⟨found.reverse, false⟩
  | fuel + 1, state :: waiting, seen, found =>
    -- a better thread has been here already
    if seen[state]?.getD true then program.follow before after fuel waiting seen found
    else
      let seen := seen.setIfInBounds state true
      match program.states[state]? with
      | some (.take set next) =>
        program.follow before after fuel waiting seen ((set, next) :: found)
      | some (.look look next) =>
        if look.holds before after then
          program.follow before after fuel (next :: waiting) seen found
        else program.follow before after fuel waiting seen found
      | some (.split preferred other) =>
        program.follow before after fuel (preferred :: other :: waiting) seen found
      -- all threads behind this one are worse than the match
      | some .accept => ⟨found.reverse, true⟩
      | none => program.follow before after fuel waiting seen found

/-- The threads at one place. A state is followed once and puts two more in line at most. -/
def threads (program : Program) (before after : Option Char) (states : List Nat) : Threads :=
  program.follow before after (states.length + 2 * program.states.size + 1) states
    (Array.replicate program.states.size false) []

/-- Runs threads through a text. The answer is the length of the best match; `length` characters
have been taken and `best` is the best match so far. -/
def run (program : Program) : List Char → Option Char → List Nat → Nat → Option Nat → Option Nat
  | [], before, states, length, best =>
    if (program.threads before none states).accepted then some length else best
  | c :: rest, before, states, length, best =>
    let threads := program.threads before (some c) states
    let best := if threads.accepted then some length else best
    match threads.takes.filterMap fun (set, next) => if set.contains c then some next else none with
    | [] => best
    | states => program.run rest (some c) states (length + 1) best

/-- The length of the match at the start of a text, after a given character. -/
def matchLength? (program : Program) (before : Option Char) (text : List Char) : Option Nat :=
  program.run text before [program.start] 0 none

/-- The matches of a text, after a given character. An empty match right after another match is
passed over. -/
def findFrom (program : Program) (before : Option Char) (afterMatch : Bool) (text : List Char) :
    List (List Char) :=
  match program.matchLength? before text, text with
  | none, [] => []
  | some _, [] => if afterMatch then [] else [[]]
  | none, c :: rest => program.findFrom (some c) false rest
  | some 0, c :: rest =>
    (if afterMatch then [] else [[]]) ++ program.findFrom (some c) false rest
  | some (n + 1), c :: rest =>
    let found := c :: rest.take n
    found :: program.findFrom found.getLast? true (rest.drop n)
termination_by text.length
decreasing_by all_goals simp_wf; try omega

/-- The matches of a text from left to right. -/
def findAll (program : Program) (text : List Char) : List (List Char) :=
  program.findFrom none false text

end Program

/-! ## Patterns by their text -/

/-- Reads a pattern and builds its program. -/
def Program.ofText (text : String) : Except Fault Program :=
  match Node.read? text.toList with
  | none => .error .unreadable
  | some node => if node.size ≤ sizeLimit then .ok (Program.ofNode node) else .error .tooLarge

end Intake.Pattern
