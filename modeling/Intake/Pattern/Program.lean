import Intake.Pattern.Basic

/-!
# Programs for patterns

A pattern is run as a program of states that a thread goes through: it takes a character, checks its
place, or splits in two, of which the first is preferred. Programs are built from the end of a
pattern to its start, so that every state knows where to go on; only a loop leads back.

`Node.size` estimates what a pattern would need before anything is built.
-/

namespace Intake.Pattern

/-- A state of a program. -/
inductive State where
  | take (set : CharSet) (next : Nat)
  | look (look : Look) (next : Nat)
  | split (preferred other : Nat)
  | accept
  deriving Repr, Inhabited

/-- States by number, and the one to begin with. -/
structure Program where
  states : Array State
  start : Nat
  deriving Repr, Inhabited

/-- A builder of states: it adds states that go on with a given one, and says where they begin. -/
abbrev Fragment := Nat → Array State → Nat × Array State

namespace Fragment

/-- Adds a single state. -/
def state (make : Nat → State) : Fragment := fun next states => (states.size, states.push (make next))

/-- One fragment after the other. -/
def append (first second : Fragment) : Fragment := fun next states =>
  let (middle, states) := second next states
  first middle states

/-- A split between a fragment and going on, in the order of preference. -/
def fork (greedy : Bool) (inner next : Nat) : State :=
  if greedy then .split inner next else .split next inner

/-- Either of two fragments. -/
def either (preferred other : Fragment) : Fragment := fun next states =>
  let (a, states) := preferred next states
  let (b, states) := other next states
  (states.size, states.push (.split a b))

/-- A fragment so many times. -/
def times (body : Fragment) : Nat → Fragment
  | 0 => fun next states => (next, states)
  | n + 1 => append body (times body n)

/-- A fragment at most so many times: each round may be the last. -/
def atMost (greedy : Bool) (body : Fragment) : Nat → Fragment
  | 0 => fun next states => (next, states)
  | n + 1 => fun next states =>
    let (more, states) := atMost greedy body n next states
    let (inner, states) := body more states
    (states.size, states.push (fork greedy inner next))

/-- A fragment once or more: the state after a round leads back. The number of that state comes
first. -/
def loop (greedy : Bool) (body : Fragment) (next : Nat) (states : Array State) :
    Nat × Nat × Array State :=
  let back := states.size
  let (inner, states) := body back (states.push .accept)
  (back, inner, states.setIfInBounds back (fork greedy inner next))

/-- A fragment once or more. -/
def onceOrMore (greedy : Bool) (body : Fragment) : Fragment := fun next states =>
  let (_, inner, states) := loop greedy body next states
  (inner, states)

/-- A fragment any number of times. If it can be empty, the loop is entered by a split of its own:
an empty round then goes on after the loop and is not mistaken for none. -/
def anyNumber (greedy nullable : Bool) (body : Fragment) : Fragment := fun next states =>
  let (back, inner, states) := loop greedy body next states
  if nullable then (states.size, states.push (fork greedy inner next)) else (back, states)

end Fragment

/-- The fragment of a node. -/
def Node.fragment : Node → Fragment
  | .empty => fun next states => (next, states)
  | .one set => Fragment.state (.take set)
  | .look condition => Fragment.state (.look condition)
  | .sequence a b => Fragment.append a.fragment b.fragment
  | .choice a b => Fragment.either a.fragment b.fragment
  | .repetition least most greedy body =>
    match least, most with
    | 0, none => Fragment.anyNumber greedy body.isNullable body.fragment
    | n + 1, none =>
      Fragment.append (Fragment.times body.fragment n) (Fragment.onceOrMore greedy body.fragment)
    | n, some most =>
      Fragment.append (Fragment.times body.fragment n)
        (Fragment.atMost greedy body.fragment (most - n))

/-- The program of a pattern. -/
def Program.ofNode (node : Node) : Program :=
  let (start, states) := node.fragment 0 #[.accept]
  ⟨states, start⟩

/-! ## Size -/

/-- An estimate of the bytes that a set takes up in a compiled pattern. -/
def CharSet.size : CharSet → Nat
  | .ranges table => 48 + 40 * table.length
  | .digit => 4000
  | .blank => 700
  | .word => 48000
  | .category _ => 30000
  | .script _ => 2000
  | .union a b | .intersection a b | .difference a b | .symmetricDifference a b => a.size + b.size
  | .complement a | .caseClosure a | .asciiCaseClosure a => a.size + 200

/-- An estimate of the bytes that a node takes up in a compiled pattern. -/
def Node.size : Node → Nat
  | .empty => 0
  | .one set => set.size
  | .look _ => 32
  | .sequence a b => a.size + b.size
  | .choice a b => a.size + b.size + 40
  | .repetition least most _ body =>
    match most with
    | none => max least 1 * (body.size + 40)
    | some most => most * (body.size + 40)

end Intake.Pattern
