import Intake.Json.Reader
import Intake.Numeral.Integer
import Intake.Numeral.Shortest

/-!
# Machine numbers

Instead of keeping the digits of every number, a reader may turn each into a machine number: an
integer that fits 64 bits, or the nearest floating-point number. `Json.toMachine?` does so for all
numbers of a value. A number that is too large for its kind is refused, and so is the whole value.
-/

namespace Intake.Json

open Intake.Numeral

/-- A whole number that fits 64 bits, with or without a sign. -/
def machineInteger? (n : Literal) : Option Literal :=
  let value : Int := if n.negative then -(n.value.coefficient : Int) else n.value.coefficient
  if leastInt 64 ≤ value ∧ value < twoTo 64 then some (Literal.ofInt value) else none

/-- The machine number of a literal: an integer if it is written as one, and otherwise the shortest
text of the nearest floating-point number. -/
def machineNumber? (n : Literal) : Option Literal :=
  if n.fraction.isNone && n.exponent.isNone then machineInteger? n
  else (binary64.round n.value).map fun x => x.literal .json

mutual

/-- Turns every number of a value into a machine number. -/
def toMachine? : Json → Option Json
  | .null => some .null
  | .bool value => some (.bool value)
  | .number n => (machineNumber? n).map .number
  | .string value => some (.string value)
  | .array items => (itemsToMachine? items).map .array
  | .object members => (membersToMachine? members).map .object

/-- Turns every number of some values into machine numbers. -/
def itemsToMachine? : List Json → Option (List Json)
  | [] => some []
  | item :: rest => do
    let item ← item.toMachine?
    let rest ← itemsToMachine? rest
    return item :: rest

/-- Turns every number of an object's members into machine numbers. -/
def membersToMachine? : List (String × Json) → Option (List (String × Json))
  | [] => some []
  | (key, value) :: rest => do
    let value ← value.toMachine?
    let rest ← membersToMachine? rest
    return (key, value) :: rest

end

/-- Reads a text with machine numbers. Lists and objects may be nested to any depth, of which there
are no more than there are characters. -/
def readMachine? (text : List Char) : Option Json :=
  match readAll (readValue false text.length) text with
  | .ok value => value.toMachine?
  | .error _ => none

end Intake.Json
