import Intake.Numeral.Literal
import Intake.Table

/-!
# JSON values

A JSON value keeps what its text said: numbers digit for digit, and the members of an object in
their order.
-/

namespace Intake

open Intake.Numeral

/-- A JSON value. -/
inductive Json where
  | null
  | bool (value : Bool)
  | number (value : Literal)
  | string (value : String)
  | array (items : List Json)
  | object (members : List (String × Json))
  deriving Repr, Inhabited

namespace Json

/-- The value of an object's member. -/
def get? (key : String) : Json → Option Json
  | .object members => members.lookup key
  | _ => none

/-- The value of an integer. -/
def ofNat (n : Nat) : Json := .number (Literal.ofInt n)

end Json

end Intake
