import Intake.Text.Digit

/-!
# Faults of patterns

A text may not be a pattern at all, or one that would take up too much room.
-/

namespace Intake.Pattern

/-- How many bytes a compiled pattern may take up. -/
def sizeLimit : Nat := 10485760

/-- Why a text is not a usable pattern. -/
inductive Fault where
  | unreadable
  | tooLarge
  deriving DecidableEq, Repr

/-- The wording of a fault. -/
def Fault.message : Fault → String
  | .unreadable => "regex parse error:"
  | .tooLarge =>
    "Compiled regex exceeds size limit of " ++ String.ofList (Text.numeral sizeLimit) ++ " bytes."

end Intake.Pattern
