import Intake.Error

/-!
# Failures of the command

A failure is what the command gives up with: what it was doing, and the chain of causes below, which
are numbered if there are several. Lines after the first of a cause are indented like it.
-/

namespace Intake.Command

/-- A failure and its causes, outermost first. -/
structure Failure where
  message : String
  causes : List String
  deriving DecidableEq, Repr, Inhabited

namespace Failure

/-- The failure of an error by itself. -/
def ofError (error : IngestError) : Failure := ⟨error.message, error.causes⟩

/-- An error as the cause of a failure. -/
def during (doing : String) (error : IngestError) : Failure :=
  ⟨doing, error.message :: error.causes⟩

/-- An outside fault as the cause of a failure. -/
def outside (doing : String) (fault : IoFault) : Failure := ⟨doing, [fault.message]⟩

/-- Starts every further line with some blanks. -/
def indentLines (width : Nat) (text : String) : String :=
  String.ofList (text.toList.flatMap fun c =>
    if c = '\n' then '\n' :: List.replicate width ' ' else [c])

/-- The lines of numbered causes. -/
def numberedCauses : Nat → List String → String
  | _, [] => ""
  | n, cause :: rest =>
    let number := Text.numeral n
    "\n" ++ String.ofList (List.replicate (5 - number.length) ' ' ++ number) ++ ": " ++
      indentLines 7 cause ++ numberedCauses (n + 1) rest

/-- The causes below their heading. -/
def causesText : List String → String
  | [] => ""
  | [cause] => "\n\nCaused by:\n    " ++ indentLines 4 cause
  | causes => "\n\nCaused by:" ++ numberedCauses 0 causes

/-- What is reported of a failure. -/
def report (failure : Failure) : String :=
  "Error: " ++ failure.message ++ causesText failure.causes ++ "\n"

end Failure

end Intake.Command
