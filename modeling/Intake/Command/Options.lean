/-!
# Command-line options

The command takes a configuration file, perhaps an input file, and some switches. No option may be
given twice. An option's value is the next argument or stands after an equals sign, and a single
letter may have its value attached.
-/

namespace Intake.Command

/-- What the command line asks for. -/
structure Options where
  config : String
  /-- The input file; without one, standard input is read. -/
  input : Option String
  /-- Is every line of the input a record of its own? -/
  lines : Bool
  skipErrors : Bool
  actionLines : Bool
  epochDates : Bool
  /-- Are numbers read as machine numbers? -/
  machineNumbers : Bool
  deriving DecidableEq, Repr, Inhabited

/-- The switches. -/
inductive Switch where
  | lines | skipErrors | noActionLines | epochDates | machineNumbers
  deriving DecidableEq, Repr

/-- The switches by name. -/
def switchesByName : List (String × Switch) :=
  [("ndjson", .lines), ("skip-errors", .skipErrors), ("no-action-lines", .noActionLines),
   ("epoch-dates", .epochDates), ("simd", .machineNumbers)]

/-- What has been read of a command line. -/
structure Draft where
  config : Option String
  input : Option String
  switches : List Switch
  deriving DecidableEq, Repr, Inhabited

namespace Draft

/-- Nothing read yet. -/
def empty : Draft := ⟨none, none, []⟩

/-- Takes the configuration file. -/
def takeConfig? (draft : Draft) (path : String) : Option Draft :=
  if draft.config.isSome then none else some { draft with config := some path }

/-- Takes the input file. -/
def takeInput? (draft : Draft) (path : String) : Option Draft :=
  if draft.input.isSome then none else some { draft with input := some path }

/-- Takes a switch. -/
def takeSwitch? (draft : Draft) (name : String) : Option Draft := do
  let switch ← switchesByName.lookup name
  if draft.switches.contains switch then none
  else some { draft with switches := switch :: draft.switches }

/-- The options of a finished draft. The configuration file is needed. -/
def options? (draft : Draft) : Option Options := do
  let config ← draft.config
  return {
    config
    input := draft.input
    lines := draft.switches.contains .lines
    skipErrors := draft.switches.contains .skipErrors
    actionLines := !draft.switches.contains .noActionLines
    epochDates := draft.switches.contains .epochDates
    machineNumbers := draft.switches.contains .machineNumbers }

end Draft

/-- An argument by its form. -/
inductive Argument where
  | plain (text : String)
  /-- Two hyphens alone: from here on, arguments are plain. -/
  | endOfOptions
  | long (name : String) (value : Option String)
  | short (letter : Char) (attached : String)
  deriving DecidableEq, Repr

/-- The form of an argument. A single hyphen is plain. -/
def Argument.ofText (text : String) : Argument :=
  match text.toList with
  | ['-', '-'] => .endOfOptions
  | '-' :: '-' :: cs =>
    let name := String.ofList (cs.takeWhile (· != '='))
    match cs.dropWhile (· != '=') with
    | _ :: value => .long name (some (String.ofList value))
    | [] => .long name none
  | '-' :: letter :: cs => .short letter (String.ofList cs)
  | _ => .plain text

/-- The value attached to a letter, of which an equals sign in front is not part. -/
def attachedValue (text : String) : String :=
  match text.toList with
  | '=' :: cs => String.ofList cs
  | _ => text

/-- Takes the configuration file from the next argument and goes on with `more`. -/
def configNext (draft : Draft) (more : Draft → List String → Option Draft) :
    List String → Option Draft
  | [] => none
  | value :: rest =>
    match Argument.ofText value with
    | .plain path => do more (← draft.takeConfig? path) rest
    | _ => none

/-- Reads arguments onto a draft, at most so many. -/
def readArguments : Nat → Draft → List String → Option Draft
  | _, draft, [] => some draft
  | 0, _, _ => none
  | fuel + 1, draft, text :: rest =>
    match Argument.ofText text with
    | .plain path => do readArguments fuel (← draft.takeInput? path) rest
    | .endOfOptions => rest.foldlM Draft.takeInput? draft
    | .long name none =>
      if name = "config" then configNext draft (readArguments fuel) rest
      else do readArguments fuel (← draft.takeSwitch? name) rest
    | .long name (some value) =>
      if name = "config" then do readArguments fuel (← draft.takeConfig? value) rest else none
    | .short letter attached =>
      if letter ≠ 'c' then none
      else if attached = "" then configNext draft (readArguments fuel) rest
      else do readArguments fuel (← draft.takeConfig? (attachedValue attached)) rest

/-- The options that a command line asks for, if it is in order. -/
def Options.parse? (arguments : List String) : Option Options := do
  let draft ← readArguments arguments.length Draft.empty arguments
  draft.options?

end Intake.Command
