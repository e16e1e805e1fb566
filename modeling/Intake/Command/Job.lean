import Intake.Command.Failure
import Intake.Command.Options
import Intake.Json.Machine
import Intake.Pipeline.Codec
import Intake.Stream

/-!
# Jobs of the command

`Job.prepare` makes a job of the options and the configuration file, and `Job.run` turns an input
into a bulk payload. An input is either a stream of lines or a single JSON document, whose items are
the records if it is an array; anything else is one record.

What was written before a failure stays written.
-/

namespace Intake.Command

open Intake.Calendar

/-- What is found when a file is looked up. -/
inductive Lookup where
  | missing
  | directory
  | file (bytes : List UInt8)
  deriving DecidableEq, Repr, Inhabited

/-- What the command leaves behind. -/
structure Outcome where
  exitCode : Nat
  output : List UInt8
  report : String
  deriving DecidableEq, Repr, Inhabited

/-- The exit code for a command line that is not in order. -/
def usageExitCode : Nat := 2

/-- The exit code for a failure. -/
def failureExitCode : Nat := 1

namespace Outcome

/-- The outcome of a command line that is not in order. -/
def usage : Outcome := ⟨usageExitCode, [], ""⟩

/-- The outcome of a failure after some output. -/
def failed (output : List UInt8) (failure : Failure) : Outcome :=
  ⟨failureExitCode, output, failure.report⟩

/-- The outcome of a run. -/
def ofRun : Except Failure IngestStats × BulkWriter → Outcome
  | (.ok _, writer) => ⟨0, writer.sink.bytes, ""⟩
  | (.error failure, writer) => failed writer.sink.bytes failure

end Outcome

/-! ## Configuration -/

/-- The bytes of a file, or why they cannot be read. -/
def Lookup.read : Lookup → Except IoFault (List UInt8)
  | .missing => .error .notFound
  | .directory => .error .isDirectory
  | .file bytes => .ok bytes

/-- Reads a configuration file. -/
def readConfig (path : String) (found : Lookup) : Except IngestError Pipeline := do
  let bytes ← found.read.mapError .io
  match Text.ofUtf8? bytes with
  | none => .error (.io .invalidUtf8)
  | some text => (Pipeline.parse text).mapError fun fault => .config (.inFile path fault)

/-- Everything that a run needs besides its input. -/
structure Job where
  builder : Builder
  index : String
  options : Options

/-- Makes a job. The command line overrides how dates are read. -/
def Job.prepare (options : Options) (found : Lookup) : Except Failure Job := do
  let pipeline ← (readConfig options.config found).mapError
    (.during ("Failed to load config: " ++ options.config))
  let dates := if options.epochDates then DatePolicy.textOrEpoch else pipeline.dates
  let builder ← Pipeline.builder { pipeline with dates } |>.mapError
    (.during "Invalid pipeline configuration")
  return ⟨builder, pipeline.index.name, options⟩

namespace Job

/-- The writer of a job. -/
def writer (job : Job) : BulkWriter :=
  { BulkWriter.ofSink Sink.unlimited job.index with actionLines := job.options.actionLines }

/-! ## Documents as input -/

/-- What stands before the reason why an input is not a JSON document. -/
def notDocument : String :=
  "Input is not a JSON document (use --ndjson for line-delimited input): "

/-- Reads an input as a JSON document. -/
def readDocument (job : Job) (bytes : List UInt8) : Except Failure Json :=
  let refuse (reason : String) : Except Failure Json := .error ⟨notDocument ++ reason, []⟩
  match Text.decode bytes with
  | none => refuse IoFault.invalidUtf8.message
  | some text =>
    if job.options.machineNumbers then
      match Json.readMachine? text with
      | some value => .ok value
      | none => refuse "invalid text or number out of range"
    else
      match Json.read (String.ofList text) with
      | .ok value => .ok value
      | .error refusal => refuse refusal.message

/-- The records of a document. -/
def records : Json → List Json
  | .array items => items
  | value => [value]

/-- The failure of a run that an error ended. If the error is about a record, its number is told. -/
def failureOf (run : Run) (error : IngestError) : Failure :=
  match error with
  -- the outside world is not about any record
  | .io _ | .json _ => .ofError error
  | _ =>
    .during ("Failed to build record " ++ String.ofList (Text.numeral run.position)) error

/-- Ends the run over a document: the sink is flushed, and the counts are the result. -/
def finish : RunStep → Except Failure IngestStats × BulkWriter
  | (.error error, run) => (.error (failureOf run error), run.writer)
  | (.ok (), run) =>
    match run.writer.flush with
    | .ok () => (.ok run.stats, run.writer)
    | .error error => (.error (.ofError error), run.writer)

/-- Runs a job on a single document. -/
def runDocument (job : Job) (writer : BulkWriter) (bytes : List UInt8) :
    Except Failure IngestStats × BulkWriter :=
  match job.readDocument bytes with
  | .error failure => (.error failure, writer)
  | .ok value =>
    finish (runRecords job.builder writer job.options.skipErrors (records value))

/-- Runs a job on a stream of lines. -/
def runStream (job : Job) (writer : BulkWriter) (bytes : List UInt8) :
    Except Failure IngestStats × BulkWriter :=
  let (result, writer) := ingestStream job.builder writer job.options.skipErrors bytes
  (result.mapError .ofError, writer)

/-! ## Runs -/

/-- The failure of an input that can be opened but not read. -/
def unreadable (job : Job) (fault : IoFault) : Failure :=
  if job.options.lines then .ofError (.io fault) else .outside "Failed to read input" fault

/-- Runs a job on what was found as its input. -/
def run (job : Job) (found : Lookup) : Outcome :=
  match found with
  | .missing =>
    .failed [] (.outside ("Failed to open input: " ++ job.options.input.getD "") .notFound)
  | .directory => .failed [] (job.unreadable .isDirectory)
  | .file bytes =>
    .ofRun <|
      if job.options.lines then job.runStream job.writer bytes
      else job.runDocument job.writer bytes

end Job

/-- The files that a command line names. -/
def filesOf (arguments : List String) : List String :=
  match Options.parse? arguments with
  | none => []
  | some options => options.config :: options.input.toList

/-- Does a command line ask for standard input to be read? -/
def readsStandardInput (arguments : List String) : Bool :=
  match Options.parse? arguments with
  | none => false
  | some options => options.input.isNone

/-- Runs the command on a command line, where `lookUp` finds files and `standardInput` is read if no
input file is given. -/
def run (arguments : List String) (lookUp : String → Lookup) (standardInput : List UInt8) : Outcome :=
  match Options.parse? arguments with
  | none => .usage
  | some options =>
    match Job.prepare options (lookUp options.config) with
    | .error failure => .failed [] failure
    | .ok job =>
      job.run <|
        match options.input with
        | some path => lookUp path
        | none => .file standardInput

end Intake.Command
