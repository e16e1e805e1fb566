import Intake.Bulk

/-!
# Runs over many records

Records are built and written in turn. They come as the lines of a stream, where blank lines are
passed over, or as values that have been read already. With `skipErrors`, records that cannot be
built are counted and left out; errors of configuration and of the outside world end the run in any
case.
-/

namespace Intake

/-- What became of the records of a run. -/
structure IngestStats where
  built : Nat
  skipped : Nat
  deriving DecidableEq, Repr, Inhabited

/-- No records yet. -/
def IngestStats.zero : IngestStats := ⟨0, 0⟩

/-! ## Lines -/

/-- Drops a carriage return at the end. -/
def dropReturn (line : List UInt8) : List UInt8 :=
  if line.getLast? = some 13 then line.dropLast else line

/-- The lines among pieces that were cut at line feeds: a piece that a line feed follows loses the
carriage return before it, and the last piece is a line only if there is something in it. -/
def linesOfPieces : List (List UInt8) → List (List UInt8)
  | [] => []
  | [last] => if last.isEmpty then [] else [last]
  | piece :: rest => dropReturn piece :: linesOfPieces rest

/-- The lines of a stream. -/
def streamLines (bytes : List UInt8) : List (List UInt8) :=
  linesOfPieces (Text.splitAtEach (· == 10) bytes)

/-! ## Runs -/

/-- How far a run has come. -/
structure Run where
  writer : BulkWriter
  scratch : Scratch
  stats : IngestStats
  deriving Inhabited

/-- A run that has not begun. -/
def Run.start (writer : BulkWriter) : Run := ⟨writer, Scratch.empty, IngestStats.zero⟩

/-- What to do after a record: go on, or end the run with an error. -/
abbrev RunStep := Except IngestError Unit × Run

/-- Writes a record that was built and counts it. -/
def Run.accept (run : Run) (doc : Built) : RunStep :=
  match run.writer.writeDocument doc with
  | (.ok (), writer) =>
    (.ok (), { run with writer, stats := { run.stats with built := run.stats.built + 1 } })
  | (.error error, writer) => (.error error, { run with writer })

/-- Takes note of a record that was not built. -/
def Run.refuse (run : Run) (skipErrors : Bool) (error : IngestError) : RunStep :=
  -- an error of configuration would come back with every record
  if skipErrors && !error.isConfiguration then
    (.ok (), { run with stats := { run.stats with skipped := run.stats.skipped + 1 } })
  else (.error error, run)

/-- Takes in the outcome of building a record. -/
def Run.take (run : Run) (skipErrors : Bool) :
    Except IngestError Built × Scratch → RunStep
  | (.ok doc, scratch) => { run with scratch }.accept doc
  | (.error error, scratch) => { run with scratch }.refuse skipErrors error

/-- The number of records that were dealt with, which is also the number of the next one. -/
def Run.position (run : Run) : Nat := run.stats.built + run.stats.skipped

/-- Takes in a record that has been read already. -/
def Run.takeRecord (run : Run) (builder : Builder) (skipErrors : Bool) (record : Json) : RunStep :=
  run.take skipErrors (builder.buildTree (Tree.ofJson record) run.scratch)

/-- Takes in the line of a stream. -/
def Run.takeLine (run : Run) (builder : Builder) (skipErrors : Bool) (line : List UInt8) : RunStep :=
  match Text.ofUtf8? line with
  | none => (.error (.io .invalidUtf8), run)
  | some text =>
    if Text.isBlankText text then (.ok (), run)
    else run.take skipErrors (builder.buildText text run.scratch)

/-- Repeats a step for each of some records until one ends the run. -/
def Run.each {α : Type} (step : Run → α → RunStep) : Run → List α → RunStep
  | run, [] => (.ok (), run)
  | run, a :: rest =>
    match step run a with
    | (.ok (), run) => Run.each step run rest
    | ended => ended

/-- Builds and writes records that have been read already. -/
def runRecords (builder : Builder) (writer : BulkWriter) (skipErrors : Bool) (records : List Json) :
    RunStep :=
  Run.each (fun run record => run.takeRecord builder skipErrors record) (Run.start writer) records

/-- Builds and writes the lines of a stream. -/
def runLines (builder : Builder) (writer : BulkWriter) (skipErrors : Bool) (bytes : List UInt8) :
    RunStep :=
  Run.each (fun run line => run.takeLine builder skipErrors line) (Run.start writer)
    (streamLines bytes)

/-- Ends a run that went through: the sink is flushed, and the counts are the result. -/
def Run.finish : RunStep → Except IngestError IngestStats × BulkWriter
  | (.error error, run) => (.error error, run.writer)
  | (.ok (), run) =>
    match run.writer.flush with
    | .ok () => (.ok run.stats, run.writer)
    | .error error => (.error error, run.writer)

/-- Builds and writes every line of a stream, and flushes the sink. -/
def ingestStream (builder : Builder) (writer : BulkWriter) (skipErrors : Bool)
    (bytes : List UInt8) : Except IngestError IngestStats × BulkWriter :=
  Run.finish (runLines builder writer skipErrors bytes)

end Intake
