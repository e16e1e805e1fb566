import Intake.Command.Job

/-!
# The command

Reads the files that the command line names, runs the command on them, and leaves the payload on
standard output and a report of what went wrong on standard error.
-/

namespace Intake.Command

/-- Looks a file up on disk. -/
def lookUpFile (path : String) : IO Lookup := do
  try
    return .file (← IO.FS.readBinFile path).toList
  catch error =>
    match error with
    | .noFileOrDirectory .. => return .missing
    | _ => return .directory

/-- Reads a stream to its end, onto the bytes before. -/
partial def readStream (stream : IO.FS.Stream) (before : ByteArray) : IO ByteArray := do
  let bytes ← stream.read 65536
  if bytes.isEmpty then return before else readStream stream (before ++ bytes)

end Intake.Command

open Intake.Command in
/-- Runs the command on the files that its arguments name. -/
def main (arguments : List String) : IO UInt32 := do
  let found ← (filesOf arguments).mapM fun path => do return (path, ← lookUpFile path)
  let standardInput ←
    if readsStandardInput arguments then readStream (← IO.getStdin) ByteArray.empty
    else pure ByteArray.empty
  let outcome :=
    run arguments (fun path => (found.lookup path).getD .missing) standardInput.toList
  let output ← IO.getStdout
  output.write (ByteArray.mk outcome.output.toArray)
  output.flush
  IO.eprint outcome.report
  return UInt32.ofNat outcome.exitCode
