import Intake.Build
import Intake.Text.Utf8

/-!
# Bulk payloads

A bulk payload is a stream of lines: before each document line stands, unless it is switched off, an
action line that names the index and the document's id.

The payload goes to a sink of bytes. A sink may have room for so many bytes only; what does not fit
is taken up to the last free byte, and from then on every write fails.
-/

namespace Intake

/-! ## Sinks -/

/-- Where bytes go. -/
structure Sink where
  /-- The bytes taken so far. -/
  bytes : List UInt8
  /-- How many more are taken; without a number, there is no limit. -/
  room : Option Nat
  /-- Does flushing work? -/
  flushes : Bool
  deriving Repr, Inhabited

namespace Sink

/-- A sink that takes everything. -/
def unlimited : Sink := ⟨[], none, true⟩

/-- A sink for so many bytes. -/
def limited (room : Nat) : Sink := ⟨[], some room, true⟩

/-- Writes bytes. Those that fit are taken in any case. -/
def write (sink : Sink) (bytes : List UInt8) : Except IoFault Unit × Sink :=
  match sink.room with
  | none => (.ok (), { sink with bytes := sink.bytes ++ bytes })
  | some room =>
    -- what fits is taken even if the write as a whole fails
    let sink :=
      { sink with bytes := sink.bytes ++ bytes.take room, room := some (room - bytes.length) }
    (if bytes.length ≤ room then .ok () else .error .sinkFull, sink)

/-- **A sink without a limit takes everything.** -/
theorem write_of_room_eq_none {sink : Sink} (bytes : List UInt8) (h : sink.room = none) :
    sink.write bytes = (.ok (), { sink with bytes := sink.bytes ++ bytes }) := by
  simp [write, h]

/-- Flushes the sink. -/
def flush (sink : Sink) : Except IoFault Unit :=
  if sink.flushes then .ok () else .error .flushFailed

end Sink

/-! ## Writers -/

/-- Writes documents to a sink as a bulk payload. -/
structure BulkWriter where
  sink : Sink
  index : String
  actionLines : Bool
  /-- How many documents were written. -/
  written : Nat
  deriving Repr, Inhabited

namespace BulkWriter

/-- A writer with action lines. -/
def ofSink (sink : Sink) (index : String) : BulkWriter := ⟨sink, index, true, 0⟩

/-- The action of putting a document into an index. -/
def action (index : String) (id : Option String) : Json :=
  .object
    [("index", .object
      (("_index", Json.string index) ::
        (match id with
          | some id => [("_id", .string id)]
          | none => [])))]

/-- The bytes of the line feed that ends a line. -/
def lineFeed : List UInt8 := [10]

/-- The bytes of an action, without the end of its line. -/
def actionBytes (index : String) (id : Option String) : List UInt8 :=
  Text.encode (action index id).chars

/-- Writes bytes; a failure is an error of the given kind. -/
def put (writer : BulkWriter) (kind : IoFault → IngestError) (bytes : List UInt8) :
    Except IngestError Unit × BulkWriter :=
  let (result, sink) := writer.sink.write bytes
  (result.mapError kind, { writer with sink })

/-- Writes pieces one after the other until one fails. -/
def putAll : BulkWriter → List ((IoFault → IngestError) × List UInt8) →
    Except IngestError Unit × BulkWriter
  | writer, [] => (.ok (), writer)
  | writer, (kind, bytes) :: rest =>
    match writer.put kind bytes with
    | (.ok (), writer) => writer.putAll rest
    | failed => failed

/-- The pieces of a document's frame, and the kind of error if one cannot be written: the action and
its line feed, if action lines are on, then the document line and its line feed. -/
def frame (writer : BulkWriter) (doc : Built) : List ((IoFault → IngestError) × List UInt8) :=
  (if writer.actionLines then
    [(.json, actionBytes writer.index doc.id), (.io, lineFeed)]
  else []) ++
    [(.io, Text.utf8 doc.line), (.io, lineFeed)]

/-- Writes a document. A line that holds a line feed is refused before anything is written. -/
def writeDocument (writer : BulkWriter) (doc : Built) : Except IngestError Unit × BulkWriter :=
  if Builder.hasLineFeed doc.line then (.error .multiLine, writer)
  else
    match writer.putAll (writer.frame doc) with
    | (.ok (), writer) => (.ok (), { writer with written := writer.written + 1 })
    | failed => failed

/-- Flushes the sink. -/
def flush (writer : BulkWriter) : Except IngestError Unit := writer.sink.flush.mapError .io

end BulkWriter

end Intake
