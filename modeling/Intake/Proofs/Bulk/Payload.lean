import Intake.Bulk

/-!
# Payloads without a limit

On a sink that takes everything, a document leaves its frame behind, whole and at the end, and is
counted. `BulkWriter.after` is the writer after some documents: nothing else about it has changed.
-/

namespace Intake

/-- A sink that never fails: it has room for everything, and flushing works. -/
def Sink.IsReliable (sink : Sink) : Prop := sink.room = none ∧ sink.flushes = true

namespace BulkWriter

/-- The bytes of a document's frame. -/
def frameBytes (writer : BulkWriter) (doc : Built) : List UInt8 :=
  (writer.frame doc).flatMap fun piece => piece.2

/-- Some more bytes in the sink. -/
def withBytes (writer : BulkWriter) (bytes : List UInt8) : BulkWriter :=
  { writer with sink := { writer.sink with bytes := writer.sink.bytes ++ bytes } }

/-- The writer after some documents: their frames are in the sink, and they are counted. -/
def after (writer : BulkWriter) (docs : List Built) : BulkWriter :=
  { writer.withBytes (docs.flatMap writer.frameBytes) with written := writer.written + docs.length }

theorem after_nil (writer : BulkWriter) : writer.after [] = writer := by
  simp [after, withBytes]

theorem after_after (writer : BulkWriter) (first second : List Built) :
    (writer.after first).after second = writer.after (first ++ second) := by
  have same_frames : (writer.after first).frameBytes = writer.frameBytes := rfl
  rw [after, same_frames]
  simp [after, withBytes, Nat.add_assoc]

/-- Pieces are written one after the other. -/
theorem putAll_of_room {writer : BulkWriter} (endless : writer.sink.room = none)
    (pieces : List ((IoFault → IngestError) × List UInt8)) :
    writer.putAll pieces = (.ok (), writer.withBytes (pieces.flatMap fun piece => piece.2)) := by
  induction pieces generalizing writer with
  | nil => simp [putAll, withBytes]
  | cons piece rest ih =>
    obtain ⟨kind, bytes⟩ := piece
    have put_eq : writer.put kind bytes = (.ok (), writer.withBytes bytes) := by
      rw [put, Sink.write_of_room_eq_none bytes endless]
      rfl
    have still_endless : (writer.withBytes bytes).sink.room = none := endless
    rw [putAll, put_eq]
    simp only [ih still_endless, List.flatMap_cons]
    simp [withBytes]

/-- **A document leaves its frame behind.** -/
theorem writeDocument_of_room {writer : BulkWriter} (endless : writer.sink.room = none)
    {doc : Built} (one_line : Builder.hasLineFeed doc.line = false) :
    writer.writeDocument doc = (.ok (), writer.after [doc]) := by
  rw [writeDocument, if_neg (by simp [one_line]), putAll_of_room endless]
  simp [after, frameBytes, withBytes]

end BulkWriter

end Intake
