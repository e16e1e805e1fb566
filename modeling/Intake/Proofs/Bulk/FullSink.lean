import Intake.Proofs.Bulk.Decoding

/-!
# Sinks that fill up

A sink for `limit` bytes holds the first `limit` bytes of what was meant for it, and nothing else
(`Sink.holding`), in however many pieces it came and whatever was refused on the way. So what
becomes of a document is told by where its frame would begin and end on a sink without a limit
(`BulkWriter.writeDocument_holding`), and once a frame was cut short, nothing more is written
(`BulkWriter.writeEach_keepsPrefix`).
-/

namespace Intake

/-! ## Sinks -/

namespace Sink

/-- The sink for `limit` bytes to which `bytes` were given. -/
def holding (limit : Nat) (bytes : List UInt8) : Sink :=
  ⟨bytes.take limit, some (limit - bytes.length), true⟩

theorem holding_nil (limit : Nat) : holding limit [] = limited limit := by
  simp [holding, limited]

/-- A full sink stays as it is. -/
theorem holding_append {limit : Nat} {bytes : List UInt8} (full : limit ≤ bytes.length)
    (more : List UInt8) : holding limit (bytes ++ more) = holding limit bytes := by
  have room_eq : limit - (bytes ++ more).length = limit - bytes.length := by
    rw [List.length_append]
    omega
  rw [holding, holding, room_eq, List.take_append_of_le_length full]

/-- **A sink goes by what it was given in all.** -/
theorem write_holding (limit : Nat) (bytes more : List UInt8) :
    (holding limit bytes).write more =
      (if more.length ≤ limit - bytes.length then .ok () else .error .sinkFull,
        holding limit (bytes ++ more)) := by
  simp [write, holding, List.take_append, Nat.sub_sub]

end Sink

namespace BulkWriter

/-! ## Pieces and frames -/

/-- The writer on a sink for `limit` bytes to which `bytes` were given, with so many documents
counted. -/
def holding (writer : BulkWriter) (limit : Nat) (bytes : List UInt8) (count : Nat) : BulkWriter :=
  { writer with sink := .holding limit bytes, written := count }

variable (writer : BulkWriter) (limit : Nat) (bytes : List UInt8) (count : Nat)

theorem holding_append (full : limit ≤ bytes.length) (more : List UInt8) :
    writer.holding limit (bytes ++ more) count = writer.holding limit bytes count := by
  rw [holding, Sink.holding_append full]
  rfl

/-- The answer to some pieces: an error of the kind of the first that there is no room for. -/
def answerTo : Nat → List ((IoFault → IngestError) × List UInt8) → Except IngestError Unit
  | _, [] => .ok ()
  | room, (kind, bytes) :: rest =>
    if bytes.length ≤ room then answerTo (room - bytes.length) rest else .error (kind .sinkFull)

/-- **Pieces are taken as if they were one**, also those after the first that there is no room for,
since the sink is full by then. -/
theorem putAll_holding (pieces : List ((IoFault → IngestError) × List UInt8)) :
    (writer.holding limit bytes count).putAll pieces =
      (answerTo (limit - bytes.length) pieces,
        writer.holding limit (bytes ++ pieces.flatMap fun piece => piece.2) count) := by
  induction pieces generalizing bytes with
  | nil => simp [putAll, answerTo]
  | cons piece rest ih =>
    obtain ⟨kind, piece⟩ := piece
    have put_eq : (writer.holding limit bytes count).put kind piece =
        ((if piece.length ≤ limit - bytes.length then .ok () else .error .sinkFull :
            Except IoFault Unit).mapError kind,
          writer.holding limit (bytes ++ piece) count) := by
      rw [put, holding, Sink.write_holding]
      rfl
    rw [putAll, put_eq, answerTo, List.flatMap_cons, ← List.append_assoc]
    by_cases fits : piece.length ≤ limit - bytes.length
    · rw [if_pos fits, if_pos fits, Nat.sub_sub, ← List.length_append]
      exact ih (bytes ++ piece)
    · have full : limit ≤ (bytes ++ piece).length := by
        rw [List.length_append]
        omega
      rw [if_neg fits, if_neg fits, holding_append _ _ _ _ full]
      rfl

/-- The error of a document whose frame begins at `start` and does not end within the limit: it is
one of the action, if that does not end within the limit either. -/
def fullError (start : Nat) (doc : Built) : IngestError :=
  if writer.actionLines = true ∧ limit < start + (actionBytes writer.index doc.id).length then
    .json .sinkFull
  else .io .sinkFull

theorem actionBytes_ne_nil (index : String) (id : Option String) : actionBytes index id ≠ [] := by
  intro nil
  have no_action : readAction [] = none := rfl
  have read := readAction_actionBytes index id
  rw [nil, no_action] at read
  cases read

/-- **What becomes of a frame is told by where it begins and ends.** -/
theorem answerTo_frame (start : Nat) (doc : Built) :
    answerTo (limit - start) (writer.frame doc) =
      if start + (writer.frameBytes doc).length ≤ limit then .ok ()
      else .error (writer.fullError limit start doc) := by
  have action_pos := List.length_pos_iff.mpr (actionBytes_ne_nil writer.index doc.id)
  unfold frameBytes frame fullError
  -- the frame has two pieces or four, each of which may be the first that does not fit
  cases writer.actionLines <;>
    simp only [answerTo, lineFeed, Bool.false_eq_true, if_false, if_true, List.flatMap_cons,
      List.flatMap_nil, List.nil_append, List.cons_append, List.length_append, List.length_cons,
      List.length_nil, false_and, true_and] <;>
    grind

/-! ## Documents -/

/-- **A document is written just if its frame ends within the limit**; of the frame, as much as fits
is taken in any case. -/
theorem writeDocument_holding {doc : Built} (one_line : Builder.hasLineFeed doc.line = false) :
    (writer.holding limit bytes count).writeDocument doc =
      if bytes.length + (writer.frameBytes doc).length ≤ limit then
        (.ok (), writer.holding limit (bytes ++ writer.frameBytes doc) (count + 1))
      else
        (.error (writer.fullError limit bytes.length doc),
          writer.holding limit (bytes ++ writer.frameBytes doc) count) := by
  have frame_eq : (writer.holding limit bytes count).frame doc = writer.frame doc := rfl
  rw [writeDocument, if_neg (by simp [one_line]), frame_eq, putAll_holding, answerTo_frame]
  by_cases fits : bytes.length + (writer.frameBytes doc).length ≤ limit
  · rw [if_pos fits, if_pos fits]
    rfl
  · rw [if_neg fits, if_neg fits]
    rfl

/-- The bytes that documents are meant to leave behind. -/
def payload (docs : List Built) : List UInt8 := (accepted docs).flatMap writer.frameBytes

theorem payload_cons_of_broken {doc : Built} (broken : Builder.hasLineFeed doc.line = true)
    (rest : List Built) : writer.payload (doc :: rest) = writer.payload rest := by
  simp [payload, accepted, broken]

theorem payload_cons_of_one_line {doc : Built} (one_line : Builder.hasLineFeed doc.line = false)
    (rest : List Built) :
    writer.payload (doc :: rest) = writer.frameBytes doc ++ writer.payload rest := by
  simp [payload, accepted, one_line]

/-- Was the document written? -/
def isWritten (answer : Except IngestError Unit) : Bool := answer.toBool

/-- Did the sink fail the document? -/
def isCutShort : Except IngestError Unit → Bool
  | .ok () => false
  | .error error => error != .multiLine

/-- **However many documents are cut short, the sink goes by what it was given in all**, the
documents that were written are counted, and none is cut short before the limit is passed. -/
theorem writeEach_holding (docs : List Built) :
    ∃ answers,
      (writer.holding limit bytes count).writeEach docs =
        (answers, writer.holding limit (bytes ++ writer.payload docs)
          (count + answers.countP isWritten)) ∧
      (answers.any isCutShort = true → limit < (bytes ++ writer.payload docs).length) := by
  induction docs generalizing bytes count with
  | nil => exact ⟨[], by simp [writeEach, payload, accepted], nofun⟩
  | cons doc rest ih =>
    rw [writeEach]
    cases broken : Builder.hasLineFeed doc.line with
    | true =>
      obtain ⟨answers, rest_eq, passed⟩ := ih bytes count
      rw [writeDocument_of_hasLineFeed _ broken, payload_cons_of_broken _ broken]
      dsimp only
      rw [rest_eq]
      exact ⟨.error .multiLine :: answers, rfl, passed⟩
    | false =>
      rw [writeDocument_holding _ _ _ _ broken, payload_cons_of_one_line _ broken,
        ← List.append_assoc]
      by_cases fits : bytes.length + (writer.frameBytes doc).length ≤ limit
      · obtain ⟨answers, rest_eq, passed⟩ := ih (bytes ++ writer.frameBytes doc) (count + 1)
        rw [if_pos fits]
        dsimp only
        rw [rest_eq, Nat.add_assoc, Nat.add_comm 1]
        exact ⟨.ok () :: answers, by rw [List.countP_cons_of_pos rfl], passed⟩
      · obtain ⟨answers, rest_eq, -⟩ := ih (bytes ++ writer.frameBytes doc) count
        rw [if_neg fits]
        dsimp only
        rw [rest_eq]
        refine ⟨.error (writer.fullError limit bytes.length doc) :: answers, rfl, fun _ => ?_⟩
        rw [List.length_append, List.length_append]
        omega

/-- The writer on a new sink. -/
def onto (sink : Sink) : BulkWriter := { writer with sink, written := 0 }

theorem onto_limited : writer.onto (.limited limit) = writer.holding limit [] 0 := by
  rw [onto, ← Sink.holding_nil, holding]

/-- What a sink for `limit` bytes is left with by some calls, beside the sink without a limit after
the same calls. -/
structure KeepsPrefix (cut : List (Except IngestError Unit) × BulkWriter)
    (whole : BulkWriter) : Prop where
  /-- The sink holds a prefix of what was meant for it. -/
  bytes_eq : cut.2.sink.bytes = whole.sink.bytes.take limit
  /-- The documents whose calls were answered with success are counted. -/
  written_eq : cut.2.written = cut.1.countP isWritten
  /-- The next document is refused if its line is not one line; else it is written just if its frame
  ends within the limit. -/
  next_eq : ∀ doc, (cut.2.writeDocument doc).1 =
    if Builder.hasLineFeed doc.line then .error .multiLine
    else if (whole.writeDocument doc).2.sink.bytes.length ≤ limit then .ok ()
    else .error (writer.fullError limit whole.sink.bytes.length doc)
  /-- Once a document was cut short, the next one fails, and nothing of it is taken. -/
  ended : cut.1.any isCutShort = true → ∀ doc,
    isWritten (cut.2.writeDocument doc).1 = false ∧
      (cut.2.writeDocument doc).2.sink.bytes = cut.2.sink.bytes

/-- **A sink that fills up keeps what was written.** -/
theorem writeEach_keepsPrefix (docs : List Built) :
    KeepsPrefix writer limit ((writer.onto (.limited limit)).writeEach docs)
      ((writer.onto .unlimited).writeEach docs).2 := by
  obtain ⟨answers, cut_eq, passed⟩ := writeEach_holding writer limit [] 0 docs
  rw [List.nil_append] at cut_eq passed
  have start_eq : ((writer.onto .unlimited).after (accepted docs)).sink.bytes =
      writer.payload docs := rfl
  rw [writer.onto_limited, cut_eq, writeEach_of_room rfl]
  refine ⟨rfl, Nat.zero_add _, fun doc => ?_, fun cut_short doc => ?_⟩
  · cases broken : Builder.hasLineFeed doc.line with
    | true => rw [writeDocument_of_hasLineFeed _ broken, if_pos rfl]
    | false =>
      have stop_eq : (((writer.onto .unlimited).after (accepted docs)).after [doc]).sink.bytes =
          writer.payload docs ++ writer.frameBytes doc := by
        rw [← List.append_nil (writer.frameBytes doc)]
        rfl
      rw [writeDocument_holding _ _ _ _ broken, writeDocument_of_room rfl broken,
        if_neg Bool.false_ne_true, start_eq, stop_eq, List.length_append]
      split <;> rfl
  · have full := passed cut_short
    cases broken : Builder.hasLineFeed doc.line with
    | true =>
      rw [writeDocument_of_hasLineFeed _ broken]
      exact ⟨rfl, rfl⟩
    | false =>
      rw [writeDocument_holding _ _ _ _ broken, if_neg (by omega),
        holding_append _ _ _ _ (Nat.le_of_lt full)]
      exact ⟨rfl, rfl⟩

end BulkWriter

end Intake
