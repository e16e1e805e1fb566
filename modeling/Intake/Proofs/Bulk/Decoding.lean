import Intake.Proofs.Build.Enrichment
import Intake.Proofs.Bulk.Payload
import Intake.Proofs.Document.Decoding
import Intake.Proofs.Text.Utf8

/-!
# Payloads are read back

Cut at its line feeds, a payload falls into the lines that were meant: whatever an id or an index
name holds, its action is printed on one line, and a document whose line is not one line is refused
before anything is written. So the documents come back from the payload (`BulkWriter.readPayload`),
and nothing that is written can pass for something else.

For documents that were built, the id is of the document: it is the value of the identifying field
in the line that follows, or the first of its values (`Identifies`).
-/

namespace Intake

open Intake.Text

/-! ## Lines -/

/-- **Lines are cut apart again**, and nothing is left behind the last of them. -/
theorem splitAtEach_flatMap {mark : UInt8} {lines : List (List UInt8)}
    (whole : ∀ line ∈ lines, mark ∉ line) :
    splitAtEach (· == mark) (lines.flatMap fun line => line ++ [mark]) = lines ++ [[]] := by
  induction lines with
  | nil => rfl
  | cons line rest ih =>
    obtain ⟨line_whole, rest_whole⟩ := List.forall_mem_cons.mp whole
    rw [List.flatMap_cons, List.append_assoc, List.singleton_append,
      splitAtEach_append_cons (by simp), splitAtEach_of_not_mem line_whole, ih rest_whole]
    rfl

namespace BulkWriter

/-! ## Actions -/

/-- What an action says, the index and the id if there is one, can be read back. -/
theorem action_readsBack (index : String) (id : Option String) :
    Json.ReadsBack false Json.maxDepth (action index id) := by
  cases id with
  | none =>
    exact .singleton (by decide) (.singleton (by decide) (.string _ index))
  | some id =>
    refine .singleton (by decide)
      (.object (fun _ => by simp) (fun _ => by simp [Json.numberMarker]) ?_)
    simpa using ⟨.string _ index, .string _ id⟩

theorem actionBytes_eq (index : String) (id : Option String) :
    actionBytes index id = utf8 (action index id).text := by
  rw [actionBytes, utf8, Json.text, String.toList_ofList]

theorem ten_not_mem_actionBytes (index : String) (id : Option String) :
    10 ∉ actionBytes index id := by
  refine ten_not_mem_encode fun mem => ?_
  have textual : (action index id).isTextual = true := by cases id <;> rfl
  exact lineFeed_not_mem (Json.chars_isPrintable _ textual) mem

/-- **An action line is read as its action.** -/
theorem read_actionBytes (index : String) (id : Option String) :
    ∃ text, ofUtf8? (actionBytes index id) = some text ∧ Json.read text = .ok (action index id) :=
  ⟨(action index id).text, by rw [actionBytes_eq, ofUtf8?_utf8],
    Json.read_text (action_readsBack index id)⟩

/-! ## Reading payloads -/

/-- The text of a string. -/
def stringOf? : Json → Option String
  | .string value => some value
  | _ => none

/-- The id that an action line gives, if the line is an action. -/
def readAction (line : List UInt8) : Option (Option String) := do
  let text ← ofUtf8? line
  let action ← (Json.read text).toOption
  let target ← action.get? "index"
  return (target.get? "_id").bind stringOf?

/-- The documents of pairs of lines, after which nothing is left. -/
def readFrames : List (List UInt8) → Option (List Built)
  | [last] => if last.isEmpty then some [] else none
  | action :: line :: rest => do
    let id ← readAction action
    let line ← ofUtf8? line
    let docs ← readFrames rest
    return ⟨id, line⟩ :: docs
  | [] => none

/-- The documents of a payload with action lines. -/
def readPayload (payload : List UInt8) : Option (List Built) :=
  readFrames (splitAtEach (· == 10) payload)

/-- The document lines of a payload without action lines. -/
def readLines (payload : List UInt8) : Option (List String) :=
  (splitAtEach (· == 10) payload).dropLast.mapM ofUtf8?

theorem readAction_actionBytes (index : String) (id : Option String) :
    readAction (actionBytes index id) = some id := by
  obtain ⟨text, text_eq, read_eq⟩ := read_actionBytes index id
  rw [readAction, text_eq]
  show ((Json.read text).toOption >>= fun action => _) = _
  rw [read_eq]
  cases id <;> rfl

theorem readFrames_lines (index : String) (docs : List Built) :
    readFrames ((docs.flatMap fun doc => [actionBytes index doc.id, utf8 doc.line]) ++ [[]]) =
      some docs := by
  induction docs with
  | nil => rfl
  | cons doc rest ih =>
    rw [List.flatMap_cons, List.append_assoc, List.cons_append, List.singleton_append, readFrames,
      readAction_actionBytes, ofUtf8?_utf8, ih]
    rfl

theorem mapM_ofUtf8? (docs : List Built) :
    (docs.map fun doc => utf8 doc.line).mapM ofUtf8? = some (docs.map (·.line)) := by
  induction docs with
  | nil => rfl
  | cons doc rest ih =>
    rw [List.map_cons, List.mapM_cons, ofUtf8?_utf8, ih]
    rfl

/-! ## Writing documents -/

/-- Writes documents one after the other, also after one that is refused. -/
def writeEach : BulkWriter → List Built → List (Except IngestError Unit) × BulkWriter
  | writer, [] => ([], writer)
  | writer, doc :: rest =>
    let (answer, writer) := writer.writeDocument doc
    let (answers, writer) := writer.writeEach rest
    (answer :: answers, writer)

/-- The documents whose line is one line. -/
def accepted (docs : List Built) : List Built :=
  docs.filter fun doc => !Builder.hasLineFeed doc.line

variable {writer : BulkWriter}

/-- **A line that is not one line is refused** before anything is written. -/
theorem writeDocument_of_hasLineFeed (writer : BulkWriter) {doc : Built}
    (broken : Builder.hasLineFeed doc.line = true) :
    writer.writeDocument doc = (.error .multiLine, writer) := by
  rw [writeDocument, if_pos broken]

/-- **The documents that are accepted leave their frames behind**, and the others nothing. -/
theorem writeEach_of_room (endless : writer.sink.room = none) (docs : List Built) :
    writer.writeEach docs =
      (docs.map fun doc => if Builder.hasLineFeed doc.line then .error .multiLine else .ok (),
        writer.after (accepted docs)) := by
  induction docs generalizing writer with
  | nil => rw [accepted, List.filter_nil, after_nil]; rfl
  | cons doc rest ih =>
    rw [writeEach]
    cases broken : Builder.hasLineFeed doc.line with
    | true =>
      have refused : accepted (doc :: rest) = accepted rest := by simp [accepted, broken]
      simp only [writer.writeDocument_of_hasLineFeed broken, ih endless, refused, List.map_cons,
        broken, if_true]
    | false =>
      have taken : accepted (doc :: rest) = [doc] ++ accepted rest := by simp [accepted, broken]
      have still_endless : (writer.after [doc]).sink.room = none := endless
      simp only [writeDocument_of_room endless broken, ih still_endless, taken, ← after_after,
        List.map_cons, broken, Bool.false_eq_true, if_false]

/-- The lines that a document leaves behind. -/
def linesOf (writer : BulkWriter) (doc : Built) : List (List UInt8) :=
  if writer.actionLines then [actionBytes writer.index doc.id, utf8 doc.line] else [utf8 doc.line]

theorem frameBytes_eq (writer : BulkWriter) (doc : Built) :
    writer.frameBytes doc = (writer.linesOf doc).flatMap fun line => line ++ [10] := by
  unfold frameBytes frame linesOf
  split <;> simp [lineFeed]

/-- **A payload is its lines.** -/
theorem splitAtEach_payload (writer : BulkWriter) (docs : List Built) :
    splitAtEach (· == 10) ((accepted docs).flatMap writer.frameBytes) =
      (accepted docs).flatMap writer.linesOf ++ [[]] := by
  have by_lines : (accepted docs).flatMap writer.frameBytes =
      ((accepted docs).flatMap writer.linesOf).flatMap fun line => line ++ [10] := by
    rw [List.flatMap_assoc]
    exact List.flatMap_congr fun doc _ => writer.frameBytes_eq doc
  rw [by_lines]
  -- Action lines are whole because they are printed, document lines because they were accepted.
  refine splitAtEach_flatMap fun line mem => ?_
  obtain ⟨doc, doc_mem, line_mem⟩ := List.mem_flatMap.mp mem
  have one_line : '\n' ∉ doc.line.toList := by
    have := (List.mem_filter.mp doc_mem).2
    simpa [Builder.hasLineFeed] using this
  have document_whole : 10 ∉ utf8 doc.line := ten_not_mem_encode one_line
  unfold linesOf at line_mem
  split at line_mem
  · rcases List.mem_cons.mp line_mem with rfl | last
    · exact ten_not_mem_actionBytes writer.index doc.id
    · rwa [List.mem_singleton.mp last]
  · rwa [List.mem_singleton.mp line_mem]

end BulkWriter

/-! ## Documents that were built -/

/-- The builder has built the document, of a tree or of a text. -/
def Builder.HasBuilt (builder : Builder) (built : Built) : Prop :=
  ∃ scratch, (∃ tree, (builder.buildTree tree scratch).1 = .ok built) ∨
    ∃ source, (builder.buildText source scratch).1 = .ok built

theorem Builder.HasBuilt.exists_tree {builder : Builder} {built : Built}
    (h : builder.HasBuilt built) :
    ∃ tree scratch, (builder.buildTree tree scratch).1 = .ok built := by
  obtain ⟨scratch, ⟨tree, built_eq⟩ | ⟨source, built_eq⟩⟩ := h
  · exact ⟨tree, scratch, built_eq⟩
  · unfold buildText at built_eq
    split at built_eq
    · cases built_eq
    · next value _ => exact ⟨Tree.ofJson value, scratch, built_eq⟩

/-- **The id of a built document is in its line.** -/
theorem Builder.HasBuilt.identifies {builder : Builder} {built : Built}
    (h : builder.HasBuilt built) {name : String} (identifying : builder.idField = some name) :
    ∃ members, Json.readAsWritten built.line = .ok (.object members) ∧
      ((members.map Prod.fst).head? ≠ some Json.numberMarker →
        Json.read built.line = .ok (.object members)) ∧
      Document.Identifies members name built.id := by
  obtain ⟨tree, scratch, built_eq⟩ := h.exists_tree
  obtain ⟨pushes, rfl⟩ := builder.buildTree_eq_ok_pushed built_eq
  have holds := Document.pushAll_holds_stored pushes
  refine ⟨_, holds.indexed.readAsWritten_line, fun unmarked => ?_, ?_⟩
  · rw [Document.keys_members] at unmarked
    exact holds.indexed.read_line unmarked
  · rw [identifying]
    exact holds.identifies name

namespace BulkWriter

/-- **A payload decodes back to its documents.** Of any documents that are given to a writer on a
sink without a limit, those whose line is one line are written and counted, and the others refused.
Cut at its line feeds, the payload is an action line, if action lines are on, and the document line
for each document that was written, and nothing after them. An action line is read as the index and
the id, if there is one, so the documents come back; and of a document that was built, the id is
what the line says of the identifying field. -/
theorem payload_decodes {writer : BulkWriter} (endless : writer.sink.room = none)
    (docs : List Built) :
    ∃ payload,
      writer.writeEach docs =
        (docs.map fun doc => if Builder.hasLineFeed doc.line then .error .multiLine else .ok (),
          { writer with
            sink := { writer.sink with bytes := writer.sink.bytes ++ payload }
            written := writer.written + (accepted docs).length }) ∧
      (∀ doc, Builder.hasLineFeed doc.line = true →
        writer.writeDocument doc = (.error .multiLine, writer)) ∧
      splitAtEach (· == 10) payload =
        (accepted docs).flatMap (fun doc =>
          if writer.actionLines then [actionBytes writer.index doc.id, utf8 doc.line]
          else [utf8 doc.line]) ++ [[]] ∧
      (∀ id, ∃ text, ofUtf8? (actionBytes writer.index id) = some text ∧
        Json.read text = .ok (.object
          [("index", .object
            (("_index", .string writer.index) ::
              id.toList.map fun id => ("_id", Json.string id)))])) ∧
      (writer.actionLines = true → readPayload payload = some (accepted docs)) ∧
      (writer.actionLines = false → readLines payload = some ((accepted docs).map (·.line))) ∧
      ∀ builder built name, Builder.HasBuilt builder built → builder.idField = some name →
        ∃ members, Json.readAsWritten built.line = .ok (.object members) ∧
          ((members.map Prod.fst).head? ≠ some Json.numberMarker →
            Json.read built.line = .ok (.object members)) ∧
          Document.Identifies members name built.id := by
  have cut := writer.splitAtEach_payload docs
  refine ⟨(accepted docs).flatMap writer.frameBytes, writeEach_of_room endless docs,
    fun doc broken => writer.writeDocument_of_hasLineFeed broken, cut, fun id => ?_, fun on => ?_,
    fun off => ?_, fun builder built name has_built identifying => has_built.identifies identifying⟩
  · obtain ⟨text, text_eq, read_eq⟩ := read_actionBytes writer.index id
    exact ⟨text, text_eq, by cases id <;> exact read_eq⟩
  · have lines_eq :
        writer.linesOf = fun doc => [actionBytes writer.index doc.id, utf8 doc.line] := by
      funext doc
      rw [linesOf, if_pos on]
    rw [readPayload, cut, lines_eq, readFrames_lines]
  · have lines_eq : writer.linesOf = fun doc => [utf8 doc.line] := by
      funext doc
      rw [linesOf, if_neg (by simp [off])]
    rw [readLines, cut, lines_eq, List.dropLast_concat, ← List.map_eq_flatMap, mapM_ofUtf8?]

/-- Puts tags into documents, the first of which is the id. -/
def tagBuilder : Builder where
  binding := ⟨"books", "book", [⟨"tags", [Schema.Field.ofType "tags" .keyword]⟩]⟩
  enrichers := []
  dates := .textOnly
  idField := some "tags"

/-- A record whose first tag holds a line feed and quotes. -/
def taggedRecord : Tree := .record [("tags", .list [.scalar "a\n\"b\"", .scalar "c"])]

/-- The document of that record. -/
def taggedDocument : Built where
  id := some "a\n\"b\""
  line := "\x7b\"tags\":[\"a\\n\\\"b\\\"\",\"c\"]\x7d"

/-- A document without an id. -/
def emptyDocument : Built := ⟨none, "\x7b\x7d"⟩

/-- A document that is not on one line. -/
def brokenDocument : Built := ⟨none, "\x7b\n\x7d"⟩

/-- A writer for an index whose name holds a line feed. -/
def booksWriter : BulkWriter := ofSink Sink.unlimited "bo\noks"

/-- Of a document that was built, one that is not on one line and one without an id, two come
back. -/
theorem payload_taggedDocument :
    booksWriter.sink.room = none ∧ tagBuilder.HasBuilt taggedDocument ∧
      (booksWriter.writeEach [taggedDocument, brokenDocument, emptyDocument]).2.written = 2 ∧
      readPayload (booksWriter.writeEach
        [taggedDocument, brokenDocument, emptyDocument]).2.sink.bytes =
          some [taggedDocument, emptyDocument] ∧
      ∃ members, Json.readAsWritten taggedDocument.line = .ok (.object members) ∧
        Document.Identifies members "tags" taggedDocument.id := by
  have endless : booksWriter.sink.room = none := rfl
  have built : tagBuilder.HasBuilt taggedDocument :=
    ⟨Scratch.empty, .inl ⟨taggedRecord, Builder.eq_ok_of_toOption (by decide +kernel)⟩⟩
  have taken : accepted [taggedDocument, brokenDocument, emptyDocument] =
      [taggedDocument, emptyDocument] := by
    decide +kernel
  obtain ⟨payload, written_eq, -, -, -, documents_eq, -, identified⟩ :=
    payload_decodes endless [taggedDocument, brokenDocument, emptyDocument]
  obtain ⟨members, read_eq, -, found⟩ := identified tagBuilder taggedDocument "tags" built rfl
  rw [taken] at written_eq documents_eq
  refine ⟨endless, built, ?_, ?_, members, read_eq, found⟩
  · rw [written_eq]
    rfl
  · rw [written_eq]
    exact documents_eq rfl

end BulkWriter

end Intake
