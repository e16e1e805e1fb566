import Intake.Proofs.Bulk.FullSink
import Intake.Proofs.Stream.Run

/-!
# Runs into a sink that fills up

A run whose sink has room for `limit` bytes goes along with the same run on a sink without a limit,
record by record, up to the first document whose frame does not end within the limit
(`Run.CutAt.each_takeText`). There it ends, whether errors are skipped or not: that document is
counted neither as built nor as skipped, and what is in the sink is a prefix of what the other run
leaves behind (`fullSink_keepsPrefix`).
-/

namespace Intake

open Intake.Text

namespace Run

variable {builder : Builder} {record : String}

/-! ## One record -/

/-- A record means what it builds on its own. -/
theorem exists_takeText_eq (builder : Builder) (skipErrors : Bool) (run : Run) (record : String) :
    ∃ used, takeText builder skipErrors run record =
      run.take skipErrors (builder.build record, used) :=
  ⟨(builder.buildText record run.scratch).2, by
    rw [takeText, ← builder.buildText_fst record run.scratch]⟩

/-- Two runs that have come equally far, one of them on a sink for `limit` bytes, all of whose
documents fitted so far. -/
structure CutAt (limit : Nat) (whole cut : Run) : Prop where
  reliable : whole.writer.sink.IsReliable
  fits : whole.writer.sink.bytes.length ≤ limit
  writer_eq : cut.writer =
    whole.writer.holding limit whole.writer.sink.bytes whole.writer.written
  stats_eq : cut.stats = whole.stats

/-- The run is at the end of its sink: it has given a document to it that did not fit. -/
structure EndsAt (limit : Nat) (whole : Run) (doc : Built) (cut : Run) : Prop where
  fits : whole.writer.sink.bytes.length ≤ limit
  passed : limit < whole.writer.sink.bytes.length + (whole.writer.frameBytes doc).length
  bytes_eq : cut.writer.sink.bytes =
    (whole.writer.sink.bytes ++ whole.writer.frameBytes doc).take limit
  written_eq : cut.writer.written = whole.writer.written
  stats_eq : cut.stats = whole.stats

namespace CutAt

variable {limit : Nat} {whole cut : Run}

/-- **A document is accepted by both runs alike, or it does not fit.** -/
theorem accept (h : CutAt limit whole cut) {doc : Built}
    (one_line : Builder.hasLineFeed doc.line = false) :
    (∃ next cutNext, whole.accept doc = (.ok (), next) ∧ cut.accept doc = (.ok (), cutNext) ∧
      CutAt limit next cutNext) ∨
    ∃ cutNext, cut.accept doc =
        (.error (whole.writer.fullError limit whole.writer.sink.bytes.length doc), cutNext) ∧
      EndsAt limit whole doc cutNext := by
  obtain ⟨reliable, so_far, writer_eq, stats_eq⟩ := h
  have cut_eq := BulkWriter.writeDocument_holding whole.writer limit whole.writer.sink.bytes
    whole.writer.written one_line
  have after_bytes : (whole.writer.after [doc]).sink.bytes =
      whole.writer.sink.bytes ++ whole.writer.frameBytes doc := by
    simp [BulkWriter.after, BulkWriter.withBytes]
  unfold Run.accept
  rw [BulkWriter.writeDocument_of_room reliable.1 one_line, writer_eq, cut_eq, stats_eq]
  by_cases fits :
      whole.writer.sink.bytes.length + (whole.writer.frameBytes doc).length ≤ limit
  · rw [if_pos fits]
    refine .inl ⟨_, _, rfl, rfl, reliable, ?_, ?_, rfl⟩
    · rw [after_bytes, List.length_append]
      exact fits
    · dsimp only
      rw [after_bytes]
      rfl
  · rw [if_neg fits]
    exact .inr ⟨_, rfl, so_far, by omega, rfl, rfl, rfl⟩

/-- **A record is taken in by both runs alike, or its document does not fit.** -/
theorem takeText (h : CutAt limit whole cut) (builder : Builder) (skipErrors : Bool)
    (record : String) :
    (∃ verdict next cutNext, whole.takeText builder skipErrors record = (verdict, next) ∧
      cut.takeText builder skipErrors record = (verdict, cutNext) ∧ CutAt limit next cutNext) ∨
    ∃ doc cutNext, builder.build record = .ok doc ∧
      cut.takeText builder skipErrors record =
        (.error (whole.writer.fullError limit whole.writer.sink.bytes.length doc), cutNext) ∧
      EndsAt limit whole doc cutNext := by
  obtain ⟨used, whole_eq⟩ := whole.exists_takeText_eq builder skipErrors record
  obtain ⟨cutUsed, cut_eq⟩ := cut.exists_takeText_eq builder skipErrors record
  rw [whole_eq, cut_eq]
  have same_place : CutAt limit { whole with scratch := used } { cut with scratch := cutUsed } :=
    ⟨h.reliable, h.fits, h.writer_eq, h.stats_eq⟩
  cases build_eq : builder.build record with
  | ok doc =>
    obtain ⟨next, cutNext, next_eq, cutNext_eq, still⟩ | ⟨cutNext, ended, ends⟩ :=
      same_place.accept (Builder.hasLineFeed_of_build build_eq)
    · exact .inl ⟨_, next, cutNext, next_eq, cutNext_eq, still⟩
    · obtain ⟨fits, passed, bytes_eq, written_eq, stats_eq⟩ := ends
      exact .inr ⟨doc, cutNext, rfl, ended, fits, passed, bytes_eq, written_eq, stats_eq⟩
  | error error =>
    -- nothing is written, and the counts go up alike if they do
    refine .inl ?_
    simp only [take, refuse]
    split
    · exact ⟨_, _, _, rfl, rfl, h.reliable, h.fits, h.writer_eq, by rw [h.stats_eq]⟩
    · exact ⟨_, _, _, rfl, rfl, same_place⟩

/-! ## All records -/

/-- **Two runs go along with each other to the end, or up to a document that does not fit.** -/
theorem each_takeText (h : CutAt limit whole cut) (builder : Builder) (skipErrors : Bool)
    (records : List String) :
    (∃ verdict ended cutEnded,
      Run.each (Run.takeText builder skipErrors) whole records = (verdict, ended) ∧
      Run.each (Run.takeText builder skipErrors) cut records = (verdict, cutEnded) ∧
      CutAt limit ended cutEnded) ∨
    ∃ before record after doc mid cutEnded, records = before ++ record :: after ∧
      Run.each (Run.takeText builder skipErrors) whole before = (.ok (), mid) ∧
      builder.build record = .ok doc ∧
      Run.each (Run.takeText builder skipErrors) cut records =
        (.error (mid.writer.fullError limit mid.writer.sink.bytes.length doc), cutEnded) ∧
      EndsAt limit mid doc cutEnded := by
  induction records generalizing whole cut with
  | nil => exact .inl ⟨_, whole, cut, rfl, rfl, h⟩
  | cons record rest ih =>
    obtain ⟨verdict, next, cutNext, step_eq, cut_eq, still⟩ | ⟨doc, cutNext, built, cut_eq, ends⟩ :=
      h.takeText builder skipErrors record
    · cases verdict with
      | error error =>
        exact .inl ⟨_, next, cutNext, by rw [Run.each, step_eq], by rw [Run.each, cut_eq], still⟩
      | ok _ =>
        rw [Run.each, Run.each, step_eq, cut_eq]
        obtain along | ⟨before, last, after, doc, mid, cutEnded, rfl, before_eq, rest⟩ := ih still
        · exact .inl along
        · refine .inr ⟨record :: before, last, after, doc, mid, cutEnded, rfl, ?_, rest⟩
          rw [Run.each, step_eq]
          exact before_eq
    · exact .inr ⟨[], record, rest, doc, whole, cutNext, rfl, rfl, built,
        by rw [Run.each, cut_eq], ends⟩

end CutAt

theorem each_append {α : Type} (step : Run → α → RunStep) (run : Run) (first second : List α) :
    Run.each step run (first ++ second) =
      match Run.each step run first with
      | (.ok (), mid) => Run.each step mid second
      | ended => ended := by
  induction first generalizing run with
  | nil => rfl
  | cons a rest ih =>
    rw [List.cons_append, Run.each, Run.each]
    cases step run a with
    | mk verdict next =>
      cases verdict with
      | error error => rfl
      | ok _ => exact ih next

/-- A run on a sink without a limit only adds to it. -/
theorem exists_each_takeText_bytes {run : Run} (endless : run.writer.sink.room = none)
    (skipErrors : Bool) (records : List String) :
    ∃ more, (Run.each (takeText builder skipErrors) run records).2.writer.sink.bytes =
      run.writer.sink.bytes ++ more := by
  cases skipErrors with
  | true =>
    obtain ⟨ended, run_eq, advanced⟩ := @each_takeText_skipping builder run endless records
    rw [run_eq, advanced.writer_eq]
    exact ⟨_, rfl⟩
  | false =>
    obtain ⟨ended, run_eq, advanced⟩ := @each_takeText_stopping builder run endless records
    rw [run_eq, advanced.writer_eq]
    exact ⟨_, rfl⟩

/-- A run that has gone through its records has written those that build and left out the others,
of which there are none unless errors are skipped. -/
theorem advanced_of_each_takeText {run mid : Run} (endless : run.writer.sink.room = none)
    {skipErrors : Bool} {records : List String}
    (through : Run.each (takeText builder skipErrors) run records = (.ok (), mid)) :
    run.Advanced (records.filterMap builder.document?)
        (records.countP fun record => !builder.builds record) mid ∧
      (skipErrors = false → ∀ record ∈ records, builder.builds record = true) := by
  cases skipErrors with
  | true =>
    obtain ⟨ended, run_eq, advanced⟩ := @each_takeText_skipping builder run endless records
    obtain ⟨-, rfl⟩ := Prod.mk.inj (run_eq.symm.trans through)
    exact ⟨advanced, nofun⟩
  | false =>
    obtain ⟨ended, run_eq, advanced⟩ := @each_takeText_stopping builder run endless records
    obtain ⟨verdict_eq, rfl⟩ := Prod.mk.inj (run_eq.symm.trans through)
    cases failed : records.findSome? builder.failure? with
    | some error =>
      rw [failed] at verdict_eq
      cases verdict_eq
    | none =>
      have good := Builder.builds_of_findSome?_eq_none failed
      have none_skipped : (records.countP fun record => !builder.builds record) = 0 :=
        List.countP_eq_zero.mpr fun record mem => by simp [good record mem]
      rw [List.takeWhile_eq_self_iff.mpr good] at advanced
      rw [none_skipped]
      exact ⟨advanced, fun _ => good⟩

end Run

/-! ## Streams -/

theorem Run.finish_snd (step : RunStep) : (Run.finish step).2 = step.2.writer := by
  obtain ⟨verdict, run⟩ := step
  cases verdict with
  | error error => rfl
  | ok _ =>
    rw [finish]
    split <;> rfl

/-- A run that could be flushed ends with its counts. -/
theorem Run.finish_fst {run : Run} (flushes : run.writer.sink.flushes = true)
    (verdict : Except IngestError Unit) :
    (Run.finish (verdict, run)).1 = verdict.map fun _ => run.stats := by
  cases verdict with
  | error error => rfl
  | ok _ =>
    have flushed : run.writer.flush = .ok () := by
      rw [BulkWriter.flush, Sink.flush, if_pos flushes]
      rfl
    rw [finish, flushed]
    rfl

/-- What lines say after all their records: the error of the first line that is no text. -/
def endOfLines (lines : List (List UInt8)) : Except IngestError Unit :=
  if lines.all fun line => (ofUtf8? line).isSome then .ok () else .error (.io .invalidUtf8)

section

variable (builder : Builder) (writer : BulkWriter) (limit : Nat)

theorem Run.cutAt_start : Run.CutAt limit (Run.start (writer.onto .unlimited))
    (Run.start (writer.onto (.limited limit))) :=
  ⟨⟨rfl, rfl⟩, Nat.zero_le _, writer.onto_limited limit, rfl⟩

/-- What a run over a stream leaves in a sink for `limit` bytes, beside the same run on a sink
without a limit. -/
structure RunKeepsPrefix (skipErrors : Bool) (bytes : List UInt8)
    (cut whole : Except IngestError IngestStats × BulkWriter) : Prop where
  /-- The sink holds a prefix of what was meant for it. -/
  bytes_eq : cut.2.sink.bytes = whole.2.sink.bytes.take limit
  /-- If everything fits, the limit makes no difference. -/
  fits : whole.2.sink.bytes.length ≤ limit → cut.1 = whole.1 ∧ cut.2.written = whole.2.written
  /-- If not, the run ends with the error of the first document whose frame does not end within the
  limit. The counts are those of the records before. -/
  ends : limit < whole.2.sink.bytes.length → ∃ before record after doc,
    streamRecords bytes = before ++ record :: after ∧
    (skipErrors = false → ∀ earlier ∈ before, builder.builds earlier = true) ∧
    builder.build record = .ok doc ∧
    let docs := before.filterMap builder.document?
    let start := (docs.flatMap writer.frameBytes).length
    start ≤ limit ∧ limit < start + (writer.frameBytes doc).length ∧
    cut.1 = .error (writer.fullError limit start doc) ∧
    cut.2.written = docs.length ∧
    (runLines builder (writer.onto (.limited limit)) skipErrors bytes).2.stats =
      ⟨docs.length, before.countP fun earlier => !builder.builds earlier⟩

theorem runLines_eq (skipErrors : Bool) (bytes : List UInt8) :
    runLines builder writer skipErrors bytes =
      let ended :=
        Run.each (Run.takeText builder skipErrors) (Run.start writer) (streamRecords bytes)
      (ended.1.bind fun _ => endOfLines (streamLines bytes), ended.2) := by
  rw [runLines, Run.each_takeLine, ← streamRecords]
  cases Run.each (Run.takeText builder skipErrors) (Run.start writer) (streamRecords bytes) with
  | mk verdict ended => cases verdict <;> rfl

/-- The bytes of a run whose records build up to one of them begin with the documents up to that. -/
theorem exists_each_takeText_bytes_of_built {run mid : Run}
    (endless : run.writer.sink.room = none) {skipErrors : Bool} {before : List String}
    {record : String} {doc : Built}
    (through : Run.each (Run.takeText builder skipErrors) run before = (.ok (), mid))
    (built : builder.build record = .ok doc) (after : List String) :
    ∃ more, (Run.each (Run.takeText builder skipErrors) run
        (before ++ record :: after)).2.writer.sink.bytes =
      mid.writer.sink.bytes ++ mid.writer.frameBytes doc ++ more := by
  have mid_endless : mid.writer.sink.room = none :=
    (Run.advanced_of_each_takeText endless through).1.room_eq.trans endless
  obtain ⟨next, step_eq, advanced⟩ := Run.takeText_of_ok mid_endless built skipErrors
  have next_bytes : next.writer.sink.bytes =
      mid.writer.sink.bytes ++ mid.writer.frameBytes doc := by
    simp [advanced.writer_eq, BulkWriter.after, BulkWriter.withBytes]
  obtain ⟨more, rest_bytes⟩ := @Run.exists_each_takeText_bytes builder next
    (advanced.room_eq.trans mid_endless) skipErrors after
  refine ⟨more, ?_⟩
  rw [Run.each_append, through]
  dsimp only
  rw [Run.each, step_eq, ← next_bytes]
  exact rest_bytes

/-- Everything fits: both runs have gone along to the end. -/
theorem keepsPrefix_of_cutAt {skipErrors : Bool} {bytes : List UInt8}
    {verdict : Except IngestError Unit} {ended cutEnded : Run}
    (whole_eq : Run.each (Run.takeText builder skipErrors) (Run.start (writer.onto .unlimited))
      (streamRecords bytes) = (verdict, ended))
    (cut_eq : Run.each (Run.takeText builder skipErrors)
      (Run.start (writer.onto (.limited limit))) (streamRecords bytes) = (verdict, cutEnded))
    (still : Run.CutAt limit ended cutEnded) :
    RunKeepsPrefix builder writer limit skipErrors bytes
      (ingestStream builder (writer.onto (.limited limit)) skipErrors bytes)
      (ingestStream builder (writer.onto .unlimited) skipErrors bytes) := by
  obtain ⟨reliable, fits, writer_eq, stats_eq⟩ := still
  have flushes : cutEnded.writer.sink.flushes = true := by rw [writer_eq]; rfl
  have bytes_eq : cutEnded.writer.sink.bytes = ended.writer.sink.bytes.take limit := by
    rw [writer_eq]
    rfl
  rw [ingestStream, ingestStream, runLines_eq, runLines_eq, whole_eq, cut_eq]
  refine ⟨?_, fun _ => ⟨?_, ?_⟩, fun too_long => absurd fits ?_⟩
  · rw [Run.finish_snd, Run.finish_snd]
    exact bytes_eq
  · rw [Run.finish_fst flushes, Run.finish_fst reliable.2, stats_eq]
  · rw [Run.finish_snd, Run.finish_snd]
    dsimp only
    rw [writer_eq]
    rfl
  · rw [Run.finish_snd] at too_long
    exact Nat.not_le_of_lt too_long

/-- Not everything fits: the run on the smaller sink has ended with a document. -/
theorem keepsPrefix_of_endsAt {skipErrors : Bool} {bytes : List UInt8} {before after : List String}
    {record : String} {doc : Built} {mid cutEnded : Run}
    (records_eq : streamRecords bytes = before ++ record :: after)
    (before_eq : Run.each (Run.takeText builder skipErrors) (Run.start (writer.onto .unlimited))
      before = (.ok (), mid))
    (built : builder.build record = .ok doc)
    (cut_eq : Run.each (Run.takeText builder skipErrors)
      (Run.start (writer.onto (.limited limit))) (streamRecords bytes) =
        (.error (mid.writer.fullError limit mid.writer.sink.bytes.length doc), cutEnded))
    (ends : Run.EndsAt limit mid doc cutEnded) :
    RunKeepsPrefix builder writer limit skipErrors bytes
      (ingestStream builder (writer.onto (.limited limit)) skipErrors bytes)
      (ingestStream builder (writer.onto .unlimited) skipErrors bytes) := by
  have cut_run := runLines_eq builder (writer.onto (.limited limit)) skipErrors bytes
  obtain ⟨⟨mid_writer, mid_stats⟩, good⟩ := Run.advanced_of_each_takeText rfl before_eq
  obtain ⟨more, whole_bytes⟩ :=
    exists_each_takeText_bytes_of_built builder rfl before_eq built after
  obtain ⟨fits, passed, bytes_eq, written_eq, stats_eq⟩ := ends
  have mid_bytes : mid.writer.sink.bytes =
      (before.filterMap builder.document?).flatMap writer.frameBytes := by
    rw [mid_writer]
    rfl
  have frame_eq : mid.writer.frameBytes doc = writer.frameBytes doc := by
    rw [mid_writer]
    rfl
  have error_eq : mid.writer.fullError = writer.fullError := by
    rw [mid_writer]
    rfl
  rw [mid_bytes, frame_eq] at passed bytes_eq whole_bytes
  rw [mid_bytes] at fits
  rw [mid_bytes, error_eq] at cut_eq
  rw [← records_eq] at whole_bytes
  rw [ingestStream, ingestStream, runLines_eq builder (writer.onto .unlimited), cut_run, cut_eq]
  refine ⟨?_, fun everything => absurd everything ?_, fun _ => ?_⟩
  · rw [Run.finish_snd, Run.finish_snd]
    dsimp only
    rw [bytes_eq, whole_bytes]
    refine (List.take_append_of_le_length ?_).symm
    rw [List.length_append]
    exact Nat.le_of_lt passed
  · rw [Run.finish_snd]
    dsimp only
    rw [whole_bytes]
    simp only [List.length_append]
    omega
  · refine ⟨before, record, after, doc, records_eq, good, built, fits, passed, ?_, ?_, ?_⟩
    · rfl
    · rw [Run.finish_snd]
      dsimp only
      rw [written_eq, mid_writer]
      exact Nat.zero_add _
    · rw [cut_run, cut_eq]
      dsimp only
      rw [stats_eq, mid_stats]
      exact congrArg₂ IngestStats.mk (Nat.zero_add _) (Nat.zero_add _)

theorem ingestStream_keepsPrefix (skipErrors : Bool) (bytes : List UInt8) :
    RunKeepsPrefix builder writer limit skipErrors bytes
      (ingestStream builder (writer.onto (.limited limit)) skipErrors bytes)
      (ingestStream builder (writer.onto .unlimited) skipErrors bytes) := by
  obtain ⟨verdict, ended, cutEnded, whole_eq, cut_eq, still⟩ |
    ⟨before, record, after, doc, mid, cutEnded, records_eq, before_eq, built, cut_eq, ends⟩ :=
      (Run.cutAt_start writer limit).each_takeText builder skipErrors (streamRecords bytes)
  · exact keepsPrefix_of_cutAt builder writer limit whole_eq cut_eq still
  · exact keepsPrefix_of_endsAt builder writer limit records_eq before_eq built cut_eq ends

/-- **A sink that fills up keeps what was written.** Of any documents that are given to a writer on
a sink for `limit` bytes, and beside it to one on a sink without a limit: after every call, the one
sink holds the first `limit` bytes of the other; a document whose line is one line is written, and
counted, just if its frame ends within the limit; the error of one that is cut short tells whether
its action was; and after that no call succeeds or adds a byte. So does a run over a stream, which
ends with the error of the first document that is cut short, also if errors are skipped, and counts
only the records before it. -/
theorem fullSink_keepsPrefix :
    (∀ docs, BulkWriter.KeepsPrefix writer limit ((writer.onto (.limited limit)).writeEach docs)
      ((writer.onto .unlimited).writeEach docs).2) ∧
    ∀ (skipErrors : Bool) (bytes : List UInt8),
      RunKeepsPrefix builder writer limit skipErrors bytes
        (ingestStream builder (writer.onto (.limited limit)) skipErrors bytes)
        (ingestStream builder (writer.onto .unlimited) skipErrors bytes) :=
  ⟨writer.writeEach_keepsPrefix limit, ingestStream_keepsPrefix builder writer limit⟩

end

/-- Three records, the second of which does not build. -/
def agesStream : List UInt8 :=
  utf8 "\x7b\"age\":31\x7d\n\x7b\"age\":300\x7d\n\x7b\"age\":32\x7d"

/-- A writer for people. -/
def peopleWriter : BulkWriter := .ofSink .unlimited "people"

/-- With room for 76 of 86 bytes, the run ends within the line of the second document, though errors
are skipped. -/
theorem fullSink_keepsPrefix_ages :
    76 < (ingestStream ageBuilder (peopleWriter.onto .unlimited) true agesStream).2.sink.bytes.length ∧
    (ingestStream ageBuilder (peopleWriter.onto (.limited 76)) true agesStream).2.sink.bytes =
      (ingestStream ageBuilder (peopleWriter.onto .unlimited) true agesStream).2.sink.bytes.take 76 ∧
    ∃ start doc, (ingestStream ageBuilder (peopleWriter.onto (.limited 76)) true agesStream).1 =
      .error (peopleWriter.fullError 76 start doc) := by
  have too_long : 76 <
      (ingestStream ageBuilder (peopleWriter.onto .unlimited) true agesStream).2.sink.bytes.length := by
    decide +kernel
  obtain ⟨bytes_eq, -, ends⟩ :=
    (fullSink_keepsPrefix ageBuilder peopleWriter 76).2 true agesStream
  obtain ⟨before, record, after, doc, -, -, -, -, -, error_eq, -⟩ := ends too_long
  exact ⟨too_long, bytes_eq, _, doc, error_eq⟩

end Intake
