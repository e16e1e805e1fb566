import Mathlib.Data.List.Basic
import Mathlib.Data.List.TakeWhile
import Intake.Proofs.Build.Failure
import Intake.Proofs.Build.Line
import Intake.Proofs.Build.Reuse
import Intake.Proofs.Bulk.Payload
import Intake.Proofs.Stream.Lines

/-!
# What a run over a stream writes

A run goes over the lines of a stream, passes blank ones over, builds each of the others on the
scratch that the one before left, and writes what was built. Since a build sees nothing of an
earlier one, and no build fails with an error of configuration, the whole run can be said from the
stream's records alone, each built by itself: which frames are written, how many records are counted
in and out, and which error ends the run (`ingestStream_eq_reference`).
-/

namespace Intake

open Intake.Text

/-! ## Records -/

/-- The records among some lines: those that are not blank, up to the first line that is no text. -/
def recordsOfLines (lines : List (List UInt8)) : List String :=
  (((lines.map ofUtf8?).takeWhile Option.isSome).filterMap id).filter fun text =>
    !isBlankText text

/-- The records of a stream. -/
def streamRecords (bytes : List UInt8) : List String := recordsOfLines (streamLines bytes)

theorem recordsOfLines_cons_of_none {line : List UInt8} (h : ofUtf8? line = none)
    (rest : List (List UInt8)) : recordsOfLines (line :: rest) = [] := by
  simp [recordsOfLines, h]

theorem recordsOfLines_cons_of_some {line : List UInt8} {text : String}
    (h : ofUtf8? line = some text) (rest : List (List UInt8)) :
    recordsOfLines (line :: rest) =
      if isBlankText text then recordsOfLines rest else text :: recordsOfLines rest := by
  by_cases blank : isBlankText text = true <;> simp [recordsOfLines, h, blank]

namespace Builder

/-- The document of a record, if it builds on its own. -/
def document? (builder : Builder) (record : String) : Option Built :=
  match builder.build record with
  | .ok doc => some doc
  | .error _ => none

/-- The error of a record that does not build. -/
def failure? (builder : Builder) (record : String) : Option IngestError :=
  match builder.build record with
  | .ok _ => none
  | .error error => some error

/-- Does the record build on its own? -/
def builds (builder : Builder) (record : String) : Bool := (builder.document? record).isSome

variable {builder : Builder} {record : String}

theorem document?_of_ok {doc : Built} (h : builder.build record = .ok doc) :
    builder.document? record = some doc := by
  simp [document?, h]

theorem document?_of_error {error : IngestError} (h : builder.build record = .error error) :
    builder.document? record = none := by
  simp [document?, h]

theorem failure?_of_ok {doc : Built} (h : builder.build record = .ok doc) :
    builder.failure? record = none := by
  simp [failure?, h]

theorem failure?_of_error {error : IngestError} (h : builder.build record = .error error) :
    builder.failure? record = some error := by
  simp [failure?, h]

theorem builds_of_ok {doc : Built} (h : builder.build record = .ok doc) :
    builder.builds record = true := by
  simp [builds, document?_of_ok h]

theorem builds_of_error {error : IngestError} (h : builder.build record = .error error) :
    builder.builds record = false := by
  simp [builds, document?_of_error h]

end Builder

/-! ## Lines and records -/

/-- Takes in a record of a stream. -/
def Run.takeText (builder : Builder) (skipErrors : Bool) (run : Run) (record : String) : RunStep :=
  run.take skipErrors (builder.buildText record run.scratch)

/-- **Lines are their records.** A run over lines is a run over their records, which then meets the
first line that is no text, if there is one. -/
theorem Run.each_takeLine (builder : Builder) (skipErrors : Bool) (lines : List (List UInt8))
    (run : Run) :
    Run.each (fun run line => run.takeLine builder skipErrors line) run lines =
      match Run.each (Run.takeText builder skipErrors) run (recordsOfLines lines) with
      | (.ok (), ended) =>
        (if lines.all fun line => (ofUtf8? line).isSome then .ok ()
          else .error (.io .invalidUtf8), ended)
      | (.error error, ended) => (.error error, ended) := by
  induction lines generalizing run with
  | nil => rfl
  | cons line rest ih =>
    cases text_eq : ofUtf8? line with
    | none =>
      rw [recordsOfLines_cons_of_none text_eq]
      simp [Run.each, Run.takeLine, text_eq]
    | some text =>
      rw [recordsOfLines_cons_of_some text_eq]
      by_cases blank : isBlankText text = true
      · have step_eq : run.takeLine builder skipErrors line = (.ok (), run) := by
          simp [Run.takeLine, text_eq, blank]
        rw [if_pos blank, Run.each, step_eq]
        simp [ih, text_eq]
      · have step_eq : run.takeLine builder skipErrors line =
            Run.takeText builder skipErrors run text := by
          simp [Run.takeLine, Run.takeText, text_eq, blank]
        rw [if_neg blank, Run.each, Run.each, step_eq]
        cases Run.takeText builder skipErrors run text with
        | mk verdict next =>
          cases verdict with
          | error error => rfl
          | ok _ => simp [ih, text_eq]

/-! ## One record -/

/-- The run has come from one point to another: some documents were written, and so many records
were left out. -/
structure Run.Advanced (before : Run) (docs : List Built) (skipped : Nat) (after : Run) : Prop where
  writer_eq : after.writer = before.writer.after docs
  stats_eq : after.stats = ⟨before.stats.built + docs.length, before.stats.skipped + skipped⟩

namespace Run.Advanced

theorem refl (run : Run) : run.Advanced [] 0 run :=
  ⟨run.writer.after_nil.symm, rfl⟩

theorem trans {first second third : Run} {docs more : List Built} {skipped others : Nat}
    (h : first.Advanced docs skipped second) (h' : second.Advanced more others third) :
    first.Advanced (docs ++ more) (skipped + others) third := by
  constructor
  · rw [h'.writer_eq, h.writer_eq, BulkWriter.after_after]
  · rw [h'.stats_eq, h.stats_eq, List.length_append, Nat.add_assoc, Nat.add_assoc]

theorem room_eq {before after : Run} {docs : List Built} {skipped : Nat}
    (h : before.Advanced docs skipped after) :
    after.writer.sink.room = before.writer.sink.room := by
  rw [h.writer_eq]
  rfl

end Run.Advanced

namespace Run

variable {builder : Builder} {record : String}

/-- A record that builds is written. -/
theorem takeText_of_ok {doc : Built} {run : Run} (endless : run.writer.sink.room = none)
    (built : builder.build record = .ok doc) (skipErrors : Bool) :
    ∃ next, takeText builder skipErrors run record = (.ok (), next) ∧
      run.Advanced [doc] 0 next := by
  have answer := builder.buildText_fst record run.scratch
  have written := BulkWriter.writeDocument_of_room endless (Builder.hasLineFeed_of_build built)
  rw [built] at answer
  rw [takeText]
  cases outcome : builder.buildText record run.scratch with
  | mk result used =>
    rw [outcome] at answer
    obtain rfl : result = .ok doc := answer
    refine ⟨⟨run.writer.after [doc], used, ⟨run.stats.built + 1, run.stats.skipped⟩⟩, ?_, rfl, rfl⟩
    simp only [take, accept, written]

/-- A record that does not build is left out if errors are skipped, and else ends the run with its
own error. -/
theorem takeText_of_error {error : IngestError} (failed : builder.build record = .error error)
    (skipErrors : Bool) (run : Run) :
    ∃ next, takeText builder skipErrors run record =
        (if skipErrors then .ok () else .error error, next) ∧
      run.Advanced [] (if skipErrors then 1 else 0) next := by
  have answer := builder.buildText_fst record run.scratch
  have of_record := builder.build_error_isConfiguration failed
  rw [failed] at answer
  rw [takeText]
  cases outcome : builder.buildText record run.scratch with
  | mk result used =>
    rw [outcome] at answer
    obtain rfl : result = .error error := answer
    cases skipErrors with
    | false => exact ⟨⟨run.writer, used, run.stats⟩, rfl, run.writer.after_nil.symm, rfl⟩
    | true =>
      refine ⟨⟨run.writer, used, ⟨run.stats.built, run.stats.skipped + 1⟩⟩, ?_,
        run.writer.after_nil.symm, rfl⟩
      simp only [take, refuse, of_record]
      rfl

/-! ## All records -/

/-- **With errors skipped**, a run writes the records that build, counts the others, and goes
through. -/
theorem each_takeText_skipping {run : Run} (endless : run.writer.sink.room = none)
    (records : List String) :
    ∃ ended, Run.each (takeText builder true) run records = (.ok (), ended) ∧
      run.Advanced (records.filterMap builder.document?)
        (records.countP fun record => !builder.builds record) ended := by
  induction records generalizing run with
  | nil => exact ⟨run, rfl, .refl run⟩
  | cons record rest ih =>
    cases build_eq : builder.build record with
    | ok doc =>
      obtain ⟨next, step_eq, advanced⟩ := takeText_of_ok endless build_eq true
      obtain ⟨ended, rest_eq, rest_advanced⟩ := ih (advanced.room_eq.trans endless)
      refine ⟨ended, by rw [Run.each, step_eq]; exact rest_eq, ?_⟩
      rw [List.filterMap_cons_some (Builder.document?_of_ok build_eq),
        List.countP_cons_of_neg (by simp [Builder.builds_of_ok build_eq])]
      simpa using advanced.trans rest_advanced
    | error error =>
      obtain ⟨next, step_eq, advanced⟩ := takeText_of_error build_eq true run
      obtain ⟨ended, rest_eq, rest_advanced⟩ := ih (advanced.room_eq.trans endless)
      refine ⟨ended, by rw [Run.each, step_eq]; exact rest_eq, ?_⟩
      rw [List.filterMap_cons_none (Builder.document?_of_error build_eq),
        List.countP_cons_of_pos (by simp [Builder.builds_of_error build_eq]), Nat.add_comm]
      simpa using advanced.trans rest_advanced

/-- **With errors not skipped**, a run writes the records up to the first that does not build, and
ends with that one's error if there is one. -/
theorem each_takeText_stopping {run : Run} (endless : run.writer.sink.room = none)
    (records : List String) :
    ∃ ended, Run.each (takeText builder false) run records =
        (match records.findSome? builder.failure? with
          | some error => .error error
          | none => .ok (), ended) ∧
      run.Advanced ((records.takeWhile builder.builds).filterMap builder.document?) 0 ended := by
  induction records generalizing run with
  | nil => exact ⟨run, rfl, .refl run⟩
  | cons record rest ih =>
    cases build_eq : builder.build record with
    | ok doc =>
      obtain ⟨next, step_eq, advanced⟩ := takeText_of_ok endless build_eq false
      obtain ⟨ended, rest_eq, rest_advanced⟩ := ih (advanced.room_eq.trans endless)
      refine ⟨ended, ?_, ?_⟩
      · rw [Run.each, step_eq, List.findSome?_cons, Builder.failure?_of_ok build_eq]
        exact rest_eq
      · rw [List.takeWhile_cons_of_pos (Builder.builds_of_ok build_eq),
          List.filterMap_cons_some (Builder.document?_of_ok build_eq)]
        exact advanced.trans rest_advanced
    | error error =>
      obtain ⟨next, step_eq, advanced⟩ := takeText_of_error build_eq false run
      refine ⟨next, ?_, ?_⟩
      · rw [Run.each, step_eq, List.findSome?_cons, Builder.failure?_of_error build_eq]
        rfl
      · rw [List.takeWhile_cons_of_neg (by simp [Builder.builds_of_error build_eq])]
        exact advanced

end Run

/-! ## The lines that build -/

namespace Builder

/-- The lines, up to the first that is no text, that are not blank and build. -/
def linesThatBuild (builder : Builder) (lines : List (List UInt8)) : List (List UInt8) :=
  (lines.takeWhile fun line => (ofUtf8? line).isSome).filter fun line =>
    (ofUtf8? line).any fun text => !isBlankText text && builder.builds text

/-- Lines that build are texts. -/
theorem isText_of_mem_linesThatBuild {builder : Builder} {lines : List (List UInt8)}
    {line : List UInt8} (member : line ∈ builder.linesThatBuild lines) :
    (ofUtf8? line).isSome = true := by
  obtain ⟨-, fits⟩ := List.mem_filter.mp member
  cases text_eq : ofUtf8? line with
  | none => simp [text_eq] at fits
  | some text => rfl

/-- The records of the lines that build are the records that build. -/
theorem recordsOfLines_linesThatBuild (builder : Builder) (lines : List (List UInt8)) :
    recordsOfLines (builder.linesThatBuild lines) =
      (recordsOfLines lines).filter builder.builds := by
  induction lines with
  | nil => rfl
  | cons line rest ih =>
    cases text_eq : ofUtf8? line with
    | none =>
      rw [recordsOfLines_cons_of_none text_eq, linesThatBuild,
        List.takeWhile_cons_of_neg (by simp [text_eq])]
      rfl
    | some text =>
      rw [recordsOfLines_cons_of_some text_eq, linesThatBuild,
        List.takeWhile_cons_of_pos (by simp [text_eq])]
      by_cases blank : isBlankText text = true
      · rw [List.filter_cons_of_neg (by simp [text_eq, blank]), ← linesThatBuild, ih, if_pos blank]
      · rw [if_neg blank]
        by_cases good : builder.builds text = true
        · rw [List.filter_cons_of_pos (by simp [text_eq, blank, good]), ← linesThatBuild,
            recordsOfLines_cons_of_some text_eq, if_neg blank, ih, List.filter_cons_of_pos good]
        · rw [List.filter_cons_of_neg (by simp [text_eq, good]), ← linesThatBuild, ih,
            List.filter_cons_of_neg good]

/-- There is a stream of just the lines that build. -/
theorem exists_stream_of_linesThatBuild (builder : Builder) (bytes : List UInt8) :
    ∃ kept, streamLines kept = builder.linesThatBuild (streamLines bytes) := by
  refine ⟨joinLines (builder.linesThatBuild (streamLines bytes)), streamLines_joinLines ?_⟩
  intro line member
  obtain ⟨before, -⟩ := List.mem_filter.mp member
  exact lineFeed_not_mem_of_mem_streamLines ((List.takeWhile_sublist _).subset before)

theorem length_documents (builder : Builder) (records : List String) :
    (records.filterMap builder.document?).length = records.countP builder.builds := by
  rw [List.length_filterMap_eq_countP]
  rfl

theorem findSome?_failure?_eq_none {builder : Builder} {records : List String}
    (good : ∀ record ∈ records, builder.builds record = true) :
    records.findSome? builder.failure? = none := by
  rw [List.findSome?_eq_none_iff]
  intro record member
  cases build_eq : builder.build record with
  | ok doc => exact failure?_of_ok build_eq
  | error error =>
    have := good record member
    rw [builds_of_error build_eq] at this
    cases this

theorem builds_of_findSome?_eq_none {builder : Builder} {records : List String}
    (none_fails : records.findSome? builder.failure? = none) :
    ∀ record ∈ records, builder.builds record = true := by
  rw [List.findSome?_eq_none_iff] at none_fails
  intro record member
  cases build_eq : builder.build record with
  | ok doc => exact builds_of_ok build_eq
  | error error =>
    have := none_fails record member
    rw [failure?_of_error build_eq] at this
    cases this

end Builder

/-! ## The whole run -/

section

variable (builder : Builder) {writer : BulkWriter}

/-- The result of a run that was not ended by a record: the counts, or the error of the first line
that is no text. -/
def endOfStream (bytes : List UInt8) (stats : IngestStats) : Except IngestError IngestStats :=
  if (ofUtf8? bytes).isSome then .ok stats else .error (.io .invalidUtf8)

/-- The end of a run over all records of a stream. -/
theorem ingestStream_of_each {skipErrors : Bool} (reliable : writer.sink.IsReliable)
    {bytes : List UInt8} {verdict : Except IngestError Unit} {ended : Run} {docs : List Built}
    {skipped : Nat}
    (run_eq : Run.each (Run.takeText builder skipErrors) (Run.start writer) (streamRecords bytes) =
      (verdict, ended))
    (advanced : (Run.start writer).Advanced docs skipped ended) :
    ingestStream builder writer skipErrors bytes =
      (verdict.bind fun _ => endOfStream bytes ⟨docs.length, skipped⟩, writer.after docs) := by
  have writer_eq : ended.writer = writer.after docs := advanced.writer_eq
  have stats_eq : ended.stats = ⟨docs.length, skipped⟩ := by
    simp [advanced.stats_eq, Run.start, IngestStats.zero]
  have all_texts : ((streamLines bytes).all fun line => (ofUtf8? line).isSome) =
      (ofUtf8? bytes).isSome := by
    rw [Bool.eq_iff_iff, List.all_eq_true, isText_iff_lines]
  rw [ingestStream, runLines, Run.each_takeLine, ← streamRecords, run_eq]
  cases verdict with
  | error error => simp only [Run.finish, writer_eq, Except.bind]
  | ok _ =>
    simp only [all_texts, endOfStream, Except.bind]
    split
    · have flushed : (writer.after docs).flush = .ok () := by
        simp [BulkWriter.flush, Sink.flush, BulkWriter.after, BulkWriter.withBytes, reliable.2]
        rfl
      simp only [Run.finish, writer_eq, flushed, stats_eq]
    · simp only [Run.finish, writer_eq]

/-- With errors skipped, all records that build are written, and all others counted. -/
theorem ingestStream_skipping (reliable : writer.sink.IsReliable) (bytes : List UInt8) :
    ingestStream builder writer true bytes =
      (endOfStream bytes
        ⟨(streamRecords bytes).countP builder.builds,
          (streamRecords bytes).countP fun record => !builder.builds record⟩,
        writer.after ((streamRecords bytes).filterMap builder.document?)) := by
  have endless : (Run.start writer).writer.sink.room = none := reliable.1
  obtain ⟨ended, run_eq, advanced⟩ :=
    @Run.each_takeText_skipping builder (.start writer) endless (streamRecords bytes)
  rw [ingestStream_of_each builder reliable run_eq advanced, builder.length_documents]
  rfl

/-- With errors not skipped, the records up to the first that does not build are written. -/
theorem ingestStream_stopping (reliable : writer.sink.IsReliable) (bytes : List UInt8) :
    ingestStream builder writer false bytes =
      (match (streamRecords bytes).findSome? builder.failure? with
        | some error => .error error
        | none => endOfStream bytes ⟨(streamRecords bytes).length, 0⟩,
        writer.after
          (((streamRecords bytes).takeWhile builder.builds).filterMap builder.document?)) := by
  have endless : (Run.start writer).writer.sink.room = none := reliable.1
  obtain ⟨ended, run_eq, advanced⟩ :=
    @Run.each_takeText_stopping builder (.start writer) endless (streamRecords bytes)
  rw [ingestStream_of_each builder reliable run_eq advanced]
  cases failed : (streamRecords bytes).findSome? builder.failure? with
  | some error => rfl
  | none =>
    have good := Builder.builds_of_findSome?_eq_none failed
    have all_good : (streamRecords bytes).takeWhile builder.builds = streamRecords bytes :=
      List.takeWhile_eq_self_iff.mpr good
    simp only [all_good, builder.length_documents, List.countP_eq_length.mpr good]
    rfl

/-- A run over just the lines that build writes what a run that skips errors writes. -/
theorem ingestStream_linesThatBuild (reliable : writer.sink.IsReliable) {bytes kept : List UInt8}
    (lines_eq : streamLines kept = builder.linesThatBuild (streamLines bytes)) :
    ingestStream builder writer false kept =
      (.ok ⟨(streamRecords bytes).countP builder.builds, 0⟩,
        (ingestStream builder writer true bytes).2) := by
  have records_eq : streamRecords kept = (streamRecords bytes).filter builder.builds := by
    rw [streamRecords, lines_eq, builder.recordsOfLines_linesThatBuild, ← streamRecords]
  have good : ∀ record ∈ streamRecords kept, builder.builds record = true := by
    intro record member
    rw [records_eq] at member
    exact (List.mem_filter.mp member).2
  have is_text : (ofUtf8? kept).isSome = true := by
    rw [isText_iff_lines, lines_eq]
    exact fun line member => Builder.isText_of_mem_linesThatBuild member
  have documents_eq : (streamRecords kept).filterMap builder.document? =
      (streamRecords bytes).filterMap builder.document? := by
    rw [records_eq, List.filterMap_filter]
    refine List.filterMap_congr fun record _ => ?_
    cases found : builder.document? record <;> simp [Builder.builds, found]
  rw [ingestStream_stopping builder reliable kept, Builder.findSome?_failure?_eq_none good,
    List.takeWhile_eq_self_iff.mpr good, documents_eq, ingestStream_skipping builder reliable bytes,
    endOfStream, if_pos is_text, records_eq, ← List.countP_eq_length_filter]

/-- **A run over a stream means its records.** With errors skipped, the frames of the records that
build are written, the others are counted, and only a line that is no text can end the run. With
errors not skipped, the run ends with the error of the first record that does not build, after the
frames of those before it. Over just the lines that build, both write the same. -/
theorem ingestStream_eq_reference (reliable : writer.sink.IsReliable) (bytes : List UInt8) :
    ingestStream builder writer true bytes =
        (endOfStream bytes
          ⟨(streamRecords bytes).countP builder.builds,
            (streamRecords bytes).countP fun record => !builder.builds record⟩,
          writer.after ((streamRecords bytes).filterMap builder.document?)) ∧
      ingestStream builder writer false bytes =
        (match (streamRecords bytes).findSome? builder.failure? with
          | some error => .error error
          | none => endOfStream bytes ⟨(streamRecords bytes).length, 0⟩,
          writer.after
            (((streamRecords bytes).takeWhile builder.builds).filterMap builder.document?)) ∧
      (∃ kept, streamLines kept = builder.linesThatBuild (streamLines bytes)) ∧
      ∀ kept, streamLines kept = builder.linesThatBuild (streamLines bytes) →
        ingestStream builder writer false kept =
          (.ok ⟨(streamRecords bytes).countP builder.builds, 0⟩,
            (ingestStream builder writer true bytes).2) :=
  ⟨ingestStream_skipping builder reliable bytes, ingestStream_stopping builder reliable bytes,
    builder.exists_stream_of_linesThatBuild bytes,
    fun _ lines_eq => ingestStream_linesThatBuild builder reliable lines_eq⟩

end

/-- A builder for records with an age below 128. -/
def ageBuilder : Builder where
  binding := ⟨"people", "person", [⟨"age", [Schema.Field.ofType "age" .byte]⟩]⟩
  enrichers := []
  dates := .textOnly
  idField := none

/-- A record that builds, a blank line, a record that does not build, and one that is not JSON. -/
def mixedStream : List UInt8 := utf8 "\x7b\"age\":31\x7d\r\n \n\x7b\"age\":300\x7d\n31]"

/-- Of a stream with all kinds of lines, one record is written and two are counted out. -/
theorem ingestStream_mixedStream :
    (BulkWriter.ofSink Sink.unlimited "people").sink.IsReliable ∧
      (ingestStream ageBuilder (BulkWriter.ofSink Sink.unlimited "people") true mixedStream).1 =
        .ok ⟨1, 2⟩ := by
  have reliable : (BulkWriter.ofSink Sink.unlimited "people").sink.IsReliable := ⟨rfl, rfl⟩
  refine ⟨reliable, ?_⟩
  have reference := ingestStream_eq_reference ageBuilder reliable mixedStream
  have is_text : (ofUtf8? mixedStream).isSome = true := by decide +kernel
  have counts : (streamRecords mixedStream).countP ageBuilder.builds = 1 ∧
      (streamRecords mixedStream).countP (fun record => !ageBuilder.builds record) = 2 := by
    decide +kernel
  rw [reference.1, endOfStream, if_pos is_text, counts.1, counts.2]

end Intake
