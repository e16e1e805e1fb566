import Mathlib.Data.List.Forall2
import Intake.Command.Job
import Intake.Proofs.Json.Locality
import Intake.Proofs.Json.RoundTrip
import Intake.Proofs.Stream.Run

/-!
# A list of records and a stream of records

Records can be given as the items of one JSON document or as the lines of a stream. Both ways take
the same steps (`runLines_asLines`), since a record is read as the same value by itself and as an
item, so they write the same bytes, count the same records and end with the same error
(`runDocument_asArray`).

The limits of this are those of the two forms: a record that holds a line feed is no line, and
inside the list a record may nest one less than by itself.
-/

namespace Intake

open Intake.Text

namespace Run

/-! ## Step by step -/

section

variable {α β : Type} {step : Run → α → RunStep}

/-- Runs that take the same steps are the same. -/
theorem each_congr {other : Run → β → RunStep} {as : List α} {bs : List β}
    (same : List.Forall₂ (fun a b => ∀ run, step run a = other run b) as bs) (run : Run) :
    Run.each step run as = Run.each other run bs := by
  induction same generalizing run with
  | nil => rfl
  | cons first rest ih =>
    rw [Run.each, Run.each, first]
    split
    · exact ih _
    · rfl

/-- Each record that does not end the run counts for one. -/
def Counts (step : Run → α → RunStep) : Prop :=
  ∀ run a, (step run a).2.position =
    run.position + match (step run a).1 with
      | .ok () => 1
      | .error _ => 0

/-- **A run that an error ends tells where**: its position is the number of the record that ended
it. -/
theorem each_eq_error (counts : Counts step) {items : List α} {run last : Run} {error : IngestError}
    (h : Run.each step run items = (.error error, last)) :
    ∃ k < items.length, last.position = run.position + k ∧
      (Run.each step run (items.take k)).1 = .ok () ∧
      Run.each step run (items.take (k + 1)) = (.error error, last) := by
  induction items generalizing run with
  | nil => cases h
  | cons item rest ih =>
    have counted := counts run item
    rw [Run.each] at h
    cases step_eq : step run item with
    | mk verdict next =>
      rw [step_eq] at h counted
      cases verdict with
      | error e =>
        cases h
        refine ⟨0, Nat.zero_lt_succ _, counted, rfl, ?_⟩
        rw [List.take_succ_cons, Run.each, step_eq]
      | ok u =>
        obtain ⟨k, inside, position_eq, through, ended⟩ := ih h
        refine ⟨k + 1, Nat.succ_lt_succ inside, ?_, ?_, ?_⟩
        · dsimp only at counted
          omega
        · rw [List.take_succ_cons, Run.each, step_eq]
          exact through
        · rw [List.take_succ_cons, Run.each, step_eq]
          exact ended

end

theorem take_position (run : Run) (skipErrors : Bool)
    (outcome : Except IngestError Built × Scratch) :
    (run.take skipErrors outcome).2.position =
      run.position + match (run.take skipErrors outcome).1 with
        | .ok () => 1
        | .error _ => 0 := by
  obtain ⟨error | doc, scratch⟩ := outcome
  · simp only [take, refuse]
    split
    · simp only [position]
      omega
    · rfl
  · cases written : run.writer.writeDocument doc with
    | mk verdict writer =>
      cases verdict with
      | error error => simp [take, accept, written, position]
      | ok _ =>
        simp only [take, accept, written, position]
        omega

theorem takeRecord_counts (builder : Builder) (skipErrors : Bool) :
    Counts fun run record => run.takeRecord builder skipErrors record :=
  fun run _ => run.take_position skipErrors _

end Run

/-! ## Records as lines -/

namespace Command

/-- The bytes of some records as the items of one list. -/
def asArray (records : List String) : List UInt8 :=
  utf8 ("[" ++ ",".intercalate records ++ "]")

/-- The bytes of some records, one per line. -/
def asLines (records : List String) : List UInt8 :=
  records.flatMap fun record => utf8 record ++ [10]

/-- The texts are read as the values, and each can be an item of a list that is read. -/
structure AreRecords (records : List String) (values : List Json) : Prop where
  one_line : ∀ record ∈ records, '\n' ∉ record.toList
  read : List.Forall₂ (fun record value => Json.read record = .ok value) records values
  shallow : ∀ record ∈ records, Json.nesting record.toList < Json.maxDepth

theorem streamLines_asLines {records : List String}
    (one_line : ∀ record ∈ records, '\n' ∉ record.toList) :
    streamLines (asLines records) = records.map fun record => dropReturn (utf8 record) := by
  induction records with
  | nil => rfl
  | cons record rest ih =>
    obtain ⟨first, others⟩ := List.forall_mem_cons.mp one_line
    have whole : 10 ∉ utf8 record := ten_not_mem_encode first
    rw [asLines, List.flatMap_cons, ← asLines, List.append_assoc, List.singleton_append,
      streamLines_append whole, ih others, List.map_cons]

/-- **A line is taken in like the value of its text**, whether a carriage return ends it or not. -/
theorem takeLine_eq_takeRecord {record : String} {value : Json}
    (read : Json.read record = .ok value) (builder : Builder) (skipErrors : Bool) (run : Run) :
    run.takeLine builder skipErrors (dropReturn (utf8 record)) =
      run.takeRecord builder skipErrors value := by
  obtain ⟨kept, line_eq, kept_cases⟩ := exists_dropReturn_encode record.toList
  have kept_read : Json.readAll (Json.readValue false Json.maxDepth) kept = .ok value := by
    rw [Json.read] at read
    obtain same | returned := kept_cases
    · rwa [same] at read
    · rw [returned] at read
      exact Json.readAll_of_concat rfl read
  have text_eq : ofUtf8? (dropReturn (utf8 record)) = some (String.ofList kept) := by
    rw [utf8, line_eq, ofUtf8?, decode_encode]
    rfl
  have some_text : isBlankText (String.ofList kept) = false := by
    rw [isBlankText, String.toList_ofList]
    exact Json.all_isBlank_of_readAll kept_read
  have value_eq : Json.read (String.ofList kept) = .ok value := by
    rw [Json.read, String.toList_ofList]
    exact kept_read
  rw [Run.takeLine, text_eq, Run.takeRecord]
  simp only [some_text, Bool.false_eq_true, if_false, Builder.buildText, value_eq]

/-- **Both forms of the records take the same steps.** -/
theorem runLines_asLines {records : List String} {values : List Json}
    (h : AreRecords records values) (builder : Builder) (writer : BulkWriter) (skipErrors : Bool) :
    runLines builder writer skipErrors (asLines records) =
      runRecords builder writer skipErrors values := by
  rw [runLines, runRecords, streamLines_asLines h.one_line]
  refine Run.each_congr (List.forall₂_map_left_iff.mpr ?_) _
  exact h.read.imp fun record value read => takeLine_eq_takeRecord read builder skipErrors

theorem AreRecords.take {records : List String} {values : List Json} (h : AreRecords records values)
    (k : Nat) : AreRecords (records.take k) (values.take k) where
  one_line := fun record mem => h.one_line record (List.mem_of_mem_take mem)
  read := List.forall₂_take k h.read
  shallow := fun record mem => h.shallow record (List.mem_of_mem_take mem)

/-! ## Records as items -/

/-- **The list of the records is read as the list of their values.** -/
theorem readDocument_asArray {records : List String} {values : List Json}
    (h : AreRecords records values) {job : Job} (plain : job.options.machineNumbers = false) :
    job.readDocument (asArray records) = .ok (.array values) := by
  have items : List.Forall₂ (Json.IsItem (Json.readValue false (Json.maxDepth - 1)))
      (records.map String.toList) values := by
    obtain ⟨-, read, shallow⟩ := h
    induction read with
    | nil => exact .nil
    | @cons record value records values first rest ih =>
      obtain ⟨first_shallow, rest_shallow⟩ := List.forall_mem_cons.mp shallow
      exact .cons (Json.isItem_of_readAll first (Nat.le_sub_one_of_lt first_shallow))
        (ih rest_shallow)
  have text_eq : ("[" ++ ",".intercalate records ++ "]").toList =
      '[' :: ([','].intercalate (records.map String.toList) ++ [']']) := by
    simp [String.toList_intercalate]
  have read_eq : Json.read ("[" ++ ",".intercalate records ++ "]") = .ok (.array values) := by
    rw [Json.read, text_eq]
    exact Json.readAll_of_isItems (Json.isItems_intercalate items)
  simp only [Job.readDocument, asArray, utf8, decode_encode, String.ofList_toList, plain,
    Bool.false_eq_true, if_false, read_eq]

/-! ## Both forms -/

/-- The run of a job over some records as lines. -/
def Job.lineRun (job : Job) (writer : BulkWriter) (records : List String) : RunStep :=
  runLines job.builder writer job.options.skipErrors (asLines records)

/-- The run of a job over some values as the items of a document. -/
def Job.itemRun (job : Job) (writer : BulkWriter) (values : List Json) : RunStep :=
  runRecords job.builder writer job.options.skipErrors values

/-- A run over a document ends like one over a stream; a failure that a record brought about names
the record. -/
theorem finish_eq (step : RunStep) :
    Job.finish step =
      ((Run.finish step).1.mapError (Job.failureOf step.2), (Run.finish step).2) := by
  obtain ⟨error | _, run⟩ := step
  · rfl
  · simp only [Job.finish, Run.finish, BulkWriter.flush]
    cases run.writer.sink.flush <;> rfl

/-- **Both forms of the records write the same bytes, count the same records and end with the same
error at the same record.** The two runs are equal after any number of records. The document's
failure is the stream's error, with the number of the record if it is about one; and that number is
the one of the record that ended both runs. -/
theorem runDocument_asArray (job : Job) (plain : job.options.machineNumbers = false)
    (writer : BulkWriter) {records : List String} {values : List Json}
    (h : AreRecords records values) :
    (∀ k, job.itemRun writer (values.take k) = job.lineRun writer (records.take k)) ∧
      (let outcome := ingestStream job.builder writer job.options.skipErrors (asLines records)
       job.runDocument writer (asArray records) =
        (outcome.1.mapError (Job.failureOf (job.lineRun writer records).2), outcome.2)) ∧
      ∀ error, (job.lineRun writer records).1 = .error error →
        ∃ k < records.length, (job.lineRun writer records).2.position = k ∧
          (job.lineRun writer (records.take k)).1 = .ok () ∧
          job.lineRun writer (records.take (k + 1)) = job.lineRun writer records := by
  have same_run (k : Nat) :
      job.itemRun writer (values.take k) = job.lineRun writer (records.take k) :=
    (runLines_asLines (h.take k) job.builder writer job.options.skipErrors).symm
  have whole_run : job.itemRun writer values = job.lineRun writer records :=
    (runLines_asLines h job.builder writer job.options.skipErrors).symm
  refine ⟨same_run, ?_, fun error failed => ?_⟩
  · rw [Job.runDocument, readDocument_asArray h plain]
    show Job.finish (job.itemRun writer values) = _
    rw [whole_run, finish_eq]
    rfl
  · have ended : job.itemRun writer values = (.error error, (job.lineRun writer records).2) := by
      rw [whole_run, ← failed]
    obtain ⟨k, inside, position_eq, through, ends⟩ :=
      Run.each_eq_error (Run.takeRecord_counts job.builder job.options.skipErrors) ended
    have start_position : (Run.start writer).position = 0 := rfl
    refine ⟨k, h.read.length_eq ▸ inside, by omega, ?_, ?_⟩
    · rw [← same_run k]
      exact through
    · rw [← same_run (k + 1), ← whole_run, ended]
      exact ends

/-- A job on people and their ages. -/
def agesJob : Job where
  builder := ageBuilder
  index := "people"
  options := ⟨"people.json", none, false, false, true, false, false⟩

/-- A record of an age, as a text. -/
def ageValue (age : String) : Json := .object [("age", .string age)]

theorem ageValue_readsBack (depth : Nat) (age : String) :
    (ageValue age).ReadsBack false (depth + 1) :=
  .singleton (by decide) (.string depth age)

/-- A record, a list of one record, and a record that does not build. -/
def agesValues : List Json := [ageValue "31", .array [ageValue "32"], ageValue "300"]

/-- The values as texts. -/
def agesRecords : List String := agesValues.map Json.text

/-- What is wrong with the last record. -/
def agesError : IngestError := .malformed "age" "byte" "300" (some (.integer .tooLarge))

/-- What becomes of the records as lines. -/
def agesOutcome : Except IngestError IngestStats × BulkWriter :=
  ingestStream agesJob.builder agesJob.writer agesJob.options.skipErrors (asLines agesRecords)

/-- Both forms of the records end with the error of the last. -/
theorem runDocument_asArray_ages :
    AreRecords agesRecords agesValues ∧ agesOutcome.1 = .error agesError ∧
      agesJob.runDocument agesJob.writer (asArray agesRecords) =
        (.error (.during "Failed to build record 2" agesError), agesOutcome.2) := by
  have list_readsBack : (Json.array [ageValue "32"]).ReadsBack false Json.maxDepth := by
    refine .array fun item mem => ?_
    rw [List.mem_singleton.mp mem]
    exact ageValue_readsBack 125 "32"
  have are_records : AreRecords agesRecords agesValues :=
    { one_line := by decide +kernel
      read := .cons (Json.read_text (ageValue_readsBack 126 "31"))
        (.cons (Json.read_text list_readsBack)
          (.cons (Json.read_text (ageValue_readsBack 126 "300")) .nil))
      shallow := by decide +kernel }
  have outcome_eq : agesOutcome.1 = .error agesError := eq_error_of_error? (by decide +kernel)
  have position_eq : (agesJob.lineRun agesJob.writer agesRecords).2.position = 2 := by
    decide +kernel
  obtain ⟨-, document_eq, -⟩ := runDocument_asArray agesJob rfl agesJob.writer are_records
  refine ⟨are_records, outcome_eq, ?_⟩
  rw [document_eq, ← agesOutcome, outcome_eq, Except.mapError, agesError, Job.failureOf,
    position_eq]
  · rfl
  all_goals exact nofun

end Command

end Intake
