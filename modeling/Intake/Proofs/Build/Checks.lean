import Intake.Proofs.Build.Failure
import Intake.Proofs.Bulk.Decoding

/-!
# Checks that never fire

Three checks guard against what cannot be. A document refuses blank values, but coercion gives none;
a build and a writer refuse lines that hold a line feed, but every control character is written as
an escape. To say that such a check is dead, its place in a build is left open
(`Builder.assembleWith`): whatever becomes of blank values and of unprintable lines there, the
builder does the same, on every tree and every scratch (`Builder.assembleWith_eq`).

So the only values that a document refuses are those that it holds already.
-/

namespace Intake

open Intake.Schema Intake.Text

namespace Builder

/-! ## Builds with the checks left open -/

section

variable (builder : Builder) (store : Field → String → BuildM Unit) (check : String → BuildM Unit)

/-- Collects one leaf for one field. -/
def collectForWith (leaf : Leaf) (field : Field) : BuildM Unit :=
  match leaf with
  | .scalar text => do
    match ← BuildM.ofExcept (coerceText builder.dates field text) with
    | some value => store field value
    | none => pure ()
  | .handle description => BuildM.ofExcept (Tree.refuseHandle field description)

/-- Collects everything that the binding reaches. -/
def collectWith (tree : Tree) : BuildM Unit :=
  builder.binding.paths.forM fun path =>
    (tree.leavesAt path.segments).forM fun leaf =>
      path.fields.forM (builder.collectForWith store leaf)

/-- Takes a contribution into the document and the aggregate text, unless it is dropped. -/
def contributeWith (contribution : Contribution) : BuildM Unit := do
  match ← BuildM.ofExcept
      (coerceText builder.dates contribution.field contribution.value) with
  | some value =>
    aggregateValue value
    store contribution.field value
  | none => pure ()

/-- Runs one enricher on the aggregate text. -/
def runEnricherWith (enricher : Enricher) : BuildM Unit := do
  let scratch ← get
  match enricher.enrich scratch.aggregate with
  | .error reason => throw (.enricher enricher.name reason)
  | .ok contributions => contributions.forM (builder.contributeWith store)

/-- Puts the aggregate text together, if an enricher needs it, and runs the enrichers in order. -/
def enrichWith : BuildM Unit := do
  if builder.enrichers.any (·.needsAggregate) then
    modify fun scratch =>
      { scratch with aggregate := scratch.document.appendAggregate scratch.aggregate }
  builder.enrichers.forM (builder.runEnricherWith store)

/-- Builds the document of a tree on a clear scratch: `store` takes the values in, and `check` looks
at the line. -/
def assembleWith (tree : Tree) : BuildM Built := do
  builder.collectWith store tree
  builder.enrichWith store
  let document := (← get).document
  let line := document.line
  check line
  return ⟨builder.idField.bind document.first?, line⟩

end

/-- Refuses a line that holds a line feed. -/
def refuseLineFeed (line : String) : BuildM Unit := do
  if hasLineFeed line then throw .multiLine

/-- With the checks that a build makes, it is the build. -/
theorem assembleWith_pushValue (builder : Builder) (tree : Tree) :
    builder.assembleWith pushValue refuseLineFeed tree = builder.assemble tree := by
  have line_eq (line : String) (built : Built) :
      (do refuseLineFeed line; return built : BuildM Built) =
        (do if hasLineFeed line then throw .multiLine
            return built) := by
    unfold refuseLineFeed
    split <;> rfl
  unfold assembleWith
  simp only [line_eq]
  rfl

/-! ## Blank values and unprintable lines -/

/-- Values that are not blank are added to the document. -/
def StoresVisible (store : Field → String → BuildM Unit) : Prop :=
  ∀ field value, isBlankText value = false → store field value = pushValue field value

/-- Lines of printable characters pass. -/
def PassesPrintable (check : String → BuildM Unit) : Prop :=
  ∀ line, line.toList.all isPrintable = true → check line = pure ()

variable {store : Field → String → BuildM Unit} {check : String → BuildM Unit}

/-- **A leaf is never stored as a blank value.** -/
theorem collectForWith_eq (builder : Builder) (stores : StoresVisible store) :
    builder.collectForWith store = builder.collectFor := by
  funext leaf field
  cases leaf with
  | handle description => rfl
  | scalar text =>
    rw [collectForWith, collectFor]
    cases coerced : coerceText builder.dates field text with
    | error error => rfl
    | ok value? =>
      cases value? with
      | none => rfl
      | some value => exact stores field value (coerceText_visible coerced)

/-- **A contribution is never stored as a blank value.** -/
theorem contributeWith_eq (builder : Builder) (stores : StoresVisible store) :
    builder.contributeWith store = builder.contribute := by
  funext ⟨field, value⟩
  rw [contributeWith, contribute]
  cases coerced : coerceText builder.dates field value with
  | error error => rfl
  | ok value? =>
    cases value? with
    | none => rfl
    | some value =>
      exact congrArg (aggregateValue value >>= fun _ => ·)
        (stores field value (coerceText_visible coerced))

theorem collectWith_eq (builder : Builder) (stores : StoresVisible store) :
    builder.collectWith store = builder.collect := by
  funext tree
  rw [collectWith, builder.collectForWith_eq stores]
  rfl

theorem enrichWith_eq (builder : Builder) (stores : StoresVisible store) :
    builder.enrichWith store = builder.enrich := by
  have run_eq : builder.runEnricherWith store = builder.runEnricher := by
    funext enricher
    rw [runEnricherWith, builder.contributeWith_eq stores]
    rfl
  rw [enrichWith, run_eq]
  rfl

/-- **The checks of a build are dead**: whatever becomes of blank values and of lines with control
characters, the build is the same. -/
theorem assembleWith_eq (builder : Builder) (stores : StoresVisible store)
    (passes : PassesPrintable check) (tree : Tree) :
    builder.assembleWith store check tree = builder.assemble tree := by
  have check_eq (doc : Document) : check doc.line = refuseLineFeed doc.line := by
    rw [passes _ doc.line_isPrintable, refuseLineFeed, doc.hasLineFeed_line]
    rfl
  have stores_here : StoresVisible pushValue := fun _ _ _ => rfl
  rw [← assembleWith_pushValue, assembleWith, assembleWith, builder.collectWith_eq stores,
    builder.collectWith_eq stores_here, builder.enrichWith_eq stores,
    builder.enrichWith_eq stores_here]
  simp only [check_eq]

/-! ## Answers -/

theorem IsFailure.ne_multiLine {builder : Builder} {error : IngestError}
    (h : builder.IsFailure error) : error ≠ .multiLine := by
  cases h with
  | refusal _ refused => cases refused <;> nofun
  | enricher => nofun

theorem buildTree_ne_multiLine (builder : Builder) (tree : Tree) (scratch : Scratch) :
    (builder.buildTree tree scratch).1 ≠ .error .multiLine :=
  fun refused => (builder.buildTree_eq_error refused).ne_multiLine rfl

theorem buildText_ne_multiLine (builder : Builder) (source : String) (scratch : Scratch) :
    (builder.buildText source scratch).1 ≠ .error .multiLine := by
  rw [buildText]
  split
  · nofun
  · exact builder.buildTree_ne_multiLine _ scratch

theorem HasBuilt.isPrintable {builder : Builder} {built : Built} (h : builder.HasBuilt built) :
    built.line.toList.all isPrintable = true := by
  obtain ⟨tree, scratch, built_eq⟩ := h.exists_tree
  obtain ⟨doc, rfl⟩ := buildTree_eq_ok built_eq
  exact doc.line_isPrintable

end Builder

namespace Document

/-- **A value that is not blank is refused just if it is there already.** -/
theorem push_refuses_iff (doc : Document) (field : Field) {value : String}
    (visible : isBlankText value = false) :
    (doc.push field value).2 = false ↔ value ∈ (doc.get? field.name).getD [] := by
  rw [push, if_neg (by simp [visible]), get?]
  cases doc.positions.lookup field.name with
  | none => simp
  | some position =>
    by_cases known : value ∈ doc.valuesAt position <;> simp [known]

end Document

namespace BulkWriter

/-- Writes a document, whatever its line is. -/
def writeUnchecked (writer : BulkWriter) (doc : Built) : Except IngestError Unit × BulkWriter :=
  match writer.putAll (writer.frame doc) with
  | (.ok (), writer) => (.ok (), { writer with written := writer.written + 1 })
  | failed => failed

/-- A piece fails with an error of its kind. -/
theorem put_eq_error {writer : BulkWriter} {kind : IoFault → IngestError} {bytes : List UInt8}
    {error : IngestError} (h : (writer.put kind bytes).1 = .error error) :
    ∃ fault, error = kind fault := by
  have answer : (writer.sink.write bytes).1.mapError kind = .error error := h
  cases written : (writer.sink.write bytes).1 with
  | ok _ => rw [written] at answer; cases answer
  | error fault =>
    rw [written] at answer
    exact ⟨fault, (Except.error.inj answer).symm⟩

theorem putAll_eq_error {pieces : List ((IoFault → IngestError) × List UInt8)}
    {writer : BulkWriter} {error : IngestError} (h : (writer.putAll pieces).1 = .error error) :
    ∃ piece ∈ pieces, ∃ fault, error = piece.1 fault := by
  induction pieces generalizing writer with
  | nil => cases h
  | cons piece rest ih =>
    rw [putAll] at h
    split at h
    · obtain ⟨later, mem, fault, error_eq⟩ := ih h
      exact ⟨later, List.mem_cons_of_mem _ mem, fault, error_eq⟩
    · obtain ⟨fault, error_eq⟩ := put_eq_error h
      exact ⟨piece, List.mem_cons_self .., fault, error_eq⟩

theorem kind_of_mem_frame {writer : BulkWriter} {doc : Built}
    {piece : (IoFault → IngestError) × List UInt8} (h : piece ∈ writer.frame doc) :
    piece.1 = .json ∨ piece.1 = .io := by
  rw [frame, List.mem_append] at h
  rcases h with action | line
  · split at action
    · simp only [List.mem_cons, List.not_mem_nil, or_false] at action
      rcases action with rfl | rfl
      · exact .inl rfl
      · exact .inr rfl
    · cases action
  · simp only [List.mem_cons, List.not_mem_nil, or_false] at line
    rcases line with rfl | rfl <;> exact .inr rfl

/-- **Writing fails only because the sink does.** -/
theorem writeUnchecked_eq_error {writer : BulkWriter} {doc : Built} {error : IngestError}
    (h : (writer.writeUnchecked doc).1 = .error error) :
    ∃ fault, error = .json fault ∨ error = .io fault := by
  have failed : (writer.putAll (writer.frame doc)).1 = .error error := by
    rw [writeUnchecked] at h
    split at h
    · cases h
    · exact h
  obtain ⟨piece, mem, fault, rfl⟩ := putAll_eq_error failed
  rcases kind_of_mem_frame mem with kind | kind
  · exact ⟨fault, .inl (congrFun kind fault)⟩
  · exact ⟨fault, .inr (congrFun kind fault)⟩

theorem writeDocument_eq_writeUnchecked (writer : BulkWriter) {doc : Built}
    (one_line : Builder.hasLineFeed doc.line = false) :
    writer.writeDocument doc = writer.writeUnchecked doc := by
  rw [writeDocument, if_neg (by simp [one_line])]
  rfl

end BulkWriter

namespace Builder

/-! ## All checks -/

/-- **A built line has no control character, and no check ever fires.** No line that was built holds
a character below the space, so every writer treats it as if it did not look for line feeds, and can
only fail because its sink does; and no build answers that its line is not one line. Coercion gives
no blank text, so whatever is done with blank values in place of refusing them, and with unprintable
lines, a build is the same; and a value that is not blank is refused only as one that the document
holds already. -/
theorem checks_never_fire (builder : Builder) :
    (∀ built, builder.HasBuilt built →
      (∀ c ∈ built.line.toList, 0x20 ≤ c.toNat) ∧
      '\n' ∉ built.line.toList ∧ '\r' ∉ built.line.toList ∧
      ∀ writer : BulkWriter,
        writer.writeDocument built = writer.writeUnchecked built ∧
        ∀ error, (writer.writeDocument built).1 = .error error →
          ∃ fault, error = .json fault ∨ error = .io fault) ∧
    (∀ tree scratch, (builder.buildTree tree scratch).1 ≠ .error .multiLine) ∧
    (∀ source scratch, (builder.buildText source scratch).1 ≠ .error .multiLine) ∧
    (∀ dates field raw value, coerceText dates field raw = .ok (some value) →
      isBlankText value = false) ∧
    (∀ store check, StoresVisible store → PassesPrintable check → ∀ tree,
      builder.assembleWith store check tree = builder.assemble tree) ∧
    (∀ (doc : Document) field value, isBlankText value = false →
      ((doc.push field value).2 = false ↔ value ∈ (doc.get? field.name).getD [])) := by
  refine ⟨fun built has_built => ?_, builder.buildTree_ne_multiLine,
    builder.buildText_ne_multiLine, fun _ _ _ _ => coerceText_visible,
    fun _ _ => builder.assembleWith_eq, fun doc field _ => doc.push_refuses_iff field⟩
  have printable : ∀ c ∈ built.line.toList, 0x20 ≤ c.toNat := fun c mem => by
    simpa [isPrintable] using List.all_eq_true.mp has_built.isPrintable c mem
  have no_feed : '\n' ∉ built.line.toList := lineFeed_not_mem has_built.isPrintable
  have one_line : hasLineFeed built.line = false := hasLineFeed_eq_false_iff.mpr no_feed
  refine ⟨printable, no_feed, fun mem => absurd (printable _ mem) (by decide), fun writer => ?_⟩
  rw [writer.writeDocument_eq_writeUnchecked one_line]
  exact ⟨rfl, fun _ => BulkWriter.writeUnchecked_eq_error⟩

/-- Adds a value, and fails if the document refuses it and does not hold it. -/
def pushWatched (failure : IngestError) (field : Field) (value : String) : BuildM Unit := do
  let document := (← get).document
  if (document.push field value).2 || ((document.get? field.name).getD []).contains value then
    pushValue field value
  else throw failure

theorem storesVisible_pushWatched (failure : IngestError) :
    StoresVisible (pushWatched failure) := by
  intro field value visible
  funext scratch
  show (pushWatched failure field value).on scratch = (pushValue field value).on scratch
  have accounted : ((scratch.document.push field value).2 ||
      ((scratch.document.get? field.name).getD []).contains value) = true := by
    cases refused : (scratch.document.push field value).2 with
    | true => rfl
    | false =>
      rw [Bool.false_or, List.contains_iff_mem]
      exact (scratch.document.push_refuses_iff field visible).mp refused
  rw [pushWatched, BuildM.on_bind, BuildM.on_get]
  dsimp only
  rw [if_pos accounted]

/-- Refuses a line with a character below the space. -/
def refuseUnprintable (line : String) : BuildM Unit := do
  if !line.toList.all isPrintable then throw .multiLine

theorem passesPrintable_refuseUnprintable : PassesPrintable refuseUnprintable := by
  intro line printable
  rw [refuseUnprintable, printable]
  rfl

/-- Contributes the aggregate text with a line feed around it, and a blank text. -/
def frayed : Enricher where
  name := "frayed"
  needsAggregate := true
  enrich aggregate :=
    .ok [⟨Field.untyped "a\tb", "\n" ++ aggregate ++ "\n"⟩, ⟨Field.untyped "a\tb", " \r\n"⟩]

/-- Reads notes into a field whose name holds a line feed. -/
def frayedBuilder : Builder where
  binding := ⟨"notes", "note", [⟨"notes", [⟨"x\ny", none, [], none, some true⟩]⟩]⟩
  enrichers := [frayed]
  dates := .textOnly
  idField := some "x\ny"

/-- Notes of which one is blank and one is repeated. -/
def frayedNotes : Tree := .record [("notes", .list [.scalar "p\rq", .scalar "\n", .scalar "p\rq"])]

/-- What the builder makes of them. -/
def frayedBuilt : Built where
  id := some "p\rq"
  line := "\x7b\"x\\ny\":\"p\\rq\",\"a\\tb\":\"\\np\\rq\\n\"\x7d"

/-- Line feeds in names and values come out as escapes, and pushes that are watched build the
same. -/
theorem checks_never_fire_frayedNotes :
    frayedBuilder.HasBuilt frayedBuilt ∧
      (∀ c ∈ frayedBuilt.line.toList, 0x20 ≤ c.toNat) ∧
      (∀ failure, frayedBuilder.assembleWith (pushWatched failure) refuseUnprintable frayedNotes =
        frayedBuilder.assemble frayedNotes) := by
  have built : frayedBuilder.HasBuilt frayedBuilt :=
    ⟨Scratch.empty, .inl ⟨frayedNotes, eq_ok_of_toOption (by decide +kernel)⟩⟩
  obtain ⟨lines, -, -, -, alike, -⟩ := checks_never_fire frayedBuilder
  exact ⟨built, (lines _ built).1, fun failure =>
    alike _ _ (storesVisible_pushWatched failure) passesPrintable_refuseUnprintable frayedNotes⟩

end Builder

end Intake
