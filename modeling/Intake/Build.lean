import Intake.Binding
import Intake.Document
import Intake.Enrichment
import Intake.Json.Reader
import Intake.Tree

/-!
# Building documents

A builder turns source records into document lines. It follows every bound path through the record,
coerces each leaf it finds for each field of the path, and collects the values in a document; then
the enrichers run; then the document is written as one line.

What is collected on the way lies in a `Scratch` that may be used again for the next record. It is
cleared before and after every build, whether the build succeeds or fails, so no build sees what
another one left.
-/

namespace Intake

open Intake.Schema Intake.Calendar

/-- A document line and the value of the identifying field, if there is one. -/
structure Built where
  id : Option String
  line : String
  deriving DecidableEq, Repr, Inhabited

/-- What a build works on: the document and the aggregate text. -/
structure Scratch where
  document : Document
  aggregate : String
  deriving Repr, Inhabited

/-- A scratch with nothing in it. -/
def Scratch.empty : Scratch := ⟨Document.empty, ""⟩

/-- Takes everything out of a scratch. -/
def Scratch.clear (scratch : Scratch) : Scratch :=
  { scratch with document := scratch.document.clear, aggregate := "" }

theorem Scratch.clear_eq_empty (scratch : Scratch) : scratch.clear = Scratch.empty := rfl

/-- Turns source records into document lines. -/
structure Builder where
  binding : Binding
  enrichers : List Enricher
  dates : DatePolicy
  idField : Option String

/-- A step of a build: it works on the scratch and may fail. What was done to the scratch before a
failure stays done. -/
abbrev BuildM (α : Type) := ExceptT IngestError (StateM Scratch) α

/-- Runs a step on a scratch. -/
def BuildM.on {α : Type} (step : BuildM α) (scratch : Scratch) : Except IngestError α × Scratch :=
  StateT.run (ExceptT.run step) scratch

/-- A step that only succeeds or fails. -/
def BuildM.ofExcept {α : Type} (result : Except IngestError α) : BuildM α :=
  ExceptT.mk (pure result)

/-- Adds a value to the document. -/
def pushValue (field : Field) (value : String) : BuildM Unit :=
  modify fun scratch => { scratch with document := (scratch.document.push field value).1 }

/-- Adds a value to the aggregate text. -/
def aggregateValue (value : String) : BuildM Unit :=
  modify fun scratch => { scratch with aggregate := appendValue scratch.aggregate value }

/-! ## Running steps -/

namespace BuildM

variable {α β : Type}

@[simp] theorem on_pure (a : α) (scratch : Scratch) :
    (pure a : BuildM α).on scratch = (.ok a, scratch) := rfl

/-- A sequence of steps ends with the first failure, and what was done stays done. -/
theorem on_bind (step : BuildM α) (next : α → BuildM β) (scratch : Scratch) :
    (step >>= next).on scratch =
      match step.on scratch with
      | (.ok a, used) => (next a).on used
      | (.error error, used) => (.error error, used) := by
  show (ExceptT.bindCont next (step.on scratch).1) (step.on scratch).2 = _
  cases step.on scratch with
  | mk result used => cases result <;> rfl

@[simp] theorem on_ofExcept (result : Except IngestError α) (scratch : Scratch) :
    (ofExcept result).on scratch = (result, scratch) := rfl

@[simp] theorem on_get (scratch : Scratch) :
    (get : BuildM Scratch).on scratch = (.ok scratch, scratch) := rfl

@[simp] theorem on_modify (f : Scratch → Scratch) (scratch : Scratch) :
    (modify f : BuildM Unit).on scratch = (.ok (), f scratch) := rfl

end BuildM

@[simp] theorem pushValue_on (field : Field) (value : String) (scratch : Scratch) :
    (pushValue field value).on scratch =
      (.ok (), { scratch with document := (scratch.document.push field value).1 }) := rfl

@[simp] theorem aggregateValue_on (value : String) (scratch : Scratch) :
    (aggregateValue value).on scratch =
      (.ok (), { scratch with aggregate := appendValue scratch.aggregate value }) := rfl

namespace Builder

/-- Collects one leaf for one field. -/
def collectFor (builder : Builder) (leaf : Leaf) (field : Field) : BuildM Unit :=
  match leaf with
  | .scalar text => do
    match ← BuildM.ofExcept (coerceText builder.dates field text) with
    | some value => pushValue field value
    | none => pure ()
  | .handle description => BuildM.ofExcept (Tree.refuseHandle field description)

/-- Collects one leaf for the fields of its path. -/
def collectLeaf (builder : Builder) (fields : List Field) (leaf : Leaf) : BuildM Unit :=
  fields.forM (builder.collectFor leaf)

/-- Collects everything at the end of a bound path. -/
def collectPath (builder : Builder) (tree : Tree) (path : PathBinding) : BuildM Unit :=
  (tree.leavesAt path.segments).forM (builder.collectLeaf path.fields)

/-- Collects everything that the binding reaches. -/
def collect (builder : Builder) (tree : Tree) : BuildM Unit :=
  builder.binding.paths.forM (builder.collectPath tree)

/-! ## Enrichment -/

/-- Takes a contribution into the document and the aggregate text, unless it is dropped. -/
def contribute (builder : Builder) (contribution : Contribution) : BuildM Unit := do
  match ← BuildM.ofExcept
      (coerceText builder.dates contribution.field contribution.value) with
  | some value =>
    aggregateValue value
    pushValue contribution.field value
  | none => pure ()

/-- Runs one enricher on the aggregate text. -/
def runEnricher (builder : Builder) (enricher : Enricher) : BuildM Unit := do
  let scratch ← get
  match enricher.enrich scratch.aggregate with
  | .error reason => throw (.enricher enricher.name reason)
  | .ok contributions => contributions.forM builder.contribute

/-- Puts the aggregate text together, if an enricher needs it, and runs the enrichers in order. -/
def enrich (builder : Builder) : BuildM Unit := do
  if builder.enrichers.any (·.needsAggregate) then
    modify fun scratch =>
      { scratch with aggregate := scratch.document.appendAggregate scratch.aggregate }
  builder.enrichers.forM builder.runEnricher

/-! ## Documents -/

/-- Does the text hold a line feed? -/
def hasLineFeed (text : String) : Bool := text.toList.contains '\n'

/-- Builds the document of a tree on a clear scratch. -/
def assemble (builder : Builder) (tree : Tree) : BuildM Built := do
  builder.collect tree
  builder.enrich
  let document := (← get).document
  let line := document.line
  if hasLineFeed line then throw .multiLine
  return ⟨builder.idField.bind document.first?, line⟩

/-- Builds the document of a tree. The scratch is cleared before and after. -/
def buildTree (builder : Builder) (tree : Tree) (scratch : Scratch) :
    Except IngestError Built × Scratch :=
  let (result, used) := (builder.assemble tree).on scratch.clear
  (result, used.clear)

/-- Builds the document of a JSON text. A text that cannot be read leaves the scratch alone. -/
def buildText (builder : Builder) (source : String) (scratch : Scratch) :
    Except IngestError Built × Scratch :=
  match Json.read source with
  | .error refusal => (.error (.parse refusal), scratch)
  | .ok value => builder.buildTree (Tree.ofJson value) scratch

/-- Builds the document of a JSON text on a scratch of its own. -/
def build (builder : Builder) (source : String) : Except IngestError Built :=
  (builder.buildText source Scratch.empty).1

end Builder

end Intake
