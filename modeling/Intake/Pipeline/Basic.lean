import Intake.Build
import Intake.Pattern.Search

/-!
# Pipelines

A pipeline describes everything that turns source records into documents: the index, the document
type, where fields are read from, which field identifies a document, how dates are read, and which
enrichers run. `Pipeline.builder` makes a builder of it, or says what is wrong with it.
-/

namespace Intake

open Intake.Schema Intake.Calendar

/-- A field and the source paths that it is read from. -/
structure FieldSource where
  field : String
  paths : List String
  deriving DecidableEq, Repr, Inhabited

/-- An enricher by its kind and the names it needs. -/
inductive EnricherSpec where
  /-- Counts the words of the aggregate text. -/
  | tokenCount (field : String)
  /-- Extracts what matches a pattern. -/
  | extraction (field pattern : String)
  deriving DecidableEq, Repr

/-- The description of a pipeline. -/
structure Pipeline where
  index : Index
  docType : String
  sources : List FieldSource
  /-- Fields that are read from the path of their own name. -/
  identity : List String
  idField : Option String
  dates : DatePolicy
  enrichers : List EnricherSpec
  deriving Repr

namespace EnricherSpec

/-- An extraction of what matches a pattern. The pattern has to be in order. -/
def extractor (name pattern : String) (field : Except IngestError Field) :
    Except IngestError Enricher := do
  match Pattern.Program.ofText pattern with
  | .ok program => return .extraction (← field) program.findAll
  | .error fault => .error (.config (.invalidPattern name fault))

/-- The enricher for a mapping. The pattern is looked at before the field. -/
def enricher (mapping : Mapping) : EnricherSpec → Except IngestError Enricher
  | .tokenCount name => do return .tokenCount (← mapping.require name)
  | .extraction name pattern => extractor name pattern (mapping.require name)

end EnricherSpec

namespace Pipeline

/-- The fields that are read from paths of their own, each with one path. -/
def associations (pipeline : Pipeline) : List (String × String) :=
  pipeline.sources.flatMap fun source => source.paths.map fun path => (source.field, path)

/-- The binding of the pipeline's document type. -/
def bind (pipeline : Pipeline) : Except IngestError Binding :=
  Binding.derive pipeline.index pipeline.docType pipeline.associations pipeline.identity

/-- The builder of the pipeline: the binding is checked first, then the identifying field, then the
enrichers in order. -/
def builder (pipeline : Pipeline) : Except IngestError Builder := do
  let binding ← pipeline.bind
  -- the binding has succeeded, so the mapping is there
  let mapping ← pipeline.index.resolve pipeline.docType
  match pipeline.idField with
  | some name => discard (mapping.require name)
  | none => pure ()
  let enrichers ← pipeline.enrichers.mapM (EnricherSpec.enricher mapping)
  return ⟨binding, enrichers, pipeline.dates, pipeline.idField⟩

end Pipeline

end Intake
