import Intake.Pipeline.Basic
import Intake.Schema.Codec

/-!
# Pipelines as JSON

A pipeline is written as a JSON object and read back. Only the index and the document type are
needed; everything else may be left out. `Pipeline.toJson` writes a pipeline and `Pipeline.parse` reads
its text.

The kind of an enricher may stand anywhere among its members, so these are taken as they come and
sorted out when the kind is known.
-/

namespace Intake

open Intake.Json Intake.Schema Intake.Calendar

/-! ## Writing -/

/-- The JSON value of a list of names. -/
def namesToJson (names : List String) : Json := .array (names.map .string)

/-- The JSON value of a field source. -/
def FieldSource.toJson (source : FieldSource) : Json :=
  .object [("field", .string source.field), ("paths", namesToJson source.paths)]

/-- The date policies by name. -/
def policiesByName : List (String × DatePolicy) :=
  [("text_only", .textOnly), ("text_or_epoch", .textOrEpoch)]

/-- The name of a date policy. -/
def policyName : DatePolicy → String
  | .textOnly => "text_only"
  | .textOrEpoch => "text_or_epoch"

/-- The JSON value of an enricher. -/
def EnricherSpec.toJson : EnricherSpec → Json
  | .tokenCount field => .object [("kind", .string "token_count"), ("field", .string field)]
  | .extraction field pattern =>
    .object
      [("kind", .string "regex_extract"), ("field", .string field), ("pattern", .string pattern)]

/-- The JSON value of a pipeline. -/
def Pipeline.toJson (pipeline : Pipeline) : Json :=
  .object
    [("index", pipeline.index.toJson),
     ("doc_type", .string pipeline.docType),
     ("fields", .array (pipeline.sources.map FieldSource.toJson)),
     ("identity_fields", namesToJson pipeline.identity),
     ("id_field", (pipeline.idField.map Json.string).getD .null),
     ("date_parsing", .string (policyName pipeline.dates)),
     ("enrichers", .array (pipeline.enrichers.map EnricherSpec.toJson))]

/-! ## Reading enrichers -/

/-- The kinds of enrichers. -/
inductive EnricherKind where
  | tokenCount
  | extraction
  deriving DecidableEq, Repr

/-- The kinds by name. -/
def kindsByName : List (String × EnricherKind) :=
  [("token_count", .tokenCount), ("regex_extract", .extraction)]

/-- The key of the member that holds the kind. -/
def kindKey : String := "kind"

namespace EnricherKind

/-- The members that an enricher of the kind has. -/
def keys : EnricherKind → List String
  | .tokenCount => ["field"]
  | .extraction => ["field", "pattern"]

/-- What is expected of an enricher that is written as a list. -/
def expected : EnricherKind → String
  | .tokenCount => "struct variant EnricherSpec::TokenCount with 1 element"
  | .extraction => "struct variant EnricherSpec::RegexExtract with 2 elements"

/-- The enricher whose members have given texts, in the order of the keys. -/
def spec : EnricherKind → List String → EnricherSpec
  | .tokenCount, texts => .tokenCount (texts.getD 0 "")
  | .extraction, texts => .extraction (texts.getD 0 "") (texts.getD 1 "")

end EnricherKind

/-- The text of a member that was taken as it came. -/
def memberText (value : Json) : Except Problem String :=
  let mistaken (found : Found) : Except Problem String := .error (.mismatch found "a string")
  match value with
  | .string text => .ok text
  | .null => mistaken .null
  | .bool b => mistaken (.bool b)
  | .number n => mistaken (foundNumber .object n)
  | .array _ => mistaken .list
  | .object _ => mistaken .object

/-- Takes the texts of known members, each of which may come once. -/
def collectMembers (keys : List String) :
    List (String × String) → List (String × Json) → Except Problem (List (String × String))
  | texts, [] => .ok texts
  | texts, (key, value) :: rest =>
    if keys.contains key then
      if (texts.lookup key).isSome then .error (.repeatedMember key)
      else do
        let text ← memberText value
        collectMembers keys ((key, text) :: texts) rest
    else collectMembers keys texts rest

/-- The text of a member that has to be there. -/
def neededText (texts : List (String × String)) (key : String) : Except Problem String :=
  match texts.lookup key with
  | some text => .ok text
  | none => .error (.missingMember key)

/-- The enricher of a kind with given members. -/
def EnricherSpec.ofMembers (kind : EnricherKind) (members : List (String × Json)) :
    Except Problem EnricherSpec := do
  let texts ← collectMembers kind.keys [] members
  return kind.spec (← kind.keys.mapM (neededText texts))

/-- The texts of the items of a list, one for each key. -/
def itemTexts (expected : String) : Nat → List String → List Json → Except Problem (List String)
  | _, [], _ => .ok []
  | count, _ :: _, [] => .error (.wrongLength count expected)
  | count, _ :: keys, item :: items => do
    let text ← memberText item
    let texts ← itemTexts expected (count + 1) keys items
    return text :: texts

/-- What is expected of a list that is longer than it should be. -/
def expectedItems (count : Nat) : String :=
  String.ofList (Text.numeral count) ++
    (if count = 1 then " element in sequence" else " elements in sequence")

/-- The enricher of a kind whose members are written as a list. -/
def EnricherSpec.ofItems (kind : EnricherKind) (items : List Json) : Except Problem EnricherSpec := do
  let texts ← itemTexts kind.expected 0 kind.keys items
  let count := kind.keys.length
  if items.length = count then return kind.spec texts
  else .error (.wrongLength items.length (expectedItems count))

/-- Reads the members of an enricher, at most so many: the kind and, as they come, the others. -/
def readSpecMembers (value : Reader Json) :
    Nat → Bool → Option EnricherKind → List (String × Json) →
      Reader (EnricherKind × List (String × Json))
  | 0, _, _, _, s => .error (.here .endOfObject s)
  | fuel + 1, first, kind, members, s => do
    match ← nextKey first s with
    | (none, s) =>
      match kind with
      | some kind => return ((kind, members), s)
      | none => .error (.here (.missingMember kindKey) s)
    | (some key, s) =>
      if key = kindKey then
        if kind.isSome then .error (.here (.repeatedMember kindKey) s)
        else
          let s ← readColon s
          let (kind, s) ← nameReader kindsByName s
          readSpecMembers value fuel false (some kind) members s
      else
        let s ← readColon s
        let (v, s) ← value s
        readSpecMembers value fuel false kind (members ++ [(key, v)]) s

/-- Ends the reading of an enricher with what its members make. -/
def finishSpec (result : Except Problem EnricherSpec) : Reader EnricherSpec := fun s =>
  match result with
  | .ok spec => .ok (spec, s)
  | .error problem => .error (.here problem s)

/-- What is expected of an enricher. -/
def specTitle : String := "internally tagged enum EnricherSpec"

/-- Reads an enricher, where `depth` more brackets may be opened. -/
def readSpec (depth : Nat) : Reader EnricherSpec := fun s =>
  let value := readValue true (depth - 1)
  match skipSpace s with
  | '\x7b' :: s =>
    if depth = 0 then .error (.ahead .tooDeep ('\x7b' :: s))
    else do
      let ((kind, members), s) ← readSpecMembers value (s.length + 1) true none [] s
      finishSpec (EnricherSpec.ofMembers kind members) (← closeObject s)
  | '[' :: s =>
    if depth = 0 then .error (.ahead .tooDeep ('[' :: s))
    else do
      let (more, s) ← nextItem true s
      if more then
        let (kind, s) ← nameReader kindsByName s
        let (items, s) ← readItems value (s.length + 1) false s
        finishSpec (EnricherSpec.ofItems kind items) (← closeList s)
      else .error (.here (.missingMember kindKey) s)
  | s =>
    match s with
    | c :: _ =>
      if c = '-' ∨ Text.isAsciiDigit c then do
        let (n, rest) ← readNumber s
        if isSmallInteger n then .error (mistyped specTitle s)
        else .error (.here (.missingMember kindKey) rest)
      else .error (mistyped specTitle s)
    | [] => .error (mistyped specTitle s)

/-! ## Reading pipelines -/

/-- What is known of a field source while it is read. -/
structure SourceDraft where
  field : Option String
  paths : Option (List String)

/-- The members of a field source. -/
def sourceShape (depth : Nat) : Shape SourceDraft where
  title := "struct SourceBinding"
  members :=
    [.needed "field" (·.field) (fun draft field => { draft with field := some field }) aString,
     .needed "paths" (·.paths) (fun draft paths => { draft with paths := some paths })
       (aList depth aString)]

/-- Reads a field source, where `depth` more brackets may be opened. -/
def readSource (depth : Nat) : Reader FieldSource :=
  ((sourceShape (depth - 1)).read depth ⟨none, none⟩).map fun draft =>
    ⟨draft.field.getD "", draft.paths.getD []⟩

/-- What is known of a pipeline while it is read. -/
structure PipelineDraft where
  index : Option Index
  docType : Option String
  sources : Option (List FieldSource)
  identity : Option (List String)
  idField : Option (Option String)
  dates : Option DatePolicy
  enrichers : Option (List EnricherSpec)

/-- Nothing known yet. -/
def PipelineDraft.empty : PipelineDraft := ⟨none, none, none, none, none, none, none⟩

/-- The pipeline of a finished draft. -/
def PipelineDraft.pipeline (draft : PipelineDraft) : Pipeline where
  index := draft.index.getD (Index.empty "")
  docType := draft.docType.getD ""
  sources := draft.sources.getD []
  identity := draft.identity.getD []
  idField := draft.idField.getD none
  dates := draft.dates.getD .textOnly
  enrichers := draft.enrichers.getD []

/-- The members of a pipeline. -/
def pipelineShape (depth : Nat) : Shape PipelineDraft where
  title := "struct PipelineConfig"
  members :=
    [.needed "index" (·.index) (fun draft index => { draft with index := some index })
       (readIndex depth),
     .needed "doc_type" (·.docType) (fun draft docType => { draft with docType := some docType })
       aString,
     .free "fields" (·.sources) (fun draft sources => { draft with sources := some sources })
       (aList depth (readSource (depth - 1))),
     .free "identity_fields" (·.identity)
       (fun draft identity => { draft with identity := some identity }) (aList depth aString),
     .free "id_field" (·.idField) (fun draft idField => { draft with idField := some idField })
       (optional aString),
     .free "date_parsing" (·.dates) (fun draft dates => { draft with dates := some dates })
       (oneOf depth policiesByName),
     .free "enrichers" (·.enrichers)
       (fun draft enrichers => { draft with enrichers := some enrichers })
       (aList depth (readSpec (depth - 1)))]

/-- Reads a pipeline. -/
def readPipeline : Reader Pipeline :=
  ((pipelineShape (Json.maxDepth - 1)).read Json.maxDepth PipelineDraft.empty).map
    PipelineDraft.pipeline

/-- Reads the text of a pipeline. -/
def Pipeline.parse (text : String) : Except ConfigFault Pipeline :=
  (readAll readPipeline text.toList).mapError fun refusal => .unreadable refusal.problem

end Intake
