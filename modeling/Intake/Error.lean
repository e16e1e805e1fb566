import Intake.Base64
import Intake.Calendar.Recognize
import Intake.Json.Fault
import Intake.Pattern.Fault
import Intake.Schema.Field

/-!
# Errors

Everything that can go wrong while a schema is bound or a document is built. A document is built
wholly or not at all, so an error is about one document, or about the configuration
(`IngestError.isConfiguration`), or about the outside world.

`IngestError.message` words an error, and `IngestError.causes` lists the errors below it.
-/

namespace Intake

open Intake.Schema

/-- Why a scalar is not a value of its field's type. -/
inductive ValueFault where
  | integer (fault : Numeral.IntegerFault)
  | float
  | date (fault : Calendar.DateFault)
  | base64 (fault : Base64.Fault)
  deriving DecidableEq, Repr

/-- The wording of a value fault. -/
def ValueFault.message : ValueFault → String
  | .integer fault => fault.message
  | .float => "invalid float literal"
  | .date fault => fault.message
  | .base64 fault => fault.message

/-- What the outside world can refuse. -/
inductive IoFault where
  | notFound
  | isDirectory
  | invalidUtf8
  | sinkFull
  | flushFailed
  deriving DecidableEq, Repr

/-- The wording of an outside fault. -/
def IoFault.message : IoFault → String
  | .notFound => "No such file or directory (os error 2)"
  | .isDirectory => "Is a directory (os error 21)"
  | .invalidUtf8 => "stream did not contain valid UTF-8"
  | .sinkFull => "sink is full"
  | .flushFailed => "flush failed"

/-- What can be wrong with a configuration. -/
inductive ConfigFault where
  /-- A field without a name. -/
  | unnamedField (mapping : String)
  | repeatedField (field mapping : String)
  /-- A field that is bound to the empty path. -/
  | emptyPath (field : String)
  | invalidPattern (field : String) (fault : Pattern.Fault)
  /-- A text that is not a configuration. -/
  | unreadable (problem : Json.Problem)
  /-- A fault in a given file. -/
  | inFile (path : String) (fault : ConfigFault)
  deriving DecidableEq, Repr

/-- What stands before every configuration fault. -/
def configurationLabel : String := "configuration error: "

/-- The wording of a configuration fault. -/
def ConfigFault.message : ConfigFault → String
  | .unnamedField mapping => s!"mapping '{mapping}' declares a field with an empty name"
  | .repeatedField field mapping => s!"field '{field}' declared twice in mapping '{mapping}'"
  | .emptyPath field => s!"field '{field}' is bound to an empty source path"
  | .invalidPattern field fault => s!"invalid pattern for '{field}': {fault.message}"
  | .unreadable problem => problem.message
  | .inFile path fault => path ++ ": " ++ configurationLabel ++ fault.message

/-- An error of binding a schema, building a document or writing it. -/
inductive IngestError where
  /-- Neither the wanted mapping nor a default one exists. -/
  | unknownMapping (index docType : String)
  | unknownField (field mapping : String)
  /-- The source text is not JSON. -/
  | parse (refusal : Json.Refusal)
  /-- A scalar is not a value of its field's type. -/
  | malformed (field typeName value : String) (fault : Option ValueFault)
  /-- The field's type holds no values. -/
  | unsupportedType (field : String) (type : FieldType)
  /-- A document line holds a line break. -/
  | multiLine
  | enricher (name reason : String)
  | config (fault : ConfigFault)
  | io (fault : IoFault)
  /-- An action line could not be written. -/
  | json (fault : IoFault)
  deriving DecidableEq, Repr

namespace IngestError

/-- The wording of an error. -/
def message : IngestError → String
  | .unknownMapping index docType =>
    s!"index '{index}' has no mapping for type '{docType}' and no default mapping"
  | .unknownField field mapping => s!"field '{field}' does not exist in mapping '{mapping}'"
  | .parse refusal => "failed to parse source document: " ++ refusal.message
  | .malformed field typeName value fault =>
    "malformed value " ++ Text.quoted value ++ s!" for field '{field}' of type {typeName}" ++
      (match fault with
        | some fault => ": " ++ fault.message
        | none => "")
  | .unsupportedType field type => s!"field '{field}' has unsupported type {type.name}"
  | .multiLine => "serialized document spans more than one line"
  | .enricher name reason => s!"enricher '{name}' failed: {reason}"
  | .config fault => configurationLabel ++ fault.message
  | .io fault => "I/O error: " ++ fault.message
  | .json fault => "JSON error: " ++ fault.message

/-- The errors below an error, outermost first. -/
def causes : IngestError → List String
  | .parse refusal => [refusal.message]
  | .malformed _ _ _ (some fault) => [fault.message]
  | .enricher _ reason => [reason]
  | .io fault => [fault.message]
  | .json fault => [fault.message]
  | _ => []

/-- Is the error one of binding a schema, and not of a single document? -/
def isConfiguration : IngestError → Bool
  | .unknownMapping .. | .unknownField .. | .config .. => true
  | _ => false

end IngestError

end Intake
