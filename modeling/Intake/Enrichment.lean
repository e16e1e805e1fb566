import Intake.Schema.Field
import Intake.Text.Blank
import Intake.Text.Digit

/-!
# Enrichers

An enricher derives values from what a document already says. It reads the aggregate text, the values
of all fields that take part in it, and contributes values for fields of its choice.
-/

namespace Intake

open Intake.Schema

/-- A derived value for a field. -/
structure Contribution where
  field : Field
  value : String
  deriving Repr, Inhabited

/-- A step that derives values from the aggregate text, or fails with a reason. -/
structure Enricher where
  name : String
  /-- Does it read the aggregate text at all? If no enricher does, the text is not put together. -/
  needsAggregate : Bool
  enrich : String → Except String (List Contribution)

namespace Enricher

/-- Contributes the number of words of the aggregate text. -/
def tokenCount (field : Field) : Enricher where
  name := "token_count"
  needsAggregate := true
  enrich aggregate :=
    .ok [⟨field, String.ofList (Text.numeral (Text.words aggregate.toList).length)⟩]

/-- Contributes every match of a pattern in the aggregate text; `matches_` lists the matches of a
text from left to right. -/
def extraction (field : Field) (matches_ : List Char → List (List Char)) : Enricher where
  name := "regex_extract"
  needsAggregate := true
  enrich aggregate :=
    .ok ((matches_ aggregate.toList).map fun m => ⟨field, String.ofList m⟩)

end Enricher

end Intake
