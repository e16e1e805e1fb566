import Intake.Text.Blank
import Intake.Text.Digit
import Intake.Text.Category
import Intake.Text.Quoted
import Intake.Text.Utf8
import Intake.Numeral.Integer
import Intake.Numeral.Float
import Intake.Numeral.Shortest
import Intake.Base64
import Intake.Calendar.Instant
import Intake.Calendar.Recognize
import Intake.Json.Printer
import Intake.Json.Reader
import Intake.Json.Typed
import Intake.Schema.Codec
import Intake.Coercion
import Intake.Build
import Intake.Stream
import Intake.Main
import Intake.Proofs.Text.Trim
import Intake.Proofs.Text.Numeral
import Intake.Proofs.Text.Utf8
import Intake.Proofs.Json.OneLine
import Intake.Proofs.Document.Multimap
import Intake.Proofs.Calendar.Gregorian
import Intake.Proofs.Calendar.Proper
import Intake.Proofs.Calendar.Canonical
import Intake.Proofs.Calendar.Policy
import Intake.Proofs.Calendar.YearInFront
import Intake.Proofs.Calendar.SignedYear
import Intake.Proofs.Coercion.Visible
import Intake.Proofs.Coercion.Failure
import Intake.Proofs.Coercion.Dates
import Intake.Proofs.Build.Collection
import Intake.Proofs.Build.Failure
import Intake.Proofs.Build.Line
import Intake.Proofs.Build.Reuse
import Intake.Proofs.Bulk.Payload
import Intake.Proofs.Stream.Lines
import Intake.Proofs.Stream.Run
import Intake.Proofs.Json.DistinctKeys
import Intake.Proofs.Tree.Trails
import Intake.Proofs.Json.RoundTrip
import Intake.Proofs.Document.Decoding
import Intake.Proofs.Build.Enrichment
import Intake.Proofs.Bulk.Decoding
import Intake.Except
import Intake.Proofs.Base64
import Intake.Proofs.Numeral.Integer
import Intake.Proofs.Numeral.Rounding
import Intake.Proofs.Coercion.Typed
import Intake.Proofs.Coercion.Tolerance
import Intake.Proofs.Build.Tolerance
import Intake.Proofs.Bulk.FullSink
import Intake.Proofs.Stream.FullSink
import Intake.Proofs.Json.Nesting
import Intake.Proofs.Json.Follow
import Intake.Proofs.Json.Pieces
import Intake.Proofs.Json.Items
import Intake.Proofs.Json.LocalItems
import Intake.Proofs.Json.LocalMembers
import Intake.Proofs.Json.Locality
import Intake.Proofs.Command.Modes
import Intake.Proofs.Distinct
import Intake.Proofs.Text.Cutting
import Intake.Proofs.Text.Words
import Intake.Proofs.Binding.ReverseIndex
import Intake.Proofs.Binding.Declarations
import Intake.Proofs.Pipeline.Names
import Intake.Proofs.Build.Checks
import Intake.Proofs.Coercion.Idempotence
import Intake.Proofs.Document.Groups
import Intake.Proofs.Build.Rebuild
import Intake.Proofs.Calendar.WrittenDate
import Intake.Proofs.Calendar.YearGate
import Intake.Proofs.Build.EpochDates
import Intake.Proofs.Build.Conversion
import Intake.Proofs.Json.Typed
import Intake.Proofs.Schema.Fields
import Intake.Proofs.Schema.Indices
import Intake.Proofs.Pipeline.SaveAndLoad
import Intake.Proofs.Document.Edits
import Intake.Proofs.Schema.History
import Intake.Proofs.Calendar.DayCount
import Intake.Proofs.Calendar.Marks
import Intake.Proofs.Calendar.Writing
import Intake.Proofs.Calendar.WrittenParts
import Intake.Proofs.Calendar.WrittenDates
import Intake.Proofs.Calendar.WrittenMoments
import Intake.Proofs.Calendar.WrittenMail
import Intake.Proofs.Calendar.RoundTrip
import Intake.Proofs.Numeral.Nearest
import Intake.Proofs.Numeral.ShortestDigits
import Intake.Proofs.Numeral.Plain
import Intake.Proofs.Numeral.Finite
import Intake.Proofs.Coercion.Normalized
import Intake.Proofs.Coercion.Integers
import Intake.Proofs.Calendar.EpochScale
import Intake.Proofs.Numeral.NearestNumber
import Intake.Proofs.Numeral.DecimalText
import Intake.Proofs.Numeral.Denotation
import Intake.Proofs.Coercion.Floats
import Intake.Proofs.Json.Numbers
import Intake.Proofs.Json.PlainMark
import Intake.Proofs.Json.Members
import Intake.Proofs.Json.Spots
import Intake.Proofs.Json.Occurrences
import Intake.Proofs.Build.Numbers
import Intake.Proofs.Build.WordCount
