import Eligibility.Dynamic.Exception
import Eligibility.Record.FromText
import Eligibility.Rule.Measure
import Eligibility.Rule.Wire.FromJson
import Eligibility.Session
import Eligibility.Proofs.Rule.Segment
import Eligibility.Proofs.Rule.Reading
import Eligibility.Proofs.Failure
import Eligibility.Proofs.Rule.Evaluate
import Eligibility.Proofs.Rule.Judge
import Eligibility.Proofs.Condition.Split
import Eligibility.Proofs.Condition.Attempt
import Eligibility.Proofs.Json.Quoted
import Eligibility.Proofs.Json.Token
import Eligibility.Proofs.Json.Document
import Eligibility.Proofs.Rule.Measure
import Eligibility.Proofs.Rule.Wire.RoundTrip
import Eligibility.Proofs.Json.Reader
import Eligibility.Proofs.Rule.Wire.Agreement
import Eligibility.Proofs.Rule.Wire.Decoding
import Eligibility.Proofs.Text.Affix
import Eligibility.Proofs.Rule.Script
import Eligibility.Proofs.Rule.Seam
import Eligibility.Proofs.Rule.Uniform
import Eligibility.Proofs.Rule.Combined
import Eligibility.Proofs.Rule.Pair
import Eligibility.Proofs.Rule.Related
import Eligibility.Proofs.Rule.Alike
import Eligibility.Proofs.Number.Rounding
import Eligibility.Proofs.Json.Number
import Eligibility.Proofs.Json.SpelledNumber
import Eligibility.Proofs.Rule.NumberVerdict
import Eligibility.Proofs.Dynamic.Mirror
import Eligibility.Proofs.Rule.Refusal
import Eligibility.Proofs.Rule.Printed
import Eligibility.Proofs.Rule.Described
import Eligibility.Proofs.Number.Nearest
import Eligibility.Proofs.Number.Decimal
import Eligibility.Proofs.Rule.NumberOrder
import Eligibility.Proofs.Rule.Threshold
import Eligibility.Proofs.Rule.Visible
import Eligibility.Proofs.Text.WordList
import Eligibility.Proofs.Rule.Testable
import Eligibility.Proofs.Rule.Wire.Prefix
import Eligibility.Proofs.Number.Closest
import Eligibility.Proofs.Rule.Resembling
import Eligibility.Proofs.Dynamic.Conversion
import Eligibility.Proofs.Dynamic.Description
import Eligibility.Proofs.Rule.Levels
import Eligibility.Proofs.Json.Grammar
import Eligibility.Proofs.Record.Pairs
