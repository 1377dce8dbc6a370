import Honeypot.Analysis
import Honeypot.Analysis.Schedule
import Honeypot.Bytecode.Code
import Honeypot.Bytecode.Opcode
import Honeypot.Chain.Address
import Honeypot.Chain.Hex
import Honeypot.Chain.Keccak
import Honeypot.Chain.Wei
import Honeypot.Config.Environment
import Honeypot.Config.Rules
import Honeypot.Config.Standard
import Honeypot.Contract.Abi
import Honeypot.Contract.Dossier
import Honeypot.Contract.Transaction
import Honeypot.Detect.Bytecode
import Honeypot.Detect.Functions
import Honeypot.Detect.History
import Honeypot.Detect.Source
import Honeypot.Fault
import Honeypot.Finding
import Honeypot.Json.Record
import Honeypot.Json.Text
import Honeypot.Json.Token
import Honeypot.Json.Tree
import Honeypot.Json.Value
import Honeypot.Log
import Honeypot.Number.Decimal
import Honeypot.Number.Double
import Honeypot.Number.Fixed
import Honeypot.Number.Shortest
import Honeypot.Pattern.Basic
import Honeypot.Pattern.Bracket
import Honeypot.Pattern.CharSet
import Honeypot.Pattern.Match
import Honeypot.Pattern.Program
import Honeypot.Pattern.Reader
import Honeypot.Pattern.Trail
import Honeypot.Scalar
import Honeypot.Scorer
import Honeypot.StringMap
import Honeypot.Text.Case
import Honeypot.Text.CodeRanges
import Honeypot.Text.Quoted
import Honeypot.Text.Word
import Honeypot.Verdict.Aggregate
import Honeypot.Verdict.Basic
import Honeypot.Verdict.Risk
import Honeypot.Proofs.Number.Bits
import Honeypot.Proofs.Number.Rounding
import Honeypot.Proofs.Number.Numeral
import Honeypot.Proofs.Number.Shortest
import Honeypot.Proofs.Json.Text
import Honeypot.Proofs.Json.Token
import Honeypot.Proofs.Json.Tree
import Honeypot.Proofs.StringMap
import Honeypot.Proofs.Json.Value
import Honeypot.Proofs.Number.Clamp
import Honeypot.Proofs.Verdict.Outcomes
import Honeypot.Proofs.Verdict.RoundTrip
import Honeypot.Proofs.Number.Exact
import Honeypot.Proofs.Verdict.Account
import Honeypot.Proofs.Bytecode.Spelling
import Honeypot.Proofs.Verdict.Average
import Honeypot.Proofs.Analysis.Unknown
import Honeypot.Proofs.Detect.Range
import Honeypot.Proofs.Chain.Hex
import Honeypot.Proofs.Contract.RoundTrip
import Honeypot.Proofs.Analysis.Containment
import Honeypot.Proofs.Verdict.Record
import Honeypot.Proofs.Detect.Drains
import Honeypot.Proofs.Detect.Relabel
import Honeypot.Proofs.Analysis.Locality
import Honeypot.Proofs.Analysis.Schedule
import Honeypot.Proofs.Verdict.Shares
import Honeypot.Proofs.Bytecode.Grammar
import Honeypot.Proofs.Detect.Places
import Honeypot.Proofs.Detect.Shape
import Honeypot.Proofs.Detect.Explanation
import Honeypot.Proofs.Pattern.Matching
import Honeypot.Proofs.Pattern.Preference
import Honeypot.Proofs.Pattern.Program
import Honeypot.Proofs.Pattern.Search
import Honeypot.Proofs.Text.Case
import Honeypot.Proofs.Detect.Passages
import Honeypot.Proofs.Places
import Honeypot.Proofs.Detect.Hits
import Honeypot.Proofs.Detect.Opcodes
import Honeypot.Proofs.Number.Order
import Honeypot.Proofs.Detect.Loosening
import Honeypot.Proofs.Pattern.Successive
import Honeypot.Proofs.Pattern.Ways
import Honeypot.Proofs.Detect.Quotes
import Honeypot.Proofs.Detect.Keywords
import Honeypot.Proofs.Text.Sigma
import Honeypot.Proofs.Detect.Fragments
import Honeypot.Proofs.Bytecode.Assigned
import Honeypot.Proofs.Config.Literal
import Honeypot.Proofs.Config.Environment
import Honeypot.Proofs.Json.Accepted
import Honeypot.Proofs.Json.Cut
import Honeypot.Proofs.Json.Written
import Honeypot.Proofs.Json.Fields
import Honeypot.Proofs.Contract.Spelling
