import FilterQuery.Clause
import FilterQuery.Clause.Json
import FilterQuery.Clause.Query
import FilterQuery.CommandLine
import FilterQuery.CommandLine.Arguments
import FilterQuery.Conversion
import FilterQuery.ConvertError
import FilterQuery.Decimal
import FilterQuery.Decimal.Shortest
import FilterQuery.DecodeError
import FilterQuery.Decoder
import FilterQuery.Decoder.Choice
import FilterQuery.Decoder.Record
import FilterQuery.Documentation
import FilterQuery.Entries
import FilterQuery.Filter
import FilterQuery.Filter.Json
import FilterQuery.Filter.Query
import FilterQuery.Json.Basic
import FilterQuery.Json.Literal
import FilterQuery.Json.Printer
import FilterQuery.Json.Quoted
import FilterQuery.Json.Reader
import FilterQuery.Json.Source
import FilterQuery.Main
import FilterQuery.Operator
import FilterQuery.Pattern
import FilterQuery.Pattern.CaseFolding
import FilterQuery.Pattern.Engine
import FilterQuery.Pattern.Token
import FilterQuery.Proofs.Acceptance
import FilterQuery.Proofs.Assembly
import FilterQuery.Proofs.Atomicity
import FilterQuery.Proofs.BooleanMeaning
import FilterQuery.Proofs.ByteOrder
import FilterQuery.Proofs.CallSequences
import FilterQuery.Proofs.ClauseMeaning
import FilterQuery.Proofs.Connectives
import FilterQuery.Proofs.DecodedFilters
import FilterQuery.Proofs.DocumentEntries
import FilterQuery.Proofs.FieldAccess
import FilterQuery.Proofs.FilterText
import FilterQuery.Proofs.Folding
import FilterQuery.Proofs.Grammar
import FilterQuery.Proofs.ImportedJson
import FilterQuery.Proofs.JsonText
import FilterQuery.Proofs.KeyText
import FilterQuery.Proofs.Membership
import FilterQuery.Proofs.NumberText
import FilterQuery.Proofs.OptionReaders
import FilterQuery.Proofs.Orientation
import FilterQuery.Proofs.Outline
import FilterQuery.Proofs.PatternMatching
import FilterQuery.Proofs.PatternSource
import FilterQuery.Proofs.PointerText
import FilterQuery.Proofs.QuotedText
import FilterQuery.Proofs.RangeComparisons
import FilterQuery.Proofs.ReadSources
import FilterQuery.Proofs.Rearrangement
import FilterQuery.Proofs.RecordMembers
import FilterQuery.Proofs.Redundancy
import FilterQuery.Proofs.Refusals
import FilterQuery.Proofs.Replacement
import FilterQuery.Proofs.ReportedFields
import FilterQuery.Proofs.ReservedText
import FilterQuery.Proofs.Resolution
import FilterQuery.Proofs.ResultText
import FilterQuery.Proofs.Screening
import FilterQuery.Proofs.Spelling
import FilterQuery.Proofs.Threading
import FilterQuery.Proofs.Translation
import FilterQuery.Proofs.UnknownOperators
import FilterQuery.Proofs.ValueText
import FilterQuery.Proofs.Wildcards
import FilterQuery.Proofs.WrittenText
import FilterQuery.Query
import FilterQuery.Strategy
import FilterQuery.Strategy.Options
import FilterQuery.Target
import FilterQuery.Target.Key
import FilterQuery.Target.Resolve
import FilterQuery.Text.Visible
import FilterQuery.Trace
import FilterQuery.Value
import FilterQuery.Proofs.DocumentEntries
import FilterQuery.Proofs.UnknownOperators
