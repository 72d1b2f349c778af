import CallContract.Contract
import CallContract.Dict
import CallContract.Document
import CallContract.Double.Basic
import CallContract.Double.Numeral
import CallContract.Double.Text
import CallContract.FileTree
import CallContract.Guard.Basic
import CallContract.Guard.Builder
import CallContract.Guard.Session
import CallContract.Inspection
import CallContract.Json.Basic
import CallContract.Json.Library
import CallContract.Json.Quoted
import CallContract.Json.Reader
import CallContract.Observation.Ledger
import CallContract.Observation.Log
import CallContract.Pattern.Basic
import CallContract.Pattern.Expr
import CallContract.Pattern.Meaning
import CallContract.Pattern.Reader
import CallContract.Pattern.Regex
import CallContract.Proofs.AliasedGuards
import CallContract.Proofs.Aliases
import CallContract.Proofs.CallProtocol
import CallContract.Proofs.Conformance
import CallContract.Proofs.Conventions
import CallContract.Proofs.Counters
import CallContract.Proofs.Declaration
import CallContract.Proofs.Deferred
import CallContract.Proofs.DescriptorTexts
import CallContract.Proofs.Dict
import CallContract.Proofs.DocumentRewriting
import CallContract.Proofs.EqualValues
import CallContract.Proofs.ExactIntegers
import CallContract.Proofs.Failure
import CallContract.Proofs.FlatUnion
import CallContract.Proofs.Grammar
import CallContract.Proofs.Idempotence
import CallContract.Proofs.Interference
import CallContract.Proofs.Interleaving
import CallContract.Proofs.Journal
import CallContract.Proofs.JsonNumbers
import CallContract.Proofs.JsonReadBack
import CallContract.Proofs.JsonWellFormed
import CallContract.Proofs.Listing
import CallContract.Proofs.Loading
import CallContract.Proofs.LogLines
import CallContract.Proofs.Matching
import CallContract.Proofs.Nearest
import CallContract.Proofs.NumberText
import CallContract.Proofs.NumeralGrammar
import CallContract.Proofs.NumericKinds
import CallContract.Proofs.Place
import CallContract.Proofs.PlaceRun
import CallContract.Proofs.Pointwise
import CallContract.Proofs.PredicateRuns
import CallContract.Proofs.Quoting
import CallContract.Proofs.Radix
import CallContract.Proofs.Records
import CallContract.Proofs.Registration
import CallContract.Proofs.ResultCheck
import CallContract.Proofs.Rounding
import CallContract.Proofs.Session
import CallContract.Proofs.Settings
import CallContract.Proofs.ShortestDecimal
import CallContract.Proofs.Spellings
import CallContract.Proofs.Tally
import CallContract.Proofs.TextForms
import CallContract.Proofs.Union
import CallContract.Proofs.WholeRounding
import CallContract.Registry
import CallContract.Schema.Basic
import CallContract.Schema.Error
import CallContract.Schema.Raw
import CallContract.Text.Quoted
import CallContract.Unicode.AgeTable
import CallContract.Unicode.CategoryTable
import CallContract.Unicode.CharSet
import CallContract.Unicode.FoldTable
import CallContract.Unicode.Property
import CallContract.Unicode.PropertyTable
import CallContract.Unicode.ScriptTable
import CallContract.Validation.CallError
import CallContract.Validation.Match
import CallContract.Validation.Validate
import CallContract.Value.Basic
import CallContract.Value.Convert
