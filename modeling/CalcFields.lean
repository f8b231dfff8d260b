import CalcFields.Calendar.Gregorian
import CalcFields.Calendar.Instant
import CalcFields.Calendar.Reader
import CalcFields.Calendar.Writer
import CalcFields.Command.Arguments
import CalcFields.Command.Line
import CalcFields.Command.Report
import CalcFields.Command.Run
import CalcFields.Decimal.Dyadic
import CalcFields.Decimal.Numeral
import CalcFields.Decimal.Shortest
import CalcFields.Decimal.Style
import CalcFields.Definition
import CalcFields.Digest.Blake3
import CalcFields.Engine.Batch
import CalcFields.Engine.Recompute
import CalcFields.Engine.Reload
import CalcFields.Engine.Selection
import CalcFields.Engine.Snapshot
import CalcFields.FieldMap
import CalcFields.Formula.Cache
import CalcFields.Formula.Calculation
import CalcFields.Formula.Comparison
import CalcFields.Formula.Compiled
import CalcFields.Formula.Conversion
import CalcFields.Formula.Dating
import CalcFields.Formula.Error
import CalcFields.Formula.Eval
import CalcFields.Formula.Expr
import CalcFields.Formula.Function
import CalcFields.Formula.Lexer
import CalcFields.Formula.Operator
import CalcFields.Formula.Parser
import CalcFields.Formula.Scope
import CalcFields.Formula.Test
import CalcFields.Formula.Token
import CalcFields.Formula.Wording
import CalcFields.Graph.Analysis
import CalcFields.Graph.Basic
import CalcFields.Graph.Reach
import CalcFields.Graph.Walk
import CalcFields.Json.Basic
import CalcFields.Json.Number
import CalcFields.Json.Reader
import CalcFields.Json.Writer
import CalcFields.Main
import CalcFields.Pattern.Class
import CalcFields.Pattern.Escape
import CalcFields.Pattern.Flags
import CalcFields.Pattern.Program
import CalcFields.Pattern.Reader
import CalcFields.Pattern.Replace
import CalcFields.Pattern.Search
import CalcFields.Pattern.Syntax
import CalcFields.Project.Basic
import CalcFields.Project.Settings
import CalcFields.Proofs.Batch.Again
import CalcFields.Proofs.Batch.Footing
import CalcFields.Proofs.Batch.Isolation
import CalcFields.Proofs.Batch.Once
import CalcFields.Proofs.Batch.Pages
import CalcFields.Proofs.Batch.Run
import CalcFields.Proofs.Batch.Service
import CalcFields.Proofs.Batch.Shelf
import CalcFields.Proofs.Calendar.Difference
import CalcFields.Proofs.Calendar.Elapsed
import CalcFields.Proofs.Calendar.Gregorian
import CalcFields.Proofs.Calendar.Instant
import CalcFields.Proofs.Calendar.Months
import CalcFields.Proofs.Calendar.Reading
import CalcFields.Proofs.Calendar.Timestamp
import CalcFields.Proofs.Calendar.Units
import CalcFields.Proofs.Command.PutRecord
import CalcFields.Proofs.Command.Step
import CalcFields.Proofs.Decimal.Decoding
import CalcFields.Proofs.Decimal.Difference
import CalcFields.Proofs.Decimal.Number
import CalcFields.Proofs.Decimal.Printing
import CalcFields.Proofs.Decimal.Rounding
import CalcFields.Proofs.Decimal.Truncation
import CalcFields.Proofs.Decimal.Whole
import CalcFields.Proofs.Definition
import CalcFields.Proofs.Digest.Bytes
import CalcFields.Proofs.Engine.Agreement
import CalcFields.Proofs.Engine.Arrangement
import CalcFields.Proofs.Engine.Attempt
import CalcFields.Proofs.Engine.Building
import CalcFields.Proofs.Engine.Caching
import CalcFields.Proofs.Engine.Clock
import CalcFields.Proofs.Engine.Collection
import CalcFields.Proofs.Engine.Comparison
import CalcFields.Proofs.Engine.Deletion
import CalcFields.Proofs.Engine.Idempotence
import CalcFields.Proofs.Engine.Narrowing
import CalcFields.Proofs.Engine.Provenance
import CalcFields.Proofs.Engine.Rebuilding
import CalcFields.Proofs.Engine.Reload
import CalcFields.Proofs.Engine.Schedule
import CalcFields.Proofs.Engine.Selection
import CalcFields.Proofs.Engine.Settlement
import CalcFields.Proofs.Engine.Signature
import CalcFields.Proofs.Engine.Solution
import CalcFields.Proofs.Engine.Suggestion
import CalcFields.Proofs.Engine.Upkeep
import CalcFields.Proofs.Engine.Upsert
import CalcFields.Proofs.FieldMap
import CalcFields.Proofs.Formula.Acceptance
import CalcFields.Proofs.Formula.Conversion
import CalcFields.Proofs.Formula.Dating
import CalcFields.Proofs.Formula.Equivalence
import CalcFields.Proofs.Formula.Extraction
import CalcFields.Proofs.Formula.Grammar
import CalcFields.Proofs.Formula.Lexer
import CalcFields.Proofs.Formula.Locality
import CalcFields.Proofs.Formula.Numeral
import CalcFields.Proofs.Formula.Provenance
import CalcFields.Proofs.Formula.Reading
import CalcFields.Proofs.Formula.Reference
import CalcFields.Proofs.Formula.Rollover
import CalcFields.Proofs.Formula.Spelling
import CalcFields.Proofs.Formula.Tokenizing
import CalcFields.Proofs.Formula.Totality
import CalcFields.Proofs.Graph.Basic
import CalcFields.Proofs.Graph.Cyclic
import CalcFields.Proofs.Graph.Edges
import CalcFields.Proofs.Graph.Gathering
import CalcFields.Proofs.Graph.Levels
import CalcFields.Proofs.Graph.Order
import CalcFields.Proofs.Graph.Precedes
import CalcFields.Proofs.Graph.Reach
import CalcFields.Proofs.Graph.Spread
import CalcFields.Proofs.Graph.Topological
import CalcFields.Proofs.Graph.Turns
import CalcFields.Proofs.Graph.Walk
import CalcFields.Proofs.Json.Exact
import CalcFields.Proofs.Json.Number
import CalcFields.Proofs.Json.RoundTrip
import CalcFields.Proofs.Json.Spelled
import CalcFields.Proofs.Json.Text
import CalcFields.Proofs.Json.Whole
import CalcFields.Proofs.Project.Frame
import CalcFields.Proofs.Sorting
import CalcFields.Proofs.Store.Definitions
import CalcFields.Proofs.Store.Files
import CalcFields.Proofs.Store.Frame
import CalcFields.Proofs.Store.Identity
import CalcFields.Proofs.Store.Keeping
import CalcFields.Proofs.Store.Lines
import CalcFields.Proofs.Store.Query
import CalcFields.Proofs.Store.Refinement
import CalcFields.Proofs.Store.Unsigned
import CalcFields.Proofs.Store.Upkeep
import CalcFields.Proofs.Text.CodeSet
import CalcFields.Proofs.Text.Ranges
import CalcFields.Proofs.Text.Tables
import CalcFields.Proofs.Value.Document
import CalcFields.Proofs.Value.Parts
import CalcFields.Proofs.Value.Spelling
import CalcFields.Proofs.Value.Storable
import CalcFields.Proofs.Value.Tolerance
import CalcFields.Proofs.Value.Unsigned
import CalcFields.Proofs.Value.Whole
import CalcFields.Store.DefinitionStore
import CalcFields.Store.Files
import CalcFields.Store.Lines
import CalcFields.Store.Path
import CalcFields.Store.Query
import CalcFields.Store.RecordStore
import CalcFields.Store.Refusal
import CalcFields.Text.Blank
import CalcFields.Text.CodeRange
import CalcFields.Text.CodeSet
import CalcFields.Text.Fold
import CalcFields.Text.LetterCase
import CalcFields.Text.Property
import CalcFields.Text.Property.Case
import CalcFields.Text.Property.Category
import CalcFields.Text.Property.Flag
import CalcFields.Text.Property.Script
import CalcFields.Text.Property.ScriptExtension
import CalcFields.Text.Property.Word
import CalcFields.Toml.Basic
import CalcFields.Toml.Literal
import CalcFields.Toml.Reader
import CalcFields.Value.Basic
import CalcFields.Value.Change
import CalcFields.Value.Document
import CalcFields.Value.Text
