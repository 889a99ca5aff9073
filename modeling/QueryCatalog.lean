import QueryCatalog.Calendar.Date
import QueryCatalog.Calendar.Instant
import QueryCatalog.Command.Arguments
import QueryCatalog.Command.Help
import QueryCatalog.Command.Outcome
import QueryCatalog.Convert.Conversion
import QueryCatalog.Convert.ParameterType
import QueryCatalog.Cursor.Backoff
import QueryCatalog.Cursor.Basic
import QueryCatalog.Decimal.Notation
import QueryCatalog.Decimal.Reading
import QueryCatalog.Decimal.Shortest
import QueryCatalog.Decimal.Significant
import QueryCatalog.Dictionary
import QueryCatalog.Engine.Dialect
import QueryCatalog.Engine.Executor
import QueryCatalog.Engine.Fetch
import QueryCatalog.Engine.Page
import QueryCatalog.Engine.Selection
import QueryCatalog.Engine.Session
import QueryCatalog.Error
import QueryCatalog.Files
import QueryCatalog.Hint.Handler
import QueryCatalog.Json.Number
import QueryCatalog.Json.Path
import QueryCatalog.Json.Printer
import QueryCatalog.Json.Reader
import QueryCatalog.Json.Value
import QueryCatalog.Lua.Chunk
import QueryCatalog.Lua.Course
import QueryCatalog.Lua.Data
import QueryCatalog.Lua.Eval
import QueryCatalog.Lua.Heap
import QueryCatalog.Lua.Numeral
import QueryCatalog.Lua.Operation
import QueryCatalog.Lua.Parser
import QueryCatalog.Lua.Script
import QueryCatalog.Lua.Token
import QueryCatalog.Main
import QueryCatalog.Mapping.Definition
import QueryCatalog.Mapping.Descriptor
import QueryCatalog.Mapping.Draft
import QueryCatalog.Mapping.Problem
import QueryCatalog.Mapping.Query
import QueryCatalog.Mapping.Validation
import QueryCatalog.Pattern.CharSet
import QueryCatalog.Pattern.Match
import QueryCatalog.Pattern.Parser
import QueryCatalog.Plan.Basic
import QueryCatalog.Plan.Prepared
import QueryCatalog.Plan.Store
import QueryCatalog.Script.Bindings
import QueryCatalog.Script.Evaluation
import QueryCatalog.Script.Native
import QueryCatalog.Script.Runner
import QueryCatalog.Settings.Basic
import QueryCatalog.Settings.Document
import QueryCatalog.Settings.Environment
import QueryCatalog.Statement.Binding
import QueryCatalog.Statement.Placeholder
import QueryCatalog.Template.Expr
import QueryCatalog.Template.Render
import QueryCatalog.Template.Segment
import QueryCatalog.Template.Token
import QueryCatalog.Template.Tree
import QueryCatalog.Text.Alphabetic
import QueryCatalog.Text.Blank
import QueryCatalog.Text.Case
import QueryCatalog.Text.Digits
import QueryCatalog.Text.Numeric
import QueryCatalog.Text.Ranges
import QueryCatalog.Text.Scanner
import QueryCatalog.Text.Visible
import QueryCatalog.Toml.Document
import QueryCatalog.Toml.Reader
import QueryCatalog.Proofs.Statement.Rewriting
import QueryCatalog.Proofs.Statement.Binding
import QueryCatalog.Proofs.Dictionary
import QueryCatalog.Proofs.Plan.Store
import QueryCatalog.Proofs.Engine.Run
import QueryCatalog.Proofs.Engine.Pairing
import QueryCatalog.Proofs.Engine.Reachable
import QueryCatalog.Proofs.Engine.Recording
import QueryCatalog.Proofs.Command.Render
import QueryCatalog.Proofs.Json.Equality
import QueryCatalog.Proofs.Json.Path
import QueryCatalog.Proofs.Json.Writing
import QueryCatalog.Proofs.Json.Everywhere
import QueryCatalog.Proofs.Decimal.Rounding
import QueryCatalog.Proofs.Engine.Fetch
import QueryCatalog.Proofs.Engine.Batch
import QueryCatalog.Proofs.Engine.Clause
import QueryCatalog.Proofs.Engine.Page
import QueryCatalog.Proofs.Cursor.Readings
import QueryCatalog.Proofs.Cursor.Windows
import QueryCatalog.Proofs.Template.Pieces
import QueryCatalog.Proofs.Template.Marks
import QueryCatalog.Proofs.Cursor.Attempts
import QueryCatalog.Proofs.Cursor.Lifetime
import QueryCatalog.Proofs.Cursor.Draining
import QueryCatalog.Proofs.Mapping.References
import QueryCatalog.Proofs.Mapping.Soundness
import QueryCatalog.Proofs.Mapping.Trails
import QueryCatalog.Proofs.Engine.Failures
import QueryCatalog.Proofs.Engine.Visits
import QueryCatalog.Proofs.Engine.Nesting
import QueryCatalog.Proofs.Lua.Settling
import QueryCatalog.Proofs.Lua.Loading
import QueryCatalog.Proofs.Lua.Untouched
import QueryCatalog.Proofs.Engine.Execution
import QueryCatalog.Proofs.Engine.Injection
import QueryCatalog.Proofs.Convert.Shape
import QueryCatalog.Proofs.Engine.Matching
import QueryCatalog.Proofs.Engine.Paging
import QueryCatalog.Proofs.Engine.Parallel
import QueryCatalog.Proofs.Engine.Lookahead
import QueryCatalog.Proofs.Engine.Fitting
import QueryCatalog.Proofs.Plan.History
import QueryCatalog.Proofs.Template.Spelling
import QueryCatalog.Proofs.Template.Printing
import QueryCatalog.Proofs.Engine.Selections
import QueryCatalog.Proofs.Engine.Caps
import QueryCatalog.Proofs.Statement.Lexemes
import QueryCatalog.Proofs.Template.Grammar
import QueryCatalog.Proofs.Mapping.Order
import QueryCatalog.Proofs.Engine.Context
import QueryCatalog.Proofs.Text.Trimming
import QueryCatalog.Proofs.Statement.Agreement
import QueryCatalog.Proofs.Template.Splitting
import QueryCatalog.Proofs.Engine.Journal
import QueryCatalog.Proofs.Engine.Parents
import QueryCatalog.Proofs.Template.Appending
import QueryCatalog.Proofs.Json.Overwriting
import QueryCatalog.Proofs.Engine.Columns
import QueryCatalog.Proofs.Template.Dots
import QueryCatalog.Proofs.Template.Fields
import QueryCatalog.Proofs.Lists
import QueryCatalog.Proofs.Json.Sameness
import QueryCatalog.Proofs.Hint.Partition
import QueryCatalog.Proofs.Hint.Recovery
import QueryCatalog.Proofs.Engine.Distinct
import QueryCatalog.Proofs.Engine.IntegerKeys
import QueryCatalog.Proofs.Convert.Repeating
import QueryCatalog.Proofs.Decimal.Amount
import QueryCatalog.Proofs.Mapping.Duplicates
import QueryCatalog.Proofs.Convert.Integers
import QueryCatalog.Proofs.Calendar.Days
import QueryCatalog.Proofs.Calendar.Notation
import QueryCatalog.Proofs.Calendar.Instants
import QueryCatalog.Proofs.Convert.Dates
import QueryCatalog.Proofs.Cursor.Waiting
import QueryCatalog.Proofs.Statement.Names
import QueryCatalog.Proofs.Statement.Marks
import QueryCatalog.Proofs.Template.Literals
import QueryCatalog.Proofs.Statement.Spans
import QueryCatalog.Proofs.Template.LoopNames
import QueryCatalog.Proofs.Lua.Recording
