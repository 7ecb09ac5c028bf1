import SheetQuery.Text.Blank
import SheetQuery.Text.Casing
import SheetQuery.Text.Letter
import SheetQuery.Text.Quoted
import SheetQuery.Text.Search
import SheetQuery.Decimal.Notation
import SheetQuery.Decimal.Reading
import SheetQuery.Calendar.Pattern
import SheetQuery.Calendar.Serial
import SheetQuery.Dictionary
import SheetQuery.Json
import SheetQuery.Json.Reader
import SheetQuery.Value.Basic
import SheetQuery.Value.Json
import SheetQuery.Expr
import SheetQuery.Model
import SheetQuery.Error
import SheetQuery.Value.Compare
import SheetQuery.FieldType
import SheetQuery.Record
import SheetQuery.Row
import SheetQuery.Item
import SheetQuery.Options
import SheetQuery.Mapper
import SheetQuery.Table
import SheetQuery.Source
import SheetQuery.Filter.OfExpr
import SheetQuery.Statement
import SheetQuery.Projection
import SheetQuery.Materialize
import SheetQuery.Catalog
import SheetQuery.Sql.Parser
import SheetQuery.Sql.Evaluation
import SheetQuery.Workbook.Basic
import SheetQuery.Backend.Engine
import SheetQuery.Backend.Script
import SheetQuery.Session.Command
import SheetQuery.Toml.Reader
import SheetQuery.Config
import SheetQuery.Proofs.Outcome
import SheetQuery.Proofs.Text.Trimming
import SheetQuery.Proofs.Value.Order
import SheetQuery.Proofs.Value.Conversion
import SheetQuery.Proofs.Value.Ranking
import SheetQuery.Proofs.Filter.Meaning
import SheetQuery.Proofs.Filter.Language
import SheetQuery.Proofs.Filter.Agreement
import SheetQuery.Proofs.Filter.Redaction
import SheetQuery.Proofs.Filter.Slots
import SheetQuery.Proofs.Sql.Lexing
import SheetQuery.Proofs.Sql.Tokens
import SheetQuery.Proofs.Sql.Reading
import SheetQuery.Proofs.Sql.Places
import SheetQuery.Proofs.Sql.Selecting
import SheetQuery.Proofs.Sql.Occurrences
import SheetQuery.Proofs.Sql.Grammar
import SheetQuery.Proofs.Sql.Spanning
import SheetQuery.Proofs.Sql.Deriving
import SheetQuery.Proofs.Sql.Ordering
import SheetQuery.Proofs.Sql.Extremes
import SheetQuery.Proofs.Compile.Acceptance
import SheetQuery.Proofs.Compile.Intent
import SheetQuery.Proofs.Compile.Operators
import SheetQuery.Proofs.Compile.Redaction
import SheetQuery.Proofs.Compile.RoundTrip
import SheetQuery.Proofs.Compile.Filtering
import SheetQuery.Proofs.Compile.Refiltering
import SheetQuery.Proofs.Filter.Complement
import SheetQuery.Proofs.Filter.Respelling
import SheetQuery.Proofs.Mapper.Owners
import SheetQuery.Proofs.Materialize.Fields
import SheetQuery.Proofs.Mapper.Hints
import SheetQuery.Proofs.Workbook.Tables
import SheetQuery.Proofs.Workbook.Arranging
import SheetQuery.Proofs.Materialize.Generic
import SheetQuery.Proofs.Materialize.Casting
import SheetQuery.Proofs.Materialize.Cells
import SheetQuery.Proofs.Materialize.Strictness
import SheetQuery.Proofs.Materialize.Converting
import SheetQuery.Proofs.Materialize.RoundTrip
import SheetQuery.Proofs.Session.Running
import SheetQuery.Proofs.Session.Finishing
import SheetQuery.Proofs.Session.Agreeing
import SheetQuery.Proofs.Session.Connecting
import SheetQuery.Proofs.Backend.Answers
import SheetQuery.Proofs.Backend.Bounds
import SheetQuery.Proofs.Session.Paging
import SheetQuery.Proofs.Session.Covering
import SheetQuery.Proofs.Session.Counting
import SheetQuery.Proofs.Session.First
import SheetQuery.Proofs.Session.Distinct
import SheetQuery.Proofs.Session.Converting
import SheetQuery.Proofs.Session.Filtering
import SheetQuery.Proofs.Session.Complement
import SheetQuery.Proofs.Session.Sharing
import SheetQuery.Proofs.Session.Keeping
import SheetQuery.Proofs.Session.Diagnosis
import SheetQuery.Proofs.Session.Naming
import SheetQuery.Proofs.Session.Refiltering
import SheetQuery.Proofs.Sql.Arranging
import SheetQuery.Proofs.Materialize.Arranging
import SheetQuery.Proofs.Session.Arranging
import SheetQuery.Proofs.Session.Previewing
import SheetQuery.Proofs.Workbook.Listing
import SheetQuery.Proofs.Session.Positions
import SheetQuery.Proofs.Materialize.Trimming
import SheetQuery.Proofs.Workbook.Scopes
import SheetQuery.Proofs.Session.Scopes
import SheetQuery.Proofs.Workbook.Referents
import SheetQuery.Proofs.Session.Referents
import SheetQuery.Proofs.Sql.Matching
import SheetQuery.Proofs.Text.Casing
import SheetQuery.Proofs.Session.Searching
import SheetQuery.Proofs.Session.Configuring
import SheetQuery.Proofs.Sql.Faults
import SheetQuery.Proofs.Compile.Refusals
import SheetQuery.Proofs.Session.Blaming
import SheetQuery.Proofs.Backend.Sorting
import SheetQuery.Proofs.Session.Extremes
import SheetQuery.Proofs.Decimal.Rounding
import SheetQuery.Proofs.Decimal.Packing
import SheetQuery.Proofs.Decimal.Nearest
import SheetQuery.Proofs.Decimal.Whole
import SheetQuery.Proofs.Decimal.Shortest
import SheetQuery.Proofs.Decimal.RoundTrip
import SheetQuery.Proofs.Value.Preorder
import SheetQuery.Proofs.Calendar.RoundTrip
import SheetQuery.Proofs.Value.Spelling
import SheetQuery.Proofs.Value.Rereading
import SheetQuery.Proofs.Value.Settled
import SheetQuery.Proofs.Session.Equating
import SheetQuery.Proofs.Decimal.Words
import SheetQuery.Proofs.Decimal.Summing
import SheetQuery.Proofs.Backend.Summing
import SheetQuery.Proofs.Workbook.References
import SheetQuery.Proofs.Backend.Rectangles
import SheetQuery.Proofs.Projection.Forcing
import SheetQuery.Proofs.Projection.Calculating
import SheetQuery.Proofs.Session.Finding
import SheetQuery.Proofs.Materialize.Failing
import SheetQuery.Proofs.Session.Failing
import SheetQuery.Proofs.Workbook.Headers
import SheetQuery.Proofs.Session.Heading
import SheetQuery.Proofs.Session.Taking
import SheetQuery.Proofs.Session.Mirroring
import SheetQuery.Proofs.Compile.Columns
import SheetQuery.Proofs.Session.Computing
