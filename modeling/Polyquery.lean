import Polyquery.Backend
import Polyquery.Cluster.Basic
import Polyquery.Cluster.Document
import Polyquery.CommandLine.Arguments
import Polyquery.CommandLine.Opened
import Polyquery.CommandLine.Perform
import Polyquery.CommandLine.Report
import Polyquery.Config.File
import Polyquery.Config.Server
import Polyquery.Config.Target
import Polyquery.Connection
import Polyquery.Database.Basic
import Polyquery.Database.Recorder
import Polyquery.Database.Rows
import Polyquery.Decimal.Layout
import Polyquery.Decimal.Rounded
import Polyquery.Decimal.Shortest
import Polyquery.Document.Basic
import Polyquery.Document.Filter
import Polyquery.Error
import Polyquery.Expression.Arity
import Polyquery.Expression.Basic
import Polyquery.Expression.Operator
import Polyquery.Fields
import Polyquery.Generated
import Polyquery.Http.Basic
import Polyquery.Json.Basic
import Polyquery.Json.Printer
import Polyquery.Json.Reader
import Polyquery.Json.Record
import Polyquery.Mysql.Column
import Polyquery.Mysql.Database
import Polyquery.Output.Format
import Polyquery.Output.RowTable
import Polyquery.Output.Toon
import Polyquery.Postgres.Cast
import Polyquery.Postgres.Column
import Polyquery.Postgres.Database
import Polyquery.Postgres.Link
import Polyquery.Proofs.Cluster.Assignment
import Polyquery.Proofs.Cluster.Batch
import Polyquery.Proofs.Cluster.Call
import Polyquery.Proofs.Cluster.Course
import Polyquery.Proofs.Cluster.Deletion
import Polyquery.Proofs.Cluster.Failure
import Polyquery.Proofs.Cluster.Operation
import Polyquery.Proofs.Cluster.Path
import Polyquery.Proofs.Cluster.Refusal
import Polyquery.Proofs.Cluster.Repetition
import Polyquery.Proofs.Cluster.Server
import Polyquery.Proofs.Cluster.Upsert
import Polyquery.Proofs.Config.Server
import Polyquery.Proofs.Database.Keys
import Polyquery.Proofs.Database.Ownership
import Polyquery.Proofs.Database.Refusing
import Polyquery.Proofs.Database.Sample
import Polyquery.Proofs.Database.Storing
import Polyquery.Proofs.Database.Unwritten
import Polyquery.Proofs.Database.Upsert
import Polyquery.Proofs.Decimal.Characters
import Polyquery.Proofs.Decimal.Nearest
import Polyquery.Proofs.Decimal.Shortest
import Polyquery.Proofs.Decimal.Whole
import Polyquery.Proofs.Document.Forms
import Polyquery.Proofs.Document.Generation
import Polyquery.Proofs.Document.Selection
import Polyquery.Proofs.Expression.Nodes
import Polyquery.Proofs.Fields
import Polyquery.Proofs.Json.Lexing
import Polyquery.Proofs.Json.Number
import Polyquery.Proofs.Json.Quote
import Polyquery.Proofs.Json.Reading
import Polyquery.Proofs.Mysql.Unwritten
import Polyquery.Proofs.Mysql.Upsert
import Polyquery.Proofs.Output.Alignment
import Polyquery.Proofs.Postgres.Calls
import Polyquery.Proofs.Postgres.Cast
import Polyquery.Proofs.Postgres.Handles
import Polyquery.Proofs.Postgres.History
import Polyquery.Proofs.Postgres.Ownership
import Polyquery.Proofs.Postgres.Pool
import Polyquery.Proofs.Postgres.Server
import Polyquery.Proofs.Postgres.Stranded
import Polyquery.Proofs.Postgres.Transactions
import Polyquery.Proofs.Postgres.Unwritten
import Polyquery.Proofs.Postgres.Upsert
import Polyquery.Proofs.Result
import Polyquery.Proofs.Schema
import Polyquery.Proofs.Schema.Restriction
import Polyquery.Proofs.Search.Acceptance
import Polyquery.Proofs.Search.Folding
import Polyquery.Proofs.Search.Reading
import Polyquery.Proofs.Session
import Polyquery.Proofs.Sql.Ambiguity
import Polyquery.Proofs.Sql.Condition
import Polyquery.Proofs.Sql.Conflict
import Polyquery.Proofs.Sql.Confusion
import Polyquery.Proofs.Sql.Cutting
import Polyquery.Proofs.Sql.Derivation
import Polyquery.Proofs.Sql.Grammar
import Polyquery.Proofs.Sql.Holes
import Polyquery.Proofs.Sql.Inlining
import Polyquery.Proofs.Sql.Insertion
import Polyquery.Proofs.Sql.Lexing
import Polyquery.Proofs.Sql.Malformed
import Polyquery.Proofs.Sql.Numbering
import Polyquery.Proofs.Sql.Operands
import Polyquery.Proofs.Sql.Outline
import Polyquery.Proofs.Sql.Parameters
import Polyquery.Proofs.Sql.Parsing
import Polyquery.Proofs.Sql.Phrase
import Polyquery.Proofs.Sql.Quotation
import Polyquery.Proofs.Sql.Regrouping
import Polyquery.Proofs.Sql.Rows
import Polyquery.Proofs.Sql.Runs
import Polyquery.Proofs.Sql.Sealing
import Polyquery.Proofs.Sql.Terminals
import Polyquery.Proofs.Sql.Truth
import Polyquery.Proofs.Sql.Unquoting
import Polyquery.Proofs.Sql.Updating
import Polyquery.Proofs.Sql.Upsert
import Polyquery.Proofs.Sql.Writing
import Polyquery.Proofs.Sqlite.Literal
import Polyquery.Proofs.Sqlite.Unwritten
import Polyquery.Proofs.Sqlite.Upsert
import Polyquery.Proofs.Table.Columns
import Polyquery.Proofs.Table.Identity
import Polyquery.Proofs.Table.Key
import Polyquery.Proofs.Url.Escape
import Polyquery.Proofs.Url.Host
import Polyquery.Proofs.Url.Path
import Polyquery.Proofs.Url.Percent
import Polyquery.Proofs.Url.Pieces
import Polyquery.Proofs.Url.Reading
import Polyquery.Proofs.Value.Comparison
import Polyquery.Proofs.Value.Order
import Polyquery.Proofs.Value.Rank
import Polyquery.Proofs.Value.Rounding
import Polyquery.Proofs.Value.Scalar
import Polyquery.Query
import Polyquery.Schema
import Polyquery.Search.Clause
import Polyquery.Search.Request
import Polyquery.Server.Answer
import Polyquery.Session
import Polyquery.Sql.Action
import Polyquery.Sql.Dialect
import Polyquery.Sql.Expression
import Polyquery.Sql.Generate
import Polyquery.Sql.Query
import Polyquery.Sql.Quoting
import Polyquery.Sql.Statement
import Polyquery.Sql.Term
import Polyquery.Sql.Token
import Polyquery.Sql.Transaction
import Polyquery.Sql.Truth
import Polyquery.Sql.Upsert
import Polyquery.Sqlite.Access.Candidate
import Polyquery.Sqlite.Access.Choice
import Polyquery.Sqlite.Access.Condition
import Polyquery.Sqlite.Access.Estimate
import Polyquery.Sqlite.Access.Fact
import Polyquery.Sqlite.Access.Path
import Polyquery.Sqlite.Access.Route
import Polyquery.Sqlite.Cell
import Polyquery.Sqlite.Column
import Polyquery.Sqlite.Database
import Polyquery.Sqlite.Engine
import Polyquery.Sqlite.Evaluation
import Polyquery.Sqlite.Key
import Polyquery.Sqlite.Name
import Polyquery.Sqlite.Numeral
import Polyquery.Sqlite.Store
import Polyquery.Table
import Polyquery.Text.Blank
import Polyquery.Text.Digit
import Polyquery.Text.Hidden
import Polyquery.Text.Occurs
import Polyquery.Text.Quoted
import Polyquery.Text.Ranges
import Polyquery.Text.Word
import Polyquery.Timestamp
import Polyquery.Url.Basic
import Polyquery.Url.Domain.Composition
import Polyquery.Url.Domain.Direction
import Polyquery.Url.Domain.Joining
import Polyquery.Url.Domain.Mapping
import Polyquery.Url.Domain.Mark
import Polyquery.Url.Domain.Name
import Polyquery.Url.Domain.Permitted
import Polyquery.Url.Domain.Punycode
import Polyquery.Url.Domain.Replacement
import Polyquery.Url.Domain.Table
import Polyquery.Url.Host
import Polyquery.Url.Percent
import Polyquery.Url.Pieces
import Polyquery.Url.Reader
import Polyquery.Value
import Polyquery.Main
