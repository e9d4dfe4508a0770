import QueryCanvas.Audit.Log
import QueryCanvas.Audit.Record
import QueryCanvas.Audit.Shared
import QueryCanvas.Audit.Trail
import QueryCanvas.Calendar
import QueryCanvas.Canvas.Basic
import QueryCanvas.Canvas.Editing
import QueryCanvas.Canvas.Snapshot
import QueryCanvas.Catalog.Basic
import QueryCanvas.Catalog.Fetch
import QueryCanvas.Catalog.Load
import QueryCanvas.Catalog.Row
import QueryCanvas.Fault
import QueryCanvas.Http.App
import QueryCanvas.Http.Body
import QueryCanvas.Http.Issue
import QueryCanvas.Http.Route
import QueryCanvas.Http.Target
import QueryCanvas.Http.Traffic
import QueryCanvas.Http.View
import QueryCanvas.Json.Printer
import QueryCanvas.Json.Reader
import QueryCanvas.Numeral.Binary64
import QueryCanvas.Numeral.Decimal
import QueryCanvas.Numeral.Integer
import QueryCanvas.Part.Basic
import QueryCanvas.Part.Choice
import QueryCanvas.Part.EditError
import QueryCanvas.Part.FilterValue
import QueryCanvas.Proofs.Audit.Alike
import QueryCanvas.Proofs.Audit.Complete
import QueryCanvas.Proofs.Audit.Reading
import QueryCanvas.Proofs.Audit.Trail
import QueryCanvas.Proofs.Calendar
import QueryCanvas.Proofs.Canvas.Cascade
import QueryCanvas.Proofs.Canvas.Change
import QueryCanvas.Proofs.Canvas.Check
import QueryCanvas.Proofs.Canvas.Invariant
import QueryCanvas.Proofs.Canvas.OperatorSpelling
import QueryCanvas.Proofs.Canvas.Renaming
import QueryCanvas.Proofs.Canvas.Restoring
import QueryCanvas.Proofs.Canvas.RoundTrip
import QueryCanvas.Proofs.Canvas.Steps
import QueryCanvas.Proofs.Canvas.WellFormed
import QueryCanvas.Proofs.Canvas.Withdrawal
import QueryCanvas.Proofs.Catalog.Fetch
import QueryCanvas.Proofs.Catalog.Flag
import QueryCanvas.Proofs.Catalog.Load
import QueryCanvas.Proofs.Catalog.Suggestion
import QueryCanvas.Proofs.Http.Agreement
import QueryCanvas.Proofs.Http.Body
import QueryCanvas.Proofs.Http.Events
import QueryCanvas.Proofs.Http.Interleaving
import QueryCanvas.Proofs.Http.Isolation
import QueryCanvas.Proofs.Http.QueryName
import QueryCanvas.Proofs.Http.Refusal
import QueryCanvas.Proofs.Http.Rejection
import QueryCanvas.Proofs.Http.Removal
import QueryCanvas.Proofs.Http.RequestLog
import QueryCanvas.Proofs.Http.Routing
import QueryCanvas.Proofs.Http.Service
import QueryCanvas.Proofs.Http.Target
import QueryCanvas.Proofs.Http.Traffic
import QueryCanvas.Proofs.Json.Reader
import QueryCanvas.Proofs.Numeral.Rounding
import QueryCanvas.Proofs.Numeral.Spelling
import QueryCanvas.Proofs.Outcome
import QueryCanvas.Proofs.Part.Admission
import QueryCanvas.Proofs.Part.FilterValue
import QueryCanvas.Proofs.Session.Alike
import QueryCanvas.Proofs.Session.Classification
import QueryCanvas.Proofs.Session.Execution
import QueryCanvas.Proofs.Session.Flight
import QueryCanvas.Proofs.Session.Freshness
import QueryCanvas.Proofs.Session.History
import QueryCanvas.Proofs.Session.Identity
import QueryCanvas.Proofs.Session.QueryName
import QueryCanvas.Proofs.Session.Turnover
import QueryCanvas.Proofs.Setting
import QueryCanvas.Proofs.Sql.Calm
import QueryCanvas.Proofs.Sql.Clauses
import QueryCanvas.Proofs.Sql.Compile
import QueryCanvas.Proofs.Sql.Guard
import QueryCanvas.Proofs.Sql.Lexer
import QueryCanvas.Proofs.Sql.Literal
import QueryCanvas.Proofs.Sql.Magnitude
import QueryCanvas.Proofs.Sql.Numeral
import QueryCanvas.Proofs.Sql.NumericColumn
import QueryCanvas.Proofs.Sql.NumericText
import QueryCanvas.Proofs.Sql.Reads
import QueryCanvas.Proofs.Sql.Scope
import QueryCanvas.Proofs.Sql.Tokens
import QueryCanvas.Proofs.Sql.Total
import QueryCanvas.Proofs.Sql.Unbroken
import QueryCanvas.Proofs.Sql.Writable
import QueryCanvas.Proofs.Text.Character
import QueryCanvas.Proofs.Text.Digit
import QueryCanvas.Proofs.Text.LowerCase
import QueryCanvas.Proofs.Text.Trim
import QueryCanvas.Proofs.Text.Utf8
import QueryCanvas.Session.Basic
import QueryCanvas.Session.Event
import QueryCanvas.Session.Registry
import QueryCanvas.Session.Run
import QueryCanvas.Session.Turnover
import QueryCanvas.Setting
import QueryCanvas.Sql.Dialect
import QueryCanvas.Sql.Guard
import QueryCanvas.Sql.Lexeme
import QueryCanvas.Sql.Literal
import QueryCanvas.Sql.Statement
import QueryCanvas.Text.Blank
import QueryCanvas.Text.Digit
import QueryCanvas.Text.Hexadecimal
import QueryCanvas.Text.Letter
import QueryCanvas.Text.LetterTable
import QueryCanvas.Text.Printable
import QueryCanvas.Text.Quoted
import QueryCanvas.Text.Range
import QueryCanvas.Text.Shortened
import QueryCanvas.Text.Utf8
import QueryCanvas.Text.Word
import QueryCanvas.Value
import QueryCanvas.Warehouse
