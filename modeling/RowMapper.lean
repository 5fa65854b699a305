import RowMapper.Binding
import RowMapper.Calendar.Date
import RowMapper.Calendar.DateTime
import RowMapper.Calendar.Reader
import RowMapper.Calendar.TimeOfDay
import RowMapper.Comparison
import RowMapper.Datum
import RowMapper.Decimal.Binary
import RowMapper.Decimal.Numeral
import RowMapper.Decimal.Pair
import RowMapper.Decimal.Shortest
import RowMapper.Declaration.Attribute
import RowMapper.Declaration.Comment
import RowMapper.Declaration.Model
import RowMapper.Declaration.Nested
import RowMapper.Declaration.Quotation
import RowMapper.Declaration.Token
import RowMapper.Declaration.TypeText
import RowMapper.Dialect
import RowMapper.Dialogue
import RowMapper.Entity.Descriptor
import RowMapper.Entity.Fetch
import RowMapper.Entity.Scalar
import RowMapper.Entity.Type
import RowMapper.Error
import RowMapper.Filter
import RowMapper.IntRange
import RowMapper.Json
import RowMapper.Json.Numeral
import RowMapper.Json.Parser
import RowMapper.Json.Printer
import RowMapper.Mapper.Basic
import RowMapper.Mapper.Delete
import RowMapper.Mapper.Insert
import RowMapper.Mapper.Read
import RowMapper.Mapper.Selection
import RowMapper.Mapper.Update
import RowMapper.Paging.Cursor
import RowMapper.Paging.PagedList
import RowMapper.Predicate
import RowMapper.Proofs.Calendar.RoundTrip
import RowMapper.Proofs.Decimal.Numeral
import RowMapper.Proofs.Decimal.Rounding
import RowMapper.Proofs.Decimal.Shortest
import RowMapper.Proofs.Declaration.Acceptance
import RowMapper.Proofs.Declaration.Markers
import RowMapper.Proofs.Dialogue
import RowMapper.Proofs.Entity.Integers
import RowMapper.Proofs.Entity.Picking
import RowMapper.Proofs.Entity.Provision
import RowMapper.Proofs.Entity.ReadBack
import RowMapper.Proofs.Entity.RowContent
import RowMapper.Proofs.Entity.Storage
import RowMapper.Proofs.Filter.Conversion
import RowMapper.Proofs.Filter.Grammar
import RowMapper.Proofs.Filter.InMemory
import RowMapper.Proofs.Filter.LikePattern
import RowMapper.Proofs.Filter.Meaning
import RowMapper.Proofs.Filter.Shape
import RowMapper.Proofs.Filter.Where
import RowMapper.Proofs.Interleaving
import RowMapper.Proofs.Json.Magnitude
import RowMapper.Proofs.Json.Nesting
import RowMapper.Proofs.Json.Numeral
import RowMapper.Proofs.Json.Real
import RowMapper.Proofs.Json.RoundTrip
import RowMapper.Proofs.Mapper.Addressing
import RowMapper.Proofs.Mapper.Alike
import RowMapper.Proofs.Mapper.Assigning
import RowMapper.Proofs.Mapper.Bracket
import RowMapper.Proofs.Mapper.Building
import RowMapper.Proofs.Mapper.Caching
import RowMapper.Proofs.Mapper.Checking
import RowMapper.Proofs.Mapper.Course
import RowMapper.Proofs.Mapper.DefaultOrder
import RowMapper.Proofs.Mapper.Ensuring
import RowMapper.Proofs.Mapper.GeneratedKey
import RowMapper.Proofs.Mapper.Inserting
import RowMapper.Proofs.Mapper.Operation
import RowMapper.Proofs.Mapper.PageStatements
import RowMapper.Proofs.Mapper.PartialUpdate
import RowMapper.Proofs.Mapper.Placing
import RowMapper.Proofs.Mapper.Providing
import RowMapper.Proofs.Mapper.Refusal
import RowMapper.Proofs.Mapper.Reports
import RowMapper.Proofs.Mapper.SameText
import RowMapper.Proofs.Mapper.Storing
import RowMapper.Proofs.Mapper.Template
import RowMapper.Proofs.Mapper.Tracking
import RowMapper.Proofs.Mapper.Unstored
import RowMapper.Proofs.Mapper.Updating
import RowMapper.Proofs.Mapper.Walk
import RowMapper.Proofs.Outcome
import RowMapper.Proofs.Paging.CursorCodec
import RowMapper.Proofs.Paging.CursorPage
import RowMapper.Proofs.Paging.CursorReturn
import RowMapper.Proofs.Paging.CursorToken
import RowMapper.Proofs.Paging.Listing
import RowMapper.Proofs.Paging.NullKeys
import RowMapper.Proofs.Paging.NumberedPages
import RowMapper.Proofs.Paging.Traversal
import RowMapper.Proofs.Sql.Blank
import RowMapper.Proofs.Sql.Clause
import RowMapper.Proofs.Sql.Guarded
import RowMapper.Proofs.Sql.InsertText
import RowMapper.Proofs.Sql.Lexeme
import RowMapper.Proofs.Sql.Meaning
import RowMapper.Proofs.Sql.PageText
import RowMapper.Proofs.Sql.Phrase
import RowMapper.Proofs.Sql.Placeholder
import RowMapper.Proofs.Sql.Quoting
import RowMapper.Proofs.Sql.Slice
import RowMapper.Proofs.Sql.Values
import RowMapper.Proofs.Sql.Window
import RowMapper.Proofs.Sql.WindowClause
import RowMapper.Proofs.Sql.Written
import RowMapper.Proofs.Sqlite.Engine
import RowMapper.Proofs.Sqlite.StorageClass
import RowMapper.Proofs.Text.Base64Url
import RowMapper.Recording
import RowMapper.Row
import RowMapper.Session
import RowMapper.Sql.Change
import RowMapper.Sql.Condition
import RowMapper.Sql.Select
import RowMapper.Sql.Token
import RowMapper.Sql.Window
import RowMapper.Sqlite.Connection
import RowMapper.Sqlite.Engine
import RowMapper.Sqlite.OneTable.Engine
import RowMapper.Sqlite.OneTable.Location
import RowMapper.Sqlite.OneTable.RealText
import RowMapper.Sqlite.OneTable.Statement
import RowMapper.Sqlite.Stored
import RowMapper.Text.Base16
import RowMapper.Text.Base64Url
import RowMapper.Text.CharClass
import RowMapper.Text.CharClass.Blank
import RowMapper.Text.CharClass.CaseIgnorable
import RowMapper.Text.CharClass.Cased
import RowMapper.Text.CharClass.Extending
import RowMapper.Text.CharClass.Unprintable
import RowMapper.Text.Doubled
import RowMapper.Text.LetterCase
import RowMapper.Text.LetterCase.Table
import RowMapper.Text.Quoted
import RowMapper.Text.Split
import RowMapper.Tracked
import RowMapper.Value
