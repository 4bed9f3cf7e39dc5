import RecordQuery.Config.Layers
import RecordQuery.Error
import RecordQuery.FlatKey
import RecordQuery.Instant.Reader
import RecordQuery.Json.Layout
import RecordQuery.Json.Reader
import RecordQuery.Json.Text
import RecordQuery.Number.Numeral
import RecordQuery.Number.Shortest
import RecordQuery.Parameters
import RecordQuery.Predicate.Bound
import RecordQuery.Predicate.Evaluation
import RecordQuery.Record.Join
import RecordQuery.Record.Shape
import RecordQuery.Sample.Heroes
import RecordQuery.Schema.Registry
import RecordQuery.Service
import RecordQuery.Statement
import RecordQuery.Text.Alphanumeric
import RecordQuery.Text.CommaList
import RecordQuery.Text.Lowercase
import RecordQuery.Text.Pattern
import RecordQuery.Proofs.Condition.Meaning
import RecordQuery.Proofs.Collection.Compile
import RecordQuery.Proofs.Collection.FlatForm
import RecordQuery.Proofs.Sql.Template
import RecordQuery.Proofs.Sql.Agreement
import RecordQuery.Proofs.Store.Answer
import RecordQuery.Proofs.Collection.Pages
import RecordQuery.Proofs.Collection.Refusals
import RecordQuery.Proofs.Store.Inserts
import RecordQuery.Proofs.Collection.Protocol
import RecordQuery.Proofs.Sql.Renderings
import RecordQuery.Proofs.Sql.Shape
import RecordQuery.Proofs.Collection.Fields
import RecordQuery.Proofs.Collection.View
import RecordQuery.Proofs.Schema.Built
import RecordQuery.Proofs.Collection.Windows
import RecordQuery.Proofs.Collection.Checked
import RecordQuery.Proofs.Collection.OneFilter
import RecordQuery.Proofs.Collection.OneMember
import RecordQuery.Proofs.Condition.Written
import RecordQuery.Proofs.Request.Written
import RecordQuery.Proofs.Sql.Precedence
import RecordQuery.Proofs.Sql.Grouping
import RecordQuery.Proofs.Number.Integers
import RecordQuery.Proofs.Predicate.Retyped
import RecordQuery.Proofs.Collection.TextParameters
import RecordQuery.Proofs.FlatKey.Grammar
import RecordQuery.Proofs.Collection.FirstFault
import RecordQuery.Proofs.Condition.Substring
import RecordQuery.Proofs.Json.SortOrder
import RecordQuery.Proofs.Store.Sorted
import RecordQuery.Proofs.Number.Rounding
import RecordQuery.Proofs.Store.Integers
import RecordQuery.Proofs.Record.Join
import RecordQuery.Proofs.Condition.Pruned
import RecordQuery.Proofs.Json.OneRank
import RecordQuery.Proofs.Store.Ranges
import RecordQuery.Proofs.Json.Timestamps
import RecordQuery.Proofs.Text.CommaList
import RecordQuery.Proofs.Collection.KeyLookup
import RecordQuery.Proofs.Request.Given
import RecordQuery.Proofs.Collection.BoundWindow
import RecordQuery.Proofs.Collection.OwnWindows
import RecordQuery.Proofs.Collection.CommaLists
import RecordQuery.Proofs.Request.Values
import RecordQuery.Proofs.Request.Pairs
import RecordQuery.Proofs.Record.Serialized
import RecordQuery.Proofs.Collection.Narrowing
import RecordQuery.Proofs.Sql.Lexemes
import RecordQuery.Proofs.Sql.Literals
import RecordQuery.Proofs.Text.PatternTokens
import RecordQuery.Proofs.Schema.Declarations
import RecordQuery.Proofs.Schema.Interleaved
import RecordQuery.Proofs.Number.Shortest
import RecordQuery.Proofs.Json.NumberText
import RecordQuery.Proofs.Json.Unambiguous
import RecordQuery.Proofs.Sql.Arguments
import RecordQuery.Proofs.Json.EitherSide
import RecordQuery.Proofs.Predicate.Converse
import RecordQuery.Proofs.Collection.Cells
