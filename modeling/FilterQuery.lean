import FilterQuery.Access.Enumerations
import FilterQuery.Access.Models
import FilterQuery.Calendar.Basic
import FilterQuery.Calendar.Layout
import FilterQuery.Calendar.Printer
import FilterQuery.Calendar.Reader
import FilterQuery.Entity.Basic
import FilterQuery.Entity.Declaration
import FilterQuery.Entity.Embedding
import FilterQuery.Entity.Model
import FilterQuery.Entity.Record
import FilterQuery.Entity.Row
import FilterQuery.Entity.TypeText
import FilterQuery.Filter.Alternative
import FilterQuery.Filter.Category
import FilterQuery.Filter.Compile
import FilterQuery.Filter.Date
import FilterQuery.Filter.Enumeration
import FilterQuery.Filter.Error
import FilterQuery.Filter.Field
import FilterQuery.Filter.FieldFilter
import FilterQuery.Filter.Kind
import FilterQuery.Filter.Operator
import FilterQuery.Filter.Params
import FilterQuery.Identifier.Basic
import FilterQuery.Identifier.Reader
import FilterQuery.Json.Basic
import FilterQuery.Json.Printer
import FilterQuery.Main
import FilterQuery.Naming.Case
import FilterQuery.Naming.Words
import FilterQuery.Number.Binary64
import FilterQuery.Number.Extended
import FilterQuery.Number.Integer
import FilterQuery.Program.CommandLine
import FilterQuery.Program.Run
import FilterQuery.Program.Settings
import FilterQuery.Proofs.Steps
import FilterQuery.Proofs.Calendar.Clock
import FilterQuery.Proofs.Calendar.Instant
import FilterQuery.Proofs.Calendar.Order
import FilterQuery.Proofs.Entity.Declaration
import FilterQuery.Proofs.Entity.Embedding
import FilterQuery.Proofs.Entity.JsonRoundTrip
import FilterQuery.Proofs.Entity.MemberNames
import FilterQuery.Proofs.Filter.Columns
import FilterQuery.Proofs.Filter.DateForms
import FilterQuery.Proofs.Filter.Dates
import FilterQuery.Proofs.Filter.Literals
import FilterQuery.Proofs.Filter.Locality
import FilterQuery.Proofs.Filter.Meaning
import FilterQuery.Proofs.Filter.Parts
import FilterQuery.Proofs.Filter.Refusal
import FilterQuery.Proofs.Filter.Shape
import FilterQuery.Proofs.Filter.Soundness
import FilterQuery.Proofs.Filter.Strict
import FilterQuery.Proofs.Filter.Tags
import FilterQuery.Proofs.Filter.Traversal
import FilterQuery.Proofs.Number.Decimal
import FilterQuery.Proofs.Query.Independence
import FilterQuery.Proofs.Query.Numbering
import FilterQuery.Proofs.Query.Page
import FilterQuery.Proofs.Query.Run
import FilterQuery.Proofs.Query.Statement
import FilterQuery.Proofs.Query.Where
import FilterQuery.Proofs.Search.Conjunction
import FilterQuery.Proofs.Search.Embedding
import FilterQuery.Proofs.Search.Grammar
import FilterQuery.Proofs.Search.Lexing
import FilterQuery.Proofs.Search.Lengths
import FilterQuery.Proofs.Search.Lookahead
import FilterQuery.Proofs.Search.Nesting
import FilterQuery.Proofs.Search.Numbering
import FilterQuery.Proofs.Search.Operands
import FilterQuery.Proofs.Search.Phrases
import FilterQuery.Proofs.Search.Renumbering
import FilterQuery.Proofs.Search.Tests
import FilterQuery.Proofs.Search.Words
import FilterQuery.Proofs.Sql.Blank
import FilterQuery.Proofs.Sql.Conditions
import FilterQuery.Proofs.Sql.Connectives
import FilterQuery.Proofs.Sql.Operands
import FilterQuery.Proofs.Sql.ConditionTexts
import FilterQuery.Proofs.Sql.Rendering
import FilterQuery.Proofs.Sql.NormalForm
import FilterQuery.Proofs.Sql.Structure
import FilterQuery.Proofs.Store.Closure
import FilterQuery.Proofs.Store.Find
import FilterQuery.Proofs.Store.Pages
import FilterQuery.Proofs.Store.Schema
import FilterQuery.Query.Builder
import FilterQuery.Query.Page
import FilterQuery.Search.Arithmetic
import FilterQuery.Search.Clause
import FilterQuery.Search.Error
import FilterQuery.Search.Evaluation
import FilterQuery.Search.Expression
import FilterQuery.Search.Function
import FilterQuery.Search.Keyword
import FilterQuery.Search.Names
import FilterQuery.Search.Reader
import FilterQuery.Search.Token
import FilterQuery.Search.Wildcard
import FilterQuery.Sql.Cell
import FilterQuery.Sql.Height
import FilterQuery.Sql.Meaning
import FilterQuery.Sql.Pattern
import FilterQuery.Sql.Predicate
import FilterQuery.Sql.Printer
import FilterQuery.Sql.Truth
import FilterQuery.Sql.Value
import FilterQuery.Store.Closure
import FilterQuery.Store.Lookup
import FilterQuery.Store.Order
import FilterQuery.Store.Relation
import FilterQuery.Store.RowNumber
import FilterQuery.Store.Schema
import FilterQuery.Store.Select
import FilterQuery.Store.Table
import FilterQuery.Store.Views
import FilterQuery.Text.Ascii
import FilterQuery.Text.Blank
import FilterQuery.Text.CaseTable
import FilterQuery.Text.Cased
import FilterQuery.Text.Combining
import FilterQuery.Text.Digit
import FilterQuery.Text.Hidden
import FilterQuery.Text.LetterCase
import FilterQuery.Text.Quoted
import FilterQuery.Text.Runs
import FilterQuery.Proofs.Store.Constraints
import FilterQuery.Proofs.Store.Tree
import FilterQuery.Proofs.Text.LetterCase
import FilterQuery.Proofs.Store.Permissions
import FilterQuery.Proofs.Store.Agreement
import FilterQuery.Proofs.Store.Memberships
import FilterQuery.Proofs.Filter.Encoding
import FilterQuery.Proofs.Identifier.RoundTrip
import FilterQuery.Proofs.Calendar.Printed
import FilterQuery.Proofs.Calendar.RoundTrip
import FilterQuery.Proofs.Calendar.IsoText
import FilterQuery.Proofs.Filter.OwnLiterals
import FilterQuery.Proofs.Filter.OwnValues
import FilterQuery.Proofs.Store.OwnValues
import FilterQuery.Proofs.Calendar.Scanning
import FilterQuery.Proofs.Filter.Membership
import FilterQuery.Proofs.Filter.Complement
import FilterQuery.Proofs.Filter.DateOperators
import FilterQuery.Proofs.Sql.Wildcards
import FilterQuery.Proofs.Filter.TextPatterns
import FilterQuery.Proofs.Identifier.Hyphenated
import FilterQuery.Proofs.Filter.LetterCase
import FilterQuery.Proofs.Filter.Identifiers
import FilterQuery.Proofs.Store.Timestamps
import FilterQuery.Proofs.Number.Numeral
import FilterQuery.Proofs.Filter.Numbers
import FilterQuery.Proofs.Query.Offset
import FilterQuery.Proofs.Entity.DefaultOrder
import FilterQuery.Proofs.Program.Arguments
