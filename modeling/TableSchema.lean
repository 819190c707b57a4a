import TableSchema.Assembly
import TableSchema.Backend
import TableSchema.Backend.Description
import TableSchema.Binary64
import TableSchema.Binary64.Shortest
import TableSchema.Catalog.Cast
import TableSchema.Catalog.Default
import TableSchema.Catalog.Quotation
import TableSchema.Catalog.TypeName
import TableSchema.Column
import TableSchema.ColumnText
import TableSchema.Entries
import TableSchema.Expression
import TableSchema.Expression.Body
import TableSchema.Expression.Fault
import TableSchema.Format.Calendar
import TableSchema.Format.DomainName
import TableSchema.Format.DomainName.Direction
import TableSchema.Format.DomainName.Joining
import TableSchema.Format.DomainName.Meaning
import TableSchema.Format.Host
import TableSchema.Format.Punycode
import TableSchema.Format.Timestamp
import TableSchema.Format.Uuid
import TableSchema.Format.WebAddress
import TableSchema.Intake
import TableSchema.Issue
import TableSchema.Live
import TableSchema.Mapping
import TableSchema.ModelName
import TableSchema.Pattern
import TableSchema.Proofs.Assembly
import TableSchema.Proofs.Binary64.Rounding
import TableSchema.Proofs.Catalog.Cast
import TableSchema.Proofs.Catalog.Computed
import TableSchema.Proofs.Catalog.Decoding
import TableSchema.Proofs.Catalog.Default
import TableSchema.Proofs.Catalog.NormalForm
import TableSchema.Proofs.Catalog.NumericDefault
import TableSchema.Proofs.Catalog.Quotation
import TableSchema.Proofs.Catalog.Respelling
import TableSchema.Proofs.Catalog.TypeName
import TableSchema.Proofs.Catalog.TypeSpelling
import TableSchema.Proofs.Column
import TableSchema.Proofs.ColumnText
import TableSchema.Proofs.Entries
import TableSchema.Proofs.Format.Length
import TableSchema.Proofs.Grammar
import TableSchema.Proofs.Grammar.Acceptance
import TableSchema.Proofs.Grammar.Brackets
import TableSchema.Proofs.Grammar.Completeness
import TableSchema.Proofs.Grammar.Exchange
import TableSchema.Proofs.Grammar.Given
import TableSchema.Proofs.Grammar.Layout
import TableSchema.Proofs.Grammar.Location
import TableSchema.Proofs.Grammar.MethodOrder
import TableSchema.Proofs.Grammar.Progress
import TableSchema.Proofs.Grammar.Reader
import TableSchema.Proofs.Grammar.Refusal
import TableSchema.Proofs.Grammar.Soundness
import TableSchema.Proofs.Grammar.Walk
import TableSchema.Proofs.Grammar.Walk.Agreement
import TableSchema.Proofs.Live.Agreement
import TableSchema.Proofs.Live.Bounds
import TableSchema.Proofs.Live.Building
import TableSchema.Proofs.Live.Explanation
import TableSchema.Proofs.Live.Failure
import TableSchema.Proofs.Live.Heeded
import TableSchema.Proofs.Live.Naming
import TableSchema.Proofs.Live.Outcome
import TableSchema.Proofs.Mapping
import TableSchema.Proofs.MemberNames
import TableSchema.Proofs.ModelName
import TableSchema.Proofs.Numeral
import TableSchema.Proofs.Numeral.Shortest
import TableSchema.Proofs.Pointwise
import TableSchema.Proofs.Precedence
import TableSchema.Proofs.Rearrangement
import TableSchema.Proofs.Row.Acceptance
import TableSchema.Proofs.Row.Admission
import TableSchema.Proofs.Row.Attribute
import TableSchema.Proofs.Row.Extras
import TableSchema.Proofs.Row.Filled
import TableSchema.Proofs.Row.Keys
import TableSchema.Proofs.Row.Model
import TableSchema.Proofs.Row.Object
import TableSchema.Proofs.Row.Sharing
import TableSchema.Proofs.Row.TextLength
import TableSchema.Proofs.Schema.Calls
import TableSchema.Proofs.Schema.Keeping
import TableSchema.Proofs.Schema.Lexemes
import TableSchema.Proofs.Schema.Nesting
import TableSchema.Proofs.Schema.Occurrence
import TableSchema.Proofs.Schema.Parts
import TableSchema.Proofs.Schema.Place
import TableSchema.Proofs.Schema.Reading
import TableSchema.Proofs.Schema.Resolution
import TableSchema.Proofs.Schema.RoundTrip
import TableSchema.Proofs.Schema.WellFormed
import TableSchema.Proofs.Schema.Writing
import TableSchema.Proofs.Selection
import TableSchema.Proofs.Service
import TableSchema.Proofs.Text.JsonString
import TableSchema.Proofs.Text.LowerCase
import TableSchema.Proofs.Text.Quoted
import TableSchema.Proofs.Text.Words
import TableSchema.Proofs.Token.Cut
import TableSchema.Proofs.Token.Extent
import TableSchema.Proofs.Token.Insertion
import TableSchema.Proofs.Token.Lexeme
import TableSchema.Proofs.Token.Spelling
import TableSchema.Proofs.Token.Tiling
import TableSchema.Proofs.Token.Truncation
import TableSchema.Proofs.Value.Keeping
import TableSchema.Proofs.Value.Lexemes
import TableSchema.Proofs.Value.Reading
import TableSchema.Reflection
import TableSchema.Row.Attribute
import TableSchema.Row.Model
import TableSchema.Row.Sharing
import TableSchema.Row.Type
import TableSchema.Row.Validation
import TableSchema.Schema
import TableSchema.Schema.Printer
import TableSchema.Service
import TableSchema.Service.CrossOrigin
import TableSchema.Service.Request
import TableSchema.Settings
import TableSchema.Text.Blank
import TableSchema.Text.CodeMap
import TableSchema.Text.CodeRange
import TableSchema.Text.CombiningClass
import TableSchema.Text.Composed
import TableSchema.Text.Composition
import TableSchema.Text.Digit
import TableSchema.Text.Identifier
import TableSchema.Text.LowerCase
import TableSchema.Text.Mark
import TableSchema.Text.Octets
import TableSchema.Text.Printable
import TableSchema.Text.Quoted
import TableSchema.Text.Split
import TableSchema.Text.Word
import TableSchema.Token
import TableSchema.Value
import TableSchema.Value.Inspection
import TableSchema.Value.Literal
import TableSchema.Value.Numeral
