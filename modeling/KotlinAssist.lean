import KotlinAssist.CodeAction
import KotlinAssist.Completion
import KotlinAssist.Config
import KotlinAssist.Declaration
import KotlinAssist.Diagnostic
import KotlinAssist.Documentation
import KotlinAssist.Encoding
import KotlinAssist.Fold
import KotlinAssist.Format
import KotlinAssist.Grammar.Head
import KotlinAssist.Grammar.Import
import KotlinAssist.Grammar.Literal
import KotlinAssist.Grammar.Modifier
import KotlinAssist.Grammar.Named
import KotlinAssist.Grammar.Scan
import KotlinAssist.Highlight.Comment
import KotlinAssist.Highlight.Scan
import KotlinAssist.Highlight.Token
import KotlinAssist.Hover
import KotlinAssist.Identifier
import KotlinAssist.Json
import KotlinAssist.Json.Printer
import KotlinAssist.Json.Reader
import KotlinAssist.Main
import KotlinAssist.Number.Decimal
import KotlinAssist.Number.Double
import KotlinAssist.Position
import KotlinAssist.Proofs.Diagnostic.Ranges
import KotlinAssist.Proofs.Edit
import KotlinAssist.Proofs.Highlight.Order
import KotlinAssist.Proofs.Rename
import KotlinAssist.Proofs.Run
import KotlinAssist.Proofs.Server.Conversion
import KotlinAssist.Proofs.Server.EncodingIndependence
import KotlinAssist.Proofs.Session.Run
import KotlinAssist.Proofs.Session.SwitchedOff
import KotlinAssist.Proofs.Session.TextMap
import KotlinAssist.Proofs.Session.Versions
import KotlinAssist.Proofs.Store.Capacity
import KotlinAssist.Proofs.Store.Eviction
import KotlinAssist.Proofs.Store.Lookup
import KotlinAssist.Proofs.Store.Recency
import KotlinAssist.Proofs.Store.Run
import KotlinAssist.Proofs.Text.Lines
import KotlinAssist.Proofs.Text.Search
import KotlinAssist.Proofs.Word.Document
import KotlinAssist.Proofs.Word.Line
import KotlinAssist.Protocol.Capabilities
import KotlinAssist.Protocol.Message
import KotlinAssist.Protocol.Schema.Client
import KotlinAssist.Protocol.Schema.Params
import KotlinAssist.Protocol.Schema.Unoffered
import KotlinAssist.Protocol.Schema.Value
import KotlinAssist.Protocol.Shape
import KotlinAssist.Protocol.Wire
import KotlinAssist.Reference
import KotlinAssist.Rename
import KotlinAssist.Server.Basic
import KotlinAssist.Server.Envelope
import KotlinAssist.Server.Query
import KotlinAssist.Server.Session
import KotlinAssist.Store
import KotlinAssist.Symbol
import KotlinAssist.Text.Alphabetic
import KotlinAssist.Text.Blank
import KotlinAssist.Text.Case
import KotlinAssist.Text.CaseTable
import KotlinAssist.Text.CodeRanges
import KotlinAssist.Text.Edition
import KotlinAssist.Text.Line
import KotlinAssist.Text.Numeric
import KotlinAssist.Text.Quoted
import KotlinAssist.Text.Span
import KotlinAssist.Text.Units
import KotlinAssist.Text.Unprintable
import KotlinAssist.Text.WordChar
import KotlinAssist.Vocabulary
import KotlinAssist.Proofs.Highlight.Differences
import KotlinAssist.Proofs.Highlight.Stream
import KotlinAssist.Proofs.Word.Definition
import KotlinAssist.Proofs.Grammar.TypeClause
import KotlinAssist.Proofs.Grammar.Writing
import KotlinAssist.Proofs.Signature
import KotlinAssist.Proofs.Format.Tidied
import KotlinAssist.Proofs.Format.Edit
import KotlinAssist.Proofs.Grammar.Import
import KotlinAssist.Proofs.Format.Trailing
import KotlinAssist.Proofs.Fold.Braces
import KotlinAssist.Proofs.Format.Analyses
import KotlinAssist.Proofs.Grammar.Named
import KotlinAssist.Proofs.Word.Navigation
import KotlinAssist.Proofs.Grammar.Introducer
import KotlinAssist.Proofs.Diagnostic.Findings
import KotlinAssist.Proofs.QuickFix
import KotlinAssist.Proofs.Fold.Functions
import KotlinAssist.Proofs.Server.OutsideDocument
import KotlinAssist.Proofs.Completion
import KotlinAssist.Proofs.Highlight.Comments
import KotlinAssist.Proofs.Fold.Reading
import KotlinAssist.Proofs.Fold.Comments
import KotlinAssist.Proofs.Sorting
import KotlinAssist.Proofs.Fold.Ranges
import KotlinAssist.Proofs.Highlight.Placement
import KotlinAssist.Proofs.Highlight.Lexer
import KotlinAssist.Proofs.Highlight.Turns
import KotlinAssist.Proofs.Grammar.Literal
import KotlinAssist.Proofs.Highlight.Shadow
import KotlinAssist.Proofs.Fold.Matching
import KotlinAssist.Proofs.Diagnostic.Unmatched
import KotlinAssist.Proofs.Highlight.Declared
import KotlinAssist.Proofs.Grammar.Marker
import KotlinAssist.Proofs.Word.Name
import KotlinAssist.Proofs.Outline
import KotlinAssist.Proofs.Diagnostic.Imports
import KotlinAssist.Proofs.Documentation.Block
import KotlinAssist.Proofs.Documentation.Body
import KotlinAssist.Proofs.Store.Counting
import KotlinAssist.Proofs.Text.Numeral
import KotlinAssist.Proofs.Completion.SortText
import KotlinAssist.Proofs.Fold.Runs
import KotlinAssist.Proofs.Text.Lowercase
import KotlinAssist.Proofs.Symbol
import KotlinAssist.Proofs.Encoding.Rounding
import KotlinAssist.Proofs.Text.Bytes
