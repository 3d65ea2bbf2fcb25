import SourceConventions.Analysis
import SourceConventions.Command.Arguments
import SourceConventions.Command.Response
import SourceConventions.Console.Basic
import SourceConventions.Console.Emoji
import SourceConventions.Console.Markup
import SourceConventions.Console.Shortcode
import SourceConventions.Console.Style
import SourceConventions.Facts.Basic
import SourceConventions.Facts.Function
import SourceConventions.Facts.Literal
import SourceConventions.Facts.OfTree
import SourceConventions.Facts.Suppression
import SourceConventions.Facts.Variable
import SourceConventions.FileResult
import SourceConventions.Files.Resolve
import SourceConventions.Files.Source
import SourceConventions.Files.Tree
import SourceConventions.Files.Walk
import SourceConventions.Files.Writing
import SourceConventions.Finding
import SourceConventions.Glob
import SourceConventions.HostMessage
import SourceConventions.Json.Basic
import SourceConventions.Json.Reader
import SourceConventions.Log
import SourceConventions.Main
import SourceConventions.Mishap
import SourceConventions.Name
import SourceConventions.Number.Binary64
import SourceConventions.Number.Shortest
import SourceConventions.Number.Value
import SourceConventions.Octets.Charset
import SourceConventions.Octets.CharsetName
import SourceConventions.Octets.Chinese
import SourceConventions.Octets.CodePage
import SourceConventions.Octets.CodePage.Iso
import SourceConventions.Octets.CodePage.Other
import SourceConventions.Octets.CodePage.Pc
import SourceConventions.Octets.Declaration
import SourceConventions.Octets.Encoding
import SourceConventions.Octets.Grid
import SourceConventions.Octets.Grid.Big5
import SourceConventions.Octets.Grid.Gb2312
import SourceConventions.Octets.Grid.HongKong
import SourceConventions.Octets.Grid.Jis0208
import SourceConventions.Octets.Grid.JisExtension
import SourceConventions.Octets.Grid.Ks1001
import SourceConventions.Octets.HostName
import SourceConventions.Octets.Inverse
import SourceConventions.Octets.Iso2022
import SourceConventions.Octets.Japanese
import SourceConventions.Octets.Korean
import SourceConventions.Octets.Multibyte
import SourceConventions.Octets.Punycode
import SourceConventions.Octets.Sequence
import SourceConventions.Octets.Units
import SourceConventions.Octets.Utf7
import SourceConventions.Octets.Utf8
import SourceConventions.Path.Basic
import SourceConventions.Proofs.Analysis.Acceptance
import SourceConventions.Proofs.Analysis.HostMessage
import SourceConventions.Proofs.Analysis.Independence
import SourceConventions.Proofs.Analysis.Relaxation
import SourceConventions.Proofs.Analysis.Result
import SourceConventions.Proofs.Analysis.Suppression
import SourceConventions.Proofs.Command.Outcome
import SourceConventions.Proofs.Comments.Cutting
import SourceConventions.Proofs.Comments.Layout
import SourceConventions.Proofs.Comments.Lexed
import SourceConventions.Proofs.Comments.Pieces
import SourceConventions.Proofs.Comments.Quoting
import SourceConventions.Proofs.Comments.Scanned
import SourceConventions.Proofs.Comments.Scanning
import SourceConventions.Proofs.Comments.Stepping
import SourceConventions.Proofs.Console.Escaping
import SourceConventions.Proofs.Facts.Definitions
import SourceConventions.Proofs.Facts.Directives
import SourceConventions.Proofs.Facts.Numbers
import SourceConventions.Proofs.Facts.Scopes
import SourceConventions.Proofs.Facts.Suppression
import SourceConventions.Proofs.Facts.Verbs
import SourceConventions.Proofs.Files.Resolving
import SourceConventions.Proofs.Files.Snapshot
import SourceConventions.Proofs.Files.Sources
import SourceConventions.Proofs.Files.Walk
import SourceConventions.Proofs.Files.Writing
import SourceConventions.Proofs.Glob.Matching
import SourceConventions.Proofs.Glob.Sets
import SourceConventions.Proofs.Json.Reading
import SourceConventions.Proofs.Json.Scalar
import SourceConventions.Proofs.Number.Value
import SourceConventions.Proofs.Path.Normal
import SourceConventions.Proofs.Report.Contents
import SourceConventions.Proofs.Report.History
import SourceConventions.Proofs.Report.JsonText
import SourceConventions.Proofs.Report.KeyOrder
import SourceConventions.Proofs.Rules.Constants
import SourceConventions.Proofs.Rules.MagicNumber
import SourceConventions.Proofs.Rules.PublicSurface
import SourceConventions.Proofs.Rules.Scopes
import SourceConventions.Proofs.Rules.Shape
import SourceConventions.Proofs.Rules.Signatures
import SourceConventions.Proofs.Rules.SnakeCase
import SourceConventions.Proofs.Run.Cancellation
import SourceConventions.Proofs.Run.Contribution
import SourceConventions.Proofs.Run.Course
import SourceConventions.Proofs.Run.Death
import SourceConventions.Proofs.Run.Determinism
import SourceConventions.Proofs.Run.FileIndependence
import SourceConventions.Proofs.Run.Independence
import SourceConventions.Proofs.Run.Isolation
import SourceConventions.Proofs.Run.Layout
import SourceConventions.Proofs.Run.Pool
import SourceConventions.Proofs.Run.Report
import SourceConventions.Proofs.Run.RuleTable
import SourceConventions.Proofs.Settings.Discovery
import SourceConventions.Proofs.Settings.Exclusion
import SourceConventions.Proofs.Settings.Reading
import SourceConventions.Proofs.Settings.Severity
import SourceConventions.Proofs.Settings.Validation
import SourceConventions.Proofs.Sorting
import SourceConventions.Proofs.Syntax.Blocking
import SourceConventions.Proofs.Syntax.Enclosing
import SourceConventions.Proofs.Syntax.Indented
import SourceConventions.Proofs.Syntax.Spots
import SourceConventions.Proofs.Syntax.StatementCount
import SourceConventions.Proofs.Text.Casing
import SourceConventions.Proofs.Text.Lines
import SourceConventions.Proofs.Traversal
import SourceConventions.Registry
import SourceConventions.Report.Basic
import SourceConventions.Report.Format
import SourceConventions.Report.Ledger
import SourceConventions.Report.RuleTable
import SourceConventions.Rule
import SourceConventions.Rules.Layout
import SourceConventions.Rules.MagicNumber
import SourceConventions.Rules.Naming
import SourceConventions.Rules.TypeHint
import SourceConventions.Run.Death
import SourceConventions.Run.Execution
import SourceConventions.Run.Inline
import SourceConventions.Run.Pool
import SourceConventions.Run.Progress
import SourceConventions.Run.Task
import SourceConventions.Run.Workers
import SourceConventions.Settings.Basic
import SourceConventions.Settings.File
import SourceConventions.Settings.Load
import SourceConventions.Settings.OfTable
import SourceConventions.Settings.Setting
import SourceConventions.Severity
import SourceConventions.Sorting
import SourceConventions.Syntax.Comment
import SourceConventions.Syntax.Complaint
import SourceConventions.Syntax.Grammar.Call
import SourceConventions.Syntax.Grammar.Display
import SourceConventions.Syntax.Grammar.Expression
import SourceConventions.Syntax.Grammar.Listing
import SourceConventions.Syntax.Grammar.Parameter
import SourceConventions.Syntax.Grammar.Pattern
import SourceConventions.Syntax.Grammar.Statement
import SourceConventions.Syntax.Grammar.Target
import SourceConventions.Syntax.Grammar.TextLiteral
import SourceConventions.Syntax.Head
import SourceConventions.Syntax.Lexing
import SourceConventions.Syntax.Literal
import SourceConventions.Syntax.Misuse
import SourceConventions.Syntax.Place
import SourceConventions.Syntax.Program
import SourceConventions.Syntax.Reading
import SourceConventions.Syntax.StatementCount
import SourceConventions.Syntax.Token
import SourceConventions.Syntax.Tree
import SourceConventions.Syntax.Written
import SourceConventions.Text.Blank
import SourceConventions.Text.Casing
import SourceConventions.Text.CharName
import SourceConventions.Text.CharName.Alphabet
import SourceConventions.Text.CharName.EastAsian
import SourceConventions.Text.CharName.Further
import SourceConventions.Text.CharName.Historic
import SourceConventions.Text.CharName.Pictogram
import SourceConventions.Text.CharName.Symbol
import SourceConventions.Text.Escape
import SourceConventions.Text.Hangul
import SourceConventions.Text.Identifier
import SourceConventions.Text.Margin
import SourceConventions.Text.Printable
import SourceConventions.Text.Quoted
import SourceConventions.Text.Ranges
import SourceConventions.Text.Table
import SourceConventions.Text.Width
import SourceConventions.Toml.Complaint
import SourceConventions.Toml.Document
import SourceConventions.Toml.Scalar
import SourceConventions.Toml.Scan
import SourceConventions.Toml.Value
