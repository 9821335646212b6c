import PageLang.Action.Error
import PageLang.Action.Evaluation
import PageLang.Action.Table
import PageLang.Artifact
import PageLang.Browser.Script
import PageLang.Cli.Arguments
import PageLang.Cli.Command
import PageLang.Cli.Config
import PageLang.Cli.Folder
import PageLang.Cli.Help
import PageLang.Cli.Host
import PageLang.Cli.Path
import PageLang.Cli.Target
import PageLang.Component.Binding
import PageLang.Component.Expansion
import PageLang.Component.Registry
import PageLang.Decimal.Format
import PageLang.Decimal.Reader
import PageLang.Decimal.Remainder
import PageLang.Decimal.Shortest
import PageLang.Diagnostic
import PageLang.Document.Frame
import PageLang.Document.Line
import PageLang.Document.Parser
import PageLang.Expr.Basic
import PageLang.Expr.Data
import PageLang.Expr.Parser
import PageLang.Json.Basic
import PageLang.Json.Draft
import PageLang.Json.Fields
import PageLang.Json.Printer
import PageLang.Json.Reader
import PageLang.Main
import PageLang.Markup.Element
import PageLang.Markup.Escape
import PageLang.Markup.Layout
import PageLang.Markup.Marker
import PageLang.Markup.Style
import PageLang.Markup.Url
import PageLang.Node
import PageLang.Node.Data
import PageLang.OrderedMap
import PageLang.Page
import PageLang.ParseError
import PageLang.Proofs.Document.Lines
import PageLang.Proofs.Document.Forest
import PageLang.Proofs.Document.Entry
import PageLang.Proofs.Document.Block
import PageLang.Proofs.Document.Outline
import PageLang.Proofs.Document.Parsing
import PageLang.Proofs.Document.Structure
import PageLang.Proofs.Expr.Completeness
import PageLang.Proofs.Expr.Grammar
import PageLang.Proofs.Expr.Language
import PageLang.Proofs.Expr.Soundness
import PageLang.Proofs.Markup.Text
import PageLang.Proofs.Template.Direct
import PageLang.Proofs.Template.Frame
import PageLang.Proofs.Template.WellFormed
import PageLang.Proofs.Template.Writing
import PageLang.Properties
import PageLang.Report
import PageLang.Session
import PageLang.StateTable
import PageLang.Template
import PageLang.Template.Builder
import PageLang.Template.Data
import PageLang.Template.Lowering
import PageLang.Text.Blank
import PageLang.Text.CaseMap
import PageLang.Text.Columns
import PageLang.Text.Letter
import PageLang.Text.Quoted
import PageLang.Text.Ranges
import PageLang.Text.Search
import PageLang.Text.Visible
import PageLang.Token
import PageLang.Value
import PageLang.Proofs.Component.Activation
import PageLang.Proofs.Expr.Height
import PageLang.Proofs.Component.Recursion
import PageLang.Proofs.Component.Complete
import PageLang.Proofs.Action.Outcome
import PageLang.Proofs.Template.Entries
import PageLang.Proofs.Session.Checking
import PageLang.Proofs.Session.Rollback
import PageLang.Proofs.Component.Content
import PageLang.Proofs.Template.Address
import PageLang.Proofs.Template.Fixed
import PageLang.Proofs.Session.Compiled
import PageLang.Proofs.Action.Footprint
import PageLang.Proofs.Component.Substitution
import PageLang.Proofs.Json.Numeral
import PageLang.Proofs.Json.Text
import PageLang.Proofs.Json.Shape
import PageLang.Proofs.Expr.Data
import PageLang.Proofs.Template.Data
import PageLang.Proofs.Node.Data
import PageLang.Proofs.Json.Lossless
import PageLang.Proofs.Artifact.Island
import PageLang.Proofs.Text.Trim
import PageLang.Proofs.Properties.Scan
import PageLang.Proofs.Properties.Listing
import PageLang.Proofs.Expr.Balanced
import PageLang.Proofs.Document.ActionLine
import PageLang.Proofs.Document.StateName
import PageLang.Proofs.Node.Renumbering
import PageLang.Proofs.Document.Moving
import PageLang.Proofs.Document.Joining
import PageLang.Proofs.Component.Renumbering
import PageLang.Proofs.Page.Library
import PageLang.Proofs.Document.Misplaced
import PageLang.Proofs.Document.Position
import PageLang.Proofs.Document.Refusal
import PageLang.Proofs.Component.Repeatable
import PageLang.Proofs.Component.Slots
import PageLang.Proofs.Document.Quotes
import PageLang.Proofs.Token.Lexing
import PageLang.Proofs.Expr.Literal
import PageLang.Proofs.Action.Sequence
import PageLang.Proofs.Document.Layout
import PageLang.Proofs.State.Declared
import PageLang.Proofs.Template.Building
import PageLang.Proofs.Template.Walk
import PageLang.Proofs.Template.Spacing
import PageLang.Proofs.Document.Reserved
import PageLang.Proofs.Text.Bytes
import PageLang.Proofs.Properties.Pieces
import PageLang.Proofs.Report.Underline
import PageLang.Proofs.Document.Findings
import PageLang.Proofs.Document.Title
