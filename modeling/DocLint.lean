import DocLint.Changelog.Entry
import DocLint.Changelog.Write
import DocLint.Check.Admonition
import DocLint.Check.Docstring
import DocLint.Check.Issue
import DocLint.Check.Order
import DocLint.Check.Parentheses
import DocLint.Check.Presence
import DocLint.Check.Undefined
import DocLint.CommandLine.Arguments
import DocLint.CommandLine.Examples
import DocLint.CommandLine.Help
import DocLint.CommandLine.Run
import DocLint.Config.Fault
import DocLint.Config.Parse
import DocLint.Config.Rules
import DocLint.Config.Spec
import DocLint.Diagnosis
import DocLint.Docstring.Clean
import DocLint.Docstring.Header
import DocLint.Entries
import DocLint.Main
import DocLint.Number.Double
import DocLint.Number.Shortest
import DocLint.Params.Check
import DocLint.Params.Documented
import DocLint.Params.Mismatch
import DocLint.Params.Types
import DocLint.Proofs.Check.Docstring
import DocLint.Proofs.Check.Order
import DocLint.Proofs.Check.Parentheses
import DocLint.Proofs.Check.Required
import DocLint.Proofs.Check.Template
import DocLint.Proofs.CommandLine.Verdict
import DocLint.Proofs.Config.Fault
import DocLint.Proofs.Config.Rules
import DocLint.Proofs.Entries
import DocLint.Proofs.Params.Acceptance
import DocLint.Proofs.Params.Agreement
import DocLint.Proofs.Params.Defaults
import DocLint.Proofs.Params.Documentable
import DocLint.Proofs.Params.Mismatch
import DocLint.Proofs.Params.Reading
import DocLint.Proofs.Params.Roundtrip
import DocLint.Proofs.Params.Types
import DocLint.Proofs.Report.Quotes
import DocLint.Proofs.Report.Separator
import DocLint.Proofs.Rules.Relaxation
import DocLint.Proofs.Source.Items
import DocLint.Proofs.Text.Basic
import DocLint.Proofs.Text.Pattern
import DocLint.Proofs.Workspace.Check
import DocLint.Proofs.Workspace.Directory
import DocLint.Proofs.Workspace.Path
import DocLint.Report.Message
import DocLint.Report.Output
import DocLint.Report.Plain
import DocLint.Rules.Basic
import DocLint.Schema.Generate
import DocLint.Schema.Json
import DocLint.Schema.Write
import DocLint.Source.Item
import DocLint.Source.Module
import DocLint.Syntax.Expr
import DocLint.Syntax.Grammar.Basic
import DocLint.Syntax.Grammar.Expression
import DocLint.Syntax.Grammar.Parameters
import DocLint.Syntax.Grammar.Pattern
import DocLint.Syntax.Grammar.Statement
import DocLint.Syntax.Lexer
import DocLint.Syntax.Literal
import DocLint.Syntax.Numeral
import DocLint.Syntax.Printer
import DocLint.Syntax.Token
import DocLint.Syntax.Tree
import DocLint.Tasks.Catalog
import DocLint.Tasks.Files
import DocLint.Tasks.Process
import DocLint.Tasks.Run
import DocLint.Tasks.Step
import DocLint.Text.Basic
import DocLint.Text.Case
import DocLint.Text.Class
import DocLint.Text.Named
import DocLint.Text.Normal
import DocLint.Text.Pattern
import DocLint.Text.Quoted
import DocLint.Text.Table.Case
import DocLint.Text.Table.Identifier
import DocLint.Text.Table.Names.Alias
import DocLint.Text.Table.Names.From0000
import DocLint.Text.Table.Names.From0700
import DocLint.Text.Table.Names.From1000
import DocLint.Text.Table.Names.From10000
import DocLint.Text.Table.Names.From12000
import DocLint.Text.Table.Names.From16000
import DocLint.Text.Table.Names.From1D000
import DocLint.Text.Table.Names.From1F000
import DocLint.Text.Table.Names.From2000
import DocLint.Text.Table.Names.From2C00
import DocLint.Text.Table.Normal
import DocLint.Text.Table.Unprintable
import DocLint.Text.Table.Word
import DocLint.Text.Utf8
import DocLint.Text.Wildcard
import DocLint.Toml.Document
import DocLint.Toml.Scalar
import DocLint.Value.Basic
import DocLint.Value.Order
import DocLint.Value.Show
import DocLint.Workspace.Check
import DocLint.Workspace.Configuration
import DocLint.Workspace.Path
import DocLint.Workspace.Tree
import DocLint.Proofs.Workspace.Exclusion
import DocLint.Proofs.CommandLine.Paths
import DocLint.Proofs.Config.Sections
import DocLint.Proofs.Check.Descent
import DocLint.Proofs.Config.Roundtrip
import DocLint.Proofs.Config.Orders
import DocLint.Proofs.Workspace.Discovery
import DocLint.Proofs.Value.Comparable
import DocLint.Proofs.Config.Escape
import DocLint.Proofs.Check.Admonition
import DocLint.Proofs.Check.Undefined
import DocLint.Proofs.Check.Floating
import DocLint.Proofs.Check.Heading
import DocLint.Proofs.Check.Presence
import DocLint.Proofs.Report.Summary
import DocLint.Proofs.Report.Markup
import DocLint.Proofs.CommandLine.Start
import DocLint.Proofs.Changelog.Periods
import DocLint.Proofs.Changelog.Layout
import DocLint.Proofs.Tasks.Action
import DocLint.Proofs.Tasks.Formatting
import DocLint.Proofs.Tasks.Arguments
import DocLint.Proofs.Tasks.CommandLine
import DocLint.Proofs.Tasks.Files
