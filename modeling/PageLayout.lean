import PageLayout.Check.Layout
import PageLayout.Check.Report
import PageLayout.Check.Requirement
import PageLayout.Check.Summary
import PageLayout.CommandLine.Arguments
import PageLayout.CommandLine.Error
import PageLayout.CommandLine.Parameter
import PageLayout.CommandLine.Project
import PageLayout.CommandLine.Run
import PageLayout.Compilation.Block
import PageLayout.Compilation.Compiler
import PageLayout.Compilation.Conditional
import PageLayout.Compilation.Directive
import PageLayout.Compilation.File
import PageLayout.Compilation.Store
import PageLayout.Decimal.Binary
import PageLayout.Decimal.Notation
import PageLayout.Decimal.Reader
import PageLayout.Decimal.Shortest
import PageLayout.Error
import PageLayout.Expression.Error
import PageLayout.Expression.Evaluation
import PageLayout.Expression.Evaluator
import PageLayout.Expression.Script
import PageLayout.Expression.Token
import PageLayout.Expression.Tree
import PageLayout.Expression.Value
import PageLayout.Geometry.Range
import PageLayout.Geometry.Rect
import PageLayout.Import.Digest
import PageLayout.Import.Path
import PageLayout.Import.Source
import PageLayout.Import.Trail
import PageLayout.Json.Basic
import PageLayout.Json.Fields
import PageLayout.Json.Layout
import PageLayout.Json.Page
import PageLayout.Json.Reader
import PageLayout.Json.Report
import PageLayout.Json.Writer
import PageLayout.Layout
import PageLayout.Layout.Outline
import PageLayout.Locator
import PageLayout.Main
import PageLayout.Page.Basic
import PageLayout.Page.Snapshot
import PageLayout.Part
import PageLayout.Pattern.Category
import PageLayout.Pattern.Folding
import PageLayout.Pattern.Match
import PageLayout.Pattern.Meaning
import PageLayout.Pattern.Property
import PageLayout.Pattern.Reader
import PageLayout.Pattern.Script
import PageLayout.Pattern.Tree
import PageLayout.Place
import PageLayout.Proofs.Check.Findings
import PageLayout.Proofs.Check.Verdict
import PageLayout.Proofs.Compilation.Opening
import PageLayout.Reading.IndexList
import PageLayout.Reading.Line
import PageLayout.Reading.Template
import PageLayout.Requirement.Basic
import PageLayout.Requirement.Reader
import PageLayout.Settings
import PageLayout.Table
import PageLayout.Text.Blank
import PageLayout.Text.Case
import PageLayout.Text.CodeRanges
import PageLayout.Text.Glob
import PageLayout.Text.Letter
import PageLayout.Yaml.Basic
import PageLayout.Yaml.Reader
import PageLayout.Proofs.Compilation.Paragraph
import PageLayout.Proofs.Compilation.Advance
import PageLayout.Proofs.Compilation.Placement
import PageLayout.Proofs.Compilation.Faithful
import PageLayout.Proofs.Compilation.Run
import PageLayout.Proofs.Compilation.Once
import PageLayout.Proofs.Compilation.Termination
import PageLayout.Proofs.Expression.Grammar
import PageLayout.Proofs.Expression.Spacing
import PageLayout.Proofs.Expression.Value
import PageLayout.Proofs.Requirement.Range
import PageLayout.Proofs.Requirement.Line
import PageLayout.Proofs.Compilation.Directories
import PageLayout.Proofs.Compilation.Growth
import PageLayout.Proofs.Compilation.Parts
import PageLayout.Proofs.Compilation.Order
import PageLayout.Proofs.Check.Component
import PageLayout.Proofs.Check.Warnings
import PageLayout.Proofs.Compilation.Current
import PageLayout.Proofs.Compilation.Shift
import PageLayout.Proofs.Compilation.Commute
import PageLayout.Proofs.Compilation.Isolation
import PageLayout.Proofs.Text.Rows
import PageLayout.Proofs.Compilation.Padding
import PageLayout.Proofs.Check.Plan
import PageLayout.Proofs.Check.Depth
import PageLayout.Proofs.Check.EmptySections
import PageLayout.Proofs.Compilation.Declaration
import PageLayout.Proofs.Compilation.WriteOnce
import PageLayout.Proofs.Layout.Rules
import PageLayout.Proofs.Check.Tags
import PageLayout.Proofs.Compilation.Excerpts
import PageLayout.Proofs.Compilation.Provenance
import PageLayout.Proofs.Compilation.RecordedText
import PageLayout.Proofs.Compilation.Persistence
import PageLayout.Proofs.Compilation.Places
import PageLayout.Proofs.Json.Restoring
import PageLayout.Proofs.Compilation.Filled
import PageLayout.Proofs.Compilation.Alone
import PageLayout.Proofs.Compilation.Repetition
import PageLayout.Proofs.Compilation.Unnumbered
import PageLayout.Proofs.Compilation.WrittenOut
import PageLayout.Proofs.Compilation.Count
import PageLayout.Proofs.Requirement.Blanks
import PageLayout.Proofs.Text.Indexes
import PageLayout.Proofs.Compilation.Group
import PageLayout.Proofs.Pattern.Flags
import PageLayout.Proofs.Pattern.Local
import PageLayout.Proofs.Pattern.Escape
import PageLayout.Proofs.Pattern.Class
import PageLayout.Proofs.Pattern.Group
import PageLayout.Proofs.Pattern.Reading
import PageLayout.Proofs.Pattern.Whole
import PageLayout.Proofs.Pattern.Spans
import PageLayout.Proofs.Pattern.Stars
import PageLayout.Proofs.Reading.Expression
import PageLayout.Proofs.Reading.Reference
import PageLayout.Proofs.Check.Conditions
import PageLayout.Proofs.Text.Separators
import PageLayout.Proofs.Decimal.Literal
import PageLayout.Proofs.Reading.IndexList
import PageLayout.Proofs.Reading.IndexLoop
import PageLayout.Proofs.Reading.Offset
import PageLayout.Proofs.Expression.Slashes
import PageLayout.Proofs.Expression.Script
import PageLayout.Proofs.Reading.Clamped
import PageLayout.Proofs.Decimal.Bits
import PageLayout.Proofs.Decimal.Nearest
import PageLayout.Proofs.Decimal.Plain
import PageLayout.Proofs.Text.Words
import PageLayout.Proofs.Requirement.Location
import PageLayout.Proofs.Compilation.Numbered
import PageLayout.Proofs.Check.Directions
import PageLayout.Proofs.Check.Unmet
import PageLayout.Proofs.Import.Normal
import PageLayout.Proofs.Import.Written
import PageLayout.Proofs.Import.Component
import PageLayout.Proofs.Decimal.NumberWord
import PageLayout.Proofs.Reading.Variable
import PageLayout.Proofs.Compilation.Variables
import PageLayout.Proofs.Compilation.WordVariable
import PageLayout.Proofs.Expression.Position
