import DocScribe.Backend.Basic
import DocScribe.Backend.Completion
import DocScribe.Backend.Config
import DocScribe.Backend.Fault
import DocScribe.Backend.Hosted
import DocScribe.Backend.Local
import DocScribe.CommandLine.Basic
import DocScribe.CommandLine.Check
import DocScribe.CommandLine.Choices
import DocScribe.CommandLine.Commands
import DocScribe.CommandLine.Generate
import DocScribe.CommandLine.Options
import DocScribe.CommandLine.Request
import DocScribe.CommandLine.Run
import DocScribe.CommandLine.Stop
import DocScribe.CommandLine.Usage
import DocScribe.Decimal.Double
import DocScribe.Decimal.Notation
import DocScribe.Decimal.Shortest
import DocScribe.Discovery
import DocScribe.Document.Archive
import DocScribe.Document.Block
import DocScribe.Document.Format
import DocScribe.Document.Html
import DocScribe.Document.Markdown
import DocScribe.Document.Publication
import DocScribe.Document.Rendering
import DocScribe.Document.Timestamp
import DocScribe.Exclusion.Glob
import DocScribe.Exclusion.Pattern
import DocScribe.Generation.Batch
import DocScribe.Generation.Cause
import DocScribe.Generation.Generator
import DocScribe.Generation.Provider
import DocScribe.Generation.Turns
import DocScribe.Json.Basic
import DocScribe.Json.Display
import DocScribe.Json.Reader
import DocScribe.Json.Writer
import DocScribe.Language
import DocScribe.Literal.CharacterNames
import DocScribe.Literal.Flaw
import DocScribe.Literal.Grammar
import DocScribe.Literal.Parse
import DocScribe.Literal.Quotation
import DocScribe.Literal.Scan
import DocScribe.Literal.Tree
import DocScribe.Literal.Value
import DocScribe.Log
import DocScribe.Main
import DocScribe.Pairs
import DocScribe.Path
import DocScribe.Prompt
import DocScribe.Record.Basic
import DocScribe.Record.Change
import DocScribe.Record.Field
import DocScribe.Record.Label
import DocScribe.Record.Reader
import DocScribe.Record.Writer
import DocScribe.Reply
import DocScribe.Schema
import DocScribe.Settings.Basic
import DocScribe.Settings.Dotfile
import DocScribe.Settings.Fault
import DocScribe.Settings.File
import DocScribe.Settings.Loading
import DocScribe.Settings.Lookup
import DocScribe.Settings.Words
import DocScribe.Settings.Words.Flaw
import DocScribe.Settings.Words.Items
import DocScribe.Settings.Words.Manner
import DocScribe.Settings.Words.Reading
import DocScribe.Terminal.Basic
import DocScribe.Terminal.ColorTable
import DocScribe.Terminal.Control
import DocScribe.Terminal.Emoji
import DocScribe.Terminal.EmojiTable
import DocScribe.Terminal.Handler
import DocScribe.Terminal.Markup
import DocScribe.Terminal.Plain
import DocScribe.Terminal.Style
import DocScribe.Text.Basic
import DocScribe.Text.Blank
import DocScribe.Text.CaseTable
import DocScribe.Text.CodePage
import DocScribe.Text.Encoding
import DocScribe.Text.HiddenTable
import DocScribe.Text.LetterCase
import DocScribe.Text.Numeral
import DocScribe.Text.Quoted
import DocScribe.Text.Utf8
import DocScribe.Text.Word
import DocScribe.Text.WordTable
import DocScribe.Toml.Basic
import DocScribe.Toml.Document
import DocScribe.Toml.Reader
import DocScribe.Toml.Scalar
import DocScribe.Validation.Checked
import DocScribe.Validation.Issue
import DocScribe.Validation.Lax
import DocScribe.Validation.Spelled
import DocScribe.Workspace.Basic
import DocScribe.Workspace.Fault
import DocScribe.Workspace.FileName
import DocScribe.Workspace.Tree
import DocScribe.Proofs.Json.Grammar
import DocScribe.Proofs.Json.Reading
import DocScribe.Proofs.Json.Writing
import DocScribe.Proofs.Json.Wholeness
import DocScribe.Proofs.Record.Settling
import DocScribe.Proofs.Record.Acceptance
import DocScribe.Proofs.Record.Forms
import DocScribe.Proofs.Record.Shown
import DocScribe.Proofs.Record.Legibility
import DocScribe.Proofs.Document.RoundTrip
import DocScribe.Proofs.Document.Tags
import DocScribe.Proofs.Document.Parts
import DocScribe.Proofs.Document.Nesting
import DocScribe.Proofs.Document.Outline
import DocScribe.Proofs.Document.HtmlTags
import DocScribe.Proofs.Leniency
import DocScribe.Proofs.Extraction
import DocScribe.Proofs.Generation.Provision
import DocScribe.Proofs.Generation.Positions
import DocScribe.Proofs.Generation.Schedules
import DocScribe.Proofs.Generation.Turns
import DocScribe.Proofs.Generation.Overlap
import DocScribe.Proofs.Generation.Requests
import DocScribe.Proofs.Generation.Breakdowns
import DocScribe.Proofs.Json.Truncation
import DocScribe.Proofs.Truncation
import DocScribe.Proofs.Limits
import DocScribe.Proofs.Document.Content
import DocScribe.Proofs.Document.Delimiters
import DocScribe.Proofs.Document.Interleaving
import DocScribe.Proofs.Terminal.Showing
import DocScribe.Proofs.CommandLine.Steps
import DocScribe.Proofs.Generation.Prompts
import DocScribe.Proofs.Workspace.Writing
import DocScribe.Proofs.CommandLine.Discovering
import DocScribe.Proofs.CommandLine.Outcome
import DocScribe.Proofs.Settings.Sources
import DocScribe.Proofs.Settings.Precedence
import DocScribe.Proofs.Text.Trimming
import DocScribe.Proofs.Text.Utf8
import DocScribe.Proofs.Exclusion.Matching
import DocScribe.Proofs.Exclusion.HiddenFolders
import DocScribe.Proofs.CommandLine.Credentials
import DocScribe.Proofs.Json.Strings
import DocScribe.Proofs.Record.Wholeness
import DocScribe.Proofs.Document.Wholeness
import DocScribe.Proofs.Document.Encoding
import DocScribe.Proofs.Workspace.Reading
import DocScribe.Proofs.Settings.Shapes
import DocScribe.Proofs.Settings.Finding
import DocScribe.Proofs.Settings.Faults
import DocScribe.Proofs.CommandLine.Reporting
import DocScribe.Proofs.Json.Consumption
import DocScribe.Proofs.Payload
import DocScribe.Proofs.Document.Loading
import DocScribe.Proofs.CommandLine.Rerendering
import DocScribe.Proofs.Backend.Answers
import DocScribe.Proofs.Backend.Completing
import DocScribe.Proofs.CommandLine.Emitting
import DocScribe.Proofs.CommandLine.StandardOutput
import DocScribe.Proofs.Document.ReadingCode
import DocScribe.Proofs.Workspace.Places
import DocScribe.Proofs.Paths
import DocScribe.Proofs.Exclusion.SourceFiles
import DocScribe.Proofs.Record.Noise
import DocScribe.Proofs.Sections
import DocScribe.Proofs.Json.Objects
import DocScribe.Proofs.Noise
import DocScribe.Proofs.Document.Headings
import DocScribe.Proofs.SourceLabels
import DocScribe.Proofs.Prompt
import DocScribe.Proofs.Document.Calendar
import DocScribe.Proofs.Document.Timestamps
import DocScribe.Proofs.Schema.Describing
import DocScribe.Proofs.Schema.Occurrences
import DocScribe.Proofs.Decimal.Rounding
import DocScribe.Proofs.Json.Bounds
import DocScribe.Proofs.Json.Doubles
import DocScribe.Proofs.Json.RoundTrip
import DocScribe.Proofs.Record.Leaves
import DocScribe.Proofs.Mistyped
import DocScribe.Proofs.Terminal.Quietness
import DocScribe.Proofs.Document.FileNames
import DocScribe.Proofs.FileLanguage
import DocScribe.Proofs.CommandLine.Quiet
