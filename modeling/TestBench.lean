import TestBench.Command.Basic
import TestBench.Command.Dispatch
import TestBench.Command.Input
import TestBench.Command.Options
import TestBench.Config.Basic
import TestBench.Decimal.Binary64
import TestBench.Decimal.Shortest
import TestBench.Error
import TestBench.Files.Disk
import TestBench.Files.Path
import TestBench.Json.Basic
import TestBench.Json.Printer
import TestBench.Json.Reader
import TestBench.Json.Record
import TestBench.Json.Skip
import TestBench.Main
import TestBench.Outcome.Console
import TestBench.Outcome.ConsoleLine
import TestBench.Outcome.Normalize
import TestBench.Outcome.Result
import TestBench.Outcome.Structured
import TestBench.Program.Api
import TestBench.Program.Browser
import TestBench.Program.Compile
import TestBench.Program.Source
import TestBench.Program.Titles
import TestBench.Report.Basic
import TestBench.Report.Form
import TestBench.Report.Junit
import TestBench.Report.Screen
import TestBench.Run.Action
import TestBench.Run.Basic
import TestBench.Run.Launch
import TestBench.Run.Options
import TestBench.Run.Session
import TestBench.Scenario.Address
import TestBench.Scenario.Draft
import TestBench.Scenario.Form
import TestBench.Scenario.Model
import TestBench.Scenario.Validate
import TestBench.Script.Basic
import TestBench.Script.Shell
import TestBench.Script.Syntax
import TestBench.Script.Tools
import TestBench.Text.Ansi
import TestBench.Text.Basic
import TestBench.Text.Capital
import TestBench.Text.Ranges
import TestBench.Text.Utf8
import TestBench.Text.Visible
import TestBench.Text.Word
import TestBench.Toml.Basic
import TestBench.Toml.Reader
import TestBench.Toml.Scalar
import TestBench.Xml
import TestBench.Yaml.Node
import TestBench.Yaml.Scalar
import TestBench.Yaml.Token
import TestBench.Yaml.Value
import TestBench.Proofs.Text.Shape
import TestBench.Proofs.Outcome.LineShape
import TestBench.Proofs.Outcome.Tiers
import TestBench.Proofs.Outcome.BlockFrame
import TestBench.Proofs.Json.NumberText
import TestBench.Proofs.Program.Literals
import TestBench.Proofs.Program.Values
import TestBench.Proofs.Json.Order
import TestBench.Proofs.Program.Skeleton
import TestBench.Proofs.Program.BrowserText
import TestBench.Proofs.Program.ApiText
import TestBench.Proofs.Program.Structure
import TestBench.Proofs.Program.Lines
import TestBench.Proofs.Program.Faithful
import TestBench.Proofs.Except
import TestBench.Proofs.Json.Lookup
import TestBench.Proofs.Json.Nesting
import TestBench.Proofs.Text.Basic
import TestBench.Proofs.Json.ReadNumber
import TestBench.Proofs.Json.ReadBack
import TestBench.Proofs.Decimal.Rounding
import TestBench.Proofs.Decimal.Shortest
import TestBench.Proofs.Json.ReadReal
import TestBench.Proofs.Json.Reread
import TestBench.Proofs.Scenario.Numbered
import TestBench.Proofs.Text.Trim
import TestBench.Proofs.Scenario.Grammar
import TestBench.Proofs.Scenario.StepGrammar
import TestBench.Proofs.Scenario.Acceptance
import TestBench.Proofs.Text.Capital
import TestBench.Proofs.Scenario.Stable
import TestBench.Proofs.Scenario.Reread
import TestBench.Proofs.Command.Load
import TestBench.Proofs.Program.ApiLines
import TestBench.Proofs.Program.ApiFaithful
import TestBench.Proofs.Command.Validated
import TestBench.Proofs.Program.Titles
import TestBench.Proofs.Program.Units
import TestBench.Proofs.Files.Place
import TestBench.Proofs.Files.Entries
import TestBench.Proofs.Files.Tree
import TestBench.Proofs.Run.Action
import TestBench.Proofs.Run.Creation
import TestBench.Proofs.Run.Housed
import TestBench.Proofs.Run.Isolation
import TestBench.Proofs.Run.Launch
import TestBench.Proofs.Command.Shown
import TestBench.Proofs.Text.Ansi
import TestBench.Proofs.Outcome.Colour
import TestBench.Proofs.Outcome.Failures
import TestBench.Proofs.Xml.Grammar
import TestBench.Proofs.Xml.Reader
import TestBench.Proofs.Xml.Escaped
import TestBench.Proofs.Xml.Rendering
import TestBench.Proofs.Report.Document
import TestBench.Proofs.Report.Readout
import TestBench.Proofs.Decimal.Exact
import TestBench.Proofs.Report.Reread
import TestBench.Proofs.Run.Ending
import TestBench.Proofs.Command.Outcome
import TestBench.Proofs.Files.Making
import TestBench.Proofs.Run.Failure
import TestBench.Proofs.Program.Refusal
import TestBench.Proofs.Program.Navigation
import TestBench.Proofs.Outcome.Marks
import TestBench.Proofs.Text.Lines
import TestBench.Proofs.Outcome.Blocks
import TestBench.Proofs.Outcome.Attribution
import TestBench.Proofs.Outcome.IndentedDetail
import TestBench.Proofs.Outcome.Headline
import TestBench.Proofs.Outcome.Counts
import TestBench.Proofs.Outcome.Placeholders
import TestBench.Proofs.Outcome.LegacyCounts
import TestBench.Proofs.Outcome.Entries
import TestBench.Proofs.Outcome.SuiteTree
import TestBench.Proofs.Outcome.MadeUpNames
import TestBench.Proofs.Report.Duration
import TestBench.Proofs.Scenario.Retype
import TestBench.Proofs.Scenario.Editing
import TestBench.Proofs.Scenario.Requests
import TestBench.Proofs.Scenario.Endpoints
import TestBench.Proofs.Json.Pruned
import TestBench.Proofs.Outcome.Absence
import TestBench.Proofs.Program.Brackets
import TestBench.Proofs.Program.Layout
import TestBench.Proofs.Text.Stripping
import TestBench.Proofs.Outcome.Streams
import TestBench.Proofs.Program.Numbering
import TestBench.Proofs.Text.FirstLine
import TestBench.Proofs.Outcome.ErrorParts
