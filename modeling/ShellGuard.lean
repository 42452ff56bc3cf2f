import ShellGuard.CommandLine.Execution
import ShellGuard.CommandLine.Grammar
import ShellGuard.CommandLine.Overlay
import ShellGuard.CommandLine.Request
import ShellGuard.CommandLine.Summary
import ShellGuard.ConfigError
import ShellGuard.Edit
import ShellGuard.Escaping
import ShellGuard.Failure
import ShellGuard.Guard
import ShellGuard.Json.Basic
import ShellGuard.Json.Codec
import ShellGuard.Json.Decode
import ShellGuard.Json.Reader
import ShellGuard.Logging
import ShellGuard.Main
import ShellGuard.Neutralizing
import ShellGuard.Policy.Basic
import ShellGuard.Policy.Document
import ShellGuard.Policy.Reporting
import ShellGuard.Policy.Source
import ShellGuard.Quoting
import ShellGuard.Record
import ShellGuard.Regex.Compile
import ShellGuard.Regex.Expr
import ShellGuard.Regex.Meaning
import ShellGuard.Regex.Program
import ShellGuard.Regex.Reader
import ShellGuard.Regex.Search
import ShellGuard.Regex.Size
import ShellGuard.Regex.Syntax
import ShellGuard.Report
import ShellGuard.Run
import ShellGuard.Scrubbing.Convention
import ShellGuard.Scrubbing.Marker
import ShellGuard.Scrubbing.PatternRule
import ShellGuard.Scrubbing.Scrubber
import ShellGuard.Shell.Character
import ShellGuard.Shell.Expansion
import ShellGuard.System.Account
import ShellGuard.System.EnvironmentFile
import ShellGuard.System.FileTree
import ShellGuard.System.Path
import ShellGuard.System.World
import ShellGuard.Text.Basic
import ShellGuard.Text.Utf8
import ShellGuard.Text.Visible
import ShellGuard.Transform
import ShellGuard.Unicode.Age
import ShellGuard.Unicode.CaseFolding
import ShellGuard.Unicode.Category
import ShellGuard.Unicode.CharSet
import ShellGuard.Unicode.Named
import ShellGuard.Unicode.Property
import ShellGuard.Unicode.Script
import ShellGuard.Unicode.ScriptExtension
import ShellGuard.Yaml.Decode
import ShellGuard.Yaml.Fault
import ShellGuard.Yaml.Node
import ShellGuard.Yaml.Place
import ShellGuard.Yaml.Scalar
import ShellGuard.Yaml.Tag
import ShellGuard.Yaml.Token
import ShellGuard.Proofs.CommandLine.Agreement
import ShellGuard.Proofs.CommandLine.Delivery
import ShellGuard.Proofs.CommandLine.Failures
import ShellGuard.Proofs.CommandLine.Forgery
import ShellGuard.Proofs.CommandLine.HandOver
import ShellGuard.Proofs.CommandLine.JsonLines
import ShellGuard.Proofs.CommandLine.Publishing
import ShellGuard.Proofs.CommandLine.Summaries
import ShellGuard.Proofs.CommandLine.Switches
import ShellGuard.Proofs.Altered
import ShellGuard.Proofs.Balance
import ShellGuard.Proofs.Counting
import ShellGuard.Proofs.Json.Documents
import ShellGuard.Proofs.Json.Forms
import ShellGuard.Proofs.Json.Literals
import ShellGuard.Proofs.Reporting.Commands
import ShellGuard.Proofs.Reporting.Features
import ShellGuard.Proofs.Reporting.Guarding
import ShellGuard.Proofs.Reporting.Shielded
import ShellGuard.Proofs.Runs
import ShellGuard.Proofs.Lists
import ShellGuard.Proofs.Text.CodeRanges
import ShellGuard.Proofs.Text.Octets
import ShellGuard.Proofs.Text.VisibleForms
import ShellGuard.Proofs.Tallies
import ShellGuard.Proofs.System.Files
import ShellGuard.Proofs.Scrubbing.Acceptance
import ShellGuard.Proofs.Scrubbing.Edits
import ShellGuard.Proofs.Scrubbing.Protection
import ShellGuard.Proofs.Scrubbing.Stretches
import ShellGuard.Proofs.Scrubbing.OnePass
import ShellGuard.Proofs.Scrubbing.Pass
import ShellGuard.Proofs.Scrubbing.FixedPoint
import ShellGuard.Proofs.Scrubbing.Mirror
import ShellGuard.Proofs.Shell.EscapedWords
import ShellGuard.Proofs.Shell.ExpansionSizes
import ShellGuard.Proofs.Shell.Glyphs
import ShellGuard.Proofs.Shell.Neutralized
import ShellGuard.Proofs.Scrubbing.Comments
import ShellGuard.Proofs.Shell.QuotedWords
import ShellGuard.Proofs.Scrubbing.Joining
import ShellGuard.Proofs.Transforms
import ShellGuard.Proofs.Scrubbing.SecondPass
import ShellGuard.Proofs.Scrubbing.PatternLiterals
import ShellGuard.Proofs.Scrubbing.Replacement
import ShellGuard.Proofs.Policy.Choosing
import ShellGuard.Proofs.Policy.Overlays
