import Linting.LineRange
import Linting.Main
import Linting.Scratch
import Linting.Proofs.Regex.Advance
import Linting.Proofs.Regex.Leftmost
import Linting.Proofs.Pattern.Walk
import Linting.Proofs.Pattern.Flags
import Linting.Proofs.Pattern.Sticky
import Linting.Proofs.Search.Transparency
import Linting.Proofs.Regex.Local
import Linting.Proofs.Regex.Quiet
import Linting.Proofs.Regex.Items
import Linting.Proofs.Regex.Layout
import Linting.Proofs.Regex.Heads
import Linting.Proofs.Regex.Reading
import Linting.Proofs.Regex.Turns
import Linting.Proofs.Regex.Sequences
import Linting.Proofs.Pattern.Openers
import Linting.Proofs.Pattern.Interchange
import Linting.Proofs.Diagnostic.Collection
import Linting.Proofs.CommandLine.InvalidPatterns
import Linting.Proofs.Path.Names
import Linting.Proofs.FileTree.Entries
import Linting.Proofs.FileTree.Ways
import Linting.Proofs.FileTree.Additions
import Linting.Proofs.Scratch.FileNames
import Linting.Proofs.Scratch.Restoration
import Linting.Proofs.Scratch.StrictRemoval
import Linting.Proofs.Terminal.Markup
import Linting.Proofs.Console.Table
import Linting.Proofs.Tool.Streams
import Linting.Proofs.Pattern.Interleaving
import Linting.Proofs.Search.Entries
import Linting.Proofs.Stretch
import Linting.Proofs.Json.Grammar
import Linting.Proofs.Json.Written
import Linting.Proofs.Json.Plain
import Linting.Proofs.CommandLine.Report
import Linting.Proofs.Diagnostic.Defaults
import Linting.Proofs.Diagnostic.Calls
import Linting.Proofs.Pattern.Cutting
import Linting.Proofs.Pattern.Letters
import Linting.Proofs.Pattern.Restoring
import Linting.Proofs.Pattern.Rewriting
import Linting.Proofs.Pattern.FlagSet
import Linting.Proofs.Diagnostic.Coordinates
import Linting.Proofs.Buffer.Rows
import Linting.Proofs.Diagnostic.Extraction
import Linting.Proofs.Buffer.Ranges
import Linting.Proofs.Path.Ancestry
import Linting.Proofs.Search.Nearest
import Linting.Proofs.FileTree.Linkless
import Linting.Proofs.Search.Ancestors
import Linting.Proofs.Search.OwnEntry
import Linting.Proofs.FileTree.Descents
import Linting.Proofs.Scratch.Layout
import Linting.Proofs.Scratch.Requests
import Linting.Proofs.Number.Exact
import Linting.Proofs.Text.Boolean
import Linting.Proofs.Settings.Loading
import Linting.Proofs.Settings.FirstUse
import Linting.Proofs.Value.Fields
import Linting.Proofs.Value.Coordinates
import Linting.Proofs.Diagnostic.Options
import Linting.Proofs.Diagnostic.Records
import Linting.Proofs.Tool.Success
import Linting.Proofs.Value.Parts
import Linting.Proofs.Tool.Requests
import Linting.Proofs.Pattern.Records
import Linting.Proofs.CommandLine.Statuses
import Linting.Proofs.Settings.TruthValues
