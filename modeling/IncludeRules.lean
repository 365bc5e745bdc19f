import IncludeRules.Command.Convert
import IncludeRules.Command.Dispatch
import IncludeRules.Command.Generate
import IncludeRules.Command.Show
import IncludeRules.CommandLine.Grammar
import IncludeRules.CommandLine.Help
import IncludeRules.CommandLine.Parse
import IncludeRules.CommandLine.Similarity
import IncludeRules.Config.Basic
import IncludeRules.Config.Listing
import IncludeRules.Config.Read
import IncludeRules.Disk.Basic
import IncludeRules.Disk.FileSystem
import IncludeRules.Environment.Basic
import IncludeRules.Environment.File
import IncludeRules.Failure
import IncludeRules.Json.Basic
import IncludeRules.Json.Print
import IncludeRules.Main
import IncludeRules.Mismatch
import IncludeRules.Moment
import IncludeRules.Number.Binary64
import IncludeRules.Number.Print
import IncludeRules.Number.Shortest
import IncludeRules.Octets
import IncludeRules.Path.Basic
import IncludeRules.Path.Normal
import IncludeRules.Pattern.Basic
import IncludeRules.Pattern.Match
import IncludeRules.Program
import IncludeRules.Proofs.CommandLine.ReadBack
import IncludeRules.Proofs.CommandLine.Written
import IncludeRules.Proofs.Convert.Again
import IncludeRules.Proofs.Generate.Again
import IncludeRules.Proofs.Generate.Objects
import IncludeRules.Proofs.Generate.Order
import IncludeRules.Proofs.Generate.Outputs
import IncludeRules.Proofs.Generate.Shown
import IncludeRules.Proofs.Generate.Targets
import IncludeRules.Proofs.Octets.Lines
import IncludeRules.Proofs.Octets.Order
import IncludeRules.Proofs.Octets.RoundTrip
import IncludeRules.Proofs.Octets.Strict
import IncludeRules.Proofs.Path.Join
import IncludeRules.Proofs.Path.Normal
import IncludeRules.Proofs.Path.Spelled
import IncludeRules.Proofs.Pattern.Hidden
import IncludeRules.Proofs.Rule.Copies
import IncludeRules.Proofs.Rule.Layout
import IncludeRules.Proofs.Rule.NormalForm
import IncludeRules.Proofs.Rule.Reread
import IncludeRules.Proofs.Rule.RoundTrip
import IncludeRules.Proofs.Rule.Synonyms
import IncludeRules.Proofs.Scan.Depth
import IncludeRules.Proofs.Scan.Directives
import IncludeRules.Proofs.Scan.Directories
import IncludeRules.Proofs.Scan.Endings
import IncludeRules.Proofs.Scan.Existing
import IncludeRules.Proofs.Scan.Expansion
import IncludeRules.Proofs.Scan.Footprint
import IncludeRules.Proofs.Scan.Graph
import IncludeRules.Proofs.Scan.Listing
import IncludeRules.Proofs.Scan.Looks
import IncludeRules.Proofs.Scan.Merging
import IncludeRules.Proofs.Scan.Pending
import IncludeRules.Proofs.Scan.Reachable
import IncludeRules.Proofs.Scan.Refusals
import IncludeRules.Proofs.Scan.Shortened
import IncludeRules.Proofs.Scan.Underway
import IncludeRules.Proofs.Script.Course
import IncludeRules.Proofs.Script.Stateful
import IncludeRules.Proofs.Script.Stateless
import IncludeRules.Proofs.Script.Within
import IncludeRules.Proofs.Script.Yields
import IncludeRules.Proofs.Store.Agreement
import IncludeRules.Proofs.Store.Contract
import IncludeRules.Proofs.Store.Entries
import IncludeRules.Proofs.Store.Faulty
import IncludeRules.Proofs.Store.Files
import IncludeRules.Proofs.Store.Filled
import IncludeRules.Proofs.Store.Frozen
import IncludeRules.Proofs.Store.Tree
import IncludeRules.Proofs.Store.Updates
import IncludeRules.Proofs.Tape.Queues
import IncludeRules.Proofs.Tape.Replay
import IncludeRules.Proofs.Tape.Transparent
import IncludeRules.Proofs.Text.Blank
import IncludeRules.Proofs.Text.Lines
import IncludeRules.Report
import IncludeRules.Rule.Basic
import IncludeRules.Rule.Extract
import IncludeRules.Rule.Fragment
import IncludeRules.Scan.Directive
import IncludeRules.Scan.Expand
import IncludeRules.Scan.Headers
import IncludeRules.Scan.Sources
import IncludeRules.Script.Basic
import IncludeRules.Script.FileSystem
import IncludeRules.Store
import IncludeRules.Tape.Basic
import IncludeRules.Tape.Print
import IncludeRules.Tape.Read
import IncludeRules.Tape.Recording
import IncludeRules.Tape.Replaying
import IncludeRules.Text.Blank
import IncludeRules.Text.CaseTable
import IncludeRules.Text.CodeSet
import IncludeRules.Text.LetterTable
import IncludeRules.Text.Lines
import IncludeRules.Text.Lower
import IncludeRules.Text.Quoted
import IncludeRules.Text.VisibleTable
import IncludeRules.Update
import IncludeRules.Yaml.Cursor
import IncludeRules.Yaml.Fault
import IncludeRules.Yaml.Node
import IncludeRules.Yaml.Plain
import IncludeRules.Yaml.Print
import IncludeRules.Yaml.Reader
import IncludeRules.Yaml.Scalar
import IncludeRules.Yaml.Style
import IncludeRules.Yaml.Token
import IncludeRules.Yaml.Tokens
