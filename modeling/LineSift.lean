import LineSift.Assoc
import LineSift.Command.Arguments
import LineSift.Command.Form
import LineSift.Command.Options
import LineSift.Command.Paths
import LineSift.Command.Run
import LineSift.Command.Terminal
import LineSift.Config.Basic
import LineSift.Config.Error
import LineSift.Config.Open
import LineSift.Config.Packaged
import LineSift.Config.Read
import LineSift.Double.Basic
import LineSift.Double.Shortest
import LineSift.Encoding.Basic
import LineSift.Encoding.Decode
import LineSift.Field
import LineSift.Json.Basic
import LineSift.Json.Decode
import LineSift.Json.Encode
import LineSift.Kind
import LineSift.Log
import LineSift.Log.Setup
import LineSift.Main
import LineSift.Marker.Basic
import LineSift.Marker.Saved
import LineSift.Proofs.Alike
import LineSift.Proofs.Assoc
import LineSift.Proofs.Command.Again
import LineSift.Proofs.Command.Alike
import LineSift.Proofs.Command.AnyMarker
import LineSift.Proofs.Command.Foreseen
import LineSift.Proofs.Command.History
import LineSift.Proofs.Command.InTurn
import LineSift.Proofs.Command.Prepare
import LineSift.Proofs.Command.Printer
import LineSift.Proofs.Command.Process
import LineSift.Proofs.Command.Routine
import LineSift.Proofs.Command.Untouched
import LineSift.Proofs.Config.Defaults
import LineSift.Proofs.Config.Fields
import LineSift.Proofs.Config.Refusal
import LineSift.Proofs.Config.Section
import LineSift.Proofs.Config.Source
import LineSift.Proofs.Effect
import LineSift.Proofs.Encoding.Ascii
import LineSift.Proofs.Encoding.Lines
import LineSift.Proofs.Encoding.Lossy
import LineSift.Proofs.Encoding.Refusal
import LineSift.Proofs.Encoding.Whole
import LineSift.Proofs.Failing
import LineSift.Proofs.Json.Record
import LineSift.Proofs.Looking
import LineSift.Proofs.Marker.Apart
import LineSift.Proofs.Marker.Held
import LineSift.Proofs.Marker.Resume
import LineSift.Proofs.Marker.Saved
import LineSift.Proofs.Regex.Advance
import LineSift.Proofs.Regex.Agreement
import LineSift.Proofs.Regex.Continued
import LineSift.Proofs.Regex.Easier
import LineSift.Proofs.Regex.Enclosed
import LineSift.Proofs.Regex.Evidence
import LineSift.Proofs.Regex.Foresight
import LineSift.Proofs.Regex.Groups
import LineSift.Proofs.Regex.Language
import LineSift.Proofs.Regex.Nesting
import LineSift.Proofs.Regex.Order
import LineSift.Proofs.Regex.Parts
import LineSift.Proofs.Regex.Quote
import LineSift.Proofs.Regex.Reading
import LineSift.Proofs.Regex.Refusal
import LineSift.Proofs.Regex.Sequence
import LineSift.Proofs.Regex.Simple
import LineSift.Proofs.Regex.Through
import LineSift.Proofs.Regex.Tokens
import LineSift.Proofs.RuleSet.Copied
import LineSift.Proofs.RuleSet.Directory
import LineSift.Proofs.RuleSet.Failure
import LineSift.Proofs.RuleSet.Interference
import LineSift.Proofs.RuleSet.Loaded
import LineSift.Proofs.RuleSet.Names
import LineSift.Proofs.RuleSet.Patterns
import LineSift.Proofs.RuleSet.Refusal
import LineSift.Proofs.RuleSet.Repeated
import LineSift.Proofs.RuleSet.Shortcut
import LineSift.Proofs.RuleSet.Simple
import LineSift.Proofs.RuleSet.Static
import LineSift.Proofs.RuleSet.Substitution
import LineSift.Proofs.RuleSet.Verbatim
import LineSift.Proofs.RuleSet.View
import LineSift.Proofs.Rules.Compared
import LineSift.Proofs.Rules.Composed
import LineSift.Proofs.Rules.Document
import LineSift.Proofs.Rules.Faded
import LineSift.Proofs.Rules.Kept
import LineSift.Proofs.Rules.Onward
import LineSift.Proofs.Rules.Overridden
import LineSift.Proofs.Rules.Reading
import LineSift.Proofs.Rules.Recognised
import LineSift.Proofs.Rules.Sections
import LineSift.Proofs.Rules.Written
import LineSift.Proofs.Scan.Batches
import LineSift.Proofs.Scan.Content
import LineSift.Proofs.Scan.Cut
import LineSift.Proofs.Scan.History
import LineSift.Proofs.Scan.LogFile
import LineSift.Proofs.Scan.Plan
import LineSift.Proofs.Scan.Refusal
import LineSift.Proofs.Scan.Texts
import LineSift.Proofs.Scan.Whole
import LineSift.Proofs.Store.Change
import LineSift.Proofs.Store.Listing
import LineSift.Proofs.Store.Move
import LineSift.Proofs.Store.Path
import LineSift.Proofs.Store.Refilled
import LineSift.Proofs.Store.Replace
import LineSift.Proofs.Store.Spare
import LineSift.Proofs.Store.Tree
import LineSift.Proofs.Store.Way
import LineSift.Proofs.Text.Escape
import LineSift.Proofs.Text.Lines
import LineSift.Proofs.Text.Numeral
import LineSift.Proofs.Text.Order
import LineSift.Proofs.Text.Replace
import LineSift.Proofs.Text.Space
import LineSift.Proofs.Text.Split
import LineSift.Proofs.Traversal
import LineSift.Proofs.Value.Bracketed
import LineSift.Proofs.Value.Listed
import LineSift.Proofs.Value.Matched
import LineSift.Proofs.Value.Range
import LineSift.Proofs.Value.Units
import LineSift.Proofs.World
import LineSift.Regex.Basic
import LineSift.Regex.Error
import LineSift.Regex.Escape
import LineSift.Regex.Matcher
import LineSift.Regex.Node
import LineSift.Regex.Parser
import LineSift.Regex.Reader
import LineSift.Regex.Token
import LineSift.RuleSet.Basic
import LineSift.RuleSet.Directory
import LineSift.RuleSet.Error
import LineSift.RuleSet.Load
import LineSift.RuleSet.View
import LineSift.Rules.Document
import LineSift.Rules.Header
import LineSift.Scan.Batch
import LineSift.Scan.LogFile
import LineSift.Store.Basic
import LineSift.Store.Error
import LineSift.Store.Handle
import LineSift.Store.Path
import LineSift.Text.Basic
import LineSift.Text.Case
import LineSift.Text.CharName
import LineSift.Text.Letter
import LineSift.Text.Lines
import LineSift.Text.Number
import LineSift.Text.Printable
import LineSift.Text.Quoted
import LineSift.Text.Replace
import LineSift.Text.Space
import LineSift.Value.Error
import LineSift.Value.List
import LineSift.Value.Unquote
import LineSift.World
