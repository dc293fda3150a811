import ModalLexer.Command.Arguments
import ModalLexer.Command.Files
import ModalLexer.Command.Jobs
import ModalLexer.Command.Listing
import ModalLexer.Command.Log
import ModalLexer.Command.Run
import ModalLexer.Document.Basic
import ModalLexer.Document.Build
import ModalLexer.Document.Form
import ModalLexer.Document.Json
import ModalLexer.Document.Reader
import ModalLexer.Document.Value
import ModalLexer.Error
import ModalLexer.Event
import ModalLexer.Kind
import ModalLexer.Main
import ModalLexer.Pattern.Backtracking.Basic
import ModalLexer.Pattern.Backtracking.Machine
import ModalLexer.Pattern.Backtracking.Marks
import ModalLexer.Pattern.Backtracking.Parser
import ModalLexer.Pattern.Backtracking.Program
import ModalLexer.Pattern.Basic
import ModalLexer.Pattern.CharSet
import ModalLexer.Pattern.Look
import ModalLexer.Pattern.Regular.Automaton
import ModalLexer.Pattern.Regular.Basic
import ModalLexer.Pattern.Regular.Class
import ModalLexer.Pattern.Regular.Escape
import ModalLexer.Pattern.Regular.Parser
import ModalLexer.Pattern.Regular.Size
import ModalLexer.Pattern.Regular.Utf8
import ModalLexer.Pattern.Unicode.Age
import ModalLexer.Pattern.Unicode.CaseFold
import ModalLexer.Pattern.Unicode.Category
import ModalLexer.Pattern.Unicode.Lookup
import ModalLexer.Pattern.Unicode.Property
import ModalLexer.Pattern.Unicode.Script
import ModalLexer.Pattern.Unicode.ScriptExtension
import ModalLexer.Pattern.Unicode.Segmentation
import ModalLexer.Proofs.Calls
import ModalLexer.Proofs.Command.Batch
import ModalLexer.Proofs.Command.Listing
import ModalLexer.Proofs.Coverage
import ModalLexer.Proofs.Document.Forms
import ModalLexer.Proofs.Document.Json
import ModalLexer.Proofs.Document.Keys
import ModalLexer.Proofs.Document.Kinds
import ModalLexer.Proofs.Document.Readers
import ModalLexer.Proofs.Document.RoundTrip
import ModalLexer.Proofs.Document.Values
import ModalLexer.Proofs.Hierarchy
import ModalLexer.Proofs.Outcome
import ModalLexer.Proofs.Pattern.Agreement
import ModalLexer.Proofs.Pattern.Automaton
import ModalLexer.Proofs.Pattern.Groups
import ModalLexer.Proofs.Pattern.Leftmost
import ModalLexer.Proofs.Pattern.Machine
import ModalLexer.Proofs.Pattern.Matcher
import ModalLexer.Proofs.Pattern.Numbering
import ModalLexer.Proofs.Pattern.Paths
import ModalLexer.Proofs.Pattern.Restart
import ModalLexer.Proofs.Scan.Checked
import ModalLexer.Proofs.Scan.Choices
import ModalLexer.Proofs.Scan.Counterpart
import ModalLexer.Proofs.Scan.Emissions
import ModalLexer.Proofs.Scan.EmptyMatches
import ModalLexer.Proofs.Scan.Ending
import ModalLexer.Proofs.Scan.Failure
import ModalLexer.Proofs.Scan.Groups
import ModalLexer.Proofs.Scan.Inlining
import ModalLexer.Proofs.Scan.Limits
import ModalLexer.Proofs.Scan.Memo
import ModalLexer.Proofs.Scan.Offsets
import ModalLexer.Proofs.Scan.Pieces
import ModalLexer.Proofs.Scan.Plain
import ModalLexer.Proofs.Scan.Queries
import ModalLexer.Proofs.Scan.Rearrangement
import ModalLexer.Proofs.Scan.Relabelling
import ModalLexer.Proofs.Scan.Run
import ModalLexer.Proofs.Scan.Searches
import ModalLexer.Proofs.Scan.States
import ModalLexer.Proofs.Scan.Step
import ModalLexer.Proofs.Scan.Stream
import ModalLexer.Proofs.Scan.Visits
import ModalLexer.Proofs.Session.Composition
import ModalLexer.Proofs.Session.Cut
import ModalLexer.Proofs.Session.Delivery
import ModalLexer.Proofs.Session.Interleaving
import ModalLexer.Proofs.Session.Kinds
import ModalLexer.Proofs.Session.Merge
import ModalLexer.Proofs.Session.Offsets
import ModalLexer.Proofs.Session.Placement
import ModalLexer.Proofs.Session.Reading
import ModalLexer.Proofs.Session.Region
import ModalLexer.Proofs.Session.Relabelling
import ModalLexer.Proofs.Session.Splice
import ModalLexer.Proofs.Table.Counterpart
import ModalLexer.Proofs.Table.Expansion
import ModalLexer.Proofs.Table.Flattening
import ModalLexer.Proofs.Table.Includes
import ModalLexer.Proofs.Table.Revision
import ModalLexer.Proofs.Table.Rules
import ModalLexer.Proofs.Table.Slots
import ModalLexer.Proofs.Table.WellFormed
import ModalLexer.Proofs.Text.Boundary
import ModalLexer.Proofs.Text.Lines
import ModalLexer.Proofs.Text.Quoted
import ModalLexer.Proofs.Tiling
import ModalLexer.Rule
import ModalLexer.Scan.Checked
import ModalLexer.Scan.Memo
import ModalLexer.Scan.Pieces
import ModalLexer.Scan.Places
import ModalLexer.Scan.Plain
import ModalLexer.Scan.Stack
import ModalLexer.Scan.Step
import ModalLexer.Scan.Stream
import ModalLexer.Scan.Trace
import ModalLexer.Session.Basic
import ModalLexer.Session.Merge
import ModalLexer.Session.Trace
import ModalLexer.Table.Basic
import ModalLexer.Table.Build
import ModalLexer.Table.Trace
import ModalLexer.Text.Lines
import ModalLexer.Text.Offset
import ModalLexer.Text.Quoted
import ModalLexer.Text.Shown
import ModalLexer.Text.Slice
import ModalLexer.Token
