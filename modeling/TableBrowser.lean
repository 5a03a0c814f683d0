import TableBrowser.Json.Reading
import TableBrowser.Json.Writing
import TableBrowser.Table.Inference
import TableBrowser.Text.Alphanumeric
import TableBrowser.Text.CellWidthTable
import TableBrowser.Datum.Order
import TableBrowser.Text.Similarity
import TableBrowser.Failure
import TableBrowser.Table.Fingerprint
import TableBrowser.Expression.Parser
import TableBrowser.Expression.Evaluation
import TableBrowser.Step.Ordering
import TableBrowser.Step.Application
import TableBrowser.Pattern.Syntax
import TableBrowser.Text.LetterCase
import TableBrowser.Pattern.Parser
import TableBrowser.Pattern.Matching
import TableBrowser.Search
import TableBrowser.Command.Line
import TableBrowser.Screen.Frame
import TableBrowser.Input.Keymap
import TableBrowser.Pipeline.Basic
import TableBrowser.Pipeline.Document
import TableBrowser.Storage.Encoding
import TableBrowser.Storage.FileTree
import TableBrowser.Delimited.Reading
import TableBrowser.Delimited.Dialect
import TableBrowser.Json.Layout
import TableBrowser.Storage.Source
import TableBrowser.Storage.Destination
import TableBrowser.Yaml.Scalar
import TableBrowser.Yaml.TokenRow
import TableBrowser.Yaml.Node
import TableBrowser.Yaml.Value
import TableBrowser.Yaml.Writing
import TableBrowser.Settings
import TableBrowser.Workspace.Basic
import TableBrowser.Workspace.Delivery
import TableBrowser.Workspace.Execution
import TableBrowser.Session.Basic
import TableBrowser.Terminal.Drawing
import TableBrowser.Terminal.Loop
import TableBrowser.Json.Tagged
import TableBrowser.Invocation
import TableBrowser.Expression.Outline
import TableBrowser.Main
import TableBrowser.Proofs.Text.Nesting
import TableBrowser.Proofs.Text.Unmarked
import TableBrowser.Proofs.Text.Quoted
import TableBrowser.Proofs.Datum.Quoted
import TableBrowser.Proofs.Json.Texts
import TableBrowser.Proofs.Json.Forms
import TableBrowser.Proofs.Json.Entries
import TableBrowser.Proofs.Step.ContentKey
import TableBrowser.Proofs.Step.Keyed
import TableBrowser.Proofs.Step.Application
import TableBrowser.Proofs.Pipeline.ResultCache
import TableBrowser.Proofs.Pipeline.Soundness
import TableBrowser.Proofs.Pipeline.Run
import TableBrowser.Proofs.Search
import TableBrowser.Proofs.Workspace.Acts
import TableBrowser.Proofs.Workspace.Outstanding
import TableBrowser.Proofs.Workspace.Soundness
import TableBrowser.Proofs.Workspace.Edits
import TableBrowser.Proofs.Workspace.Answers
import TableBrowser.Proofs.Workspace.Delivery
import TableBrowser.Proofs.Workspace.Commands
import TableBrowser.Proofs.Workspace.Execution
import TableBrowser.Proofs.Workspace.Run
import TableBrowser.Proofs.Workspace.Fate
import TableBrowser.Proofs.Workspace.Order
import TableBrowser.Proofs.Workspace.Isolation
import TableBrowser.Proofs.Workspace.Recovery
import TableBrowser.Proofs.Workspace.Undo
import TableBrowser.Proofs.Workspace.Endings
import TableBrowser.Proofs.Workspace.Refusal
import TableBrowser.Proofs.Step.Checked
import TableBrowser.Proofs.Pipeline.Schema
import TableBrowser.Proofs.Expression.Reading
import TableBrowser.Proofs.Step.Faults
import TableBrowser.Proofs.Pipeline.Faults
import TableBrowser.Proofs.Storage.Naming
import TableBrowser.Proofs.Storage.Writing
import TableBrowser.Proofs.Pipeline.Documents
import TableBrowser.Proofs.Pipeline.RoundTrip
import TableBrowser.Proofs.Workspace.Fitted
import TableBrowser.Proofs.Workspace.Orderly
import TableBrowser.Proofs.Workspace.Totality
import TableBrowser.Proofs.Workspace.Display
import TableBrowser.Proofs.Workspace.DisplayRun
import TableBrowser.Proofs.Workspace.Drain
import TableBrowser.Proofs.Session.Acts
import TableBrowser.Proofs.Session.Run
import TableBrowser.Proofs.Session.SearchLine
import TableBrowser.Proofs.Pipeline.Saved
import TableBrowser.Proofs.Calendar.IsoText
import TableBrowser.Proofs.Delimited.Fields
import TableBrowser.Proofs.Delimited.RoundTrip
import TableBrowser.Proofs.Json.Layout
import TableBrowser.Proofs.Json.ReadValues
import TableBrowser.Proofs.Number.Lengths
import TableBrowser.Proofs.Storage.Carrying
import TableBrowser.Proofs.Storage.Loading
import TableBrowser.Proofs.Storage.Reloading
import TableBrowser.Proofs.Table.Fingerprint
import TableBrowser.Proofs.Table.WellTyped
import TableBrowser.Proofs.Step.Agreement
import TableBrowser.Proofs.Step.Typing
import TableBrowser.Proofs.Sql.Storing
import TableBrowser.Proofs.Sql.SelectAll
import TableBrowser.Proofs.Datum.Scale
import TableBrowser.Proofs.Step.Sorting
import TableBrowser.Proofs.Screen.Filling
import TableBrowser.Proofs.Screen.Cuts
import TableBrowser.Proofs.Screen.SingleLines
import TableBrowser.Proofs.Screen.Windows
import TableBrowser.Proofs.Screen.Overlays
import TableBrowser.Proofs.Workspace.History
import TableBrowser.Proofs.Session.Typed
import TableBrowser.Proofs.Command.Words
import TableBrowser.Proofs.Command.Verbatim
import TableBrowser.Proofs.Expression.Grammar
import TableBrowser.Proofs.Expression.Lexemes
import TableBrowser.Proofs.Expression.Sources
import TableBrowser.Proofs.Expression.Spelling
import TableBrowser.Proofs.Expression.Writing
import TableBrowser.Proofs.Table.Rows
import TableBrowser.Proofs.Step.Filtering
import TableBrowser.Proofs.Step.FilteredSort
import TableBrowser.Proofs.Expression.Operands
import TableBrowser.Proofs.Expression.Clashes
import TableBrowser.Proofs.Step.FilterFaults
import TableBrowser.Proofs.Step.Selecting
import TableBrowser.Proofs.Step.SortedColumn
import TableBrowser.Proofs.Table.Bounds
import TableBrowser.Proofs.Table.KeptCells
import TableBrowser.Proofs.Text.Similarity
import TableBrowser.Proofs.StableSort
import TableBrowser.Proofs.Search.Found
import TableBrowser.Proofs.Workspace.Visits
import TableBrowser.Proofs.Session.Following
import TableBrowser.Proofs.Command.Searches
import TableBrowser.Proofs.Session.Replaying
import TableBrowser.Proofs.Command.Described
import TableBrowser.Proofs.Input.LineEdits
import TableBrowser.Proofs.Table.RowForm
import TableBrowser.Proofs.Storage.Reporting
import TableBrowser.Proofs.Settings
