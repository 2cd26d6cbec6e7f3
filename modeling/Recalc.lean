import Recalc.CommandLine.Run
import Recalc.Dependency.Order
import Recalc.Export.File
import Recalc.Formula.Evaluation
import Recalc.Json.Reader
import Recalc.Json.Writer
import Recalc.Log.Clipping
import Recalc.Log.EventLog
import Recalc.Main
import Recalc.Pattern.Matching
import Recalc.Proofs.Sheet.Circular
import Recalc.Settings.File
import Recalc.Settings.Naming
import Recalc.Sheet.Calls
import Recalc.Sheet.File
import Recalc.Storage.Disk
import Recalc.Workspace.Project
import Recalc.Xml.Document
import Recalc.Xml.Writer
import Recalc.Yaml.Document
import Recalc.Proofs.Number.Binary64
import Recalc.Proofs.Number.Rounding
import Recalc.Proofs.Number.Layout
import Recalc.Proofs.Number.PlainText
import Recalc.Proofs.Formula.Splitting
import Recalc.Proofs.Formula.Language
import Recalc.Proofs.Formula.Canonical
import Recalc.Proofs.Dependency.Agreement
import Recalc.Proofs.Sheet.Entered
import Recalc.Proofs.Sheet.History
import Recalc.Proofs.Text.Utf8
import Recalc.Proofs.Xml.Markup
import Recalc.Proofs.Xml.Content
import Recalc.Proofs.Xml.Document
import Recalc.Proofs.Sheet.Stored
import Recalc.Proofs.Storage.Disk
import Recalc.Proofs.Sheet.Reentered
import Recalc.Proofs.Sheet.Restored
import Recalc.Proofs.Text.Case
import Recalc.Proofs.Dependency.Changes
import Recalc.Proofs.Sheet.Extent
import Recalc.Proofs.Number.Reading
import Recalc.Proofs.Sheet.Entries
import Recalc.Proofs.Sheet.Outcome
import Recalc.Proofs.Formula.Answers
import Recalc.Proofs.Sheet.Propagation
import Recalc.Proofs.Sheet.RoundTrip
import Recalc.Proofs.CommandLine.Edits
import Recalc.Proofs.Sheet.Undone
import Recalc.Proofs.Log.Query
import Recalc.Proofs.Workspace.Unaffected
import Recalc.Proofs.Workspace.Audit
import Recalc.Proofs.Sheet.Aliases
import Recalc.Proofs.Sheet.Recalculation
import Recalc.Proofs.Sheet.ReadFailures
import Recalc.Proofs.Json.Readable
import Recalc.Proofs.Log.Limits
import Recalc.Proofs.Log.Tail
import Recalc.Proofs.Sheet.Interim
import Recalc.Proofs.Workspace.Saving
import Recalc.Proofs.Log.Foreign
import Recalc.Proofs.Sheet.NumberTexts
import Recalc.Proofs.Formula.Places
import Recalc.Proofs.Sheet.Structure
