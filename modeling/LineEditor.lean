import LineEditor.Main
import LineEditor.Proofs.Position
import LineEditor.Proofs.Layout.Rows
import LineEditor.Proofs.Layout.Cover
import LineEditor.Proofs.Layout.Cursor
import LineEditor.Proofs.Layout.Vertical
import LineEditor.Proofs.Buffer
import LineEditor.Proofs.Erasure
import LineEditor.Proofs.EscapeBytes
import LineEditor.Proofs.Scanning
import LineEditor.Proofs.InRange
import LineEditor.Proofs.Editing
import LineEditor.Proofs.Session.Program
import LineEditor.Proofs.Session.Perform
import LineEditor.Proofs.Session.Calls
import LineEditor.Proofs.Session.Soundness
import LineEditor.Proofs.Session.KillRuns
import LineEditor.Proofs.Clamp
import LineEditor.Proofs.Session.Yank
import LineEditor.Proofs.Session.StaleExtent
import LineEditor.Proofs.Session.Requests
import LineEditor.Proofs.Session.Composition
import LineEditor.Proofs.Session.Outcomes
import LineEditor.Proofs.Session.Updates
import LineEditor.Proofs.Session.Reliable
import LineEditor.Proofs.Session.Atomicity
import LineEditor.Proofs.Session.Turns
import LineEditor.Proofs.Screen
import LineEditor.Proofs.Session.UpToDate
import LineEditor.Proofs.Session.CursorTracking
import LineEditor.Proofs.Session.KillYank
import LineEditor.Proofs.Session.YankCycle
import LineEditor.Proofs.Clusters
import LineEditor.Proofs.Layout.Clusters
import LineEditor.Proofs.Session.CursorClusters
import LineEditor.Proofs.Layout.PromptText
import LineEditor.Proofs.Session.Lockstep
import LineEditor.Proofs.Session.Presentation
import LineEditor.Proofs.Session.FreshInput
import LineEditor.Proofs.Motion
import LineEditor.Proofs.WordStops
import LineEditor.Proofs.Truncation
import LineEditor.Proofs.Session.VerticalMotion
import LineEditor.Proofs.Layout.Filling
import LineEditor.Proofs.Layout.Widening
import LineEditor.Proofs.Keyboard
import LineEditor.Proofs.Session.NumericArgument
import LineEditor.Proofs.Session.Paste
import LineEditor.Proofs.LinesAndText
import LineEditor.Proofs.Options
import LineEditor.Proofs.LineBuffer.Operations
import LineEditor.Proofs.LineBuffer.Kill
