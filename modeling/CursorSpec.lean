import CursorSpec.Editor.Replay
import CursorSpec.Graph.Calls
import CursorSpec.Main
import CursorSpec.Run.Suite
import CursorSpec.Proofs.Document.Place
import CursorSpec.Proofs.Document.Token
import CursorSpec.Proofs.Document.Marks
import CursorSpec.Proofs.Document.RoundTrip
import CursorSpec.Proofs.Graph.Nodes
import CursorSpec.Proofs.Except
import CursorSpec.Proofs.Suite.Loading
import CursorSpec.Proofs.Settings.Usable
import CursorSpec.Proofs.Run.Steps
import CursorSpec.Proofs.Run.Ending
import CursorSpec.Proofs.Run.Reached
import CursorSpec.Proofs.Run.Settlement
import CursorSpec.Proofs.Run.Orderly
import CursorSpec.Proofs.Run.Schedule
import CursorSpec.Proofs.Run.Cascade
import CursorSpec.Proofs.Document.Grammar
import CursorSpec.Proofs.Document.Placement
import CursorSpec.Proofs.Spec.Line
import CursorSpec.Proofs.Spec.Layout
import CursorSpec.Proofs.Spec.Entry
import CursorSpec.Proofs.Spec.Heading
import CursorSpec.Proofs.Spec.Reading
import CursorSpec.Proofs.Document.Order
import CursorSpec.Proofs.Links
import CursorSpec.Proofs.Spec.Declaring
import CursorSpec.Proofs.Spec.Resolving
import CursorSpec.Proofs.Graph.Agreement
import CursorSpec.Proofs.Graph.Reachable
import CursorSpec.Proofs.Graph.Waiters
import CursorSpec.Proofs.Run.Joined
import CursorSpec.Proofs.Run.Sequential
import CursorSpec.Proofs.Spec.Zero
import CursorSpec.Proofs.Suite.Problems
import CursorSpec.Proofs.Suite.Checking
import CursorSpec.Proofs.Files.Discovery
import CursorSpec.Proofs.Build.Outputs
import CursorSpec.Proofs.Suite.Loadable
import CursorSpec.Proofs.Build.Frame
import CursorSpec.Proofs.Document.Offset
import CursorSpec.Proofs.Editor.Changes
import CursorSpec.Proofs.Editor.Session
import CursorSpec.Proofs.Editor.Recording
import CursorSpec.Proofs.Editor.Repeat
import CursorSpec.Expr.Construction
import CursorSpec.Proofs.Editor.Replacing
import CursorSpec.Proofs.Editor.Typing
import CursorSpec.Proofs.Editor.Conservation
import CursorSpec.Proofs.Expr.Literal
import CursorSpec.Proofs.Expr.Construction
import CursorSpec.Proofs.Document.Source
import CursorSpec.Proofs.Spec.Parts
import CursorSpec.Suite.Fragments
import CursorSpec.Proofs.Suite.Fragments
import CursorSpec.Proofs.Suite.Literals
import CursorSpec.Proofs.Editor.Composition
import CursorSpec.Proofs.Spec.Operation
import CursorSpec.Proofs.Spec.Body
import CursorSpec.Proofs.Spec.Trailing
import CursorSpec.Proofs.Spec.Numbering
import CursorSpec.Proofs.Spec.Prose
import CursorSpec.Proofs.Suite.Location
import CursorSpec.Proofs.Expr.Mapping
import CursorSpec.Proofs.Suite.Groups
import CursorSpec.Proofs.Document.Rendering
import CursorSpec.Proofs.Diff.Matching
import CursorSpec.Proofs.Diff.Unified
import CursorSpec.Proofs.Files.Canonical
import CursorSpec.Proofs.Diff.Mismatch
import CursorSpec.Proofs.Settings.Fixed
import CursorSpec.Proofs.Suite.Naming
import CursorSpec.Proofs.Suite.Statements
