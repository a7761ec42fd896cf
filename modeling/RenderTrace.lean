import RenderTrace.Main
import RenderTrace.Snapshot.Cells
import RenderTrace.Tracker.Host
import RenderTrace.Proofs.CallGraph.Additions
import RenderTrace.Proofs.CallGraph.Callees
import RenderTrace.Proofs.CallGraph.Drawing
import RenderTrace.Proofs.CallGraph.Linked
import RenderTrace.Proofs.CallGraph.Local
import RenderTrace.Proofs.CallGraph.Spelling
import RenderTrace.Proofs.CallGraph.Targets
import RenderTrace.Proofs.CallGraph.Unfolding
import RenderTrace.Proofs.ClosureSet.Monotone
import RenderTrace.Proofs.ClosureSet.Reach
import RenderTrace.Proofs.ClosureSet.Search
import RenderTrace.Proofs.CommandLine.Trace
import RenderTrace.Proofs.Function.Ancestry
import RenderTrace.Proofs.Function.Tracking
import RenderTrace.Proofs.Host.Balance
import RenderTrace.Proofs.Host.Commits
import RenderTrace.Proofs.Host.Sites
import RenderTrace.Proofs.Injection.Apply
import RenderTrace.Proofs.Injection.Entries
import RenderTrace.Proofs.Injection.Frame
import RenderTrace.Proofs.Injection.Skipped
import RenderTrace.Proofs.Pipeline.Again
import RenderTrace.Proofs.Pipeline.Breakdown
import RenderTrace.Proofs.Pipeline.InTurn
import RenderTrace.Proofs.Pipeline.Inline
import RenderTrace.Proofs.Pipeline.Label
import RenderTrace.Proofs.Pipeline.Order
import RenderTrace.Proofs.Pipeline.Report
import RenderTrace.Proofs.Pipeline.Tally
import RenderTrace.Proofs.Pipeline.Twice
import RenderTrace.Proofs.Pipeline.Wrapping
import RenderTrace.Proofs.Snapshot.Edits
import RenderTrace.Proofs.Text.Location
import RenderTrace.Proofs.Tracker.Hidden
import RenderTrace.Proofs.Tracker.Life
import RenderTrace.Proofs.Tracker.Reference
import RenderTrace.Proofs.Tracker.Rendered
