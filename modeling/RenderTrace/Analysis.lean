import RenderTrace.CallGraph.Resolution
import RenderTrace.CallGraph.Dot
import RenderTrace.ClosureSet

/-!
# The analysis of a unit

The analysis decides which functions of a unit are instrumented: it indexes the declared functions,
builds the graph of their references, and takes the closure of the tracked ones.
-/

namespace RenderTrace

open Syntax

/-- The result of an analysis. -/
structure Analysis where
  index : Index
  callGraph : CallGraph
  closure : ClosureSet
  warnings : List String
  records : List Record
  deriving Inhabited

namespace Analysis

/-- The declared functions. -/
def functions (a : Analysis) : Array Function := a.index.functions

/-- What the closure asks of a function, with the references that the graph has. -/
def candidate (g : CallGraph) (f : Function) : Candidate where
  id := f.declaration.id
  callees := (g.edgesFrom f.declaration.id).map (·.callee)
  tracked := f.tracking.isTracked
  nested := f.tracking.includeNested
  skipped := f.skip.wholeFunction
  render := f.declaration.isRender
  hasBody := f.declaration.hasBody

/-- The name of a function by its number. -/
def nameOf (functions : Array Function) (id : FunctionId) : String :=
  match functions[id]? with
  | some f => f.declaration.displayName
  | none => "fn#" ++ toString id

/-- The warning about a tracked function that is no render function. -/
def trackingWarning? (f : Function) : Option String :=
  if f.tracking.isTracked && !f.declaration.isRender then
    some (f.declaration.displayName ++ " carries " ++ Marker.trackMarker ++
      " but is not a render function; marker ignored")
  else none

/-- Analyses a unit. -/
def run (o : Options) (u : SourceUnit) : Analysis :=
  let index := Index.build o u
  let graph := CallGraph.build index
  let functions := index.functions.toList
  let search := ClosureSet.search (functions.map (candidate graph))
  let warnings := functions.filterMap trackingWarning?
  { index
    callGraph := graph
    closure := search.members
    warnings
    records := index.records.toList ++ CallGraph.buildRecords index graph ++
      warnings.map (fun w => ⟨.warn, .analysis, w⟩) ++
      search.events.map (·.record (nameOf index.functions)) ++
      [⟨.debug, .analysis, "Closure: " ++ toString search.members.order.length ++ " of " ++
        toString functions.length ++ " functions"⟩] }

/-- The function of a number. -/
def function? (a : Analysis) (id : FunctionId) : Option Function := a.functions[id]?

/-- The number of the function that a place names. -/
def lookup (a : Analysis) (l : Location) : Option FunctionId := a.index.lookup l

/-- The first function that is shown under a name. -/
def find? (a : Analysis) (name : String) : Option Function :=
  a.functions.find? fun f => f.declaration.displayName == name

/-- The members of the closure. -/
def targets (a : Analysis) : List Function := a.closure.order.filterMap a.function?

/-- The graph as text, with the members of the closure highlighted. -/
def dot (a : Analysis) : String :=
  a.callGraph.toDot (nameOf a.functions) a.closure.contains

end Analysis

end RenderTrace
