import RenderTrace.Analysis
import RenderTrace.Text.Json

/-!
# Reports

What a run over a unit found and did, by the names under which functions are shown.
-/

namespace RenderTrace

/-- What a report says about a function. -/
structure FunctionSummary where
  id : FunctionId
  name : String
  kind : FunctionKind
  location : Location
  isRender : Bool
  hasBody : Bool
  tracked : Bool
  includeNested : Bool
  skipped : Bool
  skippedParameters : List String
  inClosure : Bool
  instrumented : Bool
  deriving DecidableEq, Repr, Inhabited

/-- What a report says about a reference. -/
structure EdgeSummary where
  caller : String
  callee : String
  kind : CallKind
  deriving DecidableEq, Repr, Inhabited

/-- A report about a unit. -/
structure Report where
  unit : String
  enabled : Bool
  functions : List FunctionSummary := []
  edges : List EdgeSummary := []
  /-- The members of the closure, in the order of insertion. -/
  closure : List String := []
  /-- The functions that got a tracker call, in the order in which they got it. -/
  instrumented : List String := []
  warnings : List String := []
  deriving DecidableEq, Repr, Inhabited

namespace Report

/-- The report about a unit that was not looked at. -/
def disabled (unit : String) : Report := { unit, enabled := false }

/-- What a report says about a function. -/
def summary (a : Analysis) (instrumented : List FunctionId) (f : Function) : FunctionSummary where
  id := f.declaration.id
  name := f.declaration.displayName
  kind := f.declaration.kind
  location := f.declaration.location
  isRender := f.declaration.isRender
  hasBody := f.declaration.hasBody
  tracked := f.tracking.isTracked
  includeNested := f.tracking.includeNested
  skipped := f.skip.wholeFunction
  skippedParameters := f.skip.parameters
  inClosure := a.closure.contains f.declaration.id
  instrumented := instrumented.contains f.declaration.id

/-- The report of an analysis and of the functions that were instrumented after it. -/
def ofAnalysis (unit : String) (a : Analysis) (instrumented : List FunctionId) : Report :=
  let name := Analysis.nameOf a.functions
  { unit
    enabled := true
    functions := a.functions.toList.map (summary a instrumented)
    edges := a.callGraph.edgesByCaller.map fun e => ⟨name e.caller, name e.callee, e.kind⟩
    closure := a.closure.order.map name
    instrumented := instrumented.map name
    warnings := a.warnings }

/-- A report with more warnings. -/
def warn (r : Report) (warnings : List String) : Report :=
  { r with warnings := r.warnings ++ warnings }

/-! ### Text -/

/-- The remarks behind the name of a function. -/
def flags (f : FunctionSummary) : List String :=
  (if f.tracked then [if f.includeNested then "tracked+nested" else "tracked"] else []) ++
    (if f.skipped then ["skipped"] else []) ++
    (if f.hasBody then [] else ["no body"]) ++
    (if f.instrumented then ["instrumented"] else if f.inClosure then ["in closure"] else [])

/-- The lines about a function. -/
def functionText (f : FunctionSummary) : String :=
  let remarks := flags f
  "  " ++ f.name ++ " @ " ++ Index.showLocation f.location ++
    (if remarks.isEmpty then "" else " [" ++ ", ".intercalate remarks ++ "]") ++ "\n" ++
    if f.skippedParameters.isEmpty then ""
    else "    skipped parameters: " ++ ", ".intercalate f.skippedParameters ++ "\n"

/-- The kind of a reference as the text of a report names it. -/
def kindText : CallKind → String
  | .direct => "Direct"
  | .functionLiteral => "FunctionLiteral"
  | .reference => "Reference"

/-- The line about a reference. -/
def edgeText (e : EdgeSummary) : String :=
  "  " ++ e.caller ++ " -> " ++ e.callee ++ " (" ++ kindText e.kind ++ ")\n"

/-- A report to be read. -/
def toText (r : Report) : String :=
  let head := "=== " ++ r.unit ++ " ===\n"
  if !r.enabled then head ++ "instrumentation disabled\n"
  else
    let renders := (r.functions.filter (·.isRender)).length
    head ++ toString r.functions.length ++ " functions, " ++ toString renders ++
      " render functions, " ++ toString r.edges.length ++ " call edges\n\nFunctions:\n" ++
      String.join ((r.functions.filter fun f => f.isRender || f.tracked).map functionText) ++
      (if r.edges.isEmpty then "" else "\nCalls:\n" ++ String.join (r.edges.map edgeText)) ++
      "\nClosure: " ++ ", ".intercalate r.closure ++ "\n" ++
      if r.warnings.isEmpty then ""
      else "\nWarnings:\n" ++ String.join (r.warnings.map fun w => "  " ++ w ++ "\n")

/-! ### JSON -/

/-- A function in a document. -/
def functionJson (f : FunctionSummary) : Json :=
  .object [("id", .number f.id), ("name", .string f.name), ("kind", .string f.kind.name),
    ("location",
      .object [("line", .number f.location.line), ("column", .number f.location.column)]),
    ("is_render", .bool f.isRender), ("has_body", .bool f.hasBody), ("tracked", .bool f.tracked),
    ("include_nested", .bool f.includeNested), ("skipped", .bool f.skipped),
    ("skipped_parameters", .strings f.skippedParameters), ("in_closure", .bool f.inClosure),
    ("instrumented", .bool f.instrumented)]

/-- A reference in a document. -/
def edgeJson (e : EdgeSummary) : Json :=
  .object [("caller", .string e.caller), ("callee", .string e.callee),
    ("kind", .string e.kind.name)]

/-- A report as a document. -/
def toJson (r : Report) : Json :=
  .object [("unit", .string r.unit), ("enabled", .bool r.enabled),
    ("functions", .array (r.functions.map functionJson)),
    ("edges", .array (r.edges.map edgeJson)), ("closure", .strings r.closure),
    ("instrumented", .strings r.instrumented), ("warnings", .strings r.warnings)]

end Report

end RenderTrace
