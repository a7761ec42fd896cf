import RenderTrace.Injection.Quotation
import RenderTrace.Function.Declaration

/-!
# The tracker call

The statement that is put in front of a body: a call of the tracker with the host, the name of the
function, a snapshot of its arguments, and the names of the parameters that are left out.

## Runtime paths

The path of the runtime stands in expressions and, where there is a snapshot, in an import. Not
every path may stand there: generic arguments without a `::` in front read as comparisons in an
expression (`Quotation.statement?`), and an import takes plain words only. `trackerStatement?` has
no answer for a path that does not fit.
-/

namespace RenderTrace.Injection

open Syntax Quotation

/-- The function that the injected statement calls. -/
def trackerEntry : String := "recomposition_tracker"

/-- The variable that holds the snapshot while it is made. -/
def argumentsVariable : String := "__recomp_arguments"

/-- The parameters in a snapshot: those that bind a name, except the host. -/
def capturedParams (params : List Param) (host : String) : List Param :=
  params.filter fun p => p.binding && p.name != host

/-- Whether a path may stand in an import. -/
def fitsImport (runtime : Node) : Bool :=
  Grammar.isPlainPath runtime && runtime.segmentNames.all (· != "Self")

/-- The expression that captures the value of `e`. -/
def capture (runtime e : Node) : Node :=
  methodCall (paren (ref (ref (call (use (extend runtime "Capture")) [e])))) "capture_value" []

/-- The constructor of a value that is there. -/
def present (e : Node) : Node := call (use (path true ["core", "option", "Option", "Some"])) [e]

/-- The parameter of the closures in a snapshot. -/
def currentValue : String := "current"

/-- The expression that captures a parameter, as its type asks. -/
def captured (runtime : Node) (p : Param) : Node :=
  match p.shape with
  | .plain => present (capture runtime (ref (name p.name)))
  | .reactive =>
    let withCurrent := use (extend (extend runtime "Reactive") "with_current")
    let body := blockExpr [value (capture runtime (name currentValue))]
    present (methodCall (call withCurrent [ref (name p.name), closure currentValue body])
      "into_reactive" [])
  | .optional =>
    methodCall (methodCall (name p.name) "as_ref" []) "map"
      [closure currentValue (capture runtime (name currentValue))]

/-- The key of a parameter in a snapshot: its name without a raw mark. -/
def snapshotKey (p : Param) : String := Node.bareName p.name

/-- The statement that adds a parameter to the snapshot. -/
def push (runtime : Node) (p : Param) : Node :=
  statement (methodCall (name argumentsVariable) "push_captured"
    [text (snapshotKey p), captured runtime p])

/-- The import that a snapshot needs. -/
def snapshotImport (runtime : Node) : Node :=
  importTraits [allow "unused_imports"] (runtime.child 0) runtime.segmentNames
    ["CaptureDebug", "CaptureOpaque"]

/-- The snapshot of the parameters given. -/
def snapshot (runtime : Node) (params : List Param) : Node :=
  if params.isEmpty then ref (use (extend runtime "EMPTY_ARGUMENTS"))
  else
    let create := use (extend (extend runtime "Arguments") "with_capacity")
    let new := call create [count params.length]
    ref (blockExpr ([snapshotImport runtime, letMut argumentsVariable new] ++
      params.map (push runtime) ++ [value (name argumentsVariable)]))

/-- The names of the parameters that are left out. -/
def skippedNames (skip : Skip) : Node := ref (array (skip.parameters.map text))

/-- The statement put in front of a body, if the path of the runtime may stand where it is
needed. -/
def trackerStatement? (runtime : Node) (host : String) (f : Function) : Option Node :=
  let params := capturedParams f.declaration.params host
  if params.isEmpty || fitsImport runtime then
    statement? (call (use (extend runtime trackerEntry))
      [name host, text f.declaration.displayName, snapshot runtime params, skippedNames f.skip])
  else none

end RenderTrace.Injection
