/-!
# Options

How a unit is analysed and instrumented. Every option has a default, so that an empty configuration
is a valid one.
-/

namespace RenderTrace

/-- The options of a run over one unit. -/
structure Options where
  /-- Whether anything is done at all. -/
  enabled : Bool := true
  /-- Whether render functions marked inline count as ordinary functions. -/
  skipInline : Bool := false
  /-- The path of the module that the injected calls refer to. -/
  runtimePath : String := "::recomp_tracker::runtime"
  /-- The parameter that the injected calls pass on as their host. -/
  hostContext : String := "cx"
  /-- The module path in front of every qualified name. -/
  modulePrefix : Option String := none
  /-- The label of what stands at the top of a file. -/
  fileLabel : String := "<unit>"
  /-- The types whose current value is captured in their place. -/
  reactiveWrappers : List String := ["State", "Signal", "ReadSignal", "Memo"]
  deriving DecidableEq, Repr, Inhabited

namespace Options

/-- Whether a type of this name is captured by its current value. -/
def isReactiveWrapper (o : Options) (name : String) : Bool :=
  o.reactiveWrappers.contains name

/-- The segments of the module prefix; empty ones do not count. -/
def prefixSegments (o : Options) : List String :=
  match o.modulePrefix with
  | none => []
  | some p => (p.splitOn "::").filter (· != "")

end Options

end RenderTrace
