import RenderTrace.Injection.Snapshot
import RenderTrace.Analysis

/-!
# Weaving tracker calls into a unit

Every function of the closure gets one tracker call in front of its body. Functions are found again
by the place of the token that names them, so the tree must be the one that was analysed. Inner
functions get theirs before the ones around them.

A function is left as it is if its body begins with a tracker call already, or if it has no
parameter for the host. An injector remembers the functions that it met, and a later pass passes
over them.
-/

namespace RenderTrace

open Syntax

/-- Why the options allow no instrumentation. -/
inductive Unresolvable where
  /-- The path of the runtime is none. -/
  | runtimePath (text : String) (cause : SyntaxError)
  /-- The name of the host is none. -/
  | hostContext (text : String) (cause : SyntaxError)
  deriving DecidableEq, Repr

/-- The warning about options that allow no instrumentation. -/
def Unresolvable.message : Unresolvable → String
  | runtimePath t e =>
    "runtime path " ++ Reader.shown t ++ " is not a path (" ++ e.message ++
      "); instrumentation skipped"
  | hostContext t e =>
    "host context " ++ Reader.shown t ++ " is not an identifier (" ++ e.message ++
      "); instrumentation skipped"

/-- Why no call can be woven in. -/
inductive Breakdown where
  /-- The path of the runtime may not stand where the tracker call needs it. -/
  | runtimePath
  /-- The body of a closure cannot be the only statement of a block. -/
  | closureBody
  /-- The tree holds a construct that has no layout. -/
  | layout
  deriving DecidableEq, Repr

/-- What instruments bodies: the path of the runtime, the name of the host, and the functions met.
-/
structure Injector where
  runtime : Node
  host : String
  visited : List FunctionId := []
  deriving Repr, Inhabited

/-- What a pass did. -/
structure InjectionSummary where
  /-- The functions that got a tracker call, in the order in which they got it. -/
  instrumented : List FunctionId := []
  /-- The members of the closure that were left as they are. -/
  untouched : List FunctionId := []
  warnings : List String := []
  records : List Record := []
  deriving Repr, Inhabited

/-- The summary with a record of the whole pass. -/
def InjectionSummary.concluded (s : InjectionSummary) : InjectionSummary :=
  { s with records := s.records ++ [⟨.info, .instrument,
      "Instrumented " ++ toString s.instrumented.length ++ " functions (" ++
        toString s.untouched.length ++ " untouched)"⟩] }

namespace Injector

/-- The injector that the options describe. -/
def ofOptions (o : Options) : Except Unresolvable Injector := do
  let runtime ← (pathOf o.runtimePath).mapError (.runtimePath o.runtimePath)
  let host ← (nameOf o.hostContext).mapError (.hostContext o.hostContext)
  return { runtime, host }

/-- A pass over a unit: the functions met so far, and what was done. -/
structure Pass where
  visited : List FunctionId
  summary : InjectionSummary := {}

/-- A step of a pass. -/
abbrev Weaving (α : Type) := StateT Pass (Except Breakdown) α

/-- Whether a statement is a tracker call. -/
def isTrackerCall : Node → Bool
  | .node .stmtExpr [.node .exprCall [_, .node .exprPath [_, p], _], semi] =>
    !semi.isAbsent && p.segmentNames.getLast? == some Injection.trackerEntry
  | _ => false

/-- The statements of a block. -/
def statementsOf : Node → List Node
  | .node .block [.group _ [statements]] => statements.children
  | _ => []

/-- Whether a block begins with a tracker call. -/
def isInstrumented (block : Node) : Bool := (statementsOf block).head?.any isTrackerCall

/-- A block with a statement in front of the others. -/
def prepend (statement : Node) : Node → Node
  | .node .block [.group d [.node .list statements]] =>
    .node .block [.group d [.list (statement :: statements)]]
  | n => n

/-- The member of the closure that a place names, if it was not met yet. -/
def target? (a : Analysis) (visited : List FunctionId) (l : Location) : Option Function := do
  let id ← a.lookup l
  if a.closure.contains id && !visited.contains id then a.function? id else none

/-- Notes a function that is left as it is. -/
def leave (id : FunctionId) (warning : Option String) (r : Record) : Weaving Unit :=
  modify fun p => { p with summary := { p.summary with
    untouched := p.summary.untouched ++ [id]
    warnings := p.summary.warnings ++ warning.toList
    records := p.summary.records ++ [r] } }

/-- Notes a function that got its tracker call. -/
def done (id : FunctionId) (r : Record) : Weaving Unit :=
  modify fun p => { p with summary := { p.summary with
    instrumented := p.summary.instrumented ++ [id]
    records := p.summary.records ++ [r] } }

/-- Instruments the body of the function that a place names. -/
def weaveBody (inj : Injector) (a : Analysis) (l : Location) (block : Node) : Weaving Node := do
  match target? a (← get).visited l with
  | none => return block
  | some f =>
    let id := f.declaration.id
    let shown := f.declaration.displayName
    modify fun p => { p with visited := p.visited ++ [id] }
    if isInstrumented block then
      leave id none ⟨.debug, .instrument, shown ++ " already instrumented"⟩
      return block
    else if !(f.declaration.params.any fun p => p.name == inj.host) then
      let warning := shown ++ " has no " ++ Reader.shown inj.host ++
        " parameter; not instrumented"
      leave id (some warning) ⟨.warn, .instrument, warning⟩
      return block
    else
      match Injection.trackerStatement? inj.runtime inj.host f with
      | none => throw .runtimePath
      | some statement =>
        done id ⟨.debug, .instrument, "Instrumented " ++ shown⟩
        return prepend statement block

/-- The block that a closure's body is already. -/
def plainBlock? : Node → Option Node
  | .node .exprBlock [.node .list [], .node .absent [], b] => some b
  | _ => none

/-- An expression as the only statement of a block, read again in that place. -/
def wrap (body : Node) : Weaving Node := do
  let trees := [TokenTree.group .brace .nowhere .nowhere body.trees]
  match Reread.reread? Grammar.plainBlock trees with
  | some b => return b
  | none => throw .closureBody

/-- Instruments the body of the closure that a place names. -/
def weaveClosureBody (inj : Injector) (a : Analysis) (l : Location) (body : Node) :
    Weaving Node := do
  match target? a (← get).visited l with
  | none => return body
  | some _ =>
    let block ← match plainBlock? body with
      | some b => pure b
      | none => wrap body
    return .node .exprBlock [.list [], .absent, ← weaveBody inj a l block]

/-- Instruments a node whose children are done. -/
def weaveNode (inj : Injector) (a : Analysis) (k : Kind) (cs : List Node) : Weaving Node := do
  match k, cs with
  | .itemFn, [attrs, vis, sig, block] =>
    return .node k [attrs, vis, sig, ← weaveBody inj a sig.signatureName.location block]
  | .implFn, [attrs, vis, default_, sig, block] =>
    return .node k [attrs, vis, default_, sig,
      ← weaveBody inj a sig.signatureName.location block]
  | .traitFn, [attrs, sig, block, semi] =>
    if block.isAbsent then return .node k cs
    return .node k [attrs, sig, ← weaveBody inj a sig.signatureName.location block, semi]
  | .exprClosure, [attrs, ls, const_, static_, async_, move_, bar, inputs, close, output, body] =>
    return .node k [attrs, ls, const_, static_, async_, move_, bar, inputs, close, output,
      ← weaveClosureBody inj a bar.location body]
  | _, _ => return .node k cs

mutual

/-- Instruments a tree, inner functions first. -/
def weave (inj : Injector) (a : Analysis) : Node → Weaving Node
  | .node k cs => do weaveNode inj a k (← weaveAll inj a cs)
  | .group d cs => return .group d (← weaveAll inj a cs)
  | n => return n

/-- Instruments several trees in a row. -/
def weaveAll (inj : Injector) (a : Analysis) : List Node → Weaving (List Node)
  | [] => return []
  | c :: cs => return (← weave inj a c) :: (← weaveAll inj a cs)

end

/-- Instruments the two trees of a unit, one after the other. -/
def weaveUnit (inj : Injector) (a : Analysis) (u : SourceUnit) : Weaving (Node × Node) := do
  return (← weave inj a u.attributes, ← weave inj a u.items)

/-- Instruments every member of the closure in a unit. -/
def apply (inj : Injector) (a : Analysis) (u : SourceUnit) :
    Except Breakdown (Injector × SourceUnit × InjectionSummary) := do
  let ((attributes, items), p) ← (weaveUnit inj a u).run ⟨inj.visited, {}⟩
  return ({ inj with visited := p.visited }, { u with attributes, items }, p.summary.concluded)

end Injector

end RenderTrace
