import RenderTrace.Function.Declaration

/-!
# Graphs of references between functions

A graph keeps its nodes and its edges in the order in which they were first mentioned. Two functions
are joined at most once in each direction; the kind of the first mention stays.
-/

namespace RenderTrace

/-- How a function refers to another one. -/
inductive CallKind where
  /-- It calls it. -/
  | direct
  /-- It holds it as a closure literal. -/
  | functionLiteral
  /-- It names it as a value. -/
  | reference
  deriving DecidableEq, Repr, Inhabited

/-- The kind as reports show it. -/
def CallKind.name : CallKind → String
  | direct => "direct"
  | functionLiteral => "function_literal"
  | reference => "reference"

/-- An edge of a graph. -/
structure Edge where
  caller : FunctionId
  callee : FunctionId
  kind : CallKind
  deriving DecidableEq, Repr, Inhabited

/-- A graph of references. -/
structure CallGraph where
  nodes : List FunctionId := []
  edges : List Edge := []
  deriving DecidableEq, Repr, Inhabited

namespace CallGraph

/-- A graph with a node for `id`. -/
def addNode (g : CallGraph) (id : FunctionId) : CallGraph :=
  if g.nodes.contains id then g else { g with nodes := g.nodes ++ [id] }

/-- Whether an edge joins two functions in this direction. -/
def joins (g : CallGraph) (caller callee : FunctionId) : Bool :=
  g.edges.any fun e => e.caller == caller && e.callee == callee

/-- A graph with the edge, unless its ends are joined already; and whether the edge was added. -/
def addEdge (g : CallGraph) (e : Edge) : CallGraph × Bool :=
  let g := (g.addNode e.caller).addNode e.callee
  if g.joins e.caller e.callee then (g, false) else ({ g with edges := g.edges ++ [e] }, true)

/-- The edges that leave a function, in the order in which they were added. -/
def edgesFrom (g : CallGraph) (caller : FunctionId) : List Edge :=
  g.edges.filter fun e => e.caller == caller

/-- The nodes in increasing order. -/
def sortedNodes (g : CallGraph) : List FunctionId := g.nodes.mergeSort (· ≤ ·)

/-- All edges, by the function that they leave. -/
def edgesByCaller (g : CallGraph) : List Edge := g.sortedNodes.flatMap g.edgesFrom

/-- The position of a node in the order of first mention. -/
def nodeNumber (g : CallGraph) (id : FunctionId) : Nat := g.nodes.idxOf id

end CallGraph

end RenderTrace
