import RenderTrace.CallGraph.Basic

/-!
# Graphs as DOT text

One line per node, in the order of function numbers, and one per edge. A node is written by its
position in the graph; labels stand in double quotes, in which a quote and a backslash are escaped
by a backslash and all else stands for itself.
-/

namespace RenderTrace.CallGraph

/-- The characters of a label between its quotes. -/
def escapeLabel : List Char → List Char
  | [] => []
  | c :: cs => if c == '\\' || c == '"' then '\\' :: c :: escapeLabel cs else c :: escapeLabel cs

/-- The line style of an edge. -/
def lineStyle : CallKind → String
  | .direct => "solid"
  | .functionLiteral => "dashed"
  | .reference => "dotted"

/-- The line of a node. -/
def nodeLine (g : CallGraph) (label : FunctionId → String) (highlighted : FunctionId → Bool)
    (id : FunctionId) : String :=
  let quotedLabel := "label=\"" ++ String.ofList (escapeLabel (label id).toList) ++ "\""
  let fill := if highlighted id then ", style=filled, fillcolor=\"lightblue\"" else ""
  "  " ++ toString (g.nodeNumber id) ++ " [" ++ quotedLabel ++ fill ++ "];\n"

/-- The line of an edge. -/
def edgeLine (g : CallGraph) (e : Edge) : String :=
  "  " ++ toString (g.nodeNumber e.caller) ++ " -> " ++ toString (g.nodeNumber e.callee) ++
    " [style=" ++ lineStyle e.kind ++ "];\n"

/-- The text of a graph. -/
def toDot (g : CallGraph) (label : FunctionId → String) (highlighted : FunctionId → Bool) :
    String :=
  "digraph CallGraph \x7b\n  rankdir=LR;\n  node [shape=box];\n\n" ++
    String.join (g.sortedNodes.map (g.nodeLine label highlighted)) ++ "\n" ++
    String.join (g.edgesByCaller.map g.edgeLine) ++ "\x7d\n"

end RenderTrace.CallGraph
