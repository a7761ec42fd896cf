import RenderTrace.Syntax.SourceUnit

/-!
# Attributes and paths

What a tree says about attributes: which attributes a construct carries, the path of an attribute,
and its arguments; and what it says about paths.
-/

namespace RenderTrace.Syntax.Node

/-! ### Paths -/

/-- The words of segments with separators between them. -/
def wordsOf (segments : List Node) : List String :=
  (segments.filter fun s => !s.isToken).map fun s => (s.child 0).text

/-- The words of a path, without arguments; for a path that begins with a type as a trait, those of
the trait come first. -/
def segmentNames : Node → List String
  | .node .path [_, .node .list segments] => wordsOf segments
  | .node .qualifiedPath [_, _, _, trait_, _, _, .node .list segments] =>
    segmentNames trait_ ++ wordsOf segments
  | _ => []

/-- Whether a path is this single word. -/
def isWord (p : Node) (word : String) : Bool :=
  match p with
  | .node .path [colons, .node .list [.node .segment [w, args]]] =>
    colons.isAbsent && args.isAbsent && w.text == word
  | _ => false

/-! ### Attributes -/

/-- The inside of an attribute. -/
def attributeInside : Node → Node
  | .node .attr [_, _, .group _ [inside]] => inside
  | _ => absent

/-- The path of an attribute. -/
def attributePath (a : Node) : Node := a.attributeInside.child 0

/-- The last word of an attribute's path. -/
def attributeName? (a : Node) : Option String := a.attributePath.segmentNames.getLast?

/-! ### Functions and closures -/

/-- The name in the head of a function, as a token. -/
def signatureName (sig : Node) : Node := sig.child 5

/-- The parameters in the head of a function. -/
def signatureInputs (sig : Node) : List Node := ((sig.child 7).child 0).elements

/-- The opening bar of a closure. -/
def closureBar (c : Node) : Node := c.child 6

/-- The parameters of a closure. -/
def closureInputs (c : Node) : List Node := (c.child 7).elements

/-- The body of a closure. -/
def closureBody (c : Node) : Node := c.child 10

end RenderTrace.Syntax.Node
