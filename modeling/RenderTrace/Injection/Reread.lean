import RenderTrace.Syntax.Grammar.Closure

/-!
# Reading trees again

Generated code is put together from trees, but what it means is what its tokens spell: a tree that
comes into another place, or whose tokens spell another tree, is spelled and read again there.

String literals hold the names of functions, and no rule of the grammar looks into them. So they are
set aside while the tokens are read: a mark with a number stands for each, and the marks are
replaced in the tree that comes of it.
-/

namespace RenderTrace.Syntax.Reread

/-- Whether a literal is a string between plain quotes. -/
def isText (literal : String) : Bool := literal.startsWith "\""

/-- The mark for a text that is set aside: a quote, and as many hash signs as its number says. -/
def mark (number : Nat) : String := String.ofList ('"' :: List.replicate number '#')

/-- The number in a mark. -/
def numberOf (mark : String) : Nat := mark.length - 1

mutual

/-- Sets the texts in a tree aside, behind those that were set aside before. -/
def setAside (texts : List String) : TokenTree → TokenTree × List String
  | .literal t s =>
    if isText t then (.literal (mark texts.length) s, texts ++ [t]) else (.literal t s, texts)
  | .group d opening closing inside =>
    let (inside, texts) := setAsideAll texts inside
    (.group d opening closing inside, texts)
  | t => (t, texts)

/-- Sets the texts in several trees aside. -/
def setAsideAll (texts : List String) : List TokenTree → List TokenTree × List String
  | [] => ([], texts)
  | t :: ts =>
    let (t, texts) := setAside texts t
    let (ts, texts) := setAsideAll texts ts
    (t :: ts, texts)

end

/-- The literal that a mark stands for. -/
def literalOf (texts : List String) (t : String) : String :=
  if isText t then texts.getD (numberOf t) t else t

mutual

/-- Puts texts back into a token tree. -/
def putBackTree (texts : List String) : TokenTree → TokenTree
  | .literal t s => .literal (literalOf texts t) s
  | .group d opening closing inside => .group d opening closing (putBackTrees texts inside)
  | t => t

/-- Puts texts back into several token trees. -/
def putBackTrees (texts : List String) : List TokenTree → List TokenTree
  | [] => []
  | t :: ts => putBackTree texts t :: putBackTrees texts ts

end

mutual

/-- Puts texts back into a syntax tree. -/
def putBack (texts : List String) : Node → Node
  | .token .literal t s => .token .literal (literalOf texts t) s
  | .token cls t s => .token cls t s
  | .unread ts => .unread (putBackTrees texts ts)
  | .group d cs => .group d (putBackAll texts cs)
  | .node k cs => .node k (putBackAll texts cs)

/-- Puts texts back into several syntax trees. -/
def putBackAll (texts : List String) : List Node → List Node
  | [] => []
  | c :: cs => putBack texts c :: putBackAll texts cs

end

/-- What token trees are read as, if they can be read. -/
def reread? (r : Readers → Reader Node) (trees : List TokenTree) : Option Node :=
  let (trees, texts) := setAsideAll [] trees
  ((Grammar.closed r).run trees).toOption.map (putBack texts)

end RenderTrace.Syntax.Reread
