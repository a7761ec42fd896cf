import RenderTrace.Layout.Item
import RenderTrace.Syntax.SourceUnit

/-!
# The layout of a unit

Here the rules of the layout are put together, with a bound on the depth of their calls: a rule
calls the others for parts of its node, or for the node itself in a role that takes no further such
step. So twice the size of a node is deep enough.

Comments that document nothing are not part of the tree, and so they are not laid out. A tree with a
construct that it only keeps as tokens has no layout.
-/

namespace RenderTrace

open Syntax

namespace Layout

/-- The row of a node in a role, given the rows of its parts. -/
def rule (self : Layouts) : Role → Node → Row
  | .expression atStart, n => expression self atStart n
  | .operand atStart, n => operand self atStart n
  | .type, n => type self n
  | .bound, n => bound self n
  | .pattern, n => pattern self n
  | .statement isLast, n => statement self isLast n
  | .item, n => item self n

/-- The rows of all nodes in all roles, to a depth. -/
def layouts : Nat → Layouts
  | 0, _, _ => [.unprintable]
  | depth + 1, role, n => rule (layouts depth) role n

/-- The row of a unit. -/
def unitRow (u : SourceUnit) : Row :=
  let self := layouts (2 * (u.attributes.size + u.items.size) + 2)
  together 0
    ((match u.shebang with
      | some line => word line ++ newline
      | none => []) ++
      attributesOf self u.attributes.elements ++ u.items.elements.flatMap (self .item))

end Layout

/-- The text of a unit, if it has a layout. -/
def Syntax.SourceUnit.layout? (u : SourceUnit) : Option String :=
  let row := Layout.unitRow u
  if Layout.Doc.allPrintable row then some (Layout.Row.print row) else none

end RenderTrace
