import RenderTrace.Layout.Doc
import RenderTrace.Syntax.Attribute

/-!
# What is laid out

The rules of the layout call each other through `Layouts`: a row for every node in every role that
it can play. The modules beside this one say what the row is, given the rows of the parts, and
`Layout/Unit` ties the knot. This module holds the roles and the forms that many rules share: words
for parts that may be missing, elements with commas, and groups.
-/

namespace RenderTrace.Layout

open Syntax

/-- The roles in which a node is laid out. -/
inductive Role where
  /-- An expression; `atStart` if it begins a line. -/
  | expression (atStart : Bool)
  /-- What a chain of calls and fields goes on from; `atStart` if the chain begins a line. -/
  | operand (atStart : Bool)
  /-- A type. -/
  | type
  /-- A bound. -/
  | bound
  /-- A pattern. -/
  | pattern
  /-- A statement; `isLast` if it is the last one of its block. -/
  | statement (isLast : Bool)
  /-- An item, or a member of one. -/
  | item

/-- A row for every role of every node. -/
abbrev Layouts := Role → Node → Row

/-- The text of a token. -/
def token (n : Node) : Row := word n.text

/-- A text if the part is there. -/
def mark (n : Node) (text : String) : Row := if n.isAbsent then [] else word text

/-- A row for a part if it is there. -/
def whenThere (n : Node) (f : Node → Row) : Row := if n.isAbsent then [] else f n

/-- Elements, each told whether it is the last one. -/
def withLast {α : Type} (f : Bool → α → Row) : List α → Row
  | [] => []
  | [x] => f true x
  | x :: xs => f false x ++ withLast f xs

/-- Elements with commas. -/
def commas (f : Node → Row) (ns : List Node) : Row :=
  withLast (fun isLast n => f n ++ comma isLast) ns

/-- Elements with a row between them. -/
def between (separator : Row) (f : Node → Row) (ns : List Node) : Row :=
  joined separator (ns.map f)

/-- The inside of brackets, one level deeper, where a line may end at both ends. -/
def inside (r : Row) : Row := together step (outdent (seam ++ r))

/-- Elements with commas in brackets. -/
def bracketed (opening : String) (f : Node → Row) (ns : List Node) (closing : String) : Row :=
  word opening ++ inside (commas f ns) ++ word closing

/-- The elements of a tuple; a single one keeps its comma if `commaForOne`. -/
def tupled (f : Node → Row) (commaForOne : Bool) (ns : List Node) : Row :=
  let elements := match ns with
    | [n] => f n ++ (if commaForOne then word "," else []) ++ seam
    | _ => commas f ns
  word "(" ++ inside elements ++ word ")"

/-- The name of a lifetime in front of what it belongs to. -/
def lifetimeBefore (n : Node) : Row := whenThere n fun n => token n ++ word " "

end RenderTrace.Layout
