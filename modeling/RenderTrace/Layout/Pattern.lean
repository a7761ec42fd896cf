import RenderTrace.Layout.Type

/-!
# The layout of patterns

A pattern that is a constant, a path, a range or a macro is laid out as that expression is.
-/

namespace RenderTrace.Layout

open Syntax

variable (self : Layouts)

/-- A pattern. -/
def subpattern (p : Node) : Row := self .pattern p

/-- A bar in front of each pattern but the first. -/
def patOr (cases : List Node) : Row :=
  let plain := cases.all fun c => c.is .exprLit || c.is .patWild
  boxed (if plain then .fill else .together) 0
    (between (blank ++ word "| ") (subpattern self) cases)

/-- A field of a struct pattern. -/
def fieldPat : Node → Row
  | .node .fieldPat [attrs, m, _, p] =>
    attributesOf self attrs.elements ++ token m ++ word ": " ++ subpattern self p
  | .node .fieldPatShort [attrs, p] => attributesOf self attrs.elements ++ subpattern self p
  | n => subpattern self n

/-- The fields of a struct pattern; the `..` that may end them has no comma. -/
def fieldPats (ns : List Node) : Row :=
  withLast (fun isLast n =>
    fieldPat self n ++ if n.is .patRest then blank else commaOrBlank isLast) ns

/-- The path of a pattern with fields. A path that begins with a type goes on from the trait of the
type, or from the root if there is none. -/
def patternPath : Node → Row
  | .node .qualifiedPath [_, _, _, trait_, _, _, segments] =>
    match trait_ with
    | .node .path _ =>
      path self true trait_ ++
        segments.elements.flatMap fun s => word "::" ++ segment self true s
    | _ => path self true (.node .path [.op "::", segments])
  | p => path self true p

/-- A pattern behind its attributes. -/
def barePattern : Node → Row
  | .node .patIdent [_, ref_, mut_, n, _, sub] =>
    mark ref_ "ref " ++ mark mut_ "mut " ++ token n ++
      whenThere sub fun p => word " @ " ++ subpattern self p
  | .node .patOr [_, _, cases] => patOr self cases.elements
  | .node .patParen [_, .group _ [p]] => word "(" ++ subpattern self p ++ word ")"
  | .node .patReference [_, _, mut_, p] => word "&" ++ mark mut_ "mut " ++ subpattern self p
  | .node .patRest _ => word ".."
  | .node .patSlice [_, .group _ [elems]] =>
    word "[" ++ commas (subpattern self) elems.elements ++ word "]"
  | .node .patStruct [_, p, .group _ [fields]] =>
    together step (patternPath self p ++ word " \x7b" ++
      outdent (blankIfMore ++ fieldPats self fields.elements)) ++ word "\x7d"
  | .node .patTuple [_, .group _ [elems]] =>
    tupled (subpattern self) elems.endsWithSeparator elems.elements
  | .node .patTupleStruct [_, p, .group _ [elems]] =>
    patternPath self p ++ bracketed "(" (subpattern self) elems.elements ")"
  | .node .patType [_, p, _, ty] => subpattern self p ++ word ": " ++ self .type ty
  | .node .patWild _ => word "_"
  | _ => [.unprintable]

/-- Whether a pattern is the tree of an expression. -/
def isExpressionPattern (n : Node) : Bool :=
  n.is .exprLit || n.is .exprPath || n.is .exprRange || n.is .exprMacro || n.is .exprConst

/-- A pattern. -/
def pattern (n : Node) : Row :=
  if isExpressionPattern n then self (.expression false) n
  else attributes self n ++ barePattern self n

end RenderTrace.Layout
