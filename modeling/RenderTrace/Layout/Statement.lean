import RenderTrace.Layout.Expression

/-!
# The layout of statements

Every statement ends its line. A lone semicolon leaves nothing. The semicolon of an expression is
added or dropped by the form of the expression.
-/

namespace RenderTrace.Layout

open Syntax

variable (self : Layouts)

/-- A binding. -/
def localStatement : Node → Row
  | .node .local [attrs, _, p, eq, e, else_, branch, _] =>
    let head := word "let " ++ subpattern self p ++
      if eq.isAbsent then [] else word " = " ++ glue ++ value self e
    attributesOf self attrs.elements ++
      (if else_.isAbsent then fill 0 head
        else fill 0 (head ++ blank ++ word "else ") ++ glue ++
          together step (smallBlock self [] (branch.child 2))) ++
      word ";" ++ newline
  | _ => [.unprintable]

/-- Whether a statement is a lone semicolon. -/
def isEmptyStatement : Node → Bool
  | .node .stmtExpr [.node .verbatim [.unread []], _] => true
  | _ => false

/-- An expression as a statement. -/
def expressionStatement (e semi : Node) : Row :=
  let ends := if semi.isAbsent then addsSemicolon e else !dropsSemicolon e
  fill 0 (self (.expression true) e ++ if ends then word ";" else []) ++ newline

/-- A statement. -/
def statement (isLast : Bool) (s : Node) : Row :=
  match s with
  | .node .local _ => localStatement self s
  | .node .stmtExpr [e, semi] =>
    if isEmptyStatement s then [] else expressionStatement self e semi
  | .node .stmtMacro [attrs, .node .macroCall [p, _, args], semi] =>
    let semicolon := !semi.isAbsent || (!isLast && needsSemicolonAfter args)
    attributesOf self attrs.elements ++ macroCall p .absent args semicolon ++ newline
  | item => self .item item

end RenderTrace.Layout
