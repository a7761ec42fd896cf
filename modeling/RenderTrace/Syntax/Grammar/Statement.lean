import RenderTrace.Syntax.Grammar.Item

/-!
# Statements

A statement is a binding, an item, a macro call or an expression. An expression that does not end
with its own brace needs a semicolon unless it is the last one of its block.
-/

namespace RenderTrace.Syntax.Grammar

open Reader Probe

variable (self : Readers)

/-- Whether trees end with a group in braces. -/
def endsWithBraceGroup (trees : List TokenTree) : Bool :=
  match trees.getLast? with
  | some (.group .brace _ _ _) => true
  | _ => false

/-- Whether a macro call is delimited by braces. -/
def isBraceMacro : Node → Bool
  | .node .macroCall [_, _, .group .brace _] => true
  | _ => false

/-- The part that a type ends with, if it ends with a part that may end with a brace. -/
def lastPart? : Node → Option Node
  | .node .typeBareFn cs => cs.getLast?
  | .node .returns [_, ty] => some ty
  | .node .typePtr [_, _, ty] => some ty
  | .node .typeReference [_, _, _, ty] => some ty
  | .node .typePath [p] => some p
  | .node .typeImpl [_, bs] => bs.elements.getLast?
  | .node .typeTraitObject [_, bs] => bs.elements.getLast?
  | .node .parenBound [.group _ [b]] => some b
  | .node .traitBound [_, _, p] => some p
  | .node .path [_, segments] => segments.elements.getLast?
  | .node .qualifiedPath [_, _, _, _, _, _, segments] => segments.elements.getLast?
  | .node .segment [_, args] => some args
  | .node .parenArguments [_, output] => some output
  | _ => none

/-- Whether a type ends with a brace. -/
def typeEndsWithBrace : Nat → Node → Bool
  | 0, _ => false
  | fuel + 1, ty =>
    match ty with
    | .node .typeMacro [call] => isBraceMacro call
    | .node .verbatim [.unread trees] => endsWithBraceGroup trees
    | ty => (lastPart? ty).any (typeEndsWithBrace fuel)

/-- Whether an expression ends with a brace, after which `else` would belong to it. -/
def endsWithBrace : Nat → Node → Bool
  | 0, _ => false
  | fuel + 1, e =>
    match e with
    | .node .exprAssign [_, _, _, r] => endsWithBrace fuel r
    | .node .exprBinary [_, _, _, r] => endsWithBrace fuel r
    | .node .exprBreak [_, _, _, r] => endsWithBrace fuel r
    | .node .exprClosure cs => cs.getLast?.any (endsWithBrace fuel)
    | .node .exprLet [_, _, _, _, r] => endsWithBrace fuel r
    | .node .exprRange [_, _, _, r] => endsWithBrace fuel r
    | .node .exprRawAddr [_, _, _, _, r] => endsWithBrace fuel r
    | .node .exprReference [_, _, _, r] => endsWithBrace fuel r
    | .node .exprReturn [_, _, r] => endsWithBrace fuel r
    | .node .exprUnary [_, _, r] => endsWithBrace fuel r
    | .node .exprYield [_, _, r] => endsWithBrace fuel r
    | .node .exprMacro [_, call] => isBraceMacro call
    | .node .exprCast [_, _, _, ty] => typeEndsWithBrace ty.size ty
    | .node .verbatim [.unread trees] => endsWithBraceGroup trees
    | .node k _ => [Kind.exprAsync, .exprBlock, .exprConst, .exprForLoop, .exprIf, .exprLoop,
        .exprMatch, .exprStruct, .exprTryBlock, .exprUnsafe, .exprWhile].contains k
    | _ => false

/-- A binding behind its attributes. -/
def localStatement (attrs : Node) : Reader Node := do
  let let_ ← Reader.keyword "let"
  let p ← self .pattern
  let p ← if ← peek (Probe.op ":") then do
      let colon ← op ":"
      pure (Node.node .patType [.list [], p, colon, ← self (.type true)])
    else pure p
  let eq ← op? "="
  if eq.isAbsent then
    return .node .local [attrs, let_, p, .absent, .absent, .absent, .absent, ← op ";"]
  let value ← self (.expression true)
  if !endsWithBrace value.size value && (← peek (Probe.keyword "else")) then
    let else_ ← Reader.keyword "else"
    let body := Node.node .exprBlock [.list [], .absent, ← plainBlock self]
    return .node .local [attrs, let_, p, eq, value, else_, body, ← op ";"]
  return .node .local [attrs, let_, p, eq, value, .absent, .absent, ← op ";"]

/-- An expression with `attrs` on its leftmost operand. -/
def attributeLeftmost (attrs : Node) : Nat → Node → Node
  | 0, e => addAttributes attrs e
  | fuel + 1, e =>
    match e with
    | .node .exprAssign [a, l, eq, r] =>
      .node .exprAssign [a, attributeLeftmost attrs fuel l, eq, r]
    | .node .exprBinary [a, l, o, r] =>
      .node .exprBinary [a, attributeLeftmost attrs fuel l, o, r]
    | .node .exprCast [a, l, as_, ty] =>
      .node .exprCast [a, attributeLeftmost attrs fuel l, as_, ty]
    | e => addAttributes attrs e

/-- An expression with the semicolon behind it; a macro call that ends there is a statement of its
own. -/
def expressionOrMacro (e semi : Node) : Node :=
  match e with
  | .node .exprMacro [attrs, call] =>
    if !semi.isAbsent || isBraceMacro call then .node .stmtMacro [attrs, call, semi]
    else .node .stmtExpr [e, semi]
  | _ => .node .stmtExpr [e, semi]

/-- An expression as a statement, behind its attributes, which began at `start`. -/
def expressionStatement (start : Cursor) (attrs : Node) : Reader Node := do
  let e ← self .leading
  let e ← if e.is .verbatim then verbatimSince start
    else pure (attributeLeftmost attrs e.size e)
  return expressionOrMacro e (← op? ";")

/-- Whether a statement needs a semicolon before another one. -/
def needsSemicolon : Node → Bool
  | .node .stmtExpr [e, .node .absent []] =>
    match e with
    | .node .exprMacro [_, call] => !isBraceMacro call
    | e => !isBlockLike e
  | .node .stmtMacro [_, call, .node .absent []] => !isBraceMacro call
  | _ => false

/-- The words that begin an item where a statement may stand. -/
def itemStatementNext : Probe :=
  let static_ := (Probe.keyword "static").and (Probe.any [second (Probe.keyword "mut"),
    (second Probe.name).butNot ((second (Probe.keyword "async")).and
      (Probe.any [third (Probe.keyword "move"), third (Probe.op "|")]))])
  let constAsync := (second (Probe.keyword "async")).butNot (Probe.any
    [third (Probe.keyword "unsafe"), third (Probe.keyword "extern"), third (Probe.keyword "fn")])
  let const_ := (Probe.keyword "const").butNot (Probe.any [second brace,
    second (Probe.keyword "static"), constAsync, second (Probe.keyword "move"),
    second (Probe.op "|")])
  let async_ := (Probe.keyword "async").and (Probe.any [second (Probe.keyword "unsafe"),
    second (Probe.keyword "extern"), second (Probe.keyword "fn")])
  let default_ := (Probe.keyword "default").and
    (Probe.any [second (Probe.keyword "unsafe"), second (Probe.keyword "impl")])
  Probe.any [Probe.keyword "pub", (Probe.keyword "crate").butNot (second (Probe.op "::")),
    Probe.keyword "extern", Probe.keyword "use", static_, const_,
    (Probe.keyword "unsafe").butNot (second brace), async_, Probe.keyword "fn",
    Probe.keyword "mod", Probe.keyword "type", Probe.keyword "struct", Probe.keyword "enum",
    (Probe.keyword "union").and (second Probe.name),
    (Probe.keyword "auto").and (second (Probe.keyword "trait")), Probe.keyword "trait", default_,
    Probe.keyword "impl", Probe.keyword "macro"]

/-- What a macro's path and exclamation mark lead to, where a statement begins. -/
inductive MacroAhead where
  /-- No macro, or one that is part of an expression. -/
  | none
  /-- A macro that defines a name. -/
  | item
  /-- A macro with braces, which is a statement. -/
  | statement
  deriving DecidableEq

/-- Looks for a macro where a statement begins. -/
def macroAhead : Reader MacroAhead := do
  let found ← ahead? do
    let _ ← plainPath
    return (← get).rest
  match found with
  | none => return .none
  | some ts =>
    if !Probe.op "!" ts then return .none
    if (Probe.any [second Probe.name, second (Probe.keyword "try")]) ts then return .item
    let goesOn := Probe.any [(third (Probe.op ".")).butNot (third (Probe.op "..")),
      third (Probe.op "?")]
    if ((second brace).butNot goesOn) ts then return .statement
    return .none

/-- A statement. -/
def statement : Reader Node :=
  orVerbatim do
    let start ← get
    let attrs ← outerAttributes self
    let found ← macroAhead
    if found = .statement then
      let call ← macroAfter (← plainPath)
      return some (.node .stmtMacro [attrs, call, ← op? ";"])
    if ← peek (Probe.keyword "let") then return some (← localStatement self attrs)
    if found = .item || (← peek itemStatementNext) then return ← itemAfter self attrs
    return some (← expressionStatement self start attrs)

/-- A lone semicolon, which is a statement without an expression. -/
def emptyStatement : Reader Node := do
  return .node .stmtExpr [.node .verbatim [.unread []], ← op ";"]

/-- The statements up to the end of the group. -/
def statements : Reader Node :=
  parts do
    if ← peek (Probe.op ";") then return ([← emptyStatement], true)
    if ← atEnd then return ([], false)
    let s ← statement self
    if ← atEnd then return ([s], false)
    if needsSemicolon s then fail "unexpected token, expected `;`"
    return ([s], true)

end RenderTrace.Syntax.Grammar
