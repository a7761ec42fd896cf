import RenderTrace.Injection.Reread
import RenderTrace.Syntax.Attribute
import RenderTrace.Text.Quoted

/-!
# Pieces of generated syntax

Trees that no text spells, in the layouts that the grammar gives to them, so that generated code and
code that was read are the same data.

## Paths of the runtime

A path may be written as types have it, with generic arguments but no `::` in front. In a call these
angles read as comparisons: what is meant as a call by such a path is no expression or, as with
`a<b = c>`, an assignment. So a statement is what its tokens are read as (`statement?`).
-/

namespace RenderTrace.Quotation

open Syntax

/-- No attributes. -/
def plain : Node := .list []

/-- A sequence with commas between the elements. -/
def commas : List Node → Node
  | [] => .list []
  | e :: es => .list (e :: es.flatMap fun x => [.op ",", x])

/-- A segment without arguments. -/
def segment (word : String) : Node := .node .segment [.word word, .absent]

/-- A path of words behind a root, if `rooted`. -/
def path (rooted : Bool) (words : List String) : Node :=
  let segments := match words with
    | [] => []
    | w :: ws => segment w :: ws.flatMap fun x => [.op "::", segment x]
  .node .path [if rooted then .op "::" else .absent, .list segments]

/-- A path with one more word. -/
def extend (p : Node) (word : String) : Node :=
  Grammar.mapSegments (· ++ [.op "::", segment word]) p

/-- A path as an expression. -/
def use (p : Node) : Node := .node .exprPath [plain, p]

/-- A name as an expression. -/
def name (word : String) : Node := use (path false [word])

/-- A string literal. -/
def text (s : String) : Node :=
  .node .exprLit [plain, .token .literal (Text.stringLiteral s) .nowhere]

/-- A count as a literal. -/
def count (n : Nat) : Node :=
  .node .exprLit [plain, .token .literal (toString n ++ "usize") .nowhere]

/-- A call. -/
def call (f : Node) (args : List Node) : Node :=
  .node .exprCall [plain, f, .group .paren [commas args]]

/-- A method call. -/
def methodCall (receiver : Node) (method : String) (args : List Node) : Node :=
  .node .exprMethodCall
    [plain, receiver, .op ".", .word method, .absent, .group .paren [commas args]]

/-- A shared reference. -/
def ref (e : Node) : Node := .node .exprReference [plain, .op "&", .absent, e]

/-- An expression in parentheses. -/
def paren (e : Node) : Node := .node .exprParen [plain, .group .paren [e]]

/-- An array. -/
def array (elements : List Node) : Node :=
  .node .exprArray [plain, .group .bracket [commas elements]]

/-- Whether a path may stand in an expression. -/
def fitsExpression (p : Node) : Bool :=
  (Grammar.segmentsOf p).elements.all fun s =>
    match s with
    | .node .segment [_, .node .angleArguments (colons :: _)] => !colons.isAbsent
    | _ => true

/-- Whether the tokens of an expression spell it. -/
def spellsItself : Node → Bool
  | .node .exprCall [_, .node .exprPath [_, p], _] => fitsExpression p
  | _ => true

/-- An expression with a semicolon, as its tokens are read. If they do not spell it, there is an
equals sign between the angles, or they cannot be read. -/
def statement? (e : Node) : Option Node :=
  let s := Node.node .stmtExpr [e, .op ";"]
  if spellsItself e then some s
  else
    match Reread.reread? Grammar.statement s.trees with
    | some (.node .stmtExpr [.node .exprAssign parts, semi]) =>
      some (.node .stmtExpr [.node .exprAssign parts, semi])
    | _ => none

/-- An expression as a statement with a semicolon. -/
def statement (e : Node) : Node := (statement? e).getD (.node .stmtExpr [e, .op ";"])

/-- An expression as the value of its block. -/
def value (e : Node) : Node := .node .stmtExpr [e, .absent]

/-- A block. -/
def block (statements : List Node) : Node :=
  .node .block [.group .brace [.list statements]]

/-- A block as an expression. -/
def blockExpr (statements : List Node) : Node := .node .exprBlock [plain, .absent, block statements]

/-- A pattern that binds a name. -/
def bind (word : String) (mutable : Bool) : Node :=
  .node .patIdent
    [plain, .absent, if mutable then .word "mut" else .absent, .word word, .absent, .absent]

/-- A closure of one parameter. -/
def closure (param : String) (body : Node) : Node :=
  .node .exprClosure [plain, .absent, .absent, .absent, .absent, .absent, .op "|",
    .list [bind param false], .op "|", .absent, body]

/-- A mutable variable with its value. -/
def letMut (word : String) (e : Node) : Node :=
  .node .local [plain, .word "let", bind word true, .op "=", e, .absent, .absent, .op ";"]

/-- An attribute that allows a lint. -/
def allow (lint : String) : Node :=
  .node .attr [.op "#", .absent, .group .bracket [.node .metaList
    [path false ["allow"], .group .paren [.unread [.name lint .nowhere]]]]]

/-- An import of traits below a module, without names for them. -/
def importTraits (attributes : List Node) (colons : Node) (module traits : List String) : Node :=
  let leaves := commas (traits.map fun t => .node .useRename [.word t, .word "as", .word "_"])
  let tree := module.foldr (fun w t => .node .usePath [.word w, .op "::", t])
    (.node .useGroup [.group .brace [leaves]])
  .node .itemUse [.list attributes, .absent, .word "use", colons, tree, .op ";"]

end RenderTrace.Quotation
