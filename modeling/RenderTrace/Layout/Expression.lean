import RenderTrace.Layout.Pattern

/-!
# The layout of expressions

Two things decide more than the form of an expression. In a chain of calls and fields all points
begin lines or none does, except the first point behind a name that is as short as an indentation
and begins the line. And the body of a closure or an arm that does not fit behind its head goes into
braces, which the layout adds; whether they can be added, and whether a semicolon goes with them, is
said of every form of expression below.
-/

namespace RenderTrace.Layout

open Syntax

variable (self : Layouts)

/-! ### What holds of the forms of expressions -/

/-- Whether an expression is of one of the kinds. -/
def isOneOf (kinds : List Kind) (e : Node) : Bool := e.kind?.any kinds.contains

/-- Whether an expression stands in brackets of its own, so that it may hug the parentheses or the
bars around it. -/
def hugs (e : Node) : Bool :=
  isOneOf [.exprArray, .exprAsync, .exprBlock, .exprClosure, .exprConst, .exprStruct, .exprTryBlock,
    .exprTuple, .exprUnsafe] e && e.outerAttributes.isEmpty

/-- Whether an arm with this body needs a comma. -/
def needsComma (e : Node) : Bool :=
  !isOneOf [.exprIf, .exprMatch, .exprBlock, .exprUnsafe, .exprWhile, .exprLoop, .exprForLoop,
    .exprTryBlock, .exprConst] e

/-- Whether an expression as a statement needs a semicolon. -/
def needsSemicolon (e : Node) : Bool :=
  match e with
  | .node .exprMacro [_, .node .macroCall [_, _, args]] => needsSemicolonAfter args
  | _ => needsComma e

/-- The operators that assign. -/
def assigningOperators : List String :=
  ["+=", "-=", "*=", "/=", "%=", "^=", "&=", "|=", "<<=", ">>="]

/-- Whether a semicolon is added to an expression that has none. -/
def addsSemicolon (e : Node) : Bool :=
  match e with
  | .node .exprBinary [_, _, o, _] => assigningOperators.contains o.text
  | _ => isOneOf [.exprAssign, .exprBreak, .exprContinue, .exprReturn, .exprYield] e

/-- Whether the semicolon of an expression is dropped: behind loops over something, and behind an
`if` that has no last branch. -/
def dropsSemicolon : Node → Bool
  | .node .exprIf [_, _, _, _, else_, branch] => else_.isAbsent || dropsSemicolon branch
  | .node .exprForLoop _ => true
  | .node .exprWhile _ => true
  | _ => false

/-- What an expression begins with, if it begins with an expression that goes on. -/
def leftmost? : Node → Option Node
  | .node .exprAssign [_, l, _, _] => some l
  | .node .exprAwait [_, l, _, _] => some l
  | .node .exprBinary [_, l, _, _] => some l
  | .node .exprCall [_, l, _] => some l
  | .node .exprCast [_, l, _, _] => some l
  | .node .exprField [_, l, _, _] => some l
  | .node .exprIndex [_, l, _] => some l
  | .node .exprMethodCall [_, l, _, _, _, _] => some l
  | .node .exprRange [_, l, _, _] => if l.isAbsent then none else some l
  | .node .exprTry [_, l, _] => some l
  | _ => none

/-- Whether an expression goes on behind what it begins with even where a statement begins: a point
or a `?` does not end a statement, and what is assigned to is taken to go on. -/
def goesOnInStatement (e : Node) : Bool :=
  isOneOf [.exprAssign, .exprAwait, .exprField, .exprMethodCall, .exprTry] e

/-- Whether an expression could stand as a statement: nothing that it begins with would end
there. -/
def standsAsStatement : Nat → Node → Bool
  | 0, _ => true
  | fuel + 1, e =>
    match leftmost? e with
    | some l => (goesOnInStatement e || needsSemicolon l) && standsAsStatement fuel l
    | none => true

/-- Whether the brace behind a condition goes to a line of its own if the condition does not fit. -/
def turnsBefore : Nat → Node → Bool
  | 0, _ => false
  | fuel + 1, e =>
    match e with
    | .node .exprBreak [_, _, _, e] => turnsBefore fuel e
    | .node .exprCall [_, e, _] => turnsBefore fuel e
    | .node .exprLet [_, _, _, _, e] => turnsBefore fuel e
    | .node .exprParen [_, .group _ [e]] => turnsBefore fuel e
    | .node .exprRange [_, _, _, e] => turnsBefore fuel e
    | .node .exprRawAddr [_, _, _, _, e] => turnsBefore fuel e
    | .node .exprReference [_, _, _, e] => turnsBefore fuel e
    | .node .exprReturn [_, _, e] => turnsBefore fuel e
    | .node .exprTry [_, e, _] => turnsBefore fuel e
    | .node .exprUnary [_, _, e] => turnsBefore fuel e
    | .node .exprYield [_, _, e] => turnsBefore fuel e
    | e => isOneOf [.exprAssign, .exprAwait, .exprBinary, .exprCast, .exprField, .exprIndex,
        .exprMethodCall] e

/-- Whether an expression is a name no longer than an indentation. -/
def isShortName (e : Node) : Bool :=
  match e with
  | .node .exprPath [.node .list [], .node .path [.node .absent [], segments]] =>
    match segments.elements with
    | [.node .segment [n, args]] => args.isAbsent && (n.text.utf8ByteSize : Int) ≤ step
    | _ => false
  | _ => false

/-! ### Parts of expressions -/

/-- An expression inside a line. -/
def value (e : Node) : Row := self (.expression false) e

/-- An optional value behind a keyword. -/
def valueBehind (e : Node) : Row := whenThere e fun e => word " " ++ value self e

/-- A label in front of a loop or a block. -/
def label (n : Node) : Row := whenThere n fun n => token (n.child 0) ++ word ": "

/-- The statements of a list. -/
def statements (list : Node) : Row :=
  withLast (fun isLast s => self (.statement isLast) s) list.elements

/-- The list of statements of a block. -/
def statementsOf : Node → Node
  | .node .block [.group _ [list]] => list
  | _ => .list []

/-- A block whose contents may stand behind its brace: one expression, or all else on lines. -/
def smallBlock (attrs : List Node) (block : Node) : Row :=
  let list := statementsOf block
  let contents := match list.elements with
    | [.node .stmtExpr [e, .node .absent []]] => fill 0 (self (.expression true) e) ++ blank
    | _ => statements self list
  word "\x7b" ++
    (if attrs.isEmpty && list.elements.isEmpty then []
      else outdent (blank ++ attributesOf self attrs ++ contents)) ++
    word "\x7d"

/-- The block of an expression in a box of its own. -/
def blockBox (owner block : Node) : Row :=
  together step (smallBlock self owner.innerAttributes block)

/-- The body of an expression behind a head: braces, with the contents on lines. -/
def body (owner block : Node) : Row :=
  together step (outdent (newlineIfMore ++ attributesOf self owner.innerAttributes ++
    statements self (statementsOf block))) ++ word "\x7d"

/-- A condition, with the blank or the end of the line in front of a brace. -/
def conditionOf (e : Node) : Row :=
  together 0 (value self e ++ if turnsBefore e.size e then blank else word " ")

/-- Arguments of a call; a single one that hugs the parentheses stands between them as it is. -/
def callArguments (args : List Node) : Row :=
  match args with
  | [e] => if hugs e then value self e else inside (commas (value self) args)
  | _ => inside (commas (value self) args)

/-- What stands between an expression and a point: the end of the line, unless a short name begins
the line. If the line goes on, a blank keeps the point from one before it. -/
def beforePoint (atStart : Bool) (e : Node) (r : Row) : Row :=
  if atStart && isShortName e then []
  else [.brk { inline := if endsWithPoint r then some ' ' else none }]

/-- Generic arguments of a method. -/
def methodArguments (args : Node) : Row := segmentArguments self true args

/-! ### Chains -/

/-- What a chain goes on from, and the point behind it. -/
def upToPoint (atStart : Bool) (e : Node) : Row :=
  let r := self (.operand atStart) e
  r ++ beforePoint atStart e r ++ word "."

/-- A method call in a chain. -/
def methodLink (atStart outdented : Bool) (receiver n args inputs : Node) : Row :=
  upToPoint self atStart receiver ++ token n ++ methodArguments self args ++
    together (if outdented then -step else 0)
      (word "(" ++ callArguments self inputs.elements ++ word ")")

/-- A point and what stands behind it in a chain. -/
def pointLink (atStart : Bool) (e : Node) (name : String) : Row :=
  upToPoint self atStart e ++ word name

/-- What a chain goes on from. -/
def operand (atStart : Bool) (e : Node) : Row :=
  match e with
  | .node .exprAwait [_, e, _, _] => pointLink self atStart e "await"
  | .node .exprCall [_, f, .group _ [args]] =>
    self (.operand false) f ++ word "(" ++ callArguments self args.elements ++ word ")"
  | .node .exprField [_, e, _, m] => pointLink self atStart e m.text
  | .node .exprIndex [_, e, .group _ [i]] =>
    self (.operand atStart) e ++ word "[" ++ value self i ++ word "]"
  | .node .exprMethodCall [_, receiver, _, n, args, .group _ [inputs]] =>
    methodLink self atStart false receiver n args inputs
  | .node .exprTry [_, e, _] => self (.operand atStart) e ++ word "?"
  | e => together (-step) (value self e)

/-! ### Closures and arms -/

/-- The head of a closure up to its first bar. -/
def closureHead (lifetimes const_ static_ async_ move_ : Node) : Row :=
  forLifetimes self lifetimes ++ mark const_ "const " ++ mark static_ "static " ++
    mark async_ "async " ++ mark move_ "move "

/-- The parameters of a closure behind the first bar. -/
def closureParameters (inputs : List Node) : Row :=
  (if inputs.isEmpty then [] else seam) ++
    withLast (fun isLast p => subpattern self p ++ if isLast then [] else word "," ++ blank) inputs

/-- The body of a closure, in brackets if it does not fit into the line. -/
def closureBody (e : Node) : Row :=
  let plain := if isOneOf [.exprMatch, .exprCall] e then e.outerAttributes.isEmpty else hugs e
  if plain then value self e
  else
    let braced := standsAsStatement e.size e
    together step
      ([.brk { before := some (if braced then '\x7b' else '(') }] ++ value self e ++
        [.brk { offset := -step, before := if braced && addsSemicolon e then some ';' else none,
                after := if braced then "\x7d" else ")" }])

/-- A closure behind its attributes. -/
def closure (head : Row) (inputs : List Node) (output e : Node) : Row :=
  fill 0 (head ++
    if output.isAbsent then
      together step (outdent
        (word "|" ++ closureParameters self inputs ++ word "|" ++ blank)) ++
        glue ++ closureBody self e
    else
      together step
        (word "|" ++
          (if inputs.isEmpty then []
            else outdent (closureParameters self inputs ++ comma true)) ++
          word "|") ++
        returns self output ++ word " " ++ glue ++ value self e)

/-- The body of an arm without the braces around a single expression. -/
def armBody : Nat → Node → Node
  | 0, e => e
  | fuel + 1, e =>
    match e with
    | .node .exprBlock [_, label, b] =>
      match (statementsOf b).elements with
      | [.node .stmtExpr [inner, .node .absent []]] =>
        if e.attributes.isEmpty && label.isAbsent then armBody fuel inner else e
      | _ => e
    | _ => e

/-- A block with nothing in it. -/
def emptyBlock : Node :=
  .node .exprBlock [.list [], .absent, .node .block [.group .brace [.list []]]]

/-- The body of an arm as it is laid out: the empty tuple is an empty block. -/
def shownArmBody (e : Node) : Node :=
  match armBody e.size e with
  | .node .exprTuple [.node .list [], .group _ [.node .list []]] => emptyBlock
  | e => e

/-- An arm of a `match`. -/
def arm : Node → Row
  | .node .arm [attrs, p, _, guard_, _, e, _] =>
    let e := shownArmBody e
    let rest := match e with
      | .node .exprBlock [_, l, b] => label l ++ word "\x7b" ++ glue ++ body self e b
      | e =>
        let braced := standsAsStatement e.size e
        glue ++ together step
          ([.brk { before := some (if braced then '\x7b' else '(') }] ++
            self (.expression true) e ++
            [.brk { offset := -step, before := if braced && addsSemicolon e then some ';' else none,
                    after := if braced then "\x7d" else "),",
                    inline := if needsComma e then some ',' else none }])
    attributesOf self attrs.elements ++
      fill 0 (subpattern self p ++
        (whenThere guard_ fun g => word " if " ++ value self g) ++ word " => " ++ rest)
  | _ => [.unprintable]

/-! ### Expressions with blocks -/

/-- The further branches of an `if`. -/
def elseBranches : Nat → Node → Row
  | 0, _ => [.unprintable]
  | fuel + 1, e =>
    word " else " ++
      match e with
      | .node .exprIf [_, _, c, then_, else_, branch] =>
        word "if " ++ together (-step) (conditionOf self c) ++ smallBlock self [] then_ ++
          if else_.isAbsent then [] else elseBranches fuel branch
      | .node .exprBlock [_, _, b] => smallBlock self [] b
      | _ => [.unprintable]

/-- An `if` with its branches. -/
def ifChain (c then_ else_ branch : Node) : Row :=
  let list := statementsOf then_
  let branches :=
    if !else_.isAbsent then smallBlock self [] then_ ++ elseBranches self branch.size branch
    else if list.elements.isEmpty then word "\x7b\x7d"
    else word "\x7b" ++ outdent (newline ++ statements self list) ++ word "\x7d"
  together step (word "if " ++ together (-step) (conditionOf self c) ++ branches)

/-- The arms of a `match` in their braces. -/
def matchBody (attrs arms : List Node) : Row :=
  together step (outdent (newlineIfMore ++ attributesOf self attrs ++
    arms.flatMap fun a => arm self a ++ newline)) ++ word "\x7d"

/-! ### Collections -/

/-- Whether a literal is a number without a point, a character, a byte or a truth value, so that an
array of such elements fills lines. -/
def isPlainElement (e : Node) : Bool :=
  match e with
  | .node .exprLit [_, .token .word _ _] => true
  | .node .exprLit [_, .token .literal t _] =>
    t.startsWith "'" || t.startsWith "b'" ||
      (Token.Integer.ofLiteral? (if t.startsWith "-" then (t.drop 1).toString else t)).isSome
  | _ => false

/-- The elements of an array. -/
def array (elems : List Node) : Row :=
  if !elems.isEmpty && elems.all isPlainElement then
    word "[" ++
      inside (fill 0 (between (word "," ++ blank) (value self) elems) ++ comma true) ++ word "]"
  else bracketed "[" (value self) elems "]"

/-- A field of a struct literal. -/
def fieldValue : Node → Row
  | .node .fieldValue [attrs, m, _, e] =>
    attributesOf self attrs.elements ++ token m ++ word ": " ++ fill 0 (value self e)
  | .node .fieldValueShort [attrs, e] => attributesOf self attrs.elements ++ value self e
  | _ => [.unprintable]

/-- How wide the inside of a struct literal may be on one line. -/
def structWidth : Nat := 34

/-- A struct literal. -/
def structLiteral (p fields rest : Node) : Row :=
  let elements := fields.elements
  let inner := fill (-step) (path self true p) ++ word " \x7b" ++
    outdent
      (blankIfMore ++
        withLast (fun isLast f =>
          fieldValue self f ++ commaOrBlank (isLast && rest.isAbsent)) elements ++
        whenThere rest fun e => word ".." ++ value self e ++ blank)
  together step (if widthOf inner > structWidth then forced inner else inner) ++ word "\x7d"

/-! ### Expressions -/

/-- A range. Its points keep a blank from points before them. -/
def range (l o r : Node) : Row :=
  let start := whenThere l (value self)
  let behind := value self r
  start ++ word (if endsWithPoint start then " " ++ o.text else o.text) ++
    if r.isAbsent then []
    else if r.is .exprRange && (r.child 1).isAbsent && endsWithPoint (token o) then
      word " " ++ behind
    else behind

/-- A literal; the one that stands for a missing literal has no layout. -/
def literal (n : Node) : Row :=
  if n.text == String.ofList Lexeme.unwritable then [.unprintable] else token n

/-- An expression behind its attributes. -/
def bareExpression (atStart : Bool) (whole : Node) : Row :=
  match whole with
  | .node .exprArray [_, .group _ [elems]] => array self elems.elements
  | .node .exprAssign [_, l, _, r] => fill 0 (value self l ++ word " = " ++ glue ++ value self r)
  | .node .exprAsync [_, _, move_, b] =>
    word "async " ++ mark move_ "move " ++ blockBox self whole b
  | .node .exprAwait [_, e, _, _] => together step (pointLink self atStart e "await")
  | .node .exprBinary [_, l, o, r] =>
    fill step (fill (-step) (value self l) ++ blank ++ token o ++ word " " ++ value self r)
  | .node .exprBlock [_, l, b] => label l ++ blockBox self whole b
  | .node .exprBreak [_, _, l, e] =>
    word "break" ++ (whenThere l fun l => word " " ++ token l) ++ valueBehind self e
  | .node .exprCall [_, f, .group _ [args]] =>
    self (.expression atStart) f ++ word "(" ++ callArguments self args.elements ++ word ")"
  | .node .exprCast [_, e, _, ty] =>
    fill step (fill (-step) (value self e) ++ blank ++ word "as " ++ self .type ty)
  | .node .exprClosure [_, lifetimes, const_, static_, async_, move_, _, inputs, _, output, e] =>
    closure self (closureHead self lifetimes const_ static_ async_ move_) inputs.elements output e
  | .node .exprConst [_, _, b] => word "const " ++ blockBox self whole b
  | .node .exprContinue [_, _, l] => word "continue" ++ whenThere l fun l => word " " ++ token l
  | .node .exprField [_, e, _, m] => together step (pointLink self atStart e m.text)
  | .node .exprForLoop [_, l, _, p, _, e, b] =>
    fill 0 (label l ++ word "for " ++ subpattern self p ++ word " in " ++ glue ++
      conditionOf self e ++ word "\x7b" ++ glue ++ body self whole b)
  | .node .exprIf [_, _, c, then_, else_, branch] => ifChain self c then_ else_ branch
  | .node .exprIndex [_, e, .group _ [i]] =>
    self (.expression atStart) e ++ word "[" ++ value self i ++ word "]"
  | .node .exprInfer _ => word "_"
  | .node .exprLet [_, _, p, _, e] =>
    fill 0 (word "let " ++ fill 0 (subpattern self p) ++ word " = " ++ glue ++
      fill 0 (value self e))
  | .node .exprLit [_, l] => literal l
  | .node .exprLoop [_, l, _, b] => label l ++ word "loop \x7b" ++ body self whole b
  | .node .exprMacro [_, .node .macroCall [p, _, args]] => macroCall p .absent args false
  | .node .exprMatch [_, _, e, .group _ [arms]] =>
    fill 0 (word "match " ++ conditionOf self e ++ word "\x7b" ++ glue ++
      matchBody self whole.innerAttributes arms.elements)
  | .node .exprMethodCall [_, receiver, _, n, args, .group _ [inputs]] =>
    together step (methodLink self atStart (atStart && isShortName receiver) receiver n args inputs)
  | .node .exprParen [_, .group _ [e]] => word "(" ++ value self e ++ word ")"
  | .node .exprPath [_, p] => path self true p
  | .node .exprRange [_, l, o, r] => range self l o r
  | .node .exprRawAddr [_, _, _, qualifier, e] =>
    word "&raw " ++ token qualifier ++ word " " ++ value self e
  | .node .exprReference [_, _, mut_, e] => word "&" ++ mark mut_ "mut " ++ value self e
  | .node .exprRepeat [_, .group _ [e, _, n]] =>
    word "[" ++ value self e ++ word "; " ++ value self n ++ word "]"
  | .node .exprReturn [_, _, e] => word "return" ++ valueBehind self e
  | .node .exprStruct [_, p, .group _ [fields, _, rest]] => structLiteral self p fields rest
  | .node .exprTry [_, e, _] => self (.expression atStart) e ++ word "?"
  | .node .exprTryBlock [_, _, b] => word "try " ++ blockBox self whole b
  | .node .exprTuple [_, .group _ [elems]] => tupled (value self) true elems.elements
  | .node .exprUnary [_, o, e] => token o ++ value self e
  | .node .exprUnsafe [_, _, b] => word "unsafe " ++ blockBox self whole b
  | .node .exprWhile [_, l, _, c, b] =>
    label l ++ word "while " ++ conditionOf self c ++ word "\x7b" ++ glue ++ body self whole b
  | .node .exprYield [_, _, e] => word "yield" ++ valueBehind self e
  | _ => [.unprintable]

/-- An expression. -/
def expression (atStart : Bool) (e : Node) : Row :=
  attributes self e ++ bareExpression self atStart e

end RenderTrace.Layout
