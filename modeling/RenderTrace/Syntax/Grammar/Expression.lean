import RenderTrace.Syntax.Grammar.Pattern

/-!
# Expressions

Binary operators are read by precedence climbing: `operators left base` takes the operators that
bind at least as tightly as `base`, and the right side of each takes all that bind tighter than it
(or equally, for assignments). Comparisons do not chain, and a range is never the left side of
another operator.

`structs` says whether a brace behind a path opens a struct literal; it does not in the head of an
`if`, `while`, `for` or `match`.
-/

namespace RenderTrace.Syntax.Grammar

open Reader Probe

variable (self : Readers)

/-! ### Operators -/

/-- The binary operators in the order in which they are tried, so that a longer one comes before its
beginning. -/
def binaryOperators : List (String × Precedence) :=
  [("+=", .assign), ("-=", .assign), ("*=", .assign), ("/=", .assign), ("%=", .assign),
    ("^=", .assign), ("&=", .assign), ("|=", .assign), ("<<=", .assign), (">>=", .assign),
    ("&&", .and), ("||", .or), ("<<", .shift), (">>", .shift), ("==", .compare), ("<=", .compare),
    ("!=", .compare), (">=", .compare), ("+", .sum), ("-", .sum), ("*", .product), ("/", .product),
    ("%", .product), ("^", .bitXor), ("&", .bitAnd), ("|", .bitOr), ("<", .compare),
    (">", .compare)]

/-- The binary operator that comes next. -/
def binaryOperator? (ts : List TokenTree) : Option (String × Precedence) :=
  binaryOperators.find? fun o => Probe.op o.1 ts

/-- The precedence of an operator by its text. -/
def precedenceOf (text : String) : Precedence :=
  ((binaryOperators.find? fun o => o.1 == text).map (·.2)).getD .lowest

/-- An assignment comes next. -/
def assignNext : Probe := (Probe.op "=").butNot (Probe.op "=>")

/-- How tightly what comes next binds. -/
def nextPrecedence (ts : List TokenTree) : Precedence :=
  match binaryOperator? ts with
  | some (_, p) => p
  | none =>
    if assignNext ts then .assign
    else if Probe.op ".." ts then .range
    else if Probe.keyword "as" ts then .cast
    else .lowest

/-- The right side of an operator: an operand with all that binds tighter. -/
def rightSide (structs : Bool) (p : Precedence) : Reader Node := do
  let first ← self (.operand structs)
  let rec extend : Nat → Node → Reader Node
    | 0, e => return e
    | fuel + 1, e => do
      let c ← get
      let next := nextPrecedence c.rest
      if next.rank > p.rank || (next == p && p == .assign) then
        let e ← self (.operators e structs next)
        if (← get).rest.length == c.rest.length then return e
        extend fuel e
      else return e
  extend ((← get).rest.length + 1) first

/-- What ends a range that has no upper end. -/
def rangeStops (structs : Bool) : Probe :=
  Probe.any ([List.isEmpty, Probe.op ",", Probe.op ";", (Probe.op ".").butNot (Probe.op ".."),
    Probe.op "?", Probe.op "=>", Probe.op "=", Probe.op "+", Probe.op "/", Probe.op "%",
    Probe.op "^", Probe.op ">", Probe.op "<=", Probe.op "!=", Probe.op "-=", Probe.op "*=",
    Probe.op "&=", Probe.op "|=", Probe.op "<<=", Probe.keyword "as"] ++
    if structs then [] else [brace])

/-- The dots of a range, of which there are two at least. -/
def rangeLimits : Reader Node := do
  if ← peek (Probe.op "..=") then return ← op "..="
  if ← peek (Probe.op "...") then expected [shown "..="]
  op ".."

/-- The rest of a range behind its lower end. -/
def rangeFrom (structs : Bool) (start : Node) : Reader Node := do
  let limits ← rangeLimits
  if limits.text == ".." && (← peek (rangeStops structs)) then
    return .node .exprRange [.list [], start, limits, .absent]
  return .node .exprRange [.list [], start, limits, ← rightSide self structs .range]

/-- What may not follow a cast. -/
def afterCast? (ts : List TokenTree) : Option String :=
  if ((Probe.op ".").butNot (Probe.op "..")) ts then
    if second (Probe.keyword "await") ts then some "`.await`"
    else if (second Probe.name) ts && (third paren ts || third (Probe.op "::") ts) then
      some "a method call"
    else some "a field access"
  else if Probe.op "?" ts then some (shown "?")
  else if bracket ts then some "indexing"
  else if paren ts then some "a function call"
  else none

/-- Whether an expression is a comparison. -/
def isComparison : Node → Bool
  | .node .exprBinary [_, _, sign, _] => precedenceOf sign.text == .compare
  | _ => false

/-- The operators from `base` on that follow `left`. -/
def operators (left : Node) (structs : Bool) (base : Precedence) : Reader Node := do
  let ts := (← get).rest
  if left.is .exprRange then return left
  match binaryOperator? ts with
  | some (text, p) =>
    if p.rank < base.rank then return left
    if p == .compare && isComparison left then fail "comparison operators cannot be chained"
    let sign ← op text
    let right ← rightSide self structs p
    self (.operators (.node .exprBinary [.list [], left, sign, right]) structs base)
  | none =>
    if Precedence.assign.rank ≥ base.rank && assignNext ts then
      let eq ← op "="
      let right ← rightSide self structs .assign
      self (.operators (.node .exprAssign [.list [], left, eq, right]) structs base)
    else if Precedence.range.rank ≥ base.rank && Probe.op ".." ts then
      let e ← rangeFrom self structs left
      self (.operators e structs base)
    else if Precedence.cast.rank ≥ base.rank && Probe.keyword "as" ts then
      let as_ ← Reader.keyword "as"
      let ty ← self (.type false)
      match afterCast? (← get).rest with
      | some what => fail ("casts cannot be followed by " ++ what)
      | none => self (.operators (.node .exprCast [.list [], left, as_, ty]) structs base)
    else return left

/-! ### Attributes of expressions -/

/-- An expression with more attributes in front of its own. A range takes them in parentheses, since
without them they would be those of its lower end. -/
def addAttributes (attrs : Node) (e : Node) : Node :=
  if attrs.children.isEmpty then e
  else
    match e with
    | .node .verbatim _ => e
    | .node .exprRange _ => .node .exprParen [attrs, .group .paren [e]]
    | .node k (.node .list own :: cs) => .node k (.list (attrs.children ++ own) :: cs)
    | e => e

/-- The attributes of a pattern replaced. -/
def withAttributes (attrs : Node) (p : Node) : Node :=
  match p with
  | .node .verbatim _ => p
  | .node .exprRange _ =>
    if attrs.children.isEmpty then p else .node .patParen [attrs, .group .paren [p]]
  | .node k (.node .list _ :: cs) => .node k (attrs :: cs)
  | p => p

/-! ### Parts of expressions -/

/-- Comma-separated expressions in a group. -/
def expressionList : Reader Node := commaList (self (.expression true))

/-- A label in front of a loop or a block. -/
def label : Reader Node := do
  let l ← Reader.lifetime
  return .node .label [l, ← op ":"]

/-- A field of a struct literal. -/
def structField : Reader Node := do
  let attrs ← outerAttributes self
  let m ← member
  if (← peek (Probe.op ":")) || !isNamed m then
    let colon ← op ":"
    return .node .fieldValue [attrs, m, colon, ← self (.expression true)]
  let p := Node.node .path [.absent, .list [.node .segment [m, .absent]]]
  return .node .fieldValueShort [attrs, .node .exprPath [.list [], p]]

/-- The fields of a struct literal and the value that gives the others. -/
def structFields : Reader (List Node) := do
  let fields ← parts do
    if ← peek (Probe.any [List.isEmpty, Probe.op ".."]) then return ([], false)
    let f ← structField self
    if ← atEnd then return ([f], false)
    return ([f, ← op ","], true)
  if ← peek (Probe.op "..") then
    let dots ← op ".."
    let rest ← if ← atEnd then pure .absent else self (.expression true)
    return [fields, dots, rest]
  return [fields, .absent, .absent]

/-- A path, a macro call or a struct literal. -/
def pathExpression (structs : Bool) : Reader Node := do
  let p ← qualifiedPath self true
  if (← peek macroBang) && isPlainPath p then
    return .node .exprMacro [.list [], ← macroAfter p]
  if structs && (← peek brace) then
    return .node .exprStruct [.list [], p, ← groupOf .brace (structFields self)]
  return .node .exprPath [.list [], p]

/-- An expression in parentheses, or a tuple. -/
def parenExpression : Reader Node := do
  inGroup .paren do
    if ← atEnd then return .node .exprTuple [.list [], .group .paren [.list []]]
    let first ← self (.expression true)
    if ← atEnd then return .node .exprParen [.list [], .group .paren [first]]
    let comma ← op ","
    let rest ← expressionList self
    return .node .exprTuple [.list [], .group .paren [.list (first :: comma :: rest.children)]]

/-- An array by its elements, or by one element and a count. -/
def arrayExpression : Reader Node := do
  inGroup .bracket do
    if ← atEnd then return .node .exprArray [.list [], .group .bracket [.list []]]
    let first ← self (.expression true)
    if ← atEnd then return .node .exprArray [.list [], .group .bracket [.list [first]]]
    if ← peek (Probe.op ",") then
      let comma ← op ","
      let rest ← expressionList self
      return .node .exprArray [.list [], .group .bracket [.list (first :: comma :: rest.children)]]
    if ← peek (Probe.op ";") then
      let semi ← op ";"
      return .node .exprRepeat
        [.list [], .group .bracket [first, semi, ← self (.expression true)]]
    fail "expected `,` or `;`"

/-- What may begin an expression. -/
def expressionNext : Probe :=
  Probe.any [Probe.anyWord.butNot (Probe.keyword "as"), paren, bracket, brace, Probe.literal,
    (Probe.op "!").butNot (Probe.op "!="),
    (Probe.op "-").butNot (Probe.any [Probe.op "-=", Probe.op "->"]),
    (Probe.op "*").butNot (Probe.op "*="), (Probe.op "|").butNot (Probe.op "|="),
    (Probe.op "&").butNot (Probe.op "&="), Probe.op "..",
    (Probe.op "<").butNot (Probe.any [Probe.op "<=", Probe.op "<<="]), Probe.op "::",
    Probe.lifetime, Probe.op "#"]

/-- A `break`, with a label and a value if they are given. -/
def breakExpression (structs : Bool) : Reader Node := do
  let break_ ← Reader.keyword "break"
  if ← peek (Probe.lifetime.and (second (Probe.op ":"))) then
    let before ← get
    let _ ← self (.expression true)
    let taken := before.rest.take (before.rest.length - (← get).rest.length)
    let stop := match taken.getLast? with
      | some t => fullSpan t
      | none => place before
    failAt ((place before).join stop) "parentheses required"
  let l ← whenNext Probe.lifetime Reader.lifetime
  let value ← if (← peek expressionNext) && (structs || !(← peek brace)) then
      self (.expression true)
    else pure .absent
  return .node .exprBreak [.list [], break_, l, value]

/-- An expression with its leftmost part in parentheses if that is a block without a label. -/
def parenthesizeLeftBlock : Nat → Node → Node
  | 0, e => e
  | fuel + 1, e =>
    match e with
    | .node .exprBlock [.node .list [], .node .absent [], _] =>
      .node .exprParen [.list [], .group .paren [e]]
    | .node k (attrs :: l :: rest) =>
      if [Kind.exprAssign, .exprAwait, .exprBinary, .exprCall, .exprCast, .exprField, .exprIndex,
          .exprMethodCall, .exprRange, .exprTry].contains k then
        .node k (attrs :: parenthesizeLeftBlock fuel l :: rest)
      else e
    | e => e

/-- The optional value behind a keyword. In a condition, where `structs` does not hold, a block at
its beginning is put in parentheses, so that it is not taken for the body behind the condition. -/
def optionalValue (structs : Bool) : Reader Node := do
  if ← peek expressionNext then
    let e ← self (.expression true)
    return if structs then e else parenthesizeLeftBlock e.size e
  return .absent

/-- A parameter of a closure. -/
def closureParameter : Reader Node := do
  let attrs ← outerAttributes self
  let p ← self .pattern
  if ← peek (Probe.op ":") then
    let colon ← op ":"
    return .node .patType [attrs, p, colon, ← self (.type true)]
  return withAttributes attrs p

/-- A closure. -/
def closureExpression (structs : Bool) : Reader Node := do
  let lifetimes ← forLifetimes? self
  let const_ ← keyword? "const"
  let static_ ← keyword? "static"
  let async_ ← keyword? "async"
  let move_ ← keyword? "move"
  let open_ ← op "|"
  let inputs ← separated (Probe.op "|") "," (closureParameter self)
  let close ← op "|"
  if ← peek (Probe.op "->") then
    let output ← returns self true
    let body := Node.node .exprBlock [.list [], .absent, ← plainBlock self]
    return .node .exprClosure
      [.list [], lifetimes, const_, static_, async_, move_, open_, inputs, close, output, body]
  let body ← self (.expression structs)
  return .node .exprClosure
    [.list [], lifetimes, const_, static_, async_, move_, open_, inputs, close, .absent, body]

/-- A `let` where a condition may stand. -/
def letExpression (structs : Bool) : Reader Node := do
  let let_ ← Reader.keyword "let"
  let p ← patternWithAlternatives self
  let eq ← op "="
  let left ← self (.operand structs)
  return .node .exprLet [.list [], let_, p, eq, ← self (.operators left structs .compare)]

/-- An `if` with its further branches; each takes two tokens at least. -/
def ifChain : Nat → Reader Node
  | 0 => fail "expected an expression"
  | fuel + 1 => do
    let if_ ← Reader.keyword "if"
    let condition ← self (.expression false)
    let then_ ← plainBlock self
    if !(← peek (Probe.keyword "else")) then
      return .node .exprIf [.list [], if_, condition, then_, .absent, .absent]
    let else_ ← Reader.keyword "else"
    if ← peek (Probe.keyword "if") then
      return .node .exprIf [.list [], if_, condition, then_, else_, ← ifChain fuel]
    if ← peek brace then
      let body := Node.node .exprBlock [.list [], .absent, ← plainBlock self]
      return .node .exprIf [.list [], if_, condition, then_, else_, body]
    expected [shown "if", "curly braces"]

/-- An `if`. -/
def ifExpression : Reader Node := do
  let attrs ← outerAttributes self
  return addAttributes attrs (← ifChain self ((← get).rest.length + 1))

/-- A `while`, behind its label. -/
def whileExpression (l : Node) : Reader Node := do
  let while_ ← Reader.keyword "while"
  let condition ← self (.expression false)
  let (attrs, body) ← attributedBlock self
  return .node .exprWhile [attrs, l, while_, condition, body]

/-- A `for`, behind its label. -/
def forExpression (l : Node) : Reader Node := do
  let for_ ← Reader.keyword "for"
  let p ← patternWithAlternatives self
  let in_ ← Reader.keyword "in"
  let target ← self (.expression false)
  let (attrs, body) ← attributedBlock self
  return .node .exprForLoop [attrs, l, for_, p, in_, target, body]

/-- A `loop`, behind its label. -/
def loopExpression (l : Node) : Reader Node := do
  let loop_ ← Reader.keyword "loop"
  let (attrs, body) ← attributedBlock self
  return .node .exprLoop [attrs, l, loop_, body]

/-- A block as an expression, behind its label. -/
def blockExpression (l : Node) : Reader Node := do
  let (attrs, body) ← attributedBlock self
  return .node .exprBlock [attrs, l, body]

/-- A loop or block behind a label. -/
def labelledExpression : Reader Node := do
  let l ← label
  if ← peek (Probe.keyword "while") then return ← whileExpression self l
  if ← peek (Probe.keyword "for") then return ← forExpression self l
  if ← peek (Probe.keyword "loop") then return ← loopExpression self l
  if ← peek brace then return ← blockExpression self l
  fail "expected loop or block expression"

/-- Whether an expression ends with its own brace, so that it needs no comma as the body of an
arm. -/
def isBlockLike (e : Node) : Bool :=
  match e.kind? with
  | some k => [Kind.exprIf, .exprMatch, .exprBlock, .exprUnsafe, .exprWhile, .exprLoop,
      .exprForLoop, .exprTryBlock, .exprConst].contains k
  | none => false

/-- An arm of a `match`. -/
def matchArm : Reader Node := do
  let attrs ← outerAttributes self
  let p ← patternWithAlternatives self
  let if_ ← keyword? "if"
  let guard_ ← if if_.isAbsent then pure .absent else self (.expression true)
  let arrow ← op "=>"
  let body ← self .leading
  let comma ← if !isBlockLike body && !(← atEnd) then op "," else op? ","
  return .node .arm [attrs, p, if_, guard_, arrow, body, comma]

/-- A `match`. -/
def matchExpression : Reader Node := do
  let match_ ← Reader.keyword "match"
  let e ← self (.expression false)
  let (attrs, arms) ← attributedBraces self (untilEnd (matchArm self))
  return .node .exprMatch [attrs, match_, e, arms]

/-- A `for` that quantifies the lifetimes of a closure comes next. -/
def quantifierNext : Probe := (Probe.keyword "for").and fun ts => genericsNext ts.tail

/-- An expression without operators. -/
def atom (structs : Bool) : Reader Node := do
  if ← peek Probe.literal then return .node .exprLit [.list [], ← Reader.literal]
  if ← peek ((Probe.keyword "async").and
      (Probe.any [second brace, (second (Probe.keyword "move")).and (third brace)])) then
    let async_ ← Reader.keyword "async"
    let move_ ← keyword? "move"
    return .node .exprAsync [.list [], async_, move_, ← plainBlock self]
  if ← peek ((Probe.keyword "try").and (second brace)) then
    let try_ ← Reader.keyword "try"
    return .node .exprTryBlock [.list [], try_, ← plainBlock self]
  if ← peek (Probe.any [Probe.op "|", Probe.keyword "move", quantifierNext,
      (Probe.keyword "const").butNot (second brace), Probe.keyword "static",
      (Probe.keyword "async").and
        (Probe.any [second (Probe.op "|"), second (Probe.keyword "move")])]) then
    return ← closureExpression self structs
  if ← peek builtinNext then return ← builtin
  if ← peek (Probe.any [Probe.name, Probe.op "::", Probe.op "<", pathKeyword,
      (Probe.keyword "try").and
        (Probe.any [second (Probe.op "!"), second (Probe.op "::")])]) then
    return ← pathExpression self structs
  if ← peek paren then return ← parenExpression self
  if ← peek (Probe.keyword "break") then return ← breakExpression self structs
  if ← peek (Probe.keyword "continue") then
    let continue_ ← Reader.keyword "continue"
    return .node .exprContinue [.list [], continue_, ← whenNext Probe.lifetime Reader.lifetime]
  if ← peek (Probe.keyword "return") then
    let return_ ← Reader.keyword "return"
    return .node .exprReturn [.list [], return_, ← optionalValue self structs]
  if ← peek (Probe.keyword "become") then
    return ← verbatim do
      let _ ← Reader.keyword "become"
      self (.expression true)
  if ← peek bracket then return ← arrayExpression self
  if ← peek (Probe.keyword "let") then return ← letExpression self structs
  if ← peek (Probe.keyword "if") then return ← ifExpression self
  if ← peek (Probe.keyword "while") then return ← whileExpression self .absent
  if ← peek (Probe.keyword "for") then return ← forExpression self .absent
  if ← peek (Probe.keyword "loop") then return ← loopExpression self .absent
  if ← peek (Probe.keyword "match") then return ← matchExpression self
  if ← peek (Probe.keyword "yield") then
    let yield_ ← Reader.keyword "yield"
    return .node .exprYield [.list [], yield_, ← optionalValue self structs]
  if ← peek (Probe.keyword "unsafe") then
    let unsafe_ ← Reader.keyword "unsafe"
    let (attrs, body) ← attributedBlock self
    return .node .exprUnsafe [attrs, unsafe_, body]
  if ← peek (Probe.keyword "const") then return ← constBlock self
  if ← peek brace then return ← blockExpression self .absent
  if ← peek (Probe.op "..") then return ← rangeFrom self structs .absent
  if ← peek (Probe.keyword "_") then return .node .exprInfer [.list [], ← anyWord]
  if ← peek Probe.lifetime then return ← labelledExpression self
  fail "expected an expression"

/-! ### What follows an expression without operators -/

/-- The fields that a fractional literal behind a point spells, and the point left over if it ends
with one. -/
def fractionFields (e dot : Node) (span : Span) (t : String) : Reader (Node × Option Node) := do
  let parts := t.splitOn "."
  let point : Node := .token .operator "." span
  let field (e dot : Node) (part : String) : Reader Node := do
    return .node .exprField [.list [], e, dot, ← indexAt span part]
  match parts with
  | [a] => return (← field e dot a, none)
  | [a, ""] => return (← field e dot a, some point)
  | [a, b] => return (← field (← field e dot a) point b, none)
  | _ => failAt span "expected integer literal"

/-- What stands behind the point after `e`: the operand, field or method call that results. -/
def afterPoint (e dot : Node) : Reader Node := do
  if ← peek (Probe.keyword "await") then
    return .node .exprAwait [.list [], e, dot, ← Reader.keyword "await"]
  let m ← member
  let args ← if isNamed m && (← peek (Probe.op "::")) then turbofish self else pure .absent
  if isNamed m && (!args.isAbsent || (← peek paren)) then
    return .node .exprMethodCall
      [.list [], e, dot, m, args, ← groupOf .paren do return [← expressionList self]]
  return .node .exprField [.list [], e, dot, m]

/-- One call, field, index or `?` behind `e`. -/
def trailer? (e : Node) : Reader (Option Node) := do
  let isRange := e.is .exprRange
  if ← peek paren then
    return some (.node .exprCall
      [.list [], e, ← groupOf .paren do return [← expressionList self]])
  if !isRange && (← peek ((Probe.op ".").butNot (Probe.op ".."))) then
    let dot ← op "."
    if ← peek fractionNext then
      match ← Reader.literal with
      | .token _ t span =>
        match ← fractionFields e dot span t with
        | (e, none) => return some e
        | (e, some dot) => return some (← afterPoint self e dot)
      | _ => return none
    return some (← afterPoint self e dot)
  if ← peek bracket then
    return some (.node .exprIndex
      [.list [], e, ← groupOf .bracket do return [← self (.expression true)]])
  if !isRange && (← peek (Probe.op "?")) then
    return some (.node .exprTry [.list [], e, ← op "?"])
  return none

/-- All that follows `e` without an operator. -/
def trailers (e : Node) : Reader Node := do
  let rec extend : Nat → Node → Reader Node
    | 0, e => return e
    | fuel + 1, e => do
      match ← trailer? self e with
      | some e => extend fuel e
      | none => return e
  extend ((← get).rest.length + 1) e

/-- An expression without binary operators. -/
def operand (structs : Bool) : Reader Node := do
  let start ← get
  let attrs ← outerAttributes self
  if ← peek (Probe.op "&") then
    let amp ← op "&"
    if ← peek ((Probe.keyword "raw").and
        (Probe.any [second (Probe.keyword "mut"), second (Probe.keyword "const")])) then
      let raw ← Reader.keyword "raw"
      let qualifier ← anyWord
      return .node .exprRawAddr [attrs, amp, raw, qualifier, ← self (.operand structs)]
    let mut_ ← keyword? "mut"
    return .node .exprReference [attrs, amp, mut_, ← self (.operand structs)]
  if ← peek (Probe.any [Probe.op "*", Probe.op "!", Probe.op "-"]) then
    let sign ← if ← peek (Probe.op "*") then op "*" else if ← peek (Probe.op "!") then op "!"
      else op "-"
    return .node .exprUnary [attrs, sign, ← self (.operand structs)]
  let e ← trailers self (← atom self structs)
  match e with
  | .node .verbatim _ => verbatimSince start
  | .node .exprRange [_, _, .token _ _ span, _] =>
    if attrs.children.isEmpty then return e
    failAt span "attributes are not allowed on range expressions starting with `..`"
  | _ => return addAttributes attrs e

/-- An expression. -/
def expression (structs : Bool) : Reader Node := do
  let left ← self (.operand structs)
  self (.operators left structs .lowest)

/-- What reads an expression that ends with its own brace, if such a one comes next. -/
def braceExpression? : Reader (Option (Reader Node)) := do
  if ← peek (Probe.keyword "if") then return some (ifExpression self)
  if ← peek (Probe.keyword "while") then return some (whileExpression self .absent)
  if ← peek ((Probe.keyword "for").butNot quantifierNext) then
    return some (forExpression self .absent)
  if ← peek (Probe.keyword "loop") then return some (loopExpression self .absent)
  if ← peek (Probe.keyword "match") then return some (matchExpression self)
  if ← peek (Probe.any [(Probe.keyword "try").and (second brace), Probe.keyword "unsafe",
      (Probe.keyword "const").and (second brace), brace]) then
    return some (atom self true)
  if ← peek Probe.lifetime then return some (labelledExpression self)
  return none

/-- What `r` reads, with the attributes given, and what a point or a `?` adds to it. -/
def unlessContinued (attrs : Node) (r : Reader Node) : Reader Node := do
  let e ← r
  if ← peek (Probe.any [(Probe.op ".").butNot (Probe.op ".."), Probe.op "?"]) then
    let e ← trailers self e
    self (.operators (addAttributes attrs e) true .lowest)
  else return addAttributes attrs e

/-- An expression where a statement or an arm begins: one that ends with its own brace ends there,
unless a point or a `?` goes on with it. -/
def leading : Reader Node := do
  let attrs ← outerAttributes self
  match ← braceExpression? self with
  | none =>
    let e ← self (.operand true)
    if e.is .exprRange then return addAttributes attrs e
    self (.operators (addAttributes attrs e) true .lowest)
  | some r => unlessContinued self attrs r

end RenderTrace.Syntax.Grammar
