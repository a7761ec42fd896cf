import RenderTrace.Token.Tree

/-!
# Syntax trees

The tree of a compilation unit has one shape for every construct of the language: a node has a
*kind* and a list of children. The leaves are tokens, delimited groups keep their delimiter, and
what the grammar leaves unread (the arguments of attributes, the bodies of macros) stays in the tree
as token trees. So a law about walking or changing a unit is one induction over one type.

## Order

The children of a node stand in the order in which a walk meets them. That is the order in which
they are written, but for two things: the attributes that a construct has inside its braces are met
with those in front of it, and the conditions of a declaration are met with its generic parameters.
`Node.written` puts the children of a node in the order in which they are written, in which also
lifetimes come before all other generic parameters and arguments; `Node.trees` gives the tokens of a
tree in that order.

## Layouts

Each kind fixes the number and the meaning of its children; the comment at the kind lists them. A
part that may be missing is then `Node.absent`. Sequences, with their separators between the
elements, are nodes of kind `list`; elements are never bare tokens, so `Node.elements` tells them
from separators. Expressions, patterns, items and statements begin with a `list` of their
attributes.
-/

namespace RenderTrace.Syntax

/-- The classes of tokens in a tree. -/
inductive TokenClass where
  /-- A name or a keyword. -/
  | word
  /-- Punctuation of one or more characters. -/
  | operator
  /-- A literal. -/
  | literal
  /-- A lifetime, spelled with its quote. -/
  | lifetime
  deriving DecidableEq, Repr, Inhabited

/-- The constructs of the language. Brackets stand for a delimited group, `?` for a part that may be
missing. Attributes are those in front of a construct and those inside its braces. -/
inductive Kind where
  /-- Nothing, in the place of a part that may be missing. -/
  | absent
  /-- A sequence. -/
  | list
  /-- Parts: `#`, `!`?, [meta]. -/
  | attr
  /-- Parts: path. -/
  | metaPath
  /-- Parts: path, [unread]. -/
  | metaList
  /-- Parts: path, `=`, expression. -/
  | metaNameValue
  /-- Parts: `::`?, list of segments. -/
  | path
  /-- Parts: `<`, type, `as`?, path?, `>`, `::`, list of segments. -/
  | qualifiedPath
  /-- Parts: word, arguments?. -/
  | segment
  /-- Parts: `::`?, `<`, list, `>`. -/
  | angleArguments
  /-- Parts: [list of types], returns?. -/
  | parenArguments
  /-- Parts: lifetime. -/
  | lifetime
  /-- Parts: expression, as an argument. -/
  | constArgument
  /-- Parts: word, arguments?, `=`, type. -/
  | assocType
  /-- Parts: word, arguments?, `=`, expression. -/
  | assocConst
  /-- Parts: word, arguments?, `:`, list of bounds. -/
  | constraint
  /-- Parts: `->`, type. -/
  | returns
  /-- Parts: `for`, `<`, list, `>`. -/
  | forLifetimes
  /-- Parts: `<`, list, `>`. -/
  | generics
  /-- Parts: attributes, lifetime, `:`?, list of bounds. -/
  | lifetimeParam
  /-- Parts: attributes, word, `:`?, list of bounds, `=`?, type?. -/
  | typeParam
  /-- Parts: attributes, `const`, word, `:`, type, `=`?, expression?. -/
  | constParam
  /-- Parts: `where`, list. -/
  | whereClause
  /-- Parts: forLifetimes?, type, `:`, list of bounds. -/
  | whereType
  /-- Parts: lifetime, `:`, list of bounds. -/
  | whereLifetime
  /-- Parts: `?`?, forLifetimes?, path. -/
  | traitBound
  /-- Parts: [traitBound]. -/
  | parenBound
  /-- Parts: `use`, `<`, list, `>`. -/
  | preciseCapture
  /-- Parts: [type, `;`, expression]. -/
  | typeArray
  /-- Parts: forLifetimes?, `unsafe`?, abi?, `fn`, [list], returns?. -/
  | typeBareFn
  /-- Parts: attributes, word?, `:`?, type. -/
  | bareFnArg
  /-- Parts: attributes, word?, `:`?, `...`, `,`?. -/
  | bareVariadic
  /-- Parts: `impl`, list of bounds. -/
  | typeImpl
  /-- Parts: `_`. -/
  | typeInfer
  /-- Parts: macroCall. -/
  | typeMacro
  /-- Parts: `!`. -/
  | typeNever
  /-- Parts: [type]. -/
  | typeParen
  /-- Parts: path. -/
  | typePath
  /-- Parts: `*`, `const` or `mut`, type. -/
  | typePtr
  /-- Parts: `&`, lifetime?, `mut`?, type. -/
  | typeReference
  /-- Parts: [type]. -/
  | typeSlice
  /-- Parts: `dyn`?, list of bounds. -/
  | typeTraitObject
  /-- Parts: [list]. -/
  | typeTuple
  /-- Parts: unread; also for bounds, patterns, expressions and items that have no kind of their
  own. -/
  | verbatim
  /-- Parts: attributes, `ref`?, `mut`?, word, `@`?, pattern?. -/
  | patIdent
  /-- Parts: attributes, `|`?, list. -/
  | patOr
  /-- Parts: attributes, [pattern]. -/
  | patParen
  /-- Parts: attributes, `&`, `mut`?, pattern. -/
  | patReference
  /-- Parts: attributes, `..`. -/
  | patRest
  /-- Parts: attributes, [list]. -/
  | patSlice
  /-- Parts: attributes, path, [list]. -/
  | patStruct
  /-- Parts: attributes, member, `:`, pattern. -/
  | fieldPat
  /-- Parts: attributes, pattern. -/
  | fieldPatShort
  /-- Parts: attributes, [list]. -/
  | patTuple
  /-- Parts: attributes, path, [list]. -/
  | patTupleStruct
  /-- Parts: attributes, pattern, `:`, type. -/
  | patType
  /-- Parts: attributes, `_`. -/
  | patWild
  /-- Parts: path, `!`, [unread]. -/
  | macroCall
  /-- Parts: attributes, [list]. -/
  | exprArray
  /-- Parts: attributes, expression, `=`, expression. -/
  | exprAssign
  /-- Parts: attributes, `async`, `move`?, block. -/
  | exprAsync
  /-- Parts: attributes, expression, `.`, `await`. -/
  | exprAwait
  /-- Parts: attributes, expression, operator, expression. -/
  | exprBinary
  /-- Parts: attributes, label?, block. -/
  | exprBlock
  /-- Parts: attributes, `break`, lifetime?, expression?. -/
  | exprBreak
  /-- Parts: attributes, expression, [list]. -/
  | exprCall
  /-- Parts: attributes, expression, `as`, type. -/
  | exprCast
  /-- Parts: attributes, forLifetimes?, `const`?, `static`?, `async`?, `move`?, `|`, list of
  parameters, `|`, returns?, expression. -/
  | exprClosure
  /-- Parts: attributes, `const`, block. -/
  | exprConst
  /-- Parts: attributes, `continue`, lifetime?. -/
  | exprContinue
  /-- Parts: attributes, expression, `.`, member. -/
  | exprField
  /-- Parts: attributes, label?, `for`, pattern, `in`, expression, block. -/
  | exprForLoop
  /-- Parts: attributes, `if`, expression, block, `else`?, expression?. -/
  | exprIf
  /-- Parts: attributes, expression, [expression]. -/
  | exprIndex
  /-- Parts: attributes, `_`. -/
  | exprInfer
  /-- Parts: attributes, `let`, pattern, `=`, expression. -/
  | exprLet
  /-- Parts: attributes, literal. -/
  | exprLit
  /-- Parts: attributes, label?, `loop`, block. -/
  | exprLoop
  /-- Parts: attributes, macroCall. -/
  | exprMacro
  /-- Parts: attributes, `match`, expression, [list of arms]. -/
  | exprMatch
  /-- Parts: attributes, pattern, `if`?, expression?, `=>`, expression, `,`?. -/
  | arm
  /-- Parts: attributes, expression, `.`, word, arguments?, [list]. -/
  | exprMethodCall
  /-- Parts: attributes, [expression]. -/
  | exprParen
  /-- Parts: attributes, path. -/
  | exprPath
  /-- Parts: attributes, expression?, `..` or `..=`, expression?. -/
  | exprRange
  /-- Parts: attributes, `&`, `raw`, `const` or `mut`, expression. -/
  | exprRawAddr
  /-- Parts: attributes, `&`, `mut`?, expression. -/
  | exprReference
  /-- Parts: attributes, [expression, `;`, expression]. -/
  | exprRepeat
  /-- Parts: attributes, `return`, expression?. -/
  | exprReturn
  /-- Parts: attributes, path, [list, `..`?, expression?]. -/
  | exprStruct
  /-- Parts: attributes, member, `:`, expression. -/
  | fieldValue
  /-- Parts: attributes, expression. -/
  | fieldValueShort
  /-- Parts: attributes, expression, `?`. -/
  | exprTry
  /-- Parts: attributes, `try`, block. -/
  | exprTryBlock
  /-- Parts: attributes, [list]. -/
  | exprTuple
  /-- Parts: attributes, operator, expression. -/
  | exprUnary
  /-- Parts: attributes, `unsafe`, block. -/
  | exprUnsafe
  /-- Parts: attributes, label?, `while`, expression, block. -/
  | exprWhile
  /-- Parts: attributes, `yield`, expression?. -/
  | exprYield
  /-- Parts: lifetime, `:`. -/
  | label
  /-- Parts: [list of statements]. -/
  | block
  /-- Parts: attributes, `let`, pattern, `=`?, expression?, `else`?, expression?, `;`. -/
  | local
  /-- Parts: expression, `;`?. -/
  | stmtExpr
  /-- Parts: attributes, macroCall, `;`?. -/
  | stmtMacro
  /-- Parts: `pub`. -/
  | visPublic
  /-- Parts: `pub`, [`in`?, path]. -/
  | visRestricted
  /-- Parts: `extern`, literal?. -/
  | abi
  /-- Parts: `const`?, `async`?, `unsafe`?, abi?, `fn`, word, generics?, [list], returns?,
  whereClause?. -/
  | signature
  /-- Parts: attributes, `&`?, lifetime?, `mut`?, `self`, `:`?, type?. -/
  | receiver
  /-- Parts: attributes, pattern?, `:`?, `...`, `,`?. -/
  | variadic
  /-- Parts: attributes, visibility?, `const`, word, `:`, type, `=`, expression, `;`. -/
  | itemConst
  /-- Parts: attributes, visibility?, `enum`, word, generics?, whereClause?, [list]. -/
  | itemEnum
  /-- Parts: attributes, word, fields?, `=`?, expression?. -/
  | variant
  /-- Parts: [list]. -/
  | fieldsNamed
  /-- Parts: [list]. -/
  | fieldsUnnamed
  /-- Parts: attributes, visibility?, word?, `:`?, type. -/
  | field
  /-- Parts: attributes, visibility?, `extern`, `crate`, word, `as`?, word?, `;`. -/
  | itemExternCrate
  /-- Parts: attributes, visibility?, signature, block. -/
  | itemFn
  /-- Parts: attributes, `unsafe`?, abi, [list]. -/
  | itemForeignMod
  /-- Parts: attributes, `default`?, `unsafe`?, `impl`, generics?, whereClause?, `!`?, path?,
  `for`?, type, [list]. -/
  | itemImpl
  /-- Parts: attributes, path, `!`, word?, [unread], `;`?. -/
  | itemMacro
  /-- Parts: attributes, visibility?, `unsafe`?, `mod`, word, [list]?, `;`?. -/
  | itemMod
  /-- Parts: attributes, visibility?, `static`, `mut`?, word, `:`, type, `=`, expression, `;`. -/
  | itemStatic
  /-- Parts: attributes, visibility?, `struct`, word, generics?, whereClause?, fields?, `;`?. -/
  | itemStruct
  /-- Parts: attributes, visibility?, `unsafe`?, `auto`?, `trait`, word, generics?, whereClause?,
  `:`?, list of bounds, [list]. -/
  | itemTrait
  /-- Parts: attributes, visibility?, `trait`, word, generics?, whereClause?, `=`, list of bounds,
  `;`. -/
  | itemTraitAlias
  /-- Parts: attributes, visibility?, `type`, word, generics?, whereClause?, `=`, type, `;`. -/
  | itemType
  /-- Parts: attributes, visibility?, `union`, word, generics?, whereClause?, fields. -/
  | itemUnion
  /-- Parts: attributes, visibility?, `use`, `::`?, tree, `;`. -/
  | itemUse
  /-- Parts: word, `::`, tree. -/
  | usePath
  /-- Parts: word. -/
  | useName
  /-- Parts: word, `as`, word. -/
  | useRename
  /-- Parts: `*`. -/
  | useGlob
  /-- Parts: [list]. -/
  | useGroup
  /-- Parts: attributes, visibility?, `default`?, `const`, word, `:`, type, `=`, expression, `;`. -/
  | implConst
  /-- Parts: attributes, visibility?, `default`?, signature, block. -/
  | implFn
  /-- Parts: attributes, visibility?, `default`?, `type`, word, generics?, whereClause?, `=`, type,
  `;`. -/
  | implType
  /-- Parts: attributes, macroCall, `;`?: a macro among the members of an impl, a trait or a foreign
  block. -/
  | memberMacro
  /-- Parts: attributes, `const`, word, `:`, type, `=`?, expression?, `;`. -/
  | traitConst
  /-- Parts: attributes, signature, block?, `;`?. -/
  | traitFn
  /-- Parts: attributes, `type`, word, generics?, whereClause?, `:`?, list of bounds, `=`?, type?,
  `;`. -/
  | traitType
  /-- Parts: attributes, visibility?, signature, `;`. -/
  | foreignFn
  /-- Parts: attributes, visibility?, `static`, `mut`?, word, `:`, type, `;`. -/
  | foreignStatic
  /-- Parts: attributes, visibility?, `type`, word, generics?, whereClause?, `;`. -/
  | foreignType
  deriving DecidableEq, Repr, Inhabited

/-- A syntax tree. -/
inductive Node where
  /-- A token. -/
  | token (cls : TokenClass) (text : String) (span : Span)
  /-- Token trees that the grammar does not read. -/
  | unread (trees : List TokenTree)
  /-- A delimited group. -/
  | group (delimiter : Delimiter) (inside : List Node)
  /-- A construct of the language. -/
  | node (kind : Kind) (children : List Node)
  deriving Repr, Inhabited

namespace Node

/-- Nothing. -/
def absent : Node := node .absent []

/-- A sequence. -/
def list (elements : List Node) : Node := node .list elements

/-- A name or keyword that no text spells. -/
def word (text : String) : Node := token .word text .nowhere

/-- Punctuation that no text spells. -/
def op (text : String) : Node := token .operator text .nowhere

/-- The kind of a node; tokens and groups have none. -/
def kind? : Node → Option Kind
  | node k _ => some k
  | _ => none

/-- Whether a node is of a kind. -/
def is (n : Node) (k : Kind) : Bool := n.kind? == some k

/-- Whether the part is missing. -/
def isAbsent (n : Node) : Bool := n.is .absent

/-- The children of a node or the contents of a group. -/
def children : Node → List Node
  | node _ cs => cs
  | group _ cs => cs
  | _ => []

/-- A child by its position in the layout. -/
def child (n : Node) (i : Nat) : Node := n.children.getD i absent

/-- The text of a token, empty for all else. -/
def text : Node → String
  | token _ t _ => t
  | _ => ""

/-- Where a token stands. -/
def location : Node → Location
  | token _ _ s => s.start
  | _ => .start

/-- Whether a node is a separator or another bare token. -/
def isToken : Node → Bool
  | token .. => true
  | _ => false

/-- The elements of a sequence, without separators. -/
def elements (n : Node) : List Node := n.children.filter fun c => !c.isToken

/-- Whether a sequence ends with a separator. -/
def endsWithSeparator (n : Node) : Bool := n.children.getLast?.any isToken

/-- The name without a raw mark. -/
def bareName (text : String) : String :=
  if text.startsWith "r#" then (text.drop 2).toString else text

/-! ### The order of writing -/

/-- Whether an attribute stands inside what it belongs to. -/
def isInnerAttribute : Node → Bool
  | node .attr [_, bang, _] => !bang.isAbsent
  | _ => false

/-- The attributes of a construct, in front of it and inside its braces. -/
def attributes (n : Node) : List Node := (n.child 0).elements

/-- The attributes in front of a construct. -/
def outerAttributes (n : Node) : List Node := n.attributes.filter fun a => !a.isInnerAttribute

/-- The attributes inside the braces of a construct. -/
def innerAttributes (n : Node) : List Node := n.attributes.filter isInnerAttribute

/-- A body with parts in front of its contents. -/
def openWith (parts : List Node) : Node → Node
  | node .block [group d cs] => node .block [group d (parts ++ cs)]
  | group d cs => group d (parts ++ cs)
  | n => n

/-- The children with the inner attributes moved into the body, which is the last part that can be
one. -/
def attributesInside : List Node → List Node
  | node .list attrs :: cs =>
    let inner := attrs.filter isInnerAttribute
    if inner.isEmpty then node .list attrs :: cs
    else
      let isBody (n : Node) : Bool := n.is .block || n.kind?.isNone && !n.isToken
      let i := cs.length - 1 - cs.reverse.findIdx isBody
      list (attrs.filter fun a => !a.isInnerAttribute) :: cs.modify i (openWith inner)
  | cs => cs

/-- The children with the conditions moved in front of the last one. -/
def conditionsLate (cs : List Node) : List Node :=
  (cs.dropLast.filter fun c => !c.is .whereClause) ++ (cs.filter (·.is .whereClause)) ++
    cs.getLast?.toList

/-- The elements of a sequence, each with what separates it from the next one. -/
def separated : List Node → List (Node × List Node)
  | [] => []
  | n :: ns =>
    match separated ns with
    | (e, s) :: rest => if e.isToken then (n, e :: s) :: rest else (n, []) :: (e, s) :: rest
    | [] => [(n, [])]

/-- The elements of a sequence with the lifetimes in front; a comma stands between them and the
others. -/
def lifetimesFirst (children : List Node) : List Node :=
  let isLifetime (e : Node × List Node) : Bool := e.1.is .lifetime || e.1.is .lifetimeParam
  let parts (es : List (Node × List Node)) : List Node := es.flatMap fun e => e.1 :: e.2
  let (lifetimes, others) := (separated children).partition isLifetime
  let comma := match lifetimes.getLast? with
    | some (_, []) => if others.isEmpty then [] else [op ","]
    | _ => []
  parts lifetimes ++ comma ++ parts others

/-- The children of a node of a kind in the order in which they are written. -/
def written (k : Kind) (cs : List Node) : List Node :=
  match k, cs with
  | .generics, [lt, node .list ps, gt] => [lt, list (lifetimesFirst ps), gt]
  | .angleArguments, [colons, lt, node .list ps, gt] =>
    [colons, lt, list (lifetimesFirst ps), gt]
  | .preciseCapture, [use, lt, node .list ps, gt] => [use, lt, list (lifetimesFirst ps), gt]
  | .itemStruct, cs =>
    if (cs.getD 6 absent).is .fieldsUnnamed then conditionsLate cs else cs
  | .itemTraitAlias, cs => conditionsLate cs
  | .implType, cs => conditionsLate cs
  | .traitType, cs => conditionsLate cs
  | .itemImpl, cs => conditionsLate (attributesInside cs)
  | .itemTrait, cs => conditionsLate (attributesInside cs)
  | _, cs => attributesInside cs

mutual

/-- A tree with the children of all nodes in the order in which they are written. -/
def spelled : Node → Node
  | node k cs => node k (written k (spelledAll cs))
  | group d cs => group d (spelledAll cs)
  | n => n

/-- Several trees with their children in the order in which they are written. -/
def spelledAll : List Node → List Node
  | [] => []
  | n :: ns => spelled n :: spelledAll ns

end

mutual

/-- The leaves of a node from left to right, in their groups. The characters of an operator are
joint with each other and not with what follows. -/
def leaves : Node → List TokenTree
  | token cls t s =>
    match cls with
    | .operator =>
      let cs := t.toList
      (cs.dropLast.map fun c => TokenTree.punct c true s) ++
        cs.getLast?.toList.map fun c => TokenTree.punct c false s
    | .lifetime => [.punct '\'' true s, .name (t.drop 1).toString s]
    | .literal =>
      if t.startsWith "-" then [.punct '-' false s, .literal (t.drop 1).toString s]
      else [.literal t s]
    | .word => [.name t s]
  | unread ts => ts
  | group d cs => [.group d .nowhere .nowhere (leavesAll cs)]
  | node _ cs => leavesAll cs

/-- The leaves of several nodes in a row. -/
def leavesAll : List Node → List TokenTree
  | [] => []
  | n :: ns => leaves n ++ leavesAll ns

end

/-- The token trees of a node, as they are written. -/
def trees (n : Node) : List TokenTree := n.spelled.leaves

mutual

/-- The number of nodes, tokens and unread trees in a node. -/
def size : Node → Nat
  | token .. => 1
  | unread ts => 1 + TokenTree.sizes ts
  | group _ cs => 1 + sizes cs
  | node _ cs => 1 + sizes cs

/-- The number of nodes in several trees. -/
def sizes : List Node → Nat
  | [] => 0
  | n :: ns => size n + sizes ns

end

end Node

end RenderTrace.Syntax
