import RenderTrace.Syntax.Grammar.Nonterminal

/-!
# Attributes, paths, bounds and types

A path has two styles: in expressions, generic arguments need a `::` in front, in types they do not.
Attributes and blocks are read here too: parameters carry attributes, and a constant among the
arguments of a path may be a block.
-/

namespace RenderTrace.Syntax.Grammar

open Reader Probe

variable (self : Readers)

/-! ### Attributes -/

/-- A path of plain words, as in attributes and in front of macros. -/
def plainPath : Reader Node := do
  let colons ← op? "::"
  let words ← repeatNodes do
    if ← peek (Probe.any [Probe.name, pathKeyword]) then
      let w := Node.node .segment [← anyWord, .absent]
      if ← peek (Probe.op "::") then return ([w, ← op "::"], true)
      return ([w], false)
    return ([], false)
  match words.getLast? with
  | none => do
    let _ ← Reader.name
    fail "expected path"
  | some (.token ..) => fail "expected path segment after `::`"
  | some _ => return .node .path [colons, .list words]

/-- An attribute's inside: a path, a path with arguments, or a path and a value. -/
def attributeInside : Reader Node := do
  let p ← if ← peek (Probe.keyword "unsafe") then do
      let w ← Reader.keyword "unsafe"
      pure (Node.node .path [.absent, .list [.node .segment [w, .absent]]])
    else plainPath
  if ← peek (Probe.any [paren, bracket, brace]) then
    return .node .metaList [p, ← unreadGroup]
  if ← peek ((Probe.op "=").butNot (Probe.any [Probe.op "==", Probe.op "=>"])) then
    let eq ← op "="
    let lone ← ahead? do
      let l ← Reader.literal
      return (l, ← atEnd)
    match lone with
    | some (_, true) =>
      return .node .metaNameValue [p, eq, .node .exprLit [.list [], ← Reader.literal]]
    | _ =>
      if ← peek ((Probe.op "#").and (second bracket)) then
        fail "unexpected attribute inside of attribute"
      return .node .metaNameValue [p, eq, ← self (.expression true)]
  return .node .metaPath [p]

/-- An attribute of what follows it. -/
def outerAttribute : Reader Node := do
  let pound ← op "#"
  return .node .attr [pound, .absent, ← groupOf .bracket do return [← attributeInside self]]

/-- An attribute of what encloses it. -/
def innerAttribute : Reader Node := do
  let pound ← op "#"
  let bang ← op "!"
  return .node .attr [pound, bang, ← groupOf .bracket do return [← attributeInside self]]

/-- The attributes of what follows. -/
def outerAttributes : Reader Node :=
  parts do
    if ← peek (Probe.op "#") then return ([← outerAttribute self], true)
    return ([], false)

/-- The attributes of what encloses. -/
def innerAttributes : Reader Node :=
  parts do
    if ← peek ((Probe.op "#").and (second (Probe.op "!"))) then
      return ([← innerAttribute self], true)
    return ([], false)

/-! ### Blocks -/

/-- A block without attributes of its own. -/
def plainBlock : Reader Node := do
  return .node .block [← groupOf .brace do return [← self .statements]]

/-- A group in braces that may begin with attributes: the attributes, and the group with the rest of
what is in it. -/
def attributedBraces (r : Reader Node) : Reader (Node × Node) := do
  inGroup .brace do
    let attrs ← innerAttributes self
    return (attrs, .group .brace [← r])

/-- A block that may begin with attributes: the attributes and the block. -/
def attributedBlock : Reader (Node × Node) := do
  let (attrs, body) ← attributedBraces self (self .statements)
  return (attrs, .node .block [body])

/-! ### Generic arguments -/

/-- A constant where a generic argument stands: a literal, a name or a block. -/
def constArgument : Reader Node := do
  if ← peek Probe.literal then
    return .node .exprLit [.list [], ← Reader.literal]
  if ← peek Probe.name then
    let n ← Reader.name
    return .node .exprPath [.list [], .node .path [.absent, .list [.node .segment [n, .absent]]]]
  if ← peek brace then
    let (attrs, body) ← attributedBlock self
    return .node .exprBlock [attrs, .absent, body]
  match (← get).rest with
  | t :: _ => failAt (fullSpan t) "unexpected token"
  | [] => failAt (place (← get)) "unexpected end of input"

/-- The single segment of a path without qualification and root. -/
def loneSegment? : Node → Option (Node × Node)
  | .node .typePath [.node .path [.node .absent [], .node .list [.node .segment [n, args]]]] =>
    some (n, args)
  | _ => none

/-- A bound where parameters are declared. -/
def paramBound : Reader Node := self (.bound ⟨false, true⟩)

/-- Several bounds in a row. -/
def bounds (done : Probe) : Reader Node := sum done (paramBound self)

/-- A generic argument. -/
def genericArgument : Reader Node := do
  if ← peek (Probe.lifetime.butNot (second (Probe.op "+"))) then
    return .node .lifetime [← Reader.lifetime]
  if ← peek (Probe.any [Probe.literal, brace]) then
    return .node .constArgument [← constArgument self]
  let argument ← self (.type true)
  match loneSegment? argument with
  | none => return argument
  | some (n, args) =>
    if ← peek (Probe.op "=") then
      let eq ← op "="
      if ← peek (Probe.any [Probe.literal, brace]) then
        return .node .assocConst [n, args, eq, ← constArgument self]
      return .node .assocType [n, args, eq, ← self (.type true)]
    if ← peek (Probe.op ":") then
      let colon ← op ":"
      let bs ← bounds self (Probe.any [Probe.op ",", Probe.op ">"])
      return .node .constraint [n, args, colon, bs]
    return argument

/-- Generic arguments in angles, behind an optional `::`. -/
def angleArguments (colons : Node) : Reader Node := do
  let lt ← op "<"
  let args ← separated (Probe.op ">") "," (genericArgument self)
  return .node .angleArguments [colons, lt, args, ← op ">"]

/-- The result of a function, if there is one. -/
def returns (plus : Bool) : Reader Node := do
  if ← peek (Probe.op "->") then
    let arrow ← op "->"
    return .node .returns [arrow, ← self (.type plus)]
  return .absent

/-- Generic arguments in parentheses: the parameters and the result of a function. -/
def parenArguments : Reader Node := do
  let inputs ← groupOf .paren do return [← commaList (self (.type true))]
  return .node .parenArguments [inputs, ← returns self false]

/-! ### Paths -/

/-- A segment of a path. -/
def segment (exprStyle : Bool) : Reader Node := do
  if ← peek (Probe.any [Probe.keyword "super", Probe.keyword "self", Probe.keyword "crate",
      Probe.keyword "try"]) then
    return .node .segment [← anyWord, .absent]
  let n ← if ← peek (Probe.keyword "Self") then anyWord else Reader.name
  let angleNext := (Probe.op "<").butNot (Probe.any [Probe.op "<=", Probe.op "<<="])
  let bare := !exprStyle && (← peek angleNext)
  if bare || (← peek ((Probe.op "::").and (third (Probe.op "<")))) then
    return .node .segment [n, ← angleArguments self (← op? "::")]
  return .node .segment [n, .absent]

/-- The further segments of a path, each behind its `::`. -/
def moreSegments (exprStyle : Bool) : Reader (List Node) :=
  repeatNodes do
    if ← peek ((Probe.op "::").butNot (third paren)) then
      return ([← op "::", ← segment self exprStyle], true)
    return ([], false)

/-- A path. -/
def path (exprStyle : Bool) : Reader Node := do
  let colons ← op? "::"
  let first ← segment self exprStyle
  return .node .path [colons, .list (first :: (← moreSegments self exprStyle))]

/-- A path that may begin with a type in angles. -/
def qualifiedPath (exprStyle : Bool) : Reader Node := do
  if ← peek (Probe.op "<") then
    let lt ← op "<"
    let ty ← self (.type true)
    let as_ ← keyword? "as"
    let trait_ ← if as_.isAbsent then pure .absent else path self false
    let gt ← op ">"
    let colons ← op "::"
    let first ← segment self exprStyle
    let rest ← repeatNodes do
      if ← peek (Probe.op "::") then
        return ([← op "::", ← segment self exprStyle], true)
      return ([], false)
    return .node .qualifiedPath [lt, ty, as_, trait_, gt, colons, .list (first :: rest)]
  path self exprStyle

/-- The segments of a path; for a qualified one, those behind the qualification. -/
def segmentsOf : Node → Node
  | .node .path [_, segments] => segments
  | .node .qualifiedPath [_, _, _, _, _, _, segments] => segments
  | _ => .absent

/-- Whether a path is a sequence of plain words. -/
def isPlainPath (p : Node) : Bool :=
  p.is .path && (segmentsOf p).elements.all fun s => (s.child 1).isAbsent

/-- Whether arguments of a segment are missing or empty. -/
def isEmptyArguments : Node → Bool
  | .node .angleArguments [_, _, args, _] => args.children.isEmpty
  | args => args.isAbsent

/-- Whether the last segment of a path has arguments. -/
def lastHasArguments (p : Node) : Bool :=
  (segmentsOf p).elements.getLast?.any fun s => !isEmptyArguments (s.child 1)

/-- A path with the segments changed. -/
def mapSegments (f : List Node → List Node) : Node → Node
  | .node .path [colons, segments] => .node .path [colons, .list (f segments.children)]
  | .node .qualifiedPath [lt, ty, as_, trait_, gt, colons, segments] =>
    .node .qualifiedPath [lt, ty, as_, trait_, gt, colons, .list (f segments.children)]
  | p => p

/-- A path whose last segment has the arguments given. -/
def withLastArguments (args : Node) : Node → Node :=
  mapSegments fun segments =>
    match segments.getLast? with
    | some (.node .segment [n, _]) => segments.dropLast ++ [.node .segment [n, args]]
    | _ => segments

/-- Whether parenthesised arguments come next, perhaps behind a `::`. -/
def parenArgumentsNext : Probe :=
  Probe.any [paren, (Probe.op "::").and (third paren)]

/-! ### Lifetimes and bounds -/

/-- A colon that is dropped if no bounds stand behind it. -/
def colonFor (colon bounds : Node) : Node := if bounds.children.isEmpty then .absent else colon

/-- A lifetime with the lifetimes that it outlives. -/
def lifetimeParam (attrs : Node) : Reader Node := do
  let l ← Reader.lifetime
  let colon ← op? ":"
  let bs ← if colon.isAbsent then pure (Node.list [])
    else sum (Probe.any [List.isEmpty, Probe.op ",", Probe.op ">"]) do
      return .node .lifetime [← Reader.lifetime]
  return .node .lifetimeParam [attrs, l, colonFor colon bs, bs]

/-- A type parameter. -/
def typeParam (attrs n : Node) : Reader Node := do
  let colon ← op? ":"
  let bs ← if colon.isAbsent then pure (Node.list [])
    else sum (Probe.any [List.isEmpty, Probe.op ",", Probe.op ">", Probe.op "="]) (paramBound self)
  let eq ← op? "="
  let default_ ← if eq.isAbsent then pure .absent else self (.type true)
  return .node .typeParam [attrs, n, colonFor colon bs, bs, eq, default_]

/-- A parameter that stands for a constant. -/
def constParam (attrs : Node) : Reader Node := do
  let c ← Reader.keyword "const"
  let n ← Reader.name
  let colon ← op ":"
  let ty ← self (.type true)
  let eq ← op? "="
  let default_ ← if eq.isAbsent then pure .absent else constArgument self
  return .node .constParam [attrs, c, n, colon, ty, eq, default_]

/-- A parameter of a quantified bound. -/
def quantifiedParam : Reader Node := do
  let attrs ← outerAttributes self
  if ← peek Probe.name then return ← typeParam self attrs (← Reader.name)
  if ← peek Probe.lifetime then return ← lifetimeParam attrs
  if ← peek (Probe.keyword "const") then return ← constParam self attrs
  expected ["identifier", "lifetime", shown "const"]

/-- The lifetimes that a `for` quantifies, if there is one. -/
def forLifetimes? : Reader Node := do
  if ← peek (Probe.keyword "for") then
    let for_ ← Reader.keyword "for"
    let lt ← op "<"
    let params ← separated (Probe.op ">") "," (quantifiedParam self)
    return .node .forLifetimes [for_, lt, params, ← op ">"]
  return .absent

/-- The lifetimes and parameters that a bound captures, up to a closing angle. -/
def capturedParams : Reader Node :=
  parts do
    if ← peek (Probe.op ">") then return ([], false)
    let p ←
      if ← peek Probe.lifetime then pure (Node.node .lifetime [← Reader.lifetime])
      else if ← peek (Probe.any [Probe.name, Probe.keyword "Self"]) then
        pure (Node.node .segment [← anyWord, .absent])
      else expected ["lifetime", "identifier", shown ">"]
    if ← peek (Probe.op ">") then return ([p], false)
    if ← peek (Probe.op ",") then return ([p, ← op ","], true)
    expected [shown ",", shown ">"]

/-- Reads the word `const` in front of a trait, perhaps in brackets, and says whether it is
there. -/
def constness (style : BoundStyle) : Reader Bool := do
  let conditional ← peek bracket
  let unconditional ← peek (Probe.keyword "const")
  if conditional then
    let span := match (← get).rest with
      | t :: _ => fullSpan t
      | [] => .nowhere
    let _ ← inGroup .bracket (Reader.keyword "const")
    if !style.constness then failAt span ("`[const]` is not allowed here")
  else if unconditional then
    let span := place (← get)
    let _ ← Reader.keyword "const"
    if !style.constness then failAt span ("`const` is not allowed here")
  return conditional || unconditional

/-- The path of a trait, with the parenthesised arguments that may follow it. -/
def traitPath : Reader Node := do
  let p ← path self false
  if !lastHasArguments p && (← peek parenArgumentsNext) then
    let _ ← op? "::"
    return withLastArguments (← parenArguments self) p
  return p

/-- Refuses quantified lifetimes with a `?`. -/
def refuseBinder (maybe lifetimes : Node) : Reader Unit :=
  match maybe with
  | .token _ _ span =>
    if lifetimes.isAbsent then pure ()
    else failAt span "`for<...>` binder not allowed with `?` trait polarity modifier"
  | _ => pure ()

/-- The trait of a bound; nothing if its constness is conditional, which has no tree of its own. -/
def traitBound (style : BoundStyle) : Reader (Option Node) := do
  let lifetimes ← forLifetimes? self
  let marked ← constness style
  let maybe ← op? "?"
  let lifetimes ← if lifetimes.isAbsent && !maybe.isAbsent then forLifetimes? self
    else pure lifetimes
  let p ← traitPath self
  refuseBinder maybe lifetimes
  if marked then return none
  return some (.node .traitBound [maybe, lifetimes, p])

/-- A bound. -/
def bound (style : BoundStyle) : Reader Node := do
  if ← peek Probe.lifetime then return .node .lifetime [← Reader.lifetime]
  if ← peek (Probe.keyword "use") then
    let start := place (← get)
    let use_ ← Reader.keyword "use"
    let lt ← op "<"
    let params ← capturedParams
    let stop := place (← get)
    let gt ← op ">"
    if style.captures then return .node .preciseCapture [use_, lt, params, gt]
    failAt (start.join stop) "`use<...>` precise capturing syntax is not allowed here"
  let (found, trees) ← taking do
    if ← peek paren then
      match ← inGroup .paren (traitBound self style) with
      | some t => return some (Node.node .parenBound [.group .paren [t]])
      | none => return none
    traitBound self style
  match found with
  | some t => return t
  | none => return .node .verbatim [.unread trees]

/-- Generic arguments behind a `::`. -/
def turbofish : Reader Node := do
  angleArguments self (← op "::")

/-- The bounds of a type: at least one, and more only if `plus`. -/
def typeBounds (style : BoundStyle) (plus : Bool) : Reader Node :=
  parts do
    let b ← self (.bound style)
    if !plus || !(← peek (Probe.op "+")) then return ([b], false)
    let sign ← op "+"
    let more ← peek (Probe.any [Probe.anyWord, Probe.op "::", Probe.op "?", Probe.lifetime, paren])
    let constNext := style.constness && (← peek bracket)
    return ([b, sign], more || constNext)

/-- Refuses bounds that name no trait. The place reaches from `start` to the last of them. -/
def requireTrait (start : Span) (message : String) (bs : Node) : Reader Unit := do
  let traits := bs.elements.filter fun b => !(b.is .lifetime || b.is .preciseCapture)
  if traits.isEmpty then
    let last := match bs.elements.getLast? with
      | some (.node .lifetime [.token _ _ s]) => s
      | some (.node .preciseCapture [_, _, _, .token _ _ s]) => s
      | _ => start
    failAt (start.join last) message

/-- The generic parameters of a declaration, lifetimes first; none if the angles are empty. -/
def generics : Reader Node := do
  if !(← peek (Probe.op "<")) then return .absent
  let lt ← op "<"
  let params ← separated (Probe.op ">") "," do
    let attrs ← outerAttributes self
    if ← peek Probe.lifetime then return ← lifetimeParam attrs
    if ← peek Probe.name then return ← typeParam self attrs (← Reader.name)
    if ← peek (Probe.keyword "const") then return ← constParam self attrs
    if ← peek (Probe.keyword "_") then
      return .node .typeParam [attrs, ← anyWord, .absent, .list [], .absent, .absent]
    expected ["lifetime", "identifier", shown "const"]
  let gt ← op ">"
  if params.children.isEmpty then return .absent
  return .node .generics [lt, params, gt]

/-- Angles that open generic parameters come next, rather than a qualified path. -/
def genericsNext : Probe :=
  let lone := (Probe.any [third (Probe.op ">"), third (Probe.op ","),
    (third (Probe.op ":")).butNot (third (Probe.op "::")), third (Probe.op "=")])
  (Probe.op "<").and (Probe.any [second (Probe.op ">"), second (Probe.op "#"),
    (Probe.any [second Probe.lifetime, second Probe.name]).and lone,
    second (Probe.keyword "const")])

/-- The conditions of a declaration, if there are any. -/
def whereClause : Reader Node := do
  if !(← peek (Probe.keyword "where")) then return .absent
  let where_ ← Reader.keyword "where"
  if ← peek genericsNext then
    fail "generic parameters on `where` clauses are reserved for future use"
  let colonNext := (Probe.op ":").butNot (Probe.op "::")
  let stop := Probe.any [List.isEmpty, brace, Probe.op ",", Probe.op ";", colonNext, Probe.op "="]
  let predicates ← parts do
    if ← peek stop then return ([], false)
    let p ← if ← peek (Probe.lifetime.and (second (Probe.op ":"))) then do
        let l ← Reader.lifetime
        let colon ← op ":"
        let bs ← sum (Probe.any [stop, Probe.op ":"]) do
          return .node .lifetime [← Reader.lifetime]
        pure (Node.node .whereLifetime [l, colon, bs])
      else do
        let lifetimes ← forLifetimes? self
        let ty ← self (.type true)
        let colon ← op ":"
        pure (Node.node .whereType [lifetimes, ty, colon, ← sum stop (paramBound self)])
    if ← peek (Probe.op ",") then return ([p, ← op ","], true)
    return ([p], false)
  if predicates.children.isEmpty then return .absent
  return .node .whereClause [where_, predicates]

/-! ### Types -/

/-- The calling convention of a function, if it is given. -/
def abi? : Reader Node := do
  if !(← peek (Probe.keyword "extern")) then return .absent
  let extern_ ← Reader.keyword "extern"
  return .node .abi [extern_, ← whenNext Probe.stringLiteral Reader.literal]

/-- A parameter of a function type; only the first one may be a receiver. -/
def bareFnArg (first : Bool) (attrs : Node) : Reader Node := do
  let mutSelf : Probe := (Probe.keyword "mut").and (second (Probe.keyword "self"))
  if first && (← peek mutSelf) then
    let v ← verbatim do
      let _ ← Reader.keyword "mut"
      let _ ← Reader.keyword "self"
      if ← peek ((Probe.op ":").butNot (Probe.op "::")) then
        let _ ← op ":"
        let _ ← self (.type true)
    return .node .bareFnArg [attrs, .absent, .absent, v]
  let nameNext := Probe.any ([Probe.name, Probe.keyword "_"] ++
    if first then [Probe.keyword "self"] else [])
  if ← peek (nameNext.and ((second (Probe.op ":")).butNot (second (Probe.op "::")))) then
    let start ← get
    let isSelf ← peek (Probe.keyword "self")
    let n ← anyWord
    let colon ← op ":"
    if first && !isSelf && (← peek mutSelf) then
      advance
      advance
      return .node .bareFnArg [attrs, .absent, .absent, ← verbatimSince start]
    return .node .bareFnArg [attrs, n, colon, ← self (.type true)]
  return .node .bareFnArg [attrs, .absent, .absent, ← self (.type true)]

/-- A parameter of a function type with the comma behind it, or the `...` that ends them. -/
def nextBareFnArg (first : Bool) : Reader (List Node × Bool) := do
  if ← atEnd then return ([], false)
  let attrs ← outerAttributes self
  let namedDots := ((Probe.any [Probe.name, Probe.keyword "_"]).and (second (Probe.op ":"))).and
    (third (Probe.op "..."))
  if ← peek (Probe.any [Probe.op "...", namedDots]) then
    let dotsFirst ← peek (Probe.op "...")
    let n ← if dotsFirst then pure .absent else anyWord
    let colon ← if dotsFirst then pure .absent else op ":"
    let dots ← op "..."
    return ([.node .bareVariadic [attrs, n, colon, dots, ← op? ","]], false)
  let arg ← bareFnArg self first attrs
  if ← atEnd then return ([arg], false)
  return ([arg, ← op ","], true)

/-- The parameters of a function type. -/
def bareFnArgs : Reader Node := do
  let all := (← get).rest.length
  parts do nextBareFnArg self ((← get).rest.length == all)

/-- A function type, behind its quantified lifetimes. -/
def typeBareFn (lifetimes : Node) : Reader Node := do
  let own ← forLifetimes? self
  let unsafe_ ← keyword? "unsafe"
  let abi ← abi?
  let fn ← Reader.keyword "fn"
  let inputs ← groupOf .paren do return [← bareFnArgs self]
  let output ← returns self false
  let lifetimes := if lifetimes.isAbsent then own else lifetimes
  return .node .typeBareFn [lifetimes, unsafe_, abi, fn, inputs, output]

/-- Bounds after a first one, each behind a `+`. -/
def plusBounds (first : Node) : Reader Node := do
  let more ← repeatNodes do
    if ← peek (Probe.op "+") then return ([← op "+", ← self (.bound ⟨false, false⟩)], true)
    return ([], false)
  return .node .typeTraitObject [.absent, .list (first :: more)]

/-- A bound made of the parenthesised type `first`, if it can be one. -/
def boundOfType? (first : Node) : Option Node :=
  match first with
  | .node .typePath [p] =>
    if p.is .path then
      some (.node .parenBound [.group .paren [.node .traitBound [.absent, .absent, p]]])
    else none
  | .node .typeTraitObject [.node .absent [], .node .list [b]] =>
    if b.is .traitBound then some (.node .parenBound [.group .paren [b]]) else some b
  | _ => none

/-- What stands in parentheses where a type may begin. -/
inductive ParenType where
  | done (type : Node)
  /-- One type, which a sum may turn into a bound. -/
  | single (type : Node)
  /-- A bound, which begins a sum. -/
  | bound (bound : Node)

/-- A type in parentheses, a tuple, or the first bound of a sum. -/
def typeInParens (plus : Bool) : Reader Node := do
  let found ← inGroup .paren do
    if ← atEnd then return ParenType.done (.node .typeTuple [.group .paren [.list []]])
    if ← peek Probe.lifetime then
      let start := place (← get)
      let bs ← typeBounds self ⟨false, false⟩ true
      requireTrait start "at least one trait is required for an object type" bs
      return .done (.node .typeParen [.group .paren [.node .typeTraitObject [.absent, bs]]])
    if ← peek (Probe.op "?") then
      match ← traitBound self ⟨false, false⟩ with
      | some b => return .bound (.node .parenBound [.group .paren [b]])
      | none => fail "expected identifier"
    let first ← self (.type true)
    if ← peek (Probe.op ",") then
      let comma ← op ","
      let rest ← commaList (self (.type true))
      return .done (.node .typeTuple [.group .paren [.list (first :: comma :: rest.children)]])
    return .single first
  match found with
  | .done t => return t
  | .bound b => plusBounds self b
  | .single first =>
    let parenthesised := Node.node .typeParen [.group .paren [first]]
    let summed ← peek (Probe.op "+")
    match boundOfType? first with
    | some b => if plus && summed then plusBounds self b else return parenthesised
    | none => return parenthesised

/-- A sum of bounds that begins with the path `p`. -/
def boundsFromPath (plus : Bool) (lifetimes p : Node) : Reader Node := do
  let first := Node.node .traitBound [.absent, lifetimes, p]
  if !plus then return .node .typeTraitObject [.absent, .list [first]]
  let more ← repeatNodes do
    if !(← peek (Probe.op "+")) then return ([], false)
    let sign ← op "+"
    if ← peek (Probe.any [Probe.anyWord, Probe.op "::", Probe.op "?", Probe.lifetime, paren]) then
      return ([sign, ← self (.bound ⟨false, false⟩)], true)
    return ([sign], false)
  return .node .typeTraitObject [.absent, .list (first :: more)]

/-- What may begin a type, as messages list it. -/
def typeBeginnings : List String :=
  [shown "for", "parentheses", shown "fn", shown "unsafe", shown "extern", "identifier",
    shown "::", shown "<", shown "dyn", "square brackets", shown "*", shown "&", shown "!",
    shown "impl", shown "_", "lifetime"]

/-- A type that begins with a path or is a macro. -/
def typeFromPath (plus : Bool) (lifetimes : Node) : Reader Node := do
  let p ← qualifiedPath self false
  if !p.is .path then return .node .typePath [p]
  if (← peek ((Probe.op "!").butNot (Probe.op "!="))) && isPlainPath p then
    let bang ← op "!"
    return .node .typeMacro [.node .macroCall [p, bang, ← unreadGroup]]
  if !lifetimes.isAbsent || (plus && (← peek (Probe.op "+"))) then
    return ← boundsFromPath self plus lifetimes p
  return .node .typePath [p]

/-- One of the forms that the compiler builds in comes next. -/
def builtinNext : Probe := (Probe.keyword "builtin").and (second (Probe.op "#"))

/-- One of the forms that the compiler builds in, kept as it is spelled. -/
def builtin : Reader Node :=
  verbatim do
    let _ ← Reader.keyword "builtin"
    let _ ← op "#"
    let _ ← Reader.name
    skipParens

/-- Refuses what no quantified lifetimes may stand in front of, where there are some. -/
def requireQuantifiable (quantified : Bool) : Reader Unit := do
  let next ← peek (Probe.any [Probe.name, Probe.keyword "fn", Probe.keyword "unsafe",
    Probe.keyword "extern", pathKeyword])
  if quantified && !next then
    expected ["identifier", shown "fn", shown "unsafe", shown "extern", shown "super",
      shown "self", shown "Self", shown "crate"]

/-- A type. -/
def type (plus : Bool) : Reader Node := do
  let quantified ← peek (Probe.keyword "for")
  let lifetimes ← forLifetimes? self
  requireQuantifiable quantified
  if ← peek paren then return ← typeInParens self plus
  if ← peek (Probe.any [Probe.keyword "fn", Probe.keyword "unsafe", Probe.keyword "extern"]) then
    return ← typeBareFn self lifetimes
  if ← peek builtinNext then return ← builtin
  if ← peek (Probe.any [Probe.name, pathKeyword, Probe.op "::", Probe.op "<"]) then
    return ← typeFromPath self plus lifetimes
  if ← peek (Probe.keyword "dyn") then
    let start := place (← get)
    let ((dyn, star, bs), trees) ← taking do
      let dyn ← Reader.keyword "dyn"
      let star ← op? "*"
      let bs ← typeBounds self ⟨false, false⟩ plus
      requireTrait start "at least one trait is required for an object type" bs
      return (dyn, star, bs)
    if star.isAbsent then return .node .typeTraitObject [dyn, bs]
    return .node .verbatim [.unread trees]
  if ← peek bracket then
    return ← inGroup .bracket do
      let elem ← self (.type true)
      if ← peek (Probe.op ";") then
        let semi ← op ";"
        return .node .typeArray [.group .bracket [elem, semi, ← self (.expression true)]]
      return .node .typeSlice [.group .bracket [elem]]
  if ← peek (Probe.op "*") then
    let star ← op "*"
    let qualifier ← if ← peek (Probe.any [Probe.keyword "const", Probe.keyword "mut"]) then anyWord
      else expected [shown "const", shown "mut"]
    return .node .typePtr [star, qualifier, ← self (.type false)]
  if ← peek (Probe.op "&") then
    let amp ← op "&"
    let l ← whenNext Probe.lifetime Reader.lifetime
    let mut_ ← keyword? "mut"
    return .node .typeReference [amp, l, mut_, ← self (.type false)]
  if ← peek ((Probe.op "!").butNot (Probe.op "=")) then
    return .node .typeNever [← op "!"]
  if ← peek (Probe.keyword "impl") then
    let start := place (← get)
    let impl ← Reader.keyword "impl"
    let bs ← typeBounds self ⟨true, true⟩ plus
    requireTrait start "at least one trait must be specified" bs
    return .node .typeImpl [impl, bs]
  if ← peek (Probe.keyword "_") then
    return .node .typeInfer [← anyWord]
  if ← peek Probe.lifetime then
    let start := place (← get)
    let bs ← typeBounds self ⟨false, false⟩ true
    requireTrait start "at least one trait is required for an object type" bs
    return .node .typeTraitObject [.absent, bs]
  expected typeBeginnings

end RenderTrace.Syntax.Grammar
