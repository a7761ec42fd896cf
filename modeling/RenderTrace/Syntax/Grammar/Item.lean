import RenderTrace.Syntax.Grammar.Expression

/-!
# Items

Some forms are read but have no tree of their own, such as a function without a body at the top of a
unit; a rule that meets one answers with nothing, and the tree keeps the tokens (`orVerbatim`).
-/

namespace RenderTrace.Syntax.Grammar

open Reader Probe

variable (self : Readers)

/-! ### Parts of items -/

/-- The tree that `r` reads, or else the tokens that it takes. -/
def orVerbatim (r : Reader (Option Node)) : Reader Node := do
  let (found, trees) ← taking r
  match found with
  | some n => return n
  | none => return .node .verbatim [.unread trees]

/-- A visibility that is restricted to a path. -/
def restricted? : Reader (Option Node) := do
  let found ← inGroup .paren do
    if ← peek (Probe.any [Probe.keyword "crate", Probe.keyword "self", Probe.keyword "super"]) then
      let w ← anyWord
      let p := Node.node .path [.absent, .list [.node .segment [w, .absent]]]
      if ← atEnd then return some [.absent, p]
      return none
    if ← peek (Probe.keyword "in") then
      let in_ ← Reader.keyword "in"
      return some [in_, ← plainPath]
    return none
  return found.map (Node.group .paren)

/-- A visibility, absent if nothing is said. -/
def visibility : Reader Node := do
  if !(← peek (Probe.keyword "pub")) then return .absent
  let pub ← Reader.keyword "pub"
  if ← peek paren then
    match ← ahead restricted? with
    | some _ =>
      match ← restricted? with
      | some g => return .node .visRestricted [pub, g]
      | none => return .node .visPublic [pub]
    | none => return .node .visPublic [pub]
  return .node .visPublic [pub]

/-- Drops a keyword if it comes first. -/
def dropKeyword (text : String) (ts : List TokenTree) : List TokenTree :=
  if Probe.keyword text ts then ts.tail else ts

/-- The head of a function comes next; `safe` if it may say that it is safe. -/
def signatureNext (safe : Bool) : Probe := fun ts =>
  let ts := dropKeyword "async" (dropKeyword "const" ts)
  let ts := if safe && Probe.keyword "safe" ts then ts.tail else dropKeyword "unsafe" ts
  let ts := if Probe.keyword "extern" ts then
      if Probe.stringLiteral ts.tail then ts.tail.tail else ts.tail
    else ts
  Probe.keyword "fn" ts

/-- The receiver of a method. -/
def receiver (attrs : Node) : Reader Node := do
  let amp ← op? "&"
  let l ← if amp.isAbsent then pure .absent else whenNext Probe.lifetime Reader.lifetime
  let mut_ ← keyword? "mut"
  let self_ ← Reader.keyword "self"
  if ← peek (Probe.op "::") then fail "expected `self`"
  let colon ← if amp.isAbsent then op? ":" else pure .absent
  let ty ← if colon.isAbsent then pure .absent else self (.type true)
  return .node .receiver [attrs, amp, l, mut_, self_, colon, ty]

/-- A comma unless the group ends. -/
def commaUnlessEnd : Reader Node := do
  if ← atEnd then return .absent else op ","

/-- A parameter of a function; a list of further arguments ends the parameters. -/
def parameter : Reader Node := do
  let attrs ← outerAttributes self
  if ← peek (Probe.op "...") then
    let dots ← op "..."
    return .node .variadic [attrs, .absent, .absent, dots, ← commaUnlessEnd]
  match ← attempt? (receiver self attrs) with
  | some r => return r
  | none =>
    if ← peek (Probe.name.and (second (Probe.op "<"))) then
      let span := place (← get)
      return .node .patType [attrs, .node .patWild [.list [], .token .word "_" span],
        .token .operator ":" span, ← self (.type true)]
    let p ← self .pattern
    let colon ← op ":"
    if ← peek (Probe.op "...") then
      let dots ← op "..."
      return .node .variadic [attrs, p, colon, dots, ← commaUnlessEnd]
    return .node .patType [attrs, p, colon, ← self (.type true)]

/-- The place of a receiver's `self`. -/
def receiverSpan? : Node → Option Span
  | .node .receiver [_, _, _, _, .token _ _ s, _, _] => some s
  | _ => none

/-- The parameters of a function, of which only the first may be a receiver. -/
def parameters : Reader Node := do
  let rec more : Nat → List Node → Reader (List Node)
    | 0, done => return done
    | fuel + 1, done => do
      if ← atEnd then return done
      let p ← parameter self
      match receiverSpan? p with
      | some s =>
        if done.any fun d => d.is .receiver then failAt s "unexpected second method receiver"
        if !done.isEmpty then failAt s "unexpected method receiver"
      | none => pure ()
      if p.is .variadic || (← atEnd) then return done ++ [p]
      more fuel (done ++ [p, ← op ","])
  return .list (← more ((← get).rest.length + 1) [])

/-- The head of a function; nothing if it says that it is safe, which has no tree of its own. -/
def signature (safe : Bool) : Reader (Option Node) := do
  let const_ ← keyword? "const"
  let async_ ← keyword? "async"
  let unsafe_ ← keyword? "unsafe"
  let safe_ ← if safe && unsafe_.isAbsent then keyword? "safe" else pure .absent
  let abi ← abi?
  let fn ← Reader.keyword "fn"
  let n ← Reader.name
  let g ← generics self
  let inputs ← groupOf .paren do return [← parameters self]
  let output ← returns self true
  let where_ ← whereClause self
  if !safe_.isAbsent then return none
  return some (.node .signature [const_, async_, unsafe_, abi, fn, n, g, inputs, output, where_])

/-- The head of a function that does not say it is safe. -/
def plainSignature : Reader Node := do
  return (← signature self false).getD .absent

/-- A macro call that stands for an item or a member: a brace ends it, other delimiters need a
semicolon. -/
def semicolonAfter (delimited : Node) : Reader Node :=
  match delimited with
  | .group .brace _ => return .absent
  | _ => op ";"

/-- A macro call that stands for a member. -/
def memberMacro (attrs : Node) : Reader Node := do
  let p ← plainPath
  let bang ← op "!"
  let args ← unreadGroup
  return .node .memberMacro [attrs, .node .macroCall [p, bang, args], ← semicolonAfter args]

/-- A path of a macro may begin here. -/
def macroNext : Probe :=
  Probe.any [Probe.name, Probe.keyword "self", Probe.keyword "super", Probe.keyword "crate",
    Probe.op "::"]

/-- How messages list the beginnings of a macro's path. -/
def macroBeginnings : List String :=
  ["identifier", shown "self", shown "super", shown "crate", shown "::"]

/-- The name of a constant, which may be `_`. -/
def constantName : Reader Node := do
  if ← peek (Probe.any [Probe.name, Probe.keyword "_"]) then anyWord
  else expected ["identifier", shown "_"]

/-! ### Type aliases -/

/-- Where the conditions of an alias may stand. -/
structure WherePlace where
  before : Bool
  after : Bool

/-- A `type` with all that may follow it. -/
structure Alias where
  visibility : Node
  default_ : Node
  keyword : Node
  name : Node
  generics : Node
  colon : Node
  bounds : Node
  conditions : Node
  eq : Node
  type : Node
  semi : Node

/-- Bounds up to something in `stop`, with `+` between them. -/
def boundsUntil (style : BoundStyle) (stop : Probe) : Reader Node :=
  separated stop "+" (self (.bound style))

/-- The bounds that a colon announces, up to something in `stop`. -/
def boundsBehind (colon : Node) (stop : Probe) : Reader Node :=
  if colon.isAbsent then return .list [] else boundsUntil self ⟨false, true⟩ stop

/-- Reads a `type`; `default_` if it may be marked as a default. -/
def typeAlias (default_ : Bool) (place : WherePlace) : Reader Alias := do
  let vis ← visibility
  let default_ ← if default_ then keyword? "default" else pure .absent
  let type_ ← Reader.keyword "type"
  let n ← Reader.name
  let g ← generics self
  let colon ← op? ":"
  let bs ← boundsBehind self colon
    (Probe.any [Probe.keyword "where", Probe.op "=", Probe.op ";"])
  let whereNext ← peek (Probe.keyword "where")
  let before ← if place.before then whereClause self else pure .absent
  let eq ← op? "="
  let ty ← if eq.isAbsent then pure .absent else self (.type true)
  let both := place.before && whereNext
  let after ← if place.after && !both then whereClause self else pure .absent
  let semi ← op ";"
  return ⟨vis, default_, type_, n, g, colon, bs, if before.isAbsent then after else before, eq, ty,
    semi⟩

/-! ### Fields -/

/-- Named fields in braces, where `nested` reads the fields of a field without a name, whose type
has no tree of its own. -/
def fieldsNamedWith (nested : Reader Node) : Reader Node := do
  return .node .fieldsNamed [← groupOf .brace do
    return [← commaList do
      let attrs ← outerAttributes self
      let vis ← visibility
      let unnamed ← peek (Probe.keyword "_")
      let n ← if unnamed then anyWord else Reader.name
      let colon ← op ":"
      let fieldsNext := Probe.any
        [Probe.keyword "struct", (Probe.keyword "union").and (second brace)]
      if unnamed && (← peek fieldsNext) then
        let ty ← verbatim do
          let _ ← anyWord
          nested
        return .node .field [attrs, vis, n, colon, ty]
      return .node .field [attrs, vis, n, colon, ← self (.type true)]]]

/-- Named fields, nested to a depth. -/
def fieldsNamedLevel : Nat → Reader Node
  | 0 => fail "expected identifier"
  | depth + 1 => fieldsNamedWith self (fieldsNamedLevel depth)

/-- Named fields in braces; each level of them takes a group. -/
def fieldsNamed : Reader Node := do
  fieldsNamedLevel self (TokenTree.sizes (← get).rest + 1)

/-- Unnamed fields in parentheses. -/
def fieldsUnnamed : Reader Node := do
  return .node .fieldsUnnamed [← groupOf .paren do
    return [← commaList do
      let attrs ← outerAttributes self
      let vis ← visibility
      return .node .field [attrs, vis, .absent, .absent, ← self (.type true)]]]

/-- A variant of an enumeration. -/
def variant : Reader Node := do
  let attrs ← outerAttributes self
  let _ ← visibility
  let n ← Reader.name
  let fields ← if ← peek brace then fieldsNamed self
    else if ← peek paren then fieldsUnnamed self
    else pure .absent
  let eq ← op? "="
  let value ← if eq.isAbsent then pure .absent else self (.expression true)
  return .node .variant [attrs, n, fields, eq, value]

/-! ### Imports -/

/-- A tree of an import, which `root` allows to begin at the root inside braces; nothing if one did,
which has no tree of its own. -/
def useTreeWith (again : Reader (Option Node)) (inner : Reader (Option Node)) (root : Bool) :
    Reader (Option Node) := do
  if ← peek (Probe.any [Probe.name, Probe.keyword "self", Probe.keyword "super",
      Probe.keyword "crate", Probe.keyword "try"]) then
    let w ← anyWord
    if ← peek (Probe.op "::") then
      let colons ← op "::"
      let rest ← inner
      return rest.map fun t => .node .usePath [w, colons, t]
    if ← peek (Probe.keyword "as") then
      let as_ ← Reader.keyword "as"
      if ← peek (Probe.any [Probe.name, Probe.keyword "_"]) then
        return some (.node .useRename [w, as_, ← anyWord])
      fail "expected identifier or underscore"
    return some (.node .useName [w])
  if ← peek (Probe.op "*") then return some (.node .useGlob [← op "*"])
  if ← peek brace then
    return ← inGroup .brace do
      let found ← repeatNodes do
        if ← atEnd then return ([], false)
        let rooted ← if root then do pure !(← op? "::").isAbsent else pure false
        let t ← if rooted then inner else again
        let t := if rooted then none else t
        let e := t.getD .absent
        if ← atEnd then return ([e], false)
        return ([e, ← op ","], true)
      if found.any Node.isAbsent then return none
      return some (.node .useGroup [.group .brace [.list found]])
  expected ["identifier", shown "self", shown "super", shown "crate", shown "try", shown "*",
    "curly braces"]

/-- Imports nest, one level of fuel for each. -/
def useTreeLevel : Nat → Bool → Reader (Option Node)
  | 0, _ => fail "expected identifier"
  | n + 1, root => useTreeWith (useTreeLevel n root) (useTreeLevel n false) root

/-- The tree of an import. -/
def useTree (root : Bool) : Reader (Option Node) := do
  useTreeLevel (2 * TokenTree.sizes (← get).rest + 2) root

/-! ### Members -/

/-- Attributes in front of a construct and inside its braces. -/
def joinAttributes (outer inner : Node) : Node := .list (outer.children ++ inner.children)

/-- Members in braces: the attributes in front of them, and the group. -/
def members (member : Reader Node) : Reader (Node × Node) :=
  attributedBraces self (untilEnd member)

/-- A constant member with all that may follow it; nothing if it has generic parameters or
conditions, even empty ones, or, where one is needed, no value. -/
def constantRest (needsValue : Bool) : Reader (Option (List Node)) := do
  let anglesNext ← peek (Probe.op "<")
  let _ ← generics self
  let colon ← op ":"
  let ty ← self (.type true)
  let eq ← op? "="
  let value ← if eq.isAbsent then pure .absent else self (.expression true)
  let whereNext ← peek (Probe.keyword "where")
  let _ ← whereClause self
  let semi ← op ";"
  if anglesNext || whereNext || (needsValue && eq.isAbsent) then return none
  return some [colon, ty, eq, value, semi]

/-- A member of an `impl`. -/
def implItem : Reader Node :=
  orVerbatim do
    let attrs ← outerAttributes self
    let inherited := !(← peek (Probe.keyword "pub"))
    let defaultNext := (Probe.keyword "default").butNot (second (Probe.op "!"))
    let (marked, rest) ← ahead do
      let _ ← visibility
      let marked ← peek defaultNext
      if marked then advance
      return (marked, (← get).rest)
    if signatureNext false rest then
      let vis ← visibility
      let default_ ← keyword? "default"
      let sig ← plainSignature self
      if ← peek (Probe.op ";") then
        let _ ← op ";"
        return none
      let (inner, body) ← attributedBlock self
      return some (.node .implFn [joinAttributes attrs inner, vis, default_, sig, body])
    if Probe.keyword "const" rest then
      let vis ← visibility
      let default_ ← if marked then Reader.keyword "default" else pure .absent
      let const_ ← Reader.keyword "const"
      let n ← constantName
      return (← constantRest self true).map fun parts =>
        .node .implConst ([attrs, vis, default_, const_, n] ++ parts)
    if Probe.keyword "type" rest then
      let a ← typeAlias self true ⟨false, true⟩
      if a.eq.isAbsent || !a.colon.isAbsent then return none
      return some (.node .implType [attrs, a.visibility, a.default_, a.keyword, a.name, a.generics,
        a.conditions, a.eq, a.type, a.semi])
    if inherited && !marked && macroNext rest then return some (← memberMacro attrs)
    let _ ← visibility
    if marked then
      advance
      expected [shown "fn", shown "const", shown "type"]
    expected ([shown "default", shown "fn", shown "const", shown "type"] ++
      if inherited then macroBeginnings else [])

/-- A method of a trait, with or without a body. -/
def traitMethod (attrs : Node) : Reader Node := do
  let sig ← plainSignature self
  if ← peek brace then
    let (inner, body) ← attributedBlock self
    return .node .traitFn [joinAttributes attrs inner, sig, body, .absent]
  if ← peek (Probe.op ";") then return .node .traitFn [attrs, sig, .absent, ← op ";"]
  expected ["curly braces", shown ";"]

/-- A member of a trait. -/
def traitItem : Reader Node :=
  orVerbatim do
    let attrs ← outerAttributes self
    let vis ← visibility
    let default_ ← keyword? "default"
    let plain := vis.isAbsent && default_.isAbsent
    let keep (n : Node) : Option Node := if plain then some n else none
    let rest := (← get).rest
    if signatureNext false rest then return keep (← traitMethod self attrs)
    if Probe.keyword "const" rest then
      if (Probe.any [Probe.name, Probe.keyword "_"]) rest.tail then
        let const_ ← Reader.keyword "const"
        let n ← anyWord
        match ← constantRest self false with
        | some parts => return keep (.node .traitConst ([attrs, const_, n] ++ parts))
        | none => return none
      if (Probe.any [Probe.keyword "async", Probe.keyword "unsafe", Probe.keyword "extern",
          Probe.keyword "fn"]) rest.tail then
        return keep (← traitMethod self attrs)
      let _ ← Reader.keyword "const"
      expected ["identifier", shown "_", shown "async", shown "unsafe", shown "extern", shown "fn"]
    if Probe.keyword "type" rest then
      let a ← typeAlias self false ⟨false, true⟩
      return keep (.node .traitType [attrs, a.keyword, a.name, a.generics, a.conditions,
        colonFor a.colon a.bounds, a.bounds, a.eq, a.type, a.semi])
    if plain && macroNext rest then return some (← memberMacro attrs)
    expected ([shown "fn", shown "const", shown "type"] ++ if plain then macroBeginnings else [])

/-- A member of a foreign block. -/
def foreignItem : Reader Node :=
  orVerbatim do
    let attrs ← outerAttributes self
    let inherited := !(← peek (Probe.keyword "pub"))
    let rest ← ahead do
      let _ ← visibility
      return (← get).rest
    if signatureNext true rest then
      let vis ← visibility
      let sig ← signature self true
      if ← peek brace then
        let _ ← attributedBlock self
        return none
      let semi ← op ";"
      return sig.map fun sig => .node .foreignFn [attrs, vis, sig, semi]
    let marked := (Probe.any [Probe.keyword "unsafe", Probe.keyword "safe"]).and
      (second (Probe.keyword "static"))
    if (Probe.any [Probe.keyword "static", marked]) rest then
      let vis ← visibility
      let unsafe_ ← keyword? "unsafe"
      let safe_ ← if unsafe_.isAbsent then keyword? "safe" else pure .absent
      let static_ ← Reader.keyword "static"
      let mut_ ← keyword? "mut"
      let n ← Reader.name
      let colon ← op ":"
      let ty ← self (.type true)
      let eq ← op? "="
      let _ ← if eq.isAbsent then pure .absent else self (.expression true)
      let semi ← op ";"
      if !unsafe_.isAbsent || !safe_.isAbsent || !eq.isAbsent then return none
      return some (.node .foreignStatic [attrs, vis, static_, mut_, n, colon, ty, semi])
    if Probe.keyword "type" rest then
      let a ← typeAlias self false ⟨true, true⟩
      if !a.colon.isAbsent || !a.eq.isAbsent then return none
      return some (.node .foreignType
        [attrs, a.visibility, a.keyword, a.name, a.generics, a.conditions, a.semi])
    if inherited && macroNext rest then return some (← memberMacro attrs)
    let _ ← visibility
    expected ([shown "fn", shown "static", shown "type"] ++
      if inherited then macroBeginnings else [])

/-! ### Items -/

/-- A function with a body; nothing if a semicolon stands for the body. -/
def functionItem (attrs : Node) : Reader (Option Node) := do
  let vis ← visibility
  let sig ← plainSignature self
  if ← peek (Probe.op ";") then
    let _ ← op ";"
    return none
  let (inner, body) ← attributedBlock self
  return some (.node .itemFn [joinAttributes attrs inner, vis, sig, body])

/-- An import. -/
def useItem (attrs : Node) : Reader (Option Node) := do
  let vis ← visibility
  let use_ ← Reader.keyword "use"
  let colons ← op? "::"
  let tree ← useTree colons.isAbsent
  let semi ← op ";"
  return tree.map fun t => .node .itemUse [attrs, vis, use_, colons, t, semi]

/-- A static variable. -/
def staticItem (attrs : Node) : Reader (Option Node) := do
  let vis ← visibility
  let static_ ← Reader.keyword "static"
  let mut_ ← keyword? "mut"
  let n ← Reader.name
  if ← peek (Probe.op "=") then
    let _ ← op "="
    let _ ← self (.expression true)
    let _ ← op ";"
    return none
  let colon ← op ":"
  let ty ← self (.type true)
  if ← peek (Probe.op ";") then
    let _ ← op ";"
    return none
  let eq ← op "="
  let value ← self (.expression true)
  return some (.node .itemStatic [attrs, vis, static_, mut_, n, colon, ty, eq, value, ← op ";"])

/-- A constant. -/
def constItem (attrs : Node) : Reader (Option Node) := do
  let vis ← visibility
  let const_ ← Reader.keyword "const"
  let n ← constantName
  return (← constantRest self true).map fun parts =>
    .node .itemConst ([attrs, vis, const_, n] ++ parts)

/-- A module, with its items or without. -/
def modItem (attrs : Node) : Reader Node := do
  let vis ← visibility
  let unsafe_ ← keyword? "unsafe"
  let mod_ ← Reader.keyword "mod"
  let n ← if ← peek (Probe.keyword "try") then anyWord else Reader.name
  if ← peek (Probe.op ";") then
    return .node .itemMod [attrs, vis, unsafe_, mod_, n, .absent, ← op ";"]
  if ← peek brace then
    let (inner, items) ← members self (self .item)
    return .node .itemMod [joinAttributes attrs inner, vis, unsafe_, mod_, n, items, .absent]
  expected [shown ";", "curly braces"]

/-- A block of foreign items. -/
def foreignModItem (attrs : Node) : Reader Node := do
  let unsafe_ ← keyword? "unsafe"
  if !(← peek (Probe.keyword "extern")) then fail "expected `extern`"
  let abi ← abi?
  let (inner, items) ← members self (foreignItem self)
  return .node .itemForeignMod [joinAttributes attrs inner, unsafe_, abi, items]

/-- The import of a crate. -/
def externCrateItem (attrs : Node) : Reader Node := do
  let vis ← visibility
  let extern_ ← Reader.keyword "extern"
  let crate_ ← Reader.keyword "crate"
  let n ← if ← peek (Probe.keyword "self") then anyWord else Reader.name
  if ← peek (Probe.keyword "as") then
    let as_ ← Reader.keyword "as"
    let alias_ ← if ← peek (Probe.keyword "_") then anyWord else Reader.name
    return .node .itemExternCrate [attrs, vis, extern_, crate_, n, as_, alias_, ← op ";"]
  return .node .itemExternCrate [attrs, vis, extern_, crate_, n, .absent, .absent, ← op ";"]

/-- A structure. -/
def structItem (attrs : Node) : Reader Node := do
  let vis ← visibility
  let struct_ ← Reader.keyword "struct"
  let n ← Reader.name
  let g ← generics self
  let build (where_ fields semi : Node) : Node :=
    .node .itemStruct [attrs, vis, struct_, n, g, where_, fields, semi]
  let whereNext ← peek (Probe.keyword "where")
  let before ← whereClause self
  if !whereNext && (← peek paren) then
    let fields ← fieldsUnnamed self
    let whereNext ← peek (Probe.keyword "where")
    let after ← whereClause self
    if ← peek (Probe.op ";") then return build after fields (← op ";")
    expected (if whereNext then [shown ";"] else [shown "where", shown ";"])
  if ← peek brace then return build before (← fieldsNamed self) .absent
  if ← peek (Probe.op ";") then return build before .absent (← op ";")
  expected (if whereNext then ["curly braces", shown ";"]
    else [shown "where", "parentheses", "curly braces", shown ";"])

/-- An enumeration. -/
def enumItem (attrs : Node) : Reader Node := do
  let vis ← visibility
  let enum_ ← Reader.keyword "enum"
  let n ← Reader.name
  let g ← generics self
  let where_ ← whereClause self
  let variants ← groupOf .brace do return [← commaList (variant self)]
  return .node .itemEnum [attrs, vis, enum_, n, g, where_, variants]

/-- A union. -/
def unionItem (attrs : Node) : Reader Node := do
  let vis ← visibility
  let union_ ← Reader.keyword "union"
  let n ← Reader.name
  let g ← generics self
  let where_ ← whereClause self
  return .node .itemUnion [attrs, vis, union_, n, g, where_, ← fieldsNamed self]

/-- The rest of a trait behind its generic parameters, which end `head`. -/
def traitRest (attrs : Node) (head : List Node) : Reader Node := do
  let colon ← op? ":"
  let bs ← boundsBehind self colon (Probe.any [Probe.keyword "where", brace])
  let where_ ← whereClause self
  let (inner, items) ← members self (traitItem self)
  return .node .itemTrait
    (joinAttributes attrs inner :: head ++ [where_, colonFor colon bs, bs, items])

/-- A trait that may be unsafe or automatic. -/
def markedTraitItem (attrs : Node) : Reader Node := do
  let vis ← visibility
  let unsafe_ ← keyword? "unsafe"
  let auto_ ← keyword? "auto"
  let trait_ ← Reader.keyword "trait"
  let n ← Reader.name
  let g ← generics self
  traitRest self attrs [vis, unsafe_, auto_, trait_, n, g]

/-- A trait, or another name for a sum of traits. -/
def traitItemOrAlias (attrs : Node) : Reader Node := do
  let vis ← visibility
  let trait_ ← Reader.keyword "trait"
  let n ← Reader.name
  let g ← generics self
  if ← peek (Probe.any [brace, Probe.op ":", Probe.keyword "where"]) then
    return ← traitRest self attrs [vis, .absent, .absent, trait_, n, g]
  if ← peek (Probe.op "=") then
    let eq ← op "="
    let bs ← boundsUntil self ⟨false, false⟩ (Probe.any [Probe.keyword "where", Probe.op ";"])
    let where_ ← whereClause self
    return .node .itemTraitAlias [attrs, vis, trait_, n, g, where_, eq, bs, ← op ";"]
  expected ["curly braces", shown ":", shown "where", shown "="]

/-- Reads the mark of a constant trait, and says whether it is there. -/
def constantMark : Reader Bool := do
  let constant ← peek (Probe.any [Probe.keyword "const",
    (Probe.op "?").and (second (Probe.keyword "const"))])
  if constant then
    let _ ← op? "?"
    let _ ← Reader.keyword "const"
  return constant

/-- The path that a type is, if it can be that of a trait. -/
def pathOfType : Node → Node
  | .node .typePath [p] => if p.is .path then p else .absent
  | _ => .absent

/-- The type of an `impl` without a trait, which takes no exclamation mark. -/
def inherentType (bang type : Node) : Reader Node :=
  match bang with
  | .token _ _ span => failAt span "inherent impls cannot be negative"
  | _ => return type

/-- An `impl`; nothing for the forms that have no tree of their own: with a visibility, of a
constant trait, or of something that is no trait. -/
def implItems (attrs : Node) : Reader (Option Node) := do
  let vis ← visibility
  let default_ ← keyword? "default"
  let unsafe_ ← keyword? "unsafe"
  let impl_ ← Reader.keyword "impl"
  let g ← if ← peek genericsNext then generics self else pure .absent
  let constant ← constantMark
  let bang ← if ← peek ((Probe.op "!").butNot (second brace)) then op "!" else pure .absent
  let first ← self (.type true)
  let forNext ← peek (Probe.keyword "for")
  let for_ ← keyword? "for"
  let traitPath := if forNext then pathOfType first else .absent
  let ty ← if forNext then self (.type true) else inherentType bang first
  let where_ ← whereClause self
  let (inner, items) ← members self (implItem self)
  if !vis.isAbsent || constant || (forNext && traitPath.isAbsent) then return none
  let bang := if traitPath.isAbsent then .absent else bang
  return some (.node .itemImpl
    [joinAttributes attrs inner, default_, unsafe_, impl_, g, where_, bang, traitPath, for_, ty,
      items])

/-- A macro call that stands for items. -/
def macroItem (attrs : Node) : Reader Node := do
  let p ← plainPath
  let bang ← op "!"
  let n ← if ← peek (Probe.any [Probe.name, Probe.keyword "try"]) then anyWord else pure .absent
  let args ← unreadGroup
  return .node .itemMacro [attrs, p, bang, n, args, ← semicolonAfter args]

/-- The definition of a macro by the keyword for it. -/
def macroDefinition : Reader (Option Node) := do
  let _ ← visibility
  let _ ← Reader.keyword "macro"
  let _ ← Reader.name
  let parens ← peek paren
  if parens then
    let _ ← unreadGroup
  if ← peek brace then
    let _ ← unreadGroup
    return none
  expected (if parens then ["curly braces"] else ["parentheses", "curly braces"])

/-- How messages list the beginnings of an item. -/
def itemBeginnings : List String :=
  [shown "fn", shown "extern", shown "use", shown "static", shown "const", shown "unsafe",
    shown "mod", shown "type", shown "struct", shown "enum", shown "union", shown "trait",
    shown "auto", shown "impl", shown "default", shown "macro"]

/-- An item that begins with `extern`, where `rest` is what follows that word. -/
def externItem (attrs : Node) (rest : List TokenTree) : Reader Node := do
  if Probe.keyword "crate" rest then return ← externCrateItem attrs
  if brace rest then return ← foreignModItem self attrs
  if Probe.stringLiteral rest && brace rest.tail then return ← foreignModItem self attrs
  let _ ← visibility
  let _ ← Reader.keyword "extern"
  if Probe.stringLiteral rest then
    let _ ← Reader.literal
    expected ["curly braces"]
  expected [shown "crate", "curly braces", "string literal"]

/-- An item that begins with `unsafe`, where `rest` is what follows that word. -/
def unsafeItem (attrs : Node) (rest : List TokenTree) : Reader (Option Node) := do
  if (Probe.any [Probe.keyword "trait",
      (Probe.keyword "auto").and (second (Probe.keyword "trait"))]) rest then
    return some (← markedTraitItem self attrs)
  if Probe.keyword "impl" rest then return ← implItems self attrs
  if Probe.keyword "extern" rest then return some (← foreignModItem self attrs)
  if Probe.keyword "mod" rest then return some (← modItem self attrs)
  let _ ← visibility
  let _ ← Reader.keyword "unsafe"
  expected [shown "trait", shown "auto", shown "impl", shown "extern", shown "mod"]

/-- An item behind its attributes. -/
def itemAfter (attrs : Node) : Reader (Option Node) := do
  let inherited := !(← peek (Probe.keyword "pub"))
  let rest ← ahead do
    let _ ← visibility
    return (← get).rest
  if signatureNext false rest then return ← functionItem self attrs
  if Probe.keyword "extern" rest then return some (← externItem self attrs rest.tail)
  if Probe.keyword "use" rest then return ← useItem attrs
  if Probe.keyword "static" rest then return ← staticItem self attrs
  if Probe.keyword "const" rest then return ← constItem self attrs
  if Probe.keyword "unsafe" rest then return ← unsafeItem self attrs rest.tail
  if Probe.keyword "mod" rest then return some (← modItem self attrs)
  if Probe.keyword "type" rest then
    let a ← typeAlias self false ⟨true, false⟩
    if a.eq.isAbsent || !a.colon.isAbsent then return none
    return some (.node .itemType [attrs, a.visibility, a.keyword, a.name, a.generics, a.conditions,
      a.eq, a.type, a.semi])
  if Probe.keyword "struct" rest then return some (← structItem self attrs)
  if Probe.keyword "enum" rest then return some (← enumItem self attrs)
  if ((Probe.keyword "union").and (second Probe.name)) rest then
    return some (← unionItem self attrs)
  if Probe.keyword "trait" rest then return some (← traitItemOrAlias self attrs)
  if ((Probe.keyword "auto").and (second (Probe.keyword "trait"))) rest then
    return some (← markedTraitItem self attrs)
  if (Probe.any [Probe.keyword "impl",
      (Probe.keyword "default").butNot (second (Probe.op "!"))]) rest then
    return ← implItems self attrs
  if Probe.keyword "macro" rest then return ← macroDefinition
  if inherited && macroNext rest then return some (← macroItem attrs)
  let _ ← visibility
  expected (itemBeginnings ++ if inherited then macroBeginnings else [])

/-- An item. -/
def item : Reader Node :=
  orVerbatim do
    let attrs ← outerAttributes self
    itemAfter self attrs

end RenderTrace.Syntax.Grammar
