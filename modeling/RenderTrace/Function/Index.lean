import RenderTrace.Function.Declaration

/-!
# The index of a unit

One walk over the tree records every declared function, in the order in which it meets the parts of
the tree. The walk carries the context down and the list of functions along; what a node contributes
is in `Index.enter`: the function that it declares, the context for its parts, and which parts are
walked.

The parameters and results of functions are not walked, so a closure there is not declared. A
closure counts as declared only if it carries a render marker; an unmarked one is part of the
function around it.
-/

namespace RenderTrace

open Syntax

/-- The functions found so far, and what was said about them. -/
structure Index where
  functions : Array Function := #[]
  records : Array Record := #[]
  deriving Inhabited

namespace Index

/-- A place as messages show it. -/
def showLocation (l : Location) : String := toString l.line ++ ":" ++ toString l.column

/-- A truth value as messages show it. -/
def showBool (b : Bool) : String := if b then "true" else "false"

/-- What a node says about the function that it declares. -/
structure Declared where
  name : String
  kind : FunctionKind
  location : Location
  attributes : List Node
  params : List (Param × List Node)
  body : Option Node

/-- Whether a function counts as a render function: marked, not read-only, and not inline where
inline functions are left out. -/
def isRender (o : Options) (attributes : List Node) : Bool :=
  Marker.isRenderMarked attributes && !Marker.isReadOnly attributes &&
    !(Marker.isInline attributes && o.skipInline)

/-- Why a marked function is no render function. -/
def renderRecords (o : Options) (d : Declared) : List Record :=
  if !Marker.isRenderMarked d.attributes then []
  else if Marker.isReadOnly d.attributes then
    [⟨.debug, .declarations, d.name ++ " is read-only; not a render function"⟩]
  else if Marker.isInline d.attributes && o.skipInline then
    [⟨.debug, .declarations, d.name ++ " is inline; skipped"⟩]
  else []

/-- The function that a node declares, as number `id` in a context. -/
def functionOf (o : Options) (ctx : Context) (id : FunctionId) (d : Declared) : Function :=
  let sourcePath :=
    if ctx.enclosing.isNone && d.kind ≠ .closure then
      some (ctx.module ++ ctx.selfType.toList ++ [d.name])
    else none
  { declaration :=
      { id
        localName := d.name
        qualifiedName := sourcePath.map fun p => "::".intercalate (o.prefixSegments ++ p)
        params := d.params.map (·.1)
        hasBody := d.body.isSome
        scope := match ctx.selfType with
          | some t => .type t
          | none => .file o.fileLabel
        kind := d.kind
        location := d.location
        isRender := isRender o d.attributes
        isInline := Marker.isInline d.attributes }
    tracking := (Tracking.ofAttributes d.attributes).1
    skip := .ofAttributes d.attributes
      ((d.params.filter (·.1.binding)).map fun (p, attrs) => (p.name, attrs))
    body := d.body
    context := ctx
    sourcePath }

/-- Adds a function. -/
def record (o : Options) (ctx : Context) (d : Declared) (s : Index) : Index :=
  let f := functionOf o ctx s.functions.size d
  let complaint := (Tracking.ofAttributes d.attributes).2.toList.map Tracking.complaintRecord
  let declared : Record := ⟨.debug, .declarations,
    "Declared " ++ f.declaration.displayName ++ " at " ++ showLocation d.location ++ " (render: " ++
      showBool f.declaration.isRender ++ ", tracked: " ++ showBool f.tracking.isTracked ++
      ", skipped: " ++ showBool f.skip.wholeFunction ++ ")"⟩
  { functions := s.functions.push f
    records := s.records ++ (complaint ++ renderRecords o d ++ [declared]).toArray }

/-- The name of the next closure in a context: the closures of a function are counted from one. -/
def closureName (ctx : Context) (s : Index) : String :=
  let before := s.functions.filter fun f =>
    f.declaration.kind == .closure && f.context.enclosing == ctx.enclosing
  let number := "\x7bclosure#" ++ toString (before.size + 1) ++ "\x7d"
  match ctx.enclosing with
  | none => number
  | some id => ((s.functions[id]?.map (·.declaration.localName)).getD "") ++ "::" ++ number

/-- What a node with the head `sig` of a function declares. -/
def declaredBy (n sig : Node) (kind : FunctionKind) (body : Option Node) (o : Options) :
    Declared where
  name := sig.signatureName.text
  kind := kind
  location := sig.signatureName.location
  attributes := n.attributes
  params := Param.ofInputs o sig.signatureInputs
  body := body

/-- What a marked closure declares under a name. -/
def declaredByClosure (n : Node) (name : String) (o : Options) : Declared where
  name := name
  kind := .closure
  location := n.closureBar.location
  attributes := n.outerAttributes
  params := Param.ofClosureInputs o n.closureInputs
  body := some n.closureBody

/-- How the walk goes on below a node: in which context, through which children, from which
index. -/
structure Step where
  context : Context
  walks : Nat → Bool
  index : Index

/-- What a node contributes to the index. -/
def enter (o : Options) (ctx : Context) (n : Node) (s : Index) : Step :=
  let stay : Step := ⟨ctx, fun _ => true, s⟩
  let inside (d : Declared) (outer : Context) (at_ : Nat) : Step :=
    ⟨{ outer with enclosing := some s.functions.size }, fun i => i == at_, record o outer d s⟩
  match n with
  | .node .itemMod cs =>
    ⟨{ ctx with module := ctx.module ++ [(cs.getD 4 .absent).text] }, fun i => i == 5, s⟩
  | .node .itemImpl cs =>
    ⟨{ ctx with selfType := some (selfTypeName (cs.getD 9 .absent)) }, fun _ => true, s⟩
  | .node .itemTrait cs =>
    ⟨{ ctx with selfType := some (cs.getD 5 .absent).text }, fun _ => true, s⟩
  | .node .itemFn [_, _, sig, body] =>
    if ctx.enclosing.isSome then
      inside (declaredBy n sig .local (some body) o) { ctx with selfType := none } 3
    else inside (declaredBy n sig .item (some body) o) ctx 3
  | .node .implFn [_, _, _, sig, body] => inside (declaredBy n sig .method (some body) o) ctx 4
  | .node .traitFn [_, sig, body, _] =>
    if body.isAbsent then
      ⟨ctx, fun _ => false, record o ctx (declaredBy n sig .traitRequired none o) s⟩
    else inside (declaredBy n sig .traitDefault (some body) o) ctx 2
  | .node .foreignFn [_, _, sig, _] =>
    ⟨ctx, fun _ => false, record o ctx (declaredBy n sig .foreign none o) s⟩
  | .node .exprClosure [_, _, _, _, _, _, _, _, _, _, _] =>
    if Marker.isRenderMarked n.outerAttributes then
      inside (declaredByClosure n (closureName ctx s) o) ctx 10
    else stay
  | _ => stay

mutual

/-- Walks a tree in a context. -/
def walk (o : Options) (ctx : Context) : Node → Index → Index
  | .node k cs, s =>
    let next := enter o ctx (.node k cs) s
    walkAll o next.context next.walks 0 cs next.index
  | .group _ cs, s => walkAll o ctx (fun _ => true) 0 cs s
  | _, s => s

/-- Walks those of several trees that `walks` picks by position, from position `i` on. -/
def walkAll (o : Options) (ctx : Context) (walks : Nat → Bool) (i : Nat) : List Node → Index → Index
  | [], s => s
  | c :: cs, s =>
    walkAll o ctx walks (i + 1) cs (if walks i then walk o ctx c s else s)

end

/-- The index of a unit. -/
def build (o : Options) (u : SourceUnit) : Index :=
  let s := walk o {} u.items (walk o {} u.attributes {})
  let renders := (s.functions.filter (·.declaration.isRender)).size
  { s with records := s.records.push ⟨.debug, .declarations,
      "Indexed " ++ toString s.functions.size ++ " function declarations (" ++ toString renders ++
        " render functions)"⟩ }

/-- The number of the function that a place names. -/
def lookup (s : Index) (l : Location) : Option FunctionId :=
  (s.functions.toList.reverse.find? fun f => f.declaration.location == l).map (·.declaration.id)

end Index

end RenderTrace
