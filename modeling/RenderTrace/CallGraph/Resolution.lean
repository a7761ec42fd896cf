import RenderTrace.CallGraph.Reference

/-!
# What a reference refers to

Only render functions are found. A path is looked up first as it is written, below the module it
stands in, then below each module around that one, and last, if nothing was found so, by its end:
every render function whose path from the top of the unit ends with the path written. A method is
looked up by the type of `self` in the same way, or else by its name alone among all methods.
-/

namespace RenderTrace

namespace Site

/-- The lists that remain as words are dropped from the end, longest first. -/
def ancestors (words : List String) : List (List String) :=
  (List.range (words.length + 1)).map fun k => words.take (words.length - k)

/-- The render functions with this path from the top of the unit. -/
def atPath (functions : List Function) (words : List String) : List FunctionId :=
  (functions.filter fun f => f.declaration.isRender && f.sourcePath == some words).map
    (·.declaration.id)

/-- The render functions of this name, closures left out. -/
def withName (functions : List Function) (name : String) : List Function :=
  functions.filter fun f =>
    f.declaration.isRender && f.declaration.kind != .closure && f.declaration.localName == name

/-- The render functions at a path below the first of the modules `base` and those around it that
holds any. -/
def nearest (functions : List Function) (base words : List String) : List FunctionId :=
  ((ancestors base).map fun b => atPath functions (b ++ words)).find? (!·.isEmpty) |>.getD []

/-- Drops words `super` from a path, and a module for each. -/
def climb (base : List String) : List String → List String × List String
  | "super" :: rest => climb base.dropLast rest
  | words => (base, words)

/-- The module that a path is relative to, and the path below it, after the word at its head;
nothing if it begins with `Self` and there is no such type. -/
def normalise (ctx : Context) (words : List String) : Option (List String × List String) :=
  match words with
  | "crate" :: rest => some ([], rest)
  | "self" :: rest => some (ctx.module, rest)
  | "super" :: _ => some (climb ctx.module words)
  | "Self" :: rest => ctx.selfType.map fun t => (ctx.module, t :: rest)
  | _ => some (ctx.module, words)

/-- Whether a function is meant by the end of its path. -/
def endsWith (words : List String) (f : Function) : Bool :=
  match f.sourcePath with
  | some whole => words.isSuffixOf whole
  | none => words.length == 1

/-- The functions that a path refers to. -/
def resolvePath (functions : List Function) (ctx : Context) (words : List String) :
    List FunctionId :=
  match normalise ctx words with
  | none => []
  | some (base, words) =>
    match words.getLast? with
    | none => []
    | some name =>
      let found := nearest functions base words
      if !found.isEmpty then found
      else ((withName functions name).filter (endsWith words)).map (·.declaration.id)

/-- The functions that a method call refers to. -/
def resolveMethod (functions : List Function) (ctx : Context) (name : String) (onSelf : Bool) :
    List FunctionId :=
  let own := match onSelf, ctx.selfType with
    | true, some t => nearest functions ctx.module [t, name]
    | _, _ => []
  if !own.isEmpty then own
  else ((withName functions name).filter (·.declaration.kind.isMethod)).map (·.declaration.id)

/-- The functions that a site refers to, and how. -/
def resolve (functions : List Function) (ctx : Context) : Site → List FunctionId × CallKind
  | .path segments kind => (resolvePath functions ctx segments, kind)
  | .method name onSelf => (resolveMethod functions ctx name onSelf, .direct)
  | .literal id => ([id], .functionLiteral)

end Site

namespace CallGraph

/-- What is met in the body of a function; nothing unless it is a render function with a body. -/
def sightingsOf (index : Index) (f : Function) : List Site.Sighting :=
  if f.declaration.isRender then
    match f.body with
    | some b => Site.inBody index.lookup b
    | none => []
  else []

/-- The edges that the sites of a function ask for, in the order of the sites. -/
def edgesOf (index : Index) (f : Function) : List Edge :=
  (Site.sites (sightingsOf index f)).flatMap fun s =>
    let (callees, kind) := s.resolve index.functions.toList f.context
    callees.map fun callee => ⟨f.declaration.id, callee, kind⟩

/-- The graph of an index: a node for every function, and the edges of every render function. -/
def build (index : Index) : CallGraph :=
  let nodes : CallGraph := index.functions.toList.foldl (fun g f => g.addNode f.declaration.id) {}
  (index.functions.toList.flatMap (edgesOf index)).foldl (fun g e => (g.addEdge e).1) nodes

/-- What is said while the graph of an index is built. -/
def buildRecords (index : Index) (g : CallGraph) : List Record :=
  index.functions.toList.flatMap (fun f => Site.records (sightingsOf index f)) ++
    [⟨.debug, .callGraph, "Call graph: " ++ toString g.nodes.length ++ " nodes, " ++
      toString g.edges.length ++ " edges"⟩]

end CallGraph

end RenderTrace
