import RenderTrace.Function.Index
import RenderTrace.CallGraph.Basic

/-!
# References in a body

The sites of a body at which it may refer to other functions, in the order in which they are met: a
call or a use of a path, a method call, and a closure literal that is a declared function. Items
inside the body are functions of their own and are passed over.

## Macros

The arguments of a macro are read as comma-separated expressions, or else as statements, and walked
like the rest of the body. What can be read as neither holds no sites. Each reading goes one group
deeper into the tokens, so that as many levels as there are tokens are enough.
-/

namespace RenderTrace

open Syntax

/-- A site at which a function may be referred to. -/
inductive Site where
  | path (segments : List String) (kind : CallKind)
  | method (name : String) (onSelf : Bool)
  | literal (id : FunctionId)
  deriving DecidableEq, Repr, Inhabited

namespace Site

/-- What is met in a body: a site, or a macro that cannot be read. -/
inductive Sighting where
  | site (s : Site)
  | unreadable (path : List String)
  deriving DecidableEq, Repr, Inhabited

/-- The forms of nodes that matter here. -/
inductive Form where
  | call
  | methodCall
  | pathUse
  | closure
  | item
  | macroUse
  | other
  deriving DecidableEq

/-- The form of a kind. -/
def formOf : Kind → Form
  | .exprCall => .call
  | .exprMethodCall => .methodCall
  | .exprPath => .pathUse
  | .exprClosure => .closure
  | .macroCall => .macroUse
  | .itemConst | .itemEnum | .itemExternCrate | .itemFn | .itemForeignMod | .itemImpl | .itemMacro
  | .itemMod | .itemStatic | .itemStruct | .itemTrait | .itemTraitAlias | .itemType | .itemUnion
  | .itemUse => .item
  | _ => .other

/-- What a node contributes before its children are walked, and which children are. -/
structure Step where
  found : List Sighting
  walks : Nat → Bool

/-- The words of the path that an expression is, if it is one. -/
def pathOf? : Node → Option (List String)
  | .node .exprPath [_, p] => some p.segmentNames
  | _ => none

/-- Whether an expression is the receiver `self`. -/
def isSelf : Node → Bool
  | .node .exprPath [_, p] => p.isWord "self"
  | _ => false

/-- What a node contributes. `lookup` finds declared closures, `expand` reads macros. -/
def enter (lookup : Location → Option FunctionId) (expand : Node → List Sighting) (n : Node) :
    Step :=
  match n with
  | .node k cs =>
    match formOf k with
    | .call =>
      match pathOf? (cs.getD 1 .absent) with
      | some segments => ⟨[.site (.path segments .direct)], fun i => i == 2⟩
      | none => ⟨[], fun i => i == 1 || i == 2⟩
    | .methodCall =>
      ⟨[.site (.method (cs.getD 3 .absent).text (isSelf (cs.getD 1 .absent)))],
        fun i => i == 1 || i == 5⟩
    | .pathUse => ⟨[.site (.path ((pathOf? n).getD []) .reference)], fun _ => false⟩
    | .closure =>
      if Marker.isRenderMarked n.outerAttributes then
        match lookup n.closureBar.location with
        | some id => ⟨[.site (.literal id)], fun _ => false⟩
        | none => ⟨[], fun _ => true⟩
      else ⟨[], fun _ => true⟩
    | .item => ⟨[], fun _ => false⟩
    | .macroUse => ⟨expand n, fun _ => false⟩
    | .other => ⟨[], fun _ => true⟩
  | _ => ⟨[], fun _ => true⟩

mutual

/-- What is met in a tree. -/
def walk (lookup : Location → Option FunctionId) (expand : Node → List Sighting) :
    Node → List Sighting
  | .node k cs =>
    let step := enter lookup expand (.node k cs)
    step.found ++ walkAll lookup expand step.walks 0 cs
  | .group _ cs => walkAll lookup expand (fun _ => true) 0 cs
  | _ => []

/-- What is met in those of several trees that `walks` picks by position, from position `i` on. -/
def walkAll (lookup : Location → Option FunctionId) (expand : Node → List Sighting)
    (walks : Nat → Bool) (i : Nat) : List Node → List Sighting
  | [] => []
  | c :: cs =>
    (if walks i then walk lookup expand c else []) ++ walkAll lookup expand walks (i + 1) cs

end

/-- The tokens of a macro's arguments. -/
def macroTokens : Node → List TokenTree
  | .node .macroCall [_, _, .group _ [.unread trees]] => trees
  | _ => []

/-- The arguments of a macro, read as expressions or else as statements. -/
def macroContents? (n : Node) : Option Node :=
  let trees := macroTokens n
  match (Grammar.closed Grammar.expressionList).run trees with
  | .ok es => some es
  | .error _ =>
    match (Grammar.closed Grammar.statements).run trees with
    | .ok ss => some ss
    | .error _ => none

/-- What is met in a tree, with macros read to a depth. -/
def sightings (lookup : Location → Option FunctionId) : Nat → Node → List Sighting
  | 0 => walk lookup fun _ => []
  | depth + 1 => walk lookup fun m =>
    match macroContents? m with
    | some contents => sightings lookup depth contents
    | none => [.unreadable (m.child 0).segmentNames]

/-- What is met in a body. -/
def inBody (lookup : Location → Option FunctionId) (body : Node) : List Sighting :=
  sightings lookup (body.size + 1) body

/-- The sites among what is met. -/
def sites (found : List Sighting) : List Site :=
  found.filterMap fun
    | .site s => some s
    | .unreadable _ => none

/-- The record about a macro that cannot be read. -/
def records (found : List Sighting) : List Record :=
  found.filterMap fun
    | .site _ => none
    | .unreadable p => some ⟨.debug, .callGraph, "Macro " ++ "::".intercalate p ++
        " has no expression body; references inside are not tracked"⟩

end Site

end RenderTrace
