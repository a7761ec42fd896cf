import RenderTrace.Syntax.Attribute
import RenderTrace.Journal

/-!
# Markers of functions and parameters

Markers are recognised by the last word of an attribute's path, so that `#[ui::component]` marks a
render function as `#[component]` does.

## The arguments of the tracking marker

`include_nested` is the only setting of `#[track_recompositions]`. The list form is read as
comma-separated expressions; the first expression that decides wins: an assignment to the setting,
or, in the first position, a truth value. Whatever is no truth value counts as false.
-/

namespace RenderTrace

open Syntax

namespace Marker

/-- The markers of render functions. -/
def renderMarkers : List String := ["component", "composable"]

/-- The marker of render functions that only read state and are never tracked. -/
def readOnlyMarker : String := "read_only_component"

/-- The marker that asks for tracking. -/
def trackMarker : String := "track_recompositions"

/-- The marker that excludes a function or a parameter. -/
def skipMarker : String := "skip_recomposition_tracking"

/-- The names of the setting that includes nested functions. -/
def includeNestedKeys : List String := ["include_nested", "include_nested_recursively"]

/-- Whether an attribute is the marker of this name. -/
def isMarker (name : String) (a : Node) : Bool := a.attributeName? == some name

/-- Whether one of the attributes is the marker of this name. -/
def hasMarker (attributes : List Node) (name : String) : Bool := attributes.any (isMarker name)

/-- Whether a function is marked as a render function. -/
def isRenderMarked (attributes : List Node) : Bool := renderMarkers.any (hasMarker attributes)

/-- Whether a render function only reads. -/
def isReadOnly (attributes : List Node) : Bool := hasMarker attributes readOnlyMarker

/-- Whether a function is marked inline; only the bare word counts. -/
def isInline (attributes : List Node) : Bool :=
  attributes.any fun a => a.attributePath.isWord "inline"

/-- The truth value that an expression spells, perhaps in parentheses. -/
def truthValue? : Node → Option Bool
  | .node .exprLit [_, .token .word t _] =>
    if t == "true" then some true else if t == "false" then some false else none
  | .node .exprParen [_, .group _ [e]] => truthValue? e
  | _ => none

/-- The value that an argument gives to the setting, if it decides it. -/
def decides? (first : Bool) (argument : Node) : Option Bool :=
  match argument with
  | .node .exprAssign [_, .node .exprPath [_, p], _, right] =>
    if includeNestedKeys.any p.isWord then some ((truthValue? right).getD false) else none
  | .node .exprAssign _ => none
  | e => if first then truthValue? e else none

/-- The value of the setting that a list of arguments gives. -/
def settingOf (arguments : List Node) : Bool :=
  match arguments with
  | [] => false
  | a :: rest => ((decides? true a) <|> rest.findSome? (decides? false)).getD false

/-- Reads the arguments of a marker as comma-separated expressions. -/
def arguments (trees : List TokenTree) : Except SyntaxError (List Node) :=
  (·.elements) <$> (Grammar.closed Grammar.expressionList).run trees

end Marker

/-- Whether a function is tracked, and with it the functions that it refers to. -/
structure Tracking where
  isTracked : Bool := false
  includeNested : Bool := false
  deriving DecidableEq, Repr, Inhabited

namespace Tracking

open Marker

/-- The setting of one tracking marker, and what is wrong with its arguments. -/
def settingOfMarker (a : Node) : Bool × Option SyntaxError :=
  match a.attributeInside with
  | .node .metaNameValue [_, _, value] => ((truthValue? value).getD false, none)
  | .node .metaList [_, .group _ [.unread trees]] =>
    match arguments trees with
    | .ok as => (settingOf as, none)
    | .error e => (false, some e)
  | _ => (false, none)

/-- The tracking that attributes ask for, by the first marker among them, and what is wrong with its
arguments. -/
def ofAttributes (attributes : List Node) : Tracking × Option SyntaxError :=
  match attributes.find? (isMarker trackMarker) with
  | none => ({}, none)
  | some a =>
    let (nested, complaint) := settingOfMarker a
    (⟨true, nested⟩, complaint)

/-- The record that says what is wrong with the arguments of a marker. -/
def complaintRecord (e : SyntaxError) : Record :=
  ⟨.debug, .annotations, "Malformed " ++ trackMarker ++ " arguments: " ++ e.message⟩

end Tracking

/-- Which parts of a function are left out: the function itself, where another one would include it,
and parameters. -/
structure Skip where
  wholeFunction : Bool := false
  parameters : List String := []
  deriving DecidableEq, Repr, Inhabited

namespace Skip

open Marker

/-- Inserts a text into a list in increasing order, unless it is there. -/
def insertSorted (s : String) : List String → List String
  | [] => [s]
  | t :: ts => if s < t then s :: t :: ts else if s = t then t :: ts else t :: insertSorted s ts

/-- The texts of a list in increasing order, each once. -/
def sorted (names : List String) : List String := names.foldl (fun acc s => insertSorted s acc) []

/-- What the attributes of a function and of its parameters leave out. -/
def ofAttributes (attributes : List Node) (parameters : List (String × List Node)) : Skip where
  wholeFunction := hasMarker attributes skipMarker
  parameters := sorted ((parameters.filter fun p => hasMarker p.2 skipMarker).map (·.1))

/-- Whether a parameter is left out. -/
def skips (s : Skip) (name : String) : Bool := s.parameters.contains name

end Skip

end RenderTrace
