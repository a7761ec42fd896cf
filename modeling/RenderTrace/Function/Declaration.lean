import RenderTrace.Marker
import RenderTrace.Options

/-!
# Declared functions

A unit declares functions in several forms. Each gets a number in the order of discovery, a name for
display, and the place of the token that names it (for a closure, of its opening bar), by which it
is found again in the tree.
-/

namespace RenderTrace

open Syntax

/-- The number of a function in its unit. -/
abbrev FunctionId := Nat

/-- The form in which a function is declared. -/
inductive FunctionKind where
  /-- A function of a module. -/
  | item
  /-- A method of an `impl`. -/
  | method
  /-- A method of a trait, with a body. -/
  | traitDefault
  /-- A method of a trait, without a body. -/
  | traitRequired
  /-- A function of a foreign block. -/
  | foreign
  /-- A function inside another one. -/
  | local
  /-- A closure that is marked as a render function. -/
  | closure
  deriving DecidableEq, Repr, Inhabited

namespace FunctionKind

/-- The kind as reports show it. -/
def name : FunctionKind → String
  | item => "item"
  | method => "method"
  | traitDefault => "trait_default"
  | traitRequired => "trait_required"
  | foreign => "foreign"
  | .local => "local"
  | closure => "closure"

/-- Whether a method call may refer to the function. -/
def isMethod : FunctionKind → Bool
  | method | traitDefault | traitRequired => true
  | _ => false

end FunctionKind

/-- How the value of a parameter is captured. -/
inductive TypeShape where
  | plain
  /-- By the current value of a reactive wrapper. -/
  | reactive
  /-- As absent if there is none. -/
  | optional
  deriving DecidableEq, Repr, Inhabited

/-- The shape as reports show it. -/
def TypeShape.name : TypeShape → String
  | plain => "plain"
  | reactive => "reactive"
  | optional => "optional"

/-- A parameter of a function. -/
structure Param where
  /-- The name it binds, or the text of a pattern that binds none or several. -/
  name : String
  /-- The text of its type. -/
  type : String
  shape : TypeShape
  /-- Whether it binds a single name. -/
  binding : Bool
  deriving DecidableEq, Repr, Inhabited

/-- What a declaration belongs to. -/
inductive Scope where
  | file (label : String)
  | type (label : String)
  deriving DecidableEq, Repr, Inhabited

/-- The label of a scope. -/
def Scope.label : Scope → String
  | file l => l
  | type l => l

/-- A declared function. -/
structure Declaration where
  id : FunctionId
  localName : String
  qualifiedName : Option String
  params : List Param
  hasBody : Bool
  scope : Scope
  kind : FunctionKind
  location : Location
  isRender : Bool
  isInline : Bool
  deriving DecidableEq, Repr, Inhabited

/-- The name under which a function is shown: qualified where that is possible, else behind the
label of its scope. -/
def Declaration.displayName (d : Declaration) : String :=
  d.qualifiedName.getD (d.scope.label ++ "." ++ d.localName)

/-- Where a function stands, as far as names are resolved by it. -/
structure Context where
  /-- The modules around it, outermost first. -/
  module : List String := []
  /-- The type whose member it is. -/
  selfType : Option String := none
  /-- The function in whose body it is declared. -/
  enclosing : Option FunctionId := none
  deriving DecidableEq, Repr, Inhabited

/-- A declared function with what its annotations say, its body and its context. -/
structure Function where
  declaration : Declaration
  tracking : Tracking
  skip : Skip
  body : Option Node
  context : Context
  /-- The path from the top of the unit, for functions outside other functions. -/
  sourcePath : Option (List String)
  deriving Repr, Inhabited

namespace Param

/-- The shape of a type, seen through references and parentheses. -/
def shapeOf (o : Options) : Node → TypeShape
  | .node .typeReference [_, _, _, t] => shapeOf o t
  | .node .typeParen [.group _ [t]] => shapeOf o t
  | .node .typePath [p] =>
    match p.segmentNames.getLast? with
    | some "Option" => .optional
    | some n => if o.isReactiveWrapper n then .reactive else .plain
    | none => .plain
  | _ => .plain

/-- The parameter that a pattern and its type make. -/
def ofPattern (o : Options) (pattern : Node) (type : Option Node) : Param :=
  let (name, binding) := match pattern with
    | .node .patIdent [_, _, _, n, _, .node .absent []] => (n.text, true)
    | p => (p.tokenText, false)
  ⟨name, (type.map Node.tokenText).getD "", (type.map (shapeOf o)).getD .plain, binding⟩

/-- The parameters of a function with their attributes, without the receiver. -/
def ofInputs (o : Options) (inputs : List Node) : List (Param × List Node) :=
  inputs.filterMap fun i =>
    match i with
    | .node .patType [attrs, p, _, t] => some (ofPattern o p (some t), attrs.elements)
    | _ => none

/-- The parameters of a closure with their attributes. -/
def ofClosureInputs (o : Options) (inputs : List Node) : List (Param × List Node) :=
  inputs.map fun i =>
    match i with
    | .node .patType [attrs, p, _, t] => (ofPattern o p (some t), attrs.elements)
    | .node .patIdent (attrs :: _) => (ofPattern o i none, attrs.elements)
    | p => (ofPattern o p none, [])

end Param

/-- The name of the type of an `impl`: the last word of its path, seen through references and
parentheses, or the text of any other type. -/
def selfTypeName : Node → String
  | .node .typeReference [_, _, _, t] => selfTypeName t
  | .node .typeParen [.group _ [t]] => selfTypeName t
  | t@(.node .typePath [p]) => p.segmentNames.getLast?.getD t.tokenText
  | t => t.tokenText

end RenderTrace
