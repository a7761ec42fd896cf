import RenderTrace.Layout.Attribute

/-!
# The layout of paths, bounds and types

Generic parameters and arguments are written with the lifetimes first, whatever their order. In
expressions a path has a `::` in front of its arguments in angles, elsewhere not, however it was
spelled. Empty angles are left out.
-/

namespace RenderTrace.Layout

open Syntax

variable (self : Layouts)

/-! ### Paths -/

/-- Lifetimes, then all else. -/
def lifetimesFirst (isLifetime : Node → Bool) (ns : List Node) : List Node :=
  ns.filter isLifetime ++ ns.filter fun n => !isLifetime n

/-- A constant as a generic argument. -/
def constArgument (n : Node) : Row := self (.expression false) n

/-- The first bound behind `opening`, each further one behind a `+` where the line may end. -/
def boundsBehind (opening : String) (bs : List Node) : Row :=
  match bs with
  | [] => []
  | b :: bs =>
    word opening ++ self .bound b ++ bs.flatMap fun b => blank ++ word "+ " ++ self .bound b

/-- Bounds with `+` between them where no line ends. -/
def sumOfBounds (bs : List Node) : Row := between (word " + ") (self .bound) bs

/-- Generic arguments in angles, with a `::` in front in expressions. -/
def angleArguments (inExpression : Bool) (argument : Node → Row) (args : Node) : Row :=
  match args with
  | .node .angleArguments [_, _, args, _] =>
    if args.elements.isEmpty then []
    else
      (if inExpression then word "::" else []) ++
        bracketed "<" argument (lifetimesFirst (·.is .lifetime) args.elements) ">"
  | _ => []

/-- The result of a function behind its arrow. -/
def returns (n : Node) : Row :=
  whenThere n fun n => word " -> " ++ self .type (n.child 1)

/-- A generic argument; `nested` are the arguments of the name that an argument defines or
bounds. -/
def genericArgument (nested : Node → Row) : Node → Row
  | .node .lifetime [l] => token l
  | .node .constArgument [e] => constArgument self e
  | .node .assocType [n, args, _, ty] => token n ++ nested args ++ word " = " ++ self .type ty
  | .node .assocConst [n, args, _, e] =>
    token n ++ nested args ++ word " = " ++ constArgument self e
  | .node .constraint [n, args, _, bs] =>
    token n ++ nested args ++ fill step (boundsBehind self ": " bs.elements)
  | ty => self .type ty

/-- Generic arguments in angles of types; each level of names within takes one step of the fuel. -/
def nestedArguments : Nat → Node → Row
  | 0, _ => [.unprintable]
  | fuel + 1, args => angleArguments false (genericArgument self (nestedArguments fuel)) args

/-- The arguments of a segment of a path. -/
def segmentArguments (inExpression : Bool) (args : Node) : Row :=
  match args with
  | .node .angleArguments _ =>
    angleArguments inExpression (genericArgument self (nestedArguments self args.size)) args
  | .node .parenArguments [.group _ [inputs], output] =>
    together step (word "(" ++ outdent (seam ++ commas (self .type) inputs.elements) ++ word ")" ++
      returns self output)
  | _ => []

/-- A segment of a path. -/
def segment (inExpression : Bool) (s : Node) : Row :=
  token (s.child 0) ++ segmentArguments self inExpression (s.child 1)

/-- A path, as expressions or as types spell it. -/
def path (inExpression : Bool) : Node → Row
  | .node .path [colons, segments] =>
    mark colons "::" ++ between (word "::") (segment self inExpression) segments.elements
  | .node .qualifiedPath [_, ty, _, trait_, _, _, segments] =>
    let trait_ := match trait_ with
      | .node .path [colons, segments] =>
        word " as " ++ mark colons "::" ++
          between (word "::") (segment self false) segments.elements
      | _ => []
    word "<" ++ self .type ty ++ trait_ ++ word ">" ++
      segments.elements.flatMap fun s => word "::" ++ segment self inExpression s
  | _ => [.unprintable]

/-! ### Bounds and parameters -/

/-- A lifetime parameter with its bounds. -/
def lifetimeParam : Node → Row
  | .node .lifetimeParam [attrs, l, _, bs] =>
    attributesOf self attrs.elements ++ token l ++
      (if bs.elements.isEmpty then []
        else word ": " ++ between (word " + ") (fun b => token (b.child 0)) bs.elements)
  | _ => [.unprintable]

/-- A generic parameter. -/
def genericParam : Node → Row
  | .node .typeParam [attrs, n, _, bs, _, default_] =>
    attributesOf self attrs.elements ++ token n ++
      fill step (boundsBehind self ": " bs.elements ++
        whenThere default_ fun ty => blank ++ word "= " ++ self .type ty)
  | .node .constParam [attrs, _, n, _, ty, _, default_] =>
    attributesOf self attrs.elements ++ word "const " ++ token n ++ word ": " ++ self .type ty ++
      whenThere default_ fun e => word " = " ++ constArgument self e
  | n => lifetimeParam self n

/-- The lifetimes that a `for` quantifies, with a blank behind them. -/
def forLifetimes (n : Node) : Row :=
  match n with
  | .node .forLifetimes [_, _, params, _] =>
    word "for<" ++ between (word ", ") (genericParam self) params.elements ++ word "> "
  | _ => []

/-- The generic parameters of a declaration. -/
def generics (n : Node) : Row :=
  match n with
  | .node .generics [_, params, _] =>
    word "<" ++
      together 0 (outdent
        (seam ++
          commas (genericParam self) (lifetimesFirst (·.is .lifetimeParam) params.elements))) ++
      word ">"
  | _ => []

/-- A trait as a bound. -/
def traitBound : Node → Row
  | .node .traitBound [maybe, lifetimes, p] =>
    mark maybe "?" ++ forLifetimes self lifetimes ++ path self false p
  | _ => [.unprintable]

/-- A lifetime or parameter that a bound captures. -/
def capturedParam (n : Node) : Row := token (n.child 0)

/-- A bound. -/
def bound : Node → Row
  | .node .parenBound [.group _ [b]] => word "(" ++ traitBound self b ++ word ")"
  | .node .lifetime [l] => token l
  | .node .preciseCapture [_, _, params, _] =>
    word "use<" ++ between (word ", ") capturedParam params.elements ++ word ">"
  | b => traitBound self b

/-! ### Conditions -/

/-- A condition of a declaration. -/
def condition : Node → Row
  | .node .whereType [lifetimes, ty, _, bs] =>
    let offset := if bs.elements.length == 1 then 0 else step
    forLifetimes self lifetimes ++ self .type ty ++ word ":" ++
      fill offset (boundsBehind self " " bs.elements)
  | .node .whereLifetime [l, _, bs] =>
    token l ++ word ":" ++
      fill step (match bs.elements with
        | [] => []
        | b :: bs => word " " ++ token (b.child 0) ++
          bs.flatMap fun b => blank ++ word "+ " ++ token (b.child 0))
  | _ => [.unprintable]

/-- Where conditions stand: on lines of their own, or on the line if it has room for them; and
whether a semicolon follows them or a body. -/
structure WhereStyle where
  ownLines : Bool
  semicolon : Bool

/-- The conditions of a declaration, with the semicolon or the blank behind them. -/
def conditions (style : WhereStyle) (n : Node) : Row :=
  match n with
  | .node .whereClause [_, predicates] =>
    let gap := if style.ownLines then newline else blank
    let behind (isLast : Bool) : Row :=
      if isLast && style.semicolon then word ";"
      else if style.ownLines then word "," ++ newline
      else commaOrBlank isLast
    let rows := withLast (fun isLast p => condition self p ++ behind isLast) predicates.elements
    outdent gap ++ word "where" ++ gap ++ if style.semicolon then rows else outdent rows
  | _ => if style.semicolon then word ";" else word " "

/-- Conditions in front of a body. -/
def conditionsForBody (n : Node) : Row := conditions self ⟨true, false⟩ n

/-! ### Types -/

/-- The calling convention of a function, with a blank behind it. -/
def abi (n : Node) : Row :=
  match n with
  | .node .abi [_, name] => word "extern " ++ whenThere name fun n => token n ++ word " "
  | _ => []

/-- A name and a colon in front of a type, if they are there. -/
def nameBefore (n : Node) : Row := whenThere n fun n => token n ++ word ": "

/-- The parameters of a function type. -/
def bareFnArgs (args : List Node) : Row :=
  withLast (fun isLast arg =>
    match arg with
    | .node .bareVariadic [attrs, n, _, _, _] =>
      attributesOf self attrs.elements ++ nameBefore n ++ word "..." ++ seam
    | .node .bareFnArg [attrs, n, _, ty] =>
      attributesOf self attrs.elements ++ nameBefore n ++ self .type ty ++ comma isLast
    | _ => [.unprintable]) args

/-- A type. -/
def type : Node → Row
  | .node .typeArray [.group _ [ty, _, e]] =>
    word "[" ++ self .type ty ++ word "; " ++ self (.expression false) e ++ word "]"
  | .node .typeBareFn [lifetimes, unsafe_, abi_, _, .group _ [args], output] =>
    forLifetimes self lifetimes ++ mark unsafe_ "unsafe " ++ abi abi_ ++ word "fn(" ++
      inside (bareFnArgs self args.elements) ++ word ")" ++ returns self output
  | .node .typeImpl [_, bs] => word "impl " ++ sumOfBounds self bs.elements
  | .node .typeInfer _ => word "_"
  | .node .typeMacro [.node .macroCall [p, _, args]] => macroCall p .absent args false
  | .node .typeNever _ => word "!"
  | .node .typeParen [.group _ [ty]] => word "(" ++ self .type ty ++ word ")"
  | .node .typePath [p] => path self false p
  | .node .typePtr [_, qualifier, ty] =>
    word "*" ++ token qualifier ++ word " " ++ self .type ty
  | .node .typeReference [_, l, mut_, ty] =>
    word "&" ++ lifetimeBefore l ++ mark mut_ "mut " ++ self .type ty
  | .node .typeSlice [.group _ [ty]] => word "[" ++ self .type ty ++ word "]"
  | .node .typeTraitObject [_, bs] => word "dyn " ++ sumOfBounds self bs.elements
  | .node .typeTuple [.group _ [elems]] =>
    tupled (self .type) true elems.elements
  | _ => [.unprintable]

end RenderTrace.Layout
