import RenderTrace.Layout.Statement

/-!
# The layout of items

Items and members of items have one layout each; every one ends its line. Bodies in braces have
their contents on lines.
-/

namespace RenderTrace.Layout

open Syntax

variable (self : Layouts)

/-! ### Parts of items -/

/-- A visibility, with a blank behind it. Paths of one of the words that lead out of a module need
no `in`. -/
def visibility : Node → Row
  | .node .visPublic _ => word "pub "
  | .node .visRestricted [_, .group _ [_, p]] =>
    let plain := ["self", "super", "crate"].any p.isWord
    word "pub(" ++ (if plain then [] else word "in ") ++ plainPath p ++ word ") "
  | _ => []

/-- A parameter of a function. -/
def parameter : Node → Row
  | .node .receiver [attrs, amp, l, mut_, _, _, ty] =>
    attributesOf self attrs.elements ++ mark amp "&" ++ lifetimeBefore l ++ mark mut_ "mut " ++
      word "self" ++ whenThere ty fun ty => word ": " ++ self .type ty
  | .node .variadic [attrs, p, _, _, _] =>
    attributesOf self attrs.elements ++ (whenThere p fun p => subpattern self p ++ word ": ") ++
      word "..."
  | p => subpattern self p

/-- The parameters of a function; no comma stands behind a list of further arguments. -/
def parameters (ps : List Node) : Row :=
  withLast (fun isLast p => parameter self p ++ if p.is .variadic then seam else comma isLast) ps

/-- The head of a function without its conditions. -/
def signature : Node → Row
  | .node .signature [const_, async_, unsafe_, abi_, _, n, g, .group _ [inputs], output, _] =>
    mark const_ "const " ++ mark async_ "async " ++ mark unsafe_ "unsafe " ++ abi abi_ ++
      word "fn " ++ token n ++ generics self g ++ word "(" ++ glue ++
      together 0 (outdent (seam ++ parameters self inputs.elements)) ++ word ")" ++
      together (-step) (returns self output)
  | _ => [.unprintable]

/-- The conditions of a function. -/
def conditionsOf (sig : Node) : Node := sig.child 9

/-- An item with a body in braces: its head in front of the brace and its contents, in one box. -/
def braced (head contents : Row) : Row :=
  together step (outdent (head ++ word "\x7b" ++ newlineIfMore ++ contents)) ++
    word "\x7d" ++ newline

/-- The attributes and members in the braces of an item, on lines. -/
def members (owner group : Node) : Row :=
  attributesOf self owner.innerAttributes ++ (group.child 0).elements.flatMap (self .item)

/-- A function with its body. -/
def functionWith (owner : Node) (head : Row) (sig block : Node) : Row :=
  braced (head ++ signature self sig ++ conditionsForBody self (conditionsOf sig))
    (attributesOf self owner.innerAttributes ++ statements self (statementsOf block))

/-- A declaration of a constant or a variable that ends with a semicolon. -/
def declaration (head : Row) (n ty e : Node) : Row :=
  together 0 (head ++ token n ++ word ": " ++ self .type ty ++
    (whenThere e fun e => word " = " ++ glue ++ value self e) ++ word ";") ++ newline

/-- A name with its generic parameters. -/
def nameWith (n g : Node) : Row := token n ++ generics self g

/-- A field of a declaration. -/
def field : Node → Row
  | .node .field [attrs, vis, n, _, ty] =>
    attributesOf self attrs.elements ++ visibility vis ++ nameBefore n ++ self .type ty
  | _ => [.unprintable]

/-- Unnamed fields in the box of their owner. -/
def fieldsUnnamed (fields : Node) : Row :=
  word "(" ++ outdent (seam ++ commas (field self) ((fields.child 0).child 0).elements) ++ word ")"

/-- Named fields on lines. -/
def fieldsNamed (fields : Node) : Row :=
  ((fields.child 0).child 0).elements.flatMap fun f => field self f ++ word "," ++ newline

/-- A variant of an enumeration. -/
def variant : Node → Row
  | .node .variant [attrs, n, fields, _, e] =>
    let shown :=
      if fields.is .fieldsNamed then
        word " \x7b" ++
          together step (outdent (blank ++
            withLast (fun isLast f => field self f ++ commaOrBlank isLast)
              ((fields.child 0).child 0).elements)) ++
          word "\x7d"
      else whenThere fields fun fields => together step (fieldsUnnamed self fields)
    attributesOf self attrs.elements ++ token n ++ shown ++
      whenThere e fun e => word " = " ++ value self e
  | _ => [.unprintable]

/-- A type behind an equals sign. -/
def typeBehind (ty : Node) : Row := glue ++ fill (-step) (self .type ty)

/-! ### Imports -/

/-- Whether an import ends in braces. -/
def endsInGroup : Nat → Node → Bool
  | 0, _ => false
  | fuel + 1, t =>
    match t with
    | .node .usePath [_, _, t] => endsInGroup fuel t
    | t => t.is .useGroup

/-- Whether an import in braces needs them although it is the only one: if it is the module itself,
perhaps under another name. -/
def keepsBraces : Node → Bool
  | .node .useName [w] => w.text == "self"
  | .node .useRename [w, _, _] => w.text == "self"
  | _ => false

/-- The tree of an import. An import in braces behind which another one follows ends its line if it
ends in braces itself, also in such that are left out because they hold a single import. -/
def useTree : Nat → Node → Row
  | 0, _ => [.unprintable]
  | fuel + 1, t =>
    match t with
    | .node .usePath [w, _, t] => token w ++ word "::" ++ useTree fuel t
    | .node .useName [w] => token w
    | .node .useRename [w, _, n] => token w ++ word " as " ++ token n
    | .node .useGlob _ => word "*"
    | .node .useGroup [.group _ [trees]] =>
      let one (isLast : Bool) (t : Node) : Row :=
        useTree fuel t ++
          if isLast then []
          else word "," ++ if endsInGroup t.size t then newline else blank
      match trees.elements with
      | [t] =>
        if keepsBraces t then
          word "\x7b" ++ inside (fill 0 (one true t) ++ comma true) ++ word "\x7d"
        else useTree fuel t
      | ts => word "\x7b" ++ inside (fill 0 (withLast one ts) ++ comma true) ++ word "\x7d"
    | _ => [.unprintable]

/-! ### Items -/

/-- A structure behind its head. -/
def structRest (head : Row) (where_ fields : Node) : Row :=
  if fields.is .fieldsNamed then
    braced (head ++ conditionsForBody self where_) (fieldsNamed self fields)
  else
    let shown := whenThere fields (fieldsUnnamed self)
    together step (head ++ shown ++ conditions self ⟨true, true⟩ where_) ++ newline

/-- The head of an implementation. -/
def implHead (default_ unsafe_ g bang trait_ ty : Node) : Row :=
  fill (-step)
    (together step
        (mark default_ "default " ++ mark unsafe_ "unsafe " ++ word "impl" ++ generics self g) ++
      word " " ++
      (whenThere trait_ fun p => mark bang "!" ++ path self false p ++ blank ++ word "for ") ++
      self .type ty)

/-- An item behind its attributes. -/
def bareItem (whole : Node) : Row :=
  match whole with
  | .node .itemConst [_, vis, _, n, _, ty, _, e, _] =>
    declaration self (visibility vis ++ word "const ") n ty e
  | .node .itemEnum [_, vis, _, n, g, where_, .group _ [variants]] =>
    braced (visibility vis ++ word "enum " ++ nameWith self n g ++ conditionsForBody self where_)
      (variants.elements.flatMap fun v => variant self v ++ word "," ++ newline)
  | .node .itemExternCrate [_, vis, _, _, n, _, alias_, _] =>
    visibility vis ++ word "extern crate " ++ token n ++
      (whenThere alias_ fun a => word " as " ++ token a) ++ word ";" ++ newline
  | .node .itemFn [_, vis, sig, block] => functionWith self whole (visibility vis) sig block
  | .node .itemForeignMod [_, unsafe_, abi_, group] =>
    braced (mark unsafe_ "unsafe " ++ abi abi_) (members self whole group)
  | .node .itemImpl [_, default_, unsafe_, _, g, where_, bang, trait_, _, ty, group] =>
    braced (implHead self default_ unsafe_ g bang trait_ ty ++ conditionsForBody self where_)
      (members self whole group)
  | .node .itemMacro [_, p, _, n, args, _] =>
    macroCall p n args (needsSemicolonAfter args) ++ newline
  | .node .itemMod [_, vis, unsafe_, _, n, group, semi] =>
    let head := visibility vis ++ mark unsafe_ "unsafe " ++ word "mod " ++ token n
    if semi.isAbsent then braced (head ++ word " ") (members self whole group)
    else together step (head ++ word ";") ++ newline
  | .node .itemStatic [_, vis, _, mut_, n, _, ty, _, e, _] =>
    declaration self (visibility vis ++ word "static " ++ mark mut_ "mut ") n ty e
  | .node .itemStruct [_, vis, _, n, g, where_, fields, _] =>
    structRest self (visibility vis ++ word "struct " ++ nameWith self n g) where_ fields
  | .node .itemTrait [_, vis, unsafe_, auto_, _, n, g, where_, _, bs, group] =>
    let supertraits := if bs.elements.isEmpty then [] else word ": " ++ sumOfBounds self bs.elements
    braced
      (visibility vis ++ mark unsafe_ "unsafe " ++ mark auto_ "auto " ++ word "trait " ++
        nameWith self n g ++ supertraits ++ conditionsForBody self where_)
      (members self whole group)
  | .node .itemTraitAlias [_, vis, _, n, g, where_, _, bs, _] =>
    together step
      (visibility vis ++ word "trait " ++ nameWith self n g ++ word " = " ++ glue ++
        boundsBehind self "" bs.elements ++ conditions self ⟨true, true⟩ where_) ++ newline
  | .node .itemType [_, vis, _, n, g, where_, _, ty, _] =>
    together step
      (visibility vis ++ word "type " ++ nameWith self n g ++
        conditions self ⟨false, false⟩ where_ ++ word "= " ++ typeBehind self ty ++ word ";") ++
      newline
  | .node .itemUnion [_, vis, _, n, g, where_, fields] =>
    braced (visibility vis ++ word "union " ++ nameWith self n g ++ conditionsForBody self where_)
      (fieldsNamed self fields)
  | .node .itemUse [_, vis, _, colons, t, _] =>
    visibility vis ++ word "use " ++ mark colons "::" ++ useTree t.size t ++ word ";" ++ newline
  | .node .implConst [_, vis, default_, _, n, _, ty, _, e, _] =>
    declaration self (visibility vis ++ mark default_ "default " ++ word "const ") n ty e
  | .node .implFn [_, vis, default_, sig, block] =>
    functionWith self whole (visibility vis ++ mark default_ "default ") sig block
  | .node .implType [_, vis, default_, _, n, g, where_, _, ty, _] =>
    together step
      (visibility vis ++ mark default_ "default " ++ word "type " ++ nameWith self n g ++
        word " = " ++ typeBehind self ty ++ conditions self ⟨false, true⟩ where_) ++ newline
  | .node .memberMacro [_, .node .macroCall [p, _, args], _] =>
    macroCall p .absent args (needsSemicolonAfter args) ++ newline
  | .node .traitConst [_, _, n, _, ty, _, e, _] => declaration self (word "const ") n ty e
  | .node .traitFn [_, sig, block, semi] =>
    if semi.isAbsent then functionWith self whole [] sig block
    else
      together step (signature self sig ++ conditions self ⟨true, true⟩ (conditionsOf sig)) ++
        newline
  | .node .traitType [_, _, n, g, where_, _, bs, _, ty, _] =>
    together step
      (word "type " ++ nameWith self n g ++ boundsBehind self ": " bs.elements ++
        (whenThere ty fun ty => word " = " ++ typeBehind self ty) ++
        conditions self ⟨false, true⟩ where_) ++ newline
  | .node .foreignFn [_, vis, sig, _] =>
    together step
      (visibility vis ++ signature self sig ++ conditions self ⟨true, true⟩ (conditionsOf sig)) ++
      newline
  | .node .foreignStatic [_, vis, _, mut_, n, _, ty, _] =>
    declaration self (visibility vis ++ word "static " ++ mark mut_ "mut ") n ty .absent
  | .node .foreignType [_, vis, _, n, g, _, _] =>
    together step (visibility vis ++ word "type " ++ nameWith self n g ++ word ";") ++ newline
  | _ => [.unprintable]

/-- An item or a member. -/
def item (n : Node) : Row := attributes self n ++ bareItem self n

end RenderTrace.Layout
