import RenderTrace.Proofs.Syntax.Unread.Expression

/-!
# The macros in items

Macros stand among items, among the members of an `impl`, a trait and a foreign block, and in types,
patterns and bodies inside them. The trees of imports and the fields inside fields are read level by
level, by induction on the number of levels.
-/

namespace RenderTrace.Syntax

open Std.Do Yield

set_option mvcgen.warning false

namespace Grammar

variable {w : Nat} {self : Readers}

/-! ### Answers -/

instance : Yield Alias where
  Within w a := Within w [a.visibility, a.default_, a.keyword, a.name, a.generics, a.colon,
    a.bounds, a.conditions, a.eq, a.type, a.semi]

@[simp]
theorem within_alias (a : Alias) : Within w a ↔
    Within w [a.visibility, a.default_, a.keyword, a.name, a.generics, a.colon, a.bounds,
      a.conditions, a.eq, a.type, a.semi] := Iff.rfl

@[simp]
theorem within_joinAttributes {outer inner : Node} (ho : Within w outer) (hi : Within w inner) :
    Within w (joinAttributes outer inner) := by
  simp [joinAttributes, ho, hi]

@[simp]
theorem within_pathOfType {type : Node} (ht : Within w type) : Within w (pathOfType type) := by
  unfold pathOfType
  split <;> simp_all

@[spec]
theorem orVerbatim_reads {r : Reader (Option Node)} (hr : Reads w r) : Reads w (orVerbatim r) := by
  mvcgen -leave -elimLets [orVerbatim, hr] with simp_all +zetaDelta

/-! ### Rules that call no others -/

@[spec]
theorem restricted?_reads : Reads w restricted? := by
  mvcgen -leave -elimLets [restricted?] with simp_all +zetaDelta

@[spec]
theorem visibility_reads : Reads w visibility := by
  mvcgen -leave -elimLets [visibility] with simp_all +zetaDelta

@[spec]
theorem commaUnlessEnd_reads : Reads w commaUnlessEnd := by
  mvcgen -leave -elimLets [commaUnlessEnd] with simp_all +zetaDelta

@[spec]
theorem semicolonAfter_reads (delimited : Node) : Reads w (semicolonAfter delimited) := by
  mvcgen -leave -elimLets [semicolonAfter] with simp_all +zetaDelta

@[spec]
theorem memberMacro_reads {attrs : Node} (ha : Within w attrs) : Reads w (memberMacro attrs) := by
  mvcgen -leave -elimLets [memberMacro] with simp_all +zetaDelta

@[spec]
theorem constantName_reads : Reads w constantName := by
  mvcgen -leave -elimLets [constantName] with simp_all +zetaDelta

@[spec]
theorem useTreeWith_reads {again inner : Reader (Option Node)} (ha : Reads w again)
    (hi : Reads w inner) (root : Bool) : Reads w (useTreeWith again inner root) := by
  mvcgen -leave -elimLets [useTreeWith, ha, hi] with simp_all +zetaDelta

theorem useTreeLevel_reads (depth : Nat) (root : Bool) : Reads w (useTreeLevel depth root) := by
  induction depth generalizing root with
  | zero =>
    mvcgen [useTreeLevel]
    all_goals simp_all
  | succ depth ih => exact useTreeWith_reads (ih root) (ih false) root

@[spec]
theorem useTree_reads (root : Bool) : Reads w (useTree root) := by
  mvcgen [useTree, useTreeLevel_reads]

@[spec]
theorem useItem_reads {attrs : Node} (ha : Within w attrs) : Reads w (useItem attrs) := by
  mvcgen -leave -elimLets [useItem] with simp_all +zetaDelta

@[spec]
theorem externCrateItem_reads {attrs : Node} (ha : Within w attrs) :
    Reads w (externCrateItem attrs) := by
  mvcgen -leave -elimLets [externCrateItem] with simp_all +zetaDelta

@[spec]
theorem macroItem_reads {attrs : Node} (ha : Within w attrs) : Reads w (macroItem attrs) := by
  mvcgen -leave -elimLets [macroItem] with simp_all +zetaDelta

@[spec]
theorem macroDefinition_reads : Reads w macroDefinition := by
  mvcgen -leave -elimLets [macroDefinition] with simp_all +zetaDelta

@[spec]
theorem constantMark_reads : Reads w constantMark := by
  mvcgen -leave -elimLets [constantMark] with simp_all +zetaDelta

@[spec]
theorem inherentType_reads (bang : Node) {type : Node} (ht : Within w type) :
    Reads w (inherentType bang type) := by
  mvcgen -leave -elimLets [inherentType] with simp_all +zetaDelta

/-! ### Rules -/

section

variable (hself : self.Read w)
include hself

@[spec]
theorem receiver_reads {attrs : Node} (ha : Within w attrs) : Reads w (receiver self attrs) := by
  mvcgen -leave -elimLets [receiver] with simp_all +zetaDelta

@[spec]
theorem parameter_reads : Reads w (parameter self) := by
  mvcgen -leave -elimLets [parameter] with simp_all +zetaDelta

theorem parameters_more_reads (fuel : Nat) {done : List Node} (hd : Within w done) :
    Reads w (parameters.more self fuel done) := by
  induction fuel generalizing done with
  | zero =>
    mvcgen [parameters.more]
  | succ fuel ih =>
    unfold parameters.more
    generalize parameters.more self fuel = again at ih
    clear fuel
    mvcgen -leave -elimLets [ih] with simp_all +zetaDelta

@[spec]
theorem parameters_reads : Reads w (parameters self) := by
  mvcgen -leave -elimLets [parameters, parameters_more_reads] with simp_all +zetaDelta

@[spec]
theorem signature_reads (safe : Bool) : Reads w (signature self safe) := by
  mvcgen -leave -elimLets [signature] with simp_all +zetaDelta

@[spec]
theorem plainSignature_reads : Reads w (plainSignature self) := by
  mvcgen -leave -elimLets [plainSignature] with simp_all +zetaDelta

@[spec]
theorem boundsUntil_reads (style : BoundStyle) (stop : Probe) :
    Reads w (boundsUntil self style stop) := by
  mvcgen -leave -elimLets [boundsUntil] with simp_all +zetaDelta

@[spec]
theorem boundsBehind_reads (colon : Node) (stop : Probe) :
    Reads w (boundsBehind self colon stop) := by
  mvcgen -leave -elimLets [boundsBehind] with simp_all +zetaDelta

@[spec]
theorem typeAlias_reads (default_ : Bool) (place : WherePlace) :
    Reads w (typeAlias self default_ place) := by
  mvcgen -leave -elimLets [typeAlias] with simp_all +zetaDelta

@[spec]
theorem fieldsNamedWith_reads {nested : Reader Node} (hn : Reads w nested) :
    Reads w (fieldsNamedWith self nested) := by
  mvcgen -leave -elimLets [fieldsNamedWith, hn] with simp_all +zetaDelta

theorem fieldsNamedLevel_reads (depth : Nat) : Reads w (fieldsNamedLevel self depth) := by
  induction depth with
  | zero =>
    mvcgen [fieldsNamedLevel]
    all_goals simp_all
  | succ depth ih => exact fieldsNamedWith_reads hself ih

@[spec]
theorem fieldsNamed_reads : Reads w (fieldsNamed self) := by
  mvcgen [fieldsNamed, fieldsNamedLevel_reads]

@[spec]
theorem fieldsUnnamed_reads : Reads w (fieldsUnnamed self) := by
  mvcgen -leave -elimLets [fieldsUnnamed] with simp_all +zetaDelta

@[spec]
theorem variant_reads : Reads w (variant self) := by
  mvcgen -leave -elimLets [variant] with simp_all +zetaDelta

@[spec]
theorem members_reads {member : Reader Node} (hm : Reads w member) :
    Reads w (members self member) := by
  mvcgen -leave -elimLets [members] with simp_all +zetaDelta

@[spec]
theorem constantRest_reads (needsValue : Bool) : Reads w (constantRest self needsValue) := by
  mvcgen -leave -elimLets [constantRest] with simp_all +zetaDelta

@[spec]
theorem implItem_reads : Reads w (implItem self) := by
  mvcgen -leave -elimLets [implItem] with simp_all +zetaDelta

@[spec]
theorem traitMethod_reads {attrs : Node} (ha : Within w attrs) :
    Reads w (traitMethod self attrs) := by
  mvcgen -leave -elimLets [traitMethod] with simp_all +zetaDelta

@[spec]
theorem traitItem_reads : Reads w (traitItem self) := by
  mvcgen -leave -elimLets [traitItem] with simp_all +zetaDelta

@[spec]
theorem foreignItem_reads : Reads w (foreignItem self) := by
  mvcgen -leave -elimLets [foreignItem] with simp_all +zetaDelta

@[spec]
theorem functionItem_reads {attrs : Node} (ha : Within w attrs) :
    Reads w (functionItem self attrs) := by
  mvcgen -leave -elimLets [functionItem] with simp_all +zetaDelta

@[spec]
theorem staticItem_reads {attrs : Node} (ha : Within w attrs) :
    Reads w (staticItem self attrs) := by
  mvcgen -leave -elimLets [staticItem] with simp_all +zetaDelta

@[spec]
theorem constItem_reads {attrs : Node} (ha : Within w attrs) : Reads w (constItem self attrs) := by
  mvcgen -leave -elimLets [constItem] with simp_all +zetaDelta

@[spec]
theorem modItem_reads {attrs : Node} (ha : Within w attrs) : Reads w (modItem self attrs) := by
  mvcgen -leave -elimLets [modItem] with simp_all +zetaDelta

@[spec]
theorem foreignModItem_reads {attrs : Node} (ha : Within w attrs) :
    Reads w (foreignModItem self attrs) := by
  mvcgen -leave -elimLets [foreignModItem] with simp_all +zetaDelta

@[spec]
theorem structItem_reads {attrs : Node} (ha : Within w attrs) :
    Reads w (structItem self attrs) := by
  mvcgen -leave -elimLets [structItem] with simp_all +zetaDelta

@[spec]
theorem enumItem_reads {attrs : Node} (ha : Within w attrs) : Reads w (enumItem self attrs) := by
  mvcgen -leave -elimLets [enumItem] with simp_all +zetaDelta

@[spec]
theorem unionItem_reads {attrs : Node} (ha : Within w attrs) : Reads w (unionItem self attrs) := by
  mvcgen -leave -elimLets [unionItem] with simp_all +zetaDelta

@[spec]
theorem traitRest_reads {attrs : Node} {head : List Node} (ha : Within w attrs)
    (hh : Within w head) : Reads w (traitRest self attrs head) := by
  mvcgen -leave -elimLets [traitRest] with simp_all +zetaDelta

@[spec]
theorem markedTraitItem_reads {attrs : Node} (ha : Within w attrs) :
    Reads w (markedTraitItem self attrs) := by
  mvcgen -leave -elimLets [markedTraitItem] with simp_all +zetaDelta

@[spec]
theorem traitItemOrAlias_reads {attrs : Node} (ha : Within w attrs) :
    Reads w (traitItemOrAlias self attrs) := by
  mvcgen -leave -elimLets [traitItemOrAlias] with simp_all +zetaDelta

@[spec]
theorem implItems_reads {attrs : Node} (ha : Within w attrs) : Reads w (implItems self attrs) := by
  mvcgen -leave -elimLets [implItems] with simp_all +zetaDelta

@[spec]
theorem externItem_reads {attrs : Node} (rest : List TokenTree) (ha : Within w attrs) :
    Reads w (externItem self attrs rest) := by
  mvcgen -leave -elimLets [externItem] with simp_all +zetaDelta

@[spec]
theorem unsafeItem_reads {attrs : Node} (rest : List TokenTree) (ha : Within w attrs) :
    Reads w (unsafeItem self attrs rest) := by
  mvcgen -leave -elimLets [unsafeItem] with simp_all +zetaDelta

@[spec]
theorem itemAfter_reads {attrs : Node} (ha : Within w attrs) : Reads w (itemAfter self attrs) := by
  mvcgen -leave -elimLets [itemAfter] with simp_all +zetaDelta

@[spec]
theorem item_reads : Reads w (item self) := by
  mvcgen -leave -elimLets [item] with simp_all +zetaDelta

end

end Grammar

end RenderTrace.Syntax
