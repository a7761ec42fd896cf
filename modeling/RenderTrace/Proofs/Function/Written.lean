import RenderTrace.Proofs.Function.Parameters

/-!
# Parameters as they are written

A parameter binds a name if it is written as a name: with a type in a function, with one or without
in a closure. Neither the receiver of a method nor a pattern that takes a value apart does. How such
a parameter is captured is told by the last word of its type, seen through references and
parentheses (`Written.word?`). The index has the parameters that bind names in the order in which
they are written (`Index.Declares.binding_params`).
-/

namespace RenderTrace

open Syntax

/-- A parameter that binds a name, as it is written. -/
structure Written where
  name : String
  /-- The type, which a closure may leave out. -/
  type : Option Node

namespace Written

/-- The last word of a type that is a path, seen through references and parentheses. -/
def outerWord? : Node → Option String
  | .node .typeReference [_, _, _, t] => outerWord? t
  | .node .typeParen [.group _ [t]] => outerWord? t
  | .node .typePath [p] => p.segmentNames.getLast?
  | _ => none

/-- The last word of the type. -/
def word? (w : Written) : Option String := w.type.bind outerWord?

/-- The name without a raw mark. -/
def key (w : Written) : String := Node.bareName w.name

/-- Whether the type says that the value may be absent. -/
def isOptional (w : Written) : Bool := w.word? == some "Option"

/-- Whether the type is a configured reactive wrapper. -/
def isReactive (o : Options) (w : Written) : Bool :=
  w.word?.any fun t ↦ t != "Option" && o.isReactiveWrapper t

/-- What the index has for the parameter. -/
def param (o : Options) (w : Written) : Param :=
  ⟨w.name, (w.type.map Node.tokenText).getD "", (w.type.map (Param.shapeOf o)).getD .plain, true⟩

/-- The name that a pattern binds, if it is one. -/
def boundBy? : Node → Option String
  | .node .patIdent [_, _, _, n, _, .node .absent []] => some n.text
  | _ => none

/-- The parameter that an input of a function is, if it binds a name. -/
def ofInput? : Node → Option Written
  | .node .patType [_, p, _, t] => (boundBy? p).map (⟨·, some t⟩)
  | _ => none

/-- The parameter that an input of a closure is, if it binds a name. -/
def ofClosureInput? : Node → Option Written
  | .node .patType [_, p, _, t] => (boundBy? p).map (⟨·, some t⟩)
  | p => (boundBy? p).map (⟨·, none⟩)

variable {o : Options}

theorem shapeOf_eq (o : Options) (t : Node) : Param.shapeOf o t =
    if outerWord? t == some "Option" then .optional
    else if (outerWord? t).any fun word ↦ word != "Option" && o.isReactiveWrapper word then
      .reactive
    else .plain := by
  fun_induction outerWord? t with
  | case1 a b c t ih => rw [Param.shapeOf, ih]
  | case2 d t ih => rw [Param.shapeOf, ih]
  | case3 p =>
    rw [Param.shapeOf]
    split <;> simp_all
  | case4 t href hparen hpath =>
    unfold Param.shapeOf
    split
    · exact absurd rfl (href _ _ _ _)
    · exact absurd rfl (hparen _ _)
    · exact absurd rfl (hpath _)
    · rfl

/-- The shape of a parameter is told by the last word of its type. -/
theorem param_shape (w : Written) : (w.param o).shape =
    if w.isOptional then .optional else if w.isReactive o then .reactive else .plain := by
  obtain ⟨name, type⟩ := w
  cases type with
  | none => rfl
  | some t => exact shapeOf_eq o t

/-- A pattern makes a parameter that binds a name if it is one. -/
theorem guard_ofPattern (o : Options) (p : Node) (type : Option Node) :
    Option.guard (·.binding) (Param.ofPattern o p type) =
      (boundBy? p).map fun n ↦ param o ⟨n, type⟩ := by
  unfold Param.ofPattern
  split
  next name binding hpattern =>
    split at hpattern
    · obtain ⟨rfl, rfl⟩ := Prod.mk.inj hpattern
      rfl
    · next hother =>
      obtain ⟨rfl, rfl⟩ := Prod.mk.inj hpattern
      rw [boundBy?.eq_2 p hother]
      rfl

end Written

namespace Index

/-- The parameters of a node that bind names. -/
def writtenOf (n : Node) : List Written :=
  match n with
  | .node .itemFn cs => (cs.getD 2 .absent).signatureInputs.filterMap Written.ofInput?
  | .node .implFn cs => (cs.getD 3 .absent).signatureInputs.filterMap Written.ofInput?
  | .node .traitFn cs => (cs.getD 1 .absent).signatureInputs.filterMap Written.ofInput?
  | .node .foreignFn cs => (cs.getD 2 .absent).signatureInputs.filterMap Written.ofInput?
  | n => n.closureInputs.filterMap Written.ofClosureInput?

theorem binding_ofInputs (o : Options) (inputs : List Node) :
    ((Param.ofInputs o inputs).map (·.1)).filter (·.binding) =
      (inputs.filterMap Written.ofInput?).map (Written.param o) := by
  rw [← List.filterMap_eq_filter, Param.ofInputs, List.map_filterMap, List.filterMap_filterMap,
    List.map_filterMap]
  refine List.filterMap_congr fun i _ ↦ ?_
  split
  · rw [Written.ofInput?, Option.map_map]
    exact Written.guard_ofPattern o _ (some _)
  · next hother =>
    rw [Written.ofInput?.eq_2 i hother]
    rfl

theorem binding_ofClosureInputs (o : Options) (inputs : List Node) :
    ((Param.ofClosureInputs o inputs).map (·.1)).filter (·.binding) =
      (inputs.filterMap Written.ofClosureInput?).map (Written.param o) := by
  rw [← List.filterMap_eq_filter, Param.ofClosureInputs, List.map_map, List.filterMap_map,
    List.map_filterMap]
  refine List.filterMap_congr fun i _ ↦ ?_
  rw [Function.comp_apply, Function.comp_apply]
  split
  · rw [Written.ofClosureInput?, Option.map_map]
    exact Written.guard_ofPattern o _ (some _)
  · next as cs _ =>
    rw [Written.ofClosureInput?.eq_2 (.node .patIdent (as :: cs)) nofun, Option.map_map]
    exact Written.guard_ofPattern o _ none
  · next hother _ =>
    rw [Written.ofClosureInput?.eq_2 _ hother, Option.map_map]
    exact Written.guard_ofPattern o _ none

/-- The parameters of a function that bind names are those that are written as names. -/
theorem Declares.binding_params {o : Options} {n : Node} {f : Function} (h : Declares o n f) :
    f.declaration.params.filter (·.binding) = (writtenOf n).map (Written.param o) := by
  rw [h.params]
  unfold paramsOf
  split
  case h_5 hfn himpl htrait hforeign =>
    rw [writtenOf.eq_5 n hfn himpl htrait hforeign]
    exact binding_ofClosureInputs o _
  all_goals exact binding_ofInputs o _

end Index

end RenderTrace
