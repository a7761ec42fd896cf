import RenderTrace.Proofs.CallGraph.Unlisted
import RenderTrace.Proofs.Syntax.Recast

/-!
# Trees without markers

The sites of a tree that is made anew node by node are those of the tree, in the same order, if each
node has the sites that it had (`Site.collected_recast`). So it is with the markers of closures that
are not found by their places: with a marker or without, what the closure refers to counts for the
function around it (`Site.collected_unmarked`).

A marker is an attribute, and an attribute can have a value, which is an expression: then the sites
in it are collected like all others. Only what is made of words can be left out unseen
(`Site.collected_of_isWordy`).
-/

namespace RenderTrace

open Syntax

namespace Syntax.Node

/-- The constructs that an attribute without a value is made of. -/
def wordKinds : List Kind := [.absent, .list, .attr, .metaPath, .metaList, .path, .segment]

mutual

/-- Whether a tree is an attribute without a value, or a part of one: no expression stands in it. -/
def isWordy : Node → Bool
  | .node k cs => wordKinds.contains k && areWordy cs
  | .group _ cs => areWordy cs
  | _ => true

/-- Whether several trees are. -/
def areWordy : List Node → Bool
  | [] => true
  | c :: cs => isWordy c && areWordy cs

end

/-- A node without some of the attributes in front of it. -/
def withoutAttributes (drops : Node → Bool) : Kind → List Node → Node
  | .list, cs => .list cs
  | k, .node .list as :: cs => .node k (.list (as.filter fun a ↦ !drops a) :: cs)
  | k, cs => .node k cs

/-- A tree without some of the attributes in it. -/
def unmarked (drops : Node → Bool) : Node → Node := recast (withoutAttributes drops)

end Syntax.Node

namespace Marker

/-- Whether an attribute is a render marker. -/
def isRenderMarker (a : Node) : Bool := renderMarkers.any fun name ↦ isMarker name a

/-- Whether an attribute is a render marker without a value. -/
def isBareRenderMarker (a : Node) : Bool := isRenderMarker a && a.isWordy

end Marker

namespace Site

variable {lookup : Location → Option FunctionId} {g : Kind → List Node → Node} {n : Node}
  {drops : Node → Bool}

/-! ### The sites of a tree that was made anew -/

/-- The path that an expression is, if it is one. -/
def exprPath? : Node → Option Node
  | .node .exprPath [_, p] => some p
  | _ => none

theorem pathOf?_eq (n : Node) : pathOf? n = (exprPath? n).map Node.segmentNames := by
  unfold pathOf?
  split
  · rfl
  · next hother => rw [exprPath?.eq_2 n hother, Option.map_none]

theorem isSelf_eq (n : Node) : isSelf n = (exprPath? n).any (·.isWord "self") := by
  unfold isSelf
  split
  · rfl
  · next hother => rw [exprPath?.eq_2 n hother, Option.any_none]

/-- The attributes in front of a path are no part of it. -/
theorem pathOf?_first (k : Kind) (c c' : Node) (cs : List Node) :
    pathOf? (.node k (c' :: cs)) = pathOf? (.node k (c :: cs)) := by
  unfold pathOf?
  split
  · next h =>
    cases h
    rfl
  · next hother =>
    split
    · next h =>
      cases h
      exact absurd rfl (hother _ _)
    · rfl

/-- The tokens of a macro do not depend on its path. -/
theorem macroTokens_first (k : Kind) (c c' : Node) (cs : List Node) :
    macroTokens (.node k (c' :: cs)) = macroTokens (.node k (c :: cs)) := by
  unfold macroTokens
  split
  · next h =>
    cases h
    rfl
  · next hother =>
    split
    · next h =>
      cases h
      exact absurd rfl (hother _ _ _ _)
    · rfl

section Recast

variable (hg : ∀ k cs, Recasts k cs (g k cs))

include hg

theorem exprPath?_recast (n : Node) :
    exprPath? (n.recast g) = (exprPath? n).map (Node.recast g) := by
  unfold exprPath?
  split
  · next h =>
    obtain ⟨a, cs, rfl, hcs, -⟩ := Node.exists_of_recast_cons hg (by decide) h
    obtain ⟨p, rfl, rfl⟩ := List.map_eq_singleton_iff.1 hcs.symm
    rfl
  · next hother =>
    split
    · next a p =>
      obtain ⟨a', h, -⟩ := Node.exists_recast_cons hg (k := .exprPath) (by decide) a [p]
      exact absurd h (hother _ _)
    · rfl

theorem pathOf?_recast (n : Node) : pathOf? (n.recast g) = pathOf? n := by
  simp only [pathOf?_eq, exprPath?_recast hg, Option.map_map, Function.comp_def,
    Node.segmentNames_recast hg]

theorem isSelf_recast (n : Node) : isSelf (n.recast g) = isSelf n := by
  simp only [isSelf_eq, exprPath?_recast hg, Option.any_map, Node.isWord_recast hg]

theorem pathOf?_map (cs : List Node) :
    pathOf? (.node .exprPath (cs.map (Node.recast g))) = pathOf? (.node .exprPath cs) := by
  match cs with
  | [a, p] => exact congrArg some (Node.segmentNames_recast hg p)
  | [] | [_] | _ :: _ :: _ :: _ => rfl

/-- A macro whose parts are made anew is given the tokens that it was. -/
theorem macroTokens_map (k : Kind) (cs : List Node) :
    macroTokens (.node k (cs.map (Node.recast g))) = macroTokens (.node k cs) := by
  unfold macroTokens
  split
  · next h =>
    obtain ⟨rfl, hcs⟩ := Node.node.inj h
    obtain ⟨p, cs, rfl, rfl, hrest⟩ := List.map_eq_cons_iff.1 hcs
    obtain ⟨bang, cs, rfl, rfl, hlast⟩ := List.map_eq_cons_iff.1 hrest
    obtain ⟨args, rfl, hargs⟩ := List.map_eq_singleton_iff.1 hlast
    obtain ⟨ds, rfl, hds⟩ := Node.eq_group_of_recast hg hargs
    obtain ⟨ts, rfl, hts⟩ := List.map_eq_singleton_iff.1 hds
    obtain rfl := Node.eq_unread_of_recast hg hts
    rfl
  · next hother =>
    split
    · next h =>
      cases h
      exact absurd rfl (hother _ _ _ _)
    · rfl

theorem macroTokens_recast (ms : List Node) :
    macroTokens ((Node.node .macroCall ms).recast g) = macroTokens (.node .macroCall ms) := by
  obtain ⟨_, _, hms, h, hrecasts⟩ := Node.exists_recasts hg .macroCall ms
  rw [h, ← macroTokens_map hg, hms]
  cases hrecasts with
  | refl => rfl
  | attributes => exact macroTokens_first _ _ _ _
  | standIn hinvokes => rcases hinvokes with h | h <;> cases h

/-- A macro comes from a macro with the same tokens. -/
theorem exists_macro_of_recast {ms : List Node} (h : n.recast g = .node .macroCall ms) :
    ∃ ms', n = .node .macroCall ms' ∧
      macroTokens (.node .macroCall ms) = macroTokens (.node .macroCall ms') := by
  have hkind : n.is .macroCall = true := by
    rw [← Node.is_recast hg (k := .macroCall) (by decide) (by decide) n, h]
    rfl
  cases n with
  | node k ms' =>
    obtain rfl : k = .macroCall := by simpa [Node.is, Node.kind?] using hkind
    exact ⟨ms', rfl, h ▸ macroTokens_recast hg ms'⟩
  | _ => cases hkind

theorem getD_map_recast (cs : List Node) (i : Nat) :
    (cs.map (Node.recast g)).getD i .absent = (cs.getD i .absent).recast g := by
  rw [← Node.recast_absent hg, List.getD_map, Node.recast_absent hg]

variable {k : Kind} {cs : List Node}
  (ih : ∀ c ∈ cs, collected lookup (c.recast g) = collected lookup c)

include ih

theorem collected_getD (i : Nat) : collected lookup ((cs.getD i .absent).recast g) =
    collected lookup (cs.getD i .absent) := by
  rw [List.getD_eq_getElem?_getD]
  cases hi : cs[i]? with
  | none => rw [Option.getD_none, Node.recast_absent hg]
  | some c => exact ih c (List.mem_of_getElem? hi)

omit hg in
theorem flatMap_collected_map : (cs.map (Node.recast g)).flatMap (collected lookup) =
    cs.flatMap (collected lookup) := by
  rw [List.flatMap_map]
  exact List.flatMap_congr ih

/-- A node has the sites that it had if its parts are made anew and have the sites that they had. -/
theorem collected_map (hdeclared : declared? lookup (.node k (cs.map (Node.recast g))) =
      declared? lookup (.node k cs)) :
    collected lookup (.node k (cs.map (Node.recast g))) = collected lookup (.node k cs) := by
  cases hform : formOf k with
  | call =>
    rw [collected_call hform, collected_call hform]
    simp only [getD_map_recast hg, pathOf?_recast hg, collected_getD hg ih]
  | closure =>
    rw [collected_eq (by simp [hform]), collected_eq (by simp [hform])]
    cases hliteral : declared? lookup (.node k cs) with
    | some id => simp [madeBy?, parts, hform, isDeclared, hdeclared, hliteral]
    | none => simpa [madeBy?, parts, hform, isDeclared, hdeclared, hliteral] using
        flatMap_collected_map ih
  | pathUse =>
    obtain rfl : k = .exprPath := by
      cases k <;> first | rfl | cases hform
    rw [collected_eq (by decide), collected_eq (by decide)]
    simp only [madeBy?, parts, hform, pathOf?_map hg]
  | _ =>
    rw [collected_eq (by simp [hform]), collected_eq (by simp [hform])]
    simp only [madeBy?, parts, hform, List.flatMap_cons, getD_map_recast hg, collected_getD hg ih,
      flatMap_collected_map ih, Node.text_recast hg, isSelf_recast hg, macroContents?,
      macroTokens_map hg]

omit ih

/-- A tree that is made anew has the sites that it had if this is so at each node. -/
theorem collected_recast
    (hstep : ∀ k cs, (Node.node k cs).Inside n →
      collected lookup (g k (cs.map (Node.recast g))) =
          collected lookup (.node k (cs.map (Node.recast g))) ∧
        declared? lookup (.node k (cs.map (Node.recast g))) = declared? lookup (.node k cs)) :
    collected lookup (n.recast g) = collected lookup n := by
  induction n using Node.induction with
  | token | unread => rfl
  | group d cs ih =>
    rw [Node.recast_group, collected_group, collected_group]
    exact flatMap_collected_map fun c hc ↦ ih c hc fun k ds h ↦ hstep k ds (.group hc h)
  | node k cs ih =>
    -- in two steps: what `g` puts in the place of the node, and the parts that it is made of
    obtain ⟨hsame, hdeclared⟩ := hstep k cs (.refl _)
    rw [Node.recast_node, hsame]
    exact collected_map hg (fun c hc ↦ ih c hc fun k ds h ↦ hstep k ds (.node hc h)) hdeclared

/-- Whether a closure is declared is told by what stays. -/
theorem declared?_map (k : Kind) (cs : List Node) :
    declared? lookup (.node k (cs.map (Node.recast g))) = declared? lookup (.node k cs) := by
  have hmarked (c : Node) :
      Marker.isRenderMarked ((c.recast g).elements.filter fun a ↦ !a.isInnerAttribute) =
        Marker.isRenderMarked (c.elements.filter fun a ↦ !a.isInnerAttribute) := by
    refine congrArg Marker.renderMarkers.any (funext fun name ↦ ?_)
    simp only [Marker.hasMarker, List.any_filter]
    refine Node.any_elements_recast hg (fun a ha ↦ ?_) (fun a ↦ ?_) c
    · -- what is no attribute has no name, so it is no marker
      have hinside : a.attributeInside = .absent := by
        unfold Node.attributeInside
        split
        · cases ha
        · rfl
      have hname : a.attributeName? = none := by
        rw [Node.attributeName?, Node.attributePath, hinside]
        rfl
      simp [Marker.isMarker, hname]
    · simp only [Marker.isMarker, Node.isInnerAttribute_recast hg, Node.attributeName?_recast hg]
  simp only [declared?, Node.is, Node.kind?, Node.outerAttributes, Node.attributes, Node.child,
    Node.children, Node.closureBar, getD_map_recast hg, Node.location_recast hg, hmarked]
  rfl

end Recast

/-! ### Without markers -/

theorem recasts_withoutAttributes (k : Kind) (cs : List Node) :
    Recasts k cs (Node.withoutAttributes drops k cs) := by
  unfold Node.withoutAttributes
  split
  · exact .refl _
  · next hk => exact .attributes hk
  · exact .refl _

theorem declared?_of_lookup (h : lookup n.closureBar.location = none) :
    declared? lookup n = none := by
  unfold declared?
  split
  · exact h
  · rfl

theorem declared?_of_kind {k : Kind} (h : k ≠ .exprClosure) (cs : List Node) :
    declared? lookup (.node k cs) = none :=
  if_neg (by simp [Node.is, Node.kind?, h])

/-- No site is collected from an attribute without a value. -/
theorem collected_of_isWordy (h : n.isWordy = true) : collected lookup n = [] := by
  -- none of the constructs in question makes a site, and each is collected from its parts
  have hall (cs : List Node) (ih : ∀ c ∈ cs, c.isWordy = true → collected lookup c = [])
      (hcs : Node.areWordy cs = true) : cs.flatMap (collected lookup) = [] := by
    induction cs with
    | nil => rfl
    | cons c cs ihcs =>
      rw [Node.areWordy, Bool.and_eq_true] at hcs
      rw [List.flatMap_cons, ih c List.mem_cons_self hcs.1,
        ihcs (fun c hc ↦ ih c (List.mem_cons_of_mem _ hc)) hcs.2]
      rfl
  induction n using Node.induction with
  | token | unread => rfl
  | group d cs ih =>
    rw [collected_group]
    exact hall cs ih h
  | node k cs ih =>
    rw [Node.isWordy, Bool.and_eq_true, List.contains_iff_mem] at h
    have hwords : ∀ k ∈ Node.wordKinds, formOf k = .other := by decide
    have hother := hwords k h.1
    rw [collected_eq (by simp [hother])]
    simp only [madeBy?, parts, hother]
    exact hall cs ih h.2

/-- What stands in front of a node counts only by what is collected from it. -/
theorem collected_first {k : Kind} {c c' : Node} {cs : List Node}
    (hc : collected lookup c' = collected lookup c)
    (hdeclared : declared? lookup (.node k (c' :: cs)) = declared? lookup (.node k (c :: cs))) :
    collected lookup (.node k (c' :: cs)) = collected lookup (.node k (c :: cs)) := by
  cases hform : formOf k with
  | call =>
    rw [collected_call hform, collected_call hform]
    rfl
  | closure =>
    rw [collected_eq (by simp [hform]), collected_eq (by simp [hform])]
    cases hliteral : declared? lookup (.node k (c :: cs)) with
    | some id => simp [madeBy?, parts, hform, isDeclared, hdeclared, hliteral]
    | none => simp [madeBy?, parts, hform, isDeclared, hdeclared, hliteral, hc]
  | _ =>
    rw [collected_eq (by simp [hform]), collected_eq (by simp [hform])]
    simp only [madeBy?, parts, hform, pathOf?_first k c c', macroContents?,
      macroTokens_first k c c', List.flatMap_cons, hc, List.getD_cons_succ]

/-- A node has the sites that it had without attributes that have none. -/
theorem collected_withoutAttributes (hdrops : ∀ a, drops a = true → collected lookup a = [])
    {k : Kind} {cs : List Node}
    (hbar : k = .exprClosure → lookup (cs.getD 6 .absent).location = none) :
    collected lookup (Node.withoutAttributes drops k cs) = collected lookup (.node k cs) := by
  unfold Node.withoutAttributes
  split
  · rfl
  · next as cs hk =>
    refine collected_first ?_ ?_
    · have hfilter : ∀ as : List Node, (as.filter fun a ↦ !drops a).flatMap (collected lookup) =
          as.flatMap (collected lookup) := by
        intro as
        induction as with
        | nil => rfl
        | cons a as ih =>
          cases ha : drops a with
          | true => simp [ha, hdrops a ha, ih]
          | false => simp [ha, ih]
      exact (collected_list _).trans ((hfilter as).trans (collected_list as).symm)
    · by_cases hclosure : k = .exprClosure
      · subst hclosure
        rw [declared?_of_lookup (hbar rfl), declared?_of_lookup (hbar rfl)]
      · rw [declared?_of_kind hclosure, declared?_of_kind hclosure]
  · rfl

/-- **A tree has the sites that it had without its markers**, if its closures are not found by their
places. -/
theorem collected_unmarked (hdrops : ∀ a, drops a = true → collected lookup a = [])
    (hn : ∀ cs, (Node.node .exprClosure cs).Inside n →
      lookup (cs.getD 6 .absent).location = none) :
    collected lookup (n.unmarked drops) = collected lookup n := by
  refine collected_recast recasts_withoutAttributes fun k cs hinside ↦ ⟨?_, declared?_map
    recasts_withoutAttributes k cs⟩
  refine collected_withoutAttributes hdrops ?_
  rintro rfl
  rw [getD_map_recast recasts_withoutAttributes, Node.location_recast recasts_withoutAttributes]
  exact hn cs hinside

/-- The parts of a node that loses attributes are those that it had, but for the attributes. -/
theorem exists_withoutAttributes (drops : Node → Bool) (k : Kind) (cs : List Node) :
    ∃ cs', Node.withoutAttributes drops k cs = .node k cs' ∧
      ∀ c ∈ cs', c ∈ cs ∨ ∃ as as', c = .list as' ∧ .list as ∈ cs ∧ as' ⊆ as := by
  unfold Node.withoutAttributes
  split
  · exact ⟨cs, rfl, fun c hc ↦ Or.inl hc⟩
  · next as cs hk =>
    refine ⟨_, rfl, List.forall_mem_cons.2 ⟨Or.inr ⟨as, _, rfl, List.mem_cons_self, ?_⟩, ?_⟩⟩
    · exact List.filter_subset_self as
    · exact fun c hc ↦ Or.inl (List.mem_cons_of_mem _ hc)
  · exact ⟨cs, rfl, fun c hc ↦ Or.inl hc⟩

/-- What stands in a tree without its markers stood in the tree, or it is a sequence of
attributes. -/
theorem exists_of_inside_unmarked {m : Node} (h : m.Inside (n.unmarked drops)) :
    (∃ m' : Node, m'.Inside n ∧ m = m'.unmarked drops) ∨ m.is .list = true := by
  induction n using Node.induction with
  | token | unread =>
    cases h
    exact Or.inl ⟨_, .refl _, rfl⟩
  | group d cs ih =>
    have hgroup : (Node.group d cs).unmarked drops = .group d (cs.map (Node.unmarked drops)) :=
      Node.recast_group d cs
    rw [hgroup] at h
    cases h with
    | refl => exact Or.inl ⟨_, .refl _, hgroup.symm⟩
    | group hc hm =>
      obtain ⟨d, hd, rfl⟩ := List.mem_map.1 hc
      exact (ih d hd hm).imp_left fun ⟨m', hm', heq⟩ ↦ ⟨m', .group hd hm', heq⟩
  | node k cs ih =>
    have hparts {c : Node} (hc : c ∈ cs.map (Node.unmarked drops)) (hm : m.Inside c) :
        (∃ m' : Node, m'.Inside (.node k cs) ∧ m = m'.unmarked drops) ∨ m.is .list = true := by
      obtain ⟨d, hd, rfl⟩ := List.mem_map.1 hc
      exact (ih d hd hm).imp_left fun ⟨m', hm', heq⟩ ↦ ⟨m', .node hd hm', heq⟩
    obtain ⟨cs', heq, hcs'⟩ := exists_withoutAttributes drops k (cs.map (Node.unmarked drops))
    have hnode : (Node.node k cs).unmarked drops = .node k cs' :=
      (Node.recast_node k cs).trans heq
    rw [hnode] at h
    cases h with
    | refl => exact Or.inl ⟨_, .refl _, hnode.symm⟩
    | node hc hm =>
      -- either the child is a part as it was, or it is the attributes, with fewer of them
      rcases hcs' _ hc with hc | ⟨as, as', rfl, has, hsub⟩
      · exact hparts hc hm
      · cases hm with
        | refl => exact Or.inr rfl
        | node ha hm => exact hparts has (.node (hsub ha) hm)

/-- The macros in a tree without its markers are given the tokens of macros in the tree. -/
theorem exists_macroTokens_of_unmarked {ms : List Node}
    (h : (Node.node .macroCall ms).Inside (n.unmarked drops)) :
    ∃ ms', (Node.node .macroCall ms').Inside n ∧
      macroTokens (.node .macroCall ms) = macroTokens (.node .macroCall ms') := by
  obtain ⟨m, hm, heq⟩ := (exists_of_inside_unmarked h).resolve_right (by
    simp [Node.is, Node.kind?])
  obtain ⟨ms', rfl, htokens⟩ := exists_macro_of_recast recasts_withoutAttributes heq.symm
  exact ⟨ms', hm, htokens⟩

theorem Unlisted.unmarked (hn : Unlisted lookup n) : Unlisted lookup (n.unmarked drops) := by
  intro ms hms l hl
  obtain ⟨ms', hms', htokens⟩ := exists_macroTokens_of_unmarked hms
  rw [htokens]
  exact hn ms' hms' l hl

end Site

end RenderTrace
