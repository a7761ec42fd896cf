import RenderTrace.Marker
import RenderTrace.Proofs.Syntax.Head

/-!
# Trees with nodes put in the place of others

A tree can be made anew from the leaves up, with a node of its own choice in the place of each one
(`Node.recast`). If a node keeps its kind and its children but for its attributes, and macros are
replaced by expressions or statements, then what is read of a tree by looking a few steps into it
stays the same: its names, its paths, the places of its tokens (`Recasts`).
-/

namespace RenderTrace.Syntax

namespace Node

mutual

/-- A tree with `g` put together from each node, from the leaves up. -/
def recast (g : Kind → List Node → Node) : Node → Node
  | .node k cs => g k (recastAll g cs)
  | .group d cs => .group d (recastAll g cs)
  | n => n

/-- Several trees with `g` put together from each node. -/
def recastAll (g : Kind → List Node → Node) : List Node → List Node
  | [] => []
  | c :: cs => recast g c :: recastAll g cs

end

variable {g : Kind → List Node → Node}

theorem recastAll_eq_map (cs : List Node) : recastAll g cs = cs.map (recast g) := by
  induction cs with
  | nil => rfl
  | cons c cs ih => rw [recastAll, ih, List.map_cons]

theorem recast_node (k : Kind) (cs : List Node) :
    recast g (.node k cs) = g k (cs.map (recast g)) := by
  rw [recast, recastAll_eq_map]

theorem recast_group (d : Delimiter) (cs : List Node) :
    recast g (.group d cs) = .group d (cs.map (recast g)) := by
  rw [recast, recastAll_eq_map]

end Node

/-- The kinds of what may stand in the place of a macro. -/
def standIns : List Kind := [.exprTuple, .exprBlock, .stmtExpr]

/-- What may stand in the place of a node of a kind: the node itself, the node with other attributes
in front, or, for a macro, an expression or a statement. -/
inductive Recasts (k : Kind) : List Node → Node → Prop
  | refl (cs : List Node) : Recasts k cs (.node k cs)
  | attributes {as as' cs : List Node} : k ≠ .list →
      Recasts k (.list as :: cs) (.node k (.list as' :: cs))
  | standIn {as cs cs' cs'' : List Node} {k' k'' : Kind} : k = .exprMacro ∨ k = .stmtMacro →
      k' ∈ standIns → k'' ∈ .list :: standIns → (∀ n ∈ cs ++ cs', n.is .attr = false) →
      Recasts k (.list as :: cs) (.node k' (.node k'' cs'' :: cs'))

namespace Node

/-- What stands at the front of what stands in for a macro is of few kinds. -/
theorem is_eq_false_of_mem {k : Kind} (hk : k ∈ .list :: standIns) (k' : Kind)
    (hk' : k' ∉ .list :: standIns) (cs : List Node) : (node k cs).is k' = false := by
  have hne : k ≠ k' := fun h ↦ hk' (h ▸ hk)
  simp [is, kind?, hne]

variable {g : Kind → List Node → Node} (hg : ∀ k cs, Recasts k cs (g k cs))

include hg

theorem exists_recasts (k : Kind) (cs : List Node) :
    ∃ cs' n, cs.map (recast g) = cs' ∧ recast g (.node k cs) = n ∧ Recasts k cs' n :=
  ⟨_, _, rfl, recast_node k cs, hg k _⟩

theorem exists_recast_node (k : Kind) (cs : List Node) :
    ∃ k' cs', recast g (.node k cs) = .node k' cs' ∧
      (k' = k ∨ (k = .exprMacro ∨ k = .stmtMacro) ∧ k' ∈ standIns) := by
  obtain ⟨_, _, -, h, hrecasts⟩ := exists_recasts hg k cs
  cases hrecasts with
  | refl => exact ⟨k, _, h, Or.inl rfl⟩
  | attributes => exact ⟨k, _, h, Or.inl rfl⟩
  | standIn hk hk' => exact ⟨_, _, h, Or.inr ⟨hk, hk'⟩⟩

/-- What is the same of all nodes, and of all groups with a delimiter, stays. -/
theorem apply_recast {α : Type} {p : Node → α}
    (hnode : ∀ k cs k' cs', p (.node k' cs') = p (.node k cs))
    (hgroup : ∀ d cs cs', p (.group d cs') = p (.group d cs)) (n : Node) :
    p (recast g n) = p n := by
  cases n with
  | token | unread => rfl
  | group d cs =>
    rw [recast_group]
    exact hgroup d cs _
  | node k cs =>
    obtain ⟨k', cs', h, -⟩ := exists_recast_node hg k cs
    rw [h]
    exact hnode k cs k' cs'

theorem isToken_recast (n : Node) : (recast g n).isToken = n.isToken :=
  apply_recast hg (fun _ _ _ _ ↦ rfl) (fun _ _ _ ↦ rfl) n

theorem text_recast (n : Node) : (recast g n).text = n.text :=
  apply_recast hg (fun _ _ _ _ ↦ rfl) (fun _ _ _ ↦ rfl) n

theorem location_recast (n : Node) : (recast g n).location = n.location :=
  apply_recast hg (fun _ _ _ _ ↦ rfl) (fun _ _ _ ↦ rfl) n

/-- The kinds other than those of macros and of what stands in for them stay. -/
theorem is_recast {k : Kind} (hkept : ¬ (k = .exprMacro ∨ k = .stmtMacro)) (hk : k ∉ standIns)
    (n : Node) : (recast g n).is k = n.is k := by
  cases n with
  | node k' cs =>
    obtain ⟨k'', cs', h, rfl | ⟨hreplaced, hk''⟩⟩ := exists_recast_node hg k' cs
    · rw [h]
      rfl
    · have hne : k'' ≠ k := fun heq ↦ hk (heq ▸ hk'')
      have hne' : k' ≠ k := fun heq ↦ hkept (heq ▸ hreplaced)
      rw [h]
      simp [is, kind?, hne, hne']
  | _ => rfl

theorem isAbsent_recast (n : Node) : (recast g n).isAbsent = n.isAbsent :=
  is_recast hg (by decide) (by decide) n

@[simp]
theorem recast_list (cs : List Node) :
    recast g (.node .list cs) = .node .list (cs.map (recast g)) := by
  obtain ⟨_, _, rfl, h, hrecasts⟩ := exists_recasts hg .list cs
  generalize cs.map (recast g) = cs' at hrecasts
  cases hrecasts with
  | refl => exact h
  | attributes hlist => exact absurd rfl hlist
  | standIn hinvokes => rcases hinvokes with h | h <;> cases h

theorem recast_absent : recast g .absent = .absent := by
  obtain ⟨_, _, rfl, h, hrecasts⟩ := exists_recasts hg .absent []
  cases hrecasts with
  | refl => exact h

/-- What becomes of the first child: it is made anew like the others, or one sequence is put in the
place of another. -/
def Leads (g : Kind → List Node → Node) (c c' : Node) : Prop :=
  c' = recast g c ∨ ∃ as k as', c = .node .list as ∧ c' = .node k as' ∧ k ∈ .list :: standIns

/-- A sequence comes from a sequence only. -/
theorem eq_list_of_recast {n : Node} {cs' : List Node} (h : recast g n = .node .list cs') :
    ∃ cs, n = .node .list cs ∧ cs.map (recast g) = cs' := by
  cases n with
  | node k cs =>
    obtain ⟨k', cs'', hrecast, rfl | ⟨-, hk'⟩⟩ := exists_recast_node hg k cs
    · obtain ⟨rfl, rfl⟩ := Node.node.inj (hrecast.symm.trans h)
      rw [recast_list hg] at h
      exact ⟨cs, rfl, (Node.node.inj h).2⟩
    · obtain ⟨rfl, -⟩ := Node.node.inj (hrecast.symm.trans h)
      exact absurd hk' (by decide)
  | token => cases h
  | unread => cases h
  | group d cs => rw [recast_group] at h; cases h

theorem eq_unread_of_recast {n : Node} {ts : List TokenTree} (h : recast g n = .unread ts) :
    n = .unread ts := by
  cases n with
  | node k cs =>
    obtain ⟨k', cs', hrecast, -⟩ := exists_recast_node hg k cs
    cases hrecast.symm.trans h
  | group d cs => rw [recast_group] at h; cases h
  | _ => exact h

theorem eq_group_of_recast {n : Node} {d : Delimiter} {cs' : List Node}
    (h : recast g n = .group d cs') : ∃ cs, n = .group d cs ∧ cs.map (recast g) = cs' := by
  cases n with
  | node k cs =>
    obtain ⟨k', cs', hrecast, -⟩ := exists_recast_node hg k cs
    cases hrecast.symm.trans h
  | group d cs =>
    rw [recast_group] at h
    obtain ⟨rfl, rfl⟩ := Node.group.inj h
    exact ⟨cs, rfl, rfl⟩
  | _ => cases h

/-- A node that is no macro keeps its kind and its children but the first. -/
theorem exists_recast_cons {k : Kind} (hkept : ¬ (k = .exprMacro ∨ k = .stmtMacro)) (c : Node)
    (cs : List Node) : ∃ c', recast g (.node k (c :: cs)) = .node k (c' :: cs.map (recast g)) ∧
      Leads g c c' := by
  obtain ⟨_, _, hcs, h, hrecasts⟩ := exists_recasts hg k (c :: cs)
  cases hrecasts with
  | refl => exact ⟨recast g c, by rw [h, ← hcs, List.map_cons], Or.inl rfl⟩
  | attributes =>
    obtain ⟨hc, rfl⟩ := List.cons.inj hcs
    obtain ⟨as, rfl, -⟩ := eq_list_of_recast hg hc
    exact ⟨_, h, Or.inr ⟨as, _, _, rfl, rfl, List.mem_cons_self⟩⟩
  | standIn hk => exact absurd hk hkept

/-- A node that stands in for nothing comes from a node of its kind. -/
theorem exists_of_recast_cons {n : Node} {k : Kind} (hk : k ∉ standIns) {c' : Node}
    {cs' : List Node} (h : recast g n = .node k (c' :: cs')) :
    ∃ c cs, n = .node k (c :: cs) ∧ cs' = cs.map (recast g) ∧ Leads g c c' := by
  cases n with
  | token => cases h
  | unread => cases h
  | group d cs => rw [recast_group] at h; cases h
  | node k' cs =>
    obtain ⟨_, _, hcs, hrecast, hrecasts⟩ := exists_recasts hg k' cs
    rw [hrecast] at h
    subst h
    cases hrecasts with
    | refl =>
      cases cs with
      | nil => cases hcs
      | cons c cs =>
        obtain ⟨rfl, rfl⟩ := List.cons.inj hcs
        exact ⟨c, cs, rfl, rfl, Or.inl rfl⟩
    | attributes =>
      cases cs with
      | nil => cases hcs
      | cons c cs =>
        obtain ⟨hc, rfl⟩ := List.cons.inj hcs
        obtain ⟨as, rfl, -⟩ := eq_list_of_recast hg hc
        exact ⟨_, cs, rfl, rfl, Or.inr ⟨as, _, _, rfl, rfl, List.mem_cons_self⟩⟩
    | standIn _ hk' => exact absurd hk' hk

theorem leads_child_zero (n : Node) : Leads g (n.child 0) ((recast g n).child 0) := by
  have hhead (cs : List Node) :
      Leads g (cs.getD 0 .absent) ((cs.map (recast g)).getD 0 .absent) := by
    cases cs with
    | nil => exact Or.inl (recast_absent hg).symm
    | cons c cs => exact Or.inl rfl
  cases n with
  | token | unread => exact Or.inl (recast_absent hg).symm
  | group d cs =>
    rw [recast_group]
    exact hhead cs
  | node k cs =>
    obtain ⟨_, _, hcs, h, hrecasts⟩ := exists_recasts hg k cs
    rw [h]
    cases hrecasts with
    | refl => exact hcs ▸ hhead cs
    | attributes =>
      obtain ⟨c, cs, rfl, hc, -⟩ := List.map_eq_cons_iff.1 hcs
      obtain ⟨as, rfl, -⟩ := eq_list_of_recast hg hc
      exact Or.inr ⟨as, _, _, rfl, rfl, List.mem_cons_self⟩
    | standIn _ _ hk =>
      obtain ⟨c, cs, rfl, hc, -⟩ := List.map_eq_cons_iff.1 hcs
      obtain ⟨as, rfl, -⟩ := eq_list_of_recast hg hc
      exact Or.inr ⟨as, _, _, rfl, rfl, hk⟩

/-! ### Paths -/

variable {c c' : Node}

theorem Leads.text (h : Leads g c c') : c'.text = c.text := by
  obtain rfl | ⟨as, k, as', rfl, rfl, -⟩ := h
  · exact text_recast hg c
  · rfl

theorem Leads.isAbsent (h : Leads g c c') : c'.isAbsent = c.isAbsent := by
  obtain rfl | ⟨as, k, as', rfl, rfl, hk⟩ := h
  · exact isAbsent_recast hg c
  · exact is_eq_false_of_mem hk .absent (by decide) as'

theorem wordsOf_recast (segments : List Node) :
    wordsOf (segments.map (recast g)) = wordsOf segments := by
  simp only [wordsOf, List.filter_map, List.map_map, Function.comp_def, isToken_recast hg,
    (leads_child_zero hg _).text hg]

theorem segmentNames_recast (n : Node) : (recast g n).segmentNames = n.segmentNames := by
  fun_induction segmentNames n with
  | case1 colons segments =>
    obtain ⟨colons', h, -⟩ := exists_recast_cons hg (k := .path) (by decide) colons
      [.node .list segments]
    rw [h, List.map_singleton, recast_list hg, segmentNames, wordsOf_recast hg]
  | case2 a b c trait_ d e segments ih =>
    obtain ⟨a', h, -⟩ := exists_recast_cons hg (k := .qualifiedPath) (by decide) a
      [b, c, trait_, d, e, .node .list segments]
    simp only [h, List.map_cons, List.map_nil, recast_list hg, segmentNames, wordsOf_recast hg, ih]
  | case3 n hpath hqualified =>
    unfold segmentNames
    split
    · next h =>
      obtain ⟨c, cs, rfl, hcs, -⟩ := exists_of_recast_cons hg (by decide) h
      obtain ⟨d, rfl, hd⟩ := List.map_eq_singleton_iff.1 hcs.symm
      obtain ⟨segments, rfl, -⟩ := eq_list_of_recast hg hd
      exact absurd rfl (hpath _ _)
    · next h =>
      obtain ⟨c, cs, rfl, hcs, -⟩ := exists_of_recast_cons hg (by decide) h
      simp only [List.map_eq_cons_iff, eq_comm (b := cs.map _), List.map_eq_nil_iff] at hcs
      obtain ⟨_, _, rfl, -, _, _, rfl, -, _, _, rfl, -, _, _, rfl, -, _, _, rfl, -, _, _, rfl, hd,
        rfl⟩ := hcs
      obtain ⟨segments, rfl, -⟩ := eq_list_of_recast hg hd
      exact absurd rfl (hqualified _ _ _ _ _ _ _)
    · rfl

theorem Leads.segmentNames (h : Leads g c c') : c'.segmentNames = c.segmentNames := by
  obtain rfl | ⟨as, k, as', rfl, rfl, hk⟩ := h
  · exact segmentNames_recast hg c
  · have hpath := is_eq_false_of_mem hk .path (by decide) as'
    have hqualified := is_eq_false_of_mem hk .qualifiedPath (by decide) as'
    unfold Node.segmentNames
    split
    · next h => cases h; cases hpath
    · next h => cases h; cases hqualified
    · rfl

theorem isWord_recast (n : Node) (w : String) : (recast g n).isWord w = n.isWord w := by
  unfold isWord
  split
  · next h =>
    obtain ⟨colons, cs, rfl, hcs, hcolons⟩ := exists_of_recast_cons hg (by decide) h
    obtain ⟨segments, rfl, hsegments⟩ := List.map_eq_singleton_iff.1 hcs.symm
    obtain ⟨ds, rfl, hds⟩ := eq_list_of_recast hg hsegments
    obtain ⟨segment, rfl, hsegment⟩ := List.map_eq_singleton_iff.1 hds
    obtain ⟨word, es, rfl, hes, hword⟩ := exists_of_recast_cons hg (by decide) hsegment
    obtain ⟨arguments, rfl, rfl⟩ := List.map_eq_singleton_iff.1 hes.symm
    simp only [hcolons.isAbsent hg, isAbsent_recast hg, hword.text hg]
  · next hother =>
    split
    · next colons word arguments =>
      obtain ⟨colons', h, -⟩ := exists_recast_cons hg (k := .path) (by decide) colons
        [.node .list [.node .segment [word, arguments]]]
      obtain ⟨word', h', -⟩ := exists_recast_cons hg (k := .segment) (by decide) word [arguments]
      rw [List.map_singleton, recast_list hg, List.map_singleton, h', List.map_singleton] at h
      exact absurd h (hother _ _ _)
    · rfl

/-! ### Attributes -/

theorem attributeInside_recast (a : Node) :
    (recast g a).attributeInside = recast g a.attributeInside := by
  unfold attributeInside
  split
  · next h =>
    obtain ⟨hash, cs, rfl, hcs, -⟩ := exists_of_recast_cons hg (by decide) h
    obtain ⟨bang, cs, rfl, -, hrest⟩ := List.map_eq_cons_iff.1 hcs.symm
    obtain ⟨body, rfl, hbody⟩ := List.map_eq_singleton_iff.1 hrest
    obtain ⟨ds, rfl, hds⟩ := eq_group_of_recast hg hbody
    obtain ⟨inside, rfl, rfl⟩ := List.map_eq_singleton_iff.1 hds
    rfl
  · next hother =>
    split
    · next hash bang d inside =>
      obtain ⟨hash', h, -⟩ := exists_recast_cons hg (k := .attr) (by decide) hash
        [bang, .group d [inside]]
      rw [List.map_cons, List.map_singleton, recast_group, List.map_singleton] at h
      exact absurd h (hother _ _ _ _)
    · exact (recast_absent hg).symm

theorem attributeName?_recast (a : Node) : (recast g a).attributeName? = a.attributeName? := by
  rw [attributeName?, attributePath, attributeInside_recast hg,
    (leads_child_zero hg _).segmentNames hg]
  rfl

theorem isInnerAttribute_recast (a : Node) :
    (recast g a).isInnerAttribute = a.isInnerAttribute := by
  unfold isInnerAttribute
  split
  · next h =>
    obtain ⟨hash, cs, rfl, hcs, -⟩ := exists_of_recast_cons hg (by decide) h
    obtain ⟨bang, cs, rfl, rfl, hrest⟩ := List.map_eq_cons_iff.1 hcs.symm
    obtain ⟨body, rfl, -⟩ := List.map_eq_singleton_iff.1 hrest
    exact congrArg (!·) (isAbsent_recast hg bang)
  · next hother =>
    split
    · next hash bang body =>
      obtain ⟨hash', h, -⟩ := exists_recast_cons hg (k := .attr) (by decide) hash [bang, body]
      exact absurd h (hother _ _ _)
    · rfl

/-- What holds of attributes only, and depends on what stays, holds of as many elements. -/
theorem any_elements_recast {p : Node → Bool}
    (hattr : ∀ a : Node, a.is .attr = false → p a = false) (hp : ∀ a, p (recast g a) = p a)
    (n : Node) : (recast g n).elements.any p = n.elements.any p := by
  have hnone {cs : List Node} (hcs : ∀ a ∈ cs, p a = false) :
      (cs.filter fun a ↦ !a.isToken).any p = false := by
    rw [List.any_eq_false]
    exact fun a ha ↦ by simp [hcs a (List.mem_of_mem_filter ha)]
  have hmap (cs : List Node) : ((cs.map (recast g)).filter fun a ↦ !a.isToken).any p =
      (cs.filter fun a ↦ !a.isToken).any p := by
    simp only [List.filter_map, List.any_map, Function.comp_def, isToken_recast hg, hp]
  have hlist (as : List Node) : p (.list as) = false := hattr _ rfl
  have htoken (as : List Node) : (list as).isToken = false := rfl
  cases n with
  | token | unread => rfl
  | group d cs =>
    rw [recast_group]
    exact hmap cs
  | node k cs =>
    obtain ⟨_, _, hcs, h, hrecasts⟩ := exists_recasts hg k cs
    rw [h, elements, elements, children, ← hmap cs, hcs]
    cases hrecasts with
    | refl => rfl
    | attributes => simp [children, htoken, hlist]
    -- neither side has attributes where a macro was replaced
    | standIn _ _ hk hrest =>
      have hfirst (as : List Node) := hattr _ (is_eq_false_of_mem hk .attr (by decide) as)
      rw [children, hnone, hnone]
      · exact List.forall_mem_cons.2
          ⟨hlist _, fun a ha ↦ hattr a (hrest a (List.mem_append_left _ ha))⟩
      · exact List.forall_mem_cons.2
          ⟨hfirst _, fun a ha ↦ hattr a (hrest a (List.mem_append_right _ ha))⟩

end Node

end RenderTrace.Syntax
