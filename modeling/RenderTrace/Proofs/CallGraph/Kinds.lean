import RenderTrace.Proofs.CallGraph.Edges

/-!
# The kinds of edges

The first edge between two functions stays, and all edges from one function come from the sites of
this function. So which edges a graph has can be told function by function, without the order in
which the functions are gone through: the kind of an edge is that of the first site of its caller
that refers to its callee (`CallGraph.mem_build_iff`).
-/

namespace RenderTrace

namespace Edge

/-- Whether another edge has the same ends. -/
def parallel (e e' : Edge) : Bool := e'.caller == e.caller && e'.callee == e.callee

theorem parallel_iff {e e' : Edge} :
    e.parallel e' = true ↔ e'.caller = e.caller ∧ e'.callee = e.callee := by
  rw [parallel, Bool.and_eq_true, beq_iff_eq, beq_iff_eq]

end Edge

namespace CallGraph

variable {g : CallGraph} {index : Index}

/-- Of the edges that are added, the first one between two functions stays, if these are not joined
before. -/
theorem mem_addEdges_iff {es : List Edge} {e : Edge} : e ∈ (g.addEdges es).edges ↔
    e ∈ g.edges ∨ g.joins e.caller e.callee = false ∧ es.find? e.parallel = some e := by
  induction es generalizing g with
  | nil => simp [addEdges]
  | cons x es ih =>
    rw [addEdges, List.foldl_cons, ← addEdges, ih, addEdge_edges]
    by_cases hsame : e.parallel x = true
    · obtain ⟨hcaller, hcallee⟩ := Edge.parallel_iff.1 hsame
      have hjoined : (g.addEdge x).1.joins e.caller e.callee = true :=
        joins_addEdge_iff.2 (Or.inr ⟨hcaller, hcallee⟩)
      rw [hjoined, List.find?_cons_of_pos hsame, hcaller, hcallee]
      by_cases hbefore : g.joins e.caller e.callee = true
      · simp [hbefore]
      · simp [hbefore, eq_comm]
    · have hjoins : (g.addEdge x).1.joins e.caller e.callee = g.joins e.caller e.callee := by
        rw [Bool.eq_iff_iff, joins_addEdge_iff, or_iff_left]
        exact fun hends ↦ hsame (Edge.parallel_iff.2 hends)
      have hne : e ≠ x := by
        rintro rfl
        exact hsame (Edge.parallel_iff.2 ⟨rfl, rfl⟩)
      rw [hjoins, List.find?_cons_of_neg hsame]
      refine or_congr ?_ Iff.rfl
      split
      · exact Iff.rfl
      · simp [hne]

/-- The kind of the first site of a function that refers to another one. -/
def kindOf? (index : Index) (f : Function) (callee : FunctionId) : Option CallKind :=
  ((Site.sites (sightingsOf index f)).find? fun s ↦
    (s.resolve index.functions.toList f.context).1.contains callee).map
      fun s ↦ (s.resolve index.functions.toList f.context).2

/-- The first edge that a function asks for to another one. -/
theorem find?_edgesOf {f : Function} {e : Edge} (hf : f.declaration.id = e.caller) :
    (edgesOf index f).find? e.parallel =
      (kindOf? index f e.callee).map (Edge.mk e.caller e.callee) := by
  have hsite : ∀ (ids : List FunctionId) (kind : CallKind),
      (ids.map fun id ↦ Edge.mk f.declaration.id id kind).find? e.parallel =
        if ids.contains e.callee then some ⟨e.caller, e.callee, kind⟩ else none := by
    intro ids kind
    induction ids with
    | nil => rfl
    | cons id ids ih =>
      rw [List.map_cons, List.find?_cons, ih, List.contains_cons, Edge.parallel, hf]
      by_cases hid : id = e.callee
      · simp [hid]
      · simp [Ne.symm hid, beq_eq_false_iff_ne.2 hid]
  rw [edgesOf, List.find?_flatMap, kindOf?]
  induction Site.sites (sightingsOf index f) with
  | nil => rfl
  | cons s sites ih =>
    rw [List.findSome?_cons, hsite, List.find?_cons, ih]
    cases (s.resolve index.functions.toList f.context).1.contains e.callee <;> rfl

/-- **The edges of the graph.** An edge is there exactly if its kind is that of the first site of
its caller that refers to its callee. -/
theorem mem_build_iff (hn : index.Numbered) {e : Edge} : e ∈ (build index).edges ↔
    ∃ f, index.functions[e.caller]? = some f ∧ kindOf? index f e.callee = some e.kind := by
  -- only the function that the edge leaves asks for an edge with these ends
  have hcaller : ∀ {f : Function} {x : Edge}, (edgesOf index f).find? e.parallel = some x →
      f.declaration.id = e.caller := fun {f x} hx ↦ by
    have hends := (Edge.parallel_iff.1 (List.find?_some hx)).1
    obtain ⟨-, _, -, _, -, _, -, rfl⟩ := mem_edgesOf_iff.1 (List.mem_of_find?_eq_some hx)
    exact hends
  have hmem : ∀ {f : Function}, f ∈ index.functions.toList → f.declaration.id = e.caller →
      index.functions[e.caller]? = some f := fun {f} hf hid ↦ by
    obtain ⟨i, hi⟩ := List.mem_iff_getElem?.1 hf
    rw [Array.getElem?_toList] at hi
    rwa [← hid, (hn i f hi).1]
  have hedge : ∀ {kind : Option CallKind}, kind.map (Edge.mk e.caller e.callee) = some e ↔
      kind = some e.kind := fun {kind} ↦ by
    rw [Option.map_eq_some_iff]
    constructor
    · rintro ⟨_, rfl, he⟩
      rw [← he]
    · rintro rfl
      exact ⟨_, rfl, rfl⟩
  have hnone : (nodesOf index).joins e.caller e.callee = false := by simp [joins, nodesOf_edges]
  rw [build_eq, mem_addEdges_iff, nodesOf_edges, List.find?_flatMap, hnone,
    or_iff_right List.not_mem_nil, and_iff_right rfl]
  constructor
  · intro hfound
    obtain ⟨f, hf, hedges⟩ := List.exists_of_findSome?_eq_some hfound
    have hid := hcaller hedges
    exact ⟨f, hmem hf hid, hedge.1 ((find?_edgesOf hid).symm.trans hedges)⟩
  · rintro ⟨f, hf, hkind⟩
    have hid := (hn _ f hf).1
    have hedges : (edgesOf index f).find? e.parallel = some e :=
      (find?_edgesOf hid).trans (hedge.2 hkind)
    have hsome : (index.functions.toList.findSome? fun f ↦
        (edgesOf index f).find? e.parallel).isSome := by
      rw [List.findSome?_isSome_iff]
      exact ⟨f, by simpa using Array.mem_of_getElem? hf, by rw [hedges]; rfl⟩
    obtain ⟨x, hx⟩ := Option.isSome_iff_exists.1 hsome
    obtain ⟨f', hf', hedges'⟩ := List.exists_of_findSome?_eq_some hx
    obtain rfl : f' = f := Option.some.inj ((hmem hf' (hcaller hedges')).symm.trans hf)
    rw [hx, ← hedges', hedges]

end CallGraph

end RenderTrace
