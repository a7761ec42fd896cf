import RenderTrace.CallGraph.Resolution
import RenderTrace.Proofs.Function.Declared

/-!
# The edges of a graph of references

The graph of an index is built by adding edges one after the other, and an edge is added only if its
ends are not joined yet. So the edges of the graph are some of those that the sites ask for
(`exists_asked_of_mem_build`), and it joins what any of them asks to join (`joins_build_iff`).

What a site asks for is found by name, and names find render functions only
(`exists_render_of_mem_resolve`); a closure literal is found by its place.
-/

namespace RenderTrace

namespace CallGraph

variable {g : CallGraph} {index : Index}

/-! ### Adding edges -/

theorem joins_iff {caller callee : FunctionId} :
    g.joins caller callee = true ↔ ∃ e ∈ g.edges, e.caller = caller ∧ e.callee = callee := by
  simp [joins]

theorem addNode_edges (g : CallGraph) (id : FunctionId) : (g.addNode id).edges = g.edges := by
  unfold addNode
  split <;> rfl

theorem addEdge_edges (g : CallGraph) (e : Edge) :
    (g.addEdge e).1.edges = if g.joins e.caller e.callee then g.edges else g.edges ++ [e] := by
  have hjoins : ((g.addNode e.caller).addNode e.callee).joins e.caller e.callee =
      g.joins e.caller e.callee := by
    simp only [joins, addNode_edges]
  unfold addEdge
  dsimp only
  rw [hjoins]
  split <;> simp only [addNode_edges]

theorem mem_edges_of_mem_addEdge {e e' : Edge} (h : e' ∈ (g.addEdge e).1.edges) :
    e' ∈ g.edges ∨ e' = e := by
  rw [addEdge_edges] at h
  split at h
  · exact Or.inl h
  · simpa using h

/-- An edge that is added joins its ends, and what was joined before stays joined. -/
theorem joins_addEdge_iff {e : Edge} {caller callee : FunctionId} :
    (g.addEdge e).1.joins caller callee = true ↔
      g.joins caller callee = true ∨ e.caller = caller ∧ e.callee = callee := by
  simp only [joins_iff, addEdge_edges]
  split
  · next hjoined =>
    refine ⟨Or.inl, fun h ↦ h.elim id ?_⟩
    rintro ⟨rfl, rfl⟩
    exact hjoined
  · simp [or_and_right, exists_or]

/-- The graph with the edges of a list. -/
def addEdges (g : CallGraph) (es : List Edge) : CallGraph := es.foldl (fun g e ↦ (g.addEdge e).1) g

theorem mem_of_mem_addEdges {es : List Edge} {e : Edge} (h : e ∈ (g.addEdges es).edges) :
    e ∈ g.edges ∨ e ∈ es := by
  induction es generalizing g with
  | nil => exact Or.inl h
  | cons e' es ih =>
    rcases ih h with hbefore | hlater
    · exact (mem_edges_of_mem_addEdge hbefore).imp_right (by rintro rfl; exact List.mem_cons_self)
    · exact Or.inr (List.mem_cons_of_mem _ hlater)

theorem joins_addEdges_iff {es : List Edge} {caller callee : FunctionId} :
    (g.addEdges es).joins caller callee = true ↔
      g.joins caller callee = true ∨ ∃ e ∈ es, e.caller = caller ∧ e.callee = callee := by
  induction es generalizing g with
  | nil => simp [addEdges]
  | cons e es ih =>
    rw [addEdges, List.foldl_cons, ← addEdges, ih, joins_addEdge_iff, List.exists_mem_cons_iff,
      or_assoc]

/-! ### The graph of an index -/

/-- The graph of an index before any edge is added. -/
def nodesOf (index : Index) : CallGraph :=
  index.functions.toList.foldl (fun g f ↦ g.addNode f.declaration.id) {}

theorem nodesOf_edges (index : Index) : (nodesOf index).edges = [] := by
  have hfold : ∀ (fs : List Function) (g : CallGraph),
      (fs.foldl (fun g f ↦ g.addNode f.declaration.id) g).edges = g.edges := by
    intro fs
    induction fs with
    | nil => exact fun g ↦ rfl
    | cons f fs ih => exact fun g ↦ (ih _).trans (addNode_edges g f.declaration.id)
  exact hfold _ {}

theorem build_eq (index : Index) :
    build index = (nodesOf index).addEdges (index.functions.toList.flatMap (edgesOf index)) := rfl

/-- An edge of the graph is one that a site of a function asks for. -/
theorem exists_asked_of_mem_build {e : Edge} (h : e ∈ (build index).edges) :
    ∃ f ∈ index.functions, e ∈ edgesOf index f := by
  rw [build_eq] at h
  rcases mem_of_mem_addEdges h with hbefore | hasked
  · rw [nodesOf_edges] at hbefore
    exact absurd hbefore List.not_mem_nil
  · simpa [List.mem_flatMap] using hasked

/-- The graph joins what a site of a function asks to join. -/
theorem joins_build_iff {caller callee : FunctionId} :
    (build index).joins caller callee = true ↔
      ∃ f ∈ index.functions, ∃ e ∈ edgesOf index f, e.caller = caller ∧ e.callee = callee := by
  have hnone : (nodesOf index).joins caller callee = false := by simp [joins, nodesOf_edges]
  rw [build_eq, joins_addEdges_iff, hnone]
  simp only [Bool.false_eq_true, false_or, List.mem_flatMap, Array.mem_toList_iff]
  constructor
  · rintro ⟨e, ⟨f, hf, he⟩, hends⟩
    exact ⟨f, hf, e, he, hends⟩
  · rintro ⟨f, hf, e, he, hends⟩
    exact ⟨e, ⟨f, hf, he⟩, hends⟩

/-- What a site of a function asks for: an edge from the function to a target of the site, where the
function is a render function with a body. -/
theorem mem_edgesOf_iff {f : Function} {e : Edge} :
    e ∈ edgesOf index f ↔ f.declaration.isRender = true ∧ ∃ b, f.body = some b ∧
      ∃ s ∈ Site.sites (Site.inBody index.lookup b),
        ∃ callee ∈ (s.resolve index.functions.toList f.context).1,
          e = ⟨f.declaration.id, callee, (s.resolve index.functions.toList f.context).2⟩ := by
  unfold edgesOf sightingsOf
  cases f.declaration.isRender with
  | false => simp [Site.sites]
  | true =>
    cases f.body with
    | none => simp [Site.sites]
    | some b => simp [List.mem_flatMap, eq_comm]

end CallGraph

namespace Site

variable {functions : List Function} {id : FunctionId}

/-! ### Targets found by name -/

/-- The functions of a list that are render functions, by number. -/
def renderIds (functions : List Function) : List FunctionId :=
  (functions.filter (·.declaration.isRender)).map (·.declaration.id)

theorem mem_renderIds : id ∈ renderIds functions ↔
    ∃ f ∈ functions, f.declaration.isRender = true ∧ f.declaration.id = id := by
  simp [renderIds, and_assoc]

theorem mem_renderIds_of_mem_atPath {words : List String} (h : id ∈ atPath functions words) :
    id ∈ renderIds functions := by
  obtain ⟨f, hf, rfl⟩ := List.mem_map.1 h
  obtain ⟨hmem, hkept⟩ := List.mem_filter.1 hf
  exact mem_renderIds.2 ⟨f, hmem, (Bool.and_eq_true_iff.1 hkept).1, rfl⟩

theorem mem_renderIds_of_mem_nearest {base words : List String}
    (h : id ∈ nearest functions base words) : id ∈ renderIds functions := by
  unfold nearest at h
  cases hfound : ((ancestors base).map fun b ↦ atPath functions (b ++ words)).find?
      (!·.isEmpty) with
  | none =>
    rw [hfound] at h
    exact absurd h List.not_mem_nil
  | some ids =>
    rw [hfound] at h
    obtain ⟨b, -, rfl⟩ := List.mem_map.1 (List.mem_of_find?_eq_some hfound)
    exact mem_renderIds_of_mem_atPath h

theorem mem_renderIds_of_mem_withName {name : String} {keep : Function → Bool}
    (h : id ∈ ((withName functions name).filter keep).map (·.declaration.id)) :
    id ∈ renderIds functions := by
  obtain ⟨f, hf, rfl⟩ := List.mem_map.1 h
  obtain ⟨hmem, hkept⟩ := List.mem_filter.1 (List.mem_filter.1 hf).1
  simp only [Bool.and_eq_true] at hkept
  exact mem_renderIds.2 ⟨f, hmem, hkept.1.1, rfl⟩

theorem mem_renderIds_of_mem_resolvePath {ctx : Context} {words : List String}
    (h : id ∈ resolvePath functions ctx words) : id ∈ renderIds functions := by
  unfold resolvePath at h
  split at h
  · exact absurd h List.not_mem_nil
  · split at h
    · exact absurd h List.not_mem_nil
    · dsimp only at h
      split at h
      · exact mem_renderIds_of_mem_nearest h
      · exact mem_renderIds_of_mem_withName h

theorem mem_renderIds_of_mem_resolveMethod {ctx : Context} {name : String} {onSelf : Bool}
    (h : id ∈ resolveMethod functions ctx name onSelf) : id ∈ renderIds functions := by
  unfold resolveMethod at h
  cases hself : onSelf <;> cases htype : ctx.selfType <;>
    simp only [hself, htype, List.isEmpty_nil, Bool.not_true, Bool.false_eq_true, if_false] at h
  case true.some =>
    split at h
    · exact mem_renderIds_of_mem_nearest h
    · exact mem_renderIds_of_mem_withName h
  all_goals exact mem_renderIds_of_mem_withName h

/-- A path or a method refers to render functions. -/
theorem exists_render_of_mem_resolve {ctx : Context} {s : Site}
    (hs : ∀ id, s ≠ .literal id) (h : id ∈ (s.resolve functions ctx).1) :
    ∃ f ∈ functions, f.declaration.isRender = true ∧ f.declaration.id = id := by
  rw [← mem_renderIds]
  cases s with
  | path segments kind => exact mem_renderIds_of_mem_resolvePath h
  | method name onSelf => exact mem_renderIds_of_mem_resolveMethod h
  | literal id' => exact absurd rfl (hs id')

end Site

end RenderTrace
