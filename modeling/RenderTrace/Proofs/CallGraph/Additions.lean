import Mathlib.Data.Finset.Card
import Mathlib.Data.Finset.Sort
import RenderTrace.Proofs.CallGraph.Targets

/-!
# Graphs made by additions

What a graph answers after edges were added one after the other, told by the list of additions. Its
nodes are the functions that were mentioned, in the order in which they first were
(`CallGraph.nodes_addEdges_empty`), its pairs those that were added
(`CallGraph.pairs_addEdges_empty`), and from each function the edges leave in the order in which its
callees were first added (`CallGraph.edgesFrom_addEdges_empty`). A graph that is made so is
`WellFormed`: no node and no pair stands in it twice, and every edge joins two nodes.

The graph of an index is made so too, but with all functions of the index as nodes before any edge
is added. The edges mention no others, so the functions stand in it in their own order
(`CallGraph.build_nodes`).
-/

namespace RenderTrace

namespace Edge

/-- The two functions that an edge joins. -/
def ends (e : Edge) : List FunctionId := [e.caller, e.callee]

/-- The ordered pair that an edge joins. -/
def pair (e : Edge) : FunctionId × FunctionId := (e.caller, e.callee)

theorem pair_eq_iff {e : Edge} {caller callee : FunctionId} :
    e.pair = (caller, callee) ↔ e.caller = caller ∧ e.callee = callee := Prod.mk_inj

end Edge

namespace CallGraph

variable {g : CallGraph} {e : Edge} {es : List Edge} {id : FunctionId}

/-- The functions that edges mention, as often as they do. -/
def mentioned (es : List Edge) : List FunctionId := es.flatMap Edge.ends

/-- No node and no pair twice, and no edge without its nodes. -/
structure WellFormed (g : CallGraph) : Prop where
  nodes_nodup : g.nodes.Nodup
  pairs_nodup : (g.edges.map Edge.pair).Nodup
  ends_mem : ∀ e ∈ g.edges, ∀ id ∈ e.ends, id ∈ g.nodes

theorem WellFormed.caller_mem (h : g.WellFormed) (he : e ∈ g.edges) : e.caller ∈ g.nodes :=
  h.ends_mem e he _ List.mem_cons_self

theorem WellFormed.callee_mem (h : g.WellFormed) (he : e ∈ g.edges) : e.callee ∈ g.nodes :=
  h.ends_mem e he _ (List.mem_cons_of_mem _ List.mem_cons_self)

theorem mem_edges_of_mem_edgesByCaller (he : e ∈ g.edgesByCaller) : e ∈ g.edges := by
  obtain ⟨caller, -, hfrom⟩ := List.mem_flatMap.1 he
  exact (List.mem_filter.1 hfrom).1

/-! ### One addition -/

theorem addNode_nodes (g : CallGraph) (id : FunctionId) :
    (g.addNode id).nodes = if id ∈ g.nodes then g.nodes else g.nodes ++ [id] := by
  unfold addNode
  split_ifs with hcontains hmem hmem
  · rfl
  · exact absurd (List.contains_iff_mem.1 hcontains) hmem
  · exact absurd (List.contains_iff_mem.2 hmem) hcontains
  · rfl

theorem mem_nodes_addNode {x : FunctionId} :
    x ∈ (g.addNode id).nodes ↔ x ∈ g.nodes ∨ x = id := by
  rw [addNode_nodes]
  split_ifs with hmem
  · exact (or_iff_left_of_imp (by rintro rfl; exact hmem)).symm
  · rw [List.mem_append, List.mem_singleton]

theorem addEdge_nodes (g : CallGraph) (e : Edge) :
    (g.addEdge e).1.nodes = ((g.addNode e.caller).addNode e.callee).nodes := by
  unfold addEdge
  dsimp only
  split <;> rfl

theorem addEdge_snd (g : CallGraph) (e : Edge) :
    (g.addEdge e).2 = !g.joins e.caller e.callee := by
  have hjoins : ((g.addNode e.caller).addNode e.callee).joins e.caller e.callee =
      g.joins e.caller e.callee := by
    simp only [joins, addNode_edges]
  unfold addEdge
  dsimp only
  rw [hjoins]
  cases g.joins e.caller e.callee <;> rfl

theorem mem_nodes_addEdge {x : FunctionId} :
    x ∈ (g.addEdge e).1.nodes ↔ x ∈ g.nodes ∨ x ∈ e.ends := by
  rw [addEdge_nodes, mem_nodes_addNode, mem_nodes_addNode, Edge.ends, List.mem_cons,
    List.mem_singleton, or_assoc]

theorem mem_pairs_iff {caller callee : FunctionId} :
    (caller, callee) ∈ g.edges.map Edge.pair ↔ g.joins caller callee = true := by
  simp only [joins_iff, List.mem_map, Edge.pair_eq_iff]

theorem WellFormed.addNode (h : g.WellFormed) (id : FunctionId) : (g.addNode id).WellFormed where
  nodes_nodup := by
    rw [addNode_nodes]
    split_ifs with hmem
    · exact h.nodes_nodup
    · exact h.nodes_nodup.append (List.nodup_singleton id) (List.disjoint_singleton.2 hmem)
  pairs_nodup := by
    rw [addNode_edges]
    exact h.pairs_nodup
  ends_mem e he x hx := by
    rw [addNode_edges] at he
    exact mem_nodes_addNode.2 (Or.inl (h.ends_mem e he x hx))

/-- An edge between nodes that it is the first to join. -/
theorem WellFormed.join (h : g.WellFormed) (hends : ∀ id ∈ e.ends, id ∈ g.nodes)
    (hnew : g.joins e.caller e.callee = false) :
    ({ g with edges := g.edges ++ [e] } : CallGraph).WellFormed where
  nodes_nodup := h.nodes_nodup
  pairs_nodup := by
    have hpair : e.pair ∉ g.edges.map Edge.pair := fun hmem ↦
      Bool.false_ne_true (hnew ▸ mem_pairs_iff.1 hmem)
    rw [List.map_append, List.map_singleton]
    exact h.pairs_nodup.append (List.nodup_singleton _) (List.disjoint_singleton.2 hpair)
  ends_mem e' he' x hx := by
    rcases List.mem_append.1 he' with hold | hnew'
    · exact h.ends_mem e' hold x hx
    · obtain rfl := List.mem_singleton.1 hnew'
      exact hends x hx

theorem WellFormed.addEdge (h : g.WellFormed) (e : Edge) : (g.addEdge e).1.WellFormed := by
  have hnodes := (h.addNode e.caller).addNode e.callee
  have hends : ∀ id ∈ e.ends, id ∈ ((g.addNode e.caller).addNode e.callee).nodes := fun id hid ↦ by
    rw [← addEdge_nodes]
    exact mem_nodes_addEdge.2 (Or.inr hid)
  unfold CallGraph.addEdge
  dsimp only
  split
  · exact hnodes
  · next hnew => exact hnodes.join hends (Bool.not_eq_true _ ▸ hnew)

/-! ### Numbers of nodes -/

theorem nodeNumber_lt (h : id ∈ g.nodes) : g.nodeNumber id < g.nodes.length :=
  List.idxOf_lt_length_of_mem h

theorem nodeNumber_inj {id' : FunctionId} (h : id ∈ g.nodes) :
    g.nodeNumber id = g.nodeNumber id' ↔ id = id' := List.idxOf_inj h

theorem getElem?_nodeNumber (h : id ∈ g.nodes) : g.nodes[g.nodeNumber id]? = some id :=
  List.getElem?_idxOf h

/-- A node keeps its number if another one is added. -/
theorem nodeNumber_addNode {x : FunctionId} (h : x ∈ g.nodes) :
    (g.addNode id).nodeNumber x = g.nodeNumber x := by
  rw [nodeNumber, nodeNumber, addNode_nodes]
  split
  · rfl
  · exact List.idxOf_append_of_mem h

/-! ### Several additions -/

theorem WellFormed.addEdges (h : g.WellFormed) (es : List Edge) : (g.addEdges es).WellFormed := by
  induction es generalizing g with
  | nil => exact h
  | cons e es ih => exact ih (h.addEdge e)

theorem wellFormed_empty : ({} : CallGraph).WellFormed :=
  ⟨List.nodup_nil, List.nodup_nil, fun _ h ↦ absurd h List.not_mem_nil⟩

theorem addNode_nodes_eq_eraseDups {ids : List FunctionId} (h : g.nodes = ids.eraseDups) :
    (g.addNode id).nodes = (ids ++ [id]).eraseDups := by
  rw [addNode_nodes, h, List.eraseDups_append, List.cons_removeAll, List.nil_removeAll]
  by_cases hid : id ∈ ids
  · simp [hid]
  · simp [hid, List.eraseDups_cons]

/-- What edges mention is behind the nodes that were there, each where it is mentioned first. -/
theorem addEdges_nodes_eq_eraseDups {ids : List FunctionId} (h : g.nodes = ids.eraseDups) :
    (g.addEdges es).nodes = (ids ++ mentioned es).eraseDups := by
  induction es generalizing g ids with
  | nil => rw [mentioned, List.flatMap_nil, List.append_nil, ← h]; rfl
  | cons e es ih =>
    have hnodes : (g.addEdge e).1.nodes = (ids ++ e.ends).eraseDups := by
      rw [addEdge_nodes, Edge.ends, List.append_cons]
      exact addNode_nodes_eq_eraseDups (addNode_nodes_eq_eraseDups h)
    rw [mentioned, List.flatMap_cons, ← List.append_assoc]
    exact ih hnodes

/-- Edges between nodes that are there add no nodes. -/
theorem addEdges_nodes_of_mem (h : ∀ x ∈ mentioned es, x ∈ g.nodes) :
    (g.addEdges es).nodes = g.nodes := by
  induction es generalizing g with
  | nil => rfl
  | cons e es ih =>
    have hends : ∀ x ∈ e.ends, x ∈ g.nodes := fun x hx ↦
      h x (List.mem_flatMap.2 ⟨e, List.mem_cons_self, hx⟩)
    have hnodes : (g.addEdge e).1.nodes = g.nodes := by
      have hcaller := hends e.caller List.mem_cons_self
      have hcallee := hends e.callee (List.mem_cons_of_mem _ List.mem_cons_self)
      rw [addEdge_nodes, addNode_nodes, addNode_nodes, if_pos hcaller, if_pos hcallee]
    refine (ih fun x hx ↦ ?_).trans hnodes
    obtain ⟨e', he', hx'⟩ := List.mem_flatMap.1 hx
    exact hnodes ▸ h x (List.mem_flatMap.2 ⟨e', List.mem_cons_of_mem _ he', hx'⟩)

variable (es)

/-- The nodes of a graph that additions make are what they mention, by the order of first
mention. -/
theorem nodes_addEdges_empty :
    (({} : CallGraph).addEdges es).nodes = (mentioned es).eraseDups := by
  have hnone : ({} : CallGraph).nodes = ([] : List FunctionId).eraseDups := rfl
  exact addEdges_nodes_eq_eraseDups hnone

theorem nodes_addEdges_empty_toFinset :
    (({} : CallGraph).addEdges es).nodes.toFinset = (mentioned es).toFinset := by
  ext id
  rw [nodes_addEdges_empty, List.mem_toFinset, List.mem_eraseDups, List.mem_toFinset]

/-- The pairs that a graph joins that additions make are those that were added. -/
theorem pairs_addEdges_empty :
    ((({} : CallGraph).addEdges es).edges.map Edge.pair).toFinset =
      (es.map Edge.pair).toFinset := by
  ext ⟨caller, callee⟩
  rw [List.mem_toFinset, List.mem_toFinset, mem_pairs_iff, joins_addEdges_iff]
  simp [joins, Edge.pair_eq_iff]

theorem edgesFrom_addEdges_empty (caller : FunctionId) :
    (({} : CallGraph).addEdges es).edgesFrom caller =
      (es.filter (·.caller == caller)).eraseDupsBy Edge.sameCallee :=
  edgesFrom_addEdges {} es caller

variable {es}

/-- Sorting what is there once is sorting the set of it. -/
theorem mergeSort_eq_sort {ids : List FunctionId} (h : ids.Nodup) :
    ids.mergeSort (· ≤ ·) = ids.toFinset.sort := by
  have hperm := List.mergeSort_perm ids (· ≤ ·)
  have hsorted : (ids.mergeSort (· ≤ ·)).Pairwise fun a b ↦ decide (a ≤ b) = true :=
    List.pairwise_mergeSort (by simpa using fun a b c ↦ Nat.le_trans)
      (by simpa using Nat.le_total) _
  rw [← List.toFinset_eq_of_perm _ _ hperm, eq_comm,
    List.toFinset_sort _ (hperm.nodup_iff.2 h)]
  exact hsorted.imp of_decide_eq_true

theorem WellFormed.sortedNodes_eq (h : g.WellFormed) : g.sortedNodes = g.nodes.toFinset.sort :=
  mergeSort_eq_sort h.nodes_nodup

/-! ### The graph of an index -/

variable {index : Index}

theorem nodesOf_nodes (hn : index.Numbered) :
    (nodesOf index).nodes = List.range index.functions.size := by
  -- as long as the numbers are different, every function is a new node
  have hfold : ∀ (fs : List Function) (g : CallGraph),
      (g.nodes ++ fs.map (·.declaration.id)).Nodup →
        (fs.foldl (fun g f ↦ g.addNode f.declaration.id) g).nodes =
          g.nodes ++ fs.map (·.declaration.id) := by
    intro fs
    induction fs with
    | nil => exact fun g _ ↦ (List.append_nil _).symm
    | cons f fs ih =>
      intro g hnodup
      have hnew : f.declaration.id ∉ g.nodes := fun hmem ↦
        (List.nodup_append.1 hnodup).2.2 _ hmem _ List.mem_cons_self rfl
      have hnodes : (g.addNode f.declaration.id).nodes = g.nodes ++ [f.declaration.id] := by
        rw [addNode_nodes, if_neg hnew]
      rw [List.map_cons, List.append_cons, ← hnodes] at hnodup ⊢
      exact ih _ hnodup
  have hids : index.functions.toList.map (·.declaration.id) =
      List.range index.functions.size := by
    refine List.ext_getElem (by simp) fun i hi _ ↦ ?_
    have hat : i < index.functions.size := by simpa using hi
    simpa using (hn i _ (Array.getElem?_eq_getElem hat)).1
  rw [← hids]
  exact hfold _ {} hn.ids_nodup

theorem nodesOf_wellFormed (hn : index.Numbered) : (nodesOf index).WellFormed where
  nodes_nodup := nodesOf_nodes hn ▸ List.nodup_range
  pairs_nodup := nodesOf_edges index ▸ List.nodup_nil
  ends_mem _ he := absurd (nodesOf_edges index ▸ he) List.not_mem_nil

variable (o : Options) (u : Syntax.SourceUnit)

/-- Sites ask only for edges between functions of the index. -/
theorem lt_size_of_mem_mentioned {id : FunctionId} (h : id ∈ mentioned
    ((Index.build o u).functions.toList.flatMap (edgesOf (Index.build o u)))) :
    id < (Index.build o u).functions.size := by
  have hn := Index.build_numbered o u
  obtain ⟨e, he, hend⟩ := List.mem_flatMap.1 h
  obtain ⟨f, hf, hasked⟩ := List.mem_flatMap.1 he
  -- some edge of the graph has these ends
  obtain ⟨e', he', hcaller, hcallee⟩ := joins_iff.1
    (joins_build_iff.2 ⟨f, Array.mem_toList_iff.1 hf, e, hasked, rfl, rfl⟩)
  obtain ⟨b, ⟨f', hf', -⟩, htarget⟩ := ends_of_mem_build he'
  rcases List.mem_cons.1 hend with rfl | hend
  · exact hcaller ▸ (Array.getElem?_eq_some_iff.1 hf').1
  · obtain rfl := List.mem_singleton.1 hend
    rw [← hcallee]
    rcases htarget with hrenders | ⟨-, n, -, hdeclared⟩
    · obtain ⟨g, hg, -⟩ := (Option.any_eq_true _ _).1 hrenders
      exact (Array.getElem?_eq_some_iff.1 hg).1
    · have hlookup := (Option.ite_none_right_eq_some.1 hdeclared).2
      obtain ⟨g, hg, -⟩ := Index.exists_of_lookup hn hlookup
      exact (Array.getElem?_eq_some_iff.1 hg).1

/-- The nodes of the graph of an index are the functions of the index in their order. -/
theorem build_nodes : (build (Index.build o u)).nodes =
    List.range (Index.build o u).functions.size := by
  have hnodes := nodesOf_nodes (Index.build_numbered o u)
  rw [build_eq, ← hnodes]
  refine addEdges_nodes_of_mem fun id hid ↦ ?_
  rw [hnodes]
  exact List.mem_range.2 (lt_size_of_mem_mentioned o u hid)

theorem build_wellFormed : (build (Index.build o u)).WellFormed :=
  build_eq _ ▸ (nodesOf_wellFormed (Index.build_numbered o u)).addEdges _

variable {o u}

/-- In the graph of an index, a function is written by its own number. -/
theorem nodeNumber_build {id : FunctionId} (h : id ∈ (build (Index.build o u)).nodes) :
    (build (Index.build o u)).nodeNumber id = id := by
  have hlt := nodeNumber_lt h
  have hat := getElem?_nodeNumber h
  rw [build_nodes, List.length_range] at hlt
  rw [build_nodes, List.getElem?_range hlt] at hat
  exact Option.some.inj hat

/-! ### What a graph answers -/

/-- What a graph answers. -/
structure Answers where
  /-- Whether an edge is new, if it is added. -/
  adds : Edge → Bool
  joins : FunctionId → FunctionId → Bool
  edgesFrom : FunctionId → List Edge
  edges : List Edge
  edgeCount : Nat
  nodeCount : Nat

/-- What a graph answers. -/
def answers (g : CallGraph) : Answers where
  adds e := (g.addEdge e).2
  joins := g.joins
  edgesFrom := g.edgesFrom
  edges := g.edgesByCaller
  edgeCount := g.edges.length
  nodeCount := g.nodes.length

/-- The answers are those of a graph to which these edges were added in turn. -/
structure Answers.IsAfter (a : Answers) (es : List Edge) : Prop where
  /-- An edge is new if its ordered pair was not added before. -/
  adds_iff (e : Edge) : a.adds e = true ↔ e.pair ∉ es.map Edge.pair
  joins_iff (caller callee : FunctionId) :
    a.joins caller callee = true ↔ (caller, callee) ∈ es.map Edge.pair
  /-- The edges to the callees of a function are the first ones that were added to each. -/
  edgesFrom_eq (caller : FunctionId) :
    a.edgesFrom caller = (es.filter (·.caller == caller)).eraseDupsBy Edge.sameCallee
  edges_eq : a.edges = (mentioned es).toFinset.sort.flatMap a.edgesFrom
  edgeCount_eq : a.edgeCount = (es.map Edge.pair).toFinset.card
  nodeCount_eq : a.nodeCount = (mentioned es).toFinset.card

theorem answers_isAfter (es : List Edge) :
    (({} : CallGraph).addEdges es).answers.IsAfter es := by
  have hformed := wellFormed_empty.addEdges es
  have hjoins : ∀ caller callee, (({} : CallGraph).addEdges es).joins caller callee = true ↔
      (caller, callee) ∈ es.map Edge.pair := fun caller callee ↦ by
    rw [← mem_pairs_iff, ← List.mem_toFinset, pairs_addEdges_empty, List.mem_toFinset]
  constructor
  case adds_iff =>
    intro e
    show (CallGraph.addEdge _ e).2 = true ↔ _
    rw [addEdge_snd, Bool.not_eq_true', ← Bool.not_eq_true, hjoins]
    rfl
  case joins_iff => exact hjoins
  case edgesFrom_eq => exact edgesFrom_addEdges_empty es
  case edges_eq =>
    show (({} : CallGraph).addEdges es).sortedNodes.flatMap _ = _
    rw [hformed.sortedNodes_eq, nodes_addEdges_empty_toFinset]
    rfl
  case edgeCount_eq =>
    rw [← pairs_addEdges_empty, List.toFinset_card_of_nodup hformed.pairs_nodup, List.length_map]
    rfl
  case nodeCount_eq =>
    rw [← nodes_addEdges_empty_toFinset, List.toFinset_card_of_nodup hformed.nodes_nodup]
    rfl

end CallGraph

end RenderTrace
