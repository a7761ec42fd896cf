import RenderTrace.Proofs.CallGraph.Additions

/-!
# Graphs that a library keeps

A graph of functions can be left to a library of directed graphs. The library numbers the nodes and
knows nothing of the functions that they carry, so a map from functions to numbers is kept beside
it. Such a graph answers as `CallGraph` does, whatever edges are added (`Linked.answers_addEdges`).

## What is asked of the library

A `Library` is `Lawful` if it finds exactly the edges that were added and lists those that leave a
node with the latest one first. What was added to a graph of the library is told by `Library.Holds`.
Nothing is asked about nodes that were never added.

## Why the map stays in step

The map and the list of nodes are inverse to each other: the function of number `n` is the one that
was mentioned as the `n`-th (`Linked.Represents.number_iff`). A node is added to the library only
for a function that is not in the map, and its number is then the number of nodes before. So every
number in the library stands for one function, and edges between numbers are edges between
functions.
-/

namespace RenderTrace.CallGraph

/-! ### Libraries of directed graphs -/

/-- A library of directed graphs. Nodes have numbers and carry functions, edges carry kinds. -/
structure Library (G : Type) where
  empty : G
  /-- Adds a node, and tells its number. -/
  addNode : G → FunctionId → G × Nat
  addEdge : G → Nat → Nat → CallKind → G
  /-- The function that a node carries. -/
  weight : G → Nat → FunctionId
  /-- An edge from one node to another one, by its number. -/
  findEdge? : G → Nat → Nat → Option Nat
  /-- The edges that leave a node, each by the node it leads to and its kind. -/
  outgoing : G → Nat → List (Nat × CallKind)
  nodeCount : G → Nat
  edgeCount : G → Nat

namespace Library

variable {G : Type}

/-- A graph of a library holds the nodes and edges that were added to it, in turn. -/
inductive Holds (s : Library G) : G → List FunctionId → List (Nat × Nat × CallKind) → Prop where
  | empty : Holds s s.empty [] []
  | addNode {g : G} {ids : List FunctionId} {es : List (Nat × Nat × CallKind)} (id : FunctionId) :
      Holds s g ids es → Holds s (s.addNode g id).1 (ids ++ [id]) es
  | addEdge {g : G} {ids : List FunctionId} {es : List (Nat × Nat × CallKind)} {i j : Nat}
      (kind : CallKind) : Holds s g ids es → i < ids.length → j < ids.length →
        Holds s (s.addEdge g i j kind) ids (es ++ [(i, j, kind)])

/-- A library does what its graphs are for. -/
structure Lawful (s : Library G) : Prop where
  /-- Nodes are numbered in turn. -/
  addNode_snd {g : G} {ids : List FunctionId} {es : List (Nat × Nat × CallKind)}
    (h : s.Holds g ids es) (id : FunctionId) : (s.addNode g id).2 = ids.length
  weight_eq {g : G} {ids : List FunctionId} {es : List (Nat × Nat × CallKind)}
    (h : s.Holds g ids es) {i : Nat} {id : FunctionId} (hi : ids[i]? = some id) :
    s.weight g i = id
  /-- Exactly the edges are found that were added. -/
  isSome_findEdge?_iff {g : G} {ids : List FunctionId} {es : List (Nat × Nat × CallKind)}
    (h : s.Holds g ids es) {i j : Nat} (hi : i < ids.length) (hj : j < ids.length) :
    (s.findEdge? g i j).isSome = true ↔ ∃ kind, (i, j, kind) ∈ es
  /-- Of the edges that leave a node, the latest one comes first. -/
  outgoing_eq {g : G} {ids : List FunctionId} {es : List (Nat × Nat × CallKind)}
    (h : s.Holds g ids es) {i : Nat} (hi : i < ids.length) :
    s.outgoing g i = ((es.filter (·.1 == i)).map (·.2)).reverse
  nodeCount_eq {g : G} {ids : List FunctionId} {es : List (Nat × Nat × CallKind)}
    (h : s.Holds g ids es) : s.nodeCount g = ids.length
  edgeCount_eq {g : G} {ids : List FunctionId} {es : List (Nat × Nat × CallKind)}
    (h : s.Holds g ids es) : s.edgeCount g = es.length

end Library

/-! ### Graphs of functions over a library -/

/-- A graph of a library, and the numbers of the functions that its nodes carry. -/
structure Linked (G : Type) where
  graph : G
  numbers : Std.HashMap FunctionId Nat

namespace Linked

variable {G : Type} (s : Library G)

/-- A graph without nodes. -/
def empty : Linked G := ⟨s.empty, {}⟩

/-- A graph with a node for a function, and the number of this node. -/
def node (l : Linked G) (id : FunctionId) : Linked G × Nat :=
  match l.numbers[id]? with
  | some n => (l, n)
  | none =>
    let (graph, n) := s.addNode l.graph id
    (⟨graph, l.numbers.insert id n⟩, n)

/-- A graph with an edge, unless there is one already; and whether it was added. -/
def addEdge (l : Linked G) (e : Edge) : Linked G × Bool :=
  let (l, source) := l.node s e.caller
  let (l, target) := l.node s e.callee
  if (s.findEdge? l.graph source target).isSome then (l, false)
  else ({ l with graph := s.addEdge l.graph source target e.kind }, true)

/-- A graph with the edges of a list, added in turn. -/
def addEdges (l : Linked G) (es : List Edge) : Linked G :=
  es.foldl (fun l e ↦ (l.addEdge s e).1) l

/-- Whether an edge joins two functions in this direction. -/
def joins (l : Linked G) (caller callee : FunctionId) : Bool :=
  match l.numbers[caller]?, l.numbers[callee]? with
  | some source, some target => (s.findEdge? l.graph source target).isSome
  | _, _ => false

/-- The edges that leave a function: the library has the latest one first. -/
def edgesFrom (l : Linked G) (caller : FunctionId) : List Edge :=
  match l.numbers[caller]? with
  | none => []
  | some n => ((s.outgoing l.graph n).map fun (target, kind) ↦
      Edge.mk caller (s.weight l.graph target) kind).reverse

/-- All edges, by the function that they leave. -/
def edges (l : Linked G) : List Edge :=
  (l.numbers.keys.mergeSort (· ≤ ·)).flatMap (l.edgesFrom s)

/-- What a graph answers. -/
def answers (l : Linked G) : Answers where
  adds e := (l.addEdge s e).2
  joins := l.joins s
  edgesFrom := l.edgesFrom s
  edges := l.edges s
  edgeCount := s.edgeCount l.graph
  nodeCount := s.nodeCount l.graph

/-! ### What they stand for -/

/-- An edge between the numbers of two functions. -/
def numbered (g : CallGraph) (e : Edge) : Nat × Nat × CallKind :=
  (g.nodeNumber e.caller, g.nodeNumber e.callee, e.kind)

/-- A graph over a library stands for a graph of functions. -/
structure Represents (l : Linked G) (g : CallGraph) : Prop where
  wellFormed : g.WellFormed
  number_iff (id : FunctionId) (n : Nat) : l.numbers[id]? = some n ↔ g.nodes[n]? = some id
  holds : s.Holds l.graph g.nodes (g.edges.map (numbered g))

variable {s} {l : Linked G} {g : CallGraph} {id : FunctionId} {e : Edge}

/-- A map that is inverse to a list stays so if a function that is new is put into both. -/
theorem getElem?_insert_iff {numbers : Std.HashMap FunctionId Nat} {ids : List FunctionId}
    (h : ∀ (x : FunctionId) (n : Nat), numbers[x]? = some n ↔ ids[n]? = some x) (hid : id ∉ ids)
    (x : FunctionId) (n : Nat) :
    (numbers.insert id ids.length)[x]? = some n ↔ (ids ++ [id])[n]? = some x := by
  have hlast : (ids ++ [id])[n]? = some x ↔ ids[n]? = some x ∨ n = ids.length ∧ x = id := by
    rw [List.getElem?_append]
    split
    · next hlt => exact (or_iff_left fun heq ↦ absurd heq.1 (by omega)).symm
    · next hge =>
      have hnone : ids[n]? = none := List.getElem?_eq_none (by omega)
      rw [hnone, List.getElem?_singleton]
      split <;> simp [eq_comm] <;> omega
  rw [Std.HashMap.getElem?_insert, hlast]
  by_cases hx : x = id
  · -- before, no number stood for the new function
    subst hx
    have hold : ids[n]? ≠ some x := fun hn ↦ hid (List.mem_of_getElem? hn)
    simp [hold, eq_comm]
  · simp [h, hx, Ne.symm hx]

namespace Represents

variable (h : Represents s l g)
include h

theorem number_of_mem (hid : id ∈ g.nodes) : l.numbers[id]? = some (g.nodeNumber id) :=
  (h.number_iff id _).2 (getElem?_nodeNumber hid)

theorem number_of_not_mem (hid : id ∉ g.nodes) : l.numbers[id]? = none :=
  Option.eq_none_iff_forall_ne_some.2 fun n hn ↦
    hid (List.mem_of_getElem? ((h.number_iff id n).1 hn))

/-- Numbering the edges of a graph of which a node was added is numbering them as before. -/
theorem numbered_addNode (id : FunctionId) :
    (g.addNode id).edges.map (numbered (g.addNode id)) = g.edges.map (numbered g) := by
  rw [addNode_edges]
  refine List.map_congr_left fun e he ↦ ?_
  rw [numbered, numbered, nodeNumber_addNode (h.wellFormed.caller_mem he),
    nodeNumber_addNode (h.wellFormed.callee_mem he)]

/-- A node for a function has the number of this function. -/
theorem node (hs : s.Lawful) (id : FunctionId) :
    Represents s (l.node s id).1 (g.addNode id) ∧
      (l.node s id).2 = (g.addNode id).nodeNumber id := by
  by_cases hid : id ∈ g.nodes
  · have hadd : g.addNode id = g := by rw [addNode, if_pos (List.contains_iff_mem.2 hid)]
    rw [hadd, Linked.node, h.number_of_mem hid]
    exact ⟨h, rfl⟩
  · have hnodes : (g.addNode id).nodes = g.nodes ++ [id] := by rw [addNode_nodes, if_neg hid]
    have hnumber : (g.addNode id).nodeNumber id = g.nodes.length := by
      rw [nodeNumber, hnodes, List.idxOf_append_of_notMem hid]
      simp
    rw [Linked.node, h.number_of_not_mem hid]
    refine ⟨⟨h.wellFormed.addNode id, ?_, ?_⟩, ?_⟩
    · rw [hnodes]
      show ∀ x n, (l.numbers.insert id (s.addNode l.graph id).2)[x]? = some n ↔ _
      rw [hs.addNode_snd h.holds id]
      exact getElem?_insert_iff h.number_iff hid
    · rw [hnodes, h.numbered_addNode id]
      exact .addNode id h.holds
    · exact (hs.addNode_snd h.holds id).trans hnumber.symm

theorem findEdge? (hs : s.Lawful) {caller callee : FunctionId} (hcaller : caller ∈ g.nodes)
    (hcallee : callee ∈ g.nodes) :
    (s.findEdge? l.graph (g.nodeNumber caller) (g.nodeNumber callee)).isSome =
      g.joins caller callee := by
  rw [Bool.eq_iff_iff, hs.isSome_findEdge?_iff h.holds (nodeNumber_lt hcaller)
    (nodeNumber_lt hcallee), joins_iff]
  constructor
  · rintro ⟨kind, hmem⟩
    obtain ⟨e, he, heq⟩ := List.mem_map.1 hmem
    obtain ⟨hsource, htarget, -⟩ := by simpa only [numbered, Prod.mk.injEq] using heq
    exact ⟨e, he, (nodeNumber_inj (h.wellFormed.caller_mem he)).1 hsource,
      (nodeNumber_inj (h.wellFormed.callee_mem he)).1 htarget⟩
  · rintro ⟨e, he, rfl, rfl⟩
    exact ⟨e.kind, List.mem_map_of_mem he⟩

/-- An edge between nodes that it is the first to join, added to both. -/
theorem join (hcaller : e.caller ∈ g.nodes) (hcallee : e.callee ∈ g.nodes)
    (hnew : g.joins e.caller e.callee = false) :
    Represents s ⟨s.addEdge l.graph (g.nodeNumber e.caller) (g.nodeNumber e.callee) e.kind,
      l.numbers⟩ ⟨g.nodes, g.edges ++ [e]⟩ where
  wellFormed := h.wellFormed.join (by simp [Edge.ends, hcaller, hcallee]) hnew
  number_iff := h.number_iff
  holds := by
    have hedges : (g.edges ++ [e]).map (numbered ⟨g.nodes, g.edges ++ [e]⟩) =
        g.edges.map (numbered g) ++ [numbered g e] := List.map_append
    rw [hedges]
    exact .addEdge e.kind h.holds (nodeNumber_lt hcaller) (nodeNumber_lt hcallee)

/-- Adding an edge keeps the two in step, and both say alike whether it is new. -/
theorem addEdge (hs : s.Lawful) (e : Edge) :
    Represents s (l.addEdge s e).1 (g.addEdge e).1 ∧ (l.addEdge s e).2 = (g.addEdge e).2 := by
  obtain ⟨hfirst, hsource⟩ := h.node hs e.caller
  obtain ⟨hboth, htarget⟩ := hfirst.node hs e.callee
  have hmem : e.caller ∈ (g.addNode e.caller).nodes := mem_nodes_addNode.2 (Or.inr rfl)
  have hcaller : e.caller ∈ ((g.addNode e.caller).addNode e.callee).nodes :=
    mem_nodes_addNode.2 (Or.inl hmem)
  have hcallee : e.callee ∈ ((g.addNode e.caller).addNode e.callee).nodes :=
    mem_nodes_addNode.2 (Or.inr rfl)
  have hsource' : (l.node s e.caller).2 =
      ((g.addNode e.caller).addNode e.callee).nodeNumber e.caller :=
    hsource.trans (nodeNumber_addNode hmem).symm
  have hfind := hboth.findEdge? hs hcaller hcallee
  simp only [Linked.addEdge, CallGraph.addEdge, hsource', htarget, hfind]
  cases hjoins : ((g.addNode e.caller).addNode e.callee).joins e.caller e.callee with
  | true => exact ⟨hboth, rfl⟩
  | false => exact ⟨hboth.join hcaller hcallee hjoins, rfl⟩

theorem addEdges (hs : s.Lawful) (es : List Edge) :
    Represents s (l.addEdges s es) (g.addEdges es) := by
  induction es generalizing l g with
  | nil => exact h
  | cons e es ih => exact ih (h.addEdge hs e).1

/-! ### What they answer -/

theorem joins_eq (hs : s.Lawful) (caller callee : FunctionId) :
    l.joins s caller callee = g.joins caller callee := by
  have hnone : caller ∉ g.nodes ∨ callee ∉ g.nodes → g.joins caller callee = false := by
    intro hnot
    rw [← Bool.not_eq_true, joins_iff]
    rintro ⟨e, he, rfl, rfl⟩
    exact hnot.elim (· (h.wellFormed.caller_mem he)) (· (h.wellFormed.callee_mem he))
  unfold Linked.joins
  by_cases hcaller : caller ∈ g.nodes
  · by_cases hcallee : callee ∈ g.nodes
    · rw [h.number_of_mem hcaller, h.number_of_mem hcallee]
      exact h.findEdge? hs hcaller hcallee
    · rw [h.number_of_not_mem hcallee, hnone (Or.inr hcallee)]
      cases l.numbers[caller]? <;> rfl
  · rw [h.number_of_not_mem hcaller, hnone (Or.inl hcaller)]

theorem edgesFrom_eq (hs : s.Lawful) (caller : FunctionId) :
    l.edgesFrom s caller = g.edgesFrom caller := by
  unfold Linked.edgesFrom
  by_cases hcaller : caller ∈ g.nodes
  · have hfrom : (g.edges.map (numbered g)).filter (·.1 == g.nodeNumber caller) =
        (g.edgesFrom caller).map (numbered g) := by
      rw [List.filter_map, CallGraph.edgesFrom]
      refine congrArg _ (List.filter_congr fun e he ↦ ?_)
      rw [Bool.eq_iff_iff, Function.comp_apply, beq_iff_eq, beq_iff_eq]
      exact nodeNumber_inj (h.wellFormed.caller_mem he)
    rw [h.number_of_mem hcaller]
    dsimp only
    rw [hs.outgoing_eq h.holds (nodeNumber_lt hcaller), List.map_reverse, List.reverse_reverse,
      hfrom, List.map_map, List.map_map]
    refine (List.map_congr_left fun e he ↦ ?_).trans (List.map_id _)
    obtain ⟨hmem, hcaller'⟩ := List.mem_filter.1 he
    obtain rfl := beq_iff_eq.1 hcaller'
    have hcallee := hs.weight_eq h.holds (getElem?_nodeNumber (h.wellFormed.callee_mem hmem))
    simp only [Function.comp_apply, numbered, hcallee, id_eq]
  · rw [h.number_of_not_mem hcaller, eq_comm]
    refine List.filter_eq_nil_iff.2 fun e he hcaller' ↦ ?_
    exact hcaller (beq_iff_eq.1 hcaller' ▸ h.wellFormed.caller_mem he)

/-- The functions in the map are the nodes. -/
theorem sorted_keys_eq : l.numbers.keys.mergeSort (· ≤ ·) = g.sortedNodes := by
  have hperm : l.numbers.keys.Perm g.nodes := by
    refine (List.perm_ext_iff_of_nodup Std.HashMap.nodup_keys h.wellFormed.nodes_nodup).2
      fun id ↦ ?_
    rw [Std.HashMap.mem_keys, Std.HashMap.mem_iff_isSome_getElem?]
    by_cases hid : id ∈ g.nodes
    · simp [h.number_of_mem hid, hid]
    · simp [h.number_of_not_mem hid, hid]
  rw [mergeSort_eq_sort Std.HashMap.nodup_keys, h.wellFormed.sortedNodes_eq,
    List.toFinset_eq_of_perm _ _ hperm]

theorem edges_eq (hs : s.Lawful) : l.edges s = g.edgesByCaller := by
  rw [Linked.edges, h.sorted_keys_eq, edgesByCaller, funext (h.edgesFrom_eq hs)]

/-- A graph over a library answers as the graph does that it stands for. -/
theorem answers_eq (hs : s.Lawful) : l.answers s = g.answers := by
  have hadds : (fun e ↦ (l.addEdge s e).2) = fun e ↦ (g.addEdge e).2 :=
    funext fun e ↦ (h.addEdge hs e).2
  have hjoins : l.joins s = g.joins := funext fun a ↦ funext fun b ↦ h.joins_eq hs a b
  have hcount : s.edgeCount l.graph = g.edges.length :=
    (hs.edgeCount_eq h.holds).trans (List.length_map _)
  simp only [Linked.answers, CallGraph.answers, hadds, hjoins, funext (h.edgesFrom_eq hs),
    h.edges_eq hs, hcount, hs.nodeCount_eq h.holds]

end Represents

theorem represents_empty (s : Library G) : Represents s (empty s) {} where
  wellFormed := wellFormed_empty
  number_iff := by simp [empty]
  holds := .empty

/-- **Graphs made by additions.** Whatever edges are added to a new graph, in whatever order, its
answers are told by the list of them: whether a further edge is new, which functions are joined, the
edges from each function in the order in which its callees were first added and with the kinds that
they then had, all edges by their callers in increasing order, and the two counts. A graph that a
library keeps by numbers gives the same answers, and its numbers are inverse to the order in which
the functions were first mentioned. -/
theorem answers_addEdges (hs : s.Lawful) (es : List Edge) :
    (({} : CallGraph).addEdges es).answers.IsAfter es ∧
      ((empty s).addEdges s es).answers s = (({} : CallGraph).addEdges es).answers ∧
      ∀ (id : FunctionId) (n : Nat), ((empty s).addEdges s es).numbers[id]? = some n ↔
        (({} : CallGraph).addEdges es).nodes[n]? = some id := by
  have h := (represents_empty s).addEdges hs es
  exact ⟨answers_isAfter es, h.answers_eq hs, h.number_iff⟩

end Linked

/-! A library of the simplest kind, and additions with an edge from a function to itself, a pair
that comes again with another kind, and callers in turns. -/

namespace Library

/-- A library that keeps its nodes in a list and its edges in another one, the latest first. -/
def lists : Library (List FunctionId × List (Nat × Nat × CallKind)) where
  empty := ([], [])
  addNode g id := ((g.1 ++ [id], g.2), g.1.length)
  addEdge g i j kind := (g.1, (i, j, kind) :: g.2)
  weight g i := g.1.getD i 0
  findEdge? g i j := g.2.findIdx? fun e ↦ e.1 == i && e.2.1 == j
  outgoing g i := (g.2.filter (·.1 == i)).map (·.2)
  nodeCount g := g.1.length
  edgeCount g := g.2.length

theorem eq_of_holds_lists {g : List FunctionId × List (Nat × Nat × CallKind)}
    {ids : List FunctionId} {es : List (Nat × Nat × CallKind)} (h : lists.Holds g ids es) :
    g = (ids, es.reverse) := by
  induction h with
  | empty => rfl
  | addNode id _ ih => rw [ih]; rfl
  | addEdge kind _ _ _ ih => rw [ih, List.reverse_append]; rfl

theorem lists_lawful : lists.Lawful where
  addNode_snd h id := by rw [eq_of_holds_lists h]; rfl
  weight_eq h i id hi := by
    rw [eq_of_holds_lists h]
    exact List.getD_eq_getElem?_getD.trans (congrArg (Option.getD · 0) hi)
  isSome_findEdge?_iff h i j _ _ := by
    rw [eq_of_holds_lists h]
    simp [lists]
  outgoing_eq h i _ := by
    rw [eq_of_holds_lists h, ← List.map_reverse, ← List.filter_reverse]
    rfl
  nodeCount_eq h := by rw [eq_of_holds_lists h]; rfl
  edgeCount_eq h := by
    rw [eq_of_holds_lists h]
    exact List.length_reverse

end Library

theorem Linked.answers_addEdges_inTurns :
    let es : List Edge := [⟨3, 1, .direct⟩, ⟨1, 3, .reference⟩, ⟨3, 3, .functionLiteral⟩,
      ⟨3, 1, .reference⟩, ⟨0, 3, .direct⟩, ⟨3, 0, .reference⟩]
    Library.lists.Lawful ∧
      ((({} : CallGraph).addEdges es).answers.IsAfter es ∧
        ((empty Library.lists).addEdges Library.lists es).answers Library.lists =
          (({} : CallGraph).addEdges es).answers ∧
        ∀ (id : FunctionId) (n : Nat),
          ((empty Library.lists).addEdges Library.lists es).numbers[id]? = some n ↔
            (({} : CallGraph).addEdges es).nodes[n]? = some id) ∧
      (({} : CallGraph).addEdges es).answers.edgesFrom 3 =
        [⟨3, 1, .direct⟩, ⟨3, 3, .functionLiteral⟩, ⟨3, 0, .reference⟩] ∧
      (({} : CallGraph).addEdges es).nodes = [3, 1, 0] := by
  intro es
  exact ⟨Library.lists_lawful, answers_addEdges Library.lists_lawful es, by decide, by decide⟩

end RenderTrace.CallGraph
