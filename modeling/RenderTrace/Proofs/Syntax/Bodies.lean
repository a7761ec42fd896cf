import RenderTrace.Proofs.Syntax.Head

/-!
# Changes to bodies

A change that touches nothing but the bodies of heads, inner ones first: `Node.mapBodies f` puts
`f place isClosure body` in the place of each body. It keeps kinds, texts and places, and it acts on
heads as on trees. An injection is such a change, and so is leaving out what it may touch.
-/

namespace RenderTrace.Syntax.Node

variable (f : Location → Bool → Node → Node)

/-- The children of a node with a new body, if it is a head with a body. -/
def withBody (k : Kind) (cs : List Node) : List Node :=
  match Head.of? k cs with
  | some ⟨place, isClosure, some body⟩ => cs.set (Head.bodyAt k) (f place isClosure body)
  | _ => cs

mutual

/-- A tree with new bodies. -/
def mapBodies : Node → Node
  | .node k cs => .node k (withBody f k (mapBodiesAll cs))
  | .group d cs => .group d (mapBodiesAll cs)
  | n => n

/-- Several trees with new bodies. -/
def mapBodiesAll : List Node → List Node
  | [] => []
  | c :: cs => mapBodies c :: mapBodiesAll cs

end

variable {f}

theorem mapBodiesAll_eq_map (cs : List Node) : mapBodiesAll f cs = cs.map (mapBodies f) := by
  induction cs with
  | nil => rw [mapBodiesAll, List.map_nil]
  | cons c cs ih => rw [mapBodiesAll, ih, List.map_cons]

theorem mapBodies_node (k : Kind) (cs : List Node) :
    mapBodies f (.node k cs) = .node k (withBody f k (cs.map (mapBodies f))) := by
  rw [mapBodies, mapBodiesAll_eq_map]

theorem mapBodies_group (d : Delimiter) (cs : List Node) :
    mapBodies f (.group d cs) = .group d (cs.map (mapBodies f)) := by
  rw [mapBodies, mapBodiesAll_eq_map]

/-- Only children that can be a body change. -/
theorem withBody_getElem? (k : Kind) (cs : List Node) {i : Nat} (hi : i ≠ Head.bodyAt k) :
    (withBody f k cs)[i]? = cs[i]? := by
  unfold withBody
  split
  · exact List.getElem?_set_ne hi.symm
  · rfl

/-- A node that is no head keeps its children. -/
theorem withBody_of_none {k : Kind} {cs : List Node} (h : Head.of? k cs = none) :
    withBody f k cs = cs := by
  rw [withBody, h]

/-- Nodes of a kind that is no head are changed child by child. -/
theorem mapBodies_plain {k : Kind} (hk : ∀ cs, Head.of? k cs = none) (cs : List Node) :
    mapBodies f (.node k cs) = .node k (cs.map (mapBodies f)) := by
  rw [mapBodies_node, withBody_of_none (hk _)]

theorem kind?_mapBodies (n : Node) : (mapBodies f n).kind? = n.kind? := by
  cases n <;> rfl

theorem isAbsent_mapBodies (n : Node) : (mapBodies f n).isAbsent = n.isAbsent := by
  rw [Node.isAbsent, Node.is, kind?_mapBodies]
  rfl

theorem location_mapBodies (n : Node) : (mapBodies f n).location = n.location := by
  cases n <;> rfl

theorem text_mapBodies (n : Node) : (mapBodies f n).text = n.text := by
  cases n <;> rfl

theorem isToken_mapBodies (n : Node) : (mapBodies f n).isToken = n.isToken := by
  cases n <;> rfl

theorem mapBodies_absent : mapBodies f .absent = .absent := by
  simp [Node.absent, mapBodies_node, withBody, Head.of?]

theorem child_map_mapBodies (cs : List Node) (i : Nat) :
    (cs.map (mapBodies f)).getD i .absent = mapBodies f (cs.getD i .absent) := by
  rw [← mapBodies_absent, List.getD_map, mapBodies_absent]

/-- Children that are no bodies are changed in their place. -/
theorem child_mapBodies (n : Node) {i : Nat} (hi : ∀ k, i ≠ Head.bodyAt k) :
    (mapBodies f n).child i = mapBodies f (n.child i) := by
  cases n with
  | token cls text span => exact mapBodies_absent.symm
  | unread trees => exact mapBodies_absent.symm
  | group d cs =>
    rw [mapBodies_group]
    exact child_map_mapBodies cs i
  | node k cs =>
    rw [mapBodies_node, Node.child, Node.children, List.getD_eq_getElem?_getD,
      withBody_getElem? k _ (hi k), ← List.getD_eq_getElem?_getD]
    exact child_map_mapBodies cs i

theorem ne_bodyAt {i : Nat} (hi : i < 2 ∨ 4 < i ∧ i < 10) (k : Kind) : i ≠ Head.bodyAt k := by
  unfold Head.bodyAt
  split <;> omega

theorem signatureName_mapBodies (n : Node) :
    (mapBodies f n).signatureName.location = n.signatureName.location := by
  rw [Node.signatureName, child_mapBodies n (ne_bodyAt (by omega)), location_mapBodies]
  rfl

/-- A change of the children keeps the head, and acts on its body. -/
theorem of?_mapBodies (k : Kind) (cs : List Node) :
    Head.of? k (cs.map (mapBodies f)) = (Head.of? k cs).map fun h ↦
      ⟨h.place, h.isClosure, h.body.map (mapBodies f)⟩ :=
  Head.of?_map mapBodies_absent signatureName_mapBodies location_mapBodies isAbsent_mapBodies k cs

end RenderTrace.Syntax.Node
