import RenderTrace.Function.Declaration
import RenderTrace.Proofs.Syntax.Head

/-!
# Ways into a tree

A node is told from equal ones by the way that leads to it: the positions of the children to go to,
from the top down (`Node.at?`). On the way lie the nodes around it (`Node.above`), and where a
function stands is told by them: the modules, the type and the function that it belongs to.

A tree declares the functions to which a way leads that leaves no node by a part that is shut
(`Node.DeclaresAt`). Of a function only the body is open, so neither its attributes and its
signature nor, for a marked closure, its parameters and its result; of a module, the contents. What
the grammar leaves unread, as the tokens of macros, is no part at all. `Node.declaredWays` lists
these ways from left to right and outer ones first, which is their order as lists.
-/

namespace RenderTrace.Syntax

/-- A way into a tree: the positions of the children to go to. -/
abbrev Way := List Nat

namespace Node

/-- The node that a way leads to. -/
def at? (n : Node) : Way → Option Node
  | [] => some n
  | i :: w => n.children[i]?.bind fun c ↦ c.at? w

/-- The nodes on a way before its end, innermost first, each with the way to it. -/
def above (n : Node) : Way → List (Way × Node)
  | [] => []
  | i :: w =>
    (n.children[i]?.toList.flatMap fun c ↦ (c.above w).map fun p ↦ (i :: p.1, p.2)) ++ [([], n)]

theorem at?_concat (n : Node) (w : Way) (i : Nat) :
    n.at? (w ++ [i]) = (n.at? w).bind fun m ↦ m.children[i]? := by
  induction w generalizing n with
  | nil => simp [at?]
  | cons j w ih => cases hj : n.children[j]? <;> simp [at?, hj, ih]

/-- What lies on a way that goes one step on. -/
theorem above_concat {n m : Node} {w : Way} (h : n.at? w = some m) (i : Nat) :
    n.above (w ++ [i]) = (w, m) :: n.above w := by
  induction w generalizing n with
  | nil =>
    obtain rfl := Option.some.inj h
    cases hi : n.children[i]? <;> simp [above, hi]
  | cons j w ih =>
    obtain ⟨c, hc, hat⟩ := Option.bind_eq_some_iff.1 h
    simp [above, hc, ih hat]

/-! ### Declarations -/

/-- The kind of the function that a node declares, inside another function or outside. A closure
declares one if it carries a render marker. -/
def declaredKind? (inside : Bool) (n : Node) : Option FunctionKind :=
  match n with
  | .node .itemFn [_, _, _, _] => some (if inside then .local else .item)
  | .node .implFn [_, _, _, _, _] => some .method
  | .node .traitFn [_, _, body, _] => some (if body.isAbsent then .traitRequired else .traitDefault)
  | .node .foreignFn [_, _, _, _] => some .foreign
  | .node .exprClosure [_, _, _, _, _, _, _, _, _, _, _] =>
    if Marker.isRenderMarked n.outerAttributes then some .closure else none
  | _ => none

/-- Whether a node declares a function. -/
def declares (n : Node) : Bool := (n.declaredKind? false).isSome

/-- The name in the signature of a function. -/
def declaredName : Node → String
  | .node .itemFn cs => (cs.getD 2 .absent).signatureName.text
  | .node .implFn cs => (cs.getD 3 .absent).signatureName.text
  | .node .traitFn cs => (cs.getD 1 .absent).signatureName.text
  | .node .foreignFn cs => (cs.getD 2 .absent).signatureName.text
  | _ => ""

/-- Whether the functions in a part of a node are declared. -/
def opens (n : Node) (i : Nat) : Bool :=
  match n with
  | .node .itemMod _ => i == 5
  | .node .itemFn [_, _, _, _] => i == 3
  | .node .implFn [_, _, _, _, _] => i == 4
  | .node .traitFn [_, _, body, _] => i == 2 && !body.isAbsent
  | .node .foreignFn [_, _, _, _] => false
  | .node .exprClosure [_, _, _, _, _, _, _, _, _, _, _] =>
    !Marker.isRenderMarked n.outerAttributes || i == 10
  | _ => true

/-- A way leads to a declared function: to a node that declares one, and not through a part that is
shut. -/
def DeclaresAt (n : Node) : Way → Prop
  | [] => n.declares = true
  | i :: w => n.opens i = true ∧ ∃ c, n.children[i]? = some c ∧ c.DeclaresAt w

/-- A node with the contents of a module has its name. -/
def moduleName? : Node → Option String
  | .node .itemMod cs => some (cs.getD 4 .absent).text
  | _ => none

/-- The type whose member something is, by the nodes around it, innermost first: that of the nearest
`impl` or trait, unless a function inside another one lies between. -/
def selfTypeIn : List Node → Option String
  | [] => none
  | n :: around =>
    match n with
    | .node .itemImpl cs => some (selfTypeName (cs.getD 9 .absent))
    | .node .itemTrait cs => some (cs.getD 5 .absent).text
    | .node .itemFn [_, _, _, _] => if around.any declares then none else selfTypeIn around
    | _ => selfTypeIn around

variable (root : Node) (w : Way)

/-- The modules around the end of a way, outermost first. -/
def modulesAt : List String := (root.above w).reverse.filterMap fun p ↦ p.2.moduleName?

/-- The type whose member the function at the end of a way is, the function itself counted. -/
def selfTypeAt : Option String :=
  selfTypeIn ((root.at? w).toList ++ (root.above w).map (·.2))

/-- The way to the nearest function around the end of a way. -/
def enclosingAt? : Option Way := ((root.above w).find? (·.2.declares)).map (·.1)

variable {root w} {n : Node} {i : Nat}

theorem modulesAt_concat (h : root.at? w = some n) :
    root.modulesAt (w ++ [i]) = root.modulesAt w ++ n.moduleName?.toList := by
  rw [modulesAt, above_concat h, List.reverse_cons, List.filterMap_append, modulesAt]
  cases hn : n.moduleName? <;> simp [hn]

theorem enclosingAt?_concat (h : root.at? w = some n) :
    root.enclosingAt? (w ++ [i]) = if n.declares then some w else root.enclosingAt? w := by
  rw [enclosingAt?, above_concat h, List.find?_cons, enclosingAt?]
  cases n.declares <;> rfl

/-- Something stands in a function if a node around it declares one. -/
theorem isSome_enclosingAt? :
    (root.enclosingAt? w).isSome = ((root.above w).map (·.2)).any declares := by
  rw [enclosingAt?, Option.isSome_map, Bool.eq_iff_iff, List.find?_isSome, List.any_map,
    List.any_eq_true]
  rfl

theorem isSome_declaredKind? (inside : Bool) (n : Node) :
    (n.declaredKind? inside).isSome = n.declares := by
  unfold declares declaredKind?
  split <;> rfl

/-! ### The ways to the functions of a tree -/

mutual

/-- The ways to the functions that a tree declares, in the order of the tree. -/
def declaredWays : Node → List Way
  | .node k cs =>
    (if (Node.node k cs).declares then [[]] else []) ++ declaredWaysFrom (.node k cs) 0 cs
  | .group d cs => declaredWaysFrom (.group d cs) 0 cs
  | _ => []

/-- The ways to the functions that children of a node declare, from position `i` on. -/
def declaredWaysFrom (n : Node) (i : Nat) : List Node → List Way
  | [] => []
  | c :: cs =>
    (if n.opens i then (declaredWays c).map (i :: ·) else []) ++ declaredWaysFrom n (i + 1) cs

end

theorem mem_declaredWaysFrom {cs : List Node} {v : Way} :
    v ∈ declaredWaysFrom n i cs ↔ ∃ j c t, cs[j]? = some c ∧ n.opens (i + j) = true ∧
      t ∈ c.declaredWays ∧ v = (i + j) :: t := by
  induction cs generalizing i with
  | nil => simp [declaredWaysFrom]
  | cons c cs ih =>
    rw [declaredWaysFrom, List.mem_append, ih]
    constructor
    · rintro (hhead | ⟨j, c', t, hc', hopen, ht, rfl⟩)
      · split at hhead
        · next hopen =>
          obtain ⟨t, ht, rfl⟩ := List.mem_map.1 hhead
          exact ⟨0, c, t, rfl, hopen, ht, rfl⟩
        · exact absurd hhead List.not_mem_nil
      · rw [Nat.add_assoc, Nat.add_comm 1 j] at hopen ⊢
        exact ⟨j + 1, c', t, hc', hopen, ht, rfl⟩
    · rintro ⟨j, c', t, hc', hopen, ht, rfl⟩
      cases j with
      | zero =>
        obtain rfl := Option.some.inj hc'
        exact Or.inl (by rw [if_pos (by simpa using hopen)]; exact List.mem_map_of_mem ht)
      | succ j =>
        refine Or.inr ⟨j, c', t, hc', ?_, ht, ?_⟩
        · rwa [Nat.add_assoc, Nat.add_comm 1 j]
        · rw [Nat.add_assoc, Nat.add_comm 1 j]

theorem mem_declaredWays {w : Way} : w ∈ n.declaredWays ↔ n.DeclaresAt w := by
  have hall : ∀ (m : Node), (∀ c ∈ m.children, ∀ {w}, w ∈ c.declaredWays ↔ c.DeclaresAt w) →
      ∀ {w}, w ∈ declaredWaysFrom m 0 m.children ↔ w ≠ [] ∧ m.DeclaresAt w := by
    intro m hm w
    rw [mem_declaredWaysFrom]
    simp only [Nat.zero_add]
    constructor
    · rintro ⟨j, c, t, hc, hopen, ht, rfl⟩
      exact ⟨List.cons_ne_nil _ _, hopen, c, hc, (hm c (List.mem_of_getElem? hc)).1 ht⟩
    · rintro ⟨hne, hw⟩
      cases w with
      | nil => exact absurd rfl hne
      | cons j t =>
        obtain ⟨hopen, c, hc, ht⟩ := hw
        exact ⟨j, c, t, hc, hopen, (hm c (List.mem_of_getElem? hc)).2 ht, rfl⟩
  induction n using Node.induction generalizing w with
  | token | unread => cases w <;> simp [declaredWays, DeclaresAt, declares, declaredKind?, children]
  | group d cs ih =>
    rw [declaredWays]
    refine (hall (.group d cs) fun c hc ↦ ih c hc).trans (and_iff_right_of_imp ?_)
    rintro h rfl
    cases h
  | node k cs ih =>
    rw [declaredWays, List.mem_append]
    refine (or_congr_right <| hall (.node k cs) fun c hc ↦ ih c hc).trans ?_
    cases w with
    | nil => simp [DeclaresAt]
    | cons i w => split <;> simp

/-- The ways stand in their order as lists, so each stands there once. -/
theorem declaredWays_pairwise (n : Node) : n.declaredWays.Pairwise (· < ·) := by
  have hall : ∀ (m : Node) (cs : List Node), (∀ c ∈ cs, c.declaredWays.Pairwise (· < ·)) →
      ∀ i, (declaredWaysFrom m i cs).Pairwise (· < ·) := by
    intro m cs
    induction cs with
    | nil => exact fun _ i ↦ List.Pairwise.nil
    | cons c cs ih =>
      intro hcs i
      rw [declaredWaysFrom]
      refine List.pairwise_append.2 ⟨?_, ih (fun c hc ↦ hcs c (List.mem_cons_of_mem _ hc)) _, ?_⟩
      · split
        · exact (hcs c List.mem_cons_self).map _ fun v v' h ↦ List.cons_lt_cons_self.2 h
        · exact List.Pairwise.nil
      · -- ways into the first child stand in front of those into later ones
        intro v hv v' hv'
        obtain ⟨j, c', t', -, -, -, rfl⟩ := mem_declaredWaysFrom.1 hv'
        split at hv
        · obtain ⟨t, -, rfl⟩ := List.mem_map.1 hv
          exact List.cons_lt_cons_iff.2 (Or.inl (by omega))
        · exact absurd hv List.not_mem_nil
  induction n using Node.induction with
  | token | unread => exact List.Pairwise.nil
  | group d cs ih => exact hall _ cs ih 0
  | node k cs ih =>
    rw [declaredWays]
    refine List.pairwise_append.2 ⟨?_, hall _ cs ih 0, ?_⟩
    · split
      · exact List.pairwise_singleton _ _
      · exact List.Pairwise.nil
    · -- the way to the node itself is a prefix of all others
      intro v hv v' hv'
      obtain ⟨j, c', t', -, -, -, rfl⟩ := mem_declaredWaysFrom.1 hv'
      split at hv
      · obtain rfl := List.mem_singleton.1 hv
        exact List.nil_lt_cons _ _
      · exact absurd hv List.not_mem_nil

end Node

end RenderTrace.Syntax
