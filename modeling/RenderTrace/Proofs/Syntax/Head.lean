import Mathlib.Data.List.GetD
import Mathlib.Data.List.Perm.Subperm
import RenderTrace.Syntax.Attribute

/-!
# The heads of a tree

Functions are found again in a tree by the place of the token that names them. Two walks meet such
places: the index, which records what a unit declares, and the injector, which rewrites bodies. They
agree on nothing but the tree, so what they have in common is said about the tree alone: a `Head` is
a function or a closure that stands somewhere in it, and `Node.heads` lists all of them, inner ones
first. The index records some of them (`Index.walk_adds`), the injector meets those that have a body
(`Injector.weave_yields`).

Inductions on trees go by `Node.induction`, which hands over the claim for all children at once, so
that functions that come in pairs, for a tree and for several trees, need one proof each.
-/

namespace RenderTrace.Syntax

/-- Induction on trees. -/
@[elab_as_elim]
theorem Node.induction {P : Node → Prop} (n : Node)
    (token : ∀ cls text span, P (.token cls text span)) (unread : ∀ trees, P (.unread trees))
    (group : ∀ d cs, (∀ c ∈ cs, P c) → P (.group d cs))
    (node : ∀ k cs, (∀ c ∈ cs, P c) → P (.node k cs)) : P n :=
  match n with
  | .token cls text span => token cls text span
  | .unread trees => unread trees
  | .group d cs => group d cs fun c _ ↦ c.induction token unread group node
  | .node k cs => node k cs fun c _ ↦ c.induction token unread group node

/-- A function or a closure in a tree. -/
structure Head where
  /-- Where its name stands, or its opening bar. -/
  place : Location
  isClosure : Bool
  body : Option Node

namespace Head

/-- The head of a function by its signature. -/
def ofSignature (sig : Node) (body : Option Node) : Head :=
  ⟨sig.signatureName.location, false, body⟩

/-- The head that a node is, by its kind and children. -/
def of? (k : Kind) (cs : List Node) : Option Head :=
  let at_ (i : Nat) : Node := cs.getD i .absent
  match k, cs.length with
  | .itemFn, 4 => some (ofSignature (at_ 2) (some (at_ 3)))
  | .implFn, 5 => some (ofSignature (at_ 3) (some (at_ 4)))
  | .traitFn, 4 => some (ofSignature (at_ 1) (if (at_ 2).isAbsent then none else some (at_ 2)))
  | .foreignFn, 4 => some (ofSignature (at_ 2) none)
  | .exprClosure, 11 => some ⟨(at_ 6).location, true, some (at_ 10)⟩
  | _, _ => none

/-- The position of the body among the children of a head. -/
def bodyAt : Kind → Nat
  | .itemFn => 3
  | .implFn => 4
  | .traitFn => 2
  | _ => 10

/-- Whatever keeps names, places and what is missing keeps heads, and acts on their bodies. -/
theorem of?_map {g : Node → Node} (hg : g .absent = .absent)
    (hname : ∀ n, (g n).signatureName.location = n.signatureName.location)
    (hlocation : ∀ n, (g n).location = n.location) (habsent : ∀ n, (g n).isAbsent = n.isAbsent)
    (k : Kind) (cs : List Node) :
    of? k (cs.map g) = (of? k cs).map fun h ↦ ⟨h.place, h.isClosure, h.body.map g⟩ := by
  have hat : ∀ i, (cs.map g).getD i .absent = g (cs.getD i .absent) := fun i ↦ by
    rw [← hg, List.getD_map, hg]
  simp only [of?, hat, List.length_map, ofSignature, hname, hlocation, habsent]
  split
  case h_3 => split <;> rfl
  all_goals rfl

/-- A head that has a body holds it at the position of bodies, and can be given another one. -/
theorem of?_body {k : Kind} {cs : List Node} {place : Location} {isClosure : Bool}
    {body : Node} (h : of? k cs = some ⟨place, isClosure, some body⟩) :
    cs[bodyAt k]? = some body ∧ ∀ b : Node, (isClosure = false → b.isAbsent = body.isAbsent) →
      of? k (cs.set (bodyAt k) b) = some ⟨place, isClosure, some b⟩ := by
  unfold of? at h
  split at h
  case h_1 hlength | h_2 hlength =>
    simp only [ofSignature, Option.some.injEq, Head.mk.injEq] at h
    obtain ⟨rfl, rfl, rfl⟩ := h
    refine ⟨by simp [bodyAt, hlength], fun b _ ↦ ?_⟩
    simp [of?, bodyAt, ofSignature, hlength]
  case h_3 hlength =>
    simp only [ofSignature, Option.some.injEq, Head.mk.injEq] at h
    obtain ⟨rfl, rfl, hbody⟩ := h
    split at hbody
    · cases hbody
    · next habsent =>
      obtain rfl := Option.some.inj hbody
      refine ⟨by simp [bodyAt, hlength], fun b hb ↦ ?_⟩
      have hpresent : b.isAbsent = false := by simpa using (hb rfl).trans (by simpa using habsent)
      simp [of?, bodyAt, ofSignature, hlength, hpresent]
  case h_5 hlength =>
    simp only [Option.some.injEq, Head.mk.injEq] at h
    obtain ⟨rfl, rfl, rfl⟩ := h
    refine ⟨by simp [bodyAt, hlength], fun b _ ↦ ?_⟩
    simp [of?, bodyAt, hlength]
  all_goals cases h

end Head

namespace Node

mutual

/-- The heads in a tree, inner ones first. -/
def heads : Node → List Head
  | .node k cs => headsAll cs ++ (Head.of? k cs).toList
  | .group _ cs => headsAll cs
  | _ => []

/-- The heads in several trees. -/
def headsAll : List Node → List Head
  | [] => []
  | c :: cs => heads c ++ headsAll cs

end

theorem mem_headsAll {h : Head} {cs : List Node} : h ∈ headsAll cs ↔ ∃ c ∈ cs, h ∈ c.heads := by
  induction cs with
  | nil => simp [headsAll]
  | cons c cs ih => simp [headsAll, ih]

theorem mem_heads_node {h : Head} {k : Kind} {cs : List Node} :
    h ∈ (Node.node k cs).heads ↔ h ∈ headsAll cs ∨ Head.of? k cs = some h := by
  rw [heads, List.mem_append, Option.mem_toList]

end Node

end RenderTrace.Syntax
