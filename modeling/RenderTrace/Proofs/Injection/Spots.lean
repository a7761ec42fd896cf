import RenderTrace.Proofs.Function.Parameters
import RenderTrace.Proofs.Injection.Apply

/-!
# Functions by place, before a pass and behind it

What a run leaves behind is a unit again, and the next run knows its functions by place only. A
`Spot` is what the two runs have in common about a function or closure: its place, whether an index
may record it, and the form of its body, which tells of a block whether a tracker call begins it and
how many statements it has. `Injector.rewritten_shown` says what a pass makes of the spots of a
tree, in their order.

## What is hidden

The trees that a pass puts in hold closures too, and those stand where all generated tokens do, at
the very start (`Location.start`). They have no attributes, so no index records them, and nothing is
said about them: such a spot is hidden, and the laws are about the others.

## Expressions that are put into a block

Such an expression is read again, and what is read may have other functions than the expression had:
where a statement may begin, `if a { b } | |c| d` is two statements, the second a closure without
parameters. So the law about spots is under the condition that what is read has the spots that were
there (`Injector.readsBack`).
-/

namespace RenderTrace

open Syntax

namespace Injector

/-! ### Spots -/

/-- The form of a body. -/
inductive Form where
  /-- There is no body. -/
  | missing
  /-- The body of a closure that is no block. -/
  | expression
  /-- A block: whether it begins with a tracker call, and the number of its statements. -/
  | block (begun : Bool) (count : Nat)
  /-- No body that is read from a text. -/
  | other
  deriving DecidableEq, Repr

/-- The form of a block. -/
def formOfBlock : Node → Form
  | .node .block [.group _ [.node .list statements]] =>
    .block (statements.head?.any isTrackerCall) statements.length
  | _ => .other

/-- The form of the body of a head. -/
def formOf (h : Head) : Form :=
  match h.body with
  | none => .missing
  | some body =>
    if h.isClosure then (plainBlock? body).elim .expression formOfBlock else formOfBlock body

/-- A function or closure in a tree, as runs know it. -/
structure Spot where
  place : Location
  /-- A closure without attributes, which no index records. -/
  bare : Bool
  form : Form
  deriving DecidableEq, Repr

namespace Spot

/-- Whether a node is a closure without attributes. -/
def isBare (k : Kind) (cs : List Node) : Bool :=
  match k, cs with
  | .exprClosure, .node .list [] :: _ => true
  | _, _ => false

/-- The spot that a node is. -/
def of? (k : Kind) (cs : List Node) : Option Spot :=
  (Head.of? k cs).map fun h ↦ ⟨h.place, isBare k cs, formOf h⟩

/-- A spot at the very start that no index records. -/
def isHidden (s : Spot) : Bool := s.place == .start && s.bare

end Spot

end Injector

namespace Syntax

open Injector

namespace Node

mutual

/-- The spots in a tree, inner ones first. -/
def spots : Node → List Spot
  | .node k cs => spotsAll cs ++ (Spot.of? k cs).toList
  | .group _ cs => spotsAll cs
  | _ => []

/-- The spots in several trees. -/
def spotsAll : List Node → List Spot
  | [] => []
  | c :: cs => spots c ++ spotsAll cs

end

/-- The spots that are not hidden. -/
def shown (n : Node) : List Spot := n.spots.filter (!·.isHidden)

theorem spotsAll_eq_flatMap (cs : List Node) : spotsAll cs = cs.flatMap spots := by
  induction cs with
  | nil => rfl
  | cons c cs ih => rw [spotsAll, ih, List.flatMap_cons]

/-- Spots are heads, seen from afar. -/
theorem spots_map (n : Node) : n.spots.map (fun s ↦ (s.place, s.form)) =
    n.heads.map fun h ↦ (h.place, formOf h) := by
  have hall : ∀ cs : List Node,
      (∀ c ∈ cs, c.spots.map (fun s ↦ (s.place, s.form)) =
        c.heads.map fun h ↦ (h.place, formOf h)) →
      (spotsAll cs).map (fun s ↦ (s.place, s.form)) =
        (headsAll cs).map fun h ↦ (h.place, formOf h) := by
    intro cs hcs
    induction cs with
    | nil => rfl
    | cons c cs ih =>
      rw [spotsAll, headsAll, List.map_append, List.map_append, hcs c List.mem_cons_self,
        ih fun c hc ↦ hcs c (List.mem_cons_of_mem _ hc)]
  induction n using Node.induction with
  | token | unread => rfl
  | group d cs ih => exact hall cs ih
  | node k cs ih =>
    rw [spots, heads, List.map_append, List.map_append, hall cs ih, Spot.of?]
    cases Head.of? k cs <;> rfl

theorem spots_place (n : Node) : n.spots.map (·.place) = n.heads.map (·.place) := by
  have h := congrArg (List.map Prod.fst) (spots_map n)
  simpa [List.map_map, Function.comp_def] using h

/-! ### What is shown of a tree -/

@[simp] theorem shown_token (cls : TokenClass) (text : String) (span : Span) :
    (Node.token cls text span).shown = [] := rfl

@[simp] theorem shown_unread (ts : List TokenTree) : (Node.unread ts).shown = [] := rfl

@[simp] theorem shown_group (d : Delimiter) (cs : List Node) :
    (Node.group d cs).shown = cs.flatMap shown := by
  rw [shown, spots, spotsAll_eq_flatMap, List.filter_flatMap]
  rfl

theorem shown_node (k : Kind) (cs : List Node) : (Node.node k cs).shown =
    cs.flatMap shown ++ (Spot.of? k cs).toList.filter (!·.isHidden) := by
  rw [shown, spots, List.filter_append, spotsAll_eq_flatMap, List.filter_flatMap]
  rfl

/-- A node that is no head shows what its children show. -/
theorem shown_plain {k : Kind} (hk : ∀ cs, Head.of? k cs = none) (cs : List Node) :
    (Node.node k cs).shown = cs.flatMap shown := by
  rw [shown_node, Spot.of?, hk]
  simp

/-- A part of what shows nothing shows nothing. -/
theorem shown_of_mem_children {n c : Node} (hn : n.shown = []) (hc : c ∈ n.children) :
    c.shown = [] := by
  cases n with
  | token | unread => cases hc
  | group d cs =>
    rw [shown_group, List.flatMap_eq_nil_iff] at hn
    exact hn c hc
  | node k cs =>
    rw [shown_node, List.append_eq_nil_iff, List.flatMap_eq_nil_iff] at hn
    exact hn.1 c hc

theorem shown_child {n : Node} (hn : n.shown = []) (i : Nat) : (n.child i).shown = [] := by
  rw [child, List.getD_eq_getElem?_getD]
  cases hi : n.children[i]? with
  | none => rfl
  | some c => exact shown_of_mem_children hn (List.mem_of_getElem? hi)

/-- A tree without heads shows nothing. -/
theorem shown_of_heads_nil {n : Node} (h : n.heads = []) : n.shown = [] := by
  have hspots : n.spots = [] := by
    have hplaces := spots_place n
    rw [h, List.map_nil, List.map_eq_nil_iff] at hplaces
    exact hplaces
  rw [shown, hspots, List.filter_nil]

end Node

/-! ### Spots of a unit -/

namespace SourceUnit

/-- The spots of a unit that are not hidden. -/
def shown (u : SourceUnit) : List Spot := u.attributes.shown ++ u.items.shown

/-- The functions and closures of a unit stand at different places, and not where generated tokens
do, and their bodies are expressions or blocks of statements. -/
structure Settled (u : SourceUnit) : Prop where
  places : (u.shown.map (·.place)).Nodup
  notStart : ∀ s ∈ u.shown, s.place ≠ .start
  bodies : ∀ s ∈ u.shown, s.form ≠ .other

variable {u : SourceUnit}

theorem exists_head_of_shown {s : Spot} (h : s ∈ u.shown) :
    ∃ head ∈ u.heads, head.place = s.place ∧ formOf head = s.form := by
  have hnode : ∀ {n : Node}, s ∈ n.shown →
      ∃ head ∈ n.heads, head.place = s.place ∧ formOf head = s.form := by
    intro n hs
    have hpair : (s.place, s.form) ∈ n.heads.map fun h ↦ (h.place, formOf h) :=
      n.spots_map ▸ List.mem_map_of_mem (List.mem_of_mem_filter hs)
    obtain ⟨head, hhead, heq⟩ := List.mem_map.1 hpair
    exact ⟨head, hhead, (Prod.mk.inj heq).1, (Prod.mk.inj heq).2⟩
  rcases List.mem_append.1 h with h | h
  · obtain ⟨head, hhead, hsame⟩ := hnode h
    exact ⟨head, List.mem_append_left _ hhead, hsame⟩
  · obtain ⟨head, hhead, hsame⟩ := hnode h
    exact ⟨head, List.mem_append_right _ hhead, hsame⟩

/-- A head that does not stand at the start is shown. -/
theorem exists_shown_of_head {head : Head} (hhead : head ∈ u.heads) (hplace : head.place ≠ .start) :
    ∃ s ∈ u.shown, s.place = head.place ∧ s.form = formOf head := by
  have hnode : ∀ {n : Node}, head ∈ n.heads →
      ∃ s ∈ n.shown, s.place = head.place ∧ s.form = formOf head := by
    intro n hn
    have hpair : (head.place, formOf head) ∈ n.spots.map fun s ↦ (s.place, s.form) :=
      n.spots_map ▸ List.mem_map_of_mem (f := fun h ↦ (h.place, formOf h)) hn
    obtain ⟨s, hs, heq⟩ := List.mem_map.1 hpair
    obtain ⟨hsame, hform⟩ := Prod.mk.inj heq
    refine ⟨s, List.mem_filter.2 ⟨hs, ?_⟩, hsame, hform⟩
    simp [Spot.isHidden, hsame, hplace]
  rcases List.mem_append.1 hhead with hhead | hhead
  · obtain ⟨s, hs, hsame⟩ := hnode hhead
    exact ⟨s, List.mem_append_left _ hs, hsame⟩
  · obtain ⟨s, hs, hsame⟩ := hnode hhead
    exact ⟨s, List.mem_append_right _ hs, hsame⟩

/-- Away from the start, as many heads stand at a place as spots are shown there. -/
theorem count_heads_eq {l : Location} (hl : l ≠ .start) :
    (u.heads.map (·.place)).count l = (u.shown.map (·.place)).count l := by
  have hnode : ∀ n : Node, (n.heads.map (·.place)).count l = (n.shown.map (·.place)).count l := by
    intro n
    rw [← n.spots_place, Node.shown]
    induction n.spots with
    | nil => rfl
    | cons s spots ih =>
      rw [List.map_cons, List.count_cons, ih, List.filter_cons]
      cases hhidden : s.isHidden with
      | false => rw [Bool.not_false, if_pos rfl, List.map_cons, List.count_cons]
      | true =>
        have hplace : s.place ≠ l := by
          rintro rfl
          simp [Spot.isHidden, hl] at hhidden
        simp [hplace]
  rw [heads, shown, List.map_append, List.map_append, List.count_append, List.count_append,
    hnode, hnode]

/-- A unit whose declarations stand at different places, none of them at the start. -/
theorem settled_of_distinct (hd : u.Distinct)
    (hheads : ∀ h ∈ u.heads, h.place ≠ .start ∧ formOf h ≠ .other) : u.Settled where
  places := by
    rw [List.nodup_iff_count_le_one]
    intro l
    by_cases hl : l = .start
    · rw [List.count_eq_zero_of_not_mem]
      · omega
      rintro hmem
      obtain ⟨s, hs, hplace⟩ := List.mem_map.1 hmem
      obtain ⟨head, hhead, hsame, -⟩ := exists_head_of_shown hs
      exact (hheads head hhead).1 (hsame.trans (hplace.trans hl))
    · rw [← count_heads_eq hl]
      exact List.nodup_iff_count_le_one.1 hd l
  notStart s hs := by
    obtain ⟨head, hhead, hsame, -⟩ := exists_head_of_shown hs
    exact hsame ▸ (hheads head hhead).1
  bodies s hs := by
    obtain ⟨head, hhead, -, hform⟩ := exists_head_of_shown hs
    exact hform ▸ (hheads head hhead).2

/-- The spot of a head in a settled unit. -/
theorem Settled.form_eq (hsettled : u.Settled) {s : Spot} (hs : s ∈ u.shown) {head : Head}
    (hhead : head ∈ u.heads) (hplace : head.place = s.place) : formOf head = s.form := by
  obtain ⟨s', hs', hplace', hform⟩ :=
    exists_shown_of_head hhead (hplace ▸ hsettled.notStart s hs)
  obtain rfl : s' = s :=
    List.inj_on_of_nodup_map hsettled.places hs' hs (hplace'.trans hplace)
  exact hform.symm

/-- A node of a unit that is a head and no closure without attributes is shown. -/
theorem exists_shown_of_holds {k : Kind} {cs : List Node} (hholds : u.Holds (.node k cs))
    {head : Head} (hof : Head.of? k cs = some head) (hbare : Spot.isBare k cs = false) :
    ⟨head.place, false, formOf head⟩ ∈ u.shown := by
  have hspot : Spot.of? k cs = some ⟨head.place, false, formOf head⟩ := by
    rw [Spot.of?, hof, hbare]
    rfl
  have hinside : ∀ {n : Node}, (Node.node k cs).Inside n →
      ⟨head.place, false, formOf head⟩ ∈ n.shown := by
    intro n hn
    generalize hm : Node.node k cs = m at hn
    induction hn with
    | refl n =>
      subst hm
      rw [Node.shown_node, hspot]
      exact List.mem_append_right _ (by simp [Spot.isHidden])
    | group hc _ ih =>
      rw [Node.shown_group]
      exact List.mem_flatMap.2 ⟨_, hc, ih hm⟩
    | node hc _ ih =>
      rw [Node.shown_node]
      exact List.mem_append_left _ (List.mem_flatMap.2 ⟨_, hc, ih hm⟩)
  exact hholds.elim (fun h ↦ List.mem_append_left _ (hinside h))
    fun h ↦ List.mem_append_right _ (hinside h)

end SourceUnit

end Syntax

namespace Index

open Injector

variable {o : Options} {u : SourceUnit} {f : Function}

/-- What a node declares is no closure without attributes. -/
theorem isBare_of_mem_enter {ctx : Context} {k : Kind} {cs : List Node} {s : Index}
    (h : f ∈ (enter o ctx (.node k cs) s).index.functions) :
    f ∈ s.functions ∨ Spot.isBare k cs = false := by
  cases hbare : Spot.isBare k cs with
  | false => exact Or.inr rfl
  | true =>
    refine Or.inl ?_
    unfold Spot.isBare at hbare
    split at hbare
    · next rest =>
      unfold enter at h
      split at h
      case h_8 heq => -- a closure
        cases heq
        exact h
      case h_9 => exact h
      all_goals simp_all only [Node.node.injEq, reduceCtorEq, false_and]
    · cases hbare

/-- Every function of an index is shown. -/
theorem exists_shown (h : f ∈ (build o u).functions) :
    ⟨f.declaration.location, false, formOf f.head⟩ ∈ u.shown := by
  have hrecords := build_records (P := fun n f ↦ ∃ k cs, n = .node k cs ∧
    Head.of? k cs = some f.head ∧ Spot.isBare k cs = false) (u := u) (o := o) (f := f)
    (fun hmem ↦ by
      rcases enter_declares hmem with hold | hdeclares
      · exact Or.inl hold
      rcases isBare_of_mem_enter hmem with hold | hbare
      · exact Or.inl hold
      obtain ⟨k, cs, heq, hhead⟩ := hdeclares.head
      obtain ⟨rfl, rfl⟩ := Node.node.inj heq
      exact Or.inr ⟨_, _, rfl, hhead, hbare⟩) h
  obtain ⟨_, hholds, k, cs, rfl, hhead, hbare⟩ := hrecords
  exact SourceUnit.exists_shown_of_holds hholds hhead hbare

end Index

end RenderTrace
