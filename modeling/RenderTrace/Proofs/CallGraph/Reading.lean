import RenderTrace.Proofs.CallGraph.Standing
import RenderTrace.Proofs.Function.Parameters

/-!
# Reading macros without a depth

The walk over a body is told how deep to read into macros, and the depth is taken from the size of
the body. Here the depth goes away. Any two depths are the same that are enough for the macros of a
tree (`Site.sightings_eq_inBody`), so that what is met in a macro is what is met in its contents,
read as bodies of their own (`Site.inBody_eq_walk`). No macro can be read for ever, as one tree is
read out of another in finitely many steps only (`Site.wellFounded_isReadFrom`).

For the sites alone, in the order in which they are met, this gives one equation for each node: the
site that it makes, and then what is collected from its parts (`Site.collected_eq`). Only a call of
a path is a case of its own, as the path is not collected once more (`Site.collected_call`).
-/

namespace RenderTrace

open Syntax

namespace Syntax.Node

variable {w : Nat} {n m : Node}

/-- The macros of a node that stands in a tree are macros of the tree. -/
theorem Within.inside (h : n.Within w) (hm : m.Inside n) : m.Within w := by
  induction hm with
  | refl => exact h
  | group hc _ ih => exact ih (allWithin_iff.1 h _ hc)
  | node hc _ ih => exact ih (allWithin_iff.1 h.2 _ hc)

theorem Inside.trans {n' : Node} (h : n.Inside m) (h' : m.Inside n') : n.Inside n' := by
  induction h' with
  | refl => exact h
  | group hc _ ih => exact .group hc (ih h)
  | node hc _ ih => exact .node hc (ih h)

end Syntax.Node

namespace Site

variable {lookup : Location → Option FunctionId} {n : Node}

/-! ### One depth is as good as another -/

/-- What is met in a tree depends on how its macros are read, and on no others. -/
theorem walk_congr {expand expand' : Node → List Sighting}
    (h : ∀ ms, (Node.node .macroCall ms).Inside n →
      expand (.node .macroCall ms) = expand' (.node .macroCall ms)) :
    walk lookup expand n = walk lookup expand' n := by
  have hall : ∀ (cs : List Node), (∀ c ∈ cs, walk lookup expand c = walk lookup expand' c) →
      ∀ walks i, walkAll lookup expand walks i cs = walkAll lookup expand' walks i cs := by
    intro cs
    induction cs with
    | nil => exact fun _ _ _ ↦ rfl
    | cons c cs ih =>
      intro hcs walks i
      rw [walkAll, walkAll, hcs c List.mem_cons_self,
        ih (fun c hc ↦ hcs c (List.mem_cons_of_mem _ hc))]
  induction n using Node.induction with
  | token | unread => rfl
  | group d cs ih => exact hall cs (fun c hc ↦ ih c hc fun ms hms ↦ h ms (.group hc hms)) _ 0
  | node k cs ih =>
    have henter : enter lookup expand (.node k cs) = enter lookup expand' (.node k cs) := by
      cases hk : formOf k with
      | macroUse =>
        obtain rfl : k = .macroCall := by
          cases k <;> first | rfl | cases hk
        simp only [enter, hk, h cs (.refl _)]
      | _ => simp only [enter, hk]
    rw [walk, walk, henter,
      hall cs fun c hc ↦ ih c hc fun ms hms ↦ h ms (.node hc hms)]

/-- A depth that is enough for a tree is enough for what is read out of its macros, less one. -/
theorem within_of_macroContents? {depth : Nat} {ms : List Node} {contents : Node}
    (hn : (Node.node .macroCall ms).Within (depth + 1))
    (h : macroContents? (.node .macroCall ms) = some contents) : contents.Within depth := by
  rcases macroTokens_of_within hn with hnil | hfewer
  · obtain rfl := Option.some.inj ((macroContents?_of_nil hnil).symm.trans h)
    exact ⟨nofun, trivial⟩
  · exact (macroContents?_within h).mono (Nat.le_of_lt_succ hfewer)

theorem sightings_succ {depth : Nat} (hn : n.Within depth) :
    sightings lookup (depth + 1) n = sightings lookup depth n := by
  induction depth generalizing n with
  | zero =>
    refine walk_congr fun ms hms ↦ ?_
    have hnil := (macroTokens_of_within (hn.inside hms)).resolve_right (Nat.not_lt_zero _)
    rw [macroContents?_of_nil hnil]
    rfl
  | succ depth ih =>
    refine walk_congr fun ms hms ↦ ?_
    cases hcontents : macroContents? (.node .macroCall ms) with
    | none => rfl
    | some contents => exact ih (within_of_macroContents? (hn.inside hms) hcontents)

/-- Every depth that is enough gives what is met in a body. -/
theorem sightings_eq_inBody {depth : Nat} (hn : n.Within depth) :
    sightings lookup depth n = inBody lookup n := by
  have hmono {a b : Nat} (ha : n.Within a) (hab : a ≤ b) :
      sightings lookup b n = sightings lookup a n := by
    induction b, hab using Nat.le_induction with
    | base => rfl
    | succ b hab ih => rw [sightings_succ (ha.mono hab), ih]
  -- both depths give what the greater one of them does
  have hsize : n.Within (n.size + 1) := Node.within_of_size_le (Nat.le_succ _)
  rw [inBody, ← hmono hn (Nat.le_max_left depth (n.size + 1)),
    ← hmono hsize (Nat.le_max_right depth (n.size + 1))]

/-- What is met in a macro, read as deep as it goes. -/
def readOut (lookup : Location → Option FunctionId) (m : Node) : List Sighting :=
  match macroContents? m with
  | some contents => inBody lookup contents
  | none => [.unreadable (m.child 0).segmentNames]

/-- **What is met in a body**, without a depth. -/
theorem inBody_eq_walk (n : Node) : inBody lookup n = walk lookup (readOut lookup) n := by
  have hn : n.Within (n.size + 1) := Node.within_of_size_le (Nat.le_succ _)
  refine walk_congr fun ms hms ↦ ?_
  unfold readOut
  cases hcontents : macroContents? (.node .macroCall ms) with
  | none => rfl
  | some contents =>
    exact sightings_eq_inBody (within_of_macroContents? (hn.inside hms) hcontents)

/-! ### Reading comes to an end -/

/-- A tree is read out of a macro in another one. -/
def IsReadFrom (c n : Node) : Prop :=
  ∃ ms, (Node.node .macroCall ms).Inside n ∧ macroContents? (.node .macroCall ms) = some c

/-- No macros are read for ever. -/
theorem wellFounded_isReadFrom : WellFounded IsReadFrom := by
  have hacc (depth : Nat) : ∀ n : Node, n.Within depth → Acc IsReadFrom n := by
    induction depth with
    | zero =>
      -- the macros have no arguments, so that the empty sequence is read out of them
      intro n hn
      refine ⟨n, fun c ⟨ms, hms, hc⟩ ↦ ?_⟩
      have hnil := (macroTokens_of_within (hn.inside hms)).resolve_right (Nat.not_lt_zero _)
      obtain rfl := Option.some.inj ((macroContents?_of_nil hnil).symm.trans hc)
      refine ⟨_, fun c ⟨ms, hms, _⟩ ↦ ?_⟩
      cases hms with
      | node hmem => exact absurd hmem List.not_mem_nil
    | succ depth ih =>
      exact fun n hn ↦ ⟨n, fun c ⟨ms, hms, hc⟩ ↦
        ih c (within_of_macroContents? (hn.inside hms) hc)⟩
  exact ⟨fun n ↦ hacc n.size n (Node.within_of_size_le (Nat.le_refl _))⟩

/-! ### The sites of a tree, node by node -/

/-- The sites that are met in a tree, in order. -/
def collected (lookup : Location → Option FunctionId) (n : Node) : List Site :=
  sites (inBody lookup n)

theorem sites_append (found found' : List Sighting) :
    sites (found ++ found') = sites found ++ sites found' :=
  List.filterMap_append

theorem sites_walk (n : Node) : sites (walk lookup (readOut lookup) n) = collected lookup n := by
  rw [collected, inBody_eq_walk]

@[simp]
theorem collected_absent : collected lookup .absent = [] := rfl

theorem sites_walkAll_all (i : Nat) (cs : List Node) :
    sites (walkAll lookup (readOut lookup) (fun _ ↦ true) i cs) =
      cs.flatMap (collected lookup) := by
  induction cs generalizing i with
  | nil => rfl
  | cons c cs ih => rw [walkAll, if_pos rfl, sites_append, ih, sites_walk, List.flatMap_cons]

theorem sites_walkAll_none {walks : Nat → Bool} {i : Nat} (h : ∀ j, i ≤ j → walks j = false)
    (cs : List Node) : sites (walkAll lookup (readOut lookup) walks i cs) = [] := by
  induction cs generalizing i with
  | nil => rfl
  | cons c cs ih =>
    rw [walkAll, h i (Nat.le_refl i), if_neg Bool.false_ne_true, List.nil_append,
      ih fun j hj ↦ h j (Nat.le_of_succ_le hj)]

/-- Walking one part only, from a position on. -/
theorem sites_walkAll_one {walks : Nat → Bool} {i a : Nat}
    (h : ∀ j, walks (i + j) = true ↔ j = a) (cs : List Node) :
    sites (walkAll lookup (readOut lookup) walks i cs) =
      collected lookup (cs.getD a .absent) := by
  induction cs generalizing i a with
  | nil => rfl
  | cons c cs ih =>
    rw [walkAll, sites_append]
    cases a with
    | zero =>
      have hhead : walks i = true := (h 0).2 rfl
      have hrest : ∀ j, i + 1 ≤ j → walks j = false := by
        intro j hj
        rw [← Bool.not_eq_true, ← Nat.add_sub_cancel' (Nat.le_of_succ_le hj), h]
        omega
      rw [if_pos hhead, sites_walkAll_none hrest, List.append_nil, sites_walk]
      rfl
    | succ a =>
      have hhead : walks i ≠ true := fun hi ↦ Nat.succ_ne_zero a ((h 0).1 hi).symm
      rw [if_neg hhead, ih (a := a) fun j ↦ by rw [Nat.add_right_comm, Nat.add_assoc, h]; omega]
      rfl

/-- Walking two parts, in order. -/
theorem sites_walkAll_two {walks : Nat → Bool} {i a b : Nat} (hab : a < b)
    (h : ∀ j, walks (i + j) = true ↔ j = a ∨ j = b) (cs : List Node) :
    sites (walkAll lookup (readOut lookup) walks i cs) =
      collected lookup (cs.getD a .absent) ++ collected lookup (cs.getD b .absent) := by
  induction cs generalizing i a b with
  | nil => rfl
  | cons c cs ih =>
    obtain ⟨b, rfl⟩ := Nat.exists_eq_succ_of_ne_zero (Nat.ne_zero_of_lt hab)
    rw [walkAll, sites_append]
    cases a with
    | zero =>
      have hhead : walks i = true := (h 0).2 (Or.inl rfl)
      rw [if_pos hhead, sites_walk, sites_walkAll_one (a := b) fun j ↦ by
        rw [Nat.add_right_comm, Nat.add_assoc, h]; omega]
      rfl
    | succ a =>
      have hhead : walks i ≠ true := fun hi ↦ by
        have := (h 0).1 hi
        omega
      rw [if_neg hhead, ih (a := a) (b := b) (by omega) fun j ↦ by
        rw [Nat.add_right_comm, Nat.add_assoc, h]; omega]
      rfl

@[simp]
theorem collected_group (d : Delimiter) (cs : List Node) :
    collected lookup (.group d cs) = cs.flatMap (collected lookup) := by
  rw [collected, inBody_eq_walk, walk, sites_walkAll_all]

/-- A call collects the path that it calls once, as a call. -/
theorem collected_call {k : Kind} {cs : List Node} (hk : formOf k = .call) :
    collected lookup (.node k cs) =
      (match pathOf? (cs.getD 1 .absent) with
        | some segments => [.path segments .direct]
        | none => collected lookup (cs.getD 1 .absent)) ++
      collected lookup (cs.getD 2 .absent) := by
  rw [collected, inBody_eq_walk, walk]
  cases hpath : pathOf? (cs.getD 1 .absent) with
  | some segments =>
    simp only [enter, hk, hpath, sites_append]
    rw [sites_walkAll_one (a := 2) fun j ↦ by simp]
    rfl
  | none =>
    simp only [enter, hk, hpath, List.nil_append]
    exact sites_walkAll_two (by omega) (fun j ↦ by simp) cs

/-- **The sites of a node**: that which it makes, and then what is collected from its parts. -/
theorem collected_eq {k : Kind} {cs : List Node} (hk : formOf k ≠ .call) :
    collected lookup (.node k cs) = (madeBy? lookup (.node k cs)).toList ++
      (parts (isDeclared lookup) (.node k cs)).flatMap (collected lookup) := by
  rw [collected, inBody_eq_walk, walk]
  cases hform : formOf k with
  | call => exact absurd hform hk
  | methodCall =>
    simp only [enter, hform, madeBy?, parts, sites_append]
    rw [sites_walkAll_two (a := 1) (b := 5) (by omega) fun j ↦ by simp]
    simp [sites]
  | pathUse =>
    simp only [enter, hform, madeBy?, parts, sites_append]
    rw [sites_walkAll_none fun _ _ ↦ rfl]
    rfl
  | item =>
    simp only [enter, hform, madeBy?, parts, sites_append]
    rw [sites_walkAll_none fun _ _ ↦ rfl]
    rfl
  | other =>
    simp only [enter, hform, madeBy?, parts, List.nil_append, Option.toList_none]
    exact sites_walkAll_all 0 cs
  | macroUse =>
    simp only [enter, hform, madeBy?, parts, sites_append]
    rw [sites_walkAll_none fun _ _ ↦ rfl, readOut]
    cases macroContents? (.node k cs) with
    | none => rfl
    | some contents => simp [collected]
  | closure =>
    obtain rfl : k = .exprClosure := by
      cases k <;> first | rfl | cases hform
    rw [enter_closure]
    cases hdeclared : declared? lookup (.node .exprClosure cs) with
    | some id =>
      simp only [madeBy?, parts, hform, isDeclared, hdeclared, sites_append]
      rw [sites_walkAll_none fun _ _ ↦ rfl]
      rfl
    | none =>
      simp only [madeBy?, parts, hform, isDeclared, hdeclared, List.nil_append]
      exact sites_walkAll_all 0 cs

@[simp]
theorem collected_list (cs : List Node) :
    collected lookup (.list cs) = cs.flatMap (collected lookup) :=
  collected_eq (by decide)

end Site

end RenderTrace
