import RenderTrace.CallGraph.Resolution
import RenderTrace.Proofs.Syntax.Unread

/-!
# What stands in a body

The walk over a body collects sites in one go: it carries along how to find closures and how to read
macros, and it is told how deep to read. What it collects can be said without any of that. Some
nodes of a tree *stand* in it (`Site.Stands`): the tree itself, and from there on the parts in which
references count for the function around, the contents of macros among them, but not the insides of
closures that are shut. And some nodes make a site (`Site.madeBy?`): a path or a method call at the
expression that it is, a closure literal at the closure. The walk meets the sites that are made by
the nodes standing in the body if the declared closures are shut, and no others
(`Site.mem_inBody_iff`). The depth to which macros are read is no bound, as the macros that are read
out of a macro have fewer and fewer tokens.

Whether a path is called or named as a value is left out here (`Site.plain`); it means the same
functions either way.
-/

namespace RenderTrace

open Syntax

namespace Site

/-- A site, whatever use of a path it is. -/
def plain : Site → Site
  | .path segments _ => .path segments .reference
  | s => s

theorem resolve_plain (functions : List Function) (ctx : Context) (s : Site) :
    (s.plain.resolve functions ctx).1 = (s.resolve functions ctx).1 := by
  cases s <;> rfl

/-- The parts of a node in which references count for the function around it, if some closures are
shut. Besides items, the attributes and the generic arguments of calls, method calls and paths are
no parts. -/
def parts (shut : Node → Bool) : Node → List Node
  | .node k cs =>
    match formOf k with
    | .call => [cs.getD 1 .absent, cs.getD 2 .absent]
    | .methodCall => [cs.getD 1 .absent, cs.getD 5 .absent]
    | .pathUse | .item => []
    | .closure => if shut (.node k cs) then [] else cs
    | .macroUse => (macroContents? (.node k cs)).toList
    | .other => cs
  | .group _ cs => cs
  | _ => []

/-- A node stands in a tree. -/
inductive Stands (shut : Node → Bool) : Node → Node → Prop
  | refl (n : Node) : Stands shut n n
  | step {n c m : Node} : c ∈ parts shut n → Stands shut c m → Stands shut n m

variable (lookup : Location → Option FunctionId)

/-- The declared function that a node is, if it is a closure with a render marker. -/
def declared? (n : Node) : Option FunctionId :=
  if n.is .exprClosure && Marker.isRenderMarked n.outerAttributes then
    lookup n.closureBar.location
  else none

/-- A node is a closure that is declared. -/
def isDeclared (n : Node) : Bool := (declared? lookup n).isSome

/-- The site that a node makes. -/
def madeBy? : Node → Option Site
  | .node k cs =>
    match formOf k with
    | .pathUse => some (.path ((pathOf? (.node k cs)).getD []) .reference)
    | .methodCall => some (.method (cs.getD 3 .absent).text (isSelf (cs.getD 1 .absent)))
    | .closure => (declared? lookup (.node k cs)).map .literal
    | _ => none
  | _ => none

/-- A site is made somewhere in a tree. -/
def Made (n : Node) (s : Site) : Prop :=
  ∃ m, Stands (isDeclared lookup) n m ∧ madeBy? lookup m = some s

variable {lookup} {expand : Node → List Sighting} {s : Site}

theorem made_iff {n : Node} : Made lookup n s ↔
    madeBy? lookup n = some s ∨ ∃ c ∈ parts (isDeclared lookup) n, Made lookup c s := by
  constructor
  · rintro ⟨m, hstands, hm⟩
    cases hstands with
    | refl => exact Or.inl hm
    | step hc hrest => exact Or.inr ⟨_, hc, m, hrest, hm⟩
  · rintro (hn | ⟨c, hc, m, hstands, hm⟩)
    · exact ⟨n, .refl n, hn⟩
    · exact ⟨m, .step hc hstands, hm⟩

/-- Nothing is made in what has no parts and makes nothing. -/
theorem not_made {n : Node} (hmade : madeBy? lookup n = none)
    (hparts : parts (isDeclared lookup) n = []) : ¬ Made lookup n s := by
  rw [made_iff, hmade, hparts]
  simp

/-! ### One node -/

/-- The sites among what is met, whatever uses of paths they are. -/
def plainSites (found : List Sighting) : List Site := (sites found).map plain

@[simp]
theorem plainSites_nil : plainSites [] = [] := rfl

@[simp]
theorem plainSites_append (found found' : List Sighting) :
    plainSites (found ++ found') = plainSites found ++ plainSites found' := by
  simp [plainSites, sites]

@[simp]
theorem plainSites_site (s : Site) (found : List Sighting) :
    plainSites (.site s :: found) = s.plain :: plainSites found := rfl

theorem mem_walkAll_iff {walks : Nat → Bool} {i : Nat} {cs : List Node} :
    s ∈ plainSites (walkAll lookup expand walks i cs) ↔
      ∃ j c, cs[j]? = some c ∧ walks (i + j) = true ∧ s ∈ plainSites (walk lookup expand c) := by
  induction cs generalizing i with
  | nil => simp [walkAll]
  | cons c cs ih =>
    rw [walkAll, plainSites_append, List.mem_append, ih]
    constructor
    · rintro (hhead | ⟨j, c', hc', hwalks, hs⟩)
      · split at hhead
        · exact ⟨0, c, rfl, by simpa, hhead⟩
        · exact absurd hhead List.not_mem_nil
      · exact ⟨j + 1, c', hc', by rwa [Nat.add_right_comm] at hwalks, hs⟩
    · rintro ⟨j, c', hc', hwalks, hs⟩
      cases j with
      | zero =>
        obtain rfl := Option.some.inj hc'
        exact Or.inl (by rwa [if_pos (by simpa using hwalks)])
      | succ j => exact Or.inr ⟨j, c', hc', by rwa [Nat.add_right_comm], hs⟩

theorem mem_walkAll_all_iff {cs : List Node} :
    s ∈ plainSites (walkAll lookup expand (fun _ ↦ true) 0 cs) ↔
      ∃ c ∈ cs, s ∈ plainSites (walk lookup expand c) := by
  rw [mem_walkAll_iff]
  constructor
  · rintro ⟨j, c, hc, -, hs⟩
    exact ⟨c, List.mem_of_getElem? hc, hs⟩
  · rintro ⟨c, hc, hs⟩
    obtain ⟨j, hj⟩ := List.mem_iff_getElem?.1 hc
    exact ⟨j, c, hj, rfl, hs⟩

theorem not_mem_walkAll_none {i : Nat} {cs : List Node} :
    s ∉ plainSites (walkAll lookup expand (fun _ ↦ false) i cs) := by
  simp [mem_walkAll_iff]

/-- A node that is missing contributes nothing, so a part may as well be asked for by position. -/
theorem exists_getElem?_iff {cs : List Node} {i : Nat} :
    (∃ c, cs[i]? = some c ∧ s ∈ plainSites (walk lookup expand c)) ↔
      s ∈ plainSites (walk lookup expand (cs.getD i .absent)) := by
  have habsent : s ∉ plainSites (walk lookup expand .absent) := List.not_mem_nil
  rw [List.getD_eq_getElem?_getD]
  cases cs[i]? with
  | none => simpa using habsent
  | some c => simp

theorem mem_walkAll_two_iff {cs : List Node} {i j : Nat} :
    s ∈ plainSites (walkAll lookup expand (fun k ↦ k == i || k == j) 0 cs) ↔
      s ∈ plainSites (walk lookup expand (cs.getD i .absent)) ∨
        s ∈ plainSites (walk lookup expand (cs.getD j .absent)) := by
  simp only [mem_walkAll_iff, Nat.zero_add, Bool.or_eq_true, beq_iff_eq, ← exists_getElem?_iff]
  constructor
  · rintro ⟨k, c, hc, rfl | rfl, hs⟩
    · exact Or.inl ⟨c, hc, hs⟩
    · exact Or.inr ⟨c, hc, hs⟩
  · rintro (⟨c, hc, hs⟩ | ⟨c, hc, hs⟩)
    · exact ⟨i, c, hc, Or.inl rfl, hs⟩
    · exact ⟨j, c, hc, Or.inr rfl, hs⟩

/-- A call of a path meets it at once, and the walk goes on through the arguments only; it is the
same as going through what is called as well. -/
theorem mem_walk_call_iff {k : Kind} {cs : List Node} (hk : formOf k = .call) :
    s ∈ plainSites (walk lookup expand (.node k cs)) ↔
      s ∈ plainSites (walk lookup expand (cs.getD 1 .absent)) ∨
        s ∈ plainSites (walk lookup expand (cs.getD 2 .absent)) := by
  simp only [walk, enter, hk, plainSites_append, List.mem_append]
  split
  · next segments hpath =>
    obtain ⟨attrs, p, hcallee⟩ : ∃ attrs p, cs.getD 1 .absent = .node .exprPath [attrs, p] := by
      unfold pathOf? at hpath
      split at hpath
      · exact ⟨_, _, ‹_›⟩
      · cases hpath
    have hwalk : plainSites (walk lookup expand (cs.getD 1 .absent)) =
        [.path segments .reference] := by
      rw [hcallee] at hpath ⊢
      simp [walk, enter, formOf, hpath, walkAll, plain]
    have harguments : s ∈ plainSites (walkAll lookup expand (fun i ↦ i == 2) 0 cs) ↔
        s ∈ plainSites (walk lookup expand (cs.getD 2 .absent)) := by
      rw [mem_walkAll_iff, ← exists_getElem?_iff]
      simp
    simp only [plainSites_site, plainSites_nil, plain, harguments, hwalk]
  · simp only [plainSites_nil, List.not_mem_nil, false_or, mem_walkAll_two_iff]

/-- A closure is met as a literal if it is declared, and else the walk goes on through it. -/
theorem enter_closure (cs : List Node) :
    enter lookup expand (.node .exprClosure cs) =
      match declared? lookup (.node .exprClosure cs) with
      | some id => ⟨[.site (.literal id)], fun _ ↦ false⟩
      | none => ⟨[], fun _ ↦ true⟩ := by
  have his : (Node.node .exprClosure cs).is .exprClosure = true := rfl
  cases hmarked : Marker.isRenderMarked (Node.node .exprClosure cs).outerAttributes with
  | true =>
    cases hlookup : lookup (Node.node .exprClosure cs).closureBar.location <;>
      simp [enter, formOf, declared?, his, hmarked, hlookup]
  | false => simp [enter, formOf, declared?, hmarked]

theorem exists_mem_pair_iff {α : Type} {p : α → Prop} {a b : α} :
    (∃ c ∈ [a, b], p c) ↔ p a ∨ p b := by
  simp

/-- What the walk meets in a tree is what is made in it, given that it is so for the macros. -/
theorem mem_walk_iff {w : Nat} (hexpand : ∀ cs, (Node.node .macroCall cs).Within w →
      (s ∈ plainSites (expand (.node .macroCall cs)) ↔
        ∃ c ∈ (macroContents? (.node .macroCall cs)).toList, Made lookup c s)) {n : Node}
    (hn : n.Within w) : s ∈ plainSites (walk lookup expand n) ↔ Made lookup n s := by
  induction n using Node.induction with
  | token | unread => exact iff_of_false List.not_mem_nil (not_made rfl rfl)
  | group d cs ih =>
    have hparts : ∀ c ∈ cs, (s ∈ plainSites (walk lookup expand c) ↔ Made lookup c s) :=
      fun c hc ↦ ih c hc (Node.allWithin_iff.1 hn c hc)
    rw [walk, mem_walkAll_all_iff, made_iff]
    refine Iff.trans ?_ (or_iff_right nofun).symm
    exact exists_congr fun c ↦ and_congr_right fun hc ↦ hparts c hc
  | node k cs ih =>
    have hparts : ∀ c ∈ cs, (s ∈ plainSites (walk lookup expand c) ↔ Made lookup c s) :=
      fun c hc ↦ ih c hc (Node.allWithin_iff.1 hn.2 c hc)
    have hat : ∀ i, s ∈ plainSites (walk lookup expand (cs.getD i .absent)) ↔
        Made lookup (cs.getD i .absent) s := by
      intro i
      rw [List.getD_eq_getElem?_getD]
      cases hi : cs[i]? with
      | none => exact iff_of_false List.not_mem_nil (not_made rfl rfl)
      | some c => exact hparts c (List.mem_of_getElem? hi)
    rw [made_iff]
    cases hk : formOf k with
    | call =>
      simp only [mem_walk_call_iff hk, madeBy?, parts, hk, exists_mem_pair_iff, hat, reduceCtorEq,
        false_or]
    | methodCall =>
      simp only [walk, enter, hk, madeBy?, parts, plainSites_append, plainSites_site,
        plainSites_nil, plain, List.mem_append, List.mem_singleton, mem_walkAll_two_iff,
        exists_mem_pair_iff, hat, Option.some.injEq, eq_comm]
    | pathUse =>
      simp [walk, enter, hk, madeBy?, parts, not_mem_walkAll_none, plain, eq_comm]
    | item => simp [madeBy?, parts, hk, walk, enter, not_mem_walkAll_none]
    -- what a macro is read as is no part of the tree, so the induction does not reach it
    | macroUse =>
      obtain rfl : k = .macroCall := by
        cases k <;> first | rfl | cases hk
      simp only [walk, enter, hk, madeBy?, parts, plainSites_append, List.mem_append,
        not_mem_walkAll_none, or_false, hexpand cs hn, reduceCtorEq, false_or]
    | other =>
      simp only [walk, enter, hk, madeBy?, parts, List.nil_append, mem_walkAll_all_iff,
        reduceCtorEq, false_or]
      exact exists_congr fun c ↦ and_congr_right fun hc ↦ hparts c hc
    | closure =>
      obtain rfl : k = .exprClosure := by
        cases k <;> first | rfl | cases hk
      rw [walk, enter_closure]
      cases hdeclared : declared? lookup (.node .exprClosure cs) with
      | some id =>
        simp [madeBy?, parts, hk, isDeclared, hdeclared, not_mem_walkAll_none, plain, eq_comm]
      | none =>
        simp only [madeBy?, parts, hk, isDeclared, hdeclared, List.nil_append, mem_walkAll_all_iff,
          Option.map_none, reduceCtorEq, false_or, Option.isSome_none, Bool.false_eq_true, if_false]
        exact exists_congr fun c ↦ and_congr_right fun hc ↦ hparts c hc

/-! ### Macros, and a whole body -/

theorem macroTokens_of_within {w : Nat} {cs : List Node}
    (h : (Node.node .macroCall cs).Within w) :
    macroTokens (.node .macroCall cs) = [] ∨
      TokenTree.sizes (macroTokens (.node .macroCall cs)) < w := by
  unfold macroTokens
  split
  · next hmacro =>
    cases hmacro
    exact Or.inr (h.1 _ _ _ _ rfl rfl)
  · exact Or.inl rfl

/-- No tokens are read as an empty list. -/
theorem macroContents?_of_nil {n : Node} (h : macroTokens n = []) :
    macroContents? n = some (.list []) := by
  unfold macroContents?
  rw [h]
  rfl

/-- The macros in the contents of a macro have fewer tokens than it has. -/
theorem macroContents?_within {n contents : Node} (h : macroContents? n = some contents) :
    contents.Within (TokenTree.sizes (macroTokens n)) := by
  unfold macroContents? at h
  dsimp only at h
  split at h
  · next hread =>
    obtain rfl := Option.some.inj h
    exact Reader.within_of_run (Grammar.closed_reads Grammar.expressionList_reads) hread
  · split at h
    · next hread =>
      obtain rfl := Option.some.inj h
      exact Reader.within_of_run (Grammar.closed_reads Grammar.statements_reads) hread
    · cases h

theorem not_made_list_nil : ¬ Made lookup (.list []) s := not_made rfl rfl

/-- A depth is enough if the macros in a tree have at most as many tokens. -/
theorem mem_sightings_iff {depth : Nat} {n : Node} (hn : n.Within depth) :
    s ∈ plainSites (sightings lookup depth n) ↔ Made lookup n s := by
  induction depth generalizing n with
  | zero =>
    refine mem_walk_iff (fun cs hcs ↦ ?_) hn
    rw [macroContents?_of_nil ((macroTokens_of_within hcs).resolve_right (Nat.not_lt_zero _))]
    simpa using not_made_list_nil
  | succ depth ih =>
    refine mem_walk_iff (fun cs hcs ↦ ?_) hn
    cases hcontents : macroContents? (.node .macroCall cs) with
    | none => simp [plainSites, sites]
    | some contents =>
      have hwithin : contents.Within depth := by
        rcases macroTokens_of_within hcs with hnil | hfewer
        · rw [macroContents?_of_nil hnil] at hcontents
          obtain rfl := Option.some.inj hcontents
          exact ⟨nofun, trivial⟩
        · exact (macroContents?_within hcontents).mono (Nat.le_of_lt_succ hfewer)
      simpa using ih hwithin

/-- The walk over a body meets the sites that are made by what stands in it. -/
theorem mem_inBody_iff {b : Node} : s ∈ plainSites (inBody lookup b) ↔ Made lookup b s :=
  mem_sightings_iff (Node.within_of_size_le (Nat.le_succ _))

end Site

end RenderTrace
