import RenderTrace.Proofs.Function.Declared
import RenderTrace.Proofs.Syntax.Sample
import RenderTrace.Proofs.Syntax.Way

/-!
# What the index says about where a function stands

The walk that indexes a unit keeps what is around a node in a context, which it hands down. Here
this is compared with the tree: the index has one function for each way to a declaration, in the
order of the ways, and the context of each is that of the nodes on its way (`Index.build_covers`).

Two invariants carry the induction. What was found agrees with the ways gone (`Index.Tracks`), and
the context agrees with the nodes above (`Index.Around`). The number of the function around is the
one part of a context that the nodes do not tell by themselves: it stands for a way gone before, to
a function with a body (`Index.Numbers`).
-/

namespace RenderTrace

open Syntax

/-- A unit as one tree. -/
def Syntax.SourceUnit.tree (u : SourceUnit) : Node := .list [u.attributes, u.items]

namespace Index

/-- A number stands for a way where `ways` lead to the functions of an index, and the function has a
body. No number stands for no way. -/
inductive Numbers (ways : List Way) (s : Index) : Option FunctionId → Option Way → Prop
  | outside : Numbers ways s none none
  | inside {j : FunctionId} {v : Way} {f : Function} (way : ways[j]? = some v)
    (function : s.functions[j]? = some f) (hasBody : f.declaration.hasBody = true) :
    Numbers ways s (some j) (some v)

/-- What an index, to the functions of which `ways` lead, tells of its function `i` is what stands
at the end of a way. -/
structure Tells (o : Options) (root : Node) (ways : List Way) (s : Index) (i : Nat) (w : Way)
    (f : Function) : Prop where
  id : f.declaration.id = i
  /-- The function is declared by the node at the end of the way. -/
  node : ∃ k cs, root.at? w = some (.node k cs) ∧ Head.of? k cs = some f.head ∧
    (Node.node k cs).declaredKind? (root.enclosingAt? w).isSome = some f.declaration.kind ∧
    (f.declaration.kind ≠ .closure → f.declaration.localName = (Node.node k cs).declaredName)
  module : f.context.module = root.modulesAt w
  selfType : f.context.selfType = root.selfTypeAt w
  enclosing : Numbers ways s f.context.enclosing (root.enclosingAt? w)
  before : ∀ j, f.context.enclosing = some j → j < i
  /-- A path is told of what is neither a closure nor inside a function. -/
  sourcePath : f.sourcePath =
    if f.declaration.kind = .closure ∨ f.context.enclosing.isSome then none
    else some (f.context.module ++ f.context.selfType.toList ++ [f.declaration.localName])
  qualifiedName : f.declaration.qualifiedName =
    if f.declaration.kind = .closure ∨ f.context.enclosing.isSome then none
    else some ("::".intercalate (o.prefixSegments ++ (f.context.module ++
      f.context.selfType.toList ++ [f.declaration.localName])))

/-- The functions of an index are those to which some ways lead. -/
structure Tracks (o : Options) (root : Node) (ways : List Way) (s : Index) : Prop where
  size : s.functions.size = ways.length
  tells : ∀ {i : Nat} {f : Function}, s.functions[i]? = some f →
    ∃ w, ways[i]? = some w ∧ Tells o root ways s i w f

/-- A context says what is around the end of a way. -/
structure Around (root : Node) (ways : List Way) (s : Index) (w : Way) (ctx : Context) :
    Prop where
  module : ctx.module = root.modulesAt w
  selfType : ctx.selfType = Node.selfTypeIn ((root.above w).map (·.2))
  enclosing : Numbers ways s ctx.enclosing (root.enclosingAt? w)

variable {o : Options} {root n : Node} {ways vs : List Way} {w : Way} {s s' : Index}
  {ctx ctx' : Context} {i : Nat} {f : Function}

/-! ### Finding more -/

/-- An index has the functions of another one, and more behind them. -/
def Extends (s s' : Index) : Prop := s.functions.toList <+: s'.functions.toList

theorem Extends.getElem? (h : Extends s s') (hf : s.functions[i]? = some f) :
    s'.functions[i]? = some f := by
  obtain ⟨fs, hfs⟩ := h
  rw [← Array.getElem?_toList] at hf ⊢
  obtain ⟨hi, -⟩ := List.getElem?_eq_some_iff.1 hf
  rwa [← hfs, List.getElem?_append_left hi]

theorem extends_walk (o : Options) (ctx : Context) (n : Node) (s : Index) :
    Extends s (walk o ctx n s) := by
  obtain ⟨fs, hfs, -⟩ := (walk_adds o ctx n s).functions
  exact ⟨fs, hfs.symm⟩

theorem extends_record (o : Options) (ctx : Context) (d : Declared) (s : Index) :
    Extends s (record o ctx d s) :=
  ⟨[functionOf o ctx s.functions.size d], by simp [record]⟩

theorem Numbers.isSome_eq {e : Option FunctionId} {v : Option Way} (h : Numbers ways s e v) :
    e.isSome = v.isSome := by
  cases h <;> rfl

/-- The function of a number was found. -/
theorem Numbers.lt_size {j : FunctionId} {e : Option FunctionId} {v : Option Way}
    (h : Numbers ways s e v) (hj : e = some j) : j < s.functions.size := by
  cases h with
  | outside => cases hj
  | inside _ hfunction _ =>
    obtain rfl := Option.some.inj hj
    exact (Array.getElem?_eq_some_iff.1 hfunction).1

theorem Numbers.mono {e : Option FunctionId} {v : Option Way} (h : Numbers ways s e v)
    (hs : Extends s s') : Numbers (ways ++ vs) s' e v := by
  cases h with
  | outside => exact .outside
  | inside hway hfunction hbody =>
    obtain ⟨hj, -⟩ := List.getElem?_eq_some_iff.1 hway
    exact .inside (by rwa [List.getElem?_append_left hj]) (hs.getElem? hfunction) hbody

theorem Tells.mono (h : Tells o root ways s i w f) (hs : Extends s s') :
    Tells o root (ways ++ vs) s' i w f :=
  { h with enclosing := h.enclosing.mono hs }

theorem Around.mono (h : Around root ways s w ctx) (hs : Extends s s') :
    Around root (ways ++ vs) s' w ctx :=
  { h with enclosing := h.enclosing.mono hs }

/-- What is around a child of a node: the node itself, and what is around that. -/
theorem Around.concat (h : Around root ways s w ctx) (hat : root.at? w = some n)
    (hmodule : ctx'.module = ctx.module ++ n.moduleName?.toList)
    (hself : ctx'.selfType = Node.selfTypeIn (n :: (root.above w).map (·.2)))
    (henclosing : if n.declares then Numbers vs s' ctx'.enclosing (some w)
      else Numbers vs s' ctx'.enclosing (root.enclosingAt? w)) :
    Around root vs s' (w ++ [i]) ctx' where
  module := by rw [hmodule, h.module, Node.modulesAt_concat hat]
  selfType := by rw [hself, Node.above_concat hat, List.map_cons]
  enclosing := by
    rw [Node.enclosingAt?_concat hat]
    split at henclosing <;> simp_all

/-! ### One node -/

/-- A function is given a path if it is neither a closure nor inside a function. -/
theorem functionOf_sourcePath (o : Options) (ctx : Context) (id : FunctionId) (d : Declared) :
    (functionOf o ctx id d).sourcePath = if d.kind = .closure ∨ ctx.enclosing.isSome then none
      else some (ctx.module ++ ctx.selfType.toList ++ [d.name]) := by
  cases hinside : ctx.enclosing <;> by_cases hclosure : d.kind = .closure <;>
    simp [functionOf, hinside, hclosure]

/-- The qualified name is the path behind the prefix. -/
theorem functionOf_qualifiedName (o : Options) (ctx : Context) (id : FunctionId) (d : Declared) :
    (functionOf o ctx id d).declaration.qualifiedName =
      if d.kind = .closure ∨ ctx.enclosing.isSome then none
      else some ("::".intercalate (o.prefixSegments ++ (ctx.module ++ ctx.selfType.toList ++
        [d.name]))) := by
  have hmap : (functionOf o ctx id d).declaration.qualifiedName =
      (functionOf o ctx id d).sourcePath.map fun p ↦ "::".intercalate (o.prefixSegments ++ p) := rfl
  rw [hmap, functionOf_sourcePath, apply_ite (Option.map _)]
  rfl

/-- Recording what a node declares goes one way further. -/
theorem Tracks.record {d : Declared} {k : Kind} {cs : List Node} (h : Tracks o root ways s)
    (hctx : Around root ways s w ctx) (hat : root.at? w = some (.node k cs))
    (hhead : Head.of? k cs = some ⟨d.location, d.kind == .closure, d.body⟩)
    (hkind : (Node.node k cs).declaredKind? ctx.enclosing.isSome = some d.kind)
    (hname : d.kind ≠ .closure → d.name = (Node.node k cs).declaredName)
    (hmodule : ctx'.module = ctx.module) (hself : ctx'.selfType = root.selfTypeAt w)
    (henclosing : ctx'.enclosing = ctx.enclosing) :
    Tracks o root (ways ++ [w]) (record o ctx' d s) where
  size := by simp [Index.record, h.size]
  tells := by
    intro i f hf
    have hext := extends_record o ctx' d s
    have hpush : (Index.record o ctx' d s).functions =
        s.functions.push (functionOf o ctx' s.functions.size d) := rfl
    rw [hpush, Array.getElem?_push] at hf
    split at hf
    · next hi =>
      obtain rfl := Option.some.inj hf
      refine ⟨w, by simp [hi, h.size], ?_⟩
      exact {
        id := hi.symm
        node := ⟨k, cs, hat, hhead, by rwa [← hctx.enclosing.isSome_eq], hname⟩
        module := hmodule.trans hctx.module
        selfType := hself
        enclosing := henclosing ▸ hctx.enclosing.mono hext
        before := fun j hj ↦ hi ▸ hctx.enclosing.lt_size (henclosing ▸ hj)
        sourcePath := functionOf_sourcePath o ctx' _ d
        qualifiedName := functionOf_qualifiedName o ctx' _ d }
    · obtain ⟨v, hv, htells⟩ := h.tells hf
      obtain ⟨hlt, -⟩ := List.getElem?_eq_some_iff.1 hv
      exact ⟨v, by rwa [List.getElem?_append_left hlt], htells.mono hext⟩

/-- How the walk goes on below the node at the end of a way: the node adds its way if it declares a
function, and what it opens is walked in a context that says what is around. -/
structure Goes (o : Options) (root : Node) (ways : List Way) (w : Way) (n : Node) (next : Step) :
    Prop where
  tracks : Tracks o root (ways ++ if n.declares then [w] else []) next.index
  walks : ∀ i, next.walks i = n.opens i
  around : ∀ i, n.opens i = true →
    Around root (ways ++ if n.declares then [w] else []) next.index (w ++ [i]) next.context

/-- A node that declares no function leaves the index as it is. -/
theorem Goes.pass {walks : Nat → Bool} (h : Tracks o root ways s) (hctx : Around root ways s w ctx)
    (hat : root.at? w = some n) (hdeclares : n.declares = false)
    (hmodule : ctx'.module = ctx.module ++ n.moduleName?.toList)
    (hself : ctx'.selfType = Node.selfTypeIn (n :: (root.above w).map (·.2)))
    (henclosing : ctx'.enclosing = ctx.enclosing) (hwalks : ∀ i, walks i = n.opens i) :
    Goes o root ways w n ⟨ctx', walks, s⟩ where
  tracks := by simpa [hdeclares] using h
  walks := hwalks
  around i _ := by
    refine hctx.concat hat hmodule hself ?_
    rw [hdeclares, henclosing]
    simpa using hctx.enclosing

/-- A node that declares a function with a body opens the body, with the function around it. -/
theorem Goes.inside {d : Declared} {k : Kind} {cs : List Node} {at_ : Nat}
    (h : Tracks o root ways s) (hctx : Around root ways s w ctx)
    (hat : root.at? w = some (.node k cs))
    (hhead : Head.of? k cs = some ⟨d.location, d.kind == .closure, d.body⟩)
    (hkind : (Node.node k cs).declaredKind? ctx.enclosing.isSome = some d.kind)
    (hname : d.kind ≠ .closure → d.name = (Node.node k cs).declaredName)
    (hmodule : ctx'.module = ctx.module)
    (hself : ctx'.selfType = Node.selfTypeIn (.node k cs :: (root.above w).map (·.2)))
    (henclosing : ctx'.enclosing = ctx.enclosing) (hnone : (Node.node k cs).moduleName? = none)
    (hbody : d.body.isSome) (hopens : ∀ i, (i == at_) = (Node.node k cs).opens i) :
    Goes o root ways w (.node k cs) ⟨{ ctx' with enclosing := some s.functions.size },
      fun i ↦ i == at_, Index.record o ctx' d s⟩ := by
  have hdeclares : (Node.node k cs).declares = true := by
    rw [← Node.isSome_declaredKind? ctx.enclosing.isSome, hkind, Option.isSome_some]
  have hself' : ctx'.selfType = root.selfTypeAt w := by
    rw [hself, Node.selfTypeAt, hat]
    rfl
  have htracks := h.record hctx hat hhead hkind hname hmodule hself' henclosing
  constructor
  · simpa [hdeclares] using htracks
  · exact hopens
  · intro i _
    refine hctx.concat hat (by simp [hmodule, hnone]) hself ?_
    rw [hdeclares]
    exact .inside (by simp [h.size]) (f := functionOf o ctx' s.functions.size d)
      (by simp [Index.record]) hbody

/-- A node that declares a function without a body opens nothing. -/
theorem Goes.bare {d : Declared} {k : Kind} {cs : List Node}
    (h : Tracks o root ways s) (hctx : Around root ways s w ctx)
    (hat : root.at? w = some (.node k cs))
    (hhead : Head.of? k cs = some ⟨d.location, d.kind == .closure, d.body⟩)
    (hkind : (Node.node k cs).declaredKind? ctx.enclosing.isSome = some d.kind)
    (hname : d.kind ≠ .closure → d.name = (Node.node k cs).declaredName)
    (hself : ctx.selfType = root.selfTypeAt w)
    (hopens : ∀ i, (Node.node k cs).opens i = false) :
    Goes o root ways w (.node k cs) ⟨ctx, fun _ ↦ false, Index.record o ctx d s⟩ := by
  have hdeclares : (Node.node k cs).declares = true := by
    rw [← Node.isSome_declaredKind? ctx.enclosing.isSome, hkind, Option.isSome_some]
  constructor
  · simpa [hdeclares] using h.record hctx hat hhead hkind hname rfl hself rfl
  · exact fun i ↦ (hopens i).symm
  · intro i hi
    rw [hopens] at hi
    cases hi

/-- What a node contributes agrees with the tree. -/
theorem enter_goes {k : Kind} {cs : List Node} (h : Tracks o root ways s)
    (hctx : Around root ways s w ctx) (hat : root.at? w = some (.node k cs)) :
    Goes o root ways w (.node k cs) (enter o ctx (.node k cs) s) := by
  unfold enter
  split
  case h_1 heq => -- a module
    cases heq
    exact .pass h hctx hat rfl rfl hctx.selfType rfl fun _ ↦ rfl
  case h_2 heq => -- an implementation
    cases heq
    exact .pass h hctx hat rfl (List.append_nil _).symm rfl rfl fun _ ↦ rfl
  case h_3 heq => -- a trait
    cases heq
    exact .pass h hctx hat rfl (List.append_nil _).symm rfl rfl fun _ ↦ rfl
  case h_4 heq => -- a function, which is a member of nothing if it is inside another one
    cases heq
    have hself (a b c d : Node) : Node.selfTypeIn (.node .itemFn [a, b, c, d] ::
        (root.above w).map (·.2)) = if ctx.enclosing.isSome then none else ctx.selfType := by
      rw [hctx.enclosing.isSome_eq, Node.isSome_enclosingAt?, hctx.selfType]
      rfl
    split
    · next hinside =>
      exact .inside h hctx hat rfl (by rw [hinside]; rfl) (fun _ ↦ rfl) rfl
        (by rw [hself, if_pos hinside]) rfl rfl rfl fun _ ↦ rfl
    · next houtside =>
      rw [Bool.not_eq_true] at houtside
      exact .inside h hctx hat rfl (by rw [houtside]; rfl) (fun _ ↦ rfl) rfl
        (by rw [hself, houtside]; rfl) rfl rfl rfl fun _ ↦ rfl
  case h_5 heq => -- a method
    cases heq
    exact .inside h hctx hat rfl rfl (fun _ ↦ rfl) rfl hctx.selfType rfl rfl rfl fun _ ↦ rfl
  case h_6 attrs sig body semi heq => -- a method of a trait, with a body or without
    cases heq
    have hhead (b : Option Node) (hb : (if body.isAbsent then none else some body) = b) :
        Head.of? .traitFn [attrs, sig, body, semi] = some (Head.ofSignature sig b) :=
      congrArg (some <| Head.ofSignature sig ·) hb
    split
    · next hbody =>
      refine .bare h hctx hat (hhead _ (if_pos hbody)) ?_ (fun _ ↦ rfl)
        (by rw [hctx.selfType, Node.selfTypeAt, hat]; rfl) fun i ↦ ?_
      · simp [Node.declaredKind?, hbody, declaredBy]
      · simp [Node.opens, hbody]
    · next hbody =>
      refine .inside h hctx hat (hhead _ (if_neg hbody)) ?_ (fun _ ↦ rfl) rfl hctx.selfType rfl rfl
        rfl fun i ↦ ?_
      · simp [Node.declaredKind?, hbody, declaredBy]
      · simp [Node.opens, hbody]
  case h_7 heq => -- a foreign function
    cases heq
    exact .bare h hctx hat rfl rfl (fun _ ↦ rfl)
      (by rw [hctx.selfType, Node.selfTypeAt, hat]; rfl) fun _ ↦ rfl
  case h_8 heq => -- a closure, which declares a function if it is marked
    cases heq
    split
    · next hmarked =>
      refine .inside h hctx hat rfl ?_ (fun hclosure ↦ absurd rfl hclosure) rfl hctx.selfType rfl
        rfl rfl fun i ↦ ?_
      · exact if_pos hmarked
      · simp [Node.opens, hmarked]
    · next hmarked =>
      refine .pass h hctx hat ?_ (List.append_nil _).symm hctx.selfType rfl fun i ↦ ?_
      · simp [Node.declares, Node.declaredKind?, hmarked]
      · simp [Node.opens, hmarked]
  case h_9 => -- any other node
    refine .pass h hctx hat ?_ ?_ ?_ rfl fun i ↦ ?_
    · unfold Node.declares Node.declaredKind?
      split <;> first | rfl | grind
    · unfold Node.moduleName?
      split <;> first | rfl | grind
    · rw [hctx.selfType]
      conv_rhs => unfold Node.selfTypeIn
      split <;> first | rfl | grind
    · unfold Node.opens
      split <;> first | rfl | grind

/-! ### The whole walk -/

/-- The children of a node, from position `i` on, are walked as their ways go if each child is. -/
theorem Tracks.walkAll {m : Node} {walks : Nat → Bool}
    (hm : ∀ c ∈ m.children, ∀ {ways w s ctx}, Tracks o root ways s → Around root ways s w ctx →
      root.at? w = some c →
        Tracks o root (ways ++ c.declaredWays.map (w ++ ·)) (Index.walk o ctx c s))
    (hat : root.at? w = some m) (hwalks : ∀ i, walks i = m.opens i) (cs : List Node) (i : Nat)
    (hcs : ∀ j, cs[j]? = m.children[i + j]?)
    (hctx : ∀ i, m.opens i = true → Around root ways s (w ++ [i]) ctx)
    (h : Tracks o root ways s) :
    Tracks o root (ways ++ (Node.declaredWaysFrom m i cs).map (w ++ ·))
      (walkAll o ctx walks i cs s) := by
  induction cs generalizing i ways s with
  | nil => simpa [Node.declaredWaysFrom, Index.walkAll] using h
  | cons c cs ih =>
    rw [Node.declaredWaysFrom, Index.walkAll, List.map_append, ← List.append_assoc]
    have hc : m.children[i]? = some c := (hcs 0).symm
    have hrest : ∀ j, cs[j]? = m.children[i + 1 + j]? := fun j ↦ by
      rw [Nat.add_assoc, Nat.add_comm 1 j]
      exact hcs (j + 1)
    by_cases hopen : m.opens i = true
    · rw [hwalks, if_pos hopen, if_pos hopen]
      have hat' : root.at? (w ++ [i]) = some c := by rw [Node.at?_concat, hat]; exact hc
      have hchild := hm c (List.mem_of_getElem? hc) h (hctx i hopen) hat'
      simp only [List.append_assoc, List.singleton_append] at hchild
      rw [List.map_map]
      -- behind this child the context says the same of an index with more functions
      exact ih (i + 1) hrest (fun j hj ↦ (hctx j hj).mono (extends_walk o ctx c s)) hchild
    · rw [hwalks, if_neg hopen, if_neg hopen, List.map_nil, List.append_nil]
      exact ih (i + 1) hrest hctx h

/-- What a walk finds in a tree is what stands at the ends of the ways into it. -/
theorem Tracks.walk (h : Tracks o root ways s) (hctx : Around root ways s w ctx)
    (hat : root.at? w = some n) :
    Tracks o root (ways ++ n.declaredWays.map (w ++ ·)) (walk o ctx n s) := by
  induction n using Node.induction generalizing ways w s ctx with
  | token | unread => simpa [Node.declaredWays, Index.walk] using h
  | group d cs ih =>
    rw [Node.declaredWays, Index.walk]
    refine .walkAll (m := .group d cs) (fun c hc ↦ ih c hc) hat (fun _ ↦ rfl) cs 0 ?_ ?_ h
    · exact fun j ↦ by rw [Nat.zero_add]; rfl
    · refine fun i _ ↦ hctx.concat hat (List.append_nil _).symm hctx.selfType ?_
      exact hctx.enclosing
  | node k cs ih =>
    have hgoes := enter_goes h hctx hat
    rw [Node.declaredWays, Index.walk, List.map_append, ← List.append_assoc]
    have hstart : (if (Node.node k cs).declares then [[]] else []).map (w ++ ·) =
        if (Node.node k cs).declares then [w] else [] := by
      split <;> simp
    rw [hstart]
    refine .walkAll (m := .node k cs) (fun c hc ↦ ih c hc) hat hgoes.walks cs 0 ?_ hgoes.around
      hgoes.tracks
    exact fun j ↦ by rw [Nat.zero_add]; rfl

/-- What was said about the functions does not matter. -/
theorem Tracks.of_functions (h : Tracks o root ways s) (hs : s'.functions = s.functions) :
    Tracks o root ways s' where
  size := hs ▸ h.size
  tells hf := by
    have hext : Extends s s' := by simp only [Extends, hs, List.prefix_rfl]
    obtain ⟨w, hw, htells⟩ := h.tells (hs ▸ hf)
    have htells' : Tells o root (ways ++ []) s' _ w _ := htells.mono hext
    exact ⟨w, hw, by rwa [List.append_nil] at htells'⟩

/-- The index of a unit has the functions to which the ways into the unit lead. -/
theorem build_tracks (o : Options) (u : SourceUnit) :
    Tracks o u.tree u.tree.declaredWays (build o u) := by
  have hempty : Tracks o u.tree [] {} := ⟨rfl, fun hf ↦ by simp at hf⟩
  have haround : Around u.tree [] {} [] {} := ⟨rfl, rfl, .outside⟩
  have hwalk := hempty.walk haround (n := u.tree) rfl
  simp only [List.nil_append, List.map_id'] at hwalk
  exact hwalk.of_functions rfl

/-- The index of a unit has exactly one function for each way to a declaration, numbered in the
order of the ways, and tells of each what stands at the end of its way and around it. A place names
the function that stands there, and nothing else. -/
theorem build_covers (o : Options) {u : SourceUnit} (hd : u.Distinct) :
    ∃ ways : List Way, ways.Pairwise (· < ·) ∧ (∀ w, w ∈ ways ↔ u.tree.DeclaresAt w) ∧
      Tracks o u.tree ways (build o u) ∧
      ∀ (l : Location) (i : FunctionId), (build o u).lookup l = some i ↔
        ∃ f, (build o u).functions[i]? = some f ∧ f.declaration.location = l := by
  refine ⟨u.tree.declaredWays, u.tree.declaredWays_pairwise, fun w ↦ Node.mem_declaredWays,
    build_tracks o u, fun l i ↦ ⟨exists_of_lookup (build_numbered o u), ?_⟩⟩
  rintro ⟨f, hf, rfl⟩
  exact lookup_location (build_numbered o u) (build_places_nodup hd) hf

open Quotation in
/-- A module with an implementation, whose method has a function inside it, and in that a marked
closure. -/
def nestedUnit : SourceUnit :=
  let closure := thunk 4 ["component"] (.word "x")
  let method : Node := .node .implFn [plain, .absent, .absent,
    .node .signature [.absent, .absent, .absent, .absent, .word "fn",
      .token .word "show" ⟨⟨2, 0⟩, ⟨2, 4⟩⟩, .absent, .group .paren [commas []], .absent, .absent],
    block [function 3 ["component"] "row" [] [value closure]]]
  let implementation : Node := .node .itemImpl [plain, .absent, .absent, .word "impl", .absent,
    .absent, .absent, .absent, .absent, .node .typePath [path false ["List"]],
    .group .brace [.list [method]]]
  unitOf [.node .itemMod [plain, .absent, .absent, .word "mod", .word "view",
    .group .brace [.list [implementation]], .absent]]

theorem build_covers_nestedUnit :
    nestedUnit.Distinct ∧ ∃ ways : List Way, ways.Pairwise (· < ·) ∧
      Tracks {} nestedUnit.tree ways (build {} nestedUnit) ∧ ways.length = 3 := by
  have hd : nestedUnit.Distinct := by decide
  obtain ⟨ways, hsorted, -, htracks, -⟩ := build_covers {} hd
  have hsize : (build {} nestedUnit).functions.size = 3 := by decide +kernel
  exact ⟨hd, ways, hsorted, htracks, htracks.size ▸ hsize⟩

end Index

end RenderTrace
