import RenderTrace.Proofs.CallGraph.Unmarked
import RenderTrace.Proofs.Syntax.Sample

/-!
# Macros unfolded

A macro among the expressions or statements of a body can be replaced by what it is given: the tuple
of its arguments if they are expressions, or the block of its statements, or nothing
(`Site.standIn`). In what was read the macros are replaced in turn, and the render markers are left
out (`Site.unfolded`), as a closure that is read out of a macro is not found among the declared
functions. With as many levels as the body has parts, none of the macros is left
(`Site.macroFree_unfolded`).

This changes nothing about the sites: they are the same, in the same order, for whatever macros are
replaced and to whatever depth (`Site.transparent`). The markers that are left out are those without
a value. The value of a marker is an expression, and its sites are collected, so that it must stay;
and the index must not list a function at the place of a token that a macro is given, as the index
of another file might (`Site.not_sites_unfolded`).
-/

namespace RenderTrace

open Syntax

namespace Site

variable {lookup : Location → Option FunctionId} {n : Node} {drops chosen : Node → Bool}
  {inner : Node → Node}

/-- The macro that a node invokes as an expression or as a statement. -/
def invocation? : Kind → List Node → Option Node
  | .exprMacro, [.node .list _, .node .macroCall ms] => some (.node .macroCall ms)
  | .stmtMacro, [.node .list _, .node .macroCall ms, semicolon] =>
    if semicolon.isToken || semicolon.isAbsent then some (.node .macroCall ms) else none
  | _, _ => none

/-- The expression in the place of a macro: the tuple of its arguments if they are expressions, or
else the block of the statements that they are, or else nothing but the attributes in front. What
was read is handed over. -/
def standIn (inner : Node → Node) (attributes m : Node) : Node :=
  match (Grammar.closed Grammar.expressionList).run (macroTokens m) with
  | .ok es => .node .exprTuple [attributes, .group .paren [inner es]]
  | .error _ =>
    match (Grammar.closed Grammar.statements).run (macroTokens m) with
    | .ok ss => .node .exprBlock [attributes, .absent, .node .block [.group .brace [inner ss]]]
    | .error _ => .node .exprTuple [attributes, .group .paren [.list []]]

/-- A node, or what stands in for it if it invokes a macro that is chosen. -/
def spliced (chosen : Node → Bool) (inner : Node → Node) (k : Kind) (cs : List Node) : Node :=
  match invocation? k cs with
  | some m =>
    if chosen m then
      let e := standIn inner (cs.getD 0 .absent) m
      if k = .stmtMacro then .node .stmtExpr [e, cs.getD 2 .absent] else e
    else .node k cs
  | none => .node k cs

/-- A tree with the chosen macros unfolded to a depth, those in the tree first, and then those in
what stands in for them. What is read out of a macro loses some of its attributes. -/
def unfolded (drops chosen : Node → Bool) : Nat → Node → Node
  | 0 => id
  | depth + 1 => Node.recast (spliced chosen fun c ↦ unfolded drops chosen depth (c.unmarked drops))

/-- No chosen macro is invoked in a tree. -/
def MacroFree (chosen : Node → Bool) (n : Node) : Prop :=
  ∀ k cs, (Node.node k cs).Inside n → ∀ m, invocation? k cs = some m → chosen m = false

theorem invocation?_eq_some {k : Kind} {cs : List Node} {m : Node}
    (h : invocation? k cs = some m) : ∃ as ms, m = .node .macroCall ms ∧
      (k = .exprMacro ∧ cs = [.list as, m] ∨
        ∃ semicolon, k = .stmtMacro ∧ cs = [.list as, m, semicolon] ∧
          (semicolon.isToken || semicolon.isAbsent) = true) := by
  unfold invocation? at h
  split at h
  · obtain rfl := Option.some.inj h
    exact ⟨_, _, rfl, Or.inl ⟨rfl, rfl⟩⟩
  · split at h
    · next hend =>
      obtain rfl := Option.some.inj h
      exact ⟨_, _, rfl, Or.inr ⟨_, rfl, rfl, hend⟩⟩
    · cases h
  · cases h

/-! ### With macros unfolded -/

/-- What stands in for a macro, by what its arguments are read as. -/
theorem standIn_cases (inner : Node → Node) (attributes m : Node) :
    (∃ es, macroContents? m = some es ∧ standIn inner attributes m =
        .node .exprTuple [attributes, .group .paren [inner es]]) ∨
      (∃ ss, macroContents? m = some ss ∧ standIn inner attributes m =
        .node .exprBlock [attributes, .absent, .node .block [.group .brace [inner ss]]]) ∨
      macroContents? m = none ∧ standIn inner attributes m =
        .node .exprTuple [attributes, .group .paren [.list []]] := by
  unfold standIn macroContents?
  dsimp only
  cases (Grammar.closed Grammar.expressionList).run (macroTokens m) with
  | ok es => exact Or.inl ⟨es, rfl, rfl⟩
  | error _ =>
    cases (Grammar.closed Grammar.statements).run (macroTokens m) with
    | ok ss => exact Or.inr (Or.inl ⟨ss, rfl, rfl⟩)
    | error _ => exact Or.inr (Or.inr ⟨rfl, rfl⟩)

/-- A stand-in has the attributes in front, and no attributes among its other parts. -/
theorem exists_standIn (inner : Node → Node) (attributes m : Node) :
    ∃ k cs, standIn inner attributes m = .node k (attributes :: cs) ∧ k ∈ standIns ∧
      ∀ n ∈ cs, n.is .attr = false := by
  rcases standIn_cases inner attributes m with ⟨es, -, h⟩ | ⟨ss, -, h⟩ | ⟨-, h⟩
  all_goals exact ⟨_, _, h, by decide, by simp [Node.is, Node.kind?, Node.absent]⟩

theorem recasts_spliced (k : Kind) (cs : List Node) : Recasts k cs (spliced chosen inner k cs) := by
  unfold spliced
  split
  · next m h =>
    split
    · obtain ⟨as, ms, rfl, ⟨rfl, rfl⟩ | ⟨semicolon, rfl, rfl, hend⟩⟩ := invocation?_eq_some h
      · obtain ⟨k, cs, heq, hk, hattr⟩ := exists_standIn inner (.list as) (.node .macroCall ms)
        exact heq ▸ .standIn (Or.inl rfl) hk List.mem_cons_self
          (List.forall_mem_cons.2 ⟨rfl, hattr⟩)
      · obtain ⟨k, cs, heq, hk, -⟩ := exists_standIn inner (.list as) (.node .macroCall ms)
        have hsemicolon : semicolon.is .attr = false := by
          cases semicolon with
          | node k cs =>
            have habsent : k = .absent := by
              simpa [Node.isToken, Node.isAbsent, Node.is, Node.kind?] using hend
            simp [Node.is, Node.kind?, habsent]
          | _ => rfl
        exact heq ▸ .standIn (Or.inr rfl) (by decide) (List.mem_cons_of_mem _ hk)
          (List.forall_mem_cons.2 ⟨rfl, by simpa using hsemicolon⟩)
    · exact .refl _
  · exact .refl _

theorem collected_macroCall (ms : List Node) : collected lookup (.node .macroCall ms) =
    (macroContents? (.node .macroCall ms)).toList.flatMap (collected lookup) :=
  collected_eq (by decide)

/-- What stands in for a macro has the sites of its attributes and of the macro. -/
theorem collected_standIn {ms : List Node} (attributes : Node)
    (hinner : ∀ c, macroContents? (.node .macroCall ms) = some c →
      collected lookup (inner c) = collected lookup c) :
    collected lookup (standIn inner attributes (.node .macroCall ms)) =
      collected lookup attributes ++ collected lookup (.node .macroCall ms) := by
  have htuple (cs : List Node) : collected lookup (.node .exprTuple cs) =
      cs.flatMap (collected lookup) := collected_eq (by decide)
  have hblock (cs : List Node) : collected lookup (.node .exprBlock cs) =
      cs.flatMap (collected lookup) := collected_eq (by decide)
  have hbraces (cs : List Node) : collected lookup (.node .block cs) =
      cs.flatMap (collected lookup) := collected_eq (by decide)
  rw [collected_macroCall]
  rcases standIn_cases inner attributes (.node .macroCall ms) with
    ⟨es, hread, h⟩ | ⟨ss, hread, h⟩ | ⟨hread, h⟩
  · simp [h, hread, htuple, hinner es hread]
  · simp [h, hread, hblock, hbraces, hinner ss hread]
  · simp [h, hread, htuple]

/-- A node has the sites that it had if its macro is replaced. -/
theorem collected_spliced {k : Kind} {cs : List Node}
    (hinner : ∀ ms, .node .macroCall ms ∈ cs → ∀ c, macroContents? (.node .macroCall ms) = some c →
      collected lookup (inner c) = collected lookup c) :
    collected lookup (spliced chosen inner k cs) = collected lookup (.node k cs) := by
  have hexpression (cs : List Node) : collected lookup (.node .exprMacro cs) =
      cs.flatMap (collected lookup) := collected_eq (by decide)
  have hinvoked (cs : List Node) : collected lookup (.node .stmtMacro cs) =
      cs.flatMap (collected lookup) := collected_eq (by decide)
  have hstatement (cs : List Node) : collected lookup (.node .stmtExpr cs) =
      cs.flatMap (collected lookup) := collected_eq (by decide)
  unfold spliced
  split
  · next m h =>
    split
    · obtain ⟨as, ms, rfl, ⟨rfl, rfl⟩ | ⟨semicolon, rfl, rfl, -⟩⟩ := invocation?_eq_some h
      · have hstands := collected_standIn (.list as) (hinner ms (by simp))
        simpa [hexpression] using hstands
      · have hstands := collected_standIn (.list as) (hinner ms (by simp))
        simp [hinvoked, hstatement, hstands]
    · rfl
  · rfl

/-- **Macros are transparent**: a tree has the sites that it had with its macros unfolded, to
whatever depth, if none of its tokens for macros stands at a place of a function. -/
theorem collected_unfolded (hdrops : ∀ a, drops a = true → collected lookup a = [])
    (hn : Unlisted lookup n) (depth : Nat) :
    collected lookup (unfolded drops chosen depth n) = collected lookup n := by
  -- what is read out of a macro of the tree is unfolded one level less; as its closures are not
  -- found by their places, neither the markers nor the places of its own macros matter
  induction depth generalizing n with
  | zero => rfl
  | succ depth ih =>
    refine collected_recast recasts_spliced fun k cs hinside ↦
      ⟨collected_spliced fun ms hms c hc ↦ ?_, declared?_map recasts_spliced k cs⟩
    -- the macro of the new node is given the tokens of a macro of the old one
    obtain ⟨m, hm, heq⟩ := List.mem_map.1 hms
    obtain ⟨ms', rfl, htokens⟩ := exists_macro_of_recast recasts_spliced heq
    have hmarks (l : Location) (hl : (lookup l).isSome) : c.marks l = 0 :=
      marks_of_macroContents? hc
        (htokens ▸ hn ms' ((Node.Inside.node hm (.refl _)).trans hinside) l hl)
    have hbars (cs : List Node) (hcs : (Node.node .exprClosure cs).Inside c) :
        lookup (cs.getD 6 .absent).location = none := by
      refine Option.not_isSome_iff_eq_none.1 fun hl ↦ ?_
      exact Node.bar_of_marks (hcs.marks_eq_zero (hmarks _ hl)) rfl
    rw [ih (unlisted_of_marks hmarks).unmarked, collected_unmarked hdrops hbars]

/-! ### No macros left -/

theorem macroFree_node_iff {k : Kind} {cs : List Node} : MacroFree chosen (.node k cs) ↔
    (∀ m, invocation? k cs = some m → chosen m = false) ∧ ∀ c ∈ cs, MacroFree chosen c := by
  constructor
  · exact fun h ↦ ⟨h k cs (.refl _), fun c hc k' cs' hinside ↦ h k' cs' (.node hc hinside)⟩
  · rintro ⟨hnode, hall⟩ k' cs' hinside
    cases hinside with
    | refl => exact hnode
    | node hc hinside => exact hall _ hc k' cs' hinside

theorem macroFree_group_iff {d : Delimiter} {cs : List Node} :
    MacroFree chosen (.group d cs) ↔ ∀ c ∈ cs, MacroFree chosen c := by
  constructor
  · exact fun h c hc k cs hinside ↦ h k cs (.group hc hinside)
  · intro hall k' cs' hinside
    cases hinside with
    | group hc hinside => exact hall _ hc k' cs' hinside

theorem macroFree_list_nil : MacroFree chosen (.list []) :=
  macroFree_node_iff.2 ⟨nofun, List.forall_mem_nil _⟩

theorem macroFree_absent : MacroFree chosen .absent :=
  macroFree_node_iff.2 ⟨nofun, List.forall_mem_nil _⟩

/-- What stands in for a macro has the macros of its attributes and of what was read. -/
theorem macroFree_standIn {attributes m : Node} (hattributes : MacroFree chosen attributes)
    (hinner : ∀ c, macroContents? m = some c → MacroFree chosen (inner c)) :
    MacroFree chosen (standIn inner attributes m) := by
  rcases standIn_cases inner attributes m with ⟨es, hread, h⟩ | ⟨ss, hread, h⟩ | ⟨-, h⟩
  · simp [h, macroFree_node_iff, macroFree_group_iff, invocation?, hattributes, hinner es hread]
  · simp [h, macroFree_node_iff, macroFree_group_iff, invocation?, hattributes, hinner ss hread,
      macroFree_absent]
  · simp [h, macroFree_node_iff, macroFree_group_iff, invocation?, hattributes, macroFree_list_nil]

theorem macroFree_spliced {k : Kind} {cs : List Node} (hcs : ∀ c ∈ cs, MacroFree chosen c)
    (hinner : ∀ ms, .node .macroCall ms ∈ cs → ∀ c, macroContents? (.node .macroCall ms) = some c →
      MacroFree chosen (inner c)) : MacroFree chosen (spliced chosen inner k cs) := by
  unfold spliced
  split
  · next m h =>
    split
    · obtain ⟨as, ms, rfl, ⟨rfl, rfl⟩ | ⟨semicolon, rfl, rfl, -⟩⟩ := invocation?_eq_some h
      · exact macroFree_standIn (hcs _ (by simp)) (hinner ms (by simp))
      · have hstands := macroFree_standIn (hcs (.list as) (by simp)) (hinner ms (by simp))
        have hsemicolon := hcs semicolon (by simp)
        simpa [macroFree_node_iff, invocation?] using ⟨hstands, hsemicolon⟩
    · next hchosen =>
      -- a macro that is not chosen may stay
      refine macroFree_node_iff.2 ⟨fun m' hm' ↦ ?_, hcs⟩
      obtain rfl := Option.some.inj (h.symm.trans hm')
      simpa using hchosen
  · next h =>
    refine macroFree_node_iff.2 ⟨fun m hm ↦ ?_, hcs⟩
    cases h.symm.trans hm

/-- No chosen macro is left where the macros of a tree are replaced, if none is in what they are
replaced by. -/
theorem macroFree_recast (hinner : ∀ ms, (Node.node .macroCall ms).Inside n →
      ∀ c, macroContents? (.node .macroCall ms) = some c → MacroFree chosen (inner c)) :
    MacroFree chosen (n.recast (spliced chosen inner)) := by
  induction n using Node.induction with
  | token | unread => exact fun _ _ h ↦ nomatch h
  | group d cs ih =>
    rw [Node.recast_group, macroFree_group_iff]
    exact List.forall_mem_map.2 fun c hc ↦ ih c hc fun ms hms ↦ hinner ms (.group hc hms)
  | node k cs ih =>
    rw [Node.recast_node]
    refine macroFree_spliced (List.forall_mem_map.2 fun c hc ↦ ih c hc fun ms hms ↦
      hinner ms (.node hc hms)) fun ms hms c hc ↦ ?_
    obtain ⟨m, hm, heq⟩ := List.mem_map.1 hms
    obtain ⟨ms', rfl, htokens⟩ := exists_macro_of_recast recasts_spliced heq
    refine hinner ms' (.node hm (.refl _)) c ?_
    rwa [macroContents?, ← htokens]

/-- The macros in a tree have fewer tokens than `depth`, or none. -/
def Shallow (depth : Nat) (n : Node) : Prop := ∀ ms, (Node.node .macroCall ms).Inside n →
  macroTokens (.node .macroCall ms) = [] ∨
    TokenTree.sizes (macroTokens (.node .macroCall ms)) < depth

theorem shallow_of_within {depth : Nat} (h : n.Within depth) : Shallow depth n :=
  fun _ hms ↦ macroTokens_of_within (h.inside hms)

theorem Shallow.unmarked {depth : Nat} (h : Shallow depth n) :
    Shallow depth (n.unmarked drops) := by
  intro ms hms
  obtain ⟨ms', hms', htokens⟩ := exists_macroTokens_of_unmarked hms
  rw [htokens]
  exact h ms' hms'

/-- No chosen macro is left at a depth that is enough. -/
theorem macroFree_unfolded {depth : Nat} (hn : Shallow depth n) :
    MacroFree chosen (unfolded drops chosen (depth + 1) n) := by
  induction depth generalizing n with
  | zero =>
    refine macroFree_recast fun ms hms c hc ↦ ?_
    have hnil := (hn ms hms).resolve_right (Nat.not_lt_zero _)
    obtain rfl := Option.some.inj ((macroContents?_of_nil hnil).symm.trans hc)
    exact macroFree_list_nil
  | succ depth ih =>
    refine macroFree_recast fun ms hms c hc ↦ ih (Shallow.unmarked ?_)
    rcases hn ms hms with hnil | hfewer
    · obtain rfl := Option.some.inj ((macroContents?_of_nil hnil).symm.trans hc)
      exact shallow_of_within ⟨nofun, trivial⟩
    · exact shallow_of_within ((macroContents?_within hc).mono (Nat.le_of_lt_succ hfewer))

/-! ### A whole body -/

/-- An index and a body belong together: the index is that of a file, and the body that of a
function of the file. -/
def Belong (lookup : Location → Option FunctionId) (b : Node) : Prop :=
  ∃ source o u f, parseUnit source = .ok u ∧ lookup = (Index.build o u).lookup ∧
    f ∈ (Index.build o u).functions ∧ f.body = some b

/-- The macros of a body make no difference to the sites in it. -/
structure Transparent (lookup : Location → Option FunctionId) (chosen : Node → Bool) (b : Node) :
    Prop where
  /-- Reading out of macros, and out of what was read, comes to an end. -/
  ends : Acc IsReadFrom b
  /-- What is met in a macro is what is met in its contents, however deep they are. -/
  reads : inBody lookup b = walk lookup (readOut lookup) b
  /-- The sites are those of the body with the chosen macros replaced, to any depth. -/
  sites_eq (depth : Nat) :
    sites (inBody lookup (unfolded Marker.isBareRenderMarker chosen depth b)) =
      sites (inBody lookup b)
  /-- At some depth none of them is left. -/
  macroFree (depth : Nat) : b.size < depth →
    MacroFree chosen (unfolded Marker.isBareRenderMarker chosen depth b)

/-- **Macros are transparent.** The sites in a body are the same, in the same order, if macros are
replaced by what they are given, and again in what they are replaced by. -/
theorem transparent {b : Node} (h : Unlisted lookup b ∨ Belong lookup b) (chosen : Node → Bool) :
    Transparent lookup chosen b where
  ends := wellFounded_isReadFrom.apply b
  reads := inBody_eq_walk b
  sites_eq depth := by
    have hb : Unlisted lookup b := by
      -- the index of a unit lists no function at the tokens that its macros are given
      refine h.elim id ?_
      rintro ⟨source, o, u, f, hparse, rfl, hf, hbody⟩
      exact Index.build_unlisted hparse (Index.holds_body hf hbody)
    refine collected_unfolded (fun a ha ↦ collected_of_isWordy ?_) hb depth
    exact (Bool.and_eq_true_iff.1 ha).2
  macroFree depth hdepth := by
    obtain ⟨depth, rfl⟩ := Nat.exists_eq_succ_of_ne_zero (Nat.ne_zero_of_lt hdepth)
    exact macroFree_unfolded
      (shallow_of_within (Node.within_of_size_le (Nat.le_of_lt_succ hdepth)))

/-! A body with a macro inside a macro, and marked closures in both; a macro that is given
statements, and one that is given neither. -/

/-- A function with macros of each kind in its body. -/
def nestedText : String :=
  "#[component]\nfn f(cx: H) \x7b\n" ++
    "column!(#[component] |c| row!(g(c), #[component] |d| h(d)));\n" ++
    "both! \x7b let x = g; x \x7d\nodd!(=>);\n\x7d\n"

/-- What it refers to. -/
def nestedSites : List Site :=
  [.path ["g"] .direct, .path ["c"] .reference, .path ["h"] .direct, .path ["d"] .reference,
    .path ["g"] .reference, .path ["x"] .reference]

/-- The body of the first function of a unit. -/
def firstBody? (u : SourceUnit) : Option Node :=
  (Index.build {} u).functions[0]?.bind (·.body)

theorem exists_of_firstBody? {u : SourceUnit} {b : Node} (h : firstBody? u = some b) :
    ∃ f ∈ (Index.build {} u).functions, f.body = some b := by
  obtain ⟨f, hf, hb⟩ := Option.bind_eq_some_iff.1 h
  exact ⟨f, Array.mem_of_getElem? hf, hb⟩

theorem transparent_nestedText : ∃ u b, parseUnit nestedText = .ok u ∧ firstBody? u = some b ∧
    Belong (Index.build {} u).lookup b ∧
    Transparent (Index.build {} u).lookup (fun _ ↦ true) b ∧
    sites (inBody (Index.build {} u).lookup b) = nestedSites := by
  obtain ⟨u, hparse, hunit⟩ : ∃ u, parseUnit nestedText = .ok u ∧
      (firstBody? u).map (fun b ↦ sites (inBody (Index.build {} u).lookup b)) =
        some nestedSites :=
    exists_parseUnit_eq_ok (append_eq_ofList (append_eq_ofList rfl rfl) rfl) (by decide +kernel)
  obtain ⟨b, hb, hsites⟩ := Option.map_eq_some_iff.1 hunit
  obtain ⟨f, hf, hbody⟩ := exists_of_firstBody? hb
  have hbelong : Belong (Index.build {} u).lookup b := ⟨_, {}, u, f, hparse, rfl, hf, hbody⟩
  exact ⟨u, b, hparse, hb, hbelong, transparent (Or.inr hbelong) _, hsites⟩

/-! A marker with a value in a macro; and two files, of which the first has a marked closure where
the second has one in a macro. -/

/-- A function with a closure in a macro whose marker has a value. -/
def valuedText : String :=
  "#[component]\nfn f(cx: H) \x7b\nrun!(#[component = g] |c| 1);\n\x7d\n"

/-- A function with a marked closure. -/
def closureText : String :=
  "#[component]\nfn f(cx: H) \x7b\nrun(#[component]  |c| g);\n\x7d\n"

/-- The same with a macro instead of the call. -/
def macroText : String :=
  "#[component]\nfn f(cx: H) \x7b\nrun!(#[component] |c| g);\n\x7d\n"

/-- The sites are not those of the body with its macros replaced if markers with values are left out
there, and neither if the index is that of another file. -/
theorem not_sites_unfolded :
    (¬ ∀ source u, parseUnit source = .ok u → ∀ f ∈ (Index.build {} u).functions,
      ∀ b, f.body = some b → ∀ depth, b.size < depth →
        sites (inBody (Index.build {} u).lookup
            (unfolded Marker.isRenderMarker (fun _ ↦ true) depth b)) =
          sites (inBody (Index.build {} u).lookup b)) ∧
    ¬ ∀ source source' u u', parseUnit source = .ok u → parseUnit source' = .ok u' →
      ∀ f ∈ (Index.build {} u').functions, ∀ b, f.body = some b → ∀ depth, b.size < depth →
        sites (inBody (Index.build {} u).lookup
            (unfolded Marker.isBareRenderMarker (fun _ ↦ true) depth b)) =
          sites (inBody (Index.build {} u).lookup b) := by
  constructor
  · intro hall
    obtain ⟨u, hparse, hunit⟩ : ∃ u, parseUnit valuedText = .ok u ∧
        (firstBody? u).map (fun b ↦ (sites (inBody (Index.build {} u).lookup
            (unfolded Marker.isRenderMarker (fun _ ↦ true) (b.size + 1) b)),
          sites (inBody (Index.build {} u).lookup b))) = some ([], [.path ["g"] .reference]) :=
      exists_parseUnit_eq_ok rfl (by decide +kernel)
    obtain ⟨b, hb, hsites⟩ := Option.map_eq_some_iff.1 hunit
    obtain ⟨hunfolded, hbody⟩ := Prod.mk.inj hsites
    obtain ⟨f, hf, hfb⟩ := exists_of_firstBody? hb
    have hsame := hall valuedText u hparse f hf b hfb _ (Nat.lt_succ_self _)
    rw [hunfolded, hbody] at hsame
    cases hsame
  · intro hall
    obtain ⟨u, u', hparse, hparse', hunit⟩ : ∃ u u', parseUnit closureText = .ok u ∧
        parseUnit macroText = .ok u' ∧ ((firstBody? u').map fun b ↦
          (sites (inBody (Index.build {} u).lookup
            (unfolded Marker.isBareRenderMarker (fun _ ↦ true) (b.size + 1) b)),
          sites (inBody (Index.build {} u).lookup b))) =
            some ([.path ["g"] .reference], [.literal 1]) :=
      exists_parseUnits_eq_ok rfl rfl (by decide +kernel)
    obtain ⟨b, hb, hsites⟩ := Option.map_eq_some_iff.1 hunit
    obtain ⟨hunfolded, hbody⟩ := Prod.mk.inj hsites
    obtain ⟨f, hf, hfb⟩ := exists_of_firstBody? hb
    have hsame := hall closureText macroText u u' hparse hparse' f hf b hfb _ (Nat.lt_succ_self _)
    rw [hunfolded, hbody] at hsame
    cases hsame

end Site

end RenderTrace
