import RenderTrace.Pipeline
import RenderTrace.Proofs.CallGraph.Callees
import RenderTrace.Proofs.CallGraph.Nearest
import RenderTrace.Proofs.Grouping

/-!
# The edges from a function

Which functions a site refers to can be said without the order in which they are looked for
(`Site.Means`): a path refers to what has it below the nearest module around the reference below
which anything has it, or else to what it is the end of; a method of `self` to what is found so
below the type of `self`, and any other method to all methods of its name. Every site refers to one
list of functions in this sense, and it is the one that is looked up (`Site.means_iff`).

Of the edges from a function those stay that are the first ones to their callees, in the order in
which the sites are met (`CallGraph.edgesFrom_addEdges`). Together this tells the edges from each
function of a unit as a list (`CallGraph.edgesFrom_build`).
-/

namespace RenderTrace

open Syntax

namespace Site

/-- Below a module, render functions have a path, and below no longer module around. -/
structure IsNearest (functions : List Function) (base rest m : List String) : Prop where
  around : m <+: base
  isAt : IsAt functions (m ++ rest)
  longest : ∀ m', m' <+: base → m.length < m'.length → ¬ IsAt functions (m' ++ rest)

/-- Below no module around a reference a render function has a path. -/
def IsNowhere (functions : List Function) (base rest : List String) : Prop :=
  ∀ m, m <+: base → ¬ IsAt functions (m ++ rest)

/-- A path is the end of that of a function, which is no closure. -/
structure IsEndOf (rest : List String) (f : Function) : Prop where
  noClosure : f.declaration.kind ≠ .closure
  name : rest.getLast? = some f.declaration.localName
  suffix (path : List String) : f.sourcePath = some path → rest <:+ path
  single : f.sourcePath = none → rest.length = 1

/-- What a site refers to, in a context. -/
inductive Means (s : Index) (ctx : Context) : Site → List FunctionId → Prop
  | noType {words : List String} {kind : CallKind} (hhead : words.head? = some "Self")
    (htype : ctx.selfType = none) : Means s ctx (.path words kind) []
  | noWords {words base : List String} {kind : CallKind} (h : Relative ctx words base []) :
    Means s ctx (.path words kind) []
  | byPath {words base rest m : List String} {kind : CallKind} {ids : List FunctionId}
    (h : Relative ctx words base rest) (hrest : rest ≠ [])
    (hm : IsNearest s.functions.toList base rest m)
    (hids : s.Lists (·.sourcePath = some (m ++ rest)) ids) : Means s ctx (.path words kind) ids
  | byEnd {words base rest : List String} {kind : CallKind} {ids : List FunctionId}
    (h : Relative ctx words base rest) (hrest : rest ≠ [])
    (hnone : IsNowhere s.functions.toList base rest) (hids : s.Lists (IsEndOf rest) ids) :
    Means s ctx (.path words kind) ids
  | ofSelf {name type : String} {m : List String} {ids : List FunctionId}
    (htype : ctx.selfType = some type) (hm : IsNearest s.functions.toList ctx.module [type, name] m)
    (hids : s.Lists (·.sourcePath = some (m ++ [type, name])) ids) :
    Means s ctx (.method name true) ids
  | byName {name : String} {onSelf : Bool} {ids : List FunctionId}
    (hnone : onSelf = true → ∀ type, ctx.selfType = some type →
      IsNowhere s.functions.toList ctx.module [type, name])
    (hids : s.Lists (fun f ↦ f.declaration.kind.isMethod = true ∧ f.declaration.localName = name)
      ids) : Means s ctx (.method name onSelf) ids
  | literal (id : FunctionId) : Means s ctx (.literal id) [id]

/-- How a site refers to functions. -/
def callKind : Site → CallKind
  | .path _ kind => kind
  | .method .. => .direct
  | .literal _ => .functionLiteral

theorem resolve_snd (functions : List Function) (ctx : Context) (site : Site) :
    (site.resolve functions ctx).2 = site.callKind := by
  cases site <;> rfl

variable {s : Index} {ctx : Context} {base rest words m : List String} {ids : List FunctionId}

/-! ### What is looked up -/

theorem IsNearest.nearest_eq (h : IsNearest s.functions.toList base rest m) :
    nearest s.functions.toList base rest = atPath s.functions.toList (m ++ rest) :=
  nearest_eq_atPath h.around h.isAt h.longest

theorem IsNowhere.nearest_eq (h : IsNowhere s.functions.toList base rest) :
    nearest s.functions.toList base rest = [] := by
  rcases nearest_cases s.functions.toList base rest with ⟨hnil, -⟩ | ⟨m, hm, -, hat, -⟩
  · exact hnil
  · exact absurd hat (h m hm)

theorem isNowhere_or_isNearest (functions : List Function) (base rest : List String) :
    IsNowhere functions base rest ∨ ∃ m, IsNearest functions base rest m := by
  rcases nearest_cases functions base rest with ⟨-, hnone⟩ | ⟨m, hm, -, hat, hfirst⟩
  · exact Or.inl hnone
  · exact Or.inr ⟨m, hm, hat, hfirst⟩

theorem lists_atPath (hn : s.Numbered) (words : List String) :
    s.Lists (·.sourcePath = some words) (atPath s.functions.toList words) :=
  hn.lists fun f ↦ by rw [Bool.and_eq_true, beq_iff_eq]

theorem endsWith_iff {f : Function} (hkind : f.declaration.kind ≠ .closure)
    (hname : rest.getLast? = some f.declaration.localName) :
    endsWith rest f = true ↔ IsEndOf rest f := by
  unfold endsWith
  constructor
  · intro h
    refine ⟨hkind, hname, fun path hpath ↦ ?_, fun hpath ↦ ?_⟩
    · rw [hpath] at h
      exact List.isSuffixOf_iff_suffix.1 h
    · rw [hpath] at h
      exact beq_iff_eq.1 h
  · intro h
    split
    · next path hpath => exact List.isSuffixOf_iff_suffix.2 (h.suffix path hpath)
    · next hpath => exact beq_iff_eq.2 (h.single hpath)

theorem lists_withEnd (hn : s.Numbered) {name : String} (hname : rest.getLast? = some name) :
    s.Lists (IsEndOf rest)
      (((withName s.functions.toList name).filter (endsWith rest)).map (·.declaration.id)) := by
  rw [withName, List.filter_filter]
  refine hn.lists fun f ↦ ?_
  simp only [Bool.and_eq_true, bne_iff_ne, beq_iff_eq]
  constructor
  · rintro ⟨hends, ⟨hrender, hkind⟩, rfl⟩
    exact ⟨hrender, (endsWith_iff hkind hname).1 hends⟩
  · rintro ⟨hrender, hend⟩
    obtain rfl := Option.some.inj (hname.symm.trans hend.name)
    exact ⟨(endsWith_iff hend.noClosure hname).2 hend, ⟨hrender, hend.noClosure⟩, rfl⟩

theorem lists_methods (hn : s.Numbered) (name : String) :
    s.Lists (fun f ↦ f.declaration.kind.isMethod = true ∧ f.declaration.localName = name)
      (((withName s.functions.toList name).filter (·.declaration.kind.isMethod)).map
        (·.declaration.id)) := by
  rw [withName, List.filter_filter]
  refine hn.lists fun f ↦ ?_
  simp only [Bool.and_eq_true, bne_iff_ne, beq_iff_eq]
  constructor
  · rintro ⟨hmethod, ⟨hrender, -⟩, hname⟩
    exact ⟨hrender, hmethod, hname⟩
  · rintro ⟨hrender, hmethod, hname⟩
    refine ⟨hmethod, ⟨hrender, ?_⟩, hname⟩
    rintro hkind
    rw [hkind] at hmethod
    cases hmethod

theorem resolvePath_of_none (h : normalise ctx words = none) :
    resolvePath s.functions.toList ctx words = [] := by
  rw [resolvePath, h]

theorem resolvePath_of_nil (h : Relative ctx words base []) :
    resolvePath s.functions.toList ctx words = [] := by
  rw [resolvePath, normalise_of_relative h]
  rfl

theorem resolvePath_of_nowhere (h : Relative ctx words base rest) {name : String}
    (hname : rest.getLast? = some name) (hnone : IsNowhere s.functions.toList base rest) :
    resolvePath s.functions.toList ctx words =
      ((withName s.functions.toList name).filter (endsWith rest)).map (·.declaration.id) := by
  rw [resolvePath, normalise_of_relative h]
  dsimp only
  rw [hname]
  dsimp only
  rw [hnone.nearest_eq]
  rfl

theorem resolveMethod_of_nearest {name type : String} (htype : ctx.selfType = some type)
    (hm : IsNearest s.functions.toList ctx.module [type, name] m) :
    resolveMethod s.functions.toList ctx name true =
      atPath s.functions.toList (m ++ [type, name]) := by
  simp only [resolveMethod, htype, hm.nearest_eq, isEmpty_atPath.2 hm.isAt, Bool.not_false, if_true]

theorem resolveMethod_of_nowhere {name : String} {onSelf : Bool}
    (hnone : onSelf = true → ∀ type, ctx.selfType = some type →
      IsNowhere s.functions.toList ctx.module [type, name]) :
    resolveMethod s.functions.toList ctx name onSelf =
      ((withName s.functions.toList name).filter (·.declaration.kind.isMethod)).map
        (·.declaration.id) := by
  cases hself : onSelf with
  | false => rfl
  | true =>
    cases htype : ctx.selfType with
    | none => simp only [resolveMethod, htype, List.isEmpty_nil, Bool.not_true, Bool.false_eq_true,
        if_false]
    | some type =>
      simp only [resolveMethod, htype, (hnone hself type htype).nearest_eq, List.isEmpty_nil,
        Bool.not_true, Bool.false_eq_true, if_false]

/-- What is looked up for a site is what the site means. -/
theorem resolve_of_means (hn : s.Numbered) {site : Site} (h : Means s ctx site ids) :
    (site.resolve s.functions.toList ctx).1 = ids := by
  cases h with
  | noType hhead htype => exact resolvePath_of_none (normalise_eq_none_iff.2 ⟨hhead, htype⟩)
  | noWords h => exact resolvePath_of_nil h
  | byPath h hrest hm hids =>
    rw [resolve, resolvePath_eq_atPath (normalise_of_relative h) hrest hm.around hm.isAt hm.longest]
    exact (lists_atPath hn _).unique hids
  | byEnd h hrest hnone hids =>
    have hname := List.getLast?_eq_getLast_of_ne_nil hrest
    rw [resolve, resolvePath_of_nowhere h hname hnone]
    exact (lists_withEnd hn hname).unique hids
  | ofSelf htype hm hids =>
    rw [resolve, resolveMethod_of_nearest htype hm]
    exact (lists_atPath hn _).unique hids
  | byName hnone hids =>
    rw [resolve, resolveMethod_of_nowhere hnone]
    exact (lists_methods hn _).unique hids
  | literal id => rfl

/-- Every site means something. -/
theorem exists_means (hn : s.Numbered) (ctx : Context) (site : Site) :
    ∃ ids, Means s ctx site ids := by
  cases site with
  | path words kind =>
    cases hnormal : normalise ctx words with
    | none =>
      obtain ⟨hhead, htype⟩ := normalise_eq_none_iff.1 hnormal
      exact ⟨[], .noType hhead htype⟩
    | some found =>
      obtain ⟨base, rest⟩ := found
      have hrelative := normalise_eq_some_iff.1 hnormal
      by_cases hrest : rest = []
      · exact ⟨[], .noWords (hrest ▸ hrelative)⟩
      rcases isNowhere_or_isNearest s.functions.toList base rest with hnone | ⟨m, hm⟩
      · exact ⟨_, .byEnd hrelative hrest hnone
          (lists_withEnd hn (List.getLast?_eq_getLast_of_ne_nil hrest))⟩
      · exact ⟨_, .byPath hrelative hrest hm (lists_atPath hn _)⟩
  | method name onSelf =>
    -- a method of the own type, if there is one in a module around, else any of the name
    by_cases hself : onSelf = true ∧ ∃ type m, ctx.selfType = some type ∧
        IsNearest s.functions.toList ctx.module [type, name] m
    · obtain ⟨rfl, type, m, htype, hm⟩ := hself
      exact ⟨_, .ofSelf htype hm (lists_atPath hn _)⟩
    · refine ⟨_, .byName (fun honSelf type htype ↦ ?_) (lists_methods hn name)⟩
      rcases isNowhere_or_isNearest s.functions.toList ctx.module [type, name] with hnone | ⟨m, hm⟩
      · exact hnone
      · exact absurd ⟨honSelf, type, m, htype, hm⟩ hself
  | literal id => exact ⟨[id], .literal id⟩

/-- A site means what is looked up for it, and nothing else. -/
theorem means_iff (hn : s.Numbered) {site : Site} :
    Means s ctx site ids ↔ ids = (site.resolve s.functions.toList ctx).1 := by
  refine ⟨fun h ↦ (resolve_of_means hn h).symm, ?_⟩
  rintro rfl
  obtain ⟨ids, h⟩ := exists_means hn ctx site
  rwa [resolve_of_means hn h]

end Site

namespace Edge

/-- Whether two edges lead to the same function. -/
def sameCallee (e e' : Edge) : Bool := e.callee == e'.callee

end Edge

namespace CallGraph

variable {g : CallGraph}

theorem joins_eq_any_edgesFrom (g : CallGraph) (e : Edge) :
    g.joins e.caller e.callee = (g.edgesFrom e.caller).any fun e' ↦ e.sameCallee e' := by
  rw [joins, edgesFrom, List.any_filter]
  simp only [Edge.sameCallee, Bool.beq_comm]

theorem edgesFrom_addEdge_of_ne {e : Edge} {caller : FunctionId} (h : e.caller ≠ caller) :
    (g.addEdge e).1.edgesFrom caller = g.edgesFrom caller := by
  rw [edgesFrom, addEdge_edges]
  split
  · rfl
  · rw [List.filter_append, List.filter_singleton, beq_eq_false_iff_ne.2 h]
    exact List.append_nil _

theorem edgesFrom_addEdge_self (g : CallGraph) (e : Edge) :
    (g.addEdge e).1.edgesFrom e.caller =
      if (g.edgesFrom e.caller).any e.sameCallee then g.edgesFrom e.caller
      else g.edgesFrom e.caller ++ [e] := by
  rw [edgesFrom, addEdge_edges, joins_eq_any_edgesFrom]
  split
  · rfl
  · rw [List.filter_append, List.filter_singleton, beq_self_eq_true]
    rfl

/-- The edges from a function are those that were there and the first ones to further callees. -/
theorem edgesFrom_addEdges (g : CallGraph) (es : List Edge) (caller : FunctionId) :
    (g.addEdges es).edgesFrom caller =
      List.eraseDupsBy.loop Edge.sameCallee (es.filter (·.caller == caller))
        (g.edgesFrom caller).reverse := by
  -- what was kept so far is the accumulator of the loop, with the last edge in front
  induction es generalizing g with
  | nil => exact (List.reverse_reverse _).symm
  | cons e es ih =>
    rw [addEdges, List.foldl_cons, ← addEdges, ih, List.filter_cons]
    by_cases hcaller : e.caller = caller
    · obtain rfl := hcaller
      rw [beq_self_eq_true, if_pos rfl, List.eraseDupsBy.loop, List.any_reverse,
        edgesFrom_addEdge_self]
      cases (g.edgesFrom e.caller).any e.sameCallee with
      | true => rfl
      | false => simp
    · rw [edgesFrom_addEdge_of_ne hcaller, beq_eq_false_iff_ne.2 hcaller]
      rfl

variable {index : Index}

/-- The edges from a function of an index are the first ones to their callees among those that its
sites ask for. -/
theorem edgesFrom_build_of_mem (hn : index.Numbered) {f : Function} (hf : f ∈ index.functions) :
    (build index).edgesFrom f.declaration.id =
      (edgesOf index f).eraseDupsBy Edge.sameCallee := by
  have hasked : ∀ f ∈ index.functions.toList, ∀ e ∈ edgesOf index f,
      e.caller = f.declaration.id := fun f _ e he ↦ by
    obtain ⟨-, _, -, _, -, _, -, rfl⟩ := mem_edgesOf_iff.1 he
    rfl
  rw [build_eq, edgesFrom_addEdges, filter_flatMap_of_mem (·.declaration.id) hasked hn.ids_nodup
    (Array.mem_toList_iff.2 hf), edgesFrom, nodesOf_edges]
  rfl

/-- **The edges from a function.** Only a render function with a body has any, and they are the
first ones to their callees among what the sites of the body ask for, site after site: to each
function that the site means. -/
theorem edgesFrom_build (o : Options) (u : SourceUnit) (id : FunctionId) :
    ((∀ b, ¬ (Index.build o u).RendersBody id b) →
      (build (Index.build o u)).edgesFrom id = []) ∧
    ∀ f b, (Index.build o u).functions[id]? = some f → f.declaration.isRender = true →
      f.body = some b → ∃ targets : Site → List FunctionId,
        (∀ site ids, Site.Means (Index.build o u) f.context site ids ↔ ids = targets site) ∧
        (build (Index.build o u)).edgesFrom id =
          ((Site.sites (Site.inBody (Index.build o u).lookup b)).flatMap fun site ↦
            (targets site).map (Edge.mk id · site.callKind)).eraseDupsBy Edge.sameCallee := by
  have hn := Index.build_numbered o u
  constructor
  · intro hnone
    refine List.eq_nil_iff_forall_not_mem.2 fun e he ↦ ?_
    obtain ⟨hmem, hcaller⟩ := List.mem_filter.1 he
    obtain ⟨b, hb, -⟩ := ends_of_mem_build hmem
    exact hnone b (beq_iff_eq.1 hcaller ▸ hb)
  · intro f b hf hrender hb
    refine ⟨fun site ↦ (site.resolve (Index.build o u).functions.toList f.context).1,
      fun site ids ↦ Site.means_iff hn, ?_⟩
    obtain rfl := (hn id f hf).1
    rw [edgesFrom_build_of_mem hn (Array.mem_of_getElem? hf), edgesOf, sightingsOf, if_pos hrender,
      hb]
    simp only [Site.resolve_snd]

/-! A function that names another one before it calls it, and calls a third one twice. -/

/-- Three functions, of which the first one refers to the others. -/
def repeatedText : String :=
  "#[component]\nfn f(cx: H) \x7b h; g(cx); g(cx); h(cx); \x7d\n" ++
    "#[component]\nfn g(cx: H) \x7b\x7d\n#[component]\nfn h(cx: H) \x7b\x7d\n"

/-- What the first one refers to, in turn. -/
def repeatedSites : List Site :=
  [.path ["h"] .reference, .path ["g"] .direct, .path ["cx"] .reference, .path ["g"] .direct,
    .path ["cx"] .reference, .path ["h"] .direct, .path ["cx"] .reference]

theorem edgesFrom_build_repeatedText : ∃ u f b, parseUnit repeatedText = .ok u ∧
    (Index.build {} u).functions[0]? = some f ∧ f.declaration.isRender = true ∧
    f.body = some b ∧ Site.sites (Site.inBody (Index.build {} u).lookup b) = repeatedSites ∧
    (∃ targets : Site → List FunctionId,
      (∀ site ids, Site.Means (Index.build {} u) f.context site ids ↔ ids = targets site) ∧
      (build (Index.build {} u)).edgesFrom 0 = (repeatedSites.flatMap fun site ↦
        (targets site).map (Edge.mk 0 · site.callKind)).eraseDupsBy Edge.sameCallee) ∧
    (build (Index.build {} u)).edgesFrom 0 = [⟨0, 2, .reference⟩, ⟨0, 1, .direct⟩] := by
  obtain ⟨u, hparse, hunit⟩ : ∃ u, parseUnit repeatedText = .ok u ∧
      (((Index.build {} u).functions[0]?.bind fun f ↦ f.body.map fun b ↦
        (f.declaration.isRender, Site.sites (Site.inBody (Index.build {} u).lookup b))),
        (build (Index.build {} u)).edgesFrom 0) =
      (some (true, repeatedSites), [⟨0, 2, .reference⟩, ⟨0, 1, .direct⟩]) :=
    exists_parseUnit_eq_ok (append_eq_ofList rfl rfl) (by decide +kernel)
  obtain ⟨hfunction, hedges⟩ := Prod.mk.inj hunit
  obtain ⟨f, hf, hbody⟩ := Option.bind_eq_some_iff.1 hfunction
  obtain ⟨b, hb, hfound⟩ := Option.map_eq_some_iff.1 hbody
  obtain ⟨hrender, hsites⟩ := Prod.mk.inj hfound
  exact ⟨u, f, b, hparse, hf, hrender, hb, hsites,
    hsites ▸ (edgesFrom_build {} u 0).2 f b hf hrender hb, hedges⟩

end CallGraph

end RenderTrace
