import RenderTrace.Proofs.CallGraph.Correspondence
import RenderTrace.Proofs.ClosureSet.Monotone
import RenderTrace.Proofs.Injection.Wording
import RenderTrace.Proofs.Pipeline.Breakdown
import RenderTrace.Proofs.Syntax.Shape

/-!
# The order of items

The order in which the items of a unit stand decides in which order its functions are found, and so
their numbers, the order of all lists, and the numbers in the names of closures outside any
function. It decides nothing else: functions at the same place have the same data, are joined by
edges of the same kinds, are in the closure together, and are instrumented together
(`Injector.apply_reordered`).
-/

namespace RenderTrace

open Syntax Index

namespace Index

variable {o : Options} {u u' : SourceUnit}

/-- Units with the same items hold the same functions. -/
theorem sameFunctions_of_reordered (hu : u.Reordered u') (hplaces : (build o u).places.Nodup) :
    SameFunctions (build o u) (build o u') where
  numbered := build_numbered o u
  numbered' := build_numbered o u'
  places := hplaces
  places' := (places_perm hu).nodup_iff.2 hplaces
  there hf := by
    obtain ⟨i', f', hf', hmatches⟩ := exists_matching (o := o) hu hf
    exact ⟨i', _, f', hf, hf', hmatches.same⟩
  back hf := by
    obtain ⟨i', f', hf', hmatches⟩ := exists_matching (o := o) hu.symm hf
    exact ⟨i', _, f', hf, hf', hmatches.same⟩

end Index

/-! ### The closure -/

namespace Analysis

variable {s s' : Index} {i i' : FunctionId}

/-- The number, in another index, of the function at the same place. -/
def renumbered (s s' : Index) (i : FunctionId) : FunctionId :=
  ((s.placeOf i).bind s'.lookup).getD 0

theorem renumbered_eq (hs : SameFunctions s s') (hi : Corresponds s s' i i') :
    renumbered s s' i = i' := by
  have ⟨f, _, hf, _⟩ := hi
  rw [renumbered, placeOf, hf, Option.map_some, Option.bind_some, hs.lookup_of_corresponds hi hf,
    Option.getD_some]

/-- Candidates that are found in another order ask for the same. -/
theorem candidates_embed (hs : SameFunctions s s') :
    ClosureSet.Embeds (renumbered s s') (candidates s) (candidates s') := by
  intro i c hc
  rw [getElem?_candidates, Option.map_eq_some_iff] at hc
  obtain ⟨f, hf, rfl⟩ := hc
  obtain ⟨i', hi'⟩ := hs.there hf
  obtain ⟨f', hf', hsame⟩ := hi'.exists_function hf
  refine ⟨candidate (CallGraph.build s') f', ?_, ?_⟩
  · rw [renumbered_eq hs hi', getElem?_candidates, hf', Option.map_some]
  · refine ⟨fun b hb ↦ ?_, ?_, ?_, ?_, ?_, ?_⟩
    · obtain ⟨e, he, rfl⟩ := List.mem_map.1 hb
      obtain ⟨hedge, hcaller⟩ := List.mem_filter.1 he
      obtain ⟨e', hedge', hcaller', hcallee', -⟩ := CallGraph.exists_edge hs hedge
      rw [renumbered_eq hs hcallee']
      refine List.mem_map.2 ⟨e', List.mem_filter.2 ⟨hedge', ?_⟩, rfl⟩
      rw [beq_iff_eq, (hs.numbered i f hf).1] at hcaller
      rw [beq_iff_eq, (hs.numbered' i' f' hf').1]
      exact hs.eq_of_corresponds hcaller' (hcaller ▸ hi')
    · exact fun h ↦ (congrArg Tracking.isTracked (Function.tracking_of_anonymous hsame)).trans h
    · exact fun h ↦ (congrArg Tracking.includeNested (Function.tracking_of_anonymous hsame)).trans h
    · exact fun h ↦ (Function.isRender_of_anonymous hsame).trans h
    · exact fun h ↦ (Function.hasBody_of_anonymous hsame).trans h
    · exact fun h ↦ (congrArg Skip.wholeFunction (Function.skip_of_anonymous hsame)).symm.trans h

variable {o : Options} {u u' : SourceUnit}

/-- The closure holds the same functions. -/
theorem mem_closure_of_corresponds (hs : SameFunctions (Index.build o u) (Index.build o u'))
    (hi : Corresponds (Index.build o u) (Index.build o u') i i')
    (h : i ∈ (run o u).closure.order) : i' ∈ (run o u').closure.order := by
  have hmem := (candidates_embed hs).mem_compute (candidates_positioned o u)
    (candidates_positioned o u') h
  rwa [renumbered_eq hs hi] at hmem

/-! ### What an analysis says about places -/

/-- There is an edge of a kind from the function at one place to the function at another place. -/
def JoinsAt (a : Analysis) (l l' : Location) (kind : CallKind) : Prop :=
  ∃ e ∈ a.callGraph.edges,
    a.index.placeOf e.caller = some l ∧ a.index.placeOf e.callee = some l' ∧ e.kind = kind

/-- The function at a place is a member of the closure. -/
def HasMemberAt (a : Analysis) (l : Location) : Prop :=
  ∃ id ∈ a.closure.order, a.index.placeOf id = some l

/-- The function at a place is one of those that a pass instrumented. -/
def InstrumentsAt (a : Analysis) (s : InjectionSummary) (l : Location) : Prop :=
  ∃ id ∈ s.instrumented, a.index.placeOf id = some l

/-- Two analyses say the same about all places. -/
structure SameByPlace (a a' : Analysis) : Prop where
  functions : ∀ f ∈ a.functions, ∃ f' ∈ a'.functions, Matches a.index a'.index f f'
  functions' : ∀ f' ∈ a'.functions, ∃ f ∈ a.functions, Matches a'.index a.index f' f
  joins : ∀ l l' kind, a.JoinsAt l l' kind ↔ a'.JoinsAt l l' kind
  members : ∀ l, a.HasMemberAt l ↔ a'.HasMemberAt l

theorem JoinsAt.of_same (hs : SameFunctions (Index.build o u) (Index.build o u')) {l l' : Location}
    {kind : CallKind} (h : (run o u).JoinsAt l l' kind) : (run o u').JoinsAt l l' kind := by
  obtain ⟨e, he, hl, hl', rfl⟩ := h
  obtain ⟨e', he', hcaller, hcallee, hkind⟩ := CallGraph.exists_edge hs he
  exact ⟨e', he', hcaller.placeOf_eq.trans hl,
    hcallee.placeOf_eq.trans hl', hkind⟩

theorem HasMemberAt.of_same (hs : SameFunctions (Index.build o u) (Index.build o u'))
    {l : Location} (h : (run o u).HasMemberAt l) : (run o u').HasMemberAt l := by
  obtain ⟨id, hid, hl⟩ := h
  obtain ⟨f, hf, -⟩ := exists_function_of_mem_closure o u hid
  obtain ⟨id', hid'⟩ := hs.there hf
  exact ⟨id', mem_closure_of_corresponds hs hid' hid, hid'.placeOf_eq.trans hl⟩

theorem exists_matching_of_mem (hu : u.Reordered u') : ∀ f ∈ (run o u).functions,
    ∃ f' ∈ (run o u').functions, Matches (run o u).index (run o u').index f f' := by
  intro f hf
  obtain ⟨i, hi⟩ := Array.mem_iff_getElem?.1 hf
  obtain ⟨i', f', hf', hmatches⟩ := exists_matching (o := o) hu hi
  exact ⟨f', Array.mem_of_getElem? hf', hmatches⟩

/-- Analyses of units with the same items say the same. -/
theorem sameByPlace_of_reordered (hu : u.Reordered u') (hplaces : (Index.build o u).places.Nodup) :
    SameByPlace (run o u) (run o u') := by
  have hs := sameFunctions_of_reordered hu hplaces
  exact {
    functions := exists_matching_of_mem hu
    functions' := exists_matching_of_mem hu.symm
    joins := fun l l' kind ↦ ⟨.of_same hs, .of_same hs.symm⟩
    members := fun l ↦ ⟨.of_same hs, .of_same hs.symm⟩ }

end Analysis

/-! ### The pass -/

namespace Injector

open Analysis

variable {o : Options} {u u' : SourceUnit} {inj : Injector}

/-- Members by place are the same functions. -/
theorem members_alike (hu : u.Reordered u') (hd : u.Distinct) :
    (members (Analysis.run o u)).Alike (members (Analysis.run o u')) := by
  have hthere : ∀ {u u' : SourceUnit} {l : Location} {f : Function}, u.Reordered u' → u.Distinct →
      members (Analysis.run o u) l = some f →
        ∃ f', members (Analysis.run o u') l = some f' ∧ f'.anonymous = f.anonymous := by
    intro u u' l f hu hd hf
    have hs := sameFunctions_of_reordered (o := o) hu (build_places_nodup hd)
    obtain ⟨hplace, hclosure, hfunction⟩ := (members_eq_some hd).1 hf
    obtain ⟨i', hi'⟩ := hs.there hfunction
    obtain ⟨f', hf', hsame⟩ := hi'.exists_function hfunction
    obtain rfl := (hs.numbered' i' f' hf').1
    refine ⟨f', (members_eq_some (hu.distinct hd)).2 ⟨?_, ?_, hf'⟩, hsame⟩
    · exact (Function.location_of_anonymous hsame).trans hplace
    · exact mem_closure_of_corresponds hs hi' hclosure
  intro l
  cases hf : members (Analysis.run o u) l with
  | some f =>
    obtain ⟨f', hf', hsame⟩ := hthere hu hd hf
    rw [hf']
    exact .some hsame
  | none =>
    cases hf' : members (Analysis.run o u') l with
    | none => exact .none
    | some f' =>
      obtain ⟨f, hf'', -⟩ := hthere hu.symm (hu.distinct hd) hf'
      cases hf''.symm.trans hf

section Functions

variable {m m' : Members} {f f' : Function}

theorem begins_of_anonymous (hm : m.Alike m') (hf : f'.anonymous = f.anonymous) :
    inj.begins m' f' = inj.begins m f := by
  have hinside : ∀ body, isInstrumented (bodyBlock (rewritten inj m' body)) =
      isInstrumented (bodyBlock (rewritten inj m body)) := fun body ↦ by
    rw [← isInstrumented_blank, bodyBlock_blank (rewritten_blank hm body), isInstrumented_blank]
  rw [begins, begins, Function.body_of_anonymous hf, Function.isClosure_of_anonymous hf]
  simp only [hinside]

theorem hasBlock_of_anonymous (hm : m.Alike m') (hf : f'.anonymous = f.anonymous) :
    inj.hasBlock m' f' = inj.hasBlock m f := by
  have hblock : ∀ body, (bodyBlock? (rewritten inj m' body)).isSome =
      (bodyBlock? (rewritten inj m body)).isSome := fun body ↦ by
    rw [← Option.isSome_map (f := Node.blank), bodyBlock?_blank (rewritten_blank hm body),
      Option.isSome_map]
  rw [hasBlock, hasBlock, Function.body_of_anonymous hf, Function.isClosure_of_anonymous hf]
  simp only [hblock]

theorem canCall_of_anonymous (hf : f'.anonymous = f.anonymous) : inj.canCall f' = inj.canCall f := by
  rw [canCall, canCall, ← Option.isSome_map (f := Node.blank), trackerStatement?_blank hf,
    Option.isSome_map]

theorem needsCall_of_anonymous (hm : m.Alike m') (hf : f'.anonymous = f.anonymous) :
    inj.needsCall m' f' = inj.needsCall m f := by
  rw [needsCall, needsCall, hasHost_of_anonymous hf, begins_of_anonymous hm hf]

theorem manages_of_anonymous (hm : m.Alike m') (hf : f'.anonymous = f.anonymous) :
    inj.manages m' f' = inj.manages m f := by
  rw [manages, manages, hasBlock_of_anonymous hm hf, needsCall_of_anonymous hm hf,
    canCall_of_anonymous hf]

end Functions

/-- A member of the closure has one of the other closure that is the same. -/
theorem exists_target (hu : u.Reordered u') (hd : u.Distinct) {f : Function}
    (hf : f ∈ (Analysis.run o u).targets) : ∃ f' ∈ (Analysis.run o u').targets,
      f'.anonymous = f.anonymous := by
  have hs := sameFunctions_of_reordered (o := o) hu (build_places_nodup hd)
  obtain ⟨id, hclosure, hfunction⟩ := List.mem_filterMap.1 hf
  obtain ⟨i', hi'⟩ := hs.there hfunction
  obtain ⟨f', hf', hsame⟩ := hi'.exists_function hfunction
  exact ⟨f', List.mem_filterMap.2 ⟨i', mem_closure_of_corresponds hs hi' hclosure, hf'⟩, hsame⟩

/-- What a new injector instruments are the members of the closure that need a tracker call. -/
theorem instrumentsAt_iff (hd : u.Distinct) (hnew : inj.visited = []) {r : Injector × SourceUnit ×
    InjectionSummary} (h : inj.apply (Analysis.run o u) u = .ok r) {l : Location} :
    (Analysis.run o u).InstrumentsAt r.2.2 l ↔ ∃ f ∈ (Analysis.run o u).targets,
      inj.needsCall (members (Analysis.run o u)) f = true ∧ f.declaration.location = l := by
  have hplace : ∀ mt ∈ met inj (members (Analysis.run o u)) u.heads,
      (Analysis.run o u).index.placeOf mt.id = some mt.function.declaration.location :=
    fun mt hmt ↦ congrArg (Option.map _) (function_of_mem_met hd hmt).2
  have hinstrumented := (run_spec hd hnew h).1.instrumented
  rw [List.nil_append] at hinstrumented
  rw [InstrumentsAt, hinstrumented]
  constructor
  · rintro ⟨id, hid, hl⟩
    obtain ⟨mt, hready, rfl⟩ := List.mem_map.1 hid
    obtain ⟨hmt, hready⟩ := List.mem_filter.1 hready
    obtain ⟨hclosure, hfunction⟩ := function_of_mem_met hd hmt
    rw [hplace mt hmt] at hl
    exact ⟨mt.function, List.mem_filterMap.2 ⟨mt.id, hclosure, hfunction⟩,
      (needsCall_of_mem_met hd hmt).trans hready, Option.some.inj hl⟩
  · rintro ⟨f, hf, hneeds, rfl⟩
    obtain ⟨mt, hmt, rfl⟩ := exists_met_of_mem_targets inj hd hf
    exact ⟨mt.id, List.mem_map.2 ⟨mt, List.mem_filter.2
      ⟨hmt, (needsCall_of_mem_met hd hmt).symm.trans hneeds⟩, rfl⟩, hplace mt hmt⟩

/-- **The order of items does not matter.** If no two functions of a unit stand at the same place,
the analyses of the unit and of one with its items in another order say the same about all places.
If no two heads stand at the same place, a new injector comes to the end of both or of none, and
instruments the functions at the same places. -/
theorem apply_reordered (hu : u.Reordered u') (hplaces : (Index.build o u).places.Nodup) :
    SameByPlace (Analysis.run o u) (Analysis.run o u') ∧
      ∀ inj : Injector, u.Distinct → inj.visited = [] →
        ((∃ r, inj.apply (Analysis.run o u) u = .ok r) ↔
          ∃ r, inj.apply (Analysis.run o u') u' = .ok r) ∧
        ∀ r r', inj.apply (Analysis.run o u) u = .ok r →
          inj.apply (Analysis.run o u') u' = .ok r' →
          ∀ l, (Analysis.run o u).InstrumentsAt r.2.2 l ↔
            (Analysis.run o u').InstrumentsAt r'.2.2 l := by
  refine ⟨sameByPlace_of_reordered hu hplaces, fun inj hd hnew ↦ ?_⟩
  -- one direction is enough, as each of the two orders can be made of the other one
  have hends : ∀ {u u' : SourceUnit}, u.Reordered u' → u.Distinct →
      (∃ r, inj.apply (Analysis.run o u) u = .ok r) →
        ∃ r, inj.apply (Analysis.run o u') u' = .ok r := by
    intro u u' hu hd hrun
    rw [apply_ends_iff hd hnew] at hrun
    refine (apply_ends_iff (hu.distinct hd) hnew).2 fun f' hf' ↦ ?_
    obtain ⟨f, hf, hsame⟩ := exists_target hu.symm (hu.distinct hd) hf'
    rw [manages_of_anonymous (members_alike hu hd) hsame.symm]
    exact hrun f hf
  have hlisted : ∀ {u u' : SourceUnit} {r r'}, u.Reordered u' → u.Distinct →
      inj.apply (Analysis.run o u) u = .ok r → inj.apply (Analysis.run o u') u' = .ok r' →
      ∀ {l}, (Analysis.run o u).InstrumentsAt r.2.2 l →
        (Analysis.run o u').InstrumentsAt r'.2.2 l := by
    intro u u' r r' hu hd hrun hrun' l h
    obtain ⟨f, hf, hneeds, rfl⟩ := (instrumentsAt_iff hd hnew hrun).1 h
    obtain ⟨f', hf', hsame⟩ := exists_target hu hd hf
    refine (instrumentsAt_iff (hu.distinct hd) hnew hrun').2
      ⟨f', hf', ?_, Function.location_of_anonymous hsame⟩
    rwa [needsCall_of_anonymous (members_alike hu hd) hsame]
  exact ⟨⟨hends hu hd, hends hu.symm (hu.distinct hd)⟩, fun r r' hrun hrun' l ↦
    ⟨hlisted hu hd hrun hrun', hlisted hu.symm (hu.distinct hd) hrun' hrun⟩⟩

/-! ### Two closures outside any function, and a call of a function that stands further down -/

/-- Two values with marked closures, and a tracked function that calls another one. -/
def forwardText : String :=
  "static A: S = #[component] || one();\nstatic B: S = #[component] || two();\n" ++
  "#[component]\n#[track_recompositions(include_nested = true)]\nfn f(cx: H) \x7b g(cx); \x7d\n" ++
  "#[component]\nfn g(cx: H) \x7b\x7d\n"

/-- A unit with its items in the opposite order. -/
def backwards (u : SourceUnit) : SourceUnit := { u with items := .list u.items.children.reverse }

theorem apply_reordered_forwardText : ∃ u, parseUnit forwardText = .ok u ∧
    u.Reordered (backwards u) ∧ u.Distinct ∧
    (Analysis.run {} u).functions.toList.map (·.declaration.localName) =
      ["\x7bclosure#1\x7d", "\x7bclosure#2\x7d", "f", "g"] ∧
    (Analysis.run {} (backwards u)).functions.toList.map (·.declaration.localName) =
      ["g", "f", "\x7bclosure#1\x7d", "\x7bclosure#2\x7d"] ∧
    SameByPlace (Analysis.run {} u) (Analysis.run {} (backwards u)) ∧
    ∃ r r', newInjector.apply (Analysis.run {} u) u = .ok r ∧
      newInjector.apply (Analysis.run {} (backwards u)) (backwards u) = .ok r' ∧
      r.2.2.instrumented = [2, 3] ∧ r'.2.2.instrumented = [0, 1] ∧
      ∀ l, (Analysis.run {} u).InstrumentsAt r.2.2 l ↔
        (Analysis.run {} (backwards u)).InstrumentsAt r'.2.2 l := by
  have hparse : ∃ u, SourceUnit.parse forwardText = .ok u ∧
      (decide u.Distinct,
        [u, backwards u].map fun u ↦
          (Analysis.run {} u).functions.toList.map (·.declaration.localName),
        [u, backwards u].map fun u ↦
          (newInjector.apply (Analysis.run {} u) u).toOption.map (·.2.2.instrumented)) =
      (true, [["\x7bclosure#1\x7d", "\x7bclosure#2\x7d", "f", "g"],
        ["g", "f", "\x7bclosure#1\x7d", "\x7bclosure#2\x7d"]], [some [2, 3], some [0, 1]]) :=
    exists_parse_eq_ok (append_eq_ofList (append_eq_ofList rfl rfl) rfl) (by decide +kernel)
  obtain ⟨u, hparse, hunit⟩ := hparse
  simp only [Prod.mk.injEq, decide_eq_true_eq, List.map_cons, List.map_nil, List.cons.injEq,
    and_true] at hunit
  obtain ⟨hd, ⟨hnames, hnames'⟩, hfirst, hsecond⟩ := hunit
  obtain ⟨items, hitems⟩ := SourceUnit.exists_items_of_parse hparse
  have hreordered : u.Reordered (backwards u) :=
    ⟨items, items.reverse, (List.reverse_perm items).symm, hitems, by rw [backwards, hitems]; rfl⟩
  obtain ⟨hsame, hpass⟩ := apply_reordered (o := {}) hreordered (build_places_nodup hd)
  obtain ⟨r, hrun, hr⟩ := exists_eq_ok hfirst
  obtain ⟨r', hrun', hr'⟩ := exists_eq_ok hsecond
  exact ⟨u, by rw [parseUnit, hparse]; rfl, hreordered, hd, hnames, hnames', hsame, r, r', hrun,
    hrun', hr, hr', (hpass newInjector hd rfl).2 r r' hrun hrun'⟩

end Injector

end RenderTrace
