import RenderTrace.Proofs.ClosureSet.Search
import RenderTrace.Proofs.Injection.Pass
import RenderTrace.Proofs.Injection.Quotation

/-!
# What an injector does to a unit

The pass of a new injector over a unit and its analysis, put together: which functions it met
(`met_perm`), what it made of the unit (`weave_yields`), what it reports, and why it does nothing
when it comes again.

## The two walks meet the same functions

The index is built by one walk and looked up by another one. Both are walks over the heads of the
unit: what the index records are heads (`Index.build_adds`), and a pass meets the heads that have a
body and stand at the place of a member. A member of the closure has a body, so it is met; and as no
two heads stand at the same place, it is met once, and with the body that was recorded.
-/

namespace RenderTrace

open Syntax

namespace Analysis

/-- What the closure is computed from. -/
def candidates (s : Index) : List Candidate :=
  s.functions.toList.map (candidate (CallGraph.build s))

theorem getElem?_candidates (s : Index) (i : Nat) :
    (candidates s)[i]? = s.functions[i]?.map (candidate (CallGraph.build s)) := by
  rw [candidates, List.getElem?_map, Array.getElem?_toList]

variable (o : Options) (u : SourceUnit)

/-- The candidates of an analysis stand at the positions that their numbers say. -/
theorem candidates_positioned :
    ClosureSet.Positioned ((Index.build o u).functions.toList.map
      (candidate (CallGraph.build (Index.build o u)))) := by
  intro i c hc
  rw [List.getElem?_map, Option.map_eq_some_iff] at hc
  obtain ⟨f, hf, rfl⟩ := hc
  rw [Array.getElem?_toList] at hf
  exact (Index.build_numbered o u i f hf).1

theorem closure_nodup : (run o u).closure.order.Nodup :=
  ClosureSet.compute_order_nodup (candidates_positioned o u)

/-- The members of the closure are functions with a body. -/
theorem exists_function_of_mem_closure {id : FunctionId} (h : id ∈ (run o u).closure.order) :
    ∃ f, (run o u).function? id = some f ∧ f.body.isSome := by
  obtain ⟨c, hc, hbody⟩ :=
    ClosureSet.exists_candidate_of_mem_compute (candidates_positioned o u) h
  rw [List.getElem?_map, Option.map_eq_some_iff] at hc
  obtain ⟨f, hf, rfl⟩ := hc
  rw [Array.getElem?_toList] at hf
  exact ⟨f, hf, (Index.build_numbered o u id f hf).2.symm.trans hbody⟩

end Analysis

namespace Injector

variable {o : Options} {u : SourceUnit} {inj : Injector}

/-- What is a member by place stands there, and is a member by number. -/
theorem of_members_eq_some {l : Location} {f : Function}
    (h : members (Analysis.run o u) l = some f) :
    f.declaration.location = l ∧ f.declaration.id ∈ (Analysis.run o u).closure.order ∧
      (Analysis.run o u).function? f.declaration.id = some f := by
  obtain ⟨id, hlookup, hclosure, -, hf⟩ := target?_eq_some.1 h
  obtain ⟨g, hg, hplace⟩ := Index.exists_of_lookup (Index.build_numbered o u) hlookup
  obtain rfl : g = f := Option.some.inj (hg.symm.trans hf)
  obtain rfl := (Index.build_numbered o u id g hg).1
  exact ⟨hplace, by simpa [ClosureSet.contains] using hclosure, hf⟩

/-- Where places are different, no other function is a member by place. -/
theorem members_eq_some (hd : u.Distinct) {l : Location} {f : Function} :
    members (Analysis.run o u) l = some f ↔
      f.declaration.location = l ∧ f.declaration.id ∈ (Analysis.run o u).closure.order ∧
        (Analysis.run o u).function? f.declaration.id = some f := by
  refine ⟨of_members_eq_some, ?_⟩
  rintro ⟨rfl, hclosure, hf⟩
  refine target?_eq_some.2 ⟨f.declaration.id, ?_, by simpa [ClosureSet.contains] using hclosure,
    List.not_mem_nil, hf⟩
  exact Index.lookup_location (Index.build_numbered o u) (Index.build_places_nodup hd) hf

variable (inj) in
/-- The meeting with a function whose head has a body. -/
def meetingWith (m : Members) (f : Function) (isClosure : Bool) (body : Node) : Meeting :=
  ⟨f, if isClosure then bodyBlock (rewritten inj m body) else rewritten inj m body,
    !isClosure || (bodyBlock? (rewritten inj m body)).isSome⟩

/-- A meeting is one at a head with a body that stands at the place of a member. -/
theorem meet?_rewrittenHead {m : Members} {h : Head} {mt : Meeting} :
    meet? m (rewrittenHead inj m h) = some mt ↔ ∃ body f, h.body = some body ∧
      m h.place = some f ∧ meetingWith inj m f h.isClosure body = mt := by
  cases hbody : h.body <;> cases hf : m h.place <;>
    simp [meet?, rewrittenHead, meetingWith, hbody, hf]

variable (o u) in
/-- The places of the meetings are places of heads, in their order. -/
theorem met_places_sublist (inj : Injector) (hs : List Head) :
    ((met inj (members (Analysis.run o u)) hs).map (·.function.declaration.location)).Sublist
      (hs.map (·.place)) := by
  induction hs with
  | nil => exact List.Sublist.slnil
  | cons h hs ih =>
    rw [met, List.filterMap_cons, List.map_cons]
    split
    · exact ih.cons _
    · next mt hmeet =>
      obtain ⟨body, f, -, hf, rfl⟩ := meet?_rewrittenHead.1 hmeet
      rw [List.map_cons, ← (of_members_eq_some hf).1]
      exact ih.cons_cons _

/-- The functions that a pass meets are functions of the analysis and members of the closure. -/
theorem function_of_mem_met (hd : u.Distinct) {hs : List Head} {mt : Meeting}
    (hmt : mt ∈ met inj (members (Analysis.run o u)) hs) :
    mt.id ∈ (Analysis.run o u).closure.order ∧
      (Analysis.run o u).function? mt.id = some mt.function := by
  obtain ⟨h, -, hmeet⟩ := List.mem_filterMap.1 hmt
  obtain ⟨body, f, -, hf, rfl⟩ := meet?_rewrittenHead.1 hmeet
  exact ((members_eq_some hd).1 hf).2

/-- Meetings at different places are with different functions. -/
theorem met_nodup_of_places {hs : List Head}
    (hplaces : ((met inj (members (Analysis.run o u)) hs).map
      (·.function.declaration.location)).Nodup) :
    ((met inj (members (Analysis.run o u)) hs).map Meeting.id).Nodup := by
  have hmap : (met inj (members (Analysis.run o u)) hs).map
      (·.function.declaration.location) =
      ((met inj (members (Analysis.run o u)) hs).map Meeting.id).map fun id ↦
        (((Analysis.run o u).function? id).map (·.declaration.location)).getD .start := by
    rw [List.map_map]
    refine List.map_congr_left fun mt hmt ↦ ?_
    obtain ⟨h, -, hmeet⟩ := List.mem_filterMap.1 hmt
    obtain ⟨body, f, -, hf, rfl⟩ := meet?_rewrittenHead.1 hmeet
    rw [Function.comp_apply, Meeting.id, meetingWith, (of_members_eq_some hf).2.2]
    rfl
  rw [hmap] at hplaces
  exact hplaces.of_map

/-- The meetings of a pass over a whole unit are with different functions. -/
theorem met_nodup (hd : u.Distinct) :
    ((met inj (members (Analysis.run o u)) u.heads).map Meeting.id).Nodup :=
  met_nodup_of_places (hd.sublist (met_places_sublist o u inj u.heads))

/-- A pass over a whole unit meets all members of the closure. -/
theorem met_perm (hd : u.Distinct) :
    ((met inj (members (Analysis.run o u)) u.heads).map Meeting.id).Perm
      (Analysis.run o u).closure.order := by
  refine (List.perm_ext_iff_of_nodup (met_nodup hd) (Analysis.closure_nodup o u)).2 fun id ↦ ?_
  constructor
  · intro hid
    obtain ⟨mt, hmt, rfl⟩ := List.mem_map.1 hid
    exact (function_of_mem_met hd hmt).1
  · intro hid
    obtain ⟨f, hf, hbody⟩ := Analysis.exists_function_of_mem_closure o u hid
    obtain ⟨body, hbody⟩ := Option.isSome_iff_exists.1 hbody
    obtain rfl := (Index.build_numbered o u id f hf).1
    have hmember : members (Analysis.run o u) f.head.place = some f :=
      (members_eq_some hd).2 ⟨rfl, hid, hf⟩
    refine List.mem_map.2
      ⟨meetingWith inj (members (Analysis.run o u)) f f.head.isClosure body, ?_, rfl⟩
    refine List.mem_filterMap.2 ⟨f.head, Index.head_mem_heads hf, ?_⟩
    exact meet?_rewrittenHead.2 ⟨body, f, hbody, hmember, rfl⟩

/-- The injector that options describe has the path that they give, and met no function. -/
theorem of_ofOptions (h : ofOptions o = .ok inj) :
    pathOf o.runtimePath = .ok inj.runtime ∧ inj.visited = [] := by
  unfold ofOptions at h
  cases hruntime : pathOf o.runtimePath with
  | error e =>
    rw [hruntime] at h
    cases h
  | ok runtime =>
    cases hhost : nameOf o.hostContext with
    | error e =>
      rw [hruntime, hhost] at h
      cases h
    | ok host =>
      rw [hruntime, hhost] at h
      obtain rfl := Except.ok.inj h
      exact ⟨rfl, rfl⟩

/-! ### What is said about a run -/

variable (inj) in
/-- Whether the body of a function begins with a tracker call. The body of a closure is looked at as
the block that it is, or that it is put into. -/
def begins (m : Members) (f : Function) : Bool :=
  match f.body with
  | none => false
  | some body =>
    if f.isClosure then
      match plainBlock? body with
      | some block => isInstrumented block
      | none => isInstrumented (bodyBlock (rewritten inj m body))
    else isInstrumented body

variable (inj) in
/-- Whether the body of a function is a block, or can be put into one. -/
def hasBlock (m : Members) (f : Function) : Bool :=
  match f.body with
  | none => false
  | some body => !f.isClosure || (bodyBlock? (rewritten inj m body)).isSome

/-- A block of statements. -/
def blockOf (d : Delimiter) (statements : List Node) : Node :=
  .node .block [.group d [.list statements]]

variable (inj) in
/-- A statement calls the tracker of the runtime with the host and the name of a function in
front. -/
def IsCallOf (f : Function) (call : Node) : Prop :=
  Injection.trackerStatement? inj.runtime inj.host f = some call ∧
    ∃ arguments, call = Quotation.statement (Quotation.call
      (Quotation.use (Quotation.extend inj.runtime Injection.trackerEntry))
      (Quotation.name inj.host :: Quotation.text f.declaration.displayName :: arguments))

theorem apply_of_run {a : Analysis} {attributes items : Node} {p : Pass}
    (h : (weaveUnit inj a u).run ⟨inj.visited, {}⟩ = .ok ((attributes, items), p)) :
    inj.apply a u = .ok ({ inj with visited := p.visited }, { u with attributes, items },
      p.summary.concluded) := by
  rw [apply, h]
  rfl

theorem run_of_apply {a : Analysis} {inj' : Injector} {u' : SourceUnit} {s : InjectionSummary}
    (h : inj.apply a u = .ok (inj', u', s)) : ∃ attributes items p,
      (weaveUnit inj a u).run ⟨inj.visited, {}⟩ = .ok ((attributes, items), p) ∧
        inj' = { inj with visited := p.visited } ∧ u' = { u with attributes, items } ∧
        s = p.summary.concluded := by
  cases hrun : (weaveUnit inj a u).run ⟨inj.visited, {}⟩ with
  | error e =>
    rw [apply, hrun] at h
    cases h
  | ok r =>
    obtain ⟨⟨attributes, items⟩, p⟩ := r
    obtain ⟨rfl, hrest⟩ := Prod.mk.inj (Except.ok.inj (h.symm.trans (apply_of_run hrun)))
    obtain ⟨rfl, rfl⟩ := Prod.mk.inj hrest
    exact ⟨attributes, items, p, rfl, rfl, rfl, rfl⟩

theorem weaveUnit_yields {a : Analysis} (hn : a.index.Numbered) :
    Yields inj a (weaveUnit inj a u)
      (rewritten inj (members a) u.attributes, rewritten inj (members a) u.items) u.heads :=
  (weave_yields hn u.attributes).bind ((weave_yields hn u.items).map (Prod.mk _))

/-- No member of a closure comes twice to a new injector. -/
theorem fresh_of_distinct (hd : u.Distinct) : Fresh inj (Analysis.run o u) u.heads ⟨[], {}⟩ := by
  simpa [Fresh] using met_nodup hd

/-- The run of a new injector that meets no function twice: what the unit becomes, and what is
reported about its meetings. -/
theorem run_spec_of_fresh (hfresh : Fresh inj (Analysis.run o u) u.heads ⟨[], {}⟩)
    (hnew : inj.visited = []) {inj' : Injector} {u' : SourceUnit} {s : InjectionSummary}
    (h : inj.apply (Analysis.run o u) u = .ok (inj', u', s)) :
    Advances inj (met inj (members (Analysis.run o u)) u.heads) ⟨[], {}⟩ ⟨inj'.visited, s⟩ ∧
      u' = { u with
        attributes := rewritten inj (members (Analysis.run o u)) u.attributes
        items := rewritten inj (members (Analysis.run o u)) u.items } := by
  obtain ⟨attributes, items, p, hrun, rfl, rfl, rfl⟩ := run_of_apply h
  rw [hnew] at hrun
  obtain ⟨hresult, hadvances⟩ :=
    (weaveUnit_yields (Index.build_numbered o u)).spec hfresh hrun
  obtain ⟨rfl, rfl⟩ := Prod.mk.inj hresult
  exact ⟨⟨hadvances.visited, hadvances.instrumented, hadvances.untouched, hadvances.warnings,
    hadvances.passable⟩, rfl⟩

/-- The run of a new injector: what the unit becomes, and what is reported about its meetings. -/
theorem run_spec (hd : u.Distinct) (hnew : inj.visited = []) {inj' : Injector} {u' : SourceUnit}
    {s : InjectionSummary} (h : inj.apply (Analysis.run o u) u = .ok (inj', u', s)) :
    Advances inj (met inj (members (Analysis.run o u)) u.heads) ⟨[], {}⟩ ⟨inj'.visited, s⟩ ∧
      u' = { u with
        attributes := rewritten inj (members (Analysis.run o u)) u.attributes
        items := rewritten inj (members (Analysis.run o u)) u.items } :=
  run_spec_of_fresh (fresh_of_distinct hd) hnew h

/-- A new injector comes to the end of a unit if nothing stands against it. -/
theorem exists_apply (hd : u.Distinct) (hnew : inj.visited = [])
    (hpassable : ∀ mt ∈ met inj (members (Analysis.run o u)) u.heads, mt.IsPassable inj) :
    ∃ r, inj.apply (Analysis.run o u) u = .ok r := by
  obtain ⟨⟨⟨attributes, items⟩, p⟩, hrun⟩ :=
    (weaveUnit_yields (Index.build_numbered o u)).ends (fresh_of_distinct hd) hpassable
  exact ⟨_, apply_of_run (by rw [hnew]; exact hrun)⟩

/-- A pass over a unit meets a function with the body that the index recorded. -/
theorem body_of_mem_met (hd : u.Distinct) {mt : Meeting}
    (hmt : mt ∈ met inj (members (Analysis.run o u)) u.heads) :
    mt.function.head ∈ u.heads ∧
      members (Analysis.run o u) mt.function.head.place = some mt.function ∧
      ∃ body, mt.function.body = some body ∧
        mt = meetingWith inj (members (Analysis.run o u)) mt.function mt.function.isClosure
          body := by
  obtain ⟨h, hh, hmeet⟩ := List.mem_filterMap.1 hmt
  obtain ⟨body, f, hbody, hf, rfl⟩ := meet?_rewrittenHead.1 hmeet
  obtain ⟨hplace, -, hfunction⟩ := (members_eq_some hd).1 hf
  have hhead : f.head ∈ u.heads := Index.head_mem_heads hfunction
  obtain rfl : h = f.head := hd.head_inj hh hhead hplace.symm
  exact ⟨hhead, hf, body, hbody, rfl⟩

/-- What a pass finds out about a block is what its function tells. -/
theorem isInstrumented_of_mem_met (hd : u.Distinct) {mt : Meeting}
    (hmt : mt ∈ met inj (members (Analysis.run o u)) u.heads) :
    isInstrumented mt.block = inj.begins (members (Analysis.run o u)) mt.function := by
  obtain ⟨-, -, body, hbody, hmeeting⟩ := body_of_mem_met hd hmt
  rw [congrArg Meeting.block hmeeting, begins, hbody]
  simp only [meetingWith]
  cases mt.function.isClosure with
  | false => exact isInstrumented_rewritten body
  | true =>
    rw [if_pos rfl, if_pos rfl]
    cases hplain : plainBlock? body with
    | none => rfl
    | some block =>
      rw [bodyBlock, bodyBlock?, plainBlock?_rewritten, hplain]
      exact isInstrumented_rewritten block

/-- Whether a pass finds a block is what the function tells. -/
theorem fits_of_mem_met (hd : u.Distinct) {mt : Meeting}
    (hmt : mt ∈ met inj (members (Analysis.run o u)) u.heads) :
    mt.fits = inj.hasBlock (members (Analysis.run o u)) mt.function := by
  obtain ⟨-, -, body, hbody, hmeeting⟩ := body_of_mem_met hd hmt
  rw [congrArg Meeting.fits hmeeting, hasBlock, hbody]
  rfl

variable (inj) in
/-- A pass meets every member of the closure. -/
theorem exists_met_of_mem_targets (hd : u.Distinct) {f : Function}
    (hf : f ∈ (Analysis.run o u).targets) :
    ∃ mt ∈ met inj (members (Analysis.run o u)) u.heads, mt.function = f := by
  obtain ⟨id, hclosure, hfunction⟩ := List.mem_filterMap.1 hf
  have hmet : id ∈ (met inj (members (Analysis.run o u)) u.heads).map Meeting.id :=
    (met_perm hd).mem_iff.2 hclosure
  obtain ⟨mt, hmt, rfl⟩ := List.mem_map.1 hmet
  exact ⟨mt, hmt, Option.some.inj ((function_of_mem_met hd hmt).2.symm.trans hfunction)⟩

variable (inj) in
/-- The functions that a pass meets are the members of the closure. -/
theorem forall_mem_targets (hd : u.Distinct) {P : Function → Prop} :
    (∀ f ∈ (Analysis.run o u).targets, P f) ↔
      ∀ mt ∈ met inj (members (Analysis.run o u)) u.heads, P mt.function := by
  constructor
  · intro h mt hmt
    obtain ⟨hclosure, hfunction⟩ := function_of_mem_met hd hmt
    exact h _ (List.mem_filterMap.2 ⟨mt.id, hclosure, hfunction⟩)
  · intro h f hf
    obtain ⟨mt, hmt, rfl⟩ := exists_met_of_mem_targets inj hd hf
    exact h mt hmt

/-- The heads of a unit behind a rewriting, if the heads in expressions that are put into blocks are
found there too. -/
theorem placedHead_mem_unit_or {Q : Head → Prop} {m : Members}
    (hexpressions : ∀ c ∈ u.heads, c.isClosure = true → (m c.place).isSome →
      ∀ body, c.body = some body → plainBlock? body = none → ∀ h ∈ (rewritten inj m body).heads,
        h ∈ (inj.newBody m c.place c.isClosure (rewritten inj m body)).heads ∨ Q h)
    {h : Head} (hh : h ∈ u.heads) :
    placedHead inj m h ∈ SourceUnit.heads { u with
        attributes := rewritten inj m u.attributes
        items := rewritten inj m u.items } ∨ Q (placedHead inj m h) := by
  rw [SourceUnit.heads, List.mem_append] at hh
  rcases hh with hh | hh
  · exact (placedHead_mem_heads_or u.attributes
      (fun c hc ↦ hexpressions c (List.mem_append_left _ hc)) h hh).imp_left
      (List.mem_append_left _)
  · exact (placedHead_mem_heads_or u.items
      (fun c hc ↦ hexpressions c (List.mem_append_right _ hc)) h hh).imp_left
      (List.mem_append_right _)

theorem rewritten_blockOf {m : Members} (d : Delimiter) (statements : List Node) :
    rewritten inj m (blockOf d statements) = blockOf d (statements.map (rewritten inj m)) := by
  rw [blockOf, rewritten_plain fun _ ↦ rfl, List.map_singleton, rewritten_group,
    List.map_singleton, Node.list, rewritten_plain fun _ ↦ rfl]
  rfl

/-- The block of a function that gets its tracker call. -/
theorem front_blockOf {f : Function} {call : Node} {d : Delimiter} {statements : List Node}
    (hcall : Injection.trackerStatement? inj.runtime inj.host f = some call)
    (hbegins : isInstrumented (blockOf d statements) = false) (hhost : inj.hasHost f = true) :
    inj.front f (blockOf d statements) = blockOf d (call :: statements) := by
  have hready : inj.isReady f (blockOf d statements) = true := by
    rw [isReady, hbegins, hhost]
    rfl
  rw [front, if_pos hready, withCall, hcall]
  rfl

/-- A statement that instruments a function is a call for it. -/
theorem isCallOf_of_eq_some {f : Function} {call : Node}
    (h : Injection.trackerStatement? inj.runtime inj.host f = some call) :
    inj.IsCallOf f call := by
  refine ⟨h, ?_⟩
  unfold Injection.trackerStatement? at h
  dsimp only at h
  split at h
  · exact ⟨_, Quotation.eq_statement h⟩
  · cases h

/-- An injector that met no function. -/
def newInjector : Injector := { runtime := Quotation.path true ["runtime"], host := "cx" }

end Injector

end RenderTrace
