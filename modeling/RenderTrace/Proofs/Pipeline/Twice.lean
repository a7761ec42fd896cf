import RenderTrace.Proofs.Pipeline.InTurn
import RenderTrace.Proofs.Pipeline.Tally

/-!
# The second of two runs over a text

The second run knows nothing of the first one: it reads the text that was laid out, with the tracker
calls in it, and its closure can have members that the first one did not have (`hostNamed`). These
get their tracker calls late. But no function gets two: `instrumentSource_twice` says that the second
run passes over everything that the first one left with a tracker call, so that it changes nothing
where its closure has no other members for the host.

The functions stand at other places in the new text. What the two units have in common is the order
of their functions: `SourceUnit.Counterparts` pairs the places of two units in the order of their
trees, which a layout keeps together with the sketch. A member of the first closure that has a
parameter for the host came out of the first run with a tracker call, whether it got it there or had
it before, and the second run recognises the call behind the layout.

## What is assumed

Of the first run, what `instrumentInTurn_once` assumes: its calls are recognised, and the expressions
that it puts into blocks are read with the functions in them. Of the layout, that its text is read as
the unit that was laid out, up to spelling.
-/

namespace RenderTrace

open Syntax

/-! ### The same functions in two units -/

namespace Syntax

/-- What the trees of a unit have in common with their sketches. -/
theorem SourceUnit.beginnings_of_sketch_eq {u v : SourceUnit} (h : v.sketch = u.sketch) :
    v.heads.map Head.begins = u.heads.map Head.begins := by
  obtain ⟨hattributes, hitems⟩ := Prod.mk.inj h
  have hsame {n n' : Node} (h : n'.sketch = n.sketch) : n'.beginnings = n.beginnings := by
    rw [← Node.beginnings_sketch, h, Node.beginnings_sketch]
  rw [heads, heads, List.map_append, List.map_append]
  exact congrArg₂ (· ++ ·) (hsame hattributes) (hsame hitems)

/-- Two units have the same function, in the order of their trees, at a place of the first and at a
place of the second. -/
def SourceUnit.Counterparts (u v : SourceUnit) (l l' : Location) : Prop :=
  (l, l') ∈ (u.heads.map (·.place)).zip (v.heads.map (·.place))

instance (u v : SourceUnit) (l l' : Location) : Decidable (u.Counterparts v l l') :=
  inferInstanceAs (Decidable (_ ∈ _))

/-- Units of the same sketch have counterparts that begin with a tracker call alike. -/
theorem SourceUnit.exists_of_counterparts {u v : SourceUnit} {l l' : Location}
    (hsketch : v.sketch = u.sketch) (h : u.Counterparts v l l') :
    ∃ head ∈ u.heads, ∃ head' ∈ v.heads, head.place = l ∧ head'.place = l' ∧
      head'.begins = head.begins := by
  obtain ⟨i, hi, heq⟩ := List.mem_iff_getElem.1 h
  rw [List.length_zip, List.length_map, List.length_map, Nat.lt_min] at hi
  rw [List.getElem_zip, List.getElem_map, List.getElem_map] at heq
  obtain ⟨hplace, hplace'⟩ := Prod.mk.inj heq
  have hbegins := congrArg (·[i]?) (beginnings_of_sketch_eq hsketch)
  simp only [List.getElem?_map, List.getElem?_eq_getElem hi.1, List.getElem?_eq_getElem hi.2,
    Option.map_some, Option.some.injEq] at hbegins
  exact ⟨_, List.getElem_mem hi.1, _, List.getElem_mem hi.2, hplace, hplace', hbegins⟩

end Syntax

namespace Injector

variable {o : Options} {u v : SourceUnit} {inj : Injector} {m : Members}

/-! ### Behind the first run -/

/-- A form that a call is wanted for is a block with one behind a pass, if it is that of a body. -/
theorem Form.Steps.begun {form form' : Form} (h : form.Steps true form') (hbody : form ≠ .missing)
    (hother : form ≠ .other) : ∃ count, form' = .block true count := by
  cases h with
  | kept hexpression =>
    cases form with
    | missing => exact absurd rfl hbody
    | expression => exact absurd (hexpression rfl) nofun
    | block begun count => cases begun <;> exact ⟨_, rfl⟩
    | other => exact absurd rfl hother
  | @put begun count => cases begun <;> exact ⟨_, rfl⟩

/-- A member of the closure has a body, and its head is one of the unit. -/
theorem member_of_mem_targets (hd : u.Distinct) {f : Function}
    (hf : f ∈ (Analysis.run o u).targets) :
    members (Analysis.run o u) f.declaration.location = some f ∧ f.head ∈ u.heads ∧
      ∃ body, f.head.body = some body := by
  obtain ⟨id, hid, hfunction⟩ := List.mem_filterMap.1 hf
  obtain ⟨f', hf', hbody⟩ := Analysis.exists_function_of_mem_closure o u hid
  obtain rfl := Option.some.inj (hfunction.symm.trans hf')
  obtain rfl := (Index.build_numbered o u id f hfunction).1
  exact ⟨(members_eq_some hd).2 ⟨rfl, hid, hfunction⟩, Index.head_mem_heads hfunction,
    Option.isSome_iff_exists.1 hbody⟩

/-- What stands where a run met a member with a parameter for the host begins with a tracker call
behind the run. -/
theorem begins_of_apply {source : String} (hparse : parseUnit source = .ok u)
    (hinj : ofOptions o = .ok inj) (hinert : inj.isInert = true)
    (hreads : u.heads.all (inj.readsBack (members (Analysis.run o u))) = true)
    {inj' : Injector} {u' : SourceUnit} {s : InjectionSummary}
    (happly : inj.apply (Analysis.run o u) u = .ok (inj', u', s)) {f : Function}
    (hf : f ∈ (Analysis.run o u).targets) (hhost : inj.hasHost f = true)
    (hplace : f.declaration.location ≠ .start) {head : Head} (hhead : head ∈ u'.heads)
    (hat : head.place = f.declaration.location) : head.begins = true := by
  have hd := distinct_of_parseUnit hparse
  have hevolves := apply_evolves (fresh_of_distinct hd) hinj hinert hreads happly
  -- the head is shown, and so is what the run made it of
  obtain ⟨s', hs', hsame', hform'⟩ := SourceUnit.exists_shown_of_head hhead (hat ▸ hplace)
  obtain ⟨i, hi, rfl⟩ := List.mem_iff_getElem.1 hs'
  obtain ⟨hlength, hall⟩ := List.forall₂_iff_get.1 hevolves
  have hspot := hall i (hlength ▸ hi) hi
  simp only [List.get_eq_getElem] at hspot
  obtain ⟨before, hbefore, hsame, hform⟩ :=
    SourceUnit.exists_head_of_shown (List.getElem_mem (hlength ▸ hi : i < u.shown.length))
  -- and that is the member
  obtain ⟨hmember, hmem, body, hbody⟩ := member_of_mem_targets hd hf
  have hstands : before.place = f.declaration.location :=
    hsame.trans (hspot.place.symm.trans (hsame'.trans hat))
  obtain rfl : before = f.head := hd.head_inj hbefore hmem hstands
  have hsteps := hspot.form
  rw [← hform, ← hsame, show f.head.place = f.declaration.location from rfl,
    wants_eq_true.2 ⟨f, hmember, hhost⟩] at hsteps
  obtain ⟨count, hblock⟩ :=
    hsteps.begun (formOf_ne_missing hbody) (formOf_ne_other_of_parseUnit hparse _ hbefore)
  rw [hform'] at hblock
  cases hnew : head.body with
  | none =>
    rw [formOf, hnew] at hblock
    cases hblock
  | some body' => exact begins_of_form hnew hblock

/-! ### In the second run -/

/-- An injector passes over a function whose body begins with a tracker call. -/
theorem passesOver_of_begins {f : Function} (h : f.head.begins = true) :
    inj.passesOver m f = true := by
  obtain ⟨body, hbody, hbegins⟩ := (Option.any_eq_true _ _).1 h
  have hbody : f.body = some body := hbody
  rw [passesOver, hasBlock, begins, hbody]
  cases hclosure : f.isClosure with
  | false =>
    rw [show f.head.isClosure = false from hclosure, if_neg Bool.false_ne_true] at hbegins
    simp [hbegins]
  | true =>
    rw [show f.head.isClosure = true from hclosure, if_pos rfl] at hbegins
    obtain ⟨block, hplain, hbegins⟩ := (Option.any_eq_true _ _).1 hbegins
    simp [bodyBlock?, plainBlock?_rewritten, hplain, hbegins]

variable (inj) in
/-- A place of a unit `v` is the counterpart of one in `u'` where a run left a tracker call: a member
of the closure stands there that has a parameter for the host. No name stands where a text starts,
which is the place of all tokens that no text spells. -/
def LeftCalled (a : Analysis) (u' v : SourceUnit) (l : Location) : Prop :=
  ∃ f ∈ a.targets, inj.hasHost f = true ∧ f.declaration.location ≠ .start ∧
    u'.Counterparts v f.declaration.location l

instance (a : Analysis) (u' v : SourceUnit) (l : Location) : Decidable (inj.LeftCalled a u' v l) :=
  inferInstanceAs (Decidable (∃ f ∈ a.targets, _))

/-- The second run passes over what the first one left with a tracker call. -/
theorem passesOver_of_leftCalled {source text : String} (hparse : parseUnit source = .ok u)
    (hinj : ofOptions o = .ok inj) (hinert : inj.isInert = true)
    (hreads : u.heads.all (inj.readsBack (members (Analysis.run o u))) = true)
    {inj' : Injector} {u' : SourceUnit} {s : InjectionSummary}
    (happly : inj.apply (Analysis.run o u) u = .ok (inj', u', s)) (hread : parseUnit text = .ok v)
    (hsketch : v.sketch = u'.sketch) {g : Function} (hg : g ∈ (Analysis.run o v).targets)
    (h : inj.LeftCalled (Analysis.run o u) u' v g.declaration.location) :
    inj.passesOver m g = true := by
  obtain ⟨f, hf, hhost, hplace, hcounterparts⟩ := h
  obtain ⟨head, hhead, head', hhead', hat, hat', hbegins⟩ :=
    SourceUnit.exists_of_counterparts hsketch hcounterparts
  have hd := distinct_of_parseUnit hread
  obtain rfl : head' = g.head := hd.head_inj hhead' (member_of_mem_targets hd hg).2.1 hat'
  refine passesOver_of_begins (hbegins.trans ?_)
  exact begins_of_apply hparse hinj hinert hreads happly hf hhost hplace hhead hat

end Injector

/-! ### Two runs -/

open Injector

variable {o : Options} {name source : String} {layout : SourceUnit → Option String}

/-- What a run reports is a member of the closure that it did not pass over. -/
theorem exists_target_of_reported {inj : Injector} {u : SourceUnit} {out : SourceOutcome}
    (henabled : o.enabled = true) (hinj : ofOptions o = .ok inj) (hparse : parseUnit source = .ok u)
    (h : (instrumentSource layout o name source).result = .ok out) {l : Location}
    (hl : out.report.instrumentedAt l = true) :
    ∃ f ∈ (Analysis.run o u).targets, f.declaration.location = l ∧
      inj.passesOver (members (Analysis.run o u)) f = false := by
  have hd := distinct_of_parseUnit hparse
  obtain ⟨u₁, done, hparse₁, hdone, hsame⟩ := exists_of_instrumentSource henabled h
  obtain rfl := Except.ok.inj (hparse.symm.trans hparse₁)
  obtain ⟨inj', s, happly, hreport⟩ := exists_apply_of_instrumentUnit henabled hinj hdone
  obtain ⟨hadvances, -⟩ := run_spec hd (visited_of_ofOptions hinj) happly
  rw [hsame, hreport, instrumentedAt_iff name _ l
    (hadvances.instrumented.trans (List.nil_append _))] at hl
  obtain ⟨mt, hmt, hready, rfl⟩ := hl
  obtain ⟨hclosure, hfunction⟩ := function_of_mem_met hd hmt
  refine ⟨mt.function, List.mem_filterMap.2 ⟨mt.id, hclosure, hfunction⟩, rfl, ?_⟩
  rw [passesOver_of_mem_met hd hmt, hready, Bool.not_true, Bool.and_false]

/-- **No function gets a second tracker call.** The second run over a text changes nothing if the
members of its closure that have a parameter for the host were all left with a tracker call by the
first run, and none of those is reported whatever else it changes. -/
theorem instrumentSource_twice {inj : Injector} {u : SourceUnit} {done : UnitOutcome}
    {out : SourceOutcome} (hinj : ofOptions o = .ok inj) (hinert : inj.isInert = true)
    (hparse : parseUnit source = .ok u) (hback : readsBack o u = true)
    (hdone : instrumentUnit o name u = .ok done) (hlayout : KeepsSketch layout done.unit)
    (h : (instrumentSource layout o name source).result = .ok out)
    (hreport : out.report.instrumented ≠ []) :
    ∃ v, parseUnit out.source = .ok v ∧
      ((∀ g ∈ (Analysis.run o v).targets,
          inj.LeftCalled (Analysis.run o u) done.unit v g.declaration.location ∨
            inj.hasHost g = false ∧ inj.hasBlock (members (Analysis.run o v)) g = true) →
        ∃ report, (instrumentSource layout o name out.source).result = .ok ⟨out.source, report⟩ ∧
          report.instrumented = []) ∧
      ∀ out', (instrumentSource layout o name out.source).result = .ok out' →
        ∀ l, out'.report.instrumentedAt l = true →
          ¬inj.LeftCalled (Analysis.run o u) done.unit v l := by
  obtain ⟨henabled, -⟩ := exists_injector h hreport
  obtain ⟨u₁, inj₁, inj', _, s, hparse₁, hinj₁, happly, ⟨done₁, hdone₁, rfl⟩, htext, -⟩ :=
    exists_of_instrumented h hreport
  obtain rfl := Except.ok.inj (hparse.symm.trans hparse₁)
  obtain rfl := Except.ok.inj (hinj.symm.trans hinj₁)
  obtain rfl := Except.ok.inj (hdone.symm.trans hdone₁)
  obtain ⟨v, hread, hsketch⟩ := hlayout out.source htext
  have hd := distinct_of_parseUnit hread
  have hnew := visited_of_ofOptions hinj
  have hreads : u.heads.all (inj.readsBack (members (Analysis.run o u))) = true := by
    rwa [readsBack, henabled, hinj, Bool.not_true, Bool.false_or] at hback
  have hcalled : ∀ g ∈ (Analysis.run o v).targets,
      inj.LeftCalled (Analysis.run o u) done.unit v g.declaration.location →
        inj.passesOver (members (Analysis.run o v)) g = true := fun g hg ↦
    passesOver_of_leftCalled hparse hinj hinert hreads happly hread hsketch hg
  refine ⟨v, hread, fun hall ↦ ?_, fun out' hout' l hlisted hl ↦ ?_⟩
  · refine (instrumentSource_idle_iff henabled hinj hread).2 ((apply_idle_iff hd hnew).2 ?_)
    intro g hg
    rcases hall g hg with hl | ⟨hhost, hblock⟩
    · exact hcalled g hg hl
    · simp [passesOver, hhost, hblock]
  · obtain ⟨g, hg, rfl, hpasses⟩ := exists_target_of_reported henabled hinj hread hout' hlisted
    rw [hcalled g hg hl] at hpasses
    cases hpasses

/-- The closure that the first run put into a block with a tracker call stays as it is. -/
theorem instrumentSource_twice_trackedOne : ∃ out report,
    (instrumentSource SourceUnit.layout? shortOptions "unit" trackedOne).result = .ok out ∧
    out.report.instrumented ≠ [] ∧
    (instrumentSource SourceUnit.layout? shortOptions "unit" out.source).result =
      .ok ⟨out.source, report⟩ ∧ report.instrumented = [] := by
  obtain ⟨u, v, hparse, hread, hunits⟩ : ∃ u v, parseUnit trackedOne = .ok u ∧
      parseUnit trackedOneAgain = .ok v ∧ ((ofOptions shortOptions).toOption.bind fun inj ↦
        (instrumentUnit shortOptions "unit" u).toOption.map fun done ↦
          ([inj.isInert, readsBack shortOptions u, v.sameSketch done.unit,
            (Analysis.run shortOptions v).targets.all fun g ↦ decide
              (inj.LeftCalled (Analysis.run shortOptions u) done.unit v g.declaration.location)],
            SourceUnit.layout? done.unit, done.report.instrumented.length)) =
      some ([true, true, true, true], some trackedOneAgain, 1) :=
    exists_parseUnits_eq_ok rfl (append_eq_ofList (append_eq_ofList rfl rfl) rfl)
      (by decide +kernel)
  obtain ⟨inj, hinj, hrest⟩ := Option.bind_eq_some_iff.1 hunits
  have hinj := eq_ok_of_toOption hinj
  obtain ⟨done, hdone, hrest⟩ := exists_eq_ok hrest
  simp only [Prod.mk.injEq, List.cons.injEq, and_true, List.all_eq_true, decide_eq_true_eq] at hrest
  obtain ⟨⟨hinert, hback, hsame, hcalled⟩, htext, hone⟩ := hrest
  have hreport : done.report.instrumented ≠ [] := fun h ↦ by
    rw [h] at hone
    cases hone
  have hkeeps : KeepsSketch SourceUnit.layout? done.unit := .of_keepsSketch <| by
    rw [keepsSketch, htext, Option.all_some, hread]
    exact hsame
  have hout := instrumentSource_laidOut rfl hparse hdone hreport htext
  obtain ⟨v', hread', hidle, -⟩ :=
    instrumentSource_twice hinj hinert hparse hback hdone hkeeps hout hreport
  obtain rfl := Except.ok.inj (hread.symm.trans hread')
  obtain ⟨report, hrun, hnone⟩ := hidle fun g hg ↦ .inl (hcalled g hg)
  exact ⟨_, report, hout, hreport, hrun, hnone⟩

end RenderTrace
