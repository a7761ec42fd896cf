import RenderTrace.Proofs.Injection.Counting
import RenderTrace.Proofs.Injection.Sketch
import RenderTrace.Proofs.Pipeline.Again
import RenderTrace.Proofs.Syntax.Places

/-!
# What a run adds to a text

A run decides from its report alone whether it lays out the unit again. So the report must be right
about the unit: `instrumentSource_tally` says that the text changes exactly if a function is
reported, and that the new text has as many more bodies that begin with a tracker call as functions
are reported.

## What is assumed

The layout is a parameter. It is assumed that what it writes is read as the tree that it was given,
up to spelling (`KeepsSketch`). Of the options it is assumed that the tracker calls are recognised,
and of the text that its closures are put into blocks as they are (`isTallied`). None of this is said
of units that nothing is put into.
-/

namespace RenderTrace

open Syntax

open Injector

/-! ### Bodies that are read from a text -/

namespace Syntax.Node

variable {l : Location}

/-- A block without flaws has statements. -/
theorem formOfBlock_ne_other {block : Node} (hblock : block.is .block = true)
    (h : block.marks l = 0) : formOfBlock block ≠ .other := by
  have hstatements {cs : List Node} (hflaw : flawed .block cs = false) :
      ∃ d statements, cs = [group d [.list statements]] := by
    unfold flawed at hflaw
    split at hflaw
    case h_1 d statements _ =>
      rw [Bool.not_eq_false'] at hflaw
      unfold isList at hflaw
      split at hflaw
      · exact ⟨d, _, rfl⟩
      · cases hflaw
    all_goals simp_all
  cases block with
  | node k cs =>
    obtain rfl : k = .block := by simpa [is, kind?] using hblock
    obtain ⟨d, statements, rfl⟩ := hstatements (marks_node_eq_zero h).2
    exact Form.noConfusion
  | _ => cases hblock

/-- Where there are no marks, the body of a function is a block of statements, and that of a closure
is such a block or another expression. -/
theorem formOf_ne_other {n : Node} (h : n.marks l = 0) : ∀ head ∈ n.heads, formOf head ≠ .other := by
  have hall {cs : List Node} (hcs : ∀ c ∈ cs, c.marks l = 0)
      (ih : ∀ c ∈ cs, c.marks l = 0 → ∀ head ∈ c.heads, formOf head ≠ .other) :
      ∀ head ∈ headsAll cs, formOf head ≠ .other := fun head hhead ↦ by
    obtain ⟨c, hc, hhead⟩ := mem_headsAll.1 hhead
    exact ih c hc (hcs c hc) head hhead
  induction n using Node.induction with
  | token | unread => exact List.forall_mem_nil _
  | group d cs ih => exact hall (marksAll_eq_zero h) ih
  | node k cs ih =>
    intro head hhead
    obtain ⟨hcs, hflaw⟩ := marks_node_eq_zero h
    rcases mem_heads_node.1 hhead with hinner | hof
    · exact hall hcs ih head hinner
    obtain ⟨place, isClosure, _ | body⟩ := head
    · exact Form.noConfusion
    have hbody : body.marks l = 0 := hcs body (List.mem_of_getElem? (Head.of?_body hof).1)
    rw [formOf_eq rfl]
    cases isClosure with
    | false =>
      obtain ⟨-, -, -, -, -, -, hblock⟩ := exists_signature hof hflaw rfl
      exact formOfBlock_ne_other (hblock body rfl) hbody
    | true =>
      cases hplain : plainBlock? body with
      | none => exact Form.noConfusion
      | some block =>
        obtain rfl := plainBlock?_eq_some.1 hplain
        obtain ⟨hparts, hblock⟩ := marks_node_eq_zero hbody
        exact formOfBlock_ne_other (by simpa using hblock) (hparts block (by simp))

end Syntax.Node

theorem formOf_ne_other_of_parseUnit {source : String} {u : SourceUnit}
    (h : parseUnit source = .ok u) : ∀ head ∈ u.heads, formOf head ≠ .other := by
  obtain ⟨l, hmarks⟩ := exists_marks_eq_zero h
  obtain ⟨hattributes, hitems⟩ := Nat.add_eq_zero_iff.1 hmarks
  exact fun head hhead ↦ (List.mem_append.1 hhead).elim (Node.formOf_ne_other hattributes head)
    (Node.formOf_ne_other hitems head)

/-! ### Units -/

namespace Injector

variable {o : Options} {u u' : SourceUnit} {inj inj' : Injector} {s : InjectionSummary}

/-- What is assumed of an injector and the unit that it is for. -/
def tallies (inj : Injector) (a : Analysis) (u : SourceUnit) : Bool :=
  inj.isInert && u.heads.all (inj.keepsBegun (members a))

/-- **An injection adds as many tracker calls to a unit as it reports.** -/
theorem begun_of_apply {source : String} (hparse : parseUnit source = .ok u)
    (hinj : ofOptions o = .ok inj) (htallies : inj.tallies (Analysis.run o u) u = true)
    (happly : inj.apply (Analysis.run o u) u = .ok (inj', u', s)) :
    u'.begun = u.begun + s.instrumented.length := by
  obtain ⟨hinert, hkeeps⟩ := Bool.and_eq_true_iff.1 htallies
  obtain ⟨hadvances, rfl⟩ :=
    run_spec (distinct_of_parseUnit hparse) (visited_of_ofOptions hinj) happly
  have hc : Countable inj (members (Analysis.run o u)) u.heads :=
    { bodies := formOf_ne_other_of_parseUnit hparse
      inert := inert_of_isInert hinj hinert
      silent := fun hcall ↦ begun_of_isInert hinert hcall
      keeps := List.all_eq_true.1 hkeeps
      passable := hadvances.passable }
  have hcount : s.instrumented.length =
      (met inj (members (Analysis.run o u)) u.heads).countP (·.isReady inj) := by
    rw [hadvances.instrumented, List.nil_append, List.length_map, List.countP_eq_length_filter]
  rw [hcount, SourceUnit.heads, met_append, List.countP_append, SourceUnit.begun, SourceUnit.begun,
    begun_rewritten (hc.mono (List.subset_append_left _ _)),
    begun_rewritten (hc.mono (List.subset_append_right _ _))]
  omega

end Injector

/-! ### Texts -/

variable {o : Options} {name source : String} {layout : SourceUnit → Option String}

/-- Whether a layout writes a text for a unit that is read as that unit up to spelling, if it writes
one. -/
def KeepsSketch (layout : SourceUnit → Option String) (u : SourceUnit) : Prop :=
  ∀ text, layout u = some text → ∃ v, parseUnit text = .ok v ∧ v.sketch = u.sketch

/-- Whether the text that a layout writes for a unit is found to be read as that unit up to
spelling. -/
def keepsSketch (layout : SourceUnit → Option String) (u : SourceUnit) : Bool :=
  (layout u).all fun text ↦ (parseUnit text).toOption.any (·.sameSketch u)

theorem KeepsSketch.of_keepsSketch {u : SourceUnit} (h : keepsSketch layout u = true) :
    KeepsSketch layout u := fun text htext ↦ by
  rw [keepsSketch, htext, Option.all_some, Option.any_eq_true] at h
  obtain ⟨v, hv, hsame⟩ := h
  obtain ⟨v', hparse, rfl⟩ := exists_eq_ok (f := id) (by rwa [Option.map_id])
  exact ⟨v', hparse, SourceUnit.sketch_eq_of_sameSketch hsame⟩

/-- What is assumed of options and a unit that a run is enabled for. -/
def isTallied (o : Options) (u : SourceUnit) : Bool :=
  !o.enabled ||
    match Injector.ofOptions o with
    | .ok inj => inj.tallies (Analysis.run o u) u
    | .error _ => true

/-- Whatever a run reports, it did to the unit, and wrote down. -/
theorem exists_of_instrumented {out : SourceOutcome}
    (h : (instrumentSource layout o name source).result = .ok out)
    (hreport : out.report.instrumented ≠ []) :
    ∃ u inj inj' u' s, parseUnit source = .ok u ∧ Injector.ofOptions o = .ok inj ∧
      inj.apply (Analysis.run o u) u = .ok (inj', u', s) ∧
      (∃ done, instrumentUnit o name u = .ok done ∧ done.unit = u') ∧
      layout u' = some out.source ∧ out.report.instrumented.length = s.instrumented.length := by
  obtain ⟨henabled, inj, hinj⟩ := exists_injector h hreport
  obtain ⟨u, done, hparse, hdone, hsame⟩ := exists_of_instrumentSource henabled h
  rw [instrumentSource_result henabled hparse hdone, if_neg (hsame ▸ hreport)] at h
  obtain ⟨inj', s, happly, hdid⟩ := exists_apply_of_instrumentUnit henabled hinj hdone
  have htext : layout done.unit = some out.source := by
    cases htext : layout done.unit with
    | none => simp only [htext] at h; cases h
    | some text =>
      simp only [htext] at h
      obtain rfl := Except.ok.inj h
      rfl
  refine ⟨u, inj, inj', done.unit, s, hparse, hinj, happly, ⟨done, hdone, rfl⟩, htext, ?_⟩
  rw [hsame, hdid]
  exact List.length_map _

/-- A run that reports nothing leaves the text as it is. -/
theorem source_eq_of_idle {out : SourceOutcome}
    (h : (instrumentSource layout o name source).result = .ok out)
    (hreport : out.report.instrumented = []) : out.source = source := by
  by_cases henabled : o.enabled = true
  · obtain ⟨u, done, hparse, hdone, hsame⟩ := exists_of_instrumentSource henabled h
    rw [instrumentSource_result henabled hparse hdone, if_pos (hsame ▸ hreport)] at h
    obtain rfl := Except.ok.inj h
    rfl
  · rw [instrumentSource, if_pos (by simpa using henabled)] at h
    obtain rfl := Except.ok.inj h
    rfl

/-- **A run changes a text exactly if it reports a function, and adds as many tracker calls as it
reports functions.** -/
theorem instrumentSource_tally (hcalls : ∀ u, parseUnit source = .ok u → isTallied o u = true)
    (hlayout : ∀ u done, parseUnit source = .ok u → instrumentUnit o name u = .ok done →
      KeepsSketch layout done.unit)
    {out : SourceOutcome} (h : (instrumentSource layout o name source).result = .ok out) :
    (out.source ≠ source ↔ out.report.instrumented ≠ []) ∧
      (out.report.instrumented ≠ [] → ∃ u v, parseUnit source = .ok u ∧
        parseUnit out.source = .ok v ∧
        v.begun = u.begun + out.report.instrumented.length) := by
  have hcount (hreport : out.report.instrumented ≠ []) : ∃ u v, parseUnit source = .ok u ∧
      parseUnit out.source = .ok v ∧ v.begun = u.begun + out.report.instrumented.length := by
    obtain ⟨u, inj, inj', u', s, hparse, hinj, happly, ⟨done, hdone, rfl⟩, htext, hlength⟩ :=
      exists_of_instrumented h hreport
    have htallies : inj.tallies (Analysis.run o u) u = true := by
      have htallied := hcalls u hparse
      rwa [isTallied, (exists_injector h hreport).1, Bool.not_true, Bool.false_or, hinj] at htallied
    obtain ⟨v, hread, hsketch⟩ := hlayout u done hparse hdone out.source htext
    refine ⟨u, v, hparse, hread, ?_⟩
    rw [SourceUnit.begun_eq_of_sketch_eq hsketch, begun_of_apply hparse hinj htallies happly,
      hlength]
  refine ⟨⟨fun hchanged hidle ↦ hchanged (source_eq_of_idle h hidle), fun hreport hsame ↦ ?_⟩,
    hcount⟩
  -- the text is another one, since it is read with another number of tracker calls
  obtain ⟨u, v, hparse, hread, hbegun⟩ := hcount hreport
  rw [hsame, hparse] at hread
  obtain rfl := Except.ok.inj hread
  exact hreport (List.length_eq_zero_iff.1 (by omega))

/-- A tracked closure whose body is an expression. -/
def trackedOne : String := "const F: F = #[component] #[track_recompositions] |cx| 1;\n"

/-- What a run makes of `trackedOne`. -/
def trackedOneAgain : String :=
  "const F: F = #[component]\n#[track_recompositions]\n|cx| \x7b\n" ++
  "    rt::recomposition_tracker(cx, \"<unit>.\x7bclosure#1\x7d\", &rt::EMPTY_ARGUMENTS, &[]);\n" ++
  "    1\n\x7d;\n"

theorem instrumentSource_tally_trackedOne : ∃ out u v,
    (instrumentSource SourceUnit.layout? shortOptions "unit" trackedOne).result = .ok out ∧
    out.source ≠ trackedOne ∧ out.report.instrumented.length = 1 ∧
    parseUnit trackedOne = .ok u ∧ u.begun = 0 ∧
    parseUnit out.source = .ok v ∧ v.begun = 1 := by
  obtain ⟨u, v, hparse, hread, hunit⟩ : ∃ u v, parseUnit trackedOne = .ok u ∧
      parseUnit trackedOneAgain = .ok v ∧ (isTallied shortOptions u, u.begun,
        (instrumentUnit shortOptions "unit" u).toOption.map fun done ↦
          (SourceUnit.layout? done.unit, v.sameSketch done.unit, done.report.instrumented.length)) =
      (true, 0, some (some trackedOneAgain, true, 1)) :=
    exists_parseUnits_eq_ok rfl (append_eq_ofList (append_eq_ofList rfl rfl) rfl)
      (by decide +kernel)
  obtain ⟨htallied, hrest⟩ := Prod.mk.inj hunit
  obtain ⟨hbegun, hrest⟩ := Prod.mk.inj hrest
  obtain ⟨done, hdone, hrest⟩ := exists_eq_ok hrest
  obtain ⟨htext, hrest⟩ := Prod.mk.inj hrest
  obtain ⟨hsame, hone⟩ := Prod.mk.inj hrest
  have hreport : done.report.instrumented ≠ [] := fun h ↦ by
    rw [h] at hone
    cases hone
  have hkeeps : keepsSketch SourceUnit.layout? done.unit = true := by
    rw [keepsSketch, htext, Option.all_some, hread]
    exact hsame
  have hout := instrumentSource_laidOut rfl hparse hdone hreport htext
  obtain ⟨hchanged, hadds⟩ := instrumentSource_tally
    (fun u' hparse' ↦ Except.ok.inj (hparse.symm.trans hparse') ▸ htallied)
    (fun u' done' hparse' hdone' ↦ by
      obtain rfl := Except.ok.inj (hparse.symm.trans hparse')
      obtain rfl := Except.ok.inj (hdone.symm.trans hdone')
      exact .of_keepsSketch hkeeps)
    hout
  obtain ⟨u', v, hparse', hread, hcount⟩ := hadds hreport
  obtain rfl := Except.ok.inj (hparse.symm.trans hparse')
  refine ⟨_, u, v, hout, hchanged.2 hreport, hone, hparse, hbegun, hread, ?_⟩
  rw [hcount, hbegun, hone]

end RenderTrace
