import RenderTrace.Layout.Unit
import RenderTrace.Pipeline
import RenderTrace.Proofs.Injection.Apply
import RenderTrace.Proofs.Syntax.Sample

/-!
# Instrumenting a text again

A text that was instrumented is meant to stay as it is when it is instrumented again. Whether it
does is decided by the closure of the new text alone: `instrumentSource_again_iff` says that nothing
happens exactly if all its members are passed over, for every layout whose texts can be read.

The functions that the first run instrumented begin with their tracker calls, but the second run
also reads the calls themselves. The host and the parameters stand there as paths, and a path refers
to every render function of its name; so a parameter that shares its name with a render function
brings that function into the closure (`instrumentSource_again_iff_hostNamed`).
-/

namespace RenderTrace

open Syntax

namespace Injector

variable {o : Options} {u : SourceUnit} {inj : Injector}

/-! ### Passing over functions -/

/-- Whether an injector passes over a function: it finds a block, and there a tracker call in front
unless there is no parameter for the host. -/
def passesOver (inj : Injector) (m : Members) (f : Function) : Bool :=
  inj.hasBlock m f && (!inj.hasHost f || inj.begins m f)

theorem passesOver_of_mem_met (hd : u.Distinct) {mt : Meeting}
    (hmt : mt ∈ met inj (members (Analysis.run o u)) u.heads) :
    inj.passesOver (members (Analysis.run o u)) mt.function = (mt.fits && !mt.isReady inj) := by
  rw [passesOver, fits_of_mem_met hd hmt, ← isInstrumented_of_mem_met hd hmt, Meeting.isReady,
    isReady]
  cases isInstrumented mt.block <;> cases inj.hasHost mt.function <;> rfl

/-- A new injector instruments nothing in a unit exactly if it passes over all members of the
closure. -/
theorem apply_idle_iff (hd : u.Distinct) (hnew : inj.visited = []) :
    (∃ inj' u' s, inj.apply (Analysis.run o u) u = .ok (inj', u', s) ∧ s.instrumented = []) ↔
      ∀ f ∈ (Analysis.run o u).targets, inj.passesOver (members (Analysis.run o u)) f = true := by
  have hover : (∀ f ∈ (Analysis.run o u).targets,
        inj.passesOver (members (Analysis.run o u)) f = true) ↔
      ∀ mt ∈ met inj (members (Analysis.run o u)) u.heads,
        mt.fits = true ∧ mt.isReady inj = false := by
    rw [forall_mem_targets inj hd]
    refine forall₂_congr fun mt hmt ↦ ?_
    rw [passesOver_of_mem_met hd hmt, Bool.and_eq_true, Bool.not_eq_true']
  rw [hover]
  constructor
  · rintro ⟨inj', u', s, hrun, hidle⟩ mt hmt
    obtain ⟨hadvances, -⟩ := run_spec hd hnew hrun
    have hnone := hadvances.instrumented
    rw [hidle, List.nil_append, eq_comm, List.map_eq_nil_iff, List.filter_eq_nil_iff] at hnone
    exact ⟨(hadvances.passable mt hmt).1, Bool.eq_false_iff.2 (hnone mt hmt)⟩
  · intro hall
    have hunready : ∀ mt ∈ met inj (members (Analysis.run o u)) u.heads, ¬mt.isReady inj = true :=
      fun mt hmt ↦ Bool.eq_false_iff.1 (hall mt hmt).2
    obtain ⟨⟨inj', u', s⟩, hrun⟩ := exists_apply hd hnew fun mt hmt ↦
      ⟨(hall mt hmt).1, fun hready ↦ absurd hready (hunready mt hmt)⟩
    obtain ⟨hadvances, -⟩ := run_spec hd hnew hrun
    refine ⟨inj', u', s, hrun, ?_⟩
    rw [hadvances.instrumented, List.nil_append, List.map_eq_nil_iff, List.filter_eq_nil_iff]
    exact hunready

end Injector

/-! ### Runs over texts -/

variable {o : Options} {inj : Injector} {name source : String} {u : SourceUnit}
  {layout : SourceUnit → Option String}

theorem Injector.visited_of_ofOptions (h : Injector.ofOptions o = .ok inj) : inj.visited = [] :=
  (Injector.of_ofOptions h).2

variable (name u) in
/-- What an injector makes of a unit. -/
theorem instrumentUnit_of_injector (henabled : o.enabled = true)
    (hinj : Injector.ofOptions o = .ok inj) :
    instrumentUnit o name u = (inj.apply (Analysis.run o u) u).map fun r ↦
      ⟨r.2.1, (Report.ofAnalysis name (.run o u) r.2.2.instrumented).warn r.2.2.warnings,
        (Analysis.run o u).records ++ r.2.2.records⟩ := by
  simp only [instrumentUnit, henabled, Bool.not_true, Bool.false_eq_true, if_false, hinj]
  cases inj.apply (Analysis.run o u) u <;> rfl

/-- A run over a unit that ends has applied its injector, and reports what it did. -/
theorem exists_apply_of_instrumentUnit {done : UnitOutcome} (henabled : o.enabled = true)
    (hinj : Injector.ofOptions o = .ok inj) (h : instrumentUnit o name u = .ok done) :
    ∃ inj' s, inj.apply (Analysis.run o u) u = .ok (inj', done.unit, s) ∧
      done.report = (Report.ofAnalysis name (.run o u) s.instrumented).warn s.warnings := by
  rw [instrumentUnit_of_injector name u henabled hinj] at h
  cases happly : inj.apply (Analysis.run o u) u with
  | error b =>
    rw [happly] at h
    cases h
  | ok r =>
    rw [happly] at h
    obtain rfl := Except.ok.inj h
    exact ⟨r.1, r.2.2, rfl, rfl⟩

/-- Where there is no injector, nothing is instrumented. -/
theorem instrumentUnit_of_no_injector (henabled : o.enabled = true) {why : Unresolvable}
    (hinj : Injector.ofOptions o = .error why) :
    ∃ done, instrumentUnit o name u = .ok done ∧ done.report.instrumented = [] := by
  simp only [instrumentUnit, henabled, Bool.not_true, Bool.false_eq_true, if_false, hinj]
  exact ⟨_, rfl, rfl⟩

/-- How a run over a text ends when its unit is instrumented. -/
theorem instrumentSource_result {done : UnitOutcome} (henabled : o.enabled = true)
    (hparse : parseUnit source = .ok u) (hdone : instrumentUnit o name u = .ok done) :
    (instrumentSource layout o name source).result =
      if done.report.instrumented = [] then .ok ⟨source, done.report⟩
      else (layout done.unit).elim (.error (.breakdown .layout)) fun text ↦
        .ok ⟨text, done.report⟩ := by
  simp only [instrumentSource, henabled, Bool.not_true, Bool.false_eq_true, if_false, hparse, hdone,
    List.isEmpty_iff]
  cases layout done.unit <;> rfl

/-- A run that instruments something ends with the text that is laid out. -/
theorem instrumentSource_laidOut {done : UnitOutcome} {text : String} (henabled : o.enabled = true)
    (hparse : parseUnit source = .ok u) (hdone : instrumentUnit o name u = .ok done)
    (hreport : done.report.instrumented ≠ []) (htext : layout done.unit = some text) :
    (instrumentSource layout o name source).result = .ok ⟨text, done.report⟩ := by
  rw [instrumentSource_result henabled hparse hdone, if_neg hreport, htext]
  rfl

/-- A run that ends has read its text and instrumented its unit. -/
theorem exists_of_instrumentSource {out : SourceOutcome} (henabled : o.enabled = true)
    (h : (instrumentSource layout o name source).result = .ok out) :
    ∃ u done, parseUnit source = .ok u ∧ instrumentUnit o name u = .ok done ∧
      out.report = done.report := by
  cases hparse : parseUnit source with
  | error e =>
    simp only [instrumentSource, henabled, Bool.not_true, Bool.false_eq_true, if_false, hparse] at h
    cases h
  | ok u =>
    cases hdone : instrumentUnit o name u with
    | error b =>
      simp only [instrumentSource, henabled, Bool.not_true, Bool.false_eq_true, if_false, hparse,
        hdone] at h
      cases h
    | ok done =>
      refine ⟨u, done, rfl, hdone, ?_⟩
      rw [instrumentSource_result henabled hparse hdone] at h
      split at h
      · obtain rfl := Except.ok.inj h
        rfl
      · cases htext : layout done.unit with
        | none =>
          rw [htext] at h
          cases h
        | some text =>
          rw [htext] at h
          obtain rfl := Except.ok.inj h
          rfl

/-- A run that instruments something is enabled, and there is an injector for it. -/
theorem exists_injector {out : SourceOutcome}
    (h : (instrumentSource layout o name source).result = .ok out)
    (hreport : out.report.instrumented ≠ []) :
    o.enabled = true ∧ ∃ inj, Injector.ofOptions o = .ok inj := by
  have henabled : o.enabled = true := by
    by_contra hdisabled
    rw [instrumentSource, if_pos (by simpa using hdisabled)] at h
    obtain rfl := Except.ok.inj h
    exact hreport rfl
  obtain ⟨u, done, -, hdone, hsame⟩ := exists_of_instrumentSource henabled h
  refine ⟨henabled, ?_⟩
  cases hinj : Injector.ofOptions o with
  | ok inj => exact ⟨inj, rfl⟩
  | error why =>
    obtain ⟨done', hdone', hidle⟩ : ∃ done', instrumentUnit o name u = .ok done' ∧
        done'.report.instrumented = [] := instrumentUnit_of_no_injector henabled hinj
    obtain rfl := Except.ok.inj (hdone.symm.trans hdone')
    exact absurd (hsame ▸ hidle) hreport

/-- A run leaves a text as it is and instruments nothing exactly if an injector comes to the end of
its unit and instruments nothing. -/
theorem instrumentSource_idle_iff (henabled : o.enabled = true)
    (hinj : Injector.ofOptions o = .ok inj) (hparse : parseUnit source = .ok u) :
    (∃ report, (instrumentSource layout o name source).result = .ok ⟨source, report⟩ ∧
        report.instrumented = []) ↔
      ∃ inj' u' s, inj.apply (Analysis.run o u) u = .ok (inj', u', s) ∧ s.instrumented = [] := by
  constructor
  · rintro ⟨report, hrun, hidle⟩
    obtain ⟨u₁, done, hparse₁, hdone, rfl⟩ := exists_of_instrumentSource henabled hrun
    obtain rfl := Except.ok.inj (hparse.symm.trans hparse₁)
    obtain ⟨inj', s, happly, hreport⟩ := exists_apply_of_instrumentUnit henabled hinj hdone
    rw [hreport] at hidle
    exact ⟨inj', done.unit, s, happly, List.map_eq_nil_iff.1 hidle⟩
  · rintro ⟨inj', u', s, happly, hidle⟩
    have hunit := instrumentUnit_of_injector name u henabled hinj
    rw [happly] at hunit
    have hreport : ((Report.ofAnalysis name (.run o u) s.instrumented).warn
        s.warnings).instrumented = [] := List.map_eq_nil_iff.2 hidle
    refine ⟨_, ?_, hreport⟩
    rw [instrumentSource_result henabled hparse hunit]
    exact if_pos hreport

/-- **When instrumenting a text again changes nothing.** The text is what a run laid out that
instrumented something, read as a unit whose declarations stand at different places. -/
theorem instrumentSource_again_iff {text : String} {report : Report}
    (h : (instrumentSource layout o name source).result = .ok ⟨text, report⟩)
    (hreport : report.instrumented ≠ []) (hparse : parseUnit text = .ok u) (hd : u.Distinct) :
    ∃ inj, Injector.ofOptions o = .ok inj ∧
      ((∃ report', (instrumentSource layout o name text).result = .ok ⟨text, report'⟩ ∧
          report'.instrumented = []) ↔
        ∀ f ∈ (Analysis.run o u).targets,
          inj.passesOver (Injector.members (Analysis.run o u)) f = true) := by
  obtain ⟨henabled, inj, hinj⟩ := exists_injector h hreport
  exact ⟨inj, hinj, (instrumentSource_idle_iff henabled hinj hparse).trans
    (Injector.apply_idle_iff hd (Injector.visited_of_ofOptions hinj))⟩

/-! ### A render function that is named like the host -/

/-- Options with a short path of the runtime. -/
def shortOptions : Options := { runtimePath := "rt" }

/-- A tracked function, and a render function that is named like its parameter for the host. -/
def hostNamed : String :=
  "#[component]\n#[track_recompositions(true)]\nfn f(cx: H) \x7b\x7d\n" ++
  "#[component]\nfn cx(cx: H) \x7b\x7d\n"

/-- What a run makes of `hostNamed`. The call that it puts into `f` mentions `cx`. -/
def hostNamedAgain : String :=
  "#[component]\n#[track_recompositions(true)]\nfn f(cx: H) \x7b\n" ++
  "    rt::recomposition_tracker(cx, \"f\", &rt::EMPTY_ARGUMENTS, &[]);\n\x7d\n" ++
  "#[component]\nfn cx(cx: H) \x7b\x7d\n"

theorem instrumentSource_again_iff_hostNamed : ∃ report u,
    (instrumentSource SourceUnit.layout? shortOptions "unit" hostNamed).result =
      .ok ⟨hostNamedAgain, report⟩ ∧ report.instrumented ≠ [] ∧
    parseUnit hostNamedAgain = .ok u ∧ u.Distinct ∧
    ¬∃ report', (instrumentSource SourceUnit.layout? shortOptions "unit" hostNamedAgain).result =
      .ok ⟨hostNamedAgain, report'⟩ ∧ report'.instrumented = [] := by
  obtain ⟨u₁, hparse₁, hunit₁⟩ : ∃ u, parseUnit hostNamed = .ok u ∧
      ((instrumentUnit shortOptions "unit" u).toOption.map fun done ↦
        (SourceUnit.layout? done.unit, done.report.instrumented)) =
      some (some hostNamedAgain, ["f"]) :=
    exists_parseUnit_eq_ok (append_eq_ofList rfl rfl) (by decide +kernel)
  obtain ⟨done, hdone, hwritten⟩ := exists_eq_ok hunit₁
  obtain ⟨htext, hnames⟩ := Prod.mk.inj hwritten
  have hsome : done.report.instrumented ≠ [] := by simp [hnames]
  have hrun := instrumentSource_laidOut rfl hparse₁ hdone hsome htext
  obtain ⟨u, hparse, hunit⟩ : ∃ u, parseUnit hostNamedAgain = .ok u ∧
      (decide u.Distinct, (Injector.ofOptions shortOptions).toOption.map fun inj ↦
        (Analysis.run shortOptions u).targets.all
          (inj.passesOver (Injector.members (Analysis.run shortOptions u)))) =
      (true, some false) :=
    exists_parseUnit_eq_ok (append_eq_ofList (append_eq_ofList rfl rfl) rfl) (by decide +kernel)
  obtain ⟨hd, hunit⟩ := Prod.mk.inj hunit
  have hd : u.Distinct := of_decide_eq_true hd
  obtain ⟨inj, hinj, hunit⟩ := exists_eq_ok hunit
  obtain ⟨inj', hinj', hiff⟩ := instrumentSource_again_iff hrun hsome hparse hd
  obtain rfl := Except.ok.inj (hinj.symm.trans hinj')
  refine ⟨done.report, u, hrun, hsome, hparse, hd, fun hidle ↦ ?_⟩
  rw [List.all_eq_true.2 (hiff.1 hidle)] at hunit
  cases hunit

end RenderTrace
