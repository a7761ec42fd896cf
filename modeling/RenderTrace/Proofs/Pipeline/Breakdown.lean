import RenderTrace.Proofs.Pipeline.Again

/-!
# Options that do not fit

Before a unit is touched, the path of the runtime and the name of the host are read. If one of them
cannot be read, the text stays as it is and there is one warning more. But reading a path is not
putting it into a call: a path as types have it is accepted, and then there may be no call to put
in. A run breaks off at the first function that needs one. `instrumentSource_guarded` says when a
run comes to its end, for every option set and every text.

## Breaking off is about single functions

What a pass may break off at is one member of the closure, so the condition for a whole run is one
on its members: `Injector.manages`. That it is sufficient and necessary takes the pass apart into
its meetings (`Injector.run_spec`), and so different places. That the path alone can only be the
cause if there is a member that it does not fit needs no such assumption, and is shown along the
walk (`Injector.weave_error`).
-/

namespace RenderTrace

open Syntax

namespace Injector

variable {inj : Injector} {a : Analysis} {o : Options} {u : SourceUnit}

/-- Whether the tracker call of a function can be made. -/
def canCall (inj : Injector) (f : Function) : Bool :=
  (Injection.trackerStatement? inj.runtime inj.host f).isSome

/-- Whether a function needs a tracker call: it has a parameter for the host, and does not begin
with a tracker call. -/
def needsCall (inj : Injector) (m : Members) (f : Function) : Bool :=
  inj.hasHost f && !inj.begins m f

/-- Whether an injector gets past a function: it finds a block, and can make the tracker call if the
function needs one. -/
def manages (inj : Injector) (m : Members) (f : Function) : Bool :=
  inj.hasBlock m f && (!inj.needsCall m f || inj.canCall f)

/-- A unit with the bodies of the members rewritten. -/
def rewrittenUnit (inj : Injector) (m : Members) (u : SourceUnit) : SourceUnit :=
  { u with attributes := rewritten inj m u.attributes, items := rewritten inj m u.items }

/-- A path of plain words fits every function. -/
theorem canCall_of_fitsImport (h : Injection.fitsImport inj.runtime = true) (f : Function) :
    inj.canCall f = true := by
  have hplain : Grammar.isPlainPath inj.runtime = true := by
    rw [Injection.fitsImport, Bool.and_eq_true] at h
    exact h.1
  have hspells : ∀ args, Quotation.spellsItself (Quotation.call (Quotation.use
      (Quotation.extend inj.runtime Injection.trackerEntry)) args) = true := fun args ↦ by
    have hfits := Quotation.fitsExpression_of_isPlainPath hplain
    rwa [← Quotation.fitsExpression_extend _ Injection.trackerEntry] at hfits
  rw [canCall, Injection.trackerStatement?, h, Bool.or_true, if_pos rfl,
    Quotation.statement?_of_spellsItself (hspells _)]
  rfl

/-! ### Why a pass breaks off -/

theorem bind_run_eq_error {α β : Type} {x : Weaving α} {f : α → Weaving β} {p : Pass}
    {e : Breakdown} : (x >>= f).run p = .error e ↔
      x.run p = .error e ∨ ∃ r q, x.run p = .ok (r, q) ∧ (f r).run q = .error e := by
  rw [StateT.run_bind]
  cases hx : x.run p with
  | error e' => simp [bind, Except.bind]
  | ok r =>
    obtain ⟨r, q⟩ := r
    constructor
    · exact fun h ↦ Or.inr ⟨r, q, rfl, h⟩
    · rintro (h | ⟨r', q', hr, h⟩)
      · cases h
      · obtain ⟨rfl, rfl⟩ := Prod.mk.inj (Except.ok.inj hr)
        exact h

theorem pure_run_ne_error {α : Type} {r : α} {p : Pass} {e : Breakdown} :
    (pure r : Weaving α).run p ≠ .error e := nofun

/-- What makes a pass break off: a member of the closure whose tracker call cannot be made, or one
whose body is no block. -/
def Reason (inj : Injector) (a : Analysis) : Breakdown → Prop
  | .runtimePath => ∃ f ∈ a.targets, inj.hasHost f = true ∧ inj.canCall f = false
  | .closureBody => a.targets ≠ []
  | .layout => False

theorem mem_targets_of_target {visited : List FunctionId} {l : Location} {f : Function}
    (h : target? a visited l = some f) : f ∈ a.targets := by
  obtain ⟨id, -, hclosure, -, hid⟩ := target?_eq_some.1 h
  exact List.mem_filterMap.2 ⟨id, by simpa [ClosureSet.contains] using hclosure, hid⟩

theorem weaveBody_error {p : Pass} {l : Location} {block : Node} {e : Breakdown}
    (h : (weaveBody inj a l block).run p = .error e) : Reason inj a e := by
  rw [weaveBody, get_bind_run] at h
  cases hf : target? a p.visited l with
  | none =>
    rw [hf] at h
    exact absurd h pure_run_ne_error
  | some f =>
    simp only [hf, modify_bind_run] at h
    by_cases hbegun : isInstrumented block = true
    · rw [if_pos hbegun] at h
      cases h
    rw [if_neg hbegun] at h
    by_cases hhost : inj.hasHost f = true
    · rw [if_neg (by simpa [hasHost] using hhost)] at h
      cases hstatement : Injection.trackerStatement? inj.runtime inj.host f with
      | none =>
        rw [hstatement] at h
        obtain rfl := Except.error.inj h
        exact ⟨f, mem_targets_of_target hf, hhost, by rw [canCall, hstatement]; rfl⟩
      | some statement =>
        rw [hstatement] at h
        cases h
    · rw [if_pos (by simpa [hasHost] using hhost)] at h
      cases h

theorem weaveClosureBody_error {p : Pass} {l : Location} {body : Node} {e : Breakdown}
    (h : (weaveClosureBody inj a l body).run p = .error e) : Reason inj a e := by
  cases hf : target? a p.visited l with
  | none =>
    rw [weaveClosureBody_of_no_target hf] at h
    cases h
  | some f =>
    rw [weaveClosureBody_run hf] at h
    cases hblock : bodyBlock? body with
    | none =>
      rw [hblock] at h
      obtain rfl := Except.error.inj h
      exact List.ne_nil_of_mem (mem_targets_of_target hf)
    | some block =>
      rw [hblock] at h
      rcases bind_run_eq_error.1 h with h | ⟨_, _, -, h⟩
      · exact weaveBody_error h
      · exact absurd h pure_run_ne_error

theorem weaveNode_error {p : Pass} {k : Kind} {cs : List Node} {e : Breakdown}
    (h : (weaveNode inj a k cs).run p = .error e) : Reason inj a e := by
  rw [weaveNode_eq] at h
  split at h
  · next place isClosure body hof =>
    rcases bind_run_eq_error.1 h with h | ⟨_, _, -, h⟩
    · unfold weaveHead at h
      split at h
      · exact weaveClosureBody_error h
      · exact weaveBody_error h
    · exact absurd h pure_run_ne_error
  · exact absurd h pure_run_ne_error

/-- A pass over a tree breaks off for a reason. -/
theorem weave_error {n : Node} {p : Pass} {e : Breakdown} (h : (weave inj a n).run p = .error e) :
    Reason inj a e := by
  have hall : ∀ cs : List Node,
      (∀ c ∈ cs, ∀ p, (weave inj a c).run p = .error e → Reason inj a e) →
      ∀ p, (weaveAll inj a cs).run p = .error e → Reason inj a e := by
    intro cs hcs
    induction cs with
    | nil => exact fun p h ↦ absurd h pure_run_ne_error
    | cons c cs ih =>
      intro p h
      rcases bind_run_eq_error.1 h with h | ⟨_, _, -, h⟩
      · exact hcs c List.mem_cons_self p h
      rcases bind_run_eq_error.1 h with h | ⟨_, _, -, h⟩
      · exact ih (fun c hc ↦ hcs c (List.mem_cons_of_mem _ hc)) _ h
      · exact absurd h pure_run_ne_error
  induction n using Node.induction generalizing p with
  | token | unread => exact absurd h pure_run_ne_error
  | group d cs ih =>
    rcases bind_run_eq_error.1 h with h | ⟨_, _, -, h⟩
    · exact hall cs (fun c hc p ↦ ih c hc) p h
    · exact absurd h pure_run_ne_error
  | node k cs ih =>
    rcases bind_run_eq_error.1 h with h | ⟨_, _, -, h⟩
    · exact hall cs (fun c hc p ↦ ih c hc) p h
    · exact weaveNode_error h

theorem apply_error {e : Breakdown} (h : inj.apply a u = .error e) : Reason inj a e := by
  cases hrun : (weaveUnit inj a u).run ⟨inj.visited, {}⟩ with
  | ok r =>
    rw [apply, hrun] at h
    cases h
  | error e' =>
    rw [apply, hrun] at h
    obtain rfl := Except.error.inj h
    rcases bind_run_eq_error.1 hrun with h | ⟨_, _, -, h⟩
    · exact weave_error h
    rcases bind_run_eq_error.1 h with h | ⟨_, _, -, h⟩
    · exact weave_error h
    · exact absurd h pure_run_ne_error

/-! ### When a pass comes to its end -/

theorem needsCall_of_mem_met (hd : u.Distinct) {mt : Meeting}
    (hmt : mt ∈ met inj (members (Analysis.run o u)) u.heads) :
    inj.needsCall (members (Analysis.run o u)) mt.function = mt.isReady inj := by
  rw [needsCall, ← isInstrumented_of_mem_met hd hmt, Meeting.isReady, isReady, Bool.and_comm]

/-- An injector manages a function if nothing stands against a pass where it meets the function. -/
theorem manages_iff_of_mem_met (hd : u.Distinct) {mt : Meeting}
    (hmt : mt ∈ met inj (members (Analysis.run o u)) u.heads) :
    inj.manages (members (Analysis.run o u)) mt.function = true ↔ mt.IsPassable inj := by
  rw [manages, needsCall_of_mem_met hd hmt, ← fits_of_mem_met hd hmt, canCall, Bool.and_eq_true,
    Bool.or_eq_true, Bool.not_eq_true', Option.isSome_iff_exists, Meeting.IsPassable]
  refine and_congr_right fun _ ↦ ?_
  cases mt.isReady inj <;> simp

/-- A new injector comes to the end of a unit exactly if it manages all members of the closure. -/
theorem apply_ends_iff (hd : u.Distinct) (hnew : inj.visited = []) :
    (∃ r, inj.apply (Analysis.run o u) u = .ok r) ↔
      ∀ f ∈ (Analysis.run o u).targets, inj.manages (members (Analysis.run o u)) f = true := by
  rw [forall_mem_targets inj hd]
  constructor
  · rintro ⟨⟨inj', u', s⟩, hrun⟩ mt hmt
    exact (manages_iff_of_mem_met hd hmt).2 ((run_spec hd hnew hrun).1.passable mt hmt)
  · intro hall
    exact exists_apply hd hnew fun mt hmt ↦ (manages_iff_of_mem_met hd hmt).1 (hall mt hmt)

/-- A pass instruments something exactly if a member of the closure needs a tracker call. -/
theorem instrumented_eq_nil_iff (hd : u.Distinct) (hnew : inj.visited = []) {inj' : Injector}
    {u' : SourceUnit} {s : InjectionSummary}
    (h : inj.apply (Analysis.run o u) u = .ok (inj', u', s)) :
    s.instrumented = [] ↔
      ∀ f ∈ (Analysis.run o u).targets, inj.needsCall (members (Analysis.run o u)) f = false := by
  rw [(run_spec hd hnew h).1.instrumented, List.nil_append, List.map_eq_nil_iff,
    List.filter_eq_nil_iff, forall_mem_targets inj hd]
  refine forall₂_congr fun mt hmt ↦ ?_
  rw [needsCall_of_mem_met hd hmt, Bool.not_eq_true]

end Injector

/-! ### Runs over texts -/

variable {o : Options} {inj : Injector} {name source : String} {u : SourceUnit}
  {layout : SourceUnit → Option String}

/-- How a run over a text ends that has an injector. -/
theorem instrumentSource_of_injector (henabled : o.enabled = true)
    (hinj : Injector.ofOptions o = .ok inj) (hparse : parseUnit source = .ok u) :
    (instrumentSource layout o name source).result =
      match inj.apply (Analysis.run o u) u with
      | .error b => .error (.breakdown b)
      | .ok (_, woven, s) =>
        let report :=
          (Report.ofAnalysis name (.run o u) s.instrumented).warn s.warnings
        if s.instrumented = [] then .ok ⟨source, report⟩
        else (layout woven).elim (.error (.breakdown .layout)) fun text ↦ .ok ⟨text, report⟩ := by
  have hunit := instrumentUnit_of_injector name u henabled hinj
  cases happly : inj.apply (Analysis.run o u) u with
  | error b =>
    rw [happly] at hunit
    simp only [instrumentSource, henabled, Bool.not_true, Bool.false_eq_true, if_false, hparse,
      hunit]
    rfl
  | ok r =>
    obtain ⟨inj', woven, s⟩ := r
    rw [happly] at hunit
    rw [instrumentSource_result henabled hparse hunit]
    have hnone : ((Report.ofAnalysis name (.run o u) s.instrumented).warn
        s.warnings).instrumented = [] ↔ s.instrumented = [] := List.map_eq_nil_iff
    simp only [hnone]

/-- **Options that do not fit.** If the path of the runtime or the name of the host cannot be read,
the text stays as it is, and what is reported is what an analysis reports, with one warning more.
If both can be read, a run breaks off for the path only if it does not fit a member of the closure
that has a parameter for the host, and a path of plain words fits all of them; and the run comes to
its end exactly if the injector manages all members of the closure and, where one of them needs a
call, there is a layout for the new unit. -/
theorem instrumentSource_guarded (layout : SourceUnit → Option String) (o : Options) (name : String)
    (hparse : parseUnit source = .ok u) :
    ∃ report, analyzeSource o name source = .ok report ∧
      (o.enabled = false →
        (instrumentSource layout o name source).result = .ok ⟨source, .disabled name⟩) ∧
      (∀ why, o.enabled = true → Injector.ofOptions o = .error why →
        (instrumentSource layout o name source).result =
          .ok ⟨source, report.warn [why.message]⟩) ∧
      ∀ inj, o.enabled = true → Injector.ofOptions o = .ok inj →
        ((∀ f ∈ (Analysis.run o u).targets, inj.hasHost f = true → inj.canCall f = true) →
          (instrumentSource layout o name source).result ≠ .error (.breakdown .runtimePath)) ∧
        (Injection.fitsImport inj.runtime = true → ∀ f, inj.canCall f = true) ∧
        (u.Distinct →
          ((∃ out, (instrumentSource layout o name source).result = .ok out) ↔
            (∀ f ∈ (Analysis.run o u).targets,
              inj.manages (Injector.members (Analysis.run o u)) f = true) ∧
            ((∃ f ∈ (Analysis.run o u).targets,
                inj.needsCall (Injector.members (Analysis.run o u)) f = true) →
              (layout (inj.rewrittenUnit (Injector.members (Analysis.run o u)) u)).isSome))) := by
  refine ⟨.ofAnalysis name (.run o u) [], ?_, fun hdisabled ↦ ?_, fun why henabled hinj ↦ ?_,
    fun inj henabled hinj ↦ ⟨fun hcan ↦ ?_, Injector.canCall_of_fitsImport, fun hd ↦ ?_⟩⟩
  · rw [analyzeSource, hparse]
    rfl
  · rw [instrumentSource, hdisabled]
    rfl
  · have hunit : instrumentUnit o name u = .ok ⟨u, (Report.ofAnalysis name (.run o u) []).warn
        [why.message], (Analysis.run o u).records ++ [⟨.warn, .engine, why.message⟩]⟩ := by
      simp only [instrumentUnit, henabled, Bool.not_true, Bool.false_eq_true, if_false, hinj]
    rw [instrumentSource_result henabled hparse hunit]
    exact if_pos rfl
  · -- a run that breaks off for the path has met a member that the path does not fit
    rw [instrumentSource_of_injector henabled hinj hparse]
    split
    · next b happly =>
      intro h
      obtain rfl : b = .runtimePath := Failure.breakdown.inj (Except.error.inj h)
      obtain ⟨f, hf, hhost, hcannot⟩ := Injector.apply_error happly
      exact Bool.false_ne_true (hcannot.symm.trans (hcan f hf hhost))
    · next woven s happly =>
      dsimp only
      intro h
      split at h
      · cases h
      · cases hlayout : layout woven <;> rw [hlayout] at h <;> cases h
  · -- a run ends if the injector does; a layout is asked for only where a call was put in
    have hnew := Injector.visited_of_ofOptions hinj
    rw [instrumentSource_of_injector henabled hinj hparse, ← Injector.apply_ends_iff hd hnew]
    cases happly : inj.apply (Analysis.run o u) u with
    | error b => simp
    | ok r =>
      obtain ⟨inj', woven, s⟩ := r
      have hwoven : woven = inj.rewrittenUnit (Injector.members (Analysis.run o u)) u :=
        (Injector.run_spec hd hnew happly).2
      have hneeds : s.instrumented = [] ↔ ¬∃ f ∈ (Analysis.run o u).targets,
          inj.needsCall (Injector.members (Analysis.run o u)) f = true := by
        rw [Injector.instrumented_eq_nil_iff hd hnew happly]
        simp
      simp only [hneeds, hwoven]
      split
      · next hnone => simp [hnone]
      · next hsome =>
        rw [not_not] at hsome
        cases layout (inj.rewrittenUnit (Injector.members (Analysis.run o u)) u) <;> simp [hsome]

/-! ### A path that is none, and a path that is no expression -/

/-- A tracked function with a parameter for the host. -/
def trackedText : String :=
  "#[component]\n#[track_recompositions]\nfn f(cx: H) \x7b\x7d\n"

/-- Options with a number as the path of the runtime. -/
def numberOptions : Options := { runtimePath := "1" }

/-- Options with a path that has generic arguments as types have them. -/
def typeOptions : Options := { runtimePath := "a<u8>::b" }

theorem instrumentSource_guarded_trackedText : ∃ u, parseUnit trackedText = .ok u ∧ u.Distinct ∧
    (∃ why report, Injector.ofOptions numberOptions = .error why ∧
      analyzeSource numberOptions "unit" trackedText = .ok report ∧
      (instrumentSource SourceUnit.layout? numberOptions "unit" trackedText).result =
        .ok ⟨trackedText, report.warn [why.message]⟩) ∧
    ∃ inj, Injector.ofOptions typeOptions = .ok inj ∧
      ¬∃ out, (instrumentSource SourceUnit.layout? typeOptions "unit" trackedText).result =
        .ok out := by
  have hparse : ∃ u, parseUnit trackedText = .ok u ∧
      (decide u.Distinct, (Injector.ofOptions typeOptions).toOption.map fun inj ↦
        (Analysis.run typeOptions u).targets.all
          (inj.manages (Injector.members (Analysis.run typeOptions u)))) =
      (true, some false) :=
    exists_parseUnit_eq_ok rfl (by decide +kernel)
  obtain ⟨u, hparse, hunit⟩ := hparse
  obtain ⟨hd, hunit⟩ := Prod.mk.inj hunit
  have hd : u.Distinct := of_decide_eq_true hd
  obtain ⟨inj, hinj, hunit⟩ := exists_eq_ok hunit
  have hnumber : (Injector.ofOptions numberOptions).toOption.isNone = true := by decide +kernel
  refine ⟨u, hparse, hd, ?_, inj, hinj, fun hends ↦ ?_⟩
  · cases hwhy : Injector.ofOptions numberOptions with
    | ok inj =>
      rw [hwhy] at hnumber
      cases hnumber
    | error why =>
      obtain ⟨report, hreport, -, hwarned, -⟩ :=
        instrumentSource_guarded SourceUnit.layout? numberOptions "unit" hparse
      exact ⟨why, report, rfl, hreport, hwarned why rfl hwhy⟩
  · obtain ⟨-, -, -, -, hinjector⟩ :=
      instrumentSource_guarded SourceUnit.layout? typeOptions "unit" hparse
    obtain ⟨-, -, hiff⟩ := hinjector inj rfl hinj
    rw [List.all_eq_true.2 ((hiff hd).1 hends).1] at hunit
    cases hunit

end RenderTrace
