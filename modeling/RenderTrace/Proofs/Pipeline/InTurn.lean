import RenderTrace.Proofs.Injection.Evolution
import RenderTrace.Proofs.Pipeline.Again

/-!
# Runs in turn

A unit is instrumented several times, each time with other options: other paths of the runtime,
other names of the host, other prefixes of the module. Each run reads what the one before left and
knows nothing else about it, so a function gets a second tracker call unless the first one is
recognised in front of its body. `instrumentInTurn_once` says when every function gets at most one.

## What carries over

Between two runs there are only places and forms of bodies (`Injector.Spot`). One run makes of each
form what `Form.Becomes` allows, with as many tracker calls as its report lists for the place. This
relation composes, and admits at most one call; so it is one for all runs together.

## What is assumed

A path that has generic arguments without a `::` in front gives tracker calls that are read as
assignments, and these are not recognised. And a path may hold functions of its own, which then
stand in every tracker call, at places counted from the start of the path. So the paths of the
options hold none, and may stand in a call (`Injector.isInert`). Expressions that are put into a
block are read with the functions in them (`readsBackInTurn`).
-/

namespace RenderTrace

open Syntax

/-- Whether a report lists the function at a place as instrumented. -/
def Report.instrumentedAt (r : Report) (l : Location) : Bool :=
  r.functions.any fun f ↦ f.location == l && f.instrumented

/-- Instruments a unit in turn, each time what the time before left. -/
def instrumentInTurn (name : String) :
    List Options → SourceUnit → Except Breakdown (SourceUnit × List Report)
  | [], u => .ok (u, [])
  | o :: os, u => do
    let done ← instrumentUnit o name u
    let (last, reports) ← instrumentInTurn name os done.unit
    return (last, done.report :: reports)

/-- Whether a run reads the expressions that it puts into a block with the functions in them. -/
def readsBack (o : Options) (u : SourceUnit) : Bool :=
  !o.enabled ||
    match Injector.ofOptions o with
    | .ok inj => u.heads.all (inj.readsBack (Injector.members (Analysis.run o u)))
    | .error _ => true

/-- Whether all runs read back the expressions that they put into a block. -/
def readsBackInTurn (name : String) : List Options → SourceUnit → Bool
  | [], _ => true
  | o :: os, u => readsBack o u &&
    match instrumentUnit o name u with
    | .ok done => readsBackInTurn name os done.unit
    | .error _ => true

namespace Injector

variable {o : Options} {u : SourceUnit} {inj : Injector} {m : Members}

/-! ### Forms over several runs -/

/-- What becomes of the form of a body, with a number of tracker calls put in front. -/
inductive Form.Becomes : Nat → Form → Form → Prop
  /-- Nothing happens. -/
  | kept {form : Form} (h : form ≠ .other) : Becomes 0 form form
  /-- A tracker call comes in front of a block. -/
  | called {count : Nat} : Becomes 1 (.block false count) (.block true (count + 1))
  /-- An expression is put into a block. -/
  | put {begun : Bool} {count : Nat} : Becomes 0 .expression (.block begun count)
  /-- An expression is put into a block, and a tracker call comes in front. -/
  | putCalled {count : Nat} : Becomes 1 .expression (.block true count)

namespace Form.Becomes

variable {form form' form'' : Form} {calls calls' : Nat}

theorem le_one (h : Becomes calls form form') : calls ≤ 1 := by
  cases h <;> omega

theorem ne_other (h : Becomes calls form form') : form' ≠ .other := by
  cases h with
  | kept h => exact h
  | _ => nofun

/-- A tracker call that is there stays the only one. -/
theorem trans (h : Becomes calls form form') (h' : Becomes calls' form' form'') :
    Becomes (calls + calls') form form'' := by
  cases h with
  | kept => rwa [Nat.zero_add]
  | called =>
    cases h' with
    | kept => exact .called
  | put =>
    cases h' with
    | kept => exact .put
    | called => exact .putCalled
  | putCalled =>
    cases h' with
    | kept => exact .putCalled

end Form.Becomes

/-! ### One run -/

/-- What a pass meets are functions of the index. -/
theorem mem_functions_of_mem_met {hs : List Head} {mt : Meeting}
    (hmt : mt ∈ met inj (members (Analysis.run o u)) hs) :
    mt.function ∈ (Index.build o u).functions := by
  obtain ⟨h, -, hmeet⟩ := List.mem_filterMap.1 hmt
  obtain ⟨body, f, -, hf, rfl⟩ := meet?_rewrittenHead.1 hmeet
  exact Array.mem_of_getElem? (of_members_eq_some hf).2.2

/-- A pass over a settled unit meets no function twice. -/
theorem fresh_of_settled (hsettled : u.Settled) :
    Fresh inj (Analysis.run o u) u.heads ⟨[], {}⟩ := by
  suffices h : ((met inj (members (Analysis.run o u)) u.heads).map
      (·.function.declaration.location)).Nodup by simpa [Fresh] using met_nodup_of_places h
  rw [List.nodup_iff_count_le_one]
  intro l
  by_cases hl : l ∈ (met inj (members (Analysis.run o u)) u.heads).map
      (·.function.declaration.location)
  · obtain ⟨mt, hmt, rfl⟩ := List.mem_map.1 hl
    have hshown := Index.exists_shown (mem_functions_of_mem_met hmt)
    refine ((met_places_sublist o u inj u.heads).count_le _).trans ?_
    rw [SourceUnit.count_heads_eq (hsettled.notStart _ hshown)]
    exact List.nodup_iff_count_le_one.1 hsettled.places _
  · rw [List.count_eq_zero_of_not_mem hl]
    omega

/-- A report lists a place exactly if a function stands there that got its tracker call. -/
theorem instrumentedAt_iff (name : String) {instrumented : List FunctionId}
    (warnings : List String) (l : Location)
    (hinstrumented : instrumented =
      ((met inj (members (Analysis.run o u)) u.heads).filter (·.isReady inj)).map Meeting.id) :
    ((Report.ofAnalysis name (.run o u) instrumented).warn warnings).instrumentedAt l = true ↔
      ∃ mt ∈ met inj (members (Analysis.run o u)) u.heads, mt.isReady inj = true ∧
        mt.function.declaration.location = l := by
  have hlisted : ∀ f : Function, instrumented.contains f.declaration.id = true ↔
      ∃ mt ∈ met inj (members (Analysis.run o u)) u.heads, mt.isReady inj = true ∧
        mt.id = f.declaration.id := fun f ↦ by
    simp [hinstrumented, and_assoc]
  have hreport : ((Report.ofAnalysis name (.run o u) instrumented).warn warnings).instrumentedAt l =
      (Index.build o u).functions.toList.any fun f ↦
        f.declaration.location == l && instrumented.contains f.declaration.id :=
    List.any_map
  rw [hreport, List.any_eq_true]
  simp only [Bool.and_eq_true, beq_iff_eq, hlisted, Array.mem_toList_iff]
  constructor
  · rintro ⟨f, hf, rfl, mt, hmt, hready, hid⟩
    obtain ⟨i, hi⟩ := Array.mem_iff_getElem?.1 hf
    obtain rfl := (Index.build_numbered o u i f hi).1
    obtain ⟨j, hj⟩ := Array.mem_iff_getElem?.1 (mem_functions_of_mem_met hmt)
    obtain rfl := (Index.build_numbered o u j _ hj).1
    rw [← hid] at hi
    exact ⟨mt, hmt, hready, congrArg (·.declaration.location) (Option.some.inj (hj.symm.trans hi))⟩
  · rintro ⟨mt, hmt, hready, rfl⟩
    exact ⟨mt.function, mem_functions_of_mem_met hmt, rfl, mt, hmt, hready, rfl⟩

/-- A meeting is at a head with a body, which stands where its function does. -/
theorem exists_head_of_mem_met {mt : Meeting}
    (hmt : mt ∈ met inj (members (Analysis.run o u)) u.heads) :
    ∃ h ∈ u.heads, h.place = mt.function.declaration.location ∧
      members (Analysis.run o u) h.place = some mt.function ∧
      ∃ body, h.body = some body ∧
        mt = meetingWith inj (members (Analysis.run o u)) mt.function h.isClosure body := by
  obtain ⟨h, hh, hmeet⟩ := List.mem_filterMap.1 hmt
  obtain ⟨body, f, hbody, hf, rfl⟩ := meet?_rewrittenHead.1 hmeet
  exact ⟨h, hh, (of_members_eq_some hf).1.symm, hf, body, hbody, rfl⟩

theorem formOf_ne_missing {h : Head} {body : Node} (hbody : h.body = some body) :
    formOf h ≠ .missing := by
  have hblock : ∀ block, formOfBlock block ≠ .missing := fun block ↦ by
    unfold formOfBlock
    split <;> nofun
  rw [formOf_eq hbody]
  split
  · cases plainBlock? body with
    | none => nofun
    | some block => exact hblock block
  · exact hblock body

/-- What a pass finds out about a block is what its form tells. -/
theorem isInstrumented_of_form {h : Head} {body : Node} (hbody : h.body = some body)
    {begun : Bool} {count : Nat} (hform : formOf h = .block begun count) (f : Function) :
    isInstrumented (meetingWith inj m f h.isClosure body).block = begun := by
  obtain ⟨block, hblock, rfl⟩ := exists_block_of_form hbody hform
  unfold meetingWith
  split at hblock
  · next hclosure =>
    have hsame : bodyBlock (rewritten inj m body) = rewritten inj m block := by
      rw [bodyBlock, bodyBlock?, plainBlock?_rewritten, hblock]
      rfl
    rw [if_pos hclosure, hsame, isInstrumented_rewritten]
  · next hclosure =>
    obtain rfl := Option.some.inj hblock
    rw [if_neg hclosure, isInstrumented_rewritten]

theorem wants_eq_true {l : Location} :
    inj.wants m l = true ↔ ∃ f, m l = some f ∧ inj.hasHost f = true := by
  rw [wants, Option.any_eq_true]

/-- A function that gets its tracker call is one that a call is wanted for, and has a body. -/
theorem wants_of_ready (hsettled : u.Settled) {s : Spot} (hs : s ∈ u.shown) {mt : Meeting}
    (hmt : mt ∈ met inj (members (Analysis.run o u)) u.heads) (hready : mt.isReady inj = true)
    (hplace : mt.function.declaration.location = s.place) :
    inj.wants (members (Analysis.run o u)) s.place = true ∧ s.form ≠ .missing ∧
      ∀ begun count, s.form = .block begun count → begun = false := by
  obtain ⟨h, hh, hsame, hf, body, hbody, hmeeting⟩ := exists_head_of_mem_met hmt
  have hform := hsettled.form_eq hs hh (hsame.trans hplace)
  rw [Meeting.isReady, isReady, Bool.and_eq_true, Bool.not_eq_true'] at hready
  refine ⟨wants_eq_true.2 ⟨mt.function, ?_, hready.2⟩, hform ▸ formOf_ne_missing hbody, ?_⟩
  · rw [← hplace, ← hsame]
    exact hf
  · intro begun count hblock
    rw [← isInstrumented_of_form hbody (hform.trans hblock) mt.function, ← hready.1]
    exact congrArg (isInstrumented ·.block) hmeeting.symm

/-- A function that a call is wanted for gets it unless there is one. -/
theorem exists_ready_of_wants {s : Spot} (hs : s ∈ u.shown) {count : Nat}
    (hform : s.form = .block false count)
    (hwants : inj.wants (members (Analysis.run o u)) s.place = true) :
    ∃ mt ∈ met inj (members (Analysis.run o u)) u.heads, mt.isReady inj = true ∧
      mt.function.declaration.location = s.place := by
  obtain ⟨f, hf, hhost⟩ := wants_eq_true.1 hwants
  obtain ⟨h, hh, hplace, hsame⟩ := SourceUnit.exists_head_of_shown hs
  rw [← hplace] at hf
  cases hbody : h.body with
  | none =>
    rw [← hsame, formOf, hbody] at hform
    cases hform
  | some body =>
    refine ⟨meetingWith inj (members (Analysis.run o u)) f h.isClosure body,
      List.mem_filterMap.2 ⟨h, hh, meet?_rewrittenHead.2 ⟨body, f, hbody, hf, rfl⟩⟩, ?_, ?_⟩
    · rw [Meeting.isReady, isReady, isInstrumented_of_form hbody (hsame.trans hform) f]
      exact hhost
    · exact (of_members_eq_some hf).1.trans hplace

/-- What one run makes of a form, with the call that is reported. -/
theorem becomes_of_steps (hsettled : u.Settled) {s : Spot} (hs : s ∈ u.shown) {listed : Bool}
    (hlisted : listed = true ↔ ∃ mt ∈ met inj (members (Analysis.run o u)) u.heads,
      mt.isReady inj = true ∧ mt.function.declaration.location = s.place)
    {form : Form} (hsteps : s.form.Steps (inj.wants (members (Analysis.run o u)) s.place) form) :
    Form.Becomes listed.toNat s.form form := by
  have hready : listed = true → inj.wants (members (Analysis.run o u)) s.place = true ∧
      s.form ≠ .missing ∧ ∀ begun count, s.form = .block begun count → begun = false := fun h ↦ by
    obtain ⟨mt, hmt, hready, hplace⟩ := hlisted.1 h
    exact wants_of_ready hsettled hs hmt hready hplace
  have hwants : ∀ count, s.form = .block false count →
      inj.wants (members (Analysis.run o u)) s.place = true → listed = true :=
    fun count hform h ↦ hlisted.2 (exists_ready_of_wants hs hform h)
  have hbody := hsettled.bodies s hs
  -- what is left is about three things: the form, whether a call is wanted, whether it is listed
  clear hlisted
  generalize s.form = before at *
  generalize inj.wants (members (Analysis.run o u)) s.place = wanted at *
  cases hsteps with
  | kept h =>
    cases before with
    | missing =>
      cases listed with
      | false => exact .kept hbody
      | true => exact absurd rfl (hready rfl).2.1
    | expression =>
      cases listed with
      | false => exact .kept hbody
      | true => exact absurd ((h rfl).symm.trans (hready rfl).1) nofun
    | block begun count =>
      cases listed with
      | true =>
        obtain ⟨rfl, -, hbegun⟩ := hready rfl
        obtain rfl := hbegun begun count rfl
        exact .called
      | false =>
        cases begun with
        | true =>
          cases wanted <;> exact .kept hbody
        | false =>
          cases wanted with
          | false => exact .kept hbody
          | true => exact absurd (hwants count rfl rfl) nofun
    | other => exact absurd rfl hbody
  | @put begun count =>
    cases listed with
    | true =>
      obtain ⟨rfl, -⟩ := hready rfl
      cases begun <;> exact .putCalled
    | false => cases begun <;> cases wanted <;> exact .put

/-- How several runs act on a spot, with the number of tracker calls that are listed for a place. -/
structure Spot.Becomes (calls : Location → Nat) (s s' : Spot) : Prop where
  place : s'.place = s.place
  form : Form.Becomes (calls s.place) s.form s'.form

theorem becomes_trans {calls calls' : Location → Nat} {ss ss' ss'' : List Spot}
    (h : List.Forall₂ (Spot.Becomes calls) ss ss')
    (h' : List.Forall₂ (Spot.Becomes calls') ss' ss'') :
    List.Forall₂ (Spot.Becomes fun l ↦ calls l + calls' l) ss ss'' := by
  induction h generalizing ss'' with
  | nil =>
    cases h'
    exact .nil
  | cons hfirst _ ih =>
    cases h' with
    | cons hnext hrest =>
      refine .cons ⟨hnext.place.trans hfirst.place, hfirst.form.trans ?_⟩ (ih hrest)
      exact hfirst.place ▸ hnext.form

theorem becomes_refl {ss : List Spot} (h : ∀ s ∈ ss, s.form ≠ .other) {calls : Location → Nat}
    (hcalls : ∀ l, calls l = 0) : List.Forall₂ (Spot.Becomes calls) ss ss := by
  refine List.forall₂_same.2 fun s hs ↦ ⟨rfl, ?_⟩
  rw [hcalls]
  exact .kept (h s hs)

theorem becomes_places {calls : Location → Nat} {ss ss' : List Spot}
    (h : List.Forall₂ (Spot.Becomes calls) ss ss') : ss'.map (·.place) = ss.map (·.place) := by
  induction h with
  | nil => rfl
  | cons hfirst _ ih => rw [List.map_cons, List.map_cons, hfirst.place, ih]

/-- What is there before several runs is there behind them. -/
theorem exists_becomes {calls : Location → Nat} {ss ss' : List Spot}
    (h : List.Forall₂ (Spot.Becomes calls) ss ss') {s : Spot} (hs : s ∈ ss) :
    ∃ s' ∈ ss', Spot.Becomes calls s s' := by
  induction h with
  | nil => cases hs
  | cons hfirst _ ih =>
    rcases List.mem_cons.1 hs with rfl | hs
    · exact ⟨_, List.mem_cons_self, hfirst⟩
    · obtain ⟨s', hs', hbecomes⟩ := ih hs
      exact ⟨s', List.mem_cons_of_mem _ hs', hbecomes⟩

theorem becomes_ne_other {calls : Location → Nat} {ss ss' : List Spot}
    (h : List.Forall₂ (Spot.Becomes calls) ss ss') : ∀ s ∈ ss', s.form ≠ .other := by
  induction h with
  | nil => exact List.forall_mem_nil _
  | cons hfirst _ ih => exact List.forall_mem_cons.2 ⟨hfirst.form.ne_other, ih⟩

/-- Runs leave a settled unit settled. -/
theorem settled_of_becomes {v : SourceUnit} (hsettled : u.Settled) {calls : Location → Nat}
    (h : List.Forall₂ (Spot.Becomes calls) u.shown v.shown) : v.Settled where
  places := by
    rw [becomes_places h]
    exact hsettled.places
  notStart s hs := by
    have hmem : s.place ∈ u.shown.map (·.place) := becomes_places h ▸ List.mem_map_of_mem hs
    obtain ⟨before, hbefore, hplace⟩ := List.mem_map.1 hmem
    exact hplace ▸ hsettled.notStart before hbefore
  bodies := becomes_ne_other h

/-- What a pass that meets no function twice does to the spots of a unit. -/
theorem apply_evolves (hfresh : Fresh inj (Analysis.run o u) u.heads ⟨[], {}⟩)
    (hinj : ofOptions o = .ok inj) (hinert : inj.isInert = true)
    (hreads : u.heads.all (inj.readsBack (members (Analysis.run o u))) = true)
    {inj' : Injector} {u' : SourceUnit} {s : InjectionSummary}
    (happly : inj.apply (Analysis.run o u) u = .ok (inj', u', s)) :
    List.Forall₂ (Evolves inj (members (Analysis.run o u))) u.shown u'.shown := by
  obtain ⟨hadvances, rfl⟩ := run_spec_of_fresh hfresh (visited_of_ofOptions hinj) happly
  have hsmooth : Smooth inj (members (Analysis.run o u)) u.heads :=
    ⟨inert_of_isInert hinj hinert, List.all_eq_true.1 hreads, hadvances.passable⟩
  exact List.rel_append (rewritten_shown (hsmooth.mono (List.subset_append_left _ _)))
    (rewritten_shown (hsmooth.mono (List.subset_append_right _ _)))

/-- What one pass does to the spots of a settled unit. -/
theorem apply_becomes (hsettled : u.Settled) (hinj : ofOptions o = .ok inj)
    (hinert : inj.isInert = true)
    (hreads : u.heads.all (inj.readsBack (members (Analysis.run o u))) = true)
    {inj' : Injector} {u' : SourceUnit} {s : InjectionSummary}
    (happly : inj.apply (Analysis.run o u) u = .ok (inj', u', s)) {listed : Location → Bool}
    (hlisted : ∀ l, listed l = true ↔ ∃ mt ∈ met inj (members (Analysis.run o u)) u.heads,
      mt.isReady inj = true ∧ mt.function.declaration.location = l) :
    List.Forall₂ (Spot.Becomes fun l ↦ (listed l).toNat) u.shown u'.shown := by
  have hevolves := apply_evolves (fresh_of_settled hsettled) hinj hinert hreads happly
  rw [List.forall₂_iff_get] at hevolves ⊢
  refine ⟨hevolves.1, fun i hi hi' ↦ ?_⟩
  have hspot := hevolves.2 i hi hi'
  exact ⟨hspot.place, becomes_of_steps hsettled (List.get_mem _ _) (hlisted _) hspot.form⟩

end Injector

/-! ### All runs -/

open Injector

variable {o : Options} {u v : SourceUnit} {name : String}

/-- **What one run does to the functions of a unit.** -/
theorem instrumentUnit_becomes (hsettled : u.Settled)
    (hinert : ∀ inj, ofOptions o = .ok inj → inj.isInert = true) (hreads : readsBack o u = true)
    {done : UnitOutcome} (h : instrumentUnit o name u = .ok done) :
    List.Forall₂ (Spot.Becomes fun l ↦ (done.report.instrumentedAt l).toNat) u.shown
        done.unit.shown ∧
      ∀ l, done.report.instrumentedAt l = true → ∃ s ∈ u.shown, s.place = l := by
  have hidle : ∀ report : Report, (∀ l, report.instrumentedAt l = false) →
      List.Forall₂ (Spot.Becomes fun l ↦ (report.instrumentedAt l).toNat) u.shown u.shown ∧
        ∀ l, report.instrumentedAt l = true → ∃ s ∈ u.shown, s.place = l := fun report hnone ↦
    ⟨becomes_refl hsettled.bodies fun l ↦ by rw [hnone]; rfl,
      fun l hl ↦ absurd ((hnone l).symm.trans hl) nofun⟩
  cases henabled : o.enabled with
  | false =>
    rw [instrumentUnit, henabled] at h
    obtain rfl := Except.ok.inj h
    exact hidle _ fun l ↦ rfl
  | true =>
    cases hinj : ofOptions o with
    | error why =>
      simp only [instrumentUnit, henabled, hinj, Bool.not_true, Bool.false_eq_true, if_false] at h
      obtain rfl := Except.ok.inj h
      refine hidle _ fun l ↦ ?_
      simp [Report.instrumentedAt, Report.warn, Report.ofAnalysis, Report.summary]
    | ok inj =>
      obtain ⟨inj', s, happly, hreport⟩ := exists_apply_of_instrumentUnit henabled hinj h
      obtain ⟨hadvances, -⟩ :=
        run_spec_of_fresh (fresh_of_settled hsettled) (visited_of_ofOptions hinj) happly
      have hlisted := fun l ↦ instrumentedAt_iff name s.warnings l
        (hadvances.instrumented.trans (List.nil_append _))
      rw [← hreport] at hlisted
      rw [readsBack, henabled, hinj] at hreads
      refine ⟨apply_becomes hsettled hinj (hinert inj hinj) hreads happly hlisted, fun l hl ↦ ?_⟩
      obtain ⟨mt, hmt, -, hplace⟩ := (hlisted l).1 hl
      exact ⟨_, Index.exists_shown (mem_functions_of_mem_met hmt), hplace⟩

/-- What several runs do to the functions of a unit. -/
theorem instrumentInTurn_becomes {os : List Options} (hsettled : u.Settled)
    (hinert : ∀ o ∈ os, ∀ inj, ofOptions o = .ok inj → inj.isInert = true)
    (hreads : readsBackInTurn name os u = true) {reports : List Report}
    (h : instrumentInTurn name os u = .ok (v, reports)) :
    List.Forall₂ (Spot.Becomes fun l ↦ reports.countP (·.instrumentedAt l)) u.shown v.shown ∧
      ∀ l, l ∉ u.shown.map (·.place) → reports.countP (·.instrumentedAt l) = 0 := by
  induction os generalizing u v reports with
  | nil =>
    obtain ⟨rfl, rfl⟩ := Prod.mk.inj (Except.ok.inj h)
    exact ⟨becomes_refl hsettled.bodies fun l ↦ rfl, fun l _ ↦ rfl⟩
  | cons o os ih =>
    rw [instrumentInTurn] at h
    rw [readsBackInTurn, Bool.and_eq_true] at hreads
    cases hdone : instrumentUnit o name u with
    | error b =>
      rw [hdone] at h
      cases h
    | ok done =>
      rw [hdone] at h hreads
      cases hrest : instrumentInTurn name os done.unit with
      | error b =>
        simp only [Bind.bind, Except.bind, hrest] at h
        cases h
      | ok r =>
        obtain ⟨last, later⟩ := r
        simp only [Bind.bind, Except.bind, hrest] at h
        obtain ⟨rfl, rfl⟩ := Prod.mk.inj (Except.ok.inj h)
        -- the first run leaves the unit settled, so the others start from there
        obtain ⟨hfirst, hat⟩ :=
          instrumentUnit_becomes hsettled (hinert o List.mem_cons_self) hreads.1 hdone
        obtain ⟨hlater, hnone⟩ := ih (settled_of_becomes hsettled hfirst)
          (fun o' ho' ↦ hinert o' (List.mem_cons_of_mem _ ho')) hreads.2 hrest
        have hcount : ∀ l, (done.report :: later).countP (·.instrumentedAt l) =
            (done.report.instrumentedAt l).toNat + later.countP (·.instrumentedAt l) := fun l ↦ by
          rw [List.countP_cons]
          cases done.report.instrumentedAt l <;> simp [Nat.add_comm]
        constructor
        · simp only [hcount]
          exact becomes_trans hfirst hlater
        · intro l hl
          have hfirst_not : done.report.instrumentedAt l = false := by
            rw [Bool.eq_false_iff]
            intro hlisted
            obtain ⟨s, hs, hplace⟩ := hat l hlisted
            exact hl (List.mem_map.2 ⟨s, hs, hplace⟩)
          rw [hcount, hfirst_not, hnone l (by rwa [becomes_places hfirst])]
          rfl

/-- **At most one tracker call.** -/
theorem instrumentInTurn_once {os : List Options} (hd : u.Distinct)
    (hheads : ∀ h ∈ u.heads, h.place ≠ .start ∧ formOf h ≠ .other)
    (hinert : ∀ o ∈ os, ∀ inj, ofOptions o = .ok inj → inj.isInert = true)
    (hreads : readsBackInTurn name os u = true) {reports : List Report}
    (h : instrumentInTurn name os u = .ok (v, reports)) :
    (∀ l, reports.countP (·.instrumentedAt l) ≤ 1) ∧
      ∀ head ∈ u.heads, ∃ head' ∈ v.heads, head'.place = head.place ∧
        (formOf head).Becomes (reports.countP (·.instrumentedAt head.place)) (formOf head') := by
  have hsettled := SourceUnit.settled_of_distinct hd hheads
  obtain ⟨hbecomes, hnone⟩ := instrumentInTurn_becomes hsettled hinert hreads h
  constructor
  · intro l
    by_cases hl : l ∈ u.shown.map (·.place)
    · obtain ⟨s, hs, rfl⟩ := List.mem_map.1 hl
      obtain ⟨s', -, hspot⟩ := exists_becomes hbecomes hs
      exact hspot.form.le_one
    · rw [hnone l hl]
      exact Nat.zero_le 1
  · intro head hhead
    obtain ⟨s, hs, hplace, hform⟩ := SourceUnit.exists_shown_of_head hhead (hheads head hhead).1
    obtain ⟨s', hs', hspot⟩ := exists_becomes hbecomes hs
    obtain ⟨head', hhead', hplace', hform'⟩ := SourceUnit.exists_head_of_shown hs'
    refine ⟨head', hhead', hplace'.trans (hspot.place.trans hplace), ?_⟩
    rw [hform', ← hform, ← hplace]
    exact hspot.form

/-! ### Three runs with three paths and two hosts -/

/-- A tracked function, and in it a closure whose body is an expression. Their parameters for the
host have different names. -/
def nestedText : String :=
  "#[component]\n#[track_recompositions(include_nested = true)]\nfn f(cx: H) \x7b\n" ++
  "    each(#[component] |host| label(host))\n\x7d\n"

/-- Options for three runs. The first run instruments the function, and the second one the
closure. -/
def turnOptions : List Options :=
  [{ runtimePath := "rt" }, { runtimePath := "a::<u8>::b", hostContext := "host" },
    { runtimePath := "::rt", hostContext := "host", modulePrefix := "m" }]

theorem instrumentInTurn_once_nestedText : ∃ u v reports, parseUnit nestedText = .ok u ∧
    instrumentInTurn "unit" turnOptions u = .ok (v, reports) ∧
    reports.map (·.instrumented.length) = [1, 1, 0] ∧
    (∀ l, reports.countP (·.instrumentedAt l) ≤ 1) ∧
      ∀ head ∈ u.heads, ∃ head' ∈ v.heads, head'.place = head.place ∧
        (formOf head).Becomes (reports.countP (·.instrumentedAt head.place)) (formOf head') := by
  have hparse : ∃ u, parseUnit nestedText = .ok u ∧
      (decide u.Distinct, u.heads.all (fun h ↦ h.place != .start && formOf h != .other),
        readsBackInTurn "unit" turnOptions u, (instrumentInTurn "unit" turnOptions u).toOption.map
          fun r ↦ r.2.map (·.instrumented.length)) = (true, true, true, some [1, 1, 0]) :=
    exists_parseUnit_eq_ok (append_eq_ofList rfl rfl) (by decide +kernel)
  have hinert : (turnOptions.all fun o ↦ (ofOptions o).toOption.all isInert) = true := by
    decide +kernel
  obtain ⟨u, hparse, hunit⟩ := hparse
  obtain ⟨hd, hunit⟩ := Prod.mk.inj hunit
  obtain ⟨hheads, hunit⟩ := Prod.mk.inj hunit
  obtain ⟨hreads, hunit⟩ := Prod.mk.inj hunit
  obtain ⟨⟨v, reports⟩, hturns, hreports⟩ := exists_eq_ok hunit
  refine ⟨u, v, reports, hparse, hturns, hreports,
    instrumentInTurn_once (of_decide_eq_true hd) (fun h hh ↦ ?_) (fun o ho inj hinj ↦ ?_) hreads
      hturns⟩
  · simpa using List.all_eq_true.1 hheads h hh
  · have hall := List.all_eq_true.1 hinert o ho
    rwa [hinj] at hall

end RenderTrace
