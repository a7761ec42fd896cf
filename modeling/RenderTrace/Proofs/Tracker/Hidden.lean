import Mathlib.Data.List.Basic
import RenderTrace.Proofs.Tracker.Reference

/-!
# Skip lists only hide

Two trackers that are given the same operations with the same arguments keep the same, whatever
names are left out at each step: the two snapshots, whose turn it is, and the phase. Only the
answers can differ, and where more names are left out they say less, never something else
(`Tracker.steps_onlyHide`).

## Why nothing leaks into later steps

A skip list reaches a tracker only through the comparison, and of its result only the count is kept.
So what a tracker keeps without its name and its count (`Tracker.kept`) after an operation is told
by what it kept before and by the operation without its skip list (`Tracker.kept_perform`). This is
the invariant of two runs. Which entries differ is then the same in both, and the changes that are
reported are those entries without the names that are left out (`Reference.visible_eq`).
-/

namespace RenderTrace

/-! ### What skip lists do not reach -/

namespace Operation

/-- The names that are left out at an operation. -/
def skipped : Operation → List String
  | .recompose _ skipped => skipped
  | .commit => []
  | .track _ skipped => skipped

/-- The arguments of an operation that is a call. -/
def arguments? : Operation → Option Arguments
  | .recompose a _ => some a
  | .commit => none
  | .track a _ => some a

/-- An operation that leaves no names out. -/
def bare : Operation → Operation
  | .recompose a _ => .recompose a []
  | .commit => .commit
  | .track a _ => .track a []

theorem arguments?_bare (op : Operation) : op.bare.arguments? = op.arguments? := by
  cases op <;> rfl

end Operation

namespace Tracker

/-- A tracker without its name and its count: both snapshots, whose turn it is, the phase, and
whether there was a call. -/
def kept (t : Tracker) : Tracker := { t with name := "", logged := 0 }

theorem kept_recompose (t : Tracker) (a : Arguments) (skipped : List String) :
    (t.recompose a skipped).1.kept = ({ t.kept with entered := true } : Tracker).turn.fill a := by
  cases hat : t.atSecond <;> simp [recompose, advance, turn, fill, kept, hat]

/-- What is kept after an operation is told by what was kept before, without the skip list. -/
theorem kept_perform {t t' : Tracker} (hkept : t.kept = t'.kept) {op op' : Operation}
    (hop : op.bare = op'.bare) : (t.perform op).1.kept = (t'.perform op').1.kept := by
  cases op <;> cases op' <;> simp only [Operation.bare, reduceCtorEq, Operation.recompose.injEq,
    Operation.track.injEq, and_true] at hop
  case recompose.recompose a skipped a' skipped' =>
    subst hop
    show (t.recompose a skipped).1.kept = (t'.recompose a skipped').1.kept
    rw [kept_recompose, kept_recompose, hkept]
  case commit.commit => exact congrArg commit hkept
  case track.track a skipped a' skipped' =>
    subst hop
    have hcall : (t.recompose a skipped).1.kept = (t'.recompose a skipped').1.kept := by
      rw [kept_recompose, kept_recompose, hkept]
    exact congrArg commit hcall

/-- Trackers that keep the same show the same, but for the count. -/
theorem view_of_kept {t t' : Tracker} (h : t.kept = t'.kept) :
    t.view.last = t'.view.last ∧ t.view.phase = t'.view.phase := by
  have hlast : t.kept.last = t'.kept.last := congrArg last h
  have hphase : t.kept.phase = t'.kept.phase := congrArg phase h
  exact ⟨hlast, hphase⟩

end Tracker

/-! ### What is said of the same entries -/

namespace Reference

variable {r r' : Reference} {a before now : Arguments} {skipped skipped' : List String}

/-- The entries that differ from what stood under their names before. -/
def differing (before now : Arguments) : List (String × Option Captured) :=
  now.entries.filter fun e ↦ decide (Differs before e)

/-- What is reported of changes that are not left out. -/
def visible (before now : Arguments) (skipped : List String) : List Change :=
  (changes before now skipped).filter (!·.skipped)

/-- Of the entries that differ, those are reported whose names are not left out, and always in the
same way. -/
theorem visible_eq (before now : Arguments) (skipped : List String) :
    visible before now skipped =
      ((differing before now).filter fun e ↦ !skipped.contains e.1).map (report before []) := by
  rw [visible, changes, List.filter_map]
  refine List.map_congr_left fun e he ↦ ?_
  have hnot : (!skipped.contains e.1) = true := (List.mem_filter.1 he).2
  rw [Bool.not_eq_true'] at hnot
  rw [report, report, hnot, List.contains_nil]

/-- Leaving more names out leaves fewer changes, in the same order. -/
theorem visible_sublist (h : skipped ⊆ skipped') :
    (visible before now skipped').Sublist (visible before now skipped) := by
  rw [visible_eq, visible_eq]
  refine (List.monotone_filter_right _ fun e he ↦ ?_).map _
  simp only [Bool.not_eq_true', List.contains_eq_mem, decide_eq_false_iff_not] at he ⊢
  exact fun hmem ↦ he (h hmem)

/-- Whether there are changes at all does not depend on the skip list. -/
theorem changes_eq_nil_iff (before now : Arguments) (skipped : List String) :
    changes before now skipped = [] ↔ differing before now = [] := List.map_eq_nil_iff

/-- If all changes are left out already, leaving more names out changes nothing. -/
theorem changes_eq_of_visible_eq_nil (h : skipped ⊆ skipped')
    (hnone : visible before now skipped = []) :
    changes before now skipped = changes before now skipped' := by
  refine List.map_congr_left fun e he ↦ ?_
  have hskip : e.1 ∈ skipped := by
    rw [visible_eq, List.map_eq_nil_iff, List.filter_eq_nil_iff] at hnone
    simpa using hnone e he
  have hcontains : skipped.contains e.1 = skipped'.contains e.1 := by simp [hskip, h hskip]
  rw [report, report, hcontains]

/-! ### The four answers -/

theorem answer_eq_initial_iff : r.answer a skipped = .initial ↔ r.phase = .initial := by
  cases hphase : r.phase with
  | initial => simp [answer, hphase]
  | steady =>
    simp only [answer, hphase, reduceCtorEq, iff_false]
    split_ifs <;> simp

theorem answer_eq_changed_iff {n : Nat} {cs : List Change} : r.answer a skipped = .changed n cs ↔
    r.phase = .steady ∧ visible r.last a skipped ≠ [] ∧ n = r.logged + 1 ∧
      cs = visible r.last a skipped := by
  cases hphase : r.phase with
  | initial => simp [answer, hphase]
  | steady =>
    simp only [answer, hphase, true_and, visible]
    split_ifs with hvisible hnone <;> simp [hvisible, eq_comm]

theorem answer_eq_unreflected_iff {n : Nat} : r.answer a skipped = .unreflected n ↔
    r.phase = .steady ∧ differing r.last a = [] ∧ n = r.logged + 1 := by
  rw [← changes_eq_nil_iff r.last a skipped]
  cases hphase : r.phase with
  | initial => simp [answer, hphase]
  | steady =>
    simp only [answer, hphase, true_and]
    split_ifs with hvisible hnone
    · have hsome : changes r.last a skipped ≠ [] := fun h ↦ hvisible (by rw [h]; rfl)
      simp [hsome]
    · simp [hnone, eq_comm]
    · simp [hnone]

theorem answer_eq_suppressed_iff {cs : List Change} : r.answer a skipped = .suppressed cs ↔
    r.phase = .steady ∧ visible r.last a skipped = [] ∧ differing r.last a ≠ [] ∧
      cs = changes r.last a skipped := by
  rw [ne_eq, ← changes_eq_nil_iff r.last a skipped]
  cases hphase : r.phase with
  | initial => simp [answer, hphase]
  | steady =>
    simp only [answer, hphase, true_and, visible]
    split_ifs with hvisible hnone
    · simp [hvisible]
    · simp [hnone]
    · simp [not_not.1 hvisible, hnone, eq_comm]

end Reference

/-! ### Two answers -/

/-- How the answer to a call stands to the answer to the same call in a run with other skip lists,
where these are the names that are left out at the two calls. -/
structure Outcome.OnlyHides (skipped skipped' : List String) (o o' : Outcome) : Prop where
  initial_iff : o = .initial ↔ o' = .initial
  unreflected_iff : (∃ n, o = .unreflected n) ↔ ∃ n, o' = .unreflected n
  /-- What is reported although more is left out is reported anyway, with the same values. -/
  changed : skipped ⊆ skipped' → ∀ n' cs', o' = .changed n' cs' →
    ∃ n cs, o = .changed n cs ∧ cs'.Sublist cs
  /-- What is left out already stays so if more is left out. -/
  suppressed : skipped ⊆ skipped' → ∀ cs, o = .suppressed cs → o' = .suppressed cs

namespace Reference

variable {r r' : Reference} {a : Arguments} {skipped skipped' : List String}

/-- Changes that are reported although more names are left out are reported anyway. -/
theorem answer_changed_of_subset (hlast : r.last = r'.last) (hphase : r.phase = r'.phase)
    (h : skipped ⊆ skipped') {n' : Nat} {cs' : List Change}
    (hchanged : r'.answer a skipped' = .changed n' cs') :
    ∃ n cs, r.answer a skipped = .changed n cs ∧ cs'.Sublist cs := by
  obtain ⟨hsteady, hsome, -, rfl⟩ := answer_eq_changed_iff.1 hchanged
  have hsub : (visible r'.last a skipped').Sublist (visible r.last a skipped) :=
    hlast ▸ visible_sublist h
  have hsome' : visible r.last a skipped ≠ [] := fun hnil ↦
    hsome (List.sublist_nil.1 (hnil ▸ hsub))
  exact ⟨_, _, answer_eq_changed_iff.2 ⟨hphase.trans hsteady, hsome', rfl, rfl⟩, hsub⟩

/-- A call of which all changes are left out is answered alike if more names are left out. -/
theorem answer_suppressed_of_subset (hlast : r.last = r'.last) (hphase : r.phase = r'.phase)
    (h : skipped ⊆ skipped') {cs : List Change}
    (hsuppressed : r.answer a skipped = .suppressed cs) :
    r'.answer a skipped' = .suppressed cs := by
  obtain ⟨hsteady, hnone, hsome, rfl⟩ := answer_eq_suppressed_iff.1 hsuppressed
  have hnone' : visible r'.last a skipped' = [] := by
    rw [← hlast]
    exact List.sublist_nil.1 (hnone ▸ visible_sublist h)
  refine answer_eq_suppressed_iff.2 ⟨hphase ▸ hsteady, hnone', hlast ▸ hsome, ?_⟩
  rw [changes_eq_of_visible_eq_nil h hnone, hlast]

/-- References with the same arguments and in the same phase answer a call so. -/
theorem answer_onlyHides (hlast : r.last = r'.last) (hphase : r.phase = r'.phase) (a : Arguments)
    (skipped skipped' : List String) :
    Outcome.OnlyHides skipped skipped' (r.answer a skipped) (r'.answer a skipped') where
  initial_iff := by rw [answer_eq_initial_iff, answer_eq_initial_iff, hphase]
  unreflected_iff := by
    simp only [answer_eq_unreflected_iff, hlast, hphase, exists_and_left, exists_eq, and_true]
  changed h _ _ hchanged := answer_changed_of_subset hlast hphase h hchanged
  suppressed h _ hsuppressed := answer_suppressed_of_subset hlast hphase h hsuppressed

end Reference

/-! ### Two runs -/

namespace Tracker

/-- A step of a run: an operation, the answer if it is a call, and the tracker afterwards. -/
structure Step where
  operation : Operation
  answer : Option Outcome
  after : Tracker
  deriving DecidableEq, Repr

/-- The steps of a run. -/
def steps (t : Tracker) : List Operation → List Step
  | [] => []
  | op :: ops => ⟨op, (t.perform op).2, (t.perform op).1⟩ :: (t.perform op).1.steps ops

/-- How a step stands to the same step of a run with other skip lists. -/
structure Step.OnlyHides (step step' : Step) : Prop where
  bare_eq : step.operation.bare = step'.operation.bare
  /-- Afterwards both trackers keep the same: snapshots, whose turn it is, and phase. -/
  kept_eq : step.after.kept = step'.after.kept
  phase_eq : step.after.phase = step'.after.phase
  last_eq : step.after.last = step'.after.last
  answers : Option.Rel (Outcome.OnlyHides step.operation.skipped step'.operation.skipped)
    step.answer step'.answer

variable {t t' : Tracker} {op op' : Operation}

/-- A call is answered as the reference answers that the tracker shows. -/
theorem answer_perform (t : Tracker) (op : Operation) :
    (t.perform op).2 = op.arguments?.map fun a ↦ t.view.answer a op.skipped := by
  rw [(t.perform_view op).2]
  cases op <;> rfl

/-- Trackers that keep the same stand so to each other after every step. -/
theorem onlyHides_perform (hkept : t.kept = t'.kept) (hop : op.bare = op'.bare) :
    Step.OnlyHides ⟨op, (t.perform op).2, (t.perform op).1⟩
      ⟨op', (t'.perform op').2, (t'.perform op').1⟩ := by
  have hafter := kept_perform hkept hop
  obtain ⟨hlast, hphase⟩ := view_of_kept hkept
  obtain ⟨hlast', hphase'⟩ := view_of_kept hafter
  have harguments : op.arguments? = op'.arguments? := by
    rw [← op.arguments?_bare, hop, op'.arguments?_bare]
  refine ⟨hop, hafter, hphase', hlast', ?_⟩
  simp only [answer_perform, harguments]
  cases op'.arguments? with
  | none => exact .none
  | some a => exact .some (Reference.answer_onlyHides hlast hphase a op.skipped op'.skipped)

theorem onlyHides_steps (hkept : t.kept = t'.kept) {ops ops' : List Operation}
    (hops : ops.map Operation.bare = ops'.map Operation.bare) :
    List.Forall₂ Step.OnlyHides (t.steps ops) (t'.steps ops') := by
  induction ops generalizing t t' ops' with
  | nil =>
    obtain rfl : ops' = [] := List.map_eq_nil_iff.1 hops.symm
    exact .nil
  | cons op ops ih =>
    obtain ⟨op', ops', rfl, hop, hrest⟩ := List.map_eq_cons_iff.1 hops.symm
    exact .cons (onlyHides_perform hkept hop.symm) (ih (kept_perform hkept hop.symm) hrest.symm)

/-- **Skip lists only hide.** Give two new trackers the same operations, with the same arguments and
with any names left out at each step. After every step both keep the same, and the answers are of
the first rendering, or find no change, at the same steps. Where the first leaves out no name that
the second does not, changes that the second reports are among those of the first, and what the
first suppresses the second suppresses as well. -/
theorem steps_onlyHide {ops ops' : List Operation}
    (h : ops.map Operation.bare = ops'.map Operation.bare) (name name' : String) :
    List.Forall₂ Step.OnlyHides (({ name : Tracker }).steps ops)
      (({ name := name' : Tracker }).steps ops') := by
  have hkept : ({ name : Tracker }).kept = ({ name := name' : Tracker }).kept := rfl
  exact onlyHides_steps hkept h

/-- Three calls that change two arguments each, with skip lists that come and go. -/
theorem steps_onlyHide_comeAndGo :
    let row (step hint : String) := Arguments.ofList [("step", some ⟨step, false⟩),
      ("hint", some ⟨hint, false⟩)]
    let ops := [Operation.track (row "1" "a") ["hint"], .recompose (row "2" "b") [],
      .recompose (row "3" "c") ["step", "hint"], .recompose (row "3" "d") ["hint"]]
    let ops' := [Operation.track (row "1" "a") [], .recompose (row "2" "b") ["step"],
      .recompose (row "3" "c") ["hint", "step", "of"], .recompose (row "3" "d") ["hint", "step"]]
    ops.map Operation.bare = ops'.map Operation.bare ∧
      List.Forall₂ Step.OnlyHides (({ name := "Row" : Tracker }).steps ops)
        (({ name := "Cell" : Tracker }).steps ops') ∧
      (({ name := "Row" : Tracker }).steps ops).map (·.answer) =
        [some .initial,
          some (.changed 1 [⟨"step", some ⟨"1", false⟩, some ⟨"2", false⟩, false⟩,
            ⟨"hint", some ⟨"a", false⟩, some ⟨"b", false⟩, false⟩]),
          some (.suppressed [⟨"step", some ⟨"2", false⟩, some ⟨"3", false⟩, true⟩,
            ⟨"hint", some ⟨"b", false⟩, some ⟨"c", false⟩, true⟩]),
          some (.suppressed [⟨"hint", some ⟨"c", false⟩, some ⟨"d", false⟩, true⟩])] ∧
      (({ name := "Cell" : Tracker }).steps ops').map (·.answer) =
        [some .initial,
          some (.changed 1 [⟨"hint", some ⟨"a", false⟩, some ⟨"b", false⟩, false⟩]),
          some (.suppressed [⟨"step", some ⟨"2", false⟩, some ⟨"3", false⟩, true⟩,
            ⟨"hint", some ⟨"b", false⟩, some ⟨"c", false⟩, true⟩]),
          some (.suppressed [⟨"hint", some ⟨"c", false⟩, some ⟨"d", false⟩, true⟩])] := by
  intro row ops ops'
  have hops : ops.map Operation.bare = ops'.map Operation.bare := rfl
  exact ⟨hops, steps_onlyHide hops "Row" "Cell", by decide, by decide⟩

end Tracker

end RenderTrace
