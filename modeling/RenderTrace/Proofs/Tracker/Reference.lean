import Mathlib.Tactic.ByContra
import Mathlib.Tactic.SplitIfs
import RenderTrace.Tracker.Basic

/-!
# Trackers against a reference

A tracker keeps two snapshots in buffers that it uses in turn, and compares them entry by entry
while it raises flags. A `Reference` keeps the arguments of the latest call only and says outright
what changed. Both answer every sequence of operations alike (`Tracker.trace_new`).

## What the buffers hold

The relation between the two machines is `Tracker.view`: what a tracker shows is the buffer that
`atSecond` points at. The other buffer may hold anything, the arguments of the call before the
latest or nothing yet. A call empties it before it is filled (`Arguments.copyFrom_eq`), so nothing
of it is left, and it leaves the buffer with the latest arguments as it was (`Tracker.advance_eq`).

## What the flags say

The comparison raises its flags while it collects changes. `Diff.IsOf` ties the flags to the changes
that were collected so far.
-/

namespace RenderTrace

/-! ### The reference -/

/-- Arguments, a phase and a count: what a tracker shows, and all that a reference keeps. -/
structure Reference where
  /-- The arguments of the latest call. -/
  last : Arguments := {}
  phase : Phase := .initial
  logged : Nat := 0
  deriving DecidableEq, Repr, Inhabited

namespace Reference

/-- Whether an entry has another value than the one that stood under its name before. -/
def Differs (before : Arguments) (entry : String × Option Captured) : Prop :=
  ∃ old, before.entry? entry.1 = some old ∧ old.map (·.text) ≠ entry.2.map (·.text)

instance (before : Arguments) (entry : String × Option Captured) :
    Decidable (Differs before entry) :=
  decidable_of_iff
    ((before.entry? entry.1).any fun old ↦ decide (old.map (·.text) ≠ entry.2.map (·.text)))
    (by simp [Differs, Option.any_eq_true])

/-- What an entry that differs is reported as. -/
def report (before : Arguments) (skipped : List String) (entry : String × Option Captured) :
    Change where
  name := entry.1
  previous := before.value? entry.1
  current := entry.2
  skipped := skipped.contains entry.1

/-- The changes from `before` to `now`, in the order of the latter. -/
def changes (before now : Arguments) (skipped : List String) : List Change :=
  (now.entries.filter fun e ↦ decide (Differs before e)).map (report before skipped)

/-- The answer to a call. -/
def answer (r : Reference) (a : Arguments) (skipped : List String) : Outcome :=
  let all := changes r.last a skipped
  let kept := all.filter (!·.skipped)
  match r.phase with
  | .initial => .initial
  | .steady =>
    if kept ≠ [] then .changed (r.logged + 1) kept
    else if all = [] then .unreflected (r.logged + 1)
    else .suppressed all

/-- Whether a call with this answer counts. -/
def counts : Outcome → Bool
  | .changed _ _ | .unreflected _ => true
  | _ => false

/-- A call: the arguments are kept, and the count goes up if the call counts. -/
def call (r : Reference) (a : Arguments) (skipped : List String) : Reference × Outcome :=
  let outcome := r.answer a skipped
  ({ r with last := a, logged := if counts outcome then r.logged + 1 else r.logged }, outcome)

/-- The first rendering was committed. -/
def commit (r : Reference) : Reference := { r with phase := .steady }

end Reference

/-! ### Operations -/

/-- An operation on a tracker. -/
inductive Operation where
  | recompose (a : Arguments) (skipped : List String)
  | commit
  | track (a : Arguments) (skipped : List String)
  deriving DecidableEq, Repr

/-- An operation on a reference, and the answer if it is a call. -/
def Reference.perform (r : Reference) : Operation → Reference × Option Outcome
  | .recompose a skipped => ((r.call a skipped).1, some (r.call a skipped).2)
  | .commit => (r.commit, none)
  | .track a skipped => ((r.call a skipped).1.commit, some (r.call a skipped).2)

/-- What a reference answers to operations, and its state after each. -/
def Reference.trace (r : Reference) : List Operation → List (Option Outcome × Reference)
  | [] => []
  | op :: ops => ((r.perform op).2, (r.perform op).1) :: (r.perform op).1.trace ops

namespace Tracker

/-- An operation on a tracker, and the answer if it is a call. -/
def perform (t : Tracker) : Operation → Tracker × Option Outcome
  | .recompose a skipped => ((t.recompose a skipped).1, some (t.recompose a skipped).2.1)
  | .commit => (t.commit, none)
  | .track a skipped => ((t.track a skipped).1, some (t.track a skipped).2.1)

/-- What a tracker shows. -/
def view (t : Tracker) : Reference := ⟨t.last, t.phase, t.logged⟩

/-- What a tracker answers to operations, and what it shows after each. -/
def trace (t : Tracker) : List Operation → List (Option Outcome × Reference)
  | [] => []
  | op :: ops => ((t.perform op).2, (t.perform op).1.view) :: (t.perform op).1.trace ops

end Tracker

/-! ### The comparison -/

theorem Captured.sameOf_iff (a b : Option Captured) :
    Captured.sameOf a b = true ↔ a.map (·.text) = b.map (·.text) := by
  cases a <;> cases b <;> simp [Captured.sameOf, Captured.same]

/-- Copying leaves nothing of what was there. -/
theorem Arguments.copyFrom_eq (a other : Arguments) : a.copyFrom other = other := by
  simp [Arguments.copyFrom, Arguments.clear]

namespace Diff

/-- The flags of a comparison say what the changes are. -/
structure IsOf (d : Diff) (changes : List Change) : Prop where
  changes_eq : d.changes = changes
  hasAny_iff : d.hasAny = true ↔ changes ≠ []
  hasSignificant_iff : d.hasSignificant = true ↔ changes.filter (!·.skipped) ≠ []

variable {before : Arguments} {skipped : List String} {entry : String × Option Captured}

theorem compare_of_not_differs (h : ¬ Reference.Differs before entry) (d : Diff) :
    d.compare before skipped entry = d := by
  obtain ⟨name, value⟩ := entry
  cases hold : before.entry? name with
  | none => simp [compare, hold]
  | some old =>
    have hsame : Captured.sameOf old value = true := by
      rw [Captured.sameOf_iff]
      by_contra hne
      exact h ⟨old, hold, hne⟩
    simp [compare, hold, hsame]

theorem compare_of_differs (h : Reference.Differs before entry) (d : Diff) :
    d.compare before skipped entry =
      { hasAny := true
        hasSignificant := d.hasSignificant || !skipped.contains entry.1
        changes := d.changes ++ [Reference.report before skipped entry] } := by
  obtain ⟨old, hold, hne⟩ := h
  have hsame : ¬ Captured.sameOf old entry.2 = true := fun hs ↦ hne ((Captured.sameOf_iff _ _).1 hs)
  have hvalue : before.value? entry.1 = old := by rw [Arguments.value?, hold, Option.join_some]
  simp [compare, hold, hsame, Reference.report, hvalue]

/-- Comparing one entry more reports it if it differs. -/
theorem IsOf.compare {d : Diff} {found : List Change} (h : d.IsOf found) :
    (d.compare before skipped entry).IsOf
      (found ++ ([entry].filter fun e ↦ decide (Reference.Differs before e)).map
        (Reference.report before skipped)) := by
  by_cases hdiff : Reference.Differs before entry
  · rw [compare_of_differs hdiff]
    refine ⟨by simp [hdiff, h.changes_eq], by simp [hdiff], ?_⟩
    -- the new change counts as well if an earlier one does
    rw [Bool.or_eq_true, h.hasSignificant_iff]
    by_cases hskip : entry.1 ∈ skipped <;> simp [hdiff, hskip, Reference.report]
  · rw [compare_of_not_differs hdiff]
    simpa [hdiff] using h

theorem between_isOf (before now : Arguments) (skipped : List String) :
    (between before now skipped).IsOf (Reference.changes before now skipped) := by
  have hfold : ∀ (entries : List (String × Option Captured)) (d : Diff) (found : List Change),
      d.IsOf found → (entries.foldl (compare before skipped) d).IsOf
        (found ++ (entries.filter fun e ↦ decide (Reference.Differs before e)).map
          (Reference.report before skipped)) := by
    intro entries
    induction entries with
    | nil => intro d found h; simpa using h
    | cons e es ih =>
      intro d found h
      have hrest := ih (d.compare before skipped e) _ h.compare
      rwa [List.append_assoc, ← List.map_append, ← List.filter_append] at hrest
  have hempty : ({} : Diff).IsOf [] := ⟨rfl, by simp, by simp⟩
  exact hfold now.entries {} [] hempty

end Diff

/-! ### One operation -/

namespace Tracker

/-- A call fills the buffer that was not the latest and compares the two. -/
theorem advance_eq (t : Tracker) (a : Arguments) (skipped : List String) :
    (t.advance a skipped).1.view = { t.view with last := a } ∧
      (t.advance a skipped).2 = Diff.between t.last a skipped := by
  cases hat : t.atSecond <;>
    simp [advance, turn, fill, view, last, buffer, hat, Arguments.copyFrom_eq]

theorem classify_eq {d : Diff} {r : Reference} {a : Arguments} {skipped : List String}
    (h : d.IsOf (Reference.changes r.last a skipped)) :
    classify r.phase r.logged d = r.answer a skipped := by
  cases hphase : r.phase with
  | initial => simp [classify, Reference.answer, hphase]
  | steady =>
    simp only [classify, Reference.answer, hphase, h.changes_eq, h.hasSignificant_iff,
      Bool.not_eq_true', ← Bool.not_eq_true, h.hasAny_iff, ne_eq, not_not]

theorem countAfter_answer (r : Reference) (a : Arguments) (skipped : List String) :
    countAfter r.logged (r.answer a skipped) =
      if Reference.counts (r.answer a skipped) then r.logged + 1 else r.logged := by
  cases hphase : r.phase with
  | initial => simp [Reference.answer, hphase, Reference.counts, countAfter]
  | steady =>
    simp only [Reference.answer, hphase]
    split_ifs <;> first | rfl | contradiction

/-- A call of a tracker is a call of the reference that it shows. -/
theorem recompose_view (t : Tracker) (a : Arguments) (skipped : List String) :
    (t.recompose a skipped).1.view = (t.view.call a skipped).1 ∧
      (t.recompose a skipped).2.1 = (t.view.call a skipped).2 := by
  obtain ⟨hview, hdiff⟩ := advance_eq { t with entered := true } a skipped
  obtain ⟨hlast, hphase, hlogged⟩ := Reference.mk.inj hview
  have houtcome : (t.recompose a skipped).2.1 = t.view.answer a skipped := by
    rw [← classify_eq (Diff.between_isOf t.view.last a skipped)]
    simp only [recompose, hdiff, hphase, hlogged]
    rfl
  -- the tracker counts by the answer that it gives, which is the answer of the reference
  have hcount : (t.recompose a skipped).1.logged =
      if Reference.counts (t.view.answer a skipped) then t.logged + 1 else t.logged := by
    refine Eq.trans ?_ (countAfter_answer t.view a skipped)
    rw [← houtcome, recompose]
    exact congrArg (countAfter · _) hlogged
  refine ⟨?_, houtcome⟩
  rw [view, hcount]
  exact congrArg₂ (fun a p ↦ (⟨a, p, _⟩ : Reference)) hlast hphase

/-- An operation on a tracker is the same operation on the reference that it shows. -/
theorem perform_view (t : Tracker) (op : Operation) :
    (t.perform op).1.view = (t.view.perform op).1 ∧ (t.perform op).2 = (t.view.perform op).2 := by
  cases op with
  | recompose a skipped =>
    obtain ⟨hview, houtcome⟩ := t.recompose_view a skipped
    exact ⟨hview, congrArg some houtcome⟩
  | commit => exact ⟨rfl, rfl⟩
  | track a skipped =>
    obtain ⟨hview, houtcome⟩ := t.recompose_view a skipped
    exact ⟨congrArg Reference.commit hview, congrArg some houtcome⟩

/-- Operations on a tracker are the same operations on the reference that it shows. -/
theorem trace_view (t : Tracker) (ops : List Operation) : t.trace ops = t.view.trace ops := by
  induction ops generalizing t with
  | nil => rfl
  | cons op ops ih =>
    obtain ⟨hview, houtcome⟩ := t.perform_view op
    rw [trace, Reference.trace, ih, hview, houtcome]

/-- **A tracker is its reference.** Whatever the operations, a new tracker gives the answers of a
new reference, and after each operation it shows the arguments, the phase and the count of the
reference. -/
theorem trace_new (name : String) (ops : List Operation) :
    ({ name : Tracker }).view = {} ∧ ({ name : Tracker }).trace ops = ({} : Reference).trace ops :=
  ⟨rfl, trace_view _ ops⟩

end Tracker

end RenderTrace
