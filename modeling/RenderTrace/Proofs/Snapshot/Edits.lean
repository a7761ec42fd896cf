import Mathlib.Data.List.DropRight
import RenderTrace.Proofs.Tracker.Rendered

/-!
# What a snapshot holds

A snapshot is filled by pushing arguments under names, in several ways, and by copying another one
that was filled in the same way. After any edits no name stands twice in it, the names stand in the
order in which they came in, and what is found under a name is what was pushed last
(`Arguments.edited_holds`).

Only what came since the latest copy counts: a copy replaces all that was there. So edits amount to
the latest copy and the pushes since (`Arguments.edited_eq`), and what pushes do to a snapshot is
told by two laws, one for the names (`Arguments.names_pushAll`) and one for the values
(`Arguments.entry?_pushAll`).
-/

namespace RenderTrace.Arguments

/-! ### Edits -/

/-- What is pushed under a name. -/
inductive Pushed where
  | value (v : Value)
  /-- A reactive wrapper, by its current value. -/
  | reactive (current : Value)
  /-- A value that may be absent. -/
  | optional (v : Option Value)
  | absent
  /-- What was captured before. -/
  | captured (c : Option Captured)

/-- What is stored of what is pushed. -/
def Pushed.captured? : Pushed → Option Captured
  | .value v => some (.ofValue v)
  | .reactive current => some (.ofCurrent current)
  | .optional v => v.map .ofValue
  | .absent => none
  | .captured c => c

/-- An edit of a snapshot. -/
inductive Edit where
  | push (name : String) (what : Pushed)
  /-- All is replaced by a copy of the snapshot that these edits make of an empty one. -/
  | copyFrom (source : List Edit)

mutual

/-- A snapshot after an edit. -/
def Edit.perform : Edit → Arguments → Arguments
  | .push name what, a => a.push name what.captured?
  | .copyFrom source, a => a.copyFrom (edit source {})

/-- A snapshot after edits. -/
def edit : List Edit → Arguments → Arguments
  | [], a => a
  | e :: es, a => edit es (e.perform a)

end

/-- The snapshot that edits make of an empty one. -/
def edited (es : List Edit) : Arguments := edit es {}

/-- What an edit pushes, if it is a push. -/
def Edit.pushed? : Edit → Option (String × Option Captured)
  | .push name what => some (name, what.captured?)
  | .copyFrom _ => none

/-- What was pushed since the latest copy, in turn. -/
def pushesSince (es : List Edit) : List (String × Option Captured) :=
  (es.rtakeWhile (·.pushed?.isSome)).filterMap Edit.pushed?

/-- What was copied last; nothing if there was no copy. -/
def copiedLast (es : List Edit) : Arguments :=
  match (es.rdropWhile (·.pushed?.isSome)).getLast? with
  | some (.copyFrom source) => edited source
  | _ => {}

/-- The names in a snapshot, in their order. -/
def names (a : Arguments) : List String := a.entries.map (·.1)

/-- A snapshot holds what was copied, as the pushes since left it. -/
structure Holds (a copied : Arguments) (pushes : List (String × Option Captured)) : Prop where
  nodup : a.names.Nodup
  /-- The copied names come first, and then the others in the order of their first push. -/
  names_eq : a.names = copied.names ++
    ((pushes.map (·.1)).filter fun name ↦ !copied.names.contains name).eraseDups
  missing_iff (name : String) : a.entry? name = none ↔ name ∉ a.names
  /-- Under a name is what was pushed last, be it an absent value, or else what was copied. -/
  entry?_eq (name : String) :
    a.entry? name = (pushes.reverse.lookup name).or (copied.entry? name)

/-! ### Pushes -/

/-- A snapshot after pushes. -/
def pushAll (a : Arguments) (pushes : List (String × Option Captured)) : Arguments :=
  pushes.foldl (fun a p ↦ a.push p.1 p.2) a

variable (a : Arguments)

theorem names_push (name : String) (value : Option Captured) :
    (a.push name value).names = if name ∈ a.names then a.names else a.names ++ [name] :=
  store_keys name value a.entries

theorem lookup_cons_eq_ite (entry : String × Option Captured) (name : String)
    (entries : List (String × Option Captured)) : (entry :: entries).lookup name =
      if name = entry.1 then some entry.2 else entries.lookup name := by
  by_cases h : name = entry.1
  · rw [if_pos h, h, List.lookup_cons, beq_self_eq_true]
  · rw [if_neg h, List.lookup_cons, beq_eq_false_iff_ne.2 h]

theorem lookup_store (name other : String) (value : Option Captured)
    (entries : List (String × Option Captured)) :
    (store name value entries).lookup other =
      if other = name then some value else entries.lookup other := by
  induction entries with
  | nil => rw [store, lookup_cons_eq_ite]
  | cons e es ih =>
    obtain ⟨k, v⟩ := e
    by_cases hk : k = name
    · -- the value is replaced in its place
      rw [store, if_pos (beq_iff_eq.2 hk), lookup_cons_eq_ite, lookup_cons_eq_ite, hk]
      split <;> rfl
    · rw [store, if_neg (by simpa using hk), lookup_cons_eq_ite, lookup_cons_eq_ite, ih]
      split_ifs with hother hname
      · exact absurd (hother.symm.trans hname) hk
      all_goals rfl

theorem entry?_push (name other : String) (value : Option Captured) :
    entry? (a.push name value) other = if other = name then some value else a.entry? other :=
  lookup_store name other value a.entries

/-- Pushes leave the names where they are and put new ones behind them, each where it comes
first. -/
theorem names_pushAll (pushes : List (String × Option Captured)) : (a.pushAll pushes).names =
    a.names ++ ((pushes.map (·.1)).filter fun name ↦ !a.names.contains name).eraseDups := by
  induction pushes generalizing a with
  | nil => simp [pushAll]
  | cons p ps ih =>
    rw [pushAll, List.foldl_cons, ← pushAll, ih, names_push, List.map_cons, List.filter_cons]
    by_cases hold : p.1 ∈ a.names
    · simp [hold]
    · have hnew : (!a.names.contains p.1) = true := by simpa using hold
      rw [if_neg hold, if_pos hnew, List.eraseDups_cons, List.filter_filter, List.append_assoc,
        List.singleton_append]
      congr 3
      refine List.filter_congr fun name _ ↦ ?_
      simp [Bool.and_comm, Bool.beq_eq_decide_eq]

/-- The last push under a name counts. -/
theorem entry?_pushAll (pushes : List (String × Option Captured)) (name : String) :
    entry? (a.pushAll pushes) name = (pushes.reverse.lookup name).or (a.entry? name) := by
  induction pushes generalizing a with
  | nil => rfl
  | cons p ps ih =>
    rw [pushAll, List.foldl_cons, ← pushAll, ih, entry?_push, List.reverse_cons,
      List.lookup_append, Option.or_assoc, lookup_cons_eq_ite]
    split <;> rfl

/-! ### The latest copy -/

theorem edit_append (es es' : List Edit) : edit (es ++ es') a = edit es' (edit es a) := by
  induction es generalizing a with
  | nil => rw [List.nil_append, edit]
  | cons e es ih => rw [List.cons_append, edit, edit, ih]

/-- Edits amount to the latest copy and the pushes since. -/
theorem edited_eq (es : List Edit) : edited es = (copiedLast es).pushAll (pushesSince es) := by
  induction es using List.reverseRecOn with
  | nil => rfl
  | append_singleton es e ih =>
    rw [edited, edit_append, ← edited, ih, edit, edit]
    cases e with
    | push name what =>
      have hpushes : pushesSince (es ++ [.push name what]) =
          pushesSince es ++ [(name, what.captured?)] := by
        simp [pushesSince, Edit.pushed?]
      have hcopied : copiedLast (es ++ [.push name what]) = copiedLast es := by
        simp [copiedLast, Edit.pushed?]
      rw [hpushes, hcopied, pushAll, pushAll, List.foldl_append, Edit.perform]
      rfl
    | copyFrom source =>
      have hpushes : pushesSince (es ++ [.copyFrom source]) = [] := by
        simp [pushesSince, Edit.pushed?]
      have hcopied : copiedLast (es ++ [.copyFrom source]) = edited source := by
        simp [copiedLast, Edit.pushed?]
      rw [hpushes, hcopied, Edit.perform, copyFrom_eq]
      rfl

mutual

theorem Edit.perform_built (e : Edit) {a : Arguments} (h : a.Built) : (e.perform a).Built :=
  match e with
  | .push name what => by
    rw [Edit.perform]
    exact h.push name what.captured?
  | .copyFrom source => by
    rw [Edit.perform]
    exact h.copyFrom (edit_built source .empty)

theorem edit_built (es : List Edit) {a : Arguments} (h : a.Built) : (edit es a).Built :=
  match es with
  | [] => by rwa [edit]
  | e :: es => by
    rw [edit]
    exact edit_built es (e.perform_built h)

end

theorem entry?_eq_none_iff (name : String) : a.entry? name = none ↔ name ∉ a.names := by
  rw [Arguments.entry?, List.lookup_eq_none_iff, names, List.mem_map]
  constructor
  · rintro h ⟨p, hp, rfl⟩
    simpa using h p hp
  · intro h p hp
    simpa using fun heq : name = p.1 ↦ h ⟨p, hp, heq.symm⟩

/-- **What a snapshot holds.** After any edits of an empty snapshot every name stands in it once:
first the names of the latest copy in their order, and then the others in the order in which they
were first pushed since. What is found under a name is what was pushed there last since that copy,
or else what was copied, where an absent value is found as such; nothing is found exactly where the
name is missing. -/
theorem edited_holds (es : List Edit) : (edited es).Holds (copiedLast es) (pushesSince es) where
  nodup := (edit_built es .empty).nodup
  names_eq := by rw [edited_eq, names_pushAll]
  missing_iff := entry?_eq_none_iff (edited es)
  entry?_eq name := by rw [edited_eq, entry?_pushAll]

/-- A copy forgets what was there; an absent value replaces the copied one in its place. -/
example :
    let source := [Edit.push "step" (.value (.int 1)), .push "hint" .absent]
    let es := [Edit.push "old" (.value .unit), .copyFrom source, .push "of" (.reactive (.int 3)),
      .push "step" .absent, .push "of" (.optional (some (.int 4)))]
    (edited es).entries = [("step", none), ("hint", none), ("of", some ⟨"4", false⟩)] := by
  decide +kernel

end RenderTrace.Arguments
