import RenderTrace.Pipeline
import RenderTrace.Proofs.Function.Written
import RenderTrace.Proofs.Injection.Evaluation
import RenderTrace.Proofs.Injection.Generated

/-!
# The entries of a snapshot

Evaluating the snapshot of a tracker call, where the function around it has arguments that its
parameters take (`Written.Called`), gives one entry for each parameter that binds a name, except the
host, in the order in which they are written (`Injection.entries_evaluated`). An entry is absent if
the type says that the value may be absent and it is, and it is marked as reactive if the type is a
reactive wrapper (`Written.Entered`).

The snapshot is made in a variable, which has a name like any other. A parameter of that name is not
seen while the snapshot is made: where its type asks for more than its text, the expression has no
value at all (`Injection.not_evaluated_reserved`), and else the text of the snapshot stands in for
its own.
-/

namespace RenderTrace

open Syntax Injection

namespace Written

variable {o : Options} {w : Written} {a : Argument} {s : Locals}

/-- A parameter takes an argument: its type does not promise what the argument is not. -/
structure Takes (o : Options) (w : Written) (a : Argument) : Prop where
  optional : w.isOptional = true → ∃ t inside, a = .option t inside
  reactive : w.isReactive o = true → ∃ t current, a = .wrapper t current

/-- The text that is captured of an argument, as the type of the parameter asks. -/
def told? (o : Options) (w : Written) : Argument → Option String
  | .option t inside => if w.isOptional then inside else some t
  | .wrapper t current => some (if w.isReactive o then current else t)
  | .value t => some t

/-- A parameter has an argument that it takes. -/
structure Called (o : Options) (s : Locals) (w : Written) (a : Argument) : Prop where
  value : s.get? w.name = some (.argument a)
  takes : w.Takes o a

/-- A parameter has the name of the variable in which the snapshot is made, and its type asks for
more than its text. -/
structure IsHidden (o : Options) (w : Written) : Prop where
  key : w.key = argumentsVariable
  asked : w.isOptional = true ∨ w.isReactive o = true

/-- What the snapshot has for a parameter. -/
structure Entered (o : Options) (w : Written) (a : Argument) (entry : String × Option Captured) :
    Prop where
  key : entry.1 = w.key
  absent_iff : entry.2 = none ↔ w.isOptional = true ∧ ∃ t, a = .option t none
  reactive_iff : (∃ c, entry.2 = some c ∧ c.reactive = true) ↔ w.isReactive o = true
  text : w.key ≠ argumentsVariable → entry.2.map (·.text) = w.told? o a

theorem isReactive_of_isOptional (h : w.isOptional = true) : w.isReactive o = false := by
  rw [isOptional, beq_iff_eq] at h
  rw [isReactive, h]
  rfl

end Written

namespace Injection

open Quotation

variable {o : Options} {runtime : Node} {s s' : Locals} {a : Arguments} {w : Written}
  {argument : Written → Argument}

/-! ### Variables -/

theorem Locals.get?_declare_self (s : Locals) (x : String) (d : Datum) :
    (s.declare x d).get? x = some d := List.lookup_cons_self

theorem Locals.get?_declare_of_ne (s : Locals) {x y : String} (d : Datum)
    (h : Node.bareName y ≠ Node.bareName x) : (s.declare x d).get? y = s.get? y := by
  rw [get?, get?, declare, List.lookup_cons, beq_eq_false_iff_ne.2 h]

theorem bareName_argumentsVariable : Node.bareName argumentsVariable = argumentsVariable := by
  decide +kernel

/-! ### Capturing a parameter -/

theorem HasWords.extend (h : HasWords runtime) (w : String) :
    HasWords (Quotation.extend runtime w) := by
  obtain ⟨colons, first, more, rfl, hfirst⟩ := h
  exact ⟨colons, first, more ++ [.op "::", segment w], rfl, hfirst⟩

/-- A name is worth what the variable is. -/
theorem evaluate_name (h : HasWords runtime) (x : String) (s : Locals) :
    evaluate (rootedWords runtime) (name x) s = s.get? x := by
  have hwords : rootedWords (path false [x]) = [x] := rfl
  have hother : ¬ [x] = rootedWords runtime ++ ["EMPTY_ARGUMENTS"] := by
    intro heq
    have hlength := congrArg List.length heq
    rw [List.length_append, List.length_singleton, List.length_singleton] at hlength
    exact rootedWords_ne_nil h (List.length_eq_zero_iff.1 (by omega))
  rw [name, evaluate_use, hwords, if_neg hother]

theorem evaluate_shared (h : HasWords runtime) (s : Locals) :
    evaluate (rootedWords runtime) (snapshot runtime []) s = some .shared := by
  rw [snapshot, List.isEmpty_nil, if_pos rfl, evaluate_ref, evaluate_use, rootedWords_extend h,
    if_pos rfl]

/-- Capturing a value gives its text. -/
theorem evaluate_capture (h : HasWords runtime) (hs : s.capturing (rootedWords runtime) = true)
    {e : Node} {d : Datum} {t : String} (he : evaluate (rootedWords runtime) e s = some d)
    (ht : d.text? = some t) :
    evaluate (rootedWords runtime) (capture runtime e) s = some (.captured ⟨t, false⟩) := by
  have hprobe : applied (rootedWords runtime) (rootedWords runtime ++ ["Capture"]) d =
      some (.probe t) := by
    unfold applied
    rw [if_pos rfl, ht]
    rfl
  rw [capture, evaluate_method, evaluate_paren, evaluate_ref, evaluate_ref, evaluate_call, he,
    rootedWords_extend h, Option.bind_some, hprobe, Option.bind_some]
  exact if_pos hs

theorem evaluate_present {e : Node} {c : Captured}
    (he : evaluate (rootedWords runtime) e s = some (.captured c)) :
    evaluate (rootedWords runtime) (present e) s = some (.capturedOption (some c)) := by
  have hwords : rootedWords (path true ["core", "option", "Option", "Some"]) =
      ["::", "core", "option", "Option", "Some"] := rfl
  have hother : ¬ ["::", "core", "option", "Option", "Some"] =
      rootedWords runtime ++ ["Capture"] := by
    intro heq
    have hlast := congrArg List.getLast? heq
    rw [List.getLast?_concat] at hlast
    exact absurd hlast (by decide)
  rw [present, evaluate_call, he, hwords, Option.bind_some, applied, if_neg hother, if_pos rfl]

/-- A value that is there as it stands is captured by its text. -/
theorem evaluate_plain (h : HasWords runtime) (hs : s.capturing (rootedWords runtime) = true)
    {p : Param} (hp : p.shape = .plain) {d : Datum} {t : String} (hd : s.get? p.name = some d)
    (ht : d.text? = some t) :
    evaluate (rootedWords runtime) (captured runtime p) s =
      some (.capturedOption (some ⟨t, false⟩)) := by
  have hname : evaluate (rootedWords runtime) (ref (name p.name)) s = some d := by
    rw [evaluate_ref, evaluate_name h, hd]
  rw [captured, hp]
  exact evaluate_present (evaluate_capture h hs hname ht)

/-- The value passed to a closure is captured there by its text. -/
theorem evaluate_current (h : HasWords runtime) (hs : s.capturing (rootedWords runtime) = true)
    (t : String) : evaluate (rootedWords runtime) (capture runtime (name currentValue))
      (s.declare currentValue (.argument (.value t))) = some (.captured ⟨t, false⟩) := by
  have hname : evaluate (rootedWords runtime) (name currentValue)
      (s.declare currentValue (.argument (.value t))) = some (.argument (.value t)) := by
    rw [evaluate_name h, Locals.get?_declare_self]
  exact evaluate_capture (s := s.declare currentValue _) h hs hname rfl

/-- A reactive wrapper is captured by its current value. -/
theorem evaluate_reactive (h : HasWords runtime) (hs : s.capturing (rootedWords runtime) = true)
    {p : Param} (hp : p.shape = .reactive) {t current : String}
    (hd : s.get? p.name = some (.argument (.wrapper t current))) :
    evaluate (rootedWords runtime) (captured runtime p) s =
      some (.capturedOption (some ⟨current, true⟩)) := by
  have hwords : rootedWords (extend (extend runtime "Reactive") "with_current") =
      rootedWords runtime ++ ["Reactive", "with_current"] := by
    rw [rootedWords_extend (h.extend "Reactive"), rootedWords_extend h, List.append_assoc]
    rfl
  rw [captured, hp]
  refine evaluate_present ?_
  rw [evaluate_method, evaluate_with, if_pos hwords, evaluate_ref, evaluate_name h, hd,
    Option.bind_some]
  dsimp only
  rw [evaluate_block, run_value, evaluate_current h hs]
  rfl

/-- What may be absent is captured by what is inside. -/
theorem evaluate_optional (h : HasWords runtime) (hs : s.capturing (rootedWords runtime) = true)
    {p : Param} (hp : p.shape = .optional) {t : String} {inside : Option String}
    (hd : s.get? p.name = some (.argument (.option t inside))) :
    evaluate (rootedWords runtime) (captured runtime p) s =
      some (.capturedOption (inside.map (⟨·, false⟩))) := by
  rw [captured, hp]
  dsimp only
  rw [evaluate_map, evaluate_method, evaluate_name h, hd, Option.bind_some, invoked,
    Option.bind_some]
  cases inside with
  | none => rfl
  | some text =>
    dsimp only
    rw [evaluate_current h hs]
    rfl

/-! ### Making the snapshot -/

/-- A scope while a snapshot is made: what it has so far, and the variables around. -/
structure Midway (runtime : Node) (s s' : Locals) (a : Arguments) : Prop where
  snapshot : s'.get? argumentsVariable = some (.snapshot a)
  capturing : s'.capturing (rootedWords runtime) = true
  others (x : String) : Node.bareName x ≠ argumentsVariable → s'.get? x = s.get? x

/-- The snapshot is seen in place of a parameter of its name. -/
theorem Midway.get?_of_key (h : Midway runtime s s' a) (hkey : w.key = argumentsVariable) :
    s'.get? w.name = some (.snapshot a) := by
  rw [Locals.get?, show Node.bareName w.name = argumentsVariable from hkey,
    ← bareName_argumentsVariable]
  exact h.snapshot

/-- A hidden parameter is not captured: a snapshot is no wrapper, nor is there anything inside. -/
theorem Midway.evaluate_hidden (h : Midway runtime s s' a) (hruntime : HasWords runtime)
    (hw : w.IsHidden o) :
    evaluate (rootedWords runtime) (captured runtime (w.param o)) s' = none := by
  have hname : evaluate (rootedWords runtime) (name (w.param o).name) s' = some (.snapshot a) :=
    (evaluate_name hruntime _ _).trans (h.get?_of_key hw.key)
  have hshape := w.param_shape (o := o)
  by_cases hoptional : w.isOptional = true
  · rw [if_pos hoptional] at hshape
    rw [captured, hshape]
    dsimp only
    rw [evaluate_map, evaluate_method, hname]
    rfl
  · have hreactive := hw.asked.resolve_left hoptional
    rw [if_neg hoptional, if_pos hreactive] at hshape
    rw [captured, hshape]
    dsimp only
    rw [present, evaluate_call, evaluate_method, evaluate_with, evaluate_ref, hname]
    split <;> rfl

/-- Capturing a parameter gives its entry. -/
theorem Midway.exists_entered (h : Midway runtime s s' a) (hruntime : HasWords runtime)
    {a' : Argument} (hw : w.Called o s a') (hseen : ¬ w.IsHidden o) :
    ∃ c, evaluate (rootedWords runtime) (captured runtime (w.param o)) s' =
      some (.capturedOption c) ∧ w.Entered o a' (w.key, c) := by
  have hshape := w.param_shape (o := o)
  by_cases hoptional : w.isOptional = true
  · obtain ⟨t, inside, rfl⟩ := hw.takes.optional hoptional
    have hkey : w.key ≠ argumentsVariable := fun hkey ↦ hseen ⟨hkey, Or.inl hoptional⟩
    rw [if_pos hoptional] at hshape
    refine ⟨_, evaluate_optional hruntime h.capturing hshape ((h.others _ hkey).trans hw.value),
      rfl, ?_, ?_, fun _ ↦ ?_⟩
    · simp [hoptional]
    · rw [Written.isReactive_of_isOptional hoptional]
      cases inside <;> simp
    · cases inside <;> simp [Written.told?, hoptional]
  rw [if_neg hoptional] at hshape
  by_cases hreactive : w.isReactive o = true
  · obtain ⟨t, current, rfl⟩ := hw.takes.reactive hreactive
    have hkey : w.key ≠ argumentsVariable := fun hkey ↦ hseen ⟨hkey, Or.inr hreactive⟩
    rw [if_pos hreactive] at hshape
    refine ⟨_, evaluate_reactive hruntime h.capturing hshape ((h.others _ hkey).trans hw.value),
      rfl, ?_, ?_, fun _ ↦ ?_⟩
    · simp
    · simp [hreactive]
    · simp [Written.told?, hreactive]
  rw [if_neg hreactive] at hshape
  -- the text is that of the snapshot itself if the parameter has the name of the variable
  by_cases hkey : w.key = argumentsVariable
  · have hd : s'.get? (w.param o).name = some (.snapshot a) := h.get?_of_key hkey
    refine ⟨_, evaluate_plain hruntime h.capturing hshape hd rfl, rfl, ?_, ?_, fun hne ↦ ?_⟩
    · simp [hoptional]
    · simp [hreactive]
    · exact absurd hkey hne
  · have hd : s'.get? (w.param o).name = some (.argument a') := (h.others _ hkey).trans hw.value
    refine ⟨_, evaluate_plain hruntime h.capturing hshape hd rfl, rfl, ?_, ?_, fun _ ↦ ?_⟩
    · simp [hoptional]
    · simp [hreactive]
    · cases a' <;> simp [Written.told?, Argument.text, hoptional, hreactive]

/-- Storing another entry leads on. -/
theorem Midway.declare (h : Midway runtime s s' a) (a' : Arguments) :
    Midway runtime s (s'.declare argumentsVariable (.snapshot a')) a' where
  snapshot := Locals.get?_declare_self _ _ _
  capturing := h.capturing
  others x hx := by
    rw [Locals.get?_declare_of_ne _ _ (by rwa [bareName_argumentsVariable]), h.others x hx]

/-- A statement that pushes a parameter changes the snapshot. -/
theorem Midway.run_push (h : Midway runtime s s' a) (w : Written) (ss : List Node) :
    run (rootedWords runtime) (push runtime (w.param o) :: ss) s' =
      (evaluate (rootedWords runtime) (captured runtime (w.param o)) s').bind fun v ↦
        (pushing w.key (.snapshot a) v).bind fun d ↦
          run (rootedWords runtime) ss (s'.declare argumentsVariable d) := by
  have hpush : push runtime (w.param o) = .node .stmtExpr [methodCall (name argumentsVariable)
      "push_captured" [text w.key, captured runtime (w.param o)], .op ";"] :=
    statement_of_spellsItself rfl
  rw [hpush, Injection.run_push, h.snapshot, Option.bind_some]

/-- The parameters get their entries one after the other. -/
theorem Midway.run_pushes (hruntime : HasWords runtime) {ws : List Written}
    (hws : ∀ w ∈ ws, w.Called o s (argument w)) (hseen : ∀ w ∈ ws, ¬ w.IsHidden o)
    (hkeys : (a.entries.map (·.1) ++ ws.map (·.key)).Nodup) (h : Midway runtime s s' a) :
    ∃ entries, run (rootedWords runtime) ((ws.map (Written.param o)).map (push runtime) ++
        [value (name argumentsVariable)]) s' = some (.snapshot ⟨a.entries ++ entries⟩) ∧
      List.Forall₂ (fun w entry ↦ w.Entered o (argument w) entry) ws entries := by
  -- the keys so far and those to come differ, so that no entry replaces another one
  induction ws generalizing s' a with
  | nil =>
    refine ⟨[], ?_, .nil⟩
    rw [List.map_nil, List.map_nil, List.nil_append, run_value, evaluate_name hruntime, h.snapshot,
      List.append_nil]
  | cons w ws ih =>
    obtain ⟨c, hc, hentered⟩ := h.exists_entered hruntime (hws w List.mem_cons_self)
      (hseen w List.mem_cons_self)
    have hnew : w.key ∉ a.entries.map (·.1) := fun hmem ↦
      (List.nodup_append.1 hkeys).2.2 _ hmem _ List.mem_cons_self rfl
    have hstore : (a.push w.key c).entries = a.entries ++ [(w.key, c)] :=
      Arguments.store_of_not_mem hnew
    obtain ⟨entries, hrun, hentries⟩ := ih (fun w' hw' ↦ hws w' (List.mem_cons_of_mem _ hw'))
      (fun w' hw' ↦ hseen w' (List.mem_cons_of_mem _ hw'))
      (by simpa [hstore] using hkeys) (h.declare (a.push w.key c))
    refine ⟨(w.key, c) :: entries, ?_, .cons hentered hentries⟩
    rw [List.map_cons, List.map_cons, List.cons_append, h.run_push, hc, Option.bind_some, pushing,
      Option.bind_some, hrun, hstore, List.append_assoc]
    rfl

/-- There is no snapshot if a parameter is hidden. -/
theorem Midway.run_hidden (hruntime : HasWords runtime) {ws : List Written}
    (hws : ∀ w ∈ ws, w.Called o s (argument w)) (hhidden : ∃ w ∈ ws, w.IsHidden o)
    (h : Midway runtime s s' a) :
    run (rootedWords runtime) ((ws.map (Written.param o)).map (push runtime) ++
      [value (name argumentsVariable)]) s' = none := by
  induction ws generalizing s' a with
  | nil =>
    obtain ⟨w, hw, -⟩ := hhidden
    exact absurd hw List.not_mem_nil
  | cons w ws ih =>
    rw [List.map_cons, List.map_cons, List.cons_append, h.run_push]
    by_cases hw : w.IsHidden o
    · rw [h.evaluate_hidden hruntime hw]
      rfl
    · obtain ⟨c, hc, -⟩ := h.exists_entered hruntime (hws w List.mem_cons_self) hw
      rw [hc, Option.bind_some, pushing, Option.bind_some]
      refine ih (fun w' hw' ↦ hws w' (List.mem_cons_of_mem _ hw')) ?_ (h.declare _)
      obtain ⟨w', hw', hhidden'⟩ := hhidden
      rcases List.mem_cons.1 hw' with rfl | hmem
      · exact absurd hhidden' hw
      · exact ⟨w', hmem, hhidden'⟩

/-- The traits of the runtime that a snapshot imports. -/
theorem midway_imported (runtime : Node) (s : Locals) :
    Midway runtime s ((s.importing (["CaptureDebug", "CaptureOpaque"].map fun t ↦
      (if (runtime.child 0).isAbsent then [] else ["::"]) ++ runtime.segmentNames ++ [t])).declare
        argumentsVariable (.snapshot {})) {} where
  snapshot := Locals.get?_declare_self _ _ _
  capturing := by simp [Locals.capturing, Locals.declare, Locals.importing, rootedWords]
  others x hx := Locals.get?_declare_of_ne _ _ (by rwa [bareName_argumentsVariable])

/-- The snapshot of some parameters is what its statements are worth. -/
theorem evaluate_snapshot (hruntime : HasWords runtime) {ps : List Param} (hsome : ps ≠ []) :
    ∃ s', Midway runtime s s' {} ∧ evaluate (rootedWords runtime) (snapshot runtime ps) s =
      run (rootedWords runtime) (ps.map (push runtime) ++ [value (name argumentsVariable)]) s' := by
  have hempty : ps.isEmpty = false := List.isEmpty_eq_false_iff.2 hsome
  have hwords : rootedWords (extend (extend runtime "Arguments") "with_capacity") =
      rootedWords runtime ++ ["Arguments", "with_capacity"] := by
    rw [rootedWords_extend (hruntime.extend "Arguments"), rootedWords_extend hruntime,
      List.append_assoc]
    rfl
  refine ⟨_, midway_imported runtime s, ?_⟩
  rw [snapshot, if_neg (by rw [hempty]; exact Bool.false_ne_true), evaluate_ref, evaluate_block,
    List.append_assoc, List.cons_append, List.cons_append, List.nil_append, snapshotImport,
    run_import, run_letMut, if_pos hwords]

/-! ### Tracker calls -/

variable {u : SourceUnit} {f : Function} {inj : Injector} {call : Node}

/-- The parameters of a node that bind names, except the host. -/
def writtenBeside (host : String) (n : Node) : List Written :=
  (Index.writtenOf n).filter (·.name != host)

/-- The captured parameters are the ones that bind names, except the host. -/
theorem capturedParams_eq {n : Node} (hn : Index.Declares o n f) (host : String) :
    capturedParams f.declaration.params host = (writtenBeside host n).map (Written.param o) := by
  have hfilter : capturedParams f.declaration.params host =
      (f.declaration.params.filter (·.binding)).filter (·.name != host) := by
    rw [capturedParams, List.filter_filter]
    exact List.filter_congr fun p _ ↦ Bool.and_comm _ _
  rw [hfilter, hn.binding_params, List.filter_map]
  rfl

/-- The snapshot is the third argument of a tracker call. -/
theorem snapshot_of_trackerStatement? (hfits : fitsExpression inj.runtime = true)
    (hcall : trackerStatement? inj.runtime inj.host f = some call) : (argumentsOf call)[2]? =
      some (snapshot inj.runtime (capturedParams f.declaration.params inj.host)) := by
  rcases argumentsOf_tracker hcall with harguments | ⟨hnone, -⟩
  · rw [harguments]
    rfl
  · rw [Injector.trackerStatement?_eq hfits hcall] at hnone
    exact absurd hnone (List.cons_ne_nil _ _)

/-- **The entries of a snapshot.** Where a function has arguments that its parameters take, and
these have different names, the snapshot of its tracker call has one entry for each parameter that
binds a name, except the host: unless one of them is hidden by the variable in which the snapshot is
made, and then it has no value. It is the shared one exactly if there is no such parameter. -/
theorem entries_evaluated (hinj : Injector.ofOptions o = .ok inj)
    (hfits : fitsExpression inj.runtime = true) (hf : f ∈ (Index.build o u).functions)
    (hcall : trackerStatement? inj.runtime inj.host f = some call) :
    ∃ n e, u.Holds n ∧ Index.Declares o n f ∧ (argumentsOf call)[2]? = some e ∧
      ∀ (s : Locals) (argument : Written → Argument), ((Index.writtenOf n).map (·.key)).Nodup →
        (∀ w ∈ writtenBeside inj.host n, w.Called o s (argument w)) →
        ((∀ w ∈ writtenBeside inj.host n, ¬ w.IsHidden o) →
          ∃ d a, evaluate (rootedWords inj.runtime) e s = some d ∧ d.arguments? = some a ∧
            List.Forall₂ (fun w entry ↦ w.Entered o (argument w) entry)
              (writtenBeside inj.host n) a.entries ∧
            (d = .shared ↔ writtenBeside inj.host n = [])) ∧
        ((∃ w ∈ writtenBeside inj.host n, w.IsHidden o) →
          evaluate (rootedWords inj.runtime) e s = none) := by
  obtain ⟨n, hholds, hn⟩ := Index.exists_declares hf
  have hruntime : HasWords inj.runtime := Injector.runtime_of_ofOptions hinj
  refine ⟨n, _, hholds, hn, snapshot_of_trackerStatement? hfits hcall,
    fun s argument hkeys hws ↦ ?_⟩
  rw [capturedParams_eq hn]
  have hnodup : ((writtenBeside inj.host n).map (·.key)).Nodup :=
    hkeys.sublist (List.filter_sublist.map _)
  -- without such a parameter the shared snapshot is written, else one that is made push by push
  by_cases hnone : writtenBeside inj.host n = []
  · rw [hnone]
    refine ⟨fun _ ↦ ⟨.shared, {}, evaluate_shared hruntime s, rfl, .nil, by simp⟩, ?_⟩
    rintro ⟨w, hw, -⟩
    exact absurd hw List.not_mem_nil
  · have hsome : (writtenBeside inj.host n).map (Written.param o) ≠ [] := by simpa using hnone
    obtain ⟨s', hmidway, hevaluate⟩ := evaluate_snapshot (s := s) hruntime hsome
    rw [hevaluate]
    refine ⟨fun hseen ↦ ?_, hmidway.run_hidden hruntime hws⟩
    obtain ⟨entries, hrun, hentries⟩ :=
      hmidway.run_pushes hruntime hws hseen (by simpa using hnodup)
    exact ⟨_, _, hrun, rfl, hentries, iff_of_false nofun hnone⟩

/-! A function with a parameter of each kind, and one with a parameter that is hidden. -/

/-- A function with a raw name, a pattern, and types behind a reference and in parentheses. -/
def kindsText : String :=
  "#[component]\n#[track_recompositions]\n" ++
    "fn field(cx: &mut Host, r#type: &Signal<u8>, (a, b): (u8, u8), hint: (Option<u8>), " ++
    "size: u8) \x7b\x7d\n"

/-- An argument of each kind. -/
def argumentFor : TypeShape → Argument
  | .plain => .value "1"
  | .reactive => .wrapper "Signal(2)" "2"
  | .optional => .option "None" none

/-- The variables of the function. -/
def kindsLocals : Locals :=
  ⟨[("type", .argument (argumentFor .reactive)), ("hint", .argument (argumentFor .optional)),
    ("size", .argument (argumentFor .plain))], []⟩

theorem takes_argumentFor (w : Written) : w.Takes {} (argumentFor (w.param {}).shape) where
  optional h := by
    rw [w.param_shape, if_pos h]
    exact ⟨_, _, rfl⟩
  reactive h := by
    have hoptional : ¬ w.isOptional = true := fun htrue ↦ by
      rw [Written.isReactive_of_isOptional htrue] at h
      cases h
    rw [w.param_shape, if_neg hoptional, if_pos h]
    exact ⟨_, _, rfl⟩

theorem entries_evaluated_kindsText : ∃ u inj f call n e a, parseUnit kindsText = .ok u ∧
    Injector.ofOptions {} = .ok inj ∧ fitsExpression inj.runtime = true ∧
    f ∈ (Index.build {} u).functions ∧ trackerStatement? inj.runtime inj.host f = some call ∧
    Index.Declares {} n f ∧ (argumentsOf call)[2]? = some e ∧
    evaluate (rootedWords inj.runtime) e kindsLocals = some (.snapshot a) ∧
    List.Forall₂ (fun w entry ↦ w.Entered {} (argumentFor (w.param {}).shape) entry)
      (writtenBeside inj.host n) a.entries ∧
    a.entries = [("type", some ⟨"2", true⟩), ("hint", none), ("size", some ⟨"1", false⟩)] := by
  obtain ⟨u, hparse, hunit⟩ : ∃ u, parseUnit kindsText = .ok u ∧
      ((Index.build {} u).functions[0]?.bind fun f ↦ (Injector.ofOptions {}).toOption.bind fun inj ↦
        (trackerStatement? inj.runtime inj.host f).map fun call ↦
          (fitsExpression inj.runtime,
            decide (((f.declaration.params.filter (·.binding)).map snapshotKey).Nodup ∧
              ∀ p ∈ capturedParams f.declaration.params inj.host,
                kindsLocals.get? p.name = some (.argument (argumentFor p.shape)) ∧
                snapshotKey p ≠ argumentsVariable),
            (argumentsOf call)[2]?.bind fun e ↦
              evaluate (rootedWords inj.runtime) e kindsLocals)) =
      some (true, true, some (.snapshot
        ⟨[("type", some ⟨"2", true⟩), ("hint", none), ("size", some ⟨"1", false⟩)]⟩)) :=
    exists_parseUnit_eq_ok (append_eq_ofList (append_eq_ofList rfl rfl) rfl) (by decide +kernel)
  obtain ⟨f, hf, hunit⟩ := Option.bind_eq_some_iff.1 hunit
  obtain ⟨inj, hinj, hunit⟩ := Option.bind_eq_some_iff.1 hunit
  obtain ⟨call, hcall, hunit⟩ := Option.map_eq_some_iff.1 hunit
  obtain ⟨hfits, hunit⟩ := Prod.mk.inj hunit
  obtain ⟨hparams, hvalue⟩ := Prod.mk.inj hunit
  obtain ⟨hkeys, hparams⟩ := of_decide_eq_true hparams
  have hmem := Array.mem_of_getElem? hf
  obtain ⟨n, e, -, hn, he, hall⟩ := entries_evaluated (eq_ok_of_toOption hinj) hfits hmem hcall
  rw [hn.binding_params, List.map_map] at hkeys
  rw [capturedParams_eq hn, List.forall_mem_map] at hparams
  obtain ⟨d, a, hd, hsnapshot, hentries, -⟩ :=
    (hall kindsLocals (fun w ↦ argumentFor (w.param {}).shape) hkeys fun w hw ↦
      ⟨(hparams w hw).1, takes_argumentFor w⟩).1 fun w hw hhidden ↦ (hparams w hw).2 hhidden.key
  rw [he, Option.bind_some, hd] at hvalue
  obtain rfl := Option.some.inj hvalue
  obtain rfl := Option.some.inj hsnapshot
  exact ⟨u, inj, f, call, n, e, _, hparse, eq_ok_of_toOption hinj, hfits, hmem, hcall, hn, he, hd,
    hentries, rfl⟩

end Injection

end RenderTrace
