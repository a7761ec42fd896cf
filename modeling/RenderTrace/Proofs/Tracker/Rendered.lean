import Mathlib.Data.List.Nodup
import RenderTrace.Proofs.Tracker.Reference

/-!
# Only what is rendered counts

Two snapshots are *alike* if they have the same names and show the same text, or the same absence of
a value, under each. The order of the entries and the flags of reactive values may differ. Trackers
that are given alike snapshots, and skip lists with the same names, answer alike: with answers of
the same kind and count, and with the same changes up to their order (`Tracker.trace_rendered`).

## Why the order can only permute

A comparison goes through the entries of the new snapshot, so what it reports is ordered by them. A
name must then stand in one entry only. This holds of every snapshot that can be built
(`Arguments.Built.nodup`), and with it alike snapshots have the same entries up to their order
(`Arguments.alike_iff_perm`). Of the old snapshot a comparison only looks names up, which is the
same in alike snapshots by definition.
-/

namespace RenderTrace

/-! ### Captured values -/

/-- Texts that are equal have equal hashes, so that comparing the hashes as well changes nothing. -/
theorem Captured.same_eq (a b : Captured) : a.same b = (a.hash == b.hash && a.text == b.text) := by
  by_cases h : a.text = b.text <;> simp [same, hash, h]

/-! ### Snapshots -/

namespace Arguments

/-- A snapshot that was built from empty ones by storing values and copying. -/
inductive Built : Arguments → Prop where
  | empty : Built {}
  | push {a : Arguments} (name : String) (value : Option Captured) :
      Built a → Built (a.push name value)
  | copyFrom {a other : Arguments} : Built a → Built other → Built (a.copyFrom other)

/-- The text under a name: nothing, the text of an absent value, or a text. -/
def text? (a : Arguments) (name : String) : Option (Option String) :=
  (a.entry? name).map (·.map (·.text))

/-- The entries with the texts of their values. -/
def texts (a : Arguments) : List (String × Option String) :=
  a.entries.map fun e ↦ (e.1, e.2.map (·.text))

/-- The same names are there, with the same texts. -/
def Alike (a a' : Arguments) : Prop := ∀ name, a.text? name = a'.text? name

theorem store_keys (name : String) (value : Option Captured)
    (entries : List (String × Option Captured)) :
    (store name value entries).map (·.1) =
      if name ∈ entries.map (·.1) then entries.map (·.1) else entries.map (·.1) ++ [name] := by
  induction entries with
  | nil => simp [store]
  | cons e es ih =>
    obtain ⟨k, v⟩ := e
    by_cases heq : k = name
    · simp [store, heq]
    · have hother : name ≠ k := fun h ↦ heq h.symm
      simp only [store, beq_eq_false_iff_ne.2 heq, Bool.false_eq_true, if_false, List.map_cons, ih,
        List.mem_cons, hother, false_or]
      split <;> simp

/-- In a snapshot that was built every name stands once. -/
theorem Built.nodup {a : Arguments} (h : a.Built) : (a.entries.map (·.1)).Nodup := by
  induction h with
  | empty => exact List.nodup_nil
  | push name value _ ih =>
    rw [Arguments.push, store_keys]
    split
    · exact ih
    · rename_i hnew
      exact ih.append (List.nodup_singleton name) (List.disjoint_singleton.2 hnew)
  | copyFrom _ _ _ ih => rwa [copyFrom_eq]

/-- A list of values is stored value by value. -/
theorem Built.ofList (pairs : List (String × Option Captured)) : (ofList pairs).Built := by
  have hfold : ∀ (pairs : List (String × Option Captured)) (a : Arguments), a.Built →
      (pairs.foldl (fun a p ↦ a.push p.1 p.2) a).Built := by
    intro pairs
    induction pairs with
    | nil => exact fun _ h ↦ h
    | cons p ps ih => exact fun a h ↦ ih _ (h.push p.1 p.2)
  exact hfold pairs {} .empty

theorem Built.texts_keys {a : Arguments} (h : a.Built) : (a.texts.map (·.1)).Nodup := by
  simpa [texts, Function.comp_def] using h.nodup

theorem lookup_texts (a : Arguments) (name : String) : a.texts.lookup name = a.text? name := by
  rw [texts, text?, entry?]
  induction a.entries with
  | nil => rfl
  | cons e es ih =>
    rw [List.map_cons, List.lookup_cons, List.lookup_cons, ih]
    cases name == e.1 <;> rfl

/-- In a snapshot that was built an entry is what is found under its name. -/
theorem Built.mem_texts_iff {a : Arguments} (h : a.Built) (name : String) (text : Option String) :
    (name, text) ∈ a.texts ↔ a.text? name = some text := by
  rw [← lookup_texts, List.lookup_eq_some_iff]
  constructor
  · intro hmem
    obtain ⟨before, behind, heq⟩ := List.append_of_mem hmem
    refine ⟨before, behind, heq, fun p hp ↦ bne_iff_ne.2 fun hname ↦ ?_⟩
    have hkeys := h.texts_keys
    rw [heq, List.map_append, List.nodup_append] at hkeys
    exact hkeys.2.2 _ (List.mem_map_of_mem hp) _ List.mem_cons_self hname.symm
  · rintro ⟨before, behind, heq, -⟩
    simp [heq]

/-- Snapshots are alike if they have the same entries in some order. -/
theorem alike_iff_perm {a a' : Arguments} (ha : a.Built) (ha' : a'.Built) :
    a.Alike a' ↔ a.texts.Perm a'.texts := by
  rw [List.perm_ext_iff_of_nodup ha.texts_keys.of_map ha'.texts_keys.of_map]
  constructor
  · rintro h ⟨name, text⟩
    rw [ha.mem_texts_iff, ha'.mem_texts_iff, h name]
  · intro h name
    refine Option.ext fun text ↦ ?_
    rw [← ha.mem_texts_iff, ← ha'.mem_texts_iff, h]

end Arguments

/-! ### What is shown of changes and answers -/

/-- A change as it is shown: its name, the two texts, and whether it is left out. -/
def Change.shown (c : Change) : String × Option String × Option String × Bool :=
  (c.name, c.previous.map (·.text), c.current.map (·.text), c.skipped)

/-- Answers of one kind and count, with changes that are shown alike up to their order. -/
inductive Outcome.Alike : Outcome → Outcome → Prop where
  | disabled : Alike .disabled .disabled
  | initial : Alike .initial .initial
  | changed (count : Nat) {cs cs' : List Change} :
      (cs.map Change.shown).Perm (cs'.map Change.shown) →
        Alike (.changed count cs) (.changed count cs')
  | unreflected (count : Nat) : Alike (.unreflected count) (.unreflected count)
  | suppressed {cs cs' : List Change} :
      (cs.map Change.shown).Perm (cs'.map Change.shown) → Alike (.suppressed cs) (.suppressed cs')
  | reentered : Alike .reentered .reentered

theorem Outcome.Alike.counts_eq {o o' : Outcome} (h : o.Alike o') :
    Reference.counts o = Reference.counts o' := by
  cases h <;> rfl

/-- Operations of one kind on snapshots that are alike, with the same names left out. -/
inductive Operation.Alike : Operation → Operation → Prop where
  | recompose {a a' : Arguments} {skipped skipped' : List String} :
      a.Built → a'.Built → a.Alike a' → (∀ name, name ∈ skipped ↔ name ∈ skipped') →
        Alike (.recompose a skipped) (.recompose a' skipped')
  | commit : Alike .commit .commit
  | track {a a' : Arguments} {skipped skipped' : List String} :
      a.Built → a'.Built → a.Alike a' → (∀ name, name ∈ skipped ↔ name ∈ skipped') →
        Alike (.track a skipped) (.track a' skipped')

namespace Reference

/-- In the same phase, with the same count and with alike snapshots. -/
structure Alike (r r' : Reference) : Prop where
  last : r.last.Alike r'.last
  phase_eq : r.phase = r'.phase
  logged_eq : r.logged = r'.logged

variable {r r' : Reference} {before before' now now' : Arguments} {skipped skipped' : List String}

/-- What is shown of an entry if it is a change. -/
def shownIfDiffers (before : Arguments) (skipped : List String) (entry : String × Option String) :
    Option (String × Option String × Option String × Bool) :=
  (before.text? entry.1).bind fun old ↦
    if old = entry.2 then none else some (entry.1, old, entry.2, skipped.contains entry.1)

/-- What is shown of changes depends on the texts alone. -/
theorem shown_changes (before now : Arguments) (skipped : List String) :
    (changes before now skipped).map Change.shown =
      now.texts.filterMap (shownIfDiffers before skipped) := by
  rw [changes, Arguments.texts, List.filterMap_map, List.map_map, ← List.filterMap_eq_map,
    List.filterMap_filter]
  refine List.filterMap_congr fun e _ ↦ ?_
  cases hold : before.entry? e.1 with
  | none => simp [Differs, shownIfDiffers, Arguments.text?, hold]
  | some old =>
    by_cases heq : old.map (·.text) = e.2.map (·.text) <;>
      simp [Differs, shownIfDiffers, Arguments.text?, hold, heq, report, Change.shown,
        Arguments.value?]

theorem shownIfDiffers_congr (hbefore : before.Alike before')
    (hskipped : ∀ name, name ∈ skipped ↔ name ∈ skipped') :
    shownIfDiffers before skipped = shownIfDiffers before' skipped' := by
  funext e
  have hcontains : skipped.contains e.1 = skipped'.contains e.1 :=
    Bool.eq_iff_iff.2 (by simpa using hskipped e.1)
  rw [shownIfDiffers, shownIfDiffers, hbefore e.1, hcontains]

/-- The changes between alike snapshots are shown alike, up to their order. -/
theorem shown_changes_perm (hbefore : before.Alike before') (hbuilt : now.Built)
    (hbuilt' : now'.Built) (hnow : now.Alike now')
    (hskipped : ∀ name, name ∈ skipped ↔ name ∈ skipped') :
    ((changes before now skipped).map Change.shown).Perm
      ((changes before' now' skipped').map Change.shown) := by
  rw [shown_changes, shown_changes, shownIfDiffers_congr hbefore hskipped]
  exact ((Arguments.alike_iff_perm hbuilt hbuilt').1 hnow).filterMap _

/-- What is left of changes without those that are left out, as it is shown. -/
theorem shown_kept (cs : List Change) :
    (cs.filter (!·.skipped)).map Change.shown = (cs.map Change.shown).filter (!·.2.2.2) := by
  rw [List.filter_map]
  rfl

theorem eq_nil_iff_of_shown_perm {cs cs' : List Change}
    (h : (cs.map Change.shown).Perm (cs'.map Change.shown)) : cs = [] ↔ cs' = [] := by
  rw [← List.length_eq_zero_iff, ← List.length_eq_zero_iff, ← List.length_map Change.shown,
    h.length_eq, List.length_map]

theorem answer_alike (h : r.Alike r') (hbuilt : now.Built) (hbuilt' : now'.Built)
    (hnow : now.Alike now') (hskipped : ∀ name, name ∈ skipped ↔ name ∈ skipped') :
    (r.answer now skipped).Alike (r'.answer now' skipped') := by
  have hall := shown_changes_perm h.last hbuilt hbuilt' hnow hskipped
  have hkept : (((changes r.last now skipped).filter (!·.skipped)).map Change.shown).Perm
      (((changes r'.last now' skipped').filter (!·.skipped)).map Change.shown) := by
    rw [shown_kept, shown_kept]
    exact hall.filter _
  simp only [answer, ← h.phase_eq, ← h.logged_eq, ne_eq, ← eq_nil_iff_of_shown_perm hall,
    ← eq_nil_iff_of_shown_perm hkept]
  cases r.phase with
  | initial => exact .initial
  | steady =>
    dsimp only
    split
    · exact .changed _ hkept
    · split
      · exact .unreflected _
      · exact .suppressed hall

theorem call_alike (h : r.Alike r') (hbuilt : now.Built) (hbuilt' : now'.Built)
    (hnow : now.Alike now') (hskipped : ∀ name, name ∈ skipped ↔ name ∈ skipped') :
    (r.call now skipped).1.Alike (r'.call now' skipped').1 ∧
      (r.call now skipped).2.Alike (r'.call now' skipped').2 := by
  have hanswer := answer_alike h hbuilt hbuilt' hnow hskipped
  refine ⟨⟨hnow, h.phase_eq, ?_⟩, hanswer⟩
  rw [call, call, hanswer.counts_eq, h.logged_eq]

theorem Alike.commit (h : r.Alike r') : r.commit.Alike r'.commit := ⟨h.last, rfl, h.logged_eq⟩

/-- Alike operations have alike answers and leave what is alike. -/
theorem perform_alike (h : r.Alike r') {op op' : Operation} (hop : op.Alike op') :
    (r.perform op).1.Alike (r'.perform op').1 ∧
      Option.Rel Outcome.Alike (r.perform op).2 (r'.perform op').2 := by
  cases hop with
  | recompose hbuilt hbuilt' hnow hskipped =>
    obtain ⟨hleft, hanswer⟩ := call_alike h hbuilt hbuilt' hnow hskipped
    exact ⟨hleft, .some hanswer⟩
  | commit => exact ⟨h.commit, .none⟩
  | track hbuilt hbuilt' hnow hskipped =>
    obtain ⟨hleft, hanswer⟩ := call_alike h hbuilt hbuilt' hnow hskipped
    exact ⟨hleft.commit, .some hanswer⟩

theorem trace_alike (h : r.Alike r') {ops ops' : List Operation}
    (hops : List.Forall₂ Operation.Alike ops ops') :
    List.Forall₂ (fun step step' ↦ Option.Rel Outcome.Alike step.1 step'.1 ∧ step.2.Alike step'.2)
      (r.trace ops) (r'.trace ops') := by
  induction hops generalizing r r' with
  | nil => exact .nil
  | cons hop _ ih =>
    obtain ⟨hleft, hanswer⟩ := perform_alike h hop
    exact .cons ⟨hanswer, hleft⟩ (ih hleft)

end Reference

/-! ### Two runs -/

/-- **Only what is rendered counts.** Give two new trackers the same operations with snapshots that
are alike and skip lists with the same names. At each step their answers are of one kind, with one
count and with changes that are shown alike up to their order, and they are in the same phase. Two
captured values count as the same if both are absent or both have the same text; their hashes could
be compared as well. -/
theorem Tracker.trace_rendered {ops ops' : List Operation}
    (h : List.Forall₂ Operation.Alike ops ops') (name name' : String) :
    List.Forall₂
      (fun step step' ↦ Option.Rel Outcome.Alike step.1 step'.1 ∧ step.2.Alike step'.2)
      (({ name : Tracker }).trace ops) (({ name := name' : Tracker }).trace ops') ∧
    (∀ v w : Option Captured, Captured.sameOf v w = true ↔
      (v = none ∧ w = none) ∨ ∃ a b, v = some a ∧ w = some b ∧ a.text = b.text) ∧
    ∀ a b : Captured, a.same b = (a.hash == b.hash && a.text == b.text) := by
  refine ⟨?_, fun v w ↦ ?_, Captured.same_eq⟩
  · rw [trace_view, trace_view]
    exact Reference.trace_alike ⟨fun _ ↦ rfl, rfl, rfl⟩ h
  · rw [Captured.sameOf_iff]
    cases v <;> cases w <;> simp

/-- Two calls whose snapshots stand in another order, the second with other flags. -/
theorem Tracker.trace_rendered_reordered :
    let before := Arguments.ofList [("step", some ⟨"1", false⟩), ("hint", none)]
    let before' := Arguments.ofList [("hint", none), ("step", some ⟨"1", true⟩)]
    let now := Arguments.ofList [("step", some ⟨"2", true⟩), ("hint", some ⟨"\"up\"", false⟩)]
    let now' := Arguments.ofList [("hint", some ⟨"\"up\"", true⟩), ("step", some ⟨"2", false⟩)]
    let ops := [Operation.track before [], .recompose now ["to", "of"]]
    let ops' := [Operation.track before' [], .recompose now' ["of", "to", "of"]]
    List.Forall₂ Operation.Alike ops ops' ∧
      List.Forall₂
        (fun step step' ↦ Option.Rel Outcome.Alike step.1 step'.1 ∧ step.2.Alike step'.2)
        (({ name := "Row" : Tracker }).trace ops) (({ name := "Cell" : Tracker }).trace ops') ∧
      (({ name := "Row" : Tracker }).trace ops).map (·.1) =
        [some .initial, some (.changed 1
          [⟨"step", some ⟨"1", false⟩, some ⟨"2", true⟩, false⟩,
            ⟨"hint", none, some ⟨"\"up\"", false⟩, false⟩])] ∧
      (({ name := "Cell" : Tracker }).trace ops').map (·.1) =
        [some .initial, some (.changed 1
          [⟨"hint", none, some ⟨"\"up\"", true⟩, false⟩,
            ⟨"step", some ⟨"1", true⟩, some ⟨"2", false⟩, false⟩])] := by
  intro before before' now now' ops ops'
  have hbefore : before.Alike before' :=
    (Arguments.alike_iff_perm (.ofList _) (.ofList _)).2 (by decide)
  have hnow : now.Alike now' := (Arguments.alike_iff_perm (.ofList _) (.ofList _)).2 (by decide)
  have hops : List.Forall₂ Operation.Alike ops ops' :=
    .cons (.track (.ofList _) (.ofList _) hbefore fun _ ↦ Iff.rfl)
      (.cons (.recompose (.ofList _) (.ofList _) hnow (by simp [or_comm])) .nil)
  exact ⟨hops, (trace_rendered hops "Row" "Cell").1, by decide, by decide⟩

end RenderTrace
