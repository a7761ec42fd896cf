import RenderTrace.Proofs.Tracker.Reference

/-!
# Calls that are left out

Two calls from one place have snapshots under the same names. If the names are different, a snapshot
holds just what was stored in it, so the second call changes what has another text than before. In
the steady phase it is suppressed if something changed and all that changed is left out
(`Tracker.recompose_suppressed_iff`).
-/

namespace RenderTrace

variable {α : Type} {key : α → String} {xs : List α}

namespace Arguments

/-- The snapshot of things under their names. -/
def of (key : α → String) (value : α → Option Captured) (xs : List α) : Arguments :=
  ofList (xs.map fun x ↦ (key x, value x))

theorem store_of_not_mem {name : String} {value : Option Captured}
    {entries : List (String × Option Captured)} (h : name ∉ entries.map (·.1)) :
    store name value entries = entries ++ [(name, value)] := by
  induction entries with
  | nil => rfl
  | cons e es ih =>
    obtain ⟨k, v⟩ := e
    simp only [List.map_cons, List.mem_cons, not_or] at h
    have hother : (k == name) = false := by simpa using fun heq ↦ h.1 heq.symm
    simp [store, hother, ih h.2]

/-- Values under different names are stored one behind the other. -/
theorem ofList_entries {pairs : List (String × Option Captured)}
    (h : (pairs.map (·.1)).Nodup) : (ofList pairs).entries = pairs := by
  have hfold : ∀ (pairs : List (String × Option Captured)) (a : Arguments),
      ((a.entries ++ pairs).map (·.1)).Nodup →
      (pairs.foldl (fun a p ↦ a.push p.1 p.2) a).entries = a.entries ++ pairs := by
    intro pairs
    induction pairs with
    | nil => simp
    | cons p ps ih =>
      intro a hnodup
      have hnew : p.1 ∉ a.entries.map (·.1) := by
        rw [List.map_append, List.map_cons, List.nodup_append] at hnodup
        exact fun hmem ↦ hnodup.2.2 _ hmem _ List.mem_cons_self rfl
      have hpush : (a.push p.1 p.2).entries = a.entries ++ [p] := store_of_not_mem hnew
      have happend : a.entries ++ p :: ps = (a.entries ++ [p]) ++ ps := by simp
      rw [List.foldl_cons, ih _ (by rwa [hpush, ← happend]), hpush, happend]
  exact (hfold pairs {} (by simpa using h)).trans (List.nil_append _)

theorem of_entries (hkeys : (xs.map key).Nodup) (value : α → Option Captured) :
    (of key value xs).entries = xs.map fun x ↦ (key x, value x) :=
  ofList_entries (by simpa [List.map_map, Function.comp_def] using hkeys)

/-- What is stored under the name of a thing is its value. -/
theorem lookup_of (hkeys : (xs.map key).Nodup) (value : α → Option Captured) {x : α}
    (hx : x ∈ xs) : Arguments.entry? (of key value xs) (key x) = some (value x) := by
  rw [Arguments.entry?, of_entries hkeys]
  induction xs with
  | nil => exact absurd hx List.not_mem_nil
  | cons y ys ih =>
    rw [List.map_cons, List.nodup_cons] at hkeys
    rcases List.mem_cons.1 hx with rfl | hmem
    · rw [List.map_cons, List.lookup_cons_self]
    · have hother : (key x == key y) = false := by
        simpa using fun heq : key x = key y ↦ hkeys.1 (heq ▸ List.mem_map_of_mem hmem)
      rw [List.map_cons, List.lookup_cons, hother]
      exact ih hkeys.2 hmem

end Arguments

/-- A call is suppressed if there are changes and all of them are left out. -/
theorem Reference.answer_suppressed_iff {r : Reference} (hphase : r.phase = .steady) (a : Arguments)
    (skipped : List String) :
    (∃ cs, r.answer a skipped = .suppressed cs) ↔
      changes r.last a skipped ≠ [] ∧ ∀ c ∈ changes r.last a skipped, c.skipped = true := by
  have hkept : (changes r.last a skipped).filter (!·.skipped) = [] ↔
      ∀ c ∈ changes r.last a skipped, c.skipped = true := by
    simp [List.filter_eq_nil_iff]
  rw [← hkept]
  simp only [answer, hphase]
  split_ifs with hchanged hnone <;> simp_all

namespace Tracker

/-- A call in the steady phase is suppressed if it changes something and all that it changes is left
out. -/
theorem recompose_suppressed_iff {t : Tracker} (hphase : t.phase = .steady)
    (hkeys : (xs.map key).Nodup) {before now : α → Option Captured}
    (hlast : t.last = .of key before xs) (skipped : List String) :
    (∃ cs, (t.recompose (.of key now xs) skipped).2.1 = .suppressed cs) ↔
      (∃ x ∈ xs, (before x).map (·.text) ≠ (now x).map (·.text)) ∧
        ∀ x ∈ xs, (before x).map (·.text) ≠ (now x).map (·.text) → key x ∈ skipped := by
  have hdiffers : ∀ x ∈ xs, (Reference.Differs t.last (key x, now x) ↔
      (before x).map (·.text) ≠ (now x).map (·.text)) := by
    intro x hx
    simp [Reference.Differs, hlast, Arguments.lookup_of hkeys before hx]
  have hchanges : Reference.changes t.last (.of key now xs) skipped =
      (xs.filter fun x ↦ decide ((before x).map (·.text) ≠ (now x).map (·.text))).map
        fun x ↦ Reference.report t.last skipped (key x, now x) := by
    rw [Reference.changes, Arguments.of_entries hkeys, List.filter_map, List.map_map]
    refine congrArg (List.map _) (List.filter_congr fun x hx ↦ ?_)
    exact decide_eq_decide.2 (hdiffers x hx)
  have hanswer : (t.recompose (.of key now xs) skipped).2.1 =
      t.view.answer (.of key now xs) skipped := (t.recompose_view _ skipped).2
  rw [hanswer, Reference.answer_suppressed_iff hphase]
  show Reference.changes t.last _ skipped ≠ [] ∧ (∀ c ∈ Reference.changes t.last _ skipped, _) ↔ _
  rw [hchanges, List.forall_mem_map]
  exact and_congr (by simp [List.filter_eq_nil_iff]) (by simp [Reference.report])

end Tracker

end RenderTrace
