import RenderTrace.Proofs.Grouping
import RenderTrace.Proofs.Tracker.Life
import RenderTrace.Tracker.Host

/-!
# What happens to a host

What each function of a host does to it, said once as an equation between hosts or as a relation.

* A call is refused while the tracker of its site is held (`Host.call_of_held`), answered by that
  tracker (`Host.call_of_tracker`), or by a new one if the site has none
  (`Host.call_of_no_tracker`).
* All that makes trackers end is of one kind (`Host.Drops`): references are dropped, and then those
  trackers say farewell that nothing refers to any more. A site is claimed for something else, slots
  are given up, a commit is made, a holder lets go: each is a `Drops`, and a law about the end of
  trackers is proved for `Drops`.
-/

namespace RenderTrace

/-- The number of the tracker that a slot keeps. -/
def Slot.number? : Slot → Option Nat
  | .tracker number => some number
  | .other => none

@[simp] theorem Slot.number?_tracker (n : Nat) : (Slot.tracker n).number? = some n := rfl

@[simp] theorem Slot.number?_other : Slot.other.number? = none := rfl

theorem Slot.number?_eq_some {s : Slot} {n : Nat} : s.number? = some n ↔ s = .tracker n := by
  cases s <;> simp [Slot.number?]

namespace Host

variable {h : Host} {n : Nat}

/-! ### References -/

/-- The trackers of the slots. -/
def kept (h : Host) : List Nat := h.slots.filterMap Slot.number?

/-- The trackers of the pending commits. -/
def awaited (h : Host) : List Nat := h.effects.map (·.number)

/-- All that refers to a tracker. -/
def references (h : Host) : List Nat := h.kept ++ h.awaited ++ h.held

theorem mem_references : n ∈ h.references ↔ n ∈ h.kept ∨ n ∈ h.awaited ∨ n ∈ h.held := by
  simp [references]

theorem mem_kept : n ∈ h.kept ↔ .tracker n ∈ h.slots := by
  simp [kept, Slot.number?_eq_some]

theorem refersTo_iff : h.refersTo n = true ↔ n ∈ h.references := by
  simp [refersTo, mem_references, mem_kept, awaited, or_assoc]

theorem mem_kept_of_getElem? {position : Nat} (hslot : h.slots[position]? = some (.tracker n)) :
    n ∈ h.kept :=
  mem_kept.2 (List.mem_of_getElem? hslot)

/-! ### Ending trackers -/

/-- What a tracker says when it is let go: its farewell if nothing refers to it. -/
def lastWords (h : Host) (n : Nat) : List Remark :=
  if n ∈ h.references then []
  else (h.trackers[n]?.map fun t ↦ ⟨n, t.name, .exited t.last⟩).toList

theorem number_of_mem_lastWords {r : Remark} (hr : r ∈ h.lastWords n) : r.number = n := by
  unfold lastWords at hr
  split_ifs at hr with hn
  · exact absurd hr List.not_mem_nil
  · obtain ⟨t, -, rfl⟩ := Option.map_eq_some_iff.1 (Option.mem_toList.1 hr)
    rfl

theorem release_eq (h : Host) (n : Nat) :
    h.release n = { h with said := h.said ++ h.lastWords n } := by
  by_cases hn : n ∈ h.references
  · simp [release, lastWords, refersTo_iff.2 hn, hn]
  · have hrefers : h.refersTo n = false := Bool.eq_false_iff.2 (refersTo_iff.not.2 hn)
    cases ht : h.trackers[n]? <;> simp [release, lastWords, hrefers, hn, ht, say, Tracker.close]

theorem release_of_mem (hn : n ∈ h.references) : h.release n = h := by
  rw [release, if_pos (refersTo_iff.2 hn)]

theorem foldl_releaseSlot_eq (h : Host) (ss : List Slot) :
    ss.foldl releaseSlot h =
      { h with said := h.said ++ (ss.filterMap Slot.number?).flatMap h.lastWords } := by
  induction ss generalizing h with
  | nil => simp
  | cons s ss ih =>
    cases s with
    | other => exact ih h
    | tracker n =>
      -- what is said does not change what refers to a tracker
      have hsame :
          ({ h with said := h.said ++ h.lastWords n } : Host).lastWords = h.lastWords := rfl
      rw [List.foldl_cons, releaseSlot, release_eq, ih, hsame]
      simp

/-- A host that dropped references to different trackers, those of which ended that nothing refers
to any more. -/
structure Drops (h : Host) (lost : List Nat) (h' : Host) : Prop where
  enabled_eq : h'.enabled = h.enabled
  trackers_eq : h'.trackers = h.trackers
  said_eq : h'.said = h.said ++ lost.flatMap h'.lastWords
  nodup : lost.Nodup
  mem_references_iff : ∀ m, m ∈ h.references ↔ m ∈ lost ∨ m ∈ h'.references
  kept_sublist : h'.kept.Sublist h.kept
  held_sublist : h'.held.Sublist h.held

/-! ### Slots -/

/-- Slots with another one at a position, or behind the last one. -/
def put (slots : List Slot) (position : Nat) (s : Slot) : List Slot :=
  if position < slots.length then slots.set position s else slots ++ [s]

/-- A slot that does not keep a tracker keeps something else, if it is there at all. -/
theorem eq_none_or_other {position : Nat} {slots : List Slot}
    (hslot : ∀ n, slots[position]? ≠ some (.tracker n)) :
    slots[position]? = none ∨ slots[position]? = some .other := by
  cases hs : slots[position]? with
  | none => exact .inl rfl
  | some s =>
    cases s with
    | tracker n => exact absurd hs (hslot n)
    | other => exact .inr rfl

theorem exists_split {slots : List Slot} {position : Nat} {s : Slot}
    (hs : slots[position]? = some s) (s' : Slot) :
    ∃ front back, slots = front ++ s :: back ∧ slots.set position s' = front ++ s' :: back := by
  obtain ⟨hlt, rfl⟩ := List.getElem?_eq_some_iff.1 hs
  obtain ⟨front, back, hsplit, -, hset⟩ :
      ∃ front back, slots = front ++ slots[position] :: back ∧ front.length = position ∧
        slots.set position s' = front ++ s' :: back :=
    List.exists_of_set hlt
  exact ⟨front, back, hsplit, hset⟩

/-- A tracker that is put where none was comes to the others. -/
theorem filterMap_put {slots : List Slot} {position : Nat}
    (hslot : ∀ n, slots[position]? ≠ some (.tracker n)) (n : Nat) :
    ((put slots position (.tracker n)).filterMap Slot.number?).Perm
      (n :: slots.filterMap Slot.number?) := by
  rcases eq_none_or_other hslot with hnone | hother
  · rw [put, if_neg (by simpa using hnone)]
    simp
  · obtain ⟨front, back, hslots, hset⟩ := exists_split hother (.tracker n)
    rw [put, if_pos (List.getElem?_eq_some_iff.1 hother).1, hset, hslots]
    simp [List.filterMap_cons]

theorem keep_of_no_tracker {position : Nat} (hslot : ∀ n, h.slots[position]? ≠ some (.tracker n))
    (s : Slot) : h.keep position s = { h with slots := put h.slots position s } := by
  rcases eq_none_or_other hslot with hnone | hother
  · rw [keep, hnone, put, if_neg (by simpa using hnone)]
  · rw [keep, hother, put, if_pos (List.getElem?_eq_some_iff.1 hother).1]
    rfl

/-! ### Calls -/

/-- A host with a new tracker at the current call site. -/
def started (h : Host) (name : String) : Host :=
  { h with
    trackers := h.trackers ++ [{ name := name }]
    slots := put h.slots h.cursor (.tracker h.trackers.length)
    cursor := h.cursor + 1 }

/-- A host after a tracker answered a call. -/
def answered (h : Host) (n : Nat) (t : Tracker) (name : String) (a : Arguments)
    (skipped : List String) : Host :=
  { h with
    trackers := h.trackers.set n (t.recompose a skipped).1
    effects := h.effects ++ if t.phase = .initial then [⟨n, name⟩] else []
    said := h.said ++ (t.recompose a skipped).2.2.map fun m ↦ ⟨n, t.name, m⟩ }

section Call

variable (name : String) (a : Arguments) (skipped : List String)

theorem mem_references_started {m : Nat} (hslot : ∀ n, h.slots[h.cursor]? ≠ some (.tracker n)) :
    m ∈ (h.started name).references ↔ m = h.trackers.length ∨ m ∈ h.references := by
  have hkept : m ∈ (h.started name).kept ↔ m = h.trackers.length ∨ m ∈ h.kept :=
    (filterMap_put hslot _).mem_iff.trans List.mem_cons
  rw [mem_references, mem_references, hkept, or_assoc]
  rfl

/-- The commit that a call may ask for is one of a tracker that is referred to anyway. -/
theorem mem_references_answered {t : Tracker} {m : Nat} (hn : n ∈ h.references) :
    m ∈ (h.answered n t name a skipped).references ↔ m ∈ h.references := by
  have hawaited : m ∈ (h.answered n t name a skipped).awaited ↔
      m ∈ h.awaited ∨ t.phase = .initial ∧ m = n := by
    simp only [awaited, answered]
    split_ifs with hphase <;> simp [hphase]
  have hrefs : m ∈ (h.answered n t name a skipped).references ↔
      m ∈ h.references ∨ t.phase = .initial ∧ m = n := by
    rw [mem_references, hawaited, mem_references]
    show m ∈ h.kept ∨ _ ∨ m ∈ h.held ↔ _
    tauto
  exact hrefs.trans (or_iff_left_of_imp fun ⟨_, hm⟩ ↦ hm ▸ hn)

/-- A new tracker is behind all others, and has answered its first call. -/
theorem trackers_started_answered (h : Host) :
    ((h.started name).answered h.trackers.length { name } name a skipped).trackers =
      h.trackers ++ [(({ name } : Tracker).recompose a skipped).1] := by
  simp [answered, started]

/-- The slot that a new tracker gets has kept none, so no other tracker ends. -/
theorem claim_of_no_tracker (hslot : ∀ n, h.slots[h.cursor]? ≠ some (.tracker n)) :
    h.claim name = (h.started name, h.trackers.length) := by
  unfold claim
  split
  · next n hold => exact absurd hold (hslot n)
  · let added : Host := { h with trackers := h.trackers ++ [{ name := name }] }
    exact congrArg (fun k : Host ↦ (k.advance, h.trackers.length))
      (keep_of_no_tracker (h := added) hslot _)

theorem claim_of_tracker (hslot : h.slots[h.cursor]? = some (.tracker n)) :
    h.claim name = (h.advance, n) := by
  simp [claim, hslot]

theorem schedule_eq (h : Host) (n : Nat) (o : Outcome) :
    h.schedule n name o =
      { h with effects := h.effects ++ if o = .initial then [⟨n, name⟩] else [] } := by
  cases o <;> simp [schedule]

theorem recompose_eq {t : Tracker} (ht : h.trackers[n]? = some t) :
    h.recompose n name a skipped =
      (h.answered n t name a skipped, (t.recompose a skipped).2.1) := by
  have hget : h.trackers.getD n default = t := by simp [ht]
  unfold recompose
  rw [hget]
  simp only [schedule_eq, Tracker.recompose_eq_initial_iff, say, Tracker.recompose_name]
  rfl

theorem callOn_of_held (hheld : n ∈ h.held) :
    h.callOn n name a skipped =
      ({ h with said := h.said ++ [⟨n, name, .reentered⟩] }, .reentered) := by
  simp [callOn, hheld, say]

theorem callOn_of_not_held (hheld : n ∉ h.held) :
    h.callOn n name a skipped = h.recompose n name a skipped := by
  simp [callOn, hheld]

/-- A call while tracking is off does nothing. -/
theorem call_of_disabled (henabled : h.enabled = false) :
    h.call name a skipped = (h, .disabled) := by
  simp [call, henabled]

theorem call_of_enabled (henabled : h.enabled = true) :
    h.call name a skipped = (h.claim name).1.callOn (h.claim name).2 name a skipped := by
  simp [call, henabled]

/-- A call while somebody holds the tracker of the site is refused. -/
theorem call_of_held (henabled : h.enabled = true)
    (hslot : h.slots[h.cursor]? = some (.tracker n)) (hheld : n ∈ h.held) :
    h.call name a skipped =
      ({ h with cursor := h.cursor + 1, said := h.said ++ [⟨n, name, .reentered⟩] },
        .reentered) := by
  rw [call_of_enabled name a skipped henabled, claim_of_tracker name hslot]
  exact callOn_of_held (h := h.advance) name a skipped hheld

/-- A call that the tracker of the site answers. -/
theorem call_of_tracker (henabled : h.enabled = true)
    (hslot : h.slots[h.cursor]? = some (.tracker n)) (hheld : n ∉ h.held) {t : Tracker}
    (ht : h.trackers[n]? = some t) :
    h.call name a skipped =
      (h.advance.answered n t name a skipped, (t.recompose a skipped).2.1) := by
  rw [call_of_enabled name a skipped henabled, claim_of_tracker name hslot]
  exact (callOn_of_not_held (h := h.advance) name a skipped hheld).trans
    (recompose_eq (h := h.advance) name a skipped ht)

/-- A call from a site without a tracker: a new one answers. -/
theorem call_of_no_tracker (henabled : h.enabled = true)
    (hslot : ∀ n, h.slots[h.cursor]? ≠ some (.tracker n)) (hheld : h.trackers.length ∉ h.held) :
    h.call name a skipped =
      ((h.started name).answered h.trackers.length { name } name a skipped, .initial) := by
  have ht : (h.started name).trackers[h.trackers.length]? = some { name } := by simp [started]
  rw [call_of_enabled name a skipped henabled, claim_of_no_tracker name hslot]
  refine (callOn_of_not_held (h := h.started name) name a skipped hheld).trans ?_
  rw [recompose_eq name a skipped ht, (Tracker.recompose_eq_initial_iff ..).2 rfl]

end Call

/-! ### Commits and holders -/

/-- Whether its effect is gone makes no difference to a commit. -/
theorem runEffect_of_getElem? {i : Nat} {c : PendingCommit} (hc : h.effects[i]? = some c) :
    h.runEffect i = { h.commit c with effects := h.effects.eraseIdx i }.release c.number := by
  rw [runEffect, hc]
  dsimp only
  congr 1
  unfold commit say
  split <;> rfl

theorem runEffect_of_none {i : Nat} (hc : h.effects[i]? = none) : h.runEffect i = h := by
  rw [runEffect, hc]

theorem commit_of_held {c : PendingCommit} (hheld : c.number ∈ h.held) :
    h.commit c = { h with said := h.said ++ [⟨c.number, c.name, .uncommitted⟩] } := by
  simp [commit, hheld, say]

theorem commit_of_not_held {c : PendingCommit} (hheld : c.number ∉ h.held) :
    h.commit c = { h with trackers := h.trackers.modify c.number Tracker.commit } := by
  simp [commit, hheld]

theorem holdTracker_of_mem (hn : n ∈ h.references) :
    h.holdTracker n = { h with held := h.held ++ [n] } := by
  rw [holdTracker, if_pos (refersTo_iff.2 hn)]

theorem holdTracker_of_not_mem (hn : n ∉ h.references) : h.holdTracker n = h := by
  rw [holdTracker, if_neg (refersTo_iff.not.2 hn)]

theorem mem_references_hold {m : Nat} (hn : n ∈ h.references) :
    m ∈ ({ h with held := h.held ++ [n] } : Host).references ↔ m ∈ h.references := by
  have hrefs : m ∈ ({ h with held := h.held ++ [n] } : Host).references ↔
      m ∈ h.references ∨ m = n := by
    rw [mem_references, List.mem_append, List.mem_singleton, mem_references]
    show m ∈ h.kept ∨ m ∈ h.awaited ∨ _ ↔ _
    tauto
  exact hrefs.trans (or_iff_left_of_imp fun hm ↦ hm ▸ hn)

theorem letGoAt_of_getElem? {i : Nat} (hn : h.held[i]? = some n) :
    h.letGoAt i = { h with held := h.held.eraseIdx i }.release n := by
  rw [letGoAt, hn]

theorem letGoAt_of_none {i : Nat} (hn : h.held[i]? = none) : h.letGoAt i = h := by
  rw [letGoAt, hn]

/-! ### What drops references -/

/-- Giving up slots drops the references to their trackers. -/
theorem drops_slots {lost : List Nat} (slots : List Slot) (cursor : Nat) (hlost : lost.Nodup)
    (hsplit : ∀ m, m ∈ h.kept ↔ m ∈ lost ∨ m ∈ slots.filterMap Slot.number?)
    (hkept : (slots.filterMap Slot.number?).Sublist h.kept) :
    h.Drops lost { h with
      slots := slots
      cursor := cursor
      said := h.said ++ lost.flatMap { h with slots := slots, cursor := cursor }.lastWords } where
  enabled_eq := rfl
  trackers_eq := rfl
  said_eq := rfl
  nodup := hlost
  mem_references_iff m := by
    rw [mem_references, mem_references, hsplit, or_assoc]
    rfl
  kept_sublist := hkept
  held_sublist := List.Sublist.refl _

theorem truncate_effects (h : Host) (n : Nat) : (h.truncate n).effects = h.effects := by
  rw [truncate, foldl_releaseSlot_eq]

theorem truncate_drops (hkept : h.kept.Nodup) (n : Nat) :
    h.Drops ((h.slots.drop n).filterMap Slot.number?) (h.truncate n) := by
  have hsplit : h.kept = (h.slots.take n).filterMap Slot.number? ++
      (h.slots.drop n).filterMap Slot.number? := by
    rw [← List.filterMap_append, List.take_append_drop, kept]
  rw [truncate, foldl_releaseSlot_eq]
  refine drops_slots _ h.cursor (hkept.sublist (hsplit ▸ List.sublist_append_right _ _)) ?_
    (hsplit ▸ List.sublist_append_left _ _)
  intro m
  rw [hsplit, List.mem_append, or_comm]

/-- A site that is claimed for something else loses the tracker that it may have. -/
theorem claimOther_drops (h : Host) :
    ∃ lost, h.Drops lost h.claimOther ∧ h.claimOther.effects = h.effects := by
  by_cases hslot : ∃ n, h.slots[h.cursor]? = some (.tracker n)
  · obtain ⟨n, hslot⟩ := hslot
    obtain ⟨front, back, hslots, hset⟩ := exists_split hslot .other
    have hclaim : h.claimOther =
        ({ h with slots := h.slots.set h.cursor .other }.release n).advance := by
      simp [claimOther, hslot, keep, releaseSlot]
    have hkept : h.kept = front.filterMap Slot.number? ++ n :: back.filterMap Slot.number? := by
      rw [kept, hslots]
      simp
    have hleft : (h.slots.set h.cursor .other).filterMap Slot.number? =
        front.filterMap Slot.number? ++ back.filterMap Slot.number? := by
      rw [hset]
      simp [List.filterMap_cons]
    have hdrops := drops_slots (h := h) (h.slots.set h.cursor .other) (h.cursor + 1)
      (List.nodup_singleton n)
      (fun m ↦ by rw [hkept, hleft]; simp [or_left_comm])
      (by rw [hkept, hleft]; simp)
    rw [List.flatMap_singleton] at hdrops
    rw [hclaim, release_eq]
    exact ⟨[n], hdrops, rfl⟩
  · have hslot : ∀ n, h.slots[h.cursor]? ≠ some (.tracker n) := fun n heq ↦ hslot ⟨n, heq⟩
    -- no tracker is at the site, so the same ones are held as before
    obtain ⟨slots, hkept, hclaim⟩ : ∃ slots, slots.filterMap Slot.number? = h.kept ∧
        h.claimOther = { h with slots := slots, cursor := h.cursor + 1 } := by
      rcases eq_none_or_other hslot with hnone | hother
      · exact ⟨h.slots ++ [.other], by simp [kept], by simp [claimOther, hnone, keep, advance]⟩
      · exact ⟨h.slots, rfl, by rw [claimOther, hother]; rfl⟩
    have hdrops := drops_slots (h := h) slots (h.cursor + 1) List.nodup_nil (by simp [hkept])
      (by rw [hkept])
    rw [List.flatMap_nil, List.append_nil] at hdrops
    rw [hclaim]
    exact ⟨[], hdrops, rfl⟩

theorem mem_iff_eraseIdx {α : Type} {xs : List α} {i : Nat} {x : α} (hx : xs[i]? = some x) (y : α) :
    y ∈ xs ↔ y = x ∨ y ∈ xs.eraseIdx i := by
  obtain ⟨hlt, rfl⟩ := List.getElem?_eq_some_iff.1 hx
  exact (List.getElem_cons_eraseIdx_perm hlt).mem_iff.symm.trans List.mem_cons

theorem letGoAt_drops {i : Nat} (hn : h.held[i]? = some n) : h.Drops [n] (h.letGoAt i) := by
  rw [letGoAt_of_getElem? hn, release_eq]
  refine ⟨rfl, rfl, by simp; rfl, List.nodup_singleton n, fun m ↦ ?_, List.Sublist.refl _,
    List.eraseIdx_sublist ..⟩
  rw [mem_references, mem_references, mem_iff_eraseIdx hn, List.mem_singleton]
  show m ∈ h.kept ∨ m ∈ h.awaited ∨ _ ↔ m = n ∨ m ∈ h.kept ∨ m ∈ h.awaited ∨ _
  tauto

theorem letGoAt_effects (h : Host) (i : Nat) : (h.letGoAt i).effects = h.effects := by
  cases hn : h.held[i]? with
  | none => rw [letGoAt_of_none hn]
  | some n => rw [letGoAt_of_getElem? hn, release_eq]

theorem commit_references (h : Host) (c : PendingCommit) :
    (h.commit c).kept = h.kept ∧ (h.commit c).awaited = h.awaited ∧ (h.commit c).held = h.held := by
  unfold commit say
  split <;> exact ⟨rfl, rfl, rfl⟩

/-- A pending commit refers to its tracker until it was made. -/
theorem runEffect_drops {i : Nat} {c : PendingCommit} (hc : h.effects[i]? = some c) :
    (h.commit c).Drops [c.number] (h.runEffect i) := by
  rw [runEffect_of_getElem? hc, release_eq]
  refine ⟨rfl, rfl, by simp; rfl, List.nodup_singleton _, fun m ↦ ?_, List.Sublist.refl _,
    List.Sublist.refl _⟩
  have hawaited : m ∈ (h.commit c).awaited ↔
      m = c.number ∨ m ∈ (h.effects.eraseIdx i).map (·.number) := by
    rw [(h.commit_references c).2.1, awaited, List.mem_map, List.mem_map]
    simp only [mem_iff_eraseIdx hc, or_and_right, exists_or, exists_eq_left]
    exact or_congr_left eq_comm
  rw [mem_references, mem_references, hawaited, List.mem_singleton]
  show m ∈ (h.commit c).kept ∨ _ ∨ m ∈ (h.commit c).held ↔
    _ ∨ m ∈ (h.commit c).kept ∨ m ∈ (h.effects.eraseIdx i).map (·.number) ∨ m ∈ (h.commit c).held
  tauto

/-- Making all commits leaves no effect, and what each of them keeps. -/
theorem runEffects_induction {P : Host → Prop}
    (hstep : ∀ {h : Host} {c : PendingCommit}, h.effects[0]? = some c → P h → P (h.runEffect 0))
    (hh : P h) : h.runEffects.effects = [] ∧ P h.runEffects := by
  have hfold : ∀ (cs : List PendingCommit) (h : Host), h.effects = cs → P h →
      (cs.foldl (fun h _ ↦ h.runEffect 0) h).effects = [] ∧
        P (cs.foldl (fun h _ ↦ h.runEffect 0) h) := by
    intro cs
    induction cs with
    | nil => exact fun h heffects hh ↦ ⟨heffects, hh⟩
    | cons c cs ih =>
      intro h heffects hh
      have hc : h.effects[0]? = some c := by rw [heffects, List.getElem?_cons_zero]
      have hleft : (h.runEffect 0).effects = cs := by
        rw [runEffect_of_getElem? hc, release_eq, heffects]
        rfl
      exact ih _ hleft (hstep hc hh)
  exact hfold h.effects h rfl hh

theorem runEffect_kept {i : Nat} {c : PendingCommit} (hc : h.effects[i]? = some c) :
    (h.runEffect i).kept = h.kept := by
  rw [runEffect_of_getElem? hc, release_eq]
  exact (h.commit_references c).1

/-- Making all commits leaves no effect, and all slots. -/
theorem runEffects_effects_kept (h : Host) :
    h.runEffects.effects = [] ∧ h.runEffects.kept = h.kept :=
  runEffects_induction (P := fun h' ↦ h'.kept = h.kept)
    (fun hc hkept ↦ (runEffect_kept hc).trans hkept) rfl

end Host

end RenderTrace
