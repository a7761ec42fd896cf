import RenderTrace.Proofs.Host.Changes

/-!
# Runs of a host

A host is driven by events: call sites are used, slots are given up, commits are made in any order,
trackers are held for a while. Laws about all runs are shown for the smallest events only
(`Host.Kept`). What every host has that was driven from a new one (`Host.Sound`) is the first such
law, and with it a call goes one of four ways (`Host.Sound.call_cases`).
-/

namespace RenderTrace

/-- Something that can happen to a host. -/
inductive Event where
  | switch (enabled : Bool)
  | render (position : Nat) (uses : List SiteUse)
  | compose (uses : List SiteUse)
  | truncate (n : Nat)
  | dispose
  | runEffect (i : Nat)
  | runEffects
  | hold (number : Nat)
  | letGo (i : Nat)
  deriving DecidableEq, Repr

namespace Host

/-- A host after an event. -/
def perform (h : Host) : Event → Host
  | .switch enabled => { h with enabled := enabled }
  | .render position uses => (h.renderFrom position uses).1
  | .compose uses => (h.compose uses).1
  | .truncate n => h.truncate n
  | .dispose => h.dispose
  | .runEffect i => h.runEffect i
  | .runEffects => h.runEffects
  | .hold number => h.holdTracker number
  | .letGo i => h.letGoAt i

/-- A host after events. -/
def run (h : Host) (es : List Event) : Host := es.foldl perform h

variable {h : Host} {n : Nat}

/-! ### Laws of all runs -/

/-- A property of hosts that no event takes away, said of the smallest events. Left out are the
switch and that somebody holds a tracker, since some laws are about runs without them. A commit is
made and then its effect is gone: the two are one event, since in between it could be made twice. -/
structure Kept (P : Host → Prop) : Prop where
  nodup : ∀ {h : Host}, P h → h.kept.Nodup
  point : ∀ {h : Host} (cursor : Nat), P h → P { h with cursor := cursor }
  call : ∀ {h : Host} (name : String) (a : Arguments) (skipped : List String), P h →
    P (h.call name a skipped).1
  runEffect : ∀ {h : Host} {i : Nat} {c : PendingCommit}, h.effects[i]? = some c → P h →
    P (h.runEffect i)
  drop : ∀ {h h' : Host} {lost : List Nat}, h.Drops lost h' → h'.effects = h.effects → P h → P h'

namespace Kept

variable {P : Host → Prop} (hP : Kept P)

include hP

theorem useSites (uses : List SiteUse) (s : Host × List Outcome) (hs : P s.1) :
    P (uses.foldl useSite s).1 := by
  induction uses generalizing s with
  | nil => exact hs
  | cons use uses ih =>
    refine ih _ ?_
    cases use with
    | call name a skipped => exact hP.call name a skipped hs
    | other =>
      obtain ⟨lost, hdrops, heffects⟩ := s.1.claimOther_drops
      exact hP.drop hdrops heffects hs

theorem renderFrom (position : Nat) (uses : List SiteUse) (hh : P h) :
    P (h.renderFrom position uses).1 :=
  hP.useSites uses _ (hP.point position hh)

theorem truncate (n : Nat) (hh : P h) : P (h.truncate n) :=
  hP.drop (truncate_drops (hP.nodup hh) n) (truncate_effects h n) hh

theorem runEffectAt (i : Nat) (hh : P h) : P (h.runEffect i) := by
  cases hc : h.effects[i]? with
  | none => rwa [runEffect_of_none hc]
  | some c => exact hP.runEffect hc hh

theorem runEffects (hh : P h) : P h.runEffects := (runEffects_induction hP.runEffect hh).2

/-- What the smallest events do not take away, no run does. The switch and a hold need to be looked
at only if the run has them. -/
theorem run {es : List Event}
    (hswitch : ∀ enabled, .switch enabled ∈ es → ∀ {h : Host}, P h →
      P { h with enabled := enabled })
    (hhold : ∀ n, .hold n ∈ es → ∀ {h : Host}, n ∈ h.references → P h →
      P { h with held := h.held ++ [n] }) (hh : P h) : P (h.run es) := by
  induction es generalizing h with
  | nil => exact hh
  | cons e es ih =>
    refine ih (fun enabled hmem ↦ hswitch enabled (List.mem_cons_of_mem e hmem))
      (fun n hmem ↦ hhold n (List.mem_cons_of_mem e hmem)) ?_
    cases e with
    | switch enabled => exact hswitch enabled List.mem_cons_self hh
    | render position uses => exact hP.renderFrom position uses hh
    | compose uses => exact hP.runEffects (hP.truncate _ (hP.renderFrom 0 uses hh))
    | truncate n => exact hP.truncate n hh
    | dispose => exact hP.truncate 0 hh
    | runEffect i => exact hP.runEffectAt i hh
    | runEffects => exact hP.runEffects hh
    | hold n =>
      by_cases hn : n ∈ h.references
      · rw [perform, holdTracker_of_mem hn]
        exact hhold n List.mem_cons_self hn hh
      · rwa [perform, holdTracker_of_not_mem hn]
    | letGo i =>
      cases hn : h.held[i]? with
      | none => rwa [perform, letGoAt_of_none hn]
      | some n => exact hP.drop (letGoAt_drops hn) (letGoAt_effects h i) hh

end Kept

/-! ### Hosts that were driven from a new one -/

/-- What every host has that was driven from a new one. -/
structure Sound (h : Host) : Prop where
  /-- What is referred to is there. -/
  known : ∀ n ∈ h.references, n < h.trackers.length
  /-- A tracker was called when it was made. -/
  entered : ∀ t ∈ h.trackers, t.entered = true
  /-- A tracker belongs to one site. -/
  nodup : h.kept.Nodup

namespace Sound

theorem new (enabled : Bool) : ({ enabled } : Host).Sound where
  known := by simp [references, Host.kept, awaited]
  entered := by simp
  nodup := by simp [Host.kept]

theorem point (hs : h.Sound) (enabled : Bool) (cursor : Nat) :
    ({ h with enabled := enabled, cursor := cursor } : Host).Sound :=
  ⟨hs.known, hs.entered, hs.nodup⟩

/-- A call goes one of four ways. -/
theorem call_cases (hs : h.Sound) (name : String) (a : Arguments) (skipped : List String) :
    h.enabled = false ∧ h.call name a skipped = (h, .disabled) ∨
    (∃ n ∈ h.kept, n ∈ h.held ∧ h.call name a skipped =
      ({ h with cursor := h.cursor + 1, said := h.said ++ [⟨n, name, .reentered⟩] },
        .reentered)) ∨
    (∃ n ∈ h.kept, ∃ t, h.trackers[n]? = some t ∧ h.call name a skipped =
      (h.advance.answered n t name a skipped, (t.recompose a skipped).2.1)) ∨
    (∀ n, h.slots[h.cursor]? ≠ some (.tracker n)) ∧ h.call name a skipped =
      ((h.started name).answered h.trackers.length { name } name a skipped, .initial) := by
  by_cases henabled : h.enabled = true
  swap
  · have hoff : h.enabled = false := Bool.eq_false_iff.2 henabled
    exact .inl ⟨hoff, call_of_disabled name a skipped hoff⟩
  by_cases hslot : ∃ n, h.slots[h.cursor]? = some (.tracker n)
  · obtain ⟨n, hslot⟩ := hslot
    have hn := mem_kept_of_getElem? hslot
    by_cases hheld : n ∈ h.held
    · exact .inr (.inl ⟨n, hn, hheld, call_of_held name a skipped henabled hslot hheld⟩)
    · have ht := List.getElem?_eq_getElem (hs.known n (mem_references.2 (.inl hn)))
      have hcall := call_of_tracker name a skipped henabled hslot hheld ht
      exact .inr (.inr (.inl ⟨n, hn, _, ht, hcall⟩))
  · have hslot : ∀ n, h.slots[h.cursor]? ≠ some (.tracker n) := fun n heq ↦ hslot ⟨n, heq⟩
    -- nobody holds a tracker that is not there yet
    have hheld : h.trackers.length ∉ h.held := fun hmem ↦
      Nat.lt_irrefl _ (hs.known _ (mem_references.2 (.inr (.inr hmem))))
    exact .inr (.inr (.inr ⟨hslot, call_of_no_tracker name a skipped henabled hslot hheld⟩))

theorem call (hs : h.Sound) (name : String) (a : Arguments) (skipped : List String) :
    (h.call name a skipped).1.Sound := by
  obtain ⟨-, hcall⟩ | ⟨n, -, -, hcall⟩ | ⟨n, hn, t, -, hcall⟩ | ⟨hslot, hcall⟩ :=
    hs.call_cases name a skipped <;> rw [hcall]
  · exact hs
  · exact ⟨hs.known, hs.entered, hs.nodup⟩
  · refine ⟨fun m hm ↦ ?_, fun u hu ↦ ?_, hs.nodup⟩
    · have hn : n ∈ h.advance.references := mem_references.2 (.inl hn)
      rw [mem_references_answered name a skipped hn] at hm
      simpa [answered, advance] using hs.known m hm
    · rcases List.mem_or_eq_of_mem_set hu with hu | rfl
      · exact hs.entered u hu
      · exact t.recompose_entered a skipped
  · refine ⟨fun m hm ↦ ?_, ?_, ?_⟩
    · have hn : h.trackers.length ∈ (h.started name).references :=
        (mem_references_started name hslot).2 (.inl rfl)
      rw [mem_references_answered name a skipped hn, mem_references_started name hslot] at hm
      rw [trackers_started_answered, List.length_append]
      rcases hm with rfl | hm
      · exact Nat.lt_succ_self _
      · exact Nat.lt_succ_of_lt (hs.known m hm)
    · rw [trackers_started_answered]
      exact List.forall_mem_append.2 ⟨hs.entered, by simp⟩
    · -- a site is given a number that no other one has
      have hfresh : h.trackers.length ∉ h.kept := fun hmem ↦
        Nat.lt_irrefl _ (hs.known _ (mem_references.2 (.inl hmem)))
      exact (filterMap_put hslot _).nodup_iff.2 (List.nodup_cons.2 ⟨hfresh, hs.nodup⟩)

theorem commit (hs : h.Sound) (c : PendingCommit) : (h.commit c).Sound := by
  by_cases hheld : c.number ∈ h.held
  · rw [commit_of_held hheld]
    exact ⟨hs.known, hs.entered, hs.nodup⟩
  · rw [commit_of_not_held hheld]
    refine ⟨fun m hm ↦ ?_, fun u hu ↦ ?_, hs.nodup⟩
    · simpa using hs.known m hm
    · obtain ⟨m, hm⟩ := List.mem_iff_getElem?.1 hu
      obtain ⟨t, ht, rfl⟩ := Option.map_eq_some_iff.1 ((List.getElem?_modify ..).symm.trans hm)
      have hentered := hs.entered t (List.mem_of_getElem? ht)
      split <;> exact hentered

theorem drop {h' : Host} {lost : List Nat} (hs : h.Sound) (hdrops : h.Drops lost h') :
    h'.Sound where
  known n hn := hdrops.trackers_eq ▸ hs.known n ((hdrops.mem_references_iff n).2 (.inr hn))
  entered := hdrops.trackers_eq ▸ hs.entered
  nodup := hs.nodup.sublist hdrops.kept_sublist

theorem hold (hs : h.Sound) (hn : n ∈ h.references) :
    ({ h with held := h.held ++ [n] } : Host).Sound :=
  ⟨fun m hm ↦ hs.known m ((mem_references_hold hn).1 hm), hs.entered, hs.nodup⟩

theorem runEffect {i : Nat} {c : PendingCommit} (hs : h.Sound) (hc : h.effects[i]? = some c) :
    (h.runEffect i).Sound :=
  (hs.commit c).drop (runEffect_drops hc)

/-- What no event takes away from a sound host: that it is sound need not be looked at. -/
theorem kept_and {Q : Host → Prop}
    (hpoint : ∀ {h : Host} (cursor : Nat), Q h → Q { h with cursor := cursor })
    (hcall : ∀ {h : Host} (name : String) (a : Arguments) (skipped : List String), h.Sound → Q h →
      Q (h.call name a skipped).1)
    (heffect : ∀ {h : Host} {i : Nat} {c : PendingCommit}, h.effects[i]? = some c → Q h →
      Q (h.runEffect i))
    (hdrop : ∀ {h h' : Host} {lost : List Nat}, h.Drops lost h' → Q h → Q h') :
    Kept fun h ↦ h.Sound ∧ Q h where
  nodup hh := hh.1.nodup
  point cursor hh := ⟨hh.1.point _ cursor, hpoint cursor hh.2⟩
  call name a skipped hh := ⟨hh.1.call name a skipped, hcall name a skipped hh.1 hh.2⟩
  runEffect hc hh := ⟨hh.1.runEffect hc, heffect hc hh.2⟩
  drop hdrops _ hh := ⟨hh.1.drop hdrops, hdrop hdrops hh.2⟩

end Sound

end Host

end RenderTrace
