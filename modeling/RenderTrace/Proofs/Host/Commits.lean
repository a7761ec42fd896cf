import RenderTrace.Proofs.Host.Runs

/-!
# No commit is lost

While somebody holds a tracker it can neither be called nor committed. Both are said on the channel
for errors: a call is refused and leaves all else as it was, and a commit that could not be made is
reported (`Host.run_accounted`).

The invariant, `Host.Accounted`, is about the first commit that was asked for, which has the name of
the tracker: it stays among the pending ones until it is made or reported. Later calls in the
initial phase ask for more commits, under their own names, and it does not need them.
-/

namespace RenderTrace

namespace Host

variable {h : Host} {n : Nat}

/-- Of every tracker that is still in the initial phase, a commit is pending or was reported. -/
structure Accounted (h : Host) : Prop extends Sound h where
  accounted : ∀ {n : Nat} {t : Tracker}, h.trackers[n]? = some t → t.phase = .initial →
    ⟨n, t.name⟩ ∈ h.effects ∨ ⟨n, t.name, .uncommitted⟩ ∈ h.said

namespace Accounted

theorem new (enabled : Bool) : ({ enabled } : Host).Accounted where
  toSound := .new enabled
  accounted := by simp

/-- Trackers of the same names and phases stay accounted for while no pending commit goes. -/
theorem of_grows {h' : Host} (hacc : h.Accounted) (hsound : h'.Sound)
    (htrackers : ∀ {n t'}, h'.trackers[n]? = some t' → t'.phase = .initial →
      (∃ t, h.trackers[n]? = some t ∧ t.name = t'.name ∧ t.phase = .initial) ∨
        ⟨n, t'.name⟩ ∈ h'.effects)
    (heffects : h.effects ⊆ h'.effects) (hsaid : h.said ⊆ h'.said) : h'.Accounted where
  toSound := hsound
  accounted {n t'} ht' hphase := by
    obtain ⟨t, ht, hname, hphase⟩ | hpending := htrackers ht' hphase
    · rw [← hname]
      exact (hacc.accounted ht hphase).imp (@heffects _) (@hsaid _)
    · exact .inl hpending

theorem point (hacc : h.Accounted) (enabled : Bool) (cursor : Nat) :
    ({ h with enabled := enabled, cursor := cursor } : Host).Accounted :=
  ⟨hacc.toSound.point enabled cursor, hacc.accounted⟩

theorem call (hacc : h.Accounted) (name : String) (a : Arguments) (skipped : List String) :
    (h.call name a skipped).1.Accounted := by
  have hsound := hacc.toSound.call name a skipped
  obtain ⟨-, hcall⟩ | ⟨n, -, -, hcall⟩ | ⟨n, hn, t, ht, hcall⟩ | ⟨hslot, hcall⟩ :=
    hacc.toSound.call_cases name a skipped <;> rw [hcall] at hsound ⊢
  · exact hacc
  · exact hacc.of_grows hsound (fun ht hphase ↦ .inl ⟨_, ht, rfl, hphase⟩) (List.Subset.refl _)
      (List.subset_append_left _ _)
  · refine hacc.of_grows hsound (fun {m t'} ht' hphase ↦ .inl ?_) (List.subset_append_left _ _)
      (List.subset_append_left _ _)
    by_cases hm : m = n
    · subst hm
      have hlt : m < h.advance.trackers.length := (List.getElem?_eq_some_iff.1 ht).1
      rw [answered, List.getElem?_set_self hlt, Option.some_inj] at ht'
      subst ht'
      exact ⟨t, ht, (t.recompose_name a skipped).symm, t.recompose_phase a skipped ▸ hphase⟩
    · rw [answered, List.getElem?_set_ne (Ne.symm hm)] at ht'
      exact ⟨t', ht', rfl, hphase⟩
  · refine hacc.of_grows hsound (fun {m t'} ht' hphase ↦ ?_) (List.subset_append_left _ _)
      (List.subset_append_left _ _)
    rw [trackers_started_answered] at ht'
    rcases Nat.lt_or_ge m h.trackers.length with hlt | hge
    · rw [List.getElem?_append_left hlt] at ht'
      exact .inl ⟨t', ht', rfl, hphase⟩
    · -- the new tracker asked for its first commit
      obtain ⟨hm, rfl⟩ : m = h.trackers.length ∧
          (({ name } : Tracker).recompose a skipped).1 = t' := by
        rw [List.getElem?_append_right hge, List.getElem?_singleton] at ht'
        split_ifs at ht' with hzero
        exact ⟨by omega, Option.some.inj ht'⟩
      refine .inr ?_
      rw [Tracker.recompose_name]
      simp [answered, hm]

/-- A commit that is made or reported needs its effect no more. -/
theorem runEffect {i : Nat} {c : PendingCommit} (hacc : h.Accounted) (hc : h.effects[i]? = some c) :
    (h.runEffect i).Accounted := by
  refine ⟨hacc.toSound.runEffect hc, fun {n t} ht hphase ↦ ?_⟩
  rw [runEffect_of_getElem? hc, release_eq] at ht ⊢
  by_cases hheld : c.number ∈ h.held
  · rw [commit_of_held hheld] at ht ⊢
    rcases hacc.accounted ht hphase with hpending | hsaid
    · rcases (mem_iff_eraseIdx hc _).1 hpending with rfl | hleft
      · exact .inr (by simp)
      · exact .inl hleft
    · exact .inr (List.mem_append_left _ (List.mem_append_left _ hsaid))
  · rw [commit_of_not_held hheld] at ht ⊢
    obtain ⟨u, hu, rfl⟩ := Option.map_eq_some_iff.1 ((List.getElem?_modify ..).symm.trans ht)
    -- a tracker that is still in the initial phase is not the one that was committed
    have hother : c.number ≠ n := by
      rintro rfl
      simp [Tracker.commit] at hphase
    simp only [if_neg hother] at hphase ⊢
    rcases hacc.accounted hu hphase with hpending | hsaid
    · rcases (mem_iff_eraseIdx hc _).1 hpending with rfl | hleft
      · exact absurd rfl hother
      · exact .inl hleft
    · exact .inr (List.mem_append_left _ hsaid)

theorem kept : Kept Accounted where
  nodup hacc := hacc.nodup
  point cursor hacc := hacc.point _ cursor
  call name a skipped hacc := hacc.call name a skipped
  runEffect hc hacc := hacc.runEffect hc
  drop hdrops heffects hacc := by
    refine hacc.of_grows (hacc.toSound.drop hdrops) (fun {n t} ht hphase ↦ .inl ?_) ?_ ?_
    · exact ⟨t, hdrops.trackers_eq ▸ ht, rfl, hphase⟩
    · rw [heffects]
      exact List.Subset.refl _
    · rw [hdrops.said_eq]
      exact List.subset_append_left _ _

end Accounted

/-- Tracking stays as it is unless it is switched, and without it there are no trackers. -/
theorem enabled_kept (enabled : Bool) :
    Kept fun h ↦ h.Sound ∧ h.enabled = enabled ∧ (enabled = false → h.trackers = []) := by
  refine Sound.kept_and (fun _ hh ↦ hh) (fun {h} name a skipped hs hh ↦ ?_) (fun {h i c} hc hh ↦ ?_)
    fun hdrops hh ↦ ?_
  · cases enabled with
    | false => exact call_of_disabled name a skipped hh.1 ▸ hh
    | true =>
      refine ⟨?_, fun hfalse ↦ Bool.noConfusion hfalse⟩
      obtain ⟨-, hcall⟩ | ⟨n, -, -, hcall⟩ | ⟨n, -, t, -, hcall⟩ | ⟨-, hcall⟩ :=
        hs.call_cases name a skipped <;> rw [hcall] <;> exact hh.1
  · have hdrops := runEffect_drops hc
    rw [hdrops.enabled_eq, hdrops.trackers_eq]
    by_cases hheld : c.number ∈ h.held
    · rw [commit_of_held hheld]
      exact hh
    · rw [commit_of_not_held hheld]
      exact ⟨hh.1, fun hoff ↦ by simp [hh.2 hoff]⟩
  · exact ⟨hdrops.enabled_eq.trans hh.1, fun hoff ↦ hdrops.trackers_eq.trans (hh.2 hoff)⟩

/-- Where tracking was never switched, it is on while somebody holds a tracker. -/
theorem enabled_of_mem_held {enabled : Bool} {es : List Event} (hes : ∀ b, .switch b ∉ es)
    (hn : n ∈ (({ enabled } : Host).run es).held) : (({ enabled } : Host).run es).enabled = true := by
  let last := ({ enabled } : Host).run es
  obtain ⟨hsound, heq, hoff⟩ :
      last.Sound ∧ last.enabled = enabled ∧ (enabled = false → last.trackers = []) :=
    (enabled_kept enabled).run (fun b hb ↦ absurd hb (hes b))
      (fun n _ h hn hh ↦ ⟨hh.1.hold hn, hh.2⟩) ⟨.new enabled, rfl, fun _ ↦ rfl⟩
  cases enabled with
  | true => exact heq
  | false =>
    have hlt := hsound.known n (mem_references.2 (.inr (.inr hn)))
    simp [hoff rfl] at hlt

/-- A call from a site whose tracker is held. -/
theorem renderFrom_of_held {position : Nat} (hslot : h.slots[position]? = some (.tracker n))
    (hheld : n ∈ h.held) (name : String) (a : Arguments) (skipped : List String) :
    h.renderFrom position [.call name a skipped] =
      if h.enabled then
        ({ h with cursor := position + 1, said := h.said ++ [⟨n, name, .reentered⟩] },
          [.reentered])
      else ({ h with cursor := position }, [.disabled]) := by
  let there : Host := { h with cursor := position }
  have hrender : h.renderFrom position [.call name a skipped] =
      ((there.call name a skipped).1, [(there.call name a skipped).2]) := rfl
  rw [hrender]
  split_ifs with henabled
  · rw [call_of_held (h := there) name a skipped henabled hslot hheld]
  · rw [call_of_disabled (h := there) name a skipped (Bool.eq_false_iff.2 henabled)]

/-- **No commit is lost.** Whatever happens to a new host:

* A call from a site whose tracker is held is refused, with a report, and changes nothing else but
  the position of the next site. Where tracking is off, a call changes nothing at all.
* Where tracking was never switched, it is on while somebody holds a tracker.
* A tracker that was called and is still in the initial phase has a pending commit, or it was
  reported, on the channel for errors, that it was running when its commit was to be made. -/
theorem run_accounted (enabled : Bool) (es : List Event) :
    let h := ({ enabled } : Host).run es
    (∀ position n, h.slots[position]? = some (.tracker n) → n ∈ h.held →
      ∀ name a skipped, ∃ r : Remark, r.number = n ∧
        r.record = ⟨.error, .runtime, name ++ " re-entered its tracker while it was running"⟩ ∧
        h.renderFrom position [.call name a skipped] =
          if h.enabled then
            ({ h with cursor := position + 1, said := h.said ++ [r] }, [.reentered])
          else ({ h with cursor := position }, [.disabled])) ∧
      ((∀ b, .switch b ∉ es) → ∀ n ∈ h.held, h.enabled = true) ∧
      ∀ n t, h.trackers[n]? = some t → t.entered = true → t.phase = .initial →
        (∃ c ∈ h.effects, c.number = n) ∨
          ∃ r ∈ h.said, r.number = n ∧ r.record =
            ⟨.error, .runtime, t.name ++ " was running when its first render was committed"⟩ := by
  intro h
  have hacc : h.Accounted := Accounted.kept.run (fun enabled _ h hacc ↦ hacc.point enabled h.cursor)
    (fun n _ h hn hacc ↦ ⟨hacc.toSound.hold hn, hacc.accounted⟩) (.new enabled)
  refine ⟨fun position n hslot hheld name a skipped ↦
    ⟨⟨n, name, .reentered⟩, rfl, rfl, renderFrom_of_held hslot hheld name a skipped⟩,
    fun hes n hn ↦ enabled_of_mem_held hes hn, fun n t ht _ hphase ↦ ?_⟩
  exact (hacc.accounted ht hphase).imp (fun hpending ↦ ⟨_, hpending, rfl⟩)
    fun hsaid ↦ ⟨_, hsaid, rfl, rfl⟩

/-- The tracker of a site is held while its site is used again and its first commit is due. -/
def heldThroughout : List Event :=
  [.render 0 [.call "row" {} []], .hold 0, .render 0 [.call "row" {} []], .runEffects]

theorem run_accounted_heldThroughout :
    let h := ({ enabled := true } : Host).run heldThroughout
    (h.slots[0]? = some (.tracker 0) ∧ 0 ∈ h.held ∧ (∀ b, .switch b ∉ heldThroughout) ∧
      ∃ t, h.trackers[0]? = some t ∧ t.entered = true ∧ t.phase = .initial ∧ h.effects = []) ∧
      (∃ r : Remark, r.number = 0 ∧
        r.record = ⟨.error, .runtime, "row" ++ " re-entered its tracker while it was running"⟩ ∧
        h.renderFrom 0 [.call "row" {} []] =
          if h.enabled then ({ h with cursor := 0 + 1, said := h.said ++ [r] }, [.reentered])
          else ({ h with cursor := 0 }, [.disabled])) ∧
      h.enabled = true ∧
      ((∃ c ∈ h.effects, c.number = 0) ∨
        ∃ r ∈ h.said, r.number = 0 ∧ r.record =
          ⟨.error, .runtime, "row" ++ " was running when its first render was committed"⟩) := by
  obtain ⟨hrefused, hswitch, haccounted⟩ := run_accounted true heldThroughout
  have hslot :
      (({ enabled := true } : Host).run heldThroughout).slots[0]? = some (.tracker 0) := rfl
  have hheld : 0 ∈ (({ enabled := true } : Host).run heldThroughout).held := by decide
  have hes : ∀ b, .switch b ∉ heldThroughout := by simp [heldThroughout]
  exact ⟨⟨hslot, hheld, hes, _, rfl, rfl, rfl, rfl⟩, hrefused 0 0 hslot hheld "row" {} [],
    hswitch hes 0 hheld, haccounted 0 _ rfl rfl rfl⟩

end Host

end RenderTrace
