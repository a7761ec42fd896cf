import RenderTrace.Proofs.Host.Changes

/-!
# A rendering

What a rendering does to a host while tracking is on, nobody holds a tracker and all sites are used
for tracker calls. The host is described by its sites, each a tracker with its number.

Between renderings a host is `Host.Settled`: its slots keep different trackers, all of them
committed. In the middle of a rendering (`Host.Midway`) the trackers of the sites that were used
have answered, and those that are new wait for their commits; the trackers of the other sites are as
they were. A call takes one site over (`Host.Midway.call_cons`, `Host.Midway.call_nil`), and the
calls of a rendering take over one site each (`Host.Midway.calls`). The sites that are left are
given up (`Host.Midway.truncate`), the new trackers are committed (`Host.Midway.runEffects`), and
the host is settled again (`Host.Settled.compose`).

The host commits a new tracker after the rendering and a tracker that is tracked is committed with
the call, which comes to the same since no tracker is called twice in a rendering.
-/

namespace RenderTrace

/-- A tracker call that comes to a site. -/
structure SiteCall where
  name : String
  arguments : Arguments
  skipped : List String
  deriving DecidableEq, Repr

/-- The use of a site for a call. -/
def SiteCall.use (c : SiteCall) : SiteUse := .call c.name c.arguments c.skipped

namespace Host

variable {h : Host}

/-! ### In the middle of a rendering -/

/-- A host whose first sites were used in a rendering, and the others not yet. A tracker is listed
with its number. -/
structure Midway (h : Host) (done rest : List (Nat × Tracker)) : Prop where
  enabled_eq : h.enabled = true
  held_eq : h.held = []
  slots_eq : h.slots = (done ++ rest).map fun s ↦ .tracker s.1
  nodup : ((done ++ rest).map (·.1)).Nodup
  trackers_eq : ∀ s ∈ done ++ rest, h.trackers[s.1]? = some s.2
  cursor_eq : h.cursor = done.length
  effects_eq : h.effects =
    (done.filter fun s ↦ decide (s.2.phase = .initial)).map fun s ↦ ⟨s.1, s.2.name⟩
  steady : ∀ s ∈ rest, s.2.phase = .steady

/-- A host between two renderings. -/
def Settled (h : Host) (sites : List (Nat × Tracker)) : Prop :=
  Midway { h with cursor := 0 } [] sites

/-- A tracker that a call in a rendering came to. -/
structure Seat where
  number : Nat
  tracker : Tracker
  call : SiteCall

namespace Seat

/-- The tracker when it has answered. -/
def answered (s : Seat) : Nat × Tracker :=
  (s.number, (s.tracker.recompose s.call.arguments s.call.skipped).1)

/-- The answer. -/
def answer (s : Seat) : Outcome := (s.tracker.recompose s.call.arguments s.call.skipped).2.1

/-- What the tracker says. -/
def remarks (s : Seat) : List Remark :=
  (s.tracker.recompose s.call.arguments s.call.skipped).2.2.map fun m ↦
    ⟨s.number, s.tracker.name, m⟩

/-- The site after the rendering: its tracker was tracked. -/
def tracked (s : Seat) : Nat × Tracker :=
  (s.number, (s.tracker.track s.call.arguments s.call.skipped).1)

end Seat

/-- What the tracker of a site says that is left. -/
def farewell (s : Nat × Tracker) : List Remark := s.2.close.map fun m ↦ ⟨s.1, s.2.name, m⟩

/-- The trackers that calls come to: those of the sites, and new ones when the sites are used up. -/
def seats (fresh : Nat) : List (Nat × Tracker) → List SiteCall → List Seat
  | _, [] => []
  | [], c :: cs => ⟨fresh, { name := c.name }, c⟩ :: seats (fresh + 1) [] cs
  | (n, t) :: sites, c :: cs => ⟨n, t, c⟩ :: seats fresh sites cs

theorem filterMap_number?_map (sites : List (Nat × Tracker)) :
    (sites.map fun s ↦ Slot.tracker s.1).filterMap Slot.number? = sites.map (·.1) := by
  rw [List.filterMap_map, ← List.filterMap_eq_map]
  rfl

namespace Midway

variable {done rest : List (Nat × Tracker)} {n : Nat} {t : Tracker}

/-- A call that comes to a site with a tracker. -/
theorem call_cons (hm : Midway h done ((n, t) :: rest)) (c : SiteCall) :
    let s : Seat := ⟨n, t, c⟩
    ∃ h', h.call c.name c.arguments c.skipped = (h', s.answer) ∧
      Midway h' (done ++ [s.answered]) rest ∧ h'.trackers.length = h.trackers.length ∧
      h'.said = h.said ++ s.remarks := by
  intro s
  have hslot : h.slots[h.cursor]? = some (.tracker n) := by simp [hm.slots_eq, hm.cursor_eq]
  have ht : h.trackers[n]? = some t := hm.trackers_eq (n, t) (by simp)
  have hphase : t.phase = .steady := hm.steady (n, t) List.mem_cons_self
  have hsplit : done ++ [s.answered] ++ rest = done ++ s.answered :: rest := by simp
  have hlt : n < h.trackers.length := (List.getElem?_eq_some_iff.1 ht).1
  -- the trackers of the other sites are not touched, for theirs is another number
  have hothers : ∀ u ∈ done ++ rest, u.1 ≠ n := ne_of_nodup_middle hm.nodup
  refine ⟨h.advance.answered n t c.name c.arguments c.skipped,
    call_of_tracker _ _ _ hm.enabled_eq hslot (by simp [hm.held_eq]) ht,
    ⟨hm.enabled_eq, hm.held_eq, ?_, ?_, ?_, ?_, ?_, ?_⟩, by simp [Host.answered, advance], rfl⟩
  · rw [hsplit]
    simpa [Seat.answered, s, Host.answered, advance] using hm.slots_eq
  · rw [hsplit]
    simpa [Seat.answered, s] using hm.nodup
  · intro u hu
    rw [hsplit, List.perm_middle.mem_iff, List.mem_cons] at hu
    rcases hu with rfl | hu
    · exact List.getElem?_set_self hlt
    · rw [Host.answered, List.getElem?_set_ne (hothers u hu).symm]
      refine hm.trackers_eq u ?_
      rw [List.perm_middle.mem_iff]
      exact List.mem_cons_of_mem _ hu
  · simp [Host.answered, advance, hm.cursor_eq]
  · simp [Host.answered, advance, hm.effects_eq, Seat.answered, s, hphase]
  · exact fun u hu ↦ hm.steady u (List.mem_cons_of_mem _ hu)

/-- A call that comes behind the last site. -/
theorem call_nil (hm : Midway h done []) (c : SiteCall) :
    let s : Seat := ⟨h.trackers.length, { name := c.name }, c⟩
    ∃ h', h.call c.name c.arguments c.skipped = (h', s.answer) ∧
      Midway h' (done ++ [s.answered]) [] ∧ h'.trackers.length = h.trackers.length + 1 ∧
      h'.said = h.said ++ s.remarks := by
  intro s
  have hlast : h.slots.length = h.cursor := by simp [hm.slots_eq, hm.cursor_eq]
  have hslot : ∀ n, h.slots[h.cursor]? ≠ some (.tracker n) := by simp [← hlast]
  have hinitial : s.answer = .initial := (Tracker.recompose_eq_initial_iff ..).2 rfl
  have htrackers := trackers_started_answered c.name c.arguments c.skipped h
  -- the new tracker takes the next number, which no site has
  have hbelow : ∀ u ∈ done, u.1 < h.trackers.length := fun u hu ↦
    (List.getElem?_eq_some_iff.1 (hm.trackers_eq u (by simpa using hu))).1
  refine ⟨(h.started c.name).answered h.trackers.length { name := c.name } c.name c.arguments
      c.skipped, ?_, ⟨hm.enabled_eq, hm.held_eq, ?_, ?_, ?_, ?_, ?_, by simp⟩,
    by rw [htrackers]; simp, rfl⟩
  · rw [call_of_no_tracker _ _ _ hm.enabled_eq hslot (by simp [hm.held_eq]), hinitial]
  · simp [Host.answered, started, put, ← hlast, hm.slots_eq, Seat.answered, s]
  · have hnodup := hm.nodup
    rw [List.append_nil] at hnodup ⊢
    rw [List.map_append, List.nodup_append]
    refine ⟨hnodup, List.nodup_singleton _, fun m hm' k hk ↦ ?_⟩
    obtain ⟨u, hu, rfl⟩ := List.mem_map.1 hm'
    obtain rfl : k = h.trackers.length := by simpa [Seat.answered, s] using hk
    exact Nat.ne_of_lt (hbelow u hu)
  · intro u hu
    rw [htrackers]
    rw [List.append_nil, List.mem_append, List.mem_singleton] at hu
    rcases hu with hu | rfl
    · rw [List.getElem?_append_left (hbelow u hu)]
      exact hm.trackers_eq u (by simpa using hu)
    · exact List.getElem?_concat_length
  · simp [Host.answered, started, hm.cursor_eq]
  · simp [Host.answered, started, hm.effects_eq, Seat.answered, s]

/-- The calls of a rendering. -/
theorem calls (hm : Midway h done rest) (calls : List SiteCall) (answers : List Outcome) :
    let ss := seats h.trackers.length rest calls
    ∃ h',
      (calls.map SiteCall.use).foldl useSite (h, answers) = (h', answers ++ ss.map Seat.answer) ∧
      Midway h' (done ++ ss.map Seat.answered) (rest.drop calls.length) ∧
      h'.said = h.said ++ ss.flatMap Seat.remarks := by
  induction calls generalizing h done rest answers with
  | nil => exact ⟨h, by simp [seats], by simpa [seats] using hm, by simp [seats]⟩
  | cons c cs ih =>
    -- the seat that the first call takes, the sites that are left to the others, and the number
    -- that the next new tracker gets
    obtain ⟨s, rest', fresh, hseats, hdrop, h₁, hcall, hm₁, hfresh, hsaid₁⟩ :
        ∃ s rest' fresh, seats h.trackers.length rest (c :: cs) = s :: seats fresh rest' cs ∧
          rest.drop (cs.length + 1) = rest'.drop cs.length ∧
          ∃ h₁, h.call c.name c.arguments c.skipped = (h₁, s.answer) ∧
            Midway h₁ (done ++ [s.answered]) rest' ∧ h₁.trackers.length = fresh ∧
            h₁.said = h.said ++ s.remarks := by
      cases rest with
      | nil => exact ⟨_, [], _, rfl, by simp, hm.call_nil c⟩
      | cons site rest => exact ⟨_, rest, _, rfl, rfl, hm.call_cons c⟩
    obtain ⟨h₂, hcalls, hm₂, hsaid₂⟩ := ih hm₁ (answers ++ [s.answer])
    subst hfresh
    have hstep : useSite (h, answers) c.use = (h₁, answers ++ [s.answer]) := by
      rw [SiteCall.use, useSite, hcall]
    refine ⟨h₂, ?_, ?_, ?_⟩
    · rw [List.map_cons, List.foldl_cons, hstep, hcalls, hseats]
      simp
    · rw [hseats, List.length_cons, hdrop]
      simpa using hm₂
    · rw [hsaid₂, hsaid₁, hseats]
      simp

/-- A commit is awaited by the tracker of a site that was used. -/
theorem mem_done_of_mem_awaited (hm : Midway h done rest) (hn : n ∈ h.awaited) :
    n ∈ done.map (·.1) := by
  have hawaited : h.awaited = (done.filter fun s ↦ decide (s.2.phase = .initial)).map (·.1) := by
    rw [awaited, hm.effects_eq, List.map_map]
    rfl
  exact (List.filter_sublist.map _).subset (hawaited ▸ hn)

theorem mem_awaited (hm : Midway h done rest) {s : Nat × Tracker} (hs : s ∈ done)
    (hphase : s.2.phase = .initial) : s.1 ∈ h.awaited := by
  rw [awaited, hm.effects_eq, List.map_map]
  exact List.mem_map.2 ⟨s, List.mem_filter.2 ⟨hs, by simpa using hphase⟩, rfl⟩

/-- The sites behind the current one are given up, and their trackers say farewell. -/
theorem truncate (hm : Midway h done rest) :
    Midway (h.truncate h.cursor) done [] ∧
      (h.truncate h.cursor).said = h.said ++ rest.flatMap farewell := by
  have htake : h.slots.take h.cursor = done.map fun s ↦ .tracker s.1 := by
    simp [hm.slots_eq, hm.cursor_eq]
  have hdrop : (h.slots.drop h.cursor).filterMap Slot.number? = rest.map (·.1) := by
    rw [← filterMap_number?_map]
    simp [hm.slots_eq, hm.cursor_eq]
  have hnodup := hm.nodup
  rw [List.map_append, List.nodup_append] at hnodup
  have hwords : ∀ s ∈ rest,
      { h with slots := h.slots.take h.cursor }.lastWords s.1 = farewell s := by
    intro s hs
    have hdone : s.1 ∉ done.map (·.1) := fun hs' ↦
      hnodup.2.2 s.1 hs' s.1 (List.mem_map_of_mem hs) rfl
    have hkept : ({ h with slots := h.slots.take h.cursor } : Host).kept = done.map (·.1) := by
      rw [kept, htake, filterMap_number?_map]
    -- no other site has the number, and commits are awaited by sites that were used
    have hgone : s.1 ∉ ({ h with slots := h.slots.take h.cursor } : Host).references := by
      rw [mem_references, hkept, hm.held_eq]
      simp only [hdone, List.not_mem_nil, or_false, false_or]
      exact fun hs' ↦ hdone (hm.mem_done_of_mem_awaited hs')
    rw [lastWords, if_neg hgone, hm.trackers_eq s (List.mem_append_right _ hs)]
    rfl
  have htruncate : h.truncate h.cursor = { h with
      slots := done.map fun s ↦ .tracker s.1
      said := h.said ++ rest.flatMap farewell } := by
    rw [Host.truncate, foldl_releaseSlot_eq, hdrop, List.flatMap_map, htake]
    rw [← htake, List.flatMap_congr hwords]
  rw [htruncate]
  refine ⟨⟨hm.enabled_eq, hm.held_eq, by simp, by simpa using hnodup.1, ?_, hm.cursor_eq,
    hm.effects_eq, by simp⟩, rfl⟩
  exact fun s hs ↦ hm.trackers_eq s (List.mem_append_left _ (by simpa using hs))

end Midway

/-! ### Commits -/

/-- A host whose first commits were made, and the others are left. -/
def committed (h : Host) (made left : List PendingCommit) : Host :=
  { h with
    effects := left
    trackers := (made.map (·.number)).foldl (fun ts n ↦ ts.modify n Tracker.commit) h.trackers }

/-- While nobody holds its tracker, a commit is made, and it does not end a tracker that a slot
keeps. -/
theorem runEffect_zero {c : PendingCommit} {cs : List PendingCommit}
    (heffects : h.effects = c :: cs) (hheld : h.held = []) (hkept : c.number ∈ h.kept) :
    h.runEffect 0 =
      { h with effects := cs, trackers := h.trackers.modify c.number Tracker.commit } := by
  have hc : h.effects[0]? = some c := by rw [heffects, List.getElem?_cons_zero]
  have hnobody : c.number ∉ h.held := by simp [hheld]
  rw [runEffect_of_getElem? hc, commit_of_not_held hnobody, heffects, List.eraseIdx_cons_zero]
  exact release_of_mem (mem_references.2 (.inl hkept))

/-- The commits are made one after the other. -/
theorem runEffects_eq (hheld : h.held = []) (hkept : ∀ n ∈ h.awaited, n ∈ h.kept) :
    h.runEffects = h.committed h.effects [] := by
  have hstep {h' : Host} {c : PendingCommit} (hc : h'.effects[0]? = some c)
      (hmade : ∃ made, h.effects = made ++ h'.effects ∧ h' = h.committed made h'.effects) :
      ∃ made, h.effects = made ++ (h'.runEffect 0).effects ∧
        h'.runEffect 0 = h.committed made (h'.runEffect 0).effects := by
    obtain ⟨cs, hcs⟩ := List.head?_eq_some_iff.1 (List.head?_eq_getElem? ▸ hc)
    obtain ⟨made, heffects, heq⟩ := hmade
    rw [hcs] at heffects heq
    have hmem : c.number ∈ h.kept :=
      hkept _ (List.mem_map_of_mem (heffects ▸ List.mem_append_right _ List.mem_cons_self))
    rw [runEffect_zero hcs (heq ▸ hheld) (heq ▸ hmem)]
    refine ⟨made ++ [c], by simp [heffects], ?_⟩
    rw [heq]
    simp [committed]
  obtain ⟨hnone, made, heffects, heq⟩ := runEffects_induction hstep ⟨[], rfl, rfl⟩
  rw [hnone, List.append_nil] at heffects
  rw [heq, hnone, ← heffects]

/-- A list of trackers of which some were committed: all that are in the steady phase before are
committed as well. -/
theorem getElem?_foldl_commit {ts : List Tracker} {ns : List Nat} {n : Nat} {t : Tracker}
    (ht : ts[n]? = some t) (hsteady : n ∉ ns → t.phase = .steady) :
    (ns.foldl (fun ts n ↦ ts.modify n Tracker.commit) ts)[n]? = some t.commit := by
  induction ns generalizing ts t with
  | nil =>
    rw [List.foldl_nil, ht, Tracker.commit, ← hsteady List.not_mem_nil]
  | cons m ns ih =>
    rw [List.foldl_cons]
    by_cases hmn : m = n
    · subst hmn
      have ht' : (ts.modify m Tracker.commit)[m]? = some t.commit := by simp [ht]
      -- committing again changes nothing
      have hagain : t.commit.commit = t.commit := rfl
      rw [← hagain]
      exact ih ht' fun _ ↦ rfl
    · have ht' : (ts.modify m Tracker.commit)[n]? = some t := by
        simp [hmn, ht]
      exact ih ht' fun hn ↦ hsteady (by simp [hn, Ne.symm hmn])

namespace Midway

variable {done : List (Nat × Tracker)}

/-- When all sites were used, the commits make the host settled. -/
theorem runEffects (hm : Midway h done []) :
    Settled h.runEffects (done.map fun s ↦ (s.1, s.2.commit)) ∧ h.runEffects.said = h.said := by
  have hnodup := hm.nodup
  have htrackers := hm.trackers_eq
  rw [List.append_nil] at hnodup htrackers
  have hkept : h.kept = done.map (·.1) := by
    rw [kept, hm.slots_eq, filterMap_number?_map, List.append_nil]
  have hrun := runEffects_eq hm.held_eq fun n hn ↦ hkept ▸ hm.mem_done_of_mem_awaited hn
  rw [hrun]
  refine ⟨⟨hm.enabled_eq, hm.held_eq, ?_, ?_, ?_, rfl, rfl, ?_⟩, rfl⟩
  · rw [List.nil_append, List.map_map]
    exact hm.slots_eq.trans (by rw [List.append_nil]; rfl)
  · rw [List.nil_append, List.map_map]
    exact hnodup
  · intro s hs
    rw [List.nil_append] at hs
    obtain ⟨u, hu, rfl⟩ := List.mem_map.1 hs
    refine getElem?_foldl_commit (htrackers u hu) fun hn ↦ ?_
    -- a tracker in the initial phase has asked for its commit
    cases hphase : u.2.phase with
    | steady => rfl
    | initial => exact absurd (hm.mem_awaited hu hphase) hn
  · intro s hs
    obtain ⟨u, -, rfl⟩ := List.mem_map.1 hs
    rfl

end Midway

namespace Settled

/-- A rendering of a settled host, told by the seats of its calls: each answers, speaks and is
tracked, the sites behind them are left, and all of them are different trackers. -/
theorem compose {sites : List (Nat × Tracker)} (hs : Settled h sites) (calls : List SiteCall) :
    let used := seats h.trackers.length sites calls
    let left := sites.drop calls.length
    (used.map (·.number) ++ left.map (·.1)).Nodup ∧
      ∃ h', h.compose (calls.map SiteCall.use) = (h', used.map Seat.answer) ∧
        Settled h' (used.map Seat.tracked) ∧
        h'.said = h.said ++ used.flatMap Seat.remarks ++ left.flatMap farewell := by
  intro used left
  obtain ⟨h₁, hcalls, hm, hsaid⟩ := Midway.calls hs calls []
  obtain ⟨hm', hleft⟩ := hm.truncate
  obtain ⟨hsettled, hsilent⟩ := hm'.runEffects
  refine ⟨?_, (h₁.truncate h₁.cursor).runEffects, ?_, ?_, ?_⟩
  · have hnodup := hm.nodup
    rwa [List.nil_append, List.map_append, List.map_map] at hnodup
  · rw [Host.compose, renderFrom, hcalls]
    rfl
  · rwa [List.nil_append, List.map_map] at hsettled
  · rw [hsilent, hleft, hsaid]

end Settled

end Host

end RenderTrace
