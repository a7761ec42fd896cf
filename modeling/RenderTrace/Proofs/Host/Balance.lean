import Mathlib.Algebra.BigOperators.Group.Finset.Piecewise
import RenderTrace.Proofs.Host.Runs

/-!
# Entrances and exits balance

Every tracker of a host says once that it enters, when it is made, and once that it exits, when
nothing refers to it any more. So at any time as many entrances were said as exits and living
trackers together (`Host.run_balanced`).

## The ledger of one tracker

The invariant is not about numbers but about each tracker: `Host.Balanced` says which of the two
messages were said of it. That an exit is not said twice rests on two facts: a tracker is in one
slot only (`Host.Sound.nodup`), so slots that are given up together are slots of different trackers,
and its last words come only when nothing refers to it (`Host.lastWords`). The numbers follow by
adding up over all trackers (`Host.Balanced.entrances_eq`).
-/

namespace RenderTrace

/-- Whether a message says that a tracker enters. -/
def Message.isEntrance : Message → Bool
  | .entered _ => true
  | _ => false

/-- Whether a message says that a tracker exits. -/
def Message.isExit : Message → Bool
  | .exited _ => true
  | _ => false

namespace Host

/-- The entrances and exits of a tracker among remarks. -/
def passages (said : List Remark) (n : Nat) : List Message :=
  ((said.filter (·.number == n)).map (·.message)).filter fun m ↦ m.isEntrance || m.isExit

/-- How often an entrance was said. -/
def entrances (h : Host) : Nat := h.said.countP (·.message.isEntrance)

/-- How often an exit was said. -/
def exits (h : Host) : Nat := h.said.countP (·.message.isExit)

variable {h : Host} {n : Nat}

/-! ### Passages -/

theorem passages_append (said said' : List Remark) (n : Nat) :
    passages (said ++ said') n = passages said n ++ passages said' n := by
  simp [passages]

theorem passages_of_forall_ne {said : List Remark} (hsaid : ∀ r ∈ said, r.number ≠ n) :
    passages said n = [] := by
  have hnone : said.filter (·.number == n) = [] := by simpa [List.filter_eq_nil_iff] using hsaid
  rw [passages, hnone]
  rfl

/-- What a tracker says of an answer is no passage. -/
theorem passages_saidAbout (number : Nat) (name : String) (o : Outcome) (n : Nat) :
    passages ((Tracker.saidAbout o).map fun m ↦ ⟨number, name, m⟩) n = [] := by
  by_cases hn : number = n <;> cases o <;>
    simp [passages, Tracker.saidAbout, Message.isEntrance, Message.isExit, hn]

/-- The passages among last words are the exits of those that nothing refers to. -/
theorem passages_lastWords {lost : List Nat} (hlost : lost.Nodup) (h : Host) (n : Nat) :
    passages (lost.flatMap h.lastWords) n =
      if n ∈ lost ∧ n ∉ h.references then (h.trackers[n]?.map fun t ↦ .exited t.last).toList
      else [] := by
  have hnumber : ∀ m ∈ lost, ∀ r ∈ h.lastWords m, r.number = id m := fun _ _ _ hr ↦
    number_of_mem_lastWords hr
  by_cases hn : n ∈ lost
  swap
  · have hothers : ∀ m ∈ lost, id m ≠ n := by
      rintro m hm rfl
      exact hn hm
    rw [passages, filter_flatMap_of_forall_ne id hnumber hothers, if_neg fun h ↦ hn h.1]
    rfl
  have hwords : (lost.flatMap h.lastWords).filter (·.number == n) = h.lastWords n :=
    filter_flatMap_of_mem id hnumber (by simpa using hlost) hn
  rw [passages, hwords]
  by_cases href : n ∈ h.references
  · simp [href, lastWords]
  · cases ht : h.trackers[n]? <;> simp [hn, href, lastWords, ht, Message.isExit]

/-! ### The invariant -/

/-- Of each tracker it was said that it entered, and that it exited, with its last arguments, if
nothing refers to it any more. Nothing was said of a tracker that is not there. -/
structure Balanced (h : Host) : Prop extends Sound h where
  passages_eq : ∀ {n : Nat} {t : Tracker}, h.trackers[n]? = some t →
    ∃ a, passages h.said n = .entered a :: if n ∈ h.references then [] else [.exited t.last]
  spoken : ∀ r ∈ h.said, r.number < h.trackers.length

namespace Balanced

theorem new (enabled : Bool) : ({ enabled } : Host).Balanced where
  toSound := .new enabled
  passages_eq := by simp
  spoken := by simp

/-- Remarks that are no passages keep the balance, if the last arguments of a tracker that nothing
refers to stay as they are. -/
theorem of_said_append {h' : Host} {said : List Remark} (hb : h.Balanced) (hsound : h'.Sound)
    (hrefs : ∀ n, n ∈ h'.references ↔ n ∈ h.references)
    (hlength : h'.trackers.length = h.trackers.length)
    (hlast : ∀ {n t'}, h'.trackers[n]? = some t' →
      ∃ t, h.trackers[n]? = some t ∧ (n ∉ h.references → t'.last = t.last))
    (hsaid : h'.said = h.said ++ said) (hpassages : ∀ n, passages said n = [])
    (hspoken : ∀ r ∈ said, r.number < h.trackers.length) : h'.Balanced where
  toSound := hsound
  passages_eq {n t'} ht' := by
    obtain ⟨t, ht, hlast⟩ := hlast ht'
    obtain ⟨a, ha⟩ := hb.passages_eq ht
    refine ⟨a, ?_⟩
    rw [hsaid, passages_append, hpassages, List.append_nil, ha]
    by_cases hn : n ∈ h.references
    · rw [if_pos hn, if_pos ((hrefs n).2 hn)]
    · rw [if_neg hn, if_neg ((hrefs n).not.2 hn), hlast hn]
  spoken := by
    rw [hsaid, hlength]
    exact List.forall_mem_append.2 ⟨hb.spoken, hspoken⟩

/-- A call of a tracker that was called before. -/
theorem answered {t : Tracker} (hb : h.Balanced) (hn : n ∈ h.references)
    (ht : h.trackers[n]? = some t) (name : String) (a : Arguments) (skipped : List String)
    (hsound : (h.answered n t name a skipped).Sound) :
    (h.answered n t name a skipped).Balanced := by
  have hlt : n < h.trackers.length := (List.getElem?_eq_some_iff.1 ht).1
  have hsaid : (t.recompose a skipped).2.2 = Tracker.saidAbout (t.recompose a skipped).2.1 := by
    rw [Tracker.recompose_said, hb.entered t (List.mem_of_getElem? ht)]
    rfl
  refine hb.of_said_append hsound (fun m ↦ mem_references_answered name a skipped hn)
    (by simp [Host.answered]) ?_ rfl ?_ ?_
  · intro m t' ht'
    by_cases hm : m = n
    · exact ⟨t, hm ▸ ht, fun href ↦ absurd (hm ▸ hn) href⟩
    · refine ⟨t', ?_, fun _ ↦ rfl⟩
      rwa [Host.answered, List.getElem?_set_ne (Ne.symm hm)] at ht'
  · rw [hsaid]
    exact passages_saidAbout n t.name _
  · simpa using fun _ _ ↦ hlt

/-- The first call of a new tracker is where it enters. -/
theorem started (hb : h.Balanced) (hslot : ∀ n, h.slots[h.cursor]? ≠ some (.tracker n))
    (name : String) (a : Arguments) (skipped : List String)
    (hsound : ((h.started name).answered h.trackers.length { name } name a skipped).Sound) :
    ((h.started name).answered h.trackers.length { name } name a skipped).Balanced := by
  have hnew : h.trackers.length ∈ (h.started name).references :=
    (mem_references_started name hslot).2 (.inl rfl)
  have hrefs (n : Nat) :
      n ∈ ((h.started name).answered h.trackers.length { name } name a skipped).references ↔
        n = h.trackers.length ∨ n ∈ h.references :=
    (mem_references_answered name a skipped hnew).trans (mem_references_started name hslot)
  have hsaid : ((h.started name).answered h.trackers.length { name } name a skipped).said =
      h.said ++ [⟨h.trackers.length, name, .entered a⟩] := by
    have hinitial := (Tracker.recompose_eq_initial_iff { name } a skipped).2 rfl
    rw [Host.answered, Tracker.recompose_said, hinitial]
    rfl
  refine ⟨hsound, fun {n t} ht ↦ ?_, ?_⟩
  · rw [trackers_started_answered] at ht
    rcases Nat.lt_or_ge n h.trackers.length with hlt | hge
    · -- the tracker was there before
      rw [List.getElem?_append_left hlt] at ht
      obtain ⟨b, hb⟩ := hb.passages_eq ht
      refine ⟨b, ?_⟩
      rw [hsaid, passages_append, hb, passages_of_forall_ne (by simpa using hlt.ne'),
        List.append_nil]
      simp only [hrefs, hlt.ne, false_or]
    · obtain rfl : n = h.trackers.length := by
        have := (List.getElem?_eq_some_iff.1 ht).1
        rw [List.length_append, List.length_singleton] at this
        omega
      refine ⟨a, ?_⟩
      rw [hsaid, passages_append, passages_of_forall_ne fun r hr ↦ (hb.spoken r hr).ne,
        if_pos ((hrefs _).2 (.inl rfl))]
      simp [passages, Message.isEntrance]
  · rw [hsaid, trackers_started_answered, List.length_append]
    refine List.forall_mem_append.2 ⟨fun r hr ↦ Nat.lt_succ_of_lt (hb.spoken r hr), ?_⟩
    simp

theorem commit {c : PendingCommit} (hb : h.Balanced) (hc : c ∈ h.effects) :
    (h.commit c).Balanced := by
  have hlt : c.number < h.trackers.length :=
    hb.known _ (mem_references.2 (.inr (.inl (List.mem_map_of_mem hc))))
  have hsound := hb.toSound.commit c
  by_cases hheld : c.number ∈ h.held
  · rw [commit_of_held hheld] at hsound ⊢
    exact hb.of_said_append hsound (fun _ ↦ Iff.rfl) rfl (fun ht ↦ ⟨_, ht, fun _ ↦ rfl⟩) rfl
      (fun n ↦ by simp [passages, Message.isEntrance, Message.isExit]) (by simpa using hlt)
  · rw [commit_of_not_held hheld] at hsound ⊢
    refine hb.of_said_append hsound (fun _ ↦ Iff.rfl) (by simp) (fun {n t'} ht' ↦ ?_)
      (List.append_nil _).symm (fun _ ↦ rfl) (by simp)
    obtain ⟨t, ht, rfl⟩ := Option.map_eq_some_iff.1 ((List.getElem?_modify ..).symm.trans ht')
    refine ⟨t, ht, fun _ ↦ ?_⟩
    split <;> rfl

theorem drop {h' : Host} {lost : List Nat} (hb : h.Balanced) (hdrops : h.Drops lost h') :
    h'.Balanced where
  toSound := hb.toSound.drop hdrops
  passages_eq {n t} ht := by
    have ht' := hdrops.trackers_eq ▸ ht
    obtain ⟨a, ha⟩ := hb.passages_eq ht'
    refine ⟨a, ?_⟩
    rw [hdrops.said_eq, passages_append, ha, passages_lastWords hdrops.nodup, ht]
    by_cases hlost : n ∈ lost <;> by_cases href : n ∈ h'.references <;>
      simp [hdrops.mem_references_iff, hlost, href]
  spoken := by
    rw [hdrops.said_eq, hdrops.trackers_eq]
    refine List.forall_mem_append.2 ⟨hb.spoken, fun r hr ↦ ?_⟩
    obtain ⟨n, hn, hr⟩ := List.mem_flatMap.1 hr
    rw [number_of_mem_lastWords hr]
    exact hb.known n ((hdrops.mem_references_iff n).2 (.inl hn))

theorem point (hb : h.Balanced) (enabled : Bool) (cursor : Nat) :
    ({ h with enabled := enabled, cursor := cursor } : Host).Balanced :=
  ⟨hb.toSound.point enabled cursor, hb.passages_eq, hb.spoken⟩

/-- No event disturbs the balance. -/
theorem kept : Kept Balanced where
  nodup hb := hb.nodup
  point cursor hb := hb.point _ cursor
  call {h} name a skipped hb := by
    have hsound := hb.toSound.call name a skipped
    obtain ⟨-, hcall⟩ | ⟨n, hn, -, hcall⟩ | ⟨n, hn, t, ht, hcall⟩ | ⟨hslot, hcall⟩ :=
      hb.toSound.call_cases name a skipped <;> rw [hcall] at hsound ⊢
    · exact hb
    · exact hb.of_said_append hsound (fun _ ↦ Iff.rfl) rfl (fun ht ↦ ⟨_, ht, fun _ ↦ rfl⟩) rfl
        (fun n ↦ by simp [passages, Message.isEntrance, Message.isExit])
        (by simpa using hb.known n (mem_references.2 (.inl hn)))
    · have hadvance : h.advance.Balanced := hb.point h.enabled (h.cursor + 1)
      exact hadvance.answered (mem_references.2 (.inl hn)) ht name a skipped hsound
    · exact hb.started hslot name a skipped hsound
  runEffect hc hb := (hb.commit (List.mem_of_getElem? hc)).drop (runEffect_drops hc)
  drop hdrops _ hb := hb.drop hdrops

/-! ### The numbers -/

theorem countP_passages {p : Message → Bool}
    (hp : ∀ m, p m = true → (m.isEntrance || m.isExit) = true) (said : List Remark) (n : Nat) :
    (passages said n).countP p = said.countP fun r ↦ r.number == n && p r.message := by
  have hboth (m : Message) : (p m && (m.isEntrance || m.isExit)) = p m := by
    cases hpm : p m with
    | false => rfl
    | true => rw [hp m hpm]; rfl
  simp only [passages, List.countP_filter, hboth, List.countP_map, Function.comp_def,
    Bool.and_comm]

/-- Messages of one kind, counted tracker by tracker. -/
theorem countP_eq_sum {p : Message → Bool}
    (hp : ∀ m, p m = true → (m.isEntrance || m.isExit) = true) {said : List Remark} {k : Nat}
    (hsaid : ∀ r ∈ said, r.number < k) :
    said.countP (p ·.message) = ∑ n ∈ Finset.range k, (passages said n).countP p := by
  simp only [countP_passages hp]
  induction said with
  | nil => simp
  | cons r said ih =>
    obtain ⟨hr, hsaid⟩ := List.forall_mem_cons.1 hsaid
    have hone : (∑ n ∈ Finset.range k, if r.number = n then if p r.message then 1 else 0 else 0) =
        if p r.message then 1 else 0 := by
      rw [Finset.sum_ite_eq, if_pos (Finset.mem_range.2 hr)]
    simp only [List.countP_cons, Finset.sum_add_distrib, ih hsaid, Bool.and_eq_true, beq_iff_eq,
      ite_and, hone]

/-- As many entrances were said as exits and trackers that something refers to. -/
theorem entrances_eq (hb : h.Balanced) : h.entrances = h.exits + h.references.toFinset.card := by
  have hlive : h.references.toFinset =
      (Finset.range h.trackers.length).filter (· ∈ h.references) := by
    ext n
    simpa using hb.known n
  rw [entrances, exits, countP_eq_sum (fun m hm ↦ by simp [hm]) hb.spoken,
    countP_eq_sum (fun m hm ↦ by simp [hm]) hb.spoken, hlive, Finset.card_filter,
    ← Finset.sum_add_distrib]
  refine Finset.sum_congr rfl fun n hn ↦ ?_
  obtain ⟨a, ha⟩ := hb.passages_eq (List.getElem?_eq_getElem (Finset.mem_range.1 hn))
  rw [ha]
  split_ifs <;> rfl

/-- A tracker does not exit before it entered, and neither twice. -/
theorem passages_prefix (hb : h.Balanced) (n : Nat) :
    ∃ a b, passages h.said n <+: [.entered a, .exited b] := by
  cases ht : h.trackers[n]? with
  | none =>
    refine ⟨{}, {}, ?_⟩
    rw [passages_of_forall_ne fun r hr ↦ ?_]
    · exact List.nil_prefix
    · exact ((hb.spoken r hr).trans_le (List.getElem?_eq_none_iff.1 ht)).ne
  | some t =>
    obtain ⟨a, ha⟩ := hb.passages_eq ht
    refine ⟨a, t.last, ?_⟩
    rw [ha]
    split_ifs <;> simp

end Balanced

/-! ### Hosts whose trackers nobody holds -/

theorem held_eq_nil_kept : Kept fun h ↦ h.Sound ∧ h.held = [] := by
  refine Sound.kept_and (fun _ hheld ↦ hheld) (fun name a skipped hs hheld ↦ ?_)
    (fun {h i c} hc hheld ↦ ?_) fun hdrops hheld ↦ ?_
  · obtain ⟨-, hcall⟩ | ⟨n, -, -, hcall⟩ | ⟨n, -, t, -, hcall⟩ | ⟨-, hcall⟩ :=
      hs.call_cases name a skipped <;> rw [hcall] <;> exact hheld
  · have hsublist := (runEffect_drops hc).held_sublist
    rw [(h.commit_references c).2.2, hheld] at hsublist
    exact List.sublist_nil.1 hsublist
  · exact List.sublist_nil.1 (hheld ▸ hdrops.held_sublist)

/-- **Entrances and exits balance.** Whatever happens to a new host while nobody holds its trackers,
as many entrances were said as exits and trackers of a slot or of a pending commit. No tracker exits
before it entered, and neither twice. When all slots were given up and all commits were made, the
two numbers are equal. -/
theorem run_balanced (enabled : Bool) {es : List Event} (hes : ∀ n, .hold n ∉ es) :
    let h := ({ enabled } : Host).run es
    h.entrances = h.exits + (h.kept ++ h.awaited).toFinset.card ∧
      (∀ n, ∃ a b, passages h.said n <+: [.entered a, .exited b]) ∧
      h.dispose.runEffects.entrances = h.dispose.runEffects.exits := by
  intro h
  have hb : h.Balanced := Balanced.kept.run (fun enabled _ h hb ↦ hb.point enabled h.cursor)
    (fun n hn ↦ absurd hn (hes n)) (.new enabled)
  have hheld : h.Sound ∧ h.held = [] :=
    held_eq_nil_kept.run (fun enabled _ h hh ↦ ⟨hh.1.point enabled h.cursor, hh.2⟩)
      (fun n hn ↦ absurd hn (hes n)) ⟨.new enabled, rfl⟩
  refine ⟨?_, hb.passages_prefix, ?_⟩
  · rw [hb.entrances_eq, references, hheld.2, List.append_nil]
  · obtain ⟨heffects, hkept⟩ := h.dispose.runEffects_effects_kept
    -- nothing refers to a tracker any more: no slot, no effect, and nobody else
    have hnobody : h.dispose.runEffects.held = [] :=
      (held_eq_nil_kept.runEffects (held_eq_nil_kept.truncate 0 hheld)).2
    have hnothing : h.dispose.runEffects.references = [] := by
      rw [references, hkept, awaited, heffects, hnobody, dispose, truncate, foldl_releaseSlot_eq]
      rfl
    have hb' : h.dispose.runEffects.Balanced :=
      Balanced.kept.runEffects (Balanced.kept.truncate 0 hb)
    rw [hb'.entrances_eq, hnothing]
    rfl

/-- Two trackers enter, one is committed and the other one waits; then tracking is switched off, a
rendering claims no slot, and the first one exits while its commit is still to be made. -/
def switchedOff : List Event :=
  [.render 0 [.call "row" {} []], .runEffects, .render 1 [.call "cell" {} [], .call "row" {} []],
    .truncate 2, .switch false, .render 0 [.call "row" {} []], .truncate 0]

theorem run_balanced_switchedOff :
    (∀ n, .hold n ∉ switchedOff) ∧
      let h := ({ enabled := true } : Host).run switchedOff
      (h.entrances = 3 ∧ h.exits = 1 ∧ h.kept ++ h.awaited = [1, 2]) ∧
        h.entrances = h.exits + (h.kept ++ h.awaited).toFinset.card ∧
        (∀ n, ∃ a b, passages h.said n <+: [.entered a, .exited b]) ∧
        h.dispose.runEffects.entrances = h.dispose.runEffects.exits :=
  have hes : ∀ n, .hold n ∉ switchedOff := by simp [switchedOff]
  ⟨hes, by decide, run_balanced true hes⟩

end Host

end RenderTrace
