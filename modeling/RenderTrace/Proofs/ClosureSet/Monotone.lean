import RenderTrace.Proofs.ClosureSet.Search

/-!
# A closure grows with its candidates

Two searches over different candidates agree on nothing step by step: one more reference moves every
function behind it in the queue. What they find does compare, because it is reachability
(`mem_compute_iff`), and reachability is carried along an *embedding*: a numbering `ρ` of the first
candidates among the second under which each one asks for no more than its image does
(`AtMost`). Being skipped is the one flag that takes functions away, so it is compared the other way.

The numbering is a parameter because the functions of a unit are numbered as they are found. With
the identity it says that flags and references that are added never remove a member; with another
one, that a unit whose functions are found in another order has the same members.
-/

namespace RenderTrace.ClosureSet

/-- `d` asks for what `c` asks for, and may be more, with the references numbered by `ρ`. -/
structure AtMost (ρ : Nat → Nat) (c d : Candidate) : Prop where
  callees : ∀ b ∈ c.callees, ρ b ∈ d.callees
  tracked : c.tracked = true → d.tracked = true
  nested : c.nested = true → d.nested = true
  render : c.render = true → d.render = true
  hasBody : c.hasBody = true → d.hasBody = true
  /-- Whoever may be brought in by others keeps that. -/
  skipped : d.skipped = true → c.skipped = true

/-- Every candidate has an image that asks for at least as much. -/
def Embeds (ρ : Nat → Nat) (cs ds : List Candidate) : Prop :=
  ∀ (i : Nat) (c : Candidate), cs[i]? = some c → ∃ d, ds[ρ i]? = some d ∧ AtMost ρ c d

variable {ρ : Nat → Nat} {cs ds : List Candidate} {c d : Candidate}

instance : Decidable (AtMost ρ c d) :=
  decidable_of_iff
    ((∀ b ∈ c.callees, ρ b ∈ d.callees) ∧ (c.tracked = true → d.tracked = true) ∧
      (c.nested = true → d.nested = true) ∧ (c.render = true → d.render = true) ∧
      (c.hasBody = true → d.hasBody = true) ∧ (d.skipped = true → c.skipped = true))
    ⟨fun ⟨h1, h2, h3, h4, h5, h6⟩ ↦ ⟨h1, h2, h3, h4, h5, h6⟩,
      fun ⟨h1, h2, h3, h4, h5, h6⟩ ↦ ⟨h1, h2, h3, h4, h5, h6⟩⟩

theorem AtMost.isSeed (h : AtMost ρ c d) (hc : c.isSeed = true) : d.isSeed = true := by
  simp only [Candidate.isSeed, Bool.and_eq_true] at hc ⊢
  exact ⟨⟨h.tracked hc.1.1, h.render hc.1.2⟩, h.hasBody hc.2⟩

theorem AtMost.isIncludable (h : AtMost ρ c d) (hc : c.isIncludable = true) :
    d.isIncludable = true := by
  simp only [Candidate.isIncludable, Bool.and_eq_true, Bool.not_eq_true',
    ← Bool.not_eq_true] at hc ⊢
  exact ⟨⟨h.render hc.1.1, h.hasBody hc.1.2⟩, fun hd ↦ hc.2 (h.skipped hd)⟩

namespace Embeds

variable {n a b : Nat}

theorem isSeed (h : Embeds ρ cs ds) (ha : IsSeed cs a) : IsSeed ds (ρ a) := by
  obtain ⟨c, hc, hseed⟩ := ha
  obtain ⟨d, hd, hcd⟩ := h a c hc
  exact ⟨d, hd, hcd.isSeed hseed⟩

theorem isOrigin (h : Embeds ρ cs ds) (ha : IsOrigin cs a) : IsOrigin ds (ρ a) := by
  obtain ⟨c, hc, hseed, hnested⟩ := ha
  obtain ⟨d, hd, hcd⟩ := h a c hc
  exact ⟨d, hd, hcd.isSeed hseed, hcd.nested hnested⟩

theorem bringsIn (h : Embeds ρ cs ds) (hab : BringsIn cs a b) : BringsIn ds (ρ a) (ρ b) := by
  obtain ⟨c, t, hc, hb, ht, hincl⟩ := hab
  obtain ⟨d, hd, hcd⟩ := h a c hc
  obtain ⟨u, hu, htu⟩ := h b t ht
  exact ⟨d, u, hd, hcd.callees b hb, hu, htu.isIncludable hincl⟩

/-- What is reached is reached on the other side by as many references. -/
theorem reachedIn (h : Embeds ρ cs ds) (hr : ReachedIn cs n a) : ReachedIn ds n (ρ a) := by
  induction hr with
  | origin ho => exact .origin (h.isOrigin ho)
  | step _ hb ih => exact ih.step (h.bringsIn hb)

theorem mem_compute (h : Embeds ρ cs ds) (hcs : Positioned cs) (hds : Positioned ds)
    (ha : a ∈ (compute cs).order) : ρ a ∈ (compute ds).order := by
  rw [mem_compute_iff hcs] at ha
  rw [mem_compute_iff hds]
  rcases ha with hseed | ⟨n, hr⟩
  · exact Or.inl (h.isSeed hseed)
  · exact Or.inr ⟨n, h.reachedIn hr⟩

end Embeds

/-- **Closures grow with their candidates.** Of two lists of equal length in which every function of
the second has at least the references, the flags and the body that it has in the first, and is
skipped only if it is in the first, the closure of the second has every member of that of the
first. -/
theorem compute_subset_of_atMost (hlen : cs.length = ds.length) (hcs : Positioned cs)
    (hds : Positioned ds)
    (hle : ∀ (i : Nat) (c d : Candidate), cs[i]? = some c → ds[i]? = some d → AtMost id c d) :
    ∀ a, (compute cs).contains a = true → (compute ds).contains a = true := by
  have hemb : Embeds id cs ds := fun i c hc ↦ by
    obtain ⟨hlt, -⟩ := List.getElem?_eq_some_iff.1 hc
    have hd := List.getElem?_eq_getElem (hlen ▸ hlt : i < ds.length)
    exact ⟨_, hd, hle i c _ hc hd⟩
  intro a ha
  simp only [contains, List.contains_iff_mem] at ha ⊢
  exact hemb.mem_compute hcs hds ha

/-- The candidates of `cycleOfSeeds` with a body, a reference and a flag more, and nothing
skipped. -/
def openedCycle : List Candidate :=
  [{ id := 0, tracked := true, nested := true, callees := [3, 0, 7] },
    { id := 1, tracked := true, nested := true, callees := [0, 2, 5] },
    { id := 2, callees := [1] },
    { id := 3, callees := [4, 1, 3] },
    { id := 4, callees := [2, 5] },
    { id := 5 }]

theorem compute_subset_openedCycle :
    (compute cycleOfSeeds).order = [0, 1, 3, 4] ∧ (compute openedCycle).order = [0, 1, 3, 2, 5, 4] ∧
      ∀ a, (compute cycleOfSeeds).contains a = true → (compute openedCycle).contains a = true := by
  have hat : ∀ pair ∈ cycleOfSeeds.zip openedCycle, AtMost id pair.1 pair.2 := by decide
  refine ⟨by decide, by decide, compute_subset_of_atMost rfl (by decide) (by decide) ?_⟩
  intro i c d hc hd
  exact hat (c, d) (List.mem_of_getElem? (List.getElem?_zip_eq_some.2 ⟨hc, hd⟩))

end RenderTrace.ClosureSet
