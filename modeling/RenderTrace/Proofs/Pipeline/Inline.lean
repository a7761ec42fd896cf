import RenderTrace.Proofs.CallGraph.Callees
import RenderTrace.Proofs.CallGraph.Inline
import RenderTrace.Proofs.Pipeline.Again

/-!
# Closures with and without inline functions

Leaving inline functions out takes functions away from the closure, with one exception. A reference
that finds inline functions only, where they are not left out, is answered by a later stage of the
lookup where they are, and this may bring in a function that nothing referred to before
(`Analysis.Turns`). Without such a reference every member stays a member when inline functions are
no longer left out (`Analysis.closure_unlessInline`).

The argument follows the way on which a member is reached. As long as the references on it are
answered by the same stage, each step on it is a step where inline functions are not left out.
-/

namespace RenderTrace

open Syntax ClosureSet

namespace Analysis

variable {o : Options} {u : SourceUnit}

/-! ### What brings in what -/

/-- The callees of a function are what the sites in its body refer to, if it renders. -/
theorem mem_callees_iff {f : Function} (hf : f ∈ (Index.build o u).functions) {b : FunctionId} :
    b ∈ (candidate (CallGraph.build (Index.build o u)) f).callees ↔
      f.declaration.isRender = true ∧ ∃ body, f.body = some body ∧
        ∃ s ∈ Site.sites (Site.inBody (Index.build o u).lookup body),
          b ∈ (s.resolve (Index.build o u).functions.toList f.context).1 := by
  have hjoins : b ∈ (candidate (CallGraph.build (Index.build o u)) f).callees ↔
      (CallGraph.build (Index.build o u)).joins f.declaration.id b = true := by
    simp [candidate, CallGraph.edgesFrom, CallGraph.joins_iff, and_assoc]
  rw [hjoins]
  constructor
  · intro h
    obtain ⟨g, hg, e, he, hcaller, rfl⟩ := CallGraph.joins_build_iff.1 h
    obtain ⟨hrender, body, hbody, s, hs, callee, hcallee, rfl⟩ := CallGraph.mem_edgesOf_iff.1 he
    have hn := Index.build_numbered o u
    obtain rfl : g = f := Option.some.inj <| by
      rw [← hn.getElem?_id hg, ← hn.getElem?_id hf, ← hcaller]
    exact ⟨hrender, body, hbody, s, hs, hcallee⟩
  · rintro ⟨hrender, body, hbody, s, hs, hb⟩
    exact CallGraph.joins_build_iff.2
      ⟨f, hf, _, CallGraph.mem_edgesOf_iff.2 ⟨hrender, body, hbody, s, hs, b, hb, rfl⟩, rfl, rfl⟩

/-! ### The two analyses -/

variable (o u) in
/-- The analysis where inline functions are not left out. -/
def plain : Analysis := run { o with skipInline := false } u

variable (o u) in
/-- The analysis where inline functions are left out. -/
def unlessInline : Analysis := run { o with skipInline := true } u

variable (o u) in
/-- A reference `s` in the body of `f` turns to `t` where inline functions are left out: otherwise
it refers to inline functions only. Both closures have `f`, and `t` is brought in by the one; the
other one has it at most because it is tracked itself. -/
structure Turns (f : Function) (s : Site) (t : FunctionId) : Prop where
  function : (plain o u).function? f.declaration.id = some f
  member : f.declaration.id ∈ (plain o u).closure.order
  member' : f.declaration.id ∈ (unlessInline o u).closure.order
  stands : ∃ body, f.body = some body ∧ s ∈ Site.sites (Site.inBody (plain o u).lookup body)
  refers : (s.resolve (plain o u).functions.toList f.context).1 ≠ []
  inline : Site.AllInline (plain o u).functions.toList
    (s.resolve (plain o u).functions.toList f.context).1
  turned : t ∈ (s.resolve (unlessInline o u).functions.toList f.context).1
  target' : t ∈ (unlessInline o u).closure.order
  target : t ∈ (plain o u).closure.order →
    ∃ g, (plain o u).function? t = some g ∧ g.tracking.isTracked = true

theorem functions_unlessInline :
    (unlessInline o u).functions = (plain o u).functions.map Function.unlessInline :=
  Index.build_functions_skipInline o u

theorem function?_unlessInline (i : FunctionId) :
    (unlessInline o u).function? i = ((plain o u).function? i).map Function.unlessInline := by
  rw [function?, functions_unlessInline, Array.getElem?_map]
  rfl

variable (o u) in
/-- A candidate where inline functions are left out is one where they are not. -/
theorem getElem?_candidates_unlessInline {i : Nat} {c : Candidate}
    (h : (candidates (unlessInline o u).index)[i]? = some c) :
    ∃ f, (plain o u).function? i = some f ∧
      candidate (unlessInline o u).callGraph f.unlessInline = c ∧
      (candidates (plain o u).index)[i]? = some (candidate (plain o u).callGraph f) := by
  rw [getElem?_candidates, ← functions, ← function?, function?_unlessInline] at h
  cases hf : (plain o u).function? i with
  | none => simp [hf] at h
  | some f =>
    rw [hf] at h
    refine ⟨f, rfl, Option.some.inj h, ?_⟩
    rw [getElem?_candidates, ← functions, ← function?, hf]
    rfl

section Flags

variable {f : Function} {g g' : CallGraph}

theorem isSeed_of_unlessInline (h : (candidate g' f.unlessInline).isSeed = true) :
    (candidate g f).isSeed = true := by
  simp only [Candidate.isSeed, candidate, Function.unlessInline, Bool.and_eq_true] at h ⊢
  exact ⟨⟨h.1.1, h.1.2.1⟩, h.2⟩

theorem isIncludable_of_unlessInline (h : (candidate g' f.unlessInline).isIncludable = true) :
    (candidate g f).isIncludable = true := by
  simp only [Candidate.isIncludable, candidate, Function.unlessInline, Bool.and_eq_true] at h ⊢
  exact ⟨⟨h.1.1.1, h.1.2⟩, h.2⟩

end Flags

/-! ### The way on which a member is reached -/

variable {a b n : Nat}

theorem isSeed_plain (h : IsSeed (candidates (unlessInline o u).index) a) :
    IsSeed (candidates (plain o u).index) a := by
  obtain ⟨c, hc, hseed⟩ := h
  obtain ⟨f, -, rfl, hplain⟩ := getElem?_candidates_unlessInline o u hc
  exact ⟨_, hplain, isSeed_of_unlessInline hseed⟩

theorem isOrigin_plain (h : IsOrigin (candidates (unlessInline o u).index) a) :
    IsOrigin (candidates (plain o u).index) a := by
  obtain ⟨c, hc, hseed, hnested⟩ := h
  obtain ⟨f, -, rfl, hplain⟩ := getElem?_candidates_unlessInline o u hc
  exact ⟨_, hplain, isSeed_of_unlessInline hseed, hnested⟩

/-- A step without inline functions is one with them, unless the reference found inline functions
only. -/
theorem bringsIn_plain (h : BringsIn (candidates (unlessInline o u).index) a b) :
    BringsIn (candidates (plain o u).index) a b ∨
      ∃ f s, (plain o u).function? a = some f ∧
        (∃ body, f.body = some body ∧ s ∈ Site.sites (Site.inBody (plain o u).lookup body)) ∧
        (s.resolve (plain o u).functions.toList f.context).1 ≠ [] ∧
        Site.AllInline (plain o u).functions.toList
          (s.resolve (plain o u).functions.toList f.context).1 ∧
        b ∈ (s.resolve (unlessInline o u).functions.toList f.context).1 := by
  obtain ⟨c, t, hc, hb, ht, hincl⟩ := h
  obtain ⟨f, hf, rfl, hplain⟩ := getElem?_candidates_unlessInline o u hc
  obtain ⟨g, -, rfl, hplain'⟩ := getElem?_candidates_unlessInline o u ht
  have hmem : f ∈ (plain o u).functions := Array.mem_of_getElem? hf
  have hmem' : f.unlessInline ∈ (unlessInline o u).functions := by
    rw [functions_unlessInline]
    exact Array.mem_map_of_mem hmem
  obtain ⟨hrender, body, hbody, s, hs, hb⟩ := (mem_callees_iff hmem').1 hb
  rw [Index.lookup_skipInline] at hs
  have hnarrows := Site.resolve_narrows (plain o u).functions.toList f.context s
  rw [← Array.toList_map, ← functions_unlessInline] at hnarrows
  cases hnarrows with
  | kept _ hsub =>
    refine Or.inl ⟨_, _, hplain, (mem_callees_iff hmem).2 ⟨?_, body, hbody, s, hs, hsub hb⟩, hplain',
      isIncludable_of_unlessInline hincl⟩
    exact (Bool.and_eq_true_iff.1 hrender).1
  | gone hne hinline => exact Or.inr ⟨f, s, hf, ⟨body, hbody, hs⟩, hne, hinline, hb⟩
  | none _ hnil' => exact absurd (hnil' ▸ hb) List.not_mem_nil

theorem mem_closure_iff : a ∈ (run o u).closure.order ↔
    IsSeed (candidates (run o u).index) a ∨ ∃ n, ReachedIn (candidates (run o u).index) (n + 1) a :=
  mem_compute_iff (candidates_positioned o u)

theorem mem_closure_of_reachedIn (h : ReachedIn (candidates (run o u).index) n a) :
    a ∈ (run o u).closure.order := by
  rw [mem_closure_iff]
  cases h with
  | origin ho => exact Or.inl ho.isSeed
  | step hr hb => exact Or.inr ⟨_, hr.step hb⟩

/-- A member that is not reached is a seed. -/
theorem exists_tracked_of_mem_closure (ha : a ∈ (run o u).closure.order)
    (hreached : ¬ ∃ n, ReachedIn (candidates (run o u).index) n a) :
    ∃ f, (run o u).function? a = some f ∧ f.tracking.isTracked = true := by
  rcases mem_closure_iff.1 ha with ⟨c, hc, hseed⟩ | ⟨n, hr⟩
  · rw [getElem?_candidates, Option.map_eq_some_iff] at hc
    obtain ⟨f, hf, rfl⟩ := hc
    simp only [Candidate.isSeed, Bool.and_eq_true] at hseed
    exact ⟨f, hf, hseed.1.1⟩
  · exact absurd ⟨_, hr⟩ hreached

/-- What is reached without inline functions is reached with them, or a reference turns. -/
theorem reachedIn_plain (h : ReachedIn (candidates (unlessInline o u).index) n a) :
    (∃ m, ReachedIn (candidates (plain o u).index) m a) ∨ ∃ f s t, Turns o u f s t := by
  induction h with
  | origin ho => exact Or.inl ⟨0, .origin (isOrigin_plain ho)⟩
  | @step n a b hr hb ih =>
    rcases ih with ⟨m, hplain⟩ | hturns
    · by_cases hreached : ∃ m, ReachedIn (candidates (plain o u).index) m b
      · exact Or.inl hreached
      · rcases bringsIn_plain hb with hb' | ⟨f, s, hf, hstands, hne, hinline, ht⟩
        · exact Or.inl ⟨_, hplain.step hb'⟩
        · obtain rfl := (Index.build_numbered _ u a f hf).1
          exact Or.inr ⟨f, s, b,
            { function := hf
              member := mem_closure_of_reachedIn hplain
              member' := mem_closure_of_reachedIn hr
              stands := hstands
              refers := hne
              inline := hinline
              turned := ht
              target' := mem_closure_of_reachedIn (hr.step hb)
              target := fun hmem ↦ exists_tracked_of_mem_closure hmem hreached }⟩
    · exact Or.inr hturns

/-- **Leaving inline functions out takes members away, unless a reference turns.** The two analyses
find the same functions with the same numbers, which differ in whether inline ones render. Each
member of the closure without inline functions is one of the closure with them, or there is a
reference that turns from inline functions to another one. -/
theorem closure_unlessInline (o : Options) (u : SourceUnit) :
    (unlessInline o u).functions = (plain o u).functions.map Function.unlessInline ∧
    ((∀ id ∈ (unlessInline o u).closure.order, id ∈ (plain o u).closure.order) ∨
      ∃ f s t, Turns o u f s t) := by
  refine ⟨functions_unlessInline, ?_⟩
  by_cases hturns : ∃ f s t, Turns o u f s t
  · exact Or.inr hturns
  · refine Or.inl fun id hid ↦ ?_
    rcases mem_closure_iff.1 hid with hseed | ⟨n, hr⟩
    · exact mem_closure_iff.2 (Or.inl (isSeed_plain hseed))
    · obtain ⟨m, hr'⟩ := (reachedIn_plain hr).resolve_right hturns
      exact mem_closure_of_reachedIn hr'

/-! ### Two functions of one name -/

/-- A tracked function that calls an inline one, and a function of the same name in a module. -/
def sameNameText : String :=
  "#[component]\n#[track_recompositions(true)]\nfn f() \x7b g() \x7d\n" ++
  "#[component]\n#[inline]\nfn g() \x7b\x7d\n" ++
  "mod m \x7b\n    #[component]\n    fn g() \x7b\x7d\n\x7d\n"

/-- A closure can have a member only because inline functions are left out. -/
theorem closure_grows_sameNameText : ¬ ∀ (o : Options) (text : String) (u : SourceUnit),
    SourceUnit.parse text = .ok u →
      ∀ id ∈ (unlessInline o u).closure.order, id ∈ (plain o u).closure.order := by
  intro hall
  have hparse : ∃ u, SourceUnit.parse sameNameText = .ok u ∧
      ((unlessInline {} u).closure.order, (plain {} u).closure.order) = ([0, 2], [0, 1]) :=
    exists_parse_eq_ok (append_eq_ofList (append_eq_ofList rfl rfl) rfl) (by decide +kernel)
  obtain ⟨u, hparse, hclosures⟩ := hparse
  obtain ⟨hunless, hplain⟩ := Prod.mk.inj hclosures
  have hmem := hall {} sameNameText u hparse 2
  rw [hunless, hplain] at hmem
  exact absurd (hmem (by decide)) (by decide)

end Analysis

end RenderTrace
