import RenderTrace.Proofs.CallGraph.Callees
import RenderTrace.Proofs.CallGraph.Nearest
import RenderTrace.Proofs.Function.Ancestry
import RenderTrace.Proofs.Syntax.Places

/-!
# References to functions inside functions

A function that is declared inside another one has no path from the top of the unit. So it is not
found by its path but only by its name, and only if nothing is found by path: a render function of
that name in the module of the reference, or in a module around it, stands in front of it, and a path
of more words than the name does not lead to it (`Site.mem_resolvePath_iff_of_inside`).

`CallGraph.build_local` says so about the references in the body in which the function is declared.
There it is joined to the function around it if nothing stands in front.
-/

namespace RenderTrace

open Syntax

namespace Site

/-! ### Functions without a path -/

variable {s : Index} {g : Function} {words : List String} {ctx : Context}

/-- A render function without a path is none that is found by path. -/
theorem not_mem_atPath_of_inside (hn : s.Numbered) (hg : g ∈ s.functions)
    (hpath : g.sourcePath = none) : g.declaration.id ∉ atPath s.functions.toList words := by
  intro hid
  obtain ⟨f, hf, -, hwords, hsame⟩ := mem_atPath_iff.1 hid
  have hfg := hn.getElem?_id (by simpa using hf)
  rw [hsame, hn.getElem?_id hg] at hfg
  obtain rfl := Option.some.inj hfg
  rw [hpath] at hwords
  cases hwords

/-- By their ends, paths lead to a render function without a path only if they are its name. -/
theorem mem_withName_of_inside (hn : s.Numbered) (hg : g ∈ s.functions)
    (hrender : g.declaration.isRender = true) (hkind : g.declaration.kind ≠ .closure)
    (hpath : g.sourcePath = none) {name : String} :
    g.declaration.id ∈ ((withName s.functions.toList name).filter (endsWith words)).map
      (·.declaration.id) ↔ g.declaration.localName = name ∧ words.length = 1 := by
  simp only [withName, List.filter_filter, List.mem_map, List.mem_filter, Bool.and_eq_true,
    bne_iff_ne, beq_iff_eq]
  constructor
  · rintro ⟨f, ⟨hf, hends, ⟨-, -⟩, hname⟩, hsame⟩
    have hfg := hn.getElem?_id (by simpa using hf)
    rw [hsame, hn.getElem?_id hg] at hfg
    obtain rfl := Option.some.inj hfg
    rw [endsWith, hpath, beq_iff_eq] at hends
    exact ⟨hname, hends⟩
  · rintro ⟨hname, hlength⟩
    refine ⟨g, ⟨by simpa using hg, ?_, ⟨hrender, hkind⟩, hname⟩, rfl⟩
    rw [endsWith, hpath, beq_iff_eq]
    exact hlength

/-- A path leads to a render function without a path if it is its name, and no render function has
that path below the module of the reference or one around it. -/
theorem mem_resolvePath_iff_of_inside (hn : s.Numbered) (hg : g ∈ s.functions)
    (hrender : g.declaration.isRender = true) (hkind : g.declaration.kind ≠ .closure)
    (hpath : g.sourcePath = none) :
    g.declaration.id ∈ resolvePath s.functions.toList ctx words ↔
      ∃ base, normalise ctx words = some (base, [g.declaration.localName]) ∧
        ∀ m, m <+: base → ¬ IsAt s.functions.toList (m ++ [g.declaration.localName]) := by
  unfold resolvePath
  cases hnormal : normalise ctx words with
  | none => simp
  | some p =>
    obtain ⟨base, words⟩ := p
    dsimp only
    cases hlast : words.getLast? with
    | none =>
      obtain rfl := List.getLast?_eq_none_iff.1 hlast
      simp
    | some name =>
      dsimp only
      rcases nearest_cases s.functions.toList base words with
        ⟨hnil, hnone⟩ | ⟨m, hm, hnearest, hat, -⟩
      · -- no function has the path, so that names decide, which fit one word only
        rw [hnil, List.isEmpty_nil, Bool.not_true, if_neg Bool.false_ne_true,
          mem_withName_of_inside hn hg hrender hkind hpath]
        constructor
        · rintro ⟨rfl, hlength⟩
          obtain ⟨word, rfl⟩ := List.length_eq_one_iff.1 hlength
          obtain rfl := Option.some.inj hlast
          exact ⟨base, rfl, hnone⟩
        · rintro ⟨base', heq, -⟩
          obtain ⟨rfl, rfl⟩ := Prod.mk.inj (Option.some.inj heq)
          exact ⟨Option.some.inj hlast, rfl⟩
      · -- a function with the path is nearer, and `g` has none
        rw [hnearest, isEmpty_atPath.2 hat, Bool.not_false, if_pos rfl]
        refine iff_of_false (not_mem_atPath_of_inside hn hg hpath) ?_
        rintro ⟨base', heq, hnone⟩
        obtain ⟨rfl, rfl⟩ := Prod.mk.inj (Option.some.inj heq)
        exact hnone m hm hat

end Site

/-! ### Functions of a unit -/

namespace Index

variable {o : Options} {u : SourceUnit} {g : Function}

/-- What the index tells of a function of a unit. -/
theorem exists_tells (h : g ∈ (build o u).functions) : ∃ i w,
    Tells o u.tree u.tree.declaredWays (build o u) i w g := by
  obtain ⟨i, hi⟩ := Array.mem_iff_getElem?.1 h
  obtain ⟨w, -, htells⟩ := (build_tracks o u).tells hi
  exact ⟨i, w, htells⟩

/-- A function inside another one has no path. -/
theorem sourcePath_of_inside (h : g ∈ (build o u).functions)
    (hinside : g.context.enclosing.isSome = true) : g.sourcePath = none := by
  obtain ⟨i, w, htells⟩ := exists_tells h
  rw [htells.sourcePath, if_pos (Or.inr hinside)]

/-- The functions of a unit that is read from a text have names that are no keywords. -/
theorem localName_free {source : String} (hparse : parseUnit source = .ok u)
    (h : g ∈ (build o u).functions) (hkind : g.declaration.kind ≠ .closure) :
    g.declaration.localName ∉ Probe.reserved := by
  obtain ⟨l, hmarks⟩ := exists_marks_eq_zero hparse
  obtain ⟨i, w, htells⟩ := exists_tells h
  obtain ⟨k, cs, hat, hhead, -, hname⟩ := htells.node
  have htree : u.tree.marks l = 0 := hmarks
  have hclosure : g.head.isClosure = false := by simpa [Function.head, Function.isClosure] using hkind
  rw [hname hkind]
  exact Node.declaredName_free hhead (Node.marks_at?_eq_zero htree hat) hclosure

end Index

namespace CallGraph

variable {o : Options} {u : SourceUnit} {f g : Function} {b : Node}

/-- How the references to a function in the body in which it is declared are followed. -/
structure FollowsLocal (index : Index) (f g : Function) (b : Node) : Prop where
  /-- A reference by the name joins the two, if no render function has that path below a module
  around them. -/
  joins : Site.Made index.lookup b (.path [g.declaration.localName] .reference) →
    (∀ m, m <+: f.context.module →
      ¬ Site.IsAt index.functions.toList (m ++ [g.declaration.localName])) →
    (build index).joins f.declaration.id g.declaration.id = true
  /-- Else the name means the functions with that path below the innermost such module, and the
  function is not one of them. -/
  behind (m : List String) : m <+: f.context.module →
    Site.IsAt index.functions.toList (m ++ [g.declaration.localName]) →
    (∀ m', m' <+: f.context.module → m.length < m'.length →
      ¬ Site.IsAt index.functions.toList (m' ++ [g.declaration.localName])) →
    Site.resolvePath index.functions.toList f.context [g.declaration.localName] =
        Site.atPath index.functions.toList (m ++ [g.declaration.localName]) ∧
      g.declaration.id ∉
        Site.resolvePath index.functions.toList f.context [g.declaration.localName]
  /-- A path of a type and the name does not lead to the function, be it a member of that type. -/
  member (type : String) : type ∉ Site.pathWords →
    g.declaration.id ∉
      Site.resolvePath index.functions.toList f.context [type, g.declaration.localName]

/-- The references to a function in the body in which it is declared are followed by its name alone,
where no path stands in front. -/
theorem build_local {source : String} (hparse : parseUnit source = .ok u)
    (hf : f ∈ (Index.build o u).functions) (hg : g ∈ (Index.build o u).functions)
    (hrender : f.declaration.isRender = true) (hrender' : g.declaration.isRender = true)
    (hb : f.body = some b) (hinside : g.context.enclosing = some f.declaration.id)
    (hkind : g.declaration.kind ≠ .closure) : FollowsLocal (Index.build o u) f g b := by
  have hn := Index.build_numbered o u
  have hpath : g.sourcePath = none := Index.sourcePath_of_inside hg (by rw [hinside]; rfl)
  have hwords : Site.pathWords ⊆ Probe.reserved := by decide
  have hname : g.declaration.localName ∉ Site.pathWords := fun hword ↦
    Index.localName_free hparse hg hkind (hwords hword)
  have hnormal (words : List String) {word : String} (hword : word ∉ Site.pathWords) :
      Site.normalise f.context (word :: words) = some (f.context.module, word :: words) :=
    Site.normalise_of_name hword words
  constructor
  · intro hmade hnone
    refine (joins_build_iff_exists_made hf hrender hb).2 ⟨_, hmade, ?_⟩
    exact (Site.mem_resolvePath_iff_of_inside hn hg hrender' hkind hpath).2
      ⟨f.context.module, hnormal [] hname, hnone⟩
  · intro m hm hat hfirst
    have htargets := Site.resolvePath_eq_atPath (hnormal [] hname) (List.cons_ne_nil _ _) hm hat
      hfirst
    rw [htargets]
    exact ⟨rfl, Site.not_mem_atPath_of_inside hn hg hpath⟩
  · intro type htype hid
    obtain ⟨base, heq, -⟩ :=
      (Site.mem_resolvePath_iff_of_inside hn hg hrender' hkind hpath).1 hid
    rw [hnormal [g.declaration.localName] htype] at heq
    cases heq

/-! Units with a function that names one that is declared in its body: by its name, so with another
function of that name in front, and as the member of a type. -/

/-- A function that names the local one in its body. -/
def localText : String :=
  "#[component]\nfn f(cx: H) \x7b\n#[component]\nfn g(cx: H) \x7b\x7d\ng(cx);\n\x7d\n"

/-- The same, with a function of the same name in the module. -/
def shadowedText : String := localText ++ "#[component]\nfn g(cx: H) \x7b\x7d\n"

/-- A function that names a member of a type that is declared in its body. -/
def memberText : String :=
  "#[component]\nfn f(cx: H) \x7b\nimpl T \x7b\n#[component]\nfn g(cx: H) \x7b\x7d\n\x7d\n" ++
    "T::g(cx);\n\x7d\n"

/-- A render function has a path in its body, and in the body a render function is declared. -/
structure NamesLocal (index : Index) (words : List String) (f g : Function) (b : Node) : Prop where
  caller : f ∈ index.functions
  callee : g ∈ index.functions
  rendersCaller : f.declaration.isRender = true
  rendersCallee : g.declaration.isRender = true
  body : f.body = some b
  inside : g.context.enclosing = some f.declaration.id
  made : Site.Made index.lookup b (.path words .reference)

/-- The first function of a unit has a path in its body, and there the second one is declared, with
the name `g`. -/
def namesLocal (words : List String) (kind : FunctionKind) (selfType : Option String)
    (u : SourceUnit) : Bool :=
  let s := Index.build {} u
  (s.functions[0]?.any fun f ↦ f.declaration.isRender && f.declaration.id == 0 &&
    f.body.any fun b ↦ (Site.plainSites (Site.inBody s.lookup b)).contains
      (.path words .reference)) &&
  s.functions[1]?.any fun g ↦ g.declaration.isRender && g.declaration.id == 1 &&
    g.declaration.localName == "g" && g.declaration.kind == kind &&
    g.context == ⟨[], selfType, some 0⟩

theorem exists_of_namesLocal {words : List String} {kind : FunctionKind} {selfType : Option String}
    (h : namesLocal words kind selfType u = true) :
    ∃ f g b, NamesLocal (Index.build {} u) words f g b ∧ g.declaration.localName = "g" ∧
      g.declaration.kind = kind ∧ g.context.selfType = selfType ∧ f.declaration.id = 0 ∧
      g.declaration.id = 1 := by
  unfold namesLocal at h
  obtain ⟨hcaller, hcallee⟩ := Bool.and_eq_true_iff.1 h
  obtain ⟨f, hf, hcaller⟩ := (Option.any_eq_true _ _).1 hcaller
  obtain ⟨g, hg, hcallee⟩ := (Option.any_eq_true _ _).1 hcallee
  simp only [Bool.and_eq_true, beq_iff_eq, Option.any_eq_true, List.contains_iff_mem]
    at hcaller hcallee
  obtain ⟨⟨hrender, hid⟩, b, hb, hmade⟩ := hcaller
  obtain ⟨⟨⟨⟨hrender', hid'⟩, hname⟩, hkind⟩, hcontext⟩ := hcallee
  exact ⟨f, g, b, ⟨Array.mem_of_getElem? hf, Array.mem_of_getElem? hg, hrender, hrender', hb,
    by rw [hid, hcontext], Site.mem_inBody_iff.1 hmade⟩, hname, hkind, by rw [hcontext], hid, hid'⟩

theorem build_local_localText : ∃ u f g b, parseUnit localText = .ok u ∧
    NamesLocal (Index.build {} u) [g.declaration.localName] f g b ∧
    FollowsLocal (Index.build {} u) f g b ∧
    (build (Index.build {} u)).joins f.declaration.id g.declaration.id = true := by
  obtain ⟨u, hparse, hunit⟩ : ∃ u, parseUnit localText = .ok u ∧
      (namesLocal ["g"] .local none u, (build (Index.build {} u)).joins 0 1) = (true, true) :=
    exists_parseUnit_eq_ok rfl (by decide +kernel)
  obtain ⟨hnames, hjoins⟩ := Prod.mk.inj hunit
  obtain ⟨f, g, b, h, hname, hkind, -, hid, hid'⟩ := exists_of_namesLocal hnames
  have hkind : g.declaration.kind ≠ .closure := by rw [hkind]; decide
  exact ⟨u, f, g, b, hparse, hname ▸ h, build_local hparse h.caller h.callee h.rendersCaller
    h.rendersCallee h.body h.inside hkind, by rw [hid, hid', hjoins]⟩

/-- A function that is named in the body in which it is declared need not be joined to the function
around it: another one of that name can stand in front of a local function, and a member of a type
is not found by the type. -/
theorem not_joins_local :
    (¬ ∀ (o : Options) (source : String) (u : SourceUnit), parseUnit source = .ok u →
      ∀ f g b, NamesLocal (Index.build o u) [g.declaration.localName] f g b →
        g.declaration.kind = .local →
        (build (Index.build o u)).joins f.declaration.id g.declaration.id = true) ∧
    ¬ ∀ (o : Options) (source : String) (u : SourceUnit), parseUnit source = .ok u →
      ∀ f g b type, NamesLocal (Index.build o u) [type, g.declaration.localName] f g b →
        g.declaration.kind = .method → g.context.selfType = some type →
        (build (Index.build o u)).joins f.declaration.id g.declaration.id = true := by
  constructor
  · intro hall
    obtain ⟨u, hparse, hunit⟩ : ∃ u, parseUnit shadowedText = .ok u ∧
        (namesLocal ["g"] .local none u, (build (Index.build {} u)).joins 0 1) = (true, false) :=
      exists_parseUnit_eq_ok (append_eq_ofList rfl rfl) (by decide +kernel)
    obtain ⟨hnames, hjoins⟩ := Prod.mk.inj hunit
    obtain ⟨f, g, b, h, hname, hkind, -, hid, hid'⟩ := exists_of_namesLocal hnames
    have hjoined := hall {} shadowedText u hparse f g b (hname ▸ h) hkind
    rw [hid, hid', hjoins] at hjoined
    cases hjoined
  · intro hall
    obtain ⟨u, hparse, hunit⟩ : ∃ u, parseUnit memberText = .ok u ∧
        (namesLocal ["T", "g"] .method (some "T") u, (build (Index.build {} u)).joins 0 1) =
          (true, false) :=
      exists_parseUnit_eq_ok (append_eq_ofList rfl rfl) (by decide +kernel)
    obtain ⟨hnames, hjoins⟩ := Prod.mk.inj hunit
    obtain ⟨f, g, b, h, hname, hkind, hself, hid, hid'⟩ := exists_of_namesLocal hnames
    have hjoined := hall {} memberText u hparse f g b "T" (hname ▸ h) hkind hself
    rw [hid, hid', hjoins] at hjoined
    cases hjoined

end CallGraph

end RenderTrace
