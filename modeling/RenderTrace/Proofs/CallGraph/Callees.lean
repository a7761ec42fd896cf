import RenderTrace.Proofs.CallGraph.Edges
import RenderTrace.Proofs.CallGraph.Standing
import RenderTrace.Proofs.Syntax.Sample

/-!
# Callers and callees

Which functions the graph of a unit joins, told by the tree. A render function with a body has the
functions as callees to which the sites made in its body refer, where the declared closures are
shut: no reference is lost there, and none is added (`CallGraph.joins_build_iff_exists_made`).

A closure is declared by its marker alone, and a further marker or an option can still make it no
render function. Then it is shut all the same, and what it refers to is not found
(`CallGraph.build_callees`); and such closures are the only callees that are no render functions
(`CallGraph.build_ends`).
-/

namespace RenderTrace

open Syntax

namespace Index

/-- Whether the function of a number is a render function. -/
def renders (index : Index) (id : FunctionId) : Bool :=
  index.functions[id]?.any (·.declaration.isRender)

/-- The function of a number is a render function with this body. -/
def RendersBody (index : Index) (id : FunctionId) (b : Node) : Prop :=
  ∃ f, index.functions[id]? = some f ∧ f.declaration.isRender = true ∧ f.body = some b

theorem renders_of_getElem? {index : Index} {id : FunctionId} {f : Function}
    (h : index.functions[id]? = some f) : index.renders id = f.declaration.isRender := by
  rw [renders, h, Option.any_some]

end Index

namespace Site

variable {lookup : Location → Option FunctionId} {shut shut' : Node → Bool} {n m : Node}
  {id : FunctionId}

/-- A literal is made by a declared closure. -/
theorem madeBy?_eq_literal :
    madeBy? lookup n = some (.literal id) ↔ declared? lookup n = some id := by
  cases n with
  | node k cs =>
    cases k <;> simp [madeBy?, formOf, declared?, Node.is, Node.kind?]
  | _ => simp [madeBy?, declared?, Node.is, Node.kind?]

/-- A site is met in a body if it is made there, up to the use of a path. -/
theorem exists_mem_sites_iff {functions : List Function} {ctx : Context} {b : Node} :
    (∃ s ∈ sites (inBody lookup b), id ∈ (s.resolve functions ctx).1) ↔
      ∃ s, Made lookup b s ∧ id ∈ (s.resolve functions ctx).1 := by
  simp only [← mem_inBody_iff, plainSites, List.mem_map]
  constructor
  · rintro ⟨s, hs, hid⟩
    exact ⟨s.plain, ⟨s, hs, rfl⟩, by rwa [resolve_plain]⟩
  · rintro ⟨_, ⟨s, hs, rfl⟩, hid⟩
    exact ⟨s, hs, by rwa [resolve_plain] at hid⟩

/-- A node stands in a part of another one. -/
def StandsInside (shut : Node → Bool) (n m : Node) : Prop := ∃ c ∈ parts shut n, Stands shut c m

/-- A part is missing only if its node is shut. -/
theorem shut_of_mem_parts {c : Node} (hc : c ∈ parts shut n) (hc' : c ∉ parts shut' n) :
    shut n = false ∧ shut' n = true := by
  cases n with
  | node k cs =>
    simp only [parts] at hc hc'
    cases hk : formOf k with
    | closure => cases h : shut (.node k cs) <;> cases h' : shut' (.node k cs) <;> simp_all
    | _ => simp_all
  | group d cs => exact absurd hc hc'
  | _ => exact absurd hc List.not_mem_nil

/-- What stands in a tree if some closures are shut does so if others are, or it stands inside one
of those. -/
theorem Stands.or_inside (shut' : Node → Bool) (h : Stands shut n m) : Stands shut' n m ∨
    ∃ c, Stands shut' n c ∧ shut c = false ∧ shut' c = true ∧ StandsInside shut c m := by
  induction h with
  | refl n => exact Or.inl (.refl n)
  | @step n c m hc hrest ih =>
    by_cases hc' : c ∈ parts shut' n
    · rcases ih with hstands | ⟨d, hd, hshut⟩
      · exact Or.inl (.step hc' hstands)
      · exact Or.inr ⟨d, .step hc' hd, hshut⟩
    · obtain ⟨hopen, hshut⟩ := shut_of_mem_parts hc hc'
      exact Or.inr ⟨n, .refl n, hopen, hshut, c, hc, hrest⟩

/-- A node is a closure that is a render function of an index. -/
def isRendered (index : Index) (n : Node) : Bool :=
  (declared? index.lookup n).any index.renders

end Site

namespace CallGraph

open Quotation

variable {o : Options} {u : SourceUnit}

/-- A render function with a body has as callees what the sites made in its body refer to. -/
theorem joins_build_iff_exists_made {f : Function} (hf : f ∈ (Index.build o u).functions)
    (hrender : f.declaration.isRender = true) {b : Node} (hb : f.body = some b)
    {callee : FunctionId} :
    (build (Index.build o u)).joins f.declaration.id callee = true ↔
      ∃ s, Site.Made (Index.build o u).lookup b s ∧
        callee ∈ (s.resolve (Index.build o u).functions.toList f.context).1 := by
  have hn := Index.build_numbered o u
  rw [joins_build_iff, ← Site.exists_mem_sites_iff]
  constructor
  · rintro ⟨g, hg, e, he, hcaller, rfl⟩
    obtain ⟨-, b', hb', s, hs, callee, hcallee, rfl⟩ := mem_edgesOf_iff.1 he
    obtain rfl : g = f := by
      have hgf := hn.getElem?_id hg
      rw [show g.declaration.id = f.declaration.id from hcaller, hn.getElem?_id hf] at hgf
      exact (Option.some.inj hgf).symm
    obtain rfl : b' = b := Option.some.inj (hb'.symm.trans hb)
    exact ⟨s, hs, hcallee⟩
  · rintro ⟨s, hs, hcallee⟩
    exact ⟨f, hf, _, mem_edgesOf_iff.2 ⟨hrender, b, hb, s, hs, callee, hcallee, rfl⟩, rfl, rfl⟩

/-- A closure that stands in the body of a render function and is declared is a callee. -/
theorem joins_of_declared {f : Function} (hf : f ∈ (Index.build o u).functions)
    (hrender : f.declaration.isRender = true) {b : Node} (hb : f.body = some b) {n : Node}
    (hn : Site.Stands (Site.isDeclared (Index.build o u).lookup) b n) {callee : FunctionId}
    (hcallee : Site.declared? (Index.build o u).lookup n = some callee) :
    (build (Index.build o u)).joins f.declaration.id callee = true :=
  (joins_build_iff_exists_made hf hrender hb).2
    ⟨.literal callee, ⟨n, hn, Site.madeBy?_eq_literal.2 hcallee⟩, List.mem_singleton_self _⟩

/-- How the callees of a function answer to the references in its body. -/
structure Followed (index : Index) (f : Function) (b : Node) : Prop where
  /-- The callees are what the sites refer to that stand in the body with the declared closures
  shut. -/
  joins_iff (callee : FunctionId) : (build index).joins f.declaration.id callee = true ↔
    ∃ n s, Site.Stands (Site.isDeclared index.lookup) b n ∧
      Site.madeBy? index.lookup n = some s ∧
      callee ∈ (s.resolve index.functions.toList f.context).1
  /-- Of the sites that stand in the body with those closures shut that are render functions, all
  are followed but the ones inside a closure that is declared and is no render function. Such a
  closure is a callee itself. -/
  joins_or_inside (n : Node) : Site.Stands (Site.isRendered index) b n →
    (∀ s, Site.madeBy? index.lookup n = some s →
      ∀ callee ∈ (s.resolve index.functions.toList f.context).1,
        (build index).joins f.declaration.id callee = true) ∨
    ∃ c id, Site.Stands (Site.isDeclared index.lookup) b c ∧
      Site.declared? index.lookup c = some id ∧ index.renders id = false ∧
      (build index).joins f.declaration.id id = true ∧
      Site.StandsInside (Site.isRendered index) c n

/-- The callees of a render function with a body answer to the references in it. -/
theorem build_callees {f : Function} (hf : f ∈ (Index.build o u).functions)
    (hrender : f.declaration.isRender = true) {b : Node} (hb : f.body = some b) :
    Followed (Index.build o u) f b where
  joins_iff callee := by
    rw [joins_build_iff_exists_made hf hrender hb]
    constructor
    · rintro ⟨s, ⟨n, hstands, hmade⟩, hcallee⟩
      exact ⟨n, s, hstands, hmade, hcallee⟩
    · rintro ⟨n, s, hstands, hmade, hcallee⟩
      exact ⟨s, ⟨n, hstands, hmade⟩, hcallee⟩
  joins_or_inside n hn := by
    rcases hn.or_inside (Site.isDeclared (Index.build o u).lookup) with
      hstands | ⟨c, hc, hopen, hshut, hinside⟩
    · refine Or.inl fun s hmade callee hcallee ↦ ?_
      exact (joins_build_iff_exists_made hf hrender hb).2 ⟨s, ⟨n, hstands, hmade⟩, hcallee⟩
    · -- the node stands inside a closure that is declared, and this one is a callee
      obtain ⟨id, hid⟩ := Option.isSome_iff_exists.1 hshut
      refine Or.inr ⟨c, id, hc, hid, ?_, joins_of_declared hf hrender hb hc hid, hinside⟩
      rwa [Site.isRendered, hid, Option.any_some] at hopen

/-! A closure with two markers, of which one makes it no render function: it is declared, so what it
calls is not called by the function around it. -/

/-- A render function whose value is a closure that is marked as a component that only reads, and
the render function that this closure calls. -/
def readingUnit : SourceUnit :=
  let reads : Node := thunk 2 ["component", "read_only_component"] (call (name "label") [])
  unitOf [function 1 ["component"] "panel" [] [value reads], function 3 ["component"] "label" [] []]

theorem build_callees_readingUnit : ∃ f b, f ∈ (Index.build {} readingUnit).functions ∧
    f.declaration.isRender = true ∧ f.body = some b ∧
    Followed (Index.build {} readingUnit) f b ∧ f.declaration.localName = "panel" ∧
    (Index.build {} readingUnit).renders 1 = false ∧
    (build (Index.build {} readingUnit)).edges = [⟨f.declaration.id, 1, .functionLiteral⟩] := by
  have hpanel : ((Index.build {} readingUnit).functions[0]?.any fun f ↦
      f.declaration.isRender && f.body.isSome && f.declaration.localName == "panel" &&
        f.declaration.id == 0) = true := by decide +kernel
  obtain ⟨f, hf, hpanel⟩ := (Option.any_eq_true _ _).1 hpanel
  simp only [Bool.and_eq_true, beq_iff_eq] at hpanel
  obtain ⟨⟨⟨hrender, hbody⟩, hname⟩, hid⟩ := hpanel
  obtain ⟨b, hb⟩ := Option.isSome_iff_exists.1 hbody
  have hmem := Array.mem_of_getElem? hf
  have hedges : (build (Index.build {} readingUnit)).edges = [⟨0, 1, .functionLiteral⟩] := by
    decide +kernel
  exact ⟨f, b, hmem, hrender, hb, build_callees hmem hrender hb, hname, by decide +kernel,
    by rw [hedges, hid]⟩

/-- An edge leads from a render function with a body to a render function, or as a literal to a
closure that stands in the body. -/
theorem ends_of_mem_build {e : Edge} (he : e ∈ (build (Index.build o u)).edges) :
    ∃ b, (Index.build o u).RendersBody e.caller b ∧
      ((Index.build o u).renders e.callee = true ∨ e.kind = .functionLiteral ∧
        ∃ n, Site.Stands (Site.isDeclared (Index.build o u).lookup) b n ∧
          Site.declared? (Index.build o u).lookup n = some e.callee) := by
  have hn := Index.build_numbered o u
  obtain ⟨f, hf, hasked⟩ := exists_asked_of_mem_build he
  obtain ⟨hrender, b, hb, s, hs, callee, hcallee, rfl⟩ := mem_edgesOf_iff.1 hasked
  refine ⟨b, ⟨f, hn.getElem?_id hf, hrender, hb⟩, ?_⟩
  by_cases hliteral : ∃ id, s = .literal id
  · obtain ⟨id, rfl⟩ := hliteral
    obtain rfl : callee = id := List.mem_singleton.1 hcallee
    obtain ⟨n, hstands, hmade⟩ : Site.Made (Index.build o u).lookup b (.literal callee) :=
      Site.mem_inBody_iff.1 (List.mem_map_of_mem hs)
    exact Or.inr ⟨rfl, n, hstands, Site.madeBy?_eq_literal.1 hmade⟩
  · obtain ⟨g, hg, hgrender, rfl⟩ :=
      Site.exists_render_of_mem_resolve (fun id hid ↦ hliteral ⟨id, hid⟩) hcallee
    refine Or.inl ?_
    rwa [Index.renders_of_getElem? (hn.getElem?_id (by simpa using hg))]

/-- The edges of a graph lead from render functions with a body to render functions, or as literals
to closures that are declared in the body of the caller. So all callees are render functions if and
only if all declared closures are that stand in the body of a render function. -/
theorem build_ends (o : Options) (u : SourceUnit) :
    (∀ e ∈ (build (Index.build o u)).edges, ∃ b, (Index.build o u).RendersBody e.caller b ∧
      ((Index.build o u).renders e.callee = true ∨ e.kind = .functionLiteral ∧
        ∃ n, Site.Stands (Site.isDeclared (Index.build o u).lookup) b n ∧
          Site.declared? (Index.build o u).lookup n = some e.callee)) ∧
    ((∀ e ∈ (build (Index.build o u)).edges, (Index.build o u).renders e.callee = true) ↔
      ∀ caller b, (Index.build o u).RendersBody caller b →
        ∀ n, Site.Stands (Site.isDeclared (Index.build o u).lookup) b n →
          ∀ id, Site.declared? (Index.build o u).lookup n = some id →
            (Index.build o u).renders id = true) := by
  refine ⟨fun e he ↦ ends_of_mem_build he, fun hall caller b hb n hn id hid ↦ ?_,
    fun hall e he ↦ ?_⟩
  · -- a closure that is declared in a body is a callee itself
    obtain ⟨f, hf, hrender, hb⟩ := hb
    obtain ⟨e, he, -, rfl⟩ :=
      joins_iff.1 (joins_of_declared (Array.mem_of_getElem? hf) hrender hb hn hid)
    exact hall e he
  · obtain ⟨b, hb, hrender | ⟨-, n, hn, hid⟩⟩ := ends_of_mem_build he
    · exact hrender
    · exact hall e.caller b hb n hn e.callee hid

end CallGraph

end RenderTrace
