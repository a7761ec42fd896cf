import RenderTrace.Pipeline
import RenderTrace.Proofs.CallGraph.Nearest
import RenderTrace.Proofs.Syntax.Sample

/-!
# Spellings of a path

One path can be written in several ways: from the top of the unit, below the module in which it is
written, with or without the word `self`, below a module around that one, and by the type of `self`
(`Site.Spells`). All of them lead to the same functions, which are those that have the path,
whatever else a unit declares: the path is looked up below the module that it is relative to first,
and there it is found (`Site.resolvePath_of_relative`).

There is one more way, the word `self` in front of the words `super`. After `self` no other word is
taken for a module, so that what is looked up then is a path with the word `super` in it
(`Site.resolvePath_spelled`).
-/

namespace RenderTrace

namespace Site

variable {functions : List Function} {ctx : Context} {words base rest whole : List String}
  {id : FunctionId} {k : Nat}

/-- A path is that of some words below the module that is `k` modules up. -/
structure Above (ctx : Context) (whole : List String) (k : Nat) (rest : List String) : Prop where
  pos : 0 < k
  depth : k ≤ ctx.module.length
  nonempty : rest ≠ []
  /-- The words `super` are all counted. -/
  counted : rest.head? ≠ some "super"
  whole : whole = ctx.module.take (ctx.module.length - k) ++ rest

/-- In a context, words spell a path from the top of the unit. -/
inductive Spells (ctx : Context) (whole : List String) : List String → Prop
  | crate (hwhole : whole ≠ []) : Spells ctx whole ("crate" :: whole)
  | self {rest : List String} (hrest : rest ≠ []) (hwhole : whole = ctx.module ++ rest) :
    Spells ctx whole ("self" :: rest)
  | below {rest : List String} (hrest : rest ≠ []) (hname : ∀ w ∈ rest.head?, w ∉ pathWords)
    (hwhole : whole = ctx.module ++ rest) : Spells ctx whole rest
  | above {k : Nat} {rest : List String} (h : Above ctx whole k rest) :
    Spells ctx whole (List.replicate k "super" ++ rest)
  | ofSelf {type name : String} (htype : ctx.selfType = some type)
    (hwhole : whole = ctx.module ++ [type, name]) : Spells ctx whole ["Self", name]

/-- A spelling of a path is relative to a module below which the path is that of what is left. -/
theorem Spells.exists_relative (h : Spells ctx whole words) :
    ∃ base rest, Relative ctx words base rest ∧ rest ≠ [] ∧ whole = base ++ rest := by
  cases h with
  | crate hwhole => exact ⟨[], whole, .crate whole, hwhole, rfl⟩
  | self hrest hwhole => exact ⟨ctx.module, _, .self _, hrest, hwhole⟩
  | below hrest hname hwhole => exact ⟨ctx.module, words, .name hname, hrest, hwhole⟩
  | above h => exact ⟨_, _, .super h.pos h.counted, h.nonempty, h.whole⟩
  | ofSelf htype hwhole => exact ⟨ctx.module, _, .selfType htype, List.cons_ne_nil _ _, hwhole⟩

/-- A path means what is found below the module that it is relative to, if something is. -/
theorem resolvePath_of_relative (h : Relative ctx words base rest) (hrest : rest ≠ [])
    (hat : IsAt functions (base ++ rest)) :
    resolvePath functions ctx words = atPath functions (base ++ rest) :=
  resolvePath_eq_atPath (normalise_of_relative h) hrest List.prefix_rfl hat
    fun _ hm' hlt ↦ absurd hm'.length_le (Nat.not_le_of_lt hlt)

/-- What is found by a path of several words has a path that ends with them. -/
theorem exists_suffix_of_mem_resolvePath (h : Relative ctx words base rest)
    (hlength : 1 < rest.length) (hid : id ∈ resolvePath functions ctx words) :
    ∃ f ∈ functions, f.declaration.id = id ∧ f.declaration.isRender = true ∧
      ∃ path, f.sourcePath = some path ∧ rest <:+ path := by
  rw [resolvePath, normalise_of_relative h] at hid
  dsimp only at hid
  split at hid
  · exact absurd hid List.not_mem_nil
  rcases nearest_cases functions base rest with ⟨hnil, -⟩ | ⟨m, -, hnearest, hat, -⟩
  · rw [hnil, List.isEmpty_nil, Bool.not_true, if_neg Bool.false_ne_true] at hid
    obtain ⟨f, hf, rfl⟩ := List.mem_map.1 hid
    obtain ⟨hnamed, hends⟩ := List.mem_filter.1 hf
    obtain ⟨hmem, hrender⟩ := List.mem_filter.1 hnamed
    simp only [Bool.and_eq_true] at hrender
    refine ⟨f, hmem, rfl, hrender.1.1, ?_⟩
    unfold endsWith at hends
    split at hends
    · next path hpath => exact ⟨path, hpath, List.isSuffixOf_iff_suffix.1 hends⟩
    · exact absurd (beq_iff_eq.1 hends) (Nat.ne_of_gt hlength)
  · rw [hnearest, isEmpty_atPath.2 hat, Bool.not_false, if_pos rfl] at hid
    obtain ⟨f, hf, hrender, hpath, hsame⟩ := mem_atPath_iff.1 hid
    exact ⟨f, hf, hsame, hrender, m ++ rest, hpath, List.suffix_append m rest⟩

/-- **Spellings of a path.** In every context, the spellings of a path lead to exactly the functions
that have it. A path with the word `self` in front of the words `super` leads at most to functions
that have these words in their own paths. -/
theorem resolvePath_spelled (o : Options) (u : Syntax.SourceUnit) {g : Function}
    (hg : g ∈ (Index.build o u).functions) (hrender : g.declaration.isRender = true)
    {whole : List String} (hpath : g.sourcePath = some whole) (ctx : Context) :
    (∀ words, Spells ctx whole words → (Index.build o u).Lists (·.sourcePath = some whole)
      (resolvePath (Index.build o u).functions.toList ctx words)) ∧
    ∀ k rest, Above ctx whole k rest →
      ∀ id ∈ resolvePath (Index.build o u).functions.toList ctx
          ("self" :: (List.replicate k "super" ++ rest)),
        ∃ f path, (Index.build o u).functions[id]? = some f ∧ f.sourcePath = some path ∧
          List.replicate k "super" ++ rest <:+ path := by
  have hn := Index.build_numbered o u
  constructor
  · intro words hspells
    obtain ⟨base, rest, hrelative, hrest, rfl⟩ := hspells.exists_relative
    rw [resolvePath_of_relative hrelative hrest ⟨g, by simpa using hg, hrender, hpath⟩]
    exact hn.lists fun f ↦ by rw [Bool.and_eq_true, beq_iff_eq]
  · -- several words are left behind `self`, so that one name alone is not enough
    intro k rest habove id hid
    have hlength : 1 < (List.replicate k "super" ++ rest).length := by
      have hpos := habove.pos
      have hnonempty := List.length_pos_iff.2 habove.nonempty
      rw [List.length_append, List.length_replicate]
      omega
    obtain ⟨f, hf, rfl, -, path, hfpath, hsuffix⟩ :=
      exists_suffix_of_mem_resolvePath (.self _) hlength hid
    exact ⟨f, path, hn.getElem?_id (by simpa using hf), hfpath, hsuffix⟩

/-! A function in a module, and two more of its name, in a module below and at the top. -/

/-- A module with a function and a module in it that declares another one of that name. -/
def homonymsText : String :=
  "#[component]\nfn g(cx: H) \x7b\x7d\nmod a \x7b\n#[component]\nfn g(cx: H) \x7b\x7d\n" ++
    "mod b \x7b\n#[component]\nfn g(cx: H) \x7b\x7d\n\x7d\n\x7d\n"

/-- The context of what stands in the inner module. -/
def innerContext : Context := ⟨["a", "b"], none, none⟩

theorem resolvePath_spelled_homonymsText : ∃ u g, parseUnit homonymsText = .ok u ∧
    g ∈ (Index.build {} u).functions ∧ g.declaration.isRender = true ∧
    g.sourcePath = some ["a", "g"] ∧ Above innerContext ["a", "g"] 1 ["g"] ∧
    (Index.build {} u).Lists (·.sourcePath = some ["a", "g"])
      (resolvePath (Index.build {} u).functions.toList innerContext ["super", "g"]) ∧
    resolvePath (Index.build {} u).functions.toList innerContext ["super", "g"] = [1] ∧
    resolvePath (Index.build {} u).functions.toList innerContext ["self", "super", "g"] = [] := by
  obtain ⟨u, hparse, hunit⟩ : ∃ u, parseUnit homonymsText = .ok u ∧
      ((Index.build {} u).functions[1]?.map fun g ↦ (g.declaration.isRender, g.sourcePath),
        resolvePath (Index.build {} u).functions.toList innerContext ["super", "g"],
        resolvePath (Index.build {} u).functions.toList innerContext ["self", "super", "g"]) =
      (some (true, some ["a", "g"]), [1], []) :=
    exists_parseUnit_eq_ok (append_eq_ofList rfl rfl) (by decide +kernel)
  obtain ⟨hfunction, htargets⟩ := Prod.mk.inj hunit
  obtain ⟨hsuper, hself⟩ := Prod.mk.inj htargets
  obtain ⟨g, hg, hsome⟩ := Option.map_eq_some_iff.1 hfunction
  obtain ⟨hrender, hpath⟩ := Prod.mk.inj hsome
  have habove : Above innerContext ["a", "g"] 1 ["g"] :=
    ⟨Nat.one_pos, by decide, by decide, by decide, rfl⟩
  have hmem := Array.mem_of_getElem? hg
  exact ⟨u, g, hparse, hmem, hrender, hpath, habove,
    (resolvePath_spelled {} u hmem hrender hpath innerContext).1 _ (.above habove), hsuper, hself⟩

end Site

end RenderTrace
