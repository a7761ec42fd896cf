import RenderTrace.Proofs.CallGraph.Edges
import RenderTrace.Proofs.Function.Inline

/-!
# References with and without inline functions

A reference is looked up in stages, and the first stage that finds anything answers it. Without
inline functions a stage finds less, so either the same stage answers with some of what it found
before, or it found inline functions only and a later stage answers in its place. `Site.Narrows`
says this of two answers. It holds of a single stage (`Site.narrows_filter`) and of one stage behind
another (`Site.Narrows.orElse`), and so of every reference (`Site.resolve_narrows`).
-/

namespace RenderTrace.Site

/-- All of these are inline functions. -/
def AllInline (functions : List Function) (ids : List FunctionId) : Prop :=
  ∀ id ∈ ids, ∃ f ∈ functions, f.declaration.id = id ∧ f.declaration.isInline = true

/-- How an answer without inline functions relates to the one with them. -/
inductive Narrows (functions : List Function) (found found' : List FunctionId) : Prop where
  /-- Some of what was found is still found. -/
  | kept : found' ≠ [] → found' ⊆ found → Narrows functions found found'
  /-- What was found is inline. -/
  | gone : found ≠ [] → AllInline functions found → Narrows functions found found'
  /-- Nothing is found in both cases. -/
  | none : found = [] → found' = [] → Narrows functions found found'

variable {functions : List Function} {found found' later later' : List FunctionId}

/-- What one stage found, or else what the next one did. -/
theorem Narrows.orElse (h : Narrows functions found found') (hlater : Narrows functions later later') :
    Narrows functions (if !found.isEmpty then found else later)
      (if !found'.isEmpty then found' else later') := by
  cases h with
  | kept hne hsub =>
    have hne' : found ≠ [] := fun hnil ↦ hne (List.subset_nil.1 (hnil ▸ hsub))
    simpa [hne, hne'] using kept hne hsub
  | gone hne hinline => simpa [hne] using gone hne hinline
  | none hnil hnil' => simpa [hnil, hnil'] using hlater

/-- One stage: the render functions with a property that leaving inline functions out keeps. -/
theorem narrows_filter (functions : List Function) (keep : Function → Bool)
    (hkeep : ∀ f : Function, keep f.unlessInline = keep f) :
    Narrows functions
      ((functions.filter fun f ↦ f.declaration.isRender && keep f).map (·.declaration.id))
      (((functions.map Function.unlessInline).filter fun f ↦
        f.declaration.isRender && keep f).map (·.declaration.id)) := by
  have hleft : ((functions.map Function.unlessInline).filter fun f ↦
      f.declaration.isRender && keep f).map (·.declaration.id) =
      ((functions.filter fun f ↦ f.declaration.isRender && keep f).filter
        (!·.declaration.isInline)).map (·.declaration.id) := by
    rw [List.filter_map, List.map_map, List.filter_filter]
    refine congrArg _ (List.filter_congr fun f _ ↦ ?_)
    rw [Function.comp_apply, hkeep, Bool.and_left_comm, ← Bool.and_assoc]
    rfl
  rw [hleft]
  set stage := functions.filter fun f ↦ f.declaration.isRender && keep f with hstage
  by_cases hleft : stage.filter (!·.declaration.isInline) = []
  · by_cases hnil : stage = []
    · exact .none (by simp [hnil]) (by simp [hnil])
    · refine .gone (by simpa using hnil) ?_
      rw [AllInline, List.forall_mem_map]
      intro f hf
      have hinline := List.filter_eq_nil_iff.1 hleft f hf
      exact ⟨f, (List.mem_filter.1 hf).1, rfl, by simpa using hinline⟩
  · exact .kept (by simpa using hleft) (List.map_subset _ List.filter_sublist.subset)

theorem atPath_narrows (functions : List Function) (words : List String) :
    Narrows functions (atPath functions words)
      (atPath (functions.map Function.unlessInline) words) :=
  narrows_filter functions (fun f ↦ f.sourcePath == some words) fun _ ↦ rfl

theorem nearest_narrows (functions : List Function) (base words : List String) :
    Narrows functions (nearest functions base words)
      (nearest (functions.map Function.unlessInline) base words) := by
  unfold nearest
  induction ancestors base with
  | nil => exact .none rfl rfl
  | cons b bs ih =>
    have hstep : ∀ fs : List Function,
        (((b :: bs).map fun b ↦ atPath fs (b ++ words)).find? (!·.isEmpty)).getD [] =
          if !(atPath fs (b ++ words)).isEmpty then atPath fs (b ++ words)
          else ((bs.map fun b ↦ atPath fs (b ++ words)).find? (!·.isEmpty)).getD [] := by
      intro fs
      rw [List.map_cons, List.find?_cons]
      cases !(atPath fs (b ++ words)).isEmpty <;> rfl
    rw [hstep, hstep]
    exact (atPath_narrows functions (b ++ words)).orElse ih

/-- The render functions of a name that have a property. -/
theorem withName_narrows (functions : List Function) (name : String) (keep : Function → Bool)
    (hkeep : ∀ f : Function, keep f.unlessInline = keep f) :
    Narrows functions (((withName functions name).filter keep).map (·.declaration.id))
      (((withName (functions.map Function.unlessInline) name).filter keep).map
        (·.declaration.id)) := by
  have hwith : ∀ fs : List Function, (withName fs name).filter keep =
      fs.filter fun f ↦ f.declaration.isRender &&
        (f.declaration.kind != .closure && f.declaration.localName == name && keep f) := by
    intro fs
    rw [withName, List.filter_filter]
    refine List.filter_congr fun f _ ↦ ?_
    simp only [Bool.and_assoc, Bool.and_comm (keep f)]
  rw [hwith, hwith]
  refine narrows_filter functions _ fun f ↦ ?_
  rw [hkeep]
  rfl

theorem resolvePath_narrows (functions : List Function) (ctx : Context) (words : List String) :
    Narrows functions (resolvePath functions ctx words)
      (resolvePath (functions.map Function.unlessInline) ctx words) := by
  unfold resolvePath
  split
  · exact .none rfl rfl
  · split
    · exact .none rfl rfl
    · exact (nearest_narrows functions _ _).orElse (withName_narrows functions _ _ fun _ ↦ rfl)

theorem resolveMethod_narrows (functions : List Function) (ctx : Context) (name : String)
    (onSelf : Bool) :
    Narrows functions (resolveMethod functions ctx name onSelf)
      (resolveMethod (functions.map Function.unlessInline) ctx name onSelf) := by
  have hbyName := withName_narrows functions name (·.declaration.kind.isMethod) fun _ ↦ rfl
  unfold resolveMethod
  split
  · exact (nearest_narrows functions _ _).orElse hbyName
  · exact hbyName

/-- What a reference refers to without inline functions. -/
theorem resolve_narrows (functions : List Function) (ctx : Context) (s : Site) :
    Narrows functions (s.resolve functions ctx).1
      (s.resolve (functions.map Function.unlessInline) ctx).1 := by
  cases s with
  | path segments kind => exact resolvePath_narrows functions ctx segments
  | method name onSelf => exact resolveMethod_narrows functions ctx name onSelf
  | literal id => exact .kept (List.cons_ne_nil id []) (List.Subset.refl _)

end RenderTrace.Site
