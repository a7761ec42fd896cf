import Mathlib.Data.List.Forall2
import RenderTrace.Proofs.CallGraph.Kinds
import RenderTrace.Proofs.Function.Matching

/-!
# Graphs of indices that hold the same functions

Two indices may hold the same functions in another order and with other numbers. Then whatever finds
functions finds the same ones in both, though not under the same numbers: by place, by path, by the
end of a path, by the type of `self`, by the name of a method. None of these looks at a number, or
at the name of a closure. So the graphs join the same functions, by edges of the same kinds
(`CallGraph.exists_edge`).
-/

namespace RenderTrace

open Syntax

namespace Index

variable {s s' : Index} {i i' j j' : FunctionId}

/-- Two numbers are those of the same function in two indices. -/
def Corresponds (s s' : Index) (i i' : FunctionId) : Prop :=
  ∃ f f', s.functions[i]? = some f ∧ s'.functions[i']? = some f' ∧ f'.anonymous = f.anonymous

theorem Corresponds.symm (h : Corresponds s s' i i') : Corresponds s' s i' i := by
  obtain ⟨f, f', hf, hf', hsame⟩ := h
  exact ⟨f', f, hf', hf, hsame.symm⟩

/-- A function has the same function at the other number. -/
theorem Corresponds.exists_function (h : Corresponds s s' i i') {f : Function}
    (hf : s.functions[i]? = some f) :
    ∃ f', s'.functions[i']? = some f' ∧ f'.anonymous = f.anonymous := by
  obtain ⟨g, f', hg, hf', hsame⟩ := h
  obtain rfl : g = f := Option.some.inj (hg.symm.trans hf)
  exact ⟨f', hf', hsame⟩

theorem Corresponds.placeOf_eq (h : Corresponds s s' i i') : s'.placeOf i' = s.placeOf i := by
  obtain ⟨f, f', hf, hf', hsame⟩ := h
  rw [placeOf, placeOf, hf, hf', Option.map_some, Option.map_some,
    Function.location_of_anonymous hsame]

/-- Two indices hold the same functions, and no two of them stand at the same place. -/
structure SameFunctions (s s' : Index) : Prop where
  numbered : s.Numbered
  numbered' : s'.Numbered
  places : s.places.Nodup
  places' : s'.places.Nodup
  there : ∀ {i f}, s.functions[i]? = some f → ∃ i', Corresponds s s' i i'
  back : ∀ {i' f'}, s'.functions[i']? = some f' → ∃ i, Corresponds s' s i' i

namespace SameFunctions

theorem symm (h : SameFunctions s s') : SameFunctions s' s :=
  ⟨h.numbered', h.numbered, h.places', h.places, h.back, h.there⟩

/-! ### Functions by place -/

theorem lookup_of_corresponds (h : SameFunctions s s') {f : Function}
    (hi : Corresponds s s' i i') (hf : s.functions[i]? = some f) :
    s'.lookup f.declaration.location = some i' := by
  obtain ⟨f', hf', hsame⟩ := hi.exists_function hf
  rw [← Function.location_of_anonymous hsame]
  exact lookup_location h.numbered' h.places' hf'

/-- A function corresponds to one function at most. -/
theorem eq_of_corresponds (h : SameFunctions s s') (hi : Corresponds s s' i i')
    (hj : Corresponds s s' i j') : i' = j' := by
  have ⟨f, _, hf, _⟩ := hi
  exact Option.some.inj ((h.lookup_of_corresponds hi hf).symm.trans (h.lookup_of_corresponds hj hf))

/-- A place names the same function in both. -/
theorem lookup_rel (h : SameFunctions s s') (l : Location) :
    Option.Rel (Corresponds s s') (s.lookup l) (s'.lookup l) := by
  have hthere : ∀ {s s' : Index} {i}, SameFunctions s s' → s.lookup l = some i →
      ∃ i', Corresponds s s' i i' ∧ s'.lookup l = some i' := fun h hi ↦ by
    obtain ⟨f, hf, rfl⟩ := exists_of_lookup h.numbered hi
    obtain ⟨i', hi'⟩ := h.there hf
    exact ⟨i', hi', h.lookup_of_corresponds hi' hf⟩
  cases hlookup : s.lookup l with
  | some i =>
    obtain ⟨i', hi', hlookup'⟩ := hthere h hlookup
    rw [hlookup']
    exact .some hi'
  | none =>
    cases hlookup' : s'.lookup l with
    | none => exact .none
    | some i' =>
      obtain ⟨i, -, hi⟩ := hthere h.symm hlookup'
      cases hi.symm.trans hlookup

end SameFunctions

end Index

open Index

namespace Site

variable {s s' : Index} {i i' : FunctionId}

/-! ### The same sites -/

/-- Two sites are the same, up to the number of a closure. -/
inductive Alike (s s' : Index) : Site → Site → Prop
  | path (segments : List String) (kind : CallKind) :
    Alike s s' (.path segments kind) (.path segments kind)
  | method (name : String) (onSelf : Bool) : Alike s s' (.method name onSelf) (.method name onSelf)
  | literal {i i' : FunctionId} (h : Corresponds s s' i i') :
    Alike s s' (.literal i) (.literal i')

/-- What is met is the same, up to the numbers of closures. -/
inductive Sighting.Alike (s s' : Index) : Sighting → Sighting → Prop
  | site {st st' : Site} (h : st.Alike s s' st') : Alike s s' (.site st) (.site st')
  | unreadable (path : List String) : Alike s s' (.unreadable path) (.unreadable path)

section Walk

variable {lookup lookup' : Location → Option FunctionId} {expand expand' : Node → List Sighting}

/-- A node contributes the same. -/
theorem enter_alike (hlookup : ∀ l, Option.Rel (Corresponds s s') (lookup l) (lookup' l))
    (hexpand : ∀ m, List.Forall₂ (Sighting.Alike s s') (expand m) (expand' m)) (n : Node) :
    List.Forall₂ (Sighting.Alike s s') (enter lookup expand n).found
        (enter lookup' expand' n).found ∧
      (enter lookup' expand' n).walks = (enter lookup expand n).walks := by
  cases n with
  | node k cs =>
    simp only [enter]
    split
    · split
      · exact ⟨.cons (.site (.path _ _)) .nil, rfl⟩
      · exact ⟨.nil, rfl⟩
    · exact ⟨.cons (.site (.method _ _)) .nil, rfl⟩
    · exact ⟨.cons (.site (.path _ _)) .nil, rfl⟩
    · split
      · have hclosure := hlookup (Node.node k cs).closureBar.location
        generalize lookup (Node.node k cs).closureBar.location = r,
          lookup' (Node.node k cs).closureBar.location = r' at hclosure ⊢
        cases hclosure with
        | none => exact ⟨.nil, rfl⟩
        | some h => exact ⟨.cons (.site (.literal h)) .nil, rfl⟩
      · exact ⟨.nil, rfl⟩
    · exact ⟨.nil, rfl⟩
    · exact ⟨hexpand _, rfl⟩
    · exact ⟨.nil, rfl⟩
  | _ => exact ⟨.nil, rfl⟩

/-- In a tree, the same is met. -/
theorem walk_alike (hlookup : ∀ l, Option.Rel (Corresponds s s') (lookup l) (lookup' l))
    (hexpand : ∀ m, List.Forall₂ (Sighting.Alike s s') (expand m) (expand' m)) (n : Node) :
    List.Forall₂ (Sighting.Alike s s') (walk lookup expand n) (walk lookup' expand' n) := by
  have hall : ∀ cs : List Node, (∀ c ∈ cs, List.Forall₂ (Sighting.Alike s s')
        (walk lookup expand c) (walk lookup' expand' c)) → ∀ walks i,
      List.Forall₂ (Sighting.Alike s s') (walkAll lookup expand walks i cs)
        (walkAll lookup' expand' walks i cs) := by
    intro cs hcs walks
    induction cs with
    | nil => exact fun i ↦ .nil
    | cons c cs ih =>
      intro i
      have hrest := ih (fun c hc ↦ hcs c (List.mem_cons_of_mem _ hc)) (i + 1)
      rw [walkAll, walkAll]
      refine List.rel_append ?_ hrest
      split
      · exact hcs c List.mem_cons_self
      · exact .nil
  induction n using Node.induction with
  | token | unread => exact .nil
  | group d cs ih => exact hall cs ih _ 0
  | node k cs ih =>
    obtain ⟨hfound, hwalks⟩ := enter_alike hlookup hexpand (.node k cs)
    rw [walk, walk]
    rw [hwalks]
    exact List.rel_append hfound (hall cs ih _ 0)

end Walk

/-- In a body, the same is met. -/
theorem inBody_alike (h : SameFunctions s s') (b : Node) :
    List.Forall₂ (Sighting.Alike s s') (inBody s.lookup b) (inBody s'.lookup b) := by
  have hsightings : ∀ depth n, List.Forall₂ (Sighting.Alike s s') (sightings s.lookup depth n)
      (sightings s'.lookup depth n) := by
    intro depth
    induction depth with
    | zero => exact walk_alike h.lookup_rel fun _ ↦ .nil
    | succ depth ih =>
      refine walk_alike h.lookup_rel fun m ↦ ?_
      split
      · exact ih _
      · exact .cons (.unreadable _) .nil
  exact hsightings _ b

theorem sites_alike {found found' : List Sighting}
    (h : List.Forall₂ (Sighting.Alike s s') found found') :
    List.Forall₂ (Alike s s') (sites found) (sites found') :=
  List.rel_filterMap (fun _ _ hone ↦ by
    cases hone with
    | site hst => exact .some hst
    | unreadable => exact .none) h

/-! ### The same targets -/

/-- Two lists hold the numbers of the same functions. -/
structure SameTargets (s s' : Index) (ids ids' : List FunctionId) : Prop where
  there : ∀ i ∈ ids, ∃ i' ∈ ids', Corresponds s s' i i'
  back : ∀ i' ∈ ids', ∃ i ∈ ids, Corresponds s' s i' i

namespace SameTargets

variable {ids ids' : List FunctionId}

theorem nil : SameTargets s s' [] [] :=
  ⟨fun _ h ↦ absurd h List.not_mem_nil, fun _ h ↦ absurd h List.not_mem_nil⟩

theorem isEmpty_eq (h : SameTargets s s' ids ids') : ids'.isEmpty = ids.isEmpty := by
  rw [Bool.eq_iff_iff, List.isEmpty_iff, List.isEmpty_iff]
  constructor
  · rintro rfl
    refine List.eq_nil_iff_forall_not_mem.2 fun i hi ↦ ?_
    obtain ⟨i', hi', -⟩ := h.there i hi
    exact List.not_mem_nil hi'
  · rintro rfl
    refine List.eq_nil_iff_forall_not_mem.2 fun i' hi' ↦ ?_
    obtain ⟨i, hi, -⟩ := h.back i' hi'
    exact List.not_mem_nil hi

theorem contains_eq (h : SameTargets s s' ids ids') (hs : SameFunctions s s')
    (hi : Corresponds s s' i i') : ids'.contains i' = ids.contains i := by
  rw [Bool.eq_iff_iff, List.contains_iff_mem, List.contains_iff_mem]
  constructor
  · intro hmem
    obtain ⟨j, hj, hcorresponds⟩ := h.back i' hmem
    rwa [hs.symm.eq_of_corresponds hi.symm hcorresponds]
  · intro hmem
    obtain ⟨j', hj', hcorresponds⟩ := h.there i hmem
    rwa [hs.eq_of_corresponds hi hcorresponds]

/-- What does not look at numbers picks the same functions. -/
theorem picked (hs : SameFunctions s s') {P : Function → Bool}
    (hP : ∀ {f f' : Function}, f'.anonymous = f.anonymous → P f' = P f) :
    SameTargets s s' ((s.functions.toList.filter P).map (·.declaration.id))
      ((s'.functions.toList.filter P).map (·.declaration.id)) := by
  have hthere : ∀ {s s' : Index}, SameFunctions s s' →
      ∀ i ∈ (s.functions.toList.filter P).map (·.declaration.id),
        ∃ i' ∈ (s'.functions.toList.filter P).map (·.declaration.id), Corresponds s s' i i' := by
    intro s s' hs i hi
    obtain ⟨f, hf, rfl⟩ := List.mem_map.1 hi
    obtain ⟨hmem, hpicked⟩ := List.mem_filter.1 hf
    obtain ⟨j, hj⟩ := List.mem_iff_getElem?.1 hmem
    rw [Array.getElem?_toList] at hj
    obtain rfl := (hs.numbered j f hj).1
    obtain ⟨i', hi'⟩ := hs.there hj
    obtain ⟨f', hf', hsame⟩ := hi'.exists_function hj
    refine ⟨i', List.mem_map.2 ⟨f', List.mem_filter.2 ⟨?_, ?_⟩, (hs.numbered' i' f' hf').1⟩, hi'⟩
    · rw [Array.mem_toList_iff]
      exact Array.mem_of_getElem? hf'
    · rw [hP hsame, hpicked]
  exact ⟨hthere hs, hthere hs.symm⟩

end SameTargets

variable {words base : List String} {ctx ctx' : Context}

theorem atPath_same (hs : SameFunctions s s') (words : List String) :
    SameTargets s s' (atPath s.functions.toList words) (atPath s'.functions.toList words) :=
  .picked hs fun h ↦ by
    rw [Function.isRender_of_anonymous h, Function.sourcePath_of_anonymous h]

theorem withName_same (hs : SameFunctions s s') (name : String) {P : Function → Bool}
    (hP : ∀ {f f' : Function}, f'.anonymous = f.anonymous → P f' = P f) :
    SameTargets s s' (((withName s.functions.toList name).filter P).map (·.declaration.id))
      (((withName s'.functions.toList name).filter P).map (·.declaration.id)) := by
  rw [withName, withName, List.filter_filter, List.filter_filter]
  refine .picked hs fun {f f'} h ↦ ?_
  rw [hP h, Function.isRender_of_anonymous h, Function.kind_of_anonymous h]
  by_cases hkind : f.declaration.kind = .closure
  · simp [hkind]
  · rw [Function.localName_of_anonymous h hkind]

theorem nearest_same (hs : SameFunctions s s') (base words : List String) :
    SameTargets s s' (nearest s.functions.toList base words)
      (nearest s'.functions.toList base words) := by
  unfold nearest
  induction ancestors base with
  | nil => exact .nil
  | cons b bs ih =>
    have hhead := atPath_same hs (b ++ words)
    simp only [List.map_cons, List.find?_cons, hhead.isEmpty_eq]
    cases (atPath s.functions.toList (b ++ words)).isEmpty with
    | true => exact ih
    | false => exact hhead

/-- A site has the same targets. -/
theorem resolve_same (hs : SameFunctions s s') {st st' : Site} (hst : st.Alike s s' st')
    (hmodule : ctx'.module = ctx.module) (hself : ctx'.selfType = ctx.selfType) :
    SameTargets s s' (st.resolve s.functions.toList ctx).1 (st'.resolve s'.functions.toList ctx').1 ∧
      (st'.resolve s'.functions.toList ctx').2 = (st.resolve s.functions.toList ctx).2 := by
  cases hst with
  | literal h =>
    exact ⟨⟨fun i hi ↦ ⟨_, List.mem_singleton_self _, List.mem_singleton.1 hi ▸ h⟩,
      fun i hi ↦ ⟨_, List.mem_singleton_self _, List.mem_singleton.1 hi ▸ h.symm⟩⟩, rfl⟩
  | path segments kind =>
    refine ⟨?_, rfl⟩
    have hnormalise : normalise ctx' segments = normalise ctx segments := by
      simp only [normalise, hmodule, hself]
    simp only [resolve, resolvePath, hnormalise]
    split
    · exact .nil
    · next base words _ =>
      split
      · exact .nil
      · next name _ =>
        -- the functions with the path that are nearest, or else those with the name
        have hnear := nearest_same hs base words
        rw [hnear.isEmpty_eq]
        split
        · exact hnear
        · refine withName_same hs name fun h ↦ ?_
          rw [endsWith, endsWith, Function.sourcePath_of_anonymous h]
  | method name onSelf =>
    refine ⟨?_, rfl⟩
    -- methods of other types count only where the own type has none
    have hmethod : ∀ {own own' : List FunctionId}, SameTargets s s' own own' → SameTargets s s'
        (if !own.isEmpty then own
          else ((withName s.functions.toList name).filter (·.declaration.kind.isMethod)).map
            (·.declaration.id))
        (if !own'.isEmpty then own'
          else ((withName s'.functions.toList name).filter (·.declaration.kind.isMethod)).map
            (·.declaration.id)) := fun hown ↦ by
      rw [hown.isEmpty_eq]
      split
      · exact hown
      · exact withName_same hs name fun h ↦ by rw [Function.kind_of_anonymous h]
    simp only [resolve, resolveMethod, hmodule, hself]
    cases onSelf with
    | false => exact hmethod .nil
    | true =>
      cases ctx.selfType with
      | none => exact hmethod .nil
      | some t => exact hmethod (nearest_same hs _ _)

end Site

namespace CallGraph

variable {s s' : Index} {f f' : Function} {i i' : FunctionId}

theorem sightingsOf_alike (hs : SameFunctions s s') (hf : f'.anonymous = f.anonymous) :
    List.Forall₂ (Site.Sighting.Alike s s') (sightingsOf s f) (sightingsOf s' f') := by
  rw [sightingsOf, sightingsOf, Function.isRender_of_anonymous hf, Function.body_of_anonymous hf]
  split
  · split
    · exact Site.inBody_alike hs _
    · exact .nil
  · exact .nil

/-- **A function refers to the same functions, in the same way.** -/
theorem kindOf?_eq (hs : SameFunctions s s') (hf : f'.anonymous = f.anonymous)
    (hi : Corresponds s s' i i') : kindOf? s' f' i' = kindOf? s f i := by
  have hsites := Site.sites_alike (sightingsOf_alike hs hf)
  have hmodule : f'.context.module = f.context.module := congrArg (·.context.module) hf
  have hself : f'.context.selfType = f.context.selfType := congrArg (·.context.selfType) hf
  rw [kindOf?, kindOf?]
  generalize Site.sites (sightingsOf s f) = sites, Site.sites (sightingsOf s' f') = sites'
    at hsites ⊢
  induction hsites with
  | nil => rfl
  | cons hst _ ih =>
    obtain ⟨htargets, hkind⟩ := Site.resolve_same hs hst hmodule hself
    simp only [List.find?_cons, htargets.contains_eq hs hi]
    split
    · rw [Option.map_some, Option.map_some, hkind]
    · exact ih

/-- What a function refers to is a function of both. -/
theorem exists_corresponding (hs : SameFunctions s s') (hf : f'.anonymous = f.anonymous)
    {kind : CallKind} (h : kindOf? s f i = some kind) : ∃ i', Corresponds s s' i i' := by
  have hsites := Site.sites_alike (sightingsOf_alike hs hf)
  have hmodule : f'.context.module = f.context.module := congrArg (·.context.module) hf
  have hself : f'.context.selfType = f.context.selfType := congrArg (·.context.selfType) hf
  rw [kindOf?] at h
  generalize Site.sites (sightingsOf s f) = sites, Site.sites (sightingsOf s' f') = sites'
    at hsites h
  induction hsites with
  | nil => cases h
  | cons hst _ ih =>
    rw [List.find?_cons] at h
    split at h
    · next hcontains =>
      obtain ⟨htargets, -⟩ := Site.resolve_same hs hst hmodule hself
      obtain ⟨i', -, hi'⟩ := htargets.there i (by simpa using hcontains)
      exact ⟨i', hi'⟩
    · exact ih h

/-- **The graphs have the same edges.** -/
theorem exists_edge (hs : SameFunctions s s') {e : Edge} (h : e ∈ (build s).edges) :
    ∃ e' ∈ (build s').edges, Corresponds s s' e.caller e'.caller ∧
      Corresponds s s' e.callee e'.callee ∧ e'.kind = e.kind := by
  obtain ⟨f, hf, hkind⟩ := (mem_build_iff hs.numbered).1 h
  obtain ⟨i', hi'⟩ := hs.there hf
  obtain ⟨f', hf', hsame⟩ := hi'.exists_function hf
  obtain ⟨j', hj'⟩ := exists_corresponding hs hsame hkind
  have hkind' := (kindOf?_eq hs hsame hj').trans hkind
  exact ⟨⟨i', j', e.kind⟩, (mem_build_iff hs.numbered').2 ⟨f', hf', hkind'⟩, hi', hj', rfl⟩

end CallGraph

end RenderTrace
