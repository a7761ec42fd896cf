import Mathlib.Data.List.Nodup
import RenderTrace.Function.Index
import RenderTrace.Proofs.Syntax.Head

/-!
# What the index records

The walk that indexes a unit records some of the heads of the unit, each once: `Index.Adds hs s s'`
says that an index grew by functions whose heads are among `hs`. It does not record all of them. The
walk leaves out signatures and everything around the body of a function, and unmarked closures are
no functions. What matters to those who look functions up by place is the other direction: every
function of the index is a head of the unit (`Index.head_mem_heads`), and where places are different
it is the only one at its place (`SourceUnit.Distinct.head_inj`).
-/

namespace RenderTrace

open Syntax

/-- Whether a function is a closure. -/
def Function.isClosure (f : Function) : Bool := f.declaration.kind == .closure

/-- The head of a function, as its declaration tells. -/
def Function.head (f : Function) : Head := ⟨f.declaration.location, f.isClosure, f.body⟩

namespace Index

/-- The functions stand at the positions that their numbers say, and tell rightly whether they have
a body. -/
def Numbered (s : Index) : Prop :=
  ∀ (i : Nat) (f : Function), s.functions[i]? = some f →
    f.declaration.id = i ∧ f.declaration.hasBody = f.body.isSome

theorem Numbered.getElem?_id {s : Index} (hn : s.Numbered) {f : Function} (h : f ∈ s.functions) :
    s.functions[f.declaration.id]? = some f := by
  obtain ⟨i, hi⟩ := Array.mem_iff_getElem?.1 h
  rwa [(hn i f hi).1]

/-- The numbers of the functions increase. -/
theorem Numbered.ids_increasing {s : Index} (hn : s.Numbered) :
    (s.functions.toList.map (·.declaration.id)).Pairwise (· < ·) := by
  have hat (i : Nat) (hi : i < s.functions.toList.length) :
      s.functions.toList[i].declaration.id = i :=
    (hn i _ (by rw [← Array.getElem?_toList, List.getElem?_eq_getElem hi])).1
  refine List.pairwise_map.2 (List.pairwise_iff_getElem.2 fun i j hi hj hlt ↦ ?_)
  rwa [hat, hat]

/-- The numbers of the functions are different. -/
theorem Numbered.ids_nodup {s : Index} (hn : s.Numbered) :
    (s.functions.toList.map (·.declaration.id)).Nodup :=
  hn.ids_increasing.imp fun hlt ↦ Nat.ne_of_lt hlt

/-- An index grew by functions whose heads are among `hs`, each once. -/
structure Adds (hs : List Head) (s s' : Index) : Prop where
  functions : ∃ fs, s'.functions.toList = s.functions.toList ++ fs ∧
    (fs.map Function.head).Subperm hs
  numbered : s.Numbered → s'.Numbered

namespace Adds

variable {hs hs' : List Head} {s s' s'' : Index}

theorem refl (hs : List Head) (s : Index) : Adds hs s s where
  functions := ⟨[], by simp, List.nil_subperm⟩
  numbered h := h

theorem trans (h : Adds hs s s') (h' : Adds hs' s' s'') : Adds (hs ++ hs') s s'' where
  functions := by
    obtain ⟨fs, hfs, hsub⟩ := h.functions
    obtain ⟨fs', hfs', hsub'⟩ := h'.functions
    refine ⟨fs ++ fs', ?_, ?_⟩
    · rw [hfs', hfs, List.append_assoc]
    · rw [List.map_append]
      exact hsub.append hsub'
  numbered hn := h'.numbered (h.numbered hn)

theorem perm (h : Adds hs s s') (hp : hs.Perm hs') : Adds hs' s s' where
  functions := by
    obtain ⟨fs, hfs, hsub⟩ := h.functions
    exact ⟨fs, hfs, hsub.trans hp.subperm⟩
  numbered := h.numbered

end Adds

/-! ### The walk -/

/-- Recording a function adds its head. -/
theorem record_adds (o : Options) (ctx : Context) (d : Declared) (s : Index) {h : Option Head}
    (hh : h = some ⟨d.location, d.kind == .closure, d.body⟩) :
    Adds h.toList s (record o ctx d s) where
  functions := by
    rw [hh]
    exact ⟨[functionOf o ctx s.functions.size d], by simp [record], List.Subperm.refl _⟩
  numbered hn i f hf := by
    have hpush : (record o ctx d s).functions =
        s.functions.push (functionOf o ctx s.functions.size d) := rfl
    rw [hpush, Array.getElem?_push] at hf
    split at hf
    · next hi =>
      obtain rfl := Option.some.inj hf
      exact ⟨hi.symm, rfl⟩
    · exact hn i f hf

/-- A node adds the head that it is, or nothing. -/
theorem enter_adds (o : Options) (ctx : Context) (k : Kind) (cs : List Node) (s : Index) :
    Adds (Head.of? k cs).toList s (enter o ctx (.node k cs) s).index := by
  unfold enter
  split
  case h_4 heq => -- a function
    cases heq
    split
    · exact record_adds _ _ _ _ rfl
    · exact record_adds _ _ _ _ rfl
  case h_5 heq => -- a method
    cases heq
    exact record_adds _ _ _ _ rfl
  case h_6 heq => -- a method of a trait
    cases heq
    split
    · next hbody =>
      exact record_adds _ _ _ _ (congrArg (some <| Head.ofSignature _ ·) (if_pos hbody))
    · next hbody =>
      exact record_adds _ _ _ _ (congrArg (some <| Head.ofSignature _ ·) (if_neg hbody))
  case h_7 heq => -- a foreign function
    cases heq
    exact record_adds _ _ _ _ rfl
  case h_8 heq => -- a closure
    cases heq
    split
    · exact record_adds _ _ _ _ rfl
    · exact .refl _ s
  all_goals exact .refl _ s

/-- A tree adds some of its heads. -/
theorem walk_adds (o : Options) (ctx : Context) (n : Node) (s : Index) :
    Adds n.heads s (walk o ctx n s) := by
  have hall : ∀ (cs : List Node), (∀ c ∈ cs, ∀ ctx s, Adds c.heads s (walk o ctx c s)) →
      ∀ ctx walks i s, Adds (Node.headsAll cs) s (walkAll o ctx walks i cs s) := by
    intro cs
    induction cs with
    | nil => exact fun _ ctx walks i s ↦ .refl _ s
    | cons c cs ih =>
      intro hcs ctx walks i s
      have hrest := ih (fun c hc ↦ hcs c (List.mem_cons_of_mem _ hc)) ctx walks (i + 1)
      rw [Node.headsAll, walkAll]
      by_cases hwalks : walks i = true
      · rw [if_pos hwalks]
        exact (hcs c List.mem_cons_self ctx s).trans (hrest _)
      · rw [if_neg hwalks]
        exact (Adds.refl _ s).trans (hrest s)
  induction n using Node.induction generalizing ctx s with
  | token cls text span => exact .refl _ s
  | unread trees => exact .refl _ s
  | group d cs ih => exact hall cs ih ctx _ 0 s
  | node k cs ih =>
    rw [Node.heads, walk]
    exact ((enter_adds o ctx k cs s).trans (hall cs ih _ _ 0 _)).perm List.perm_append_comm

/-! ### Functions by place -/

/-- A place names a function of the index. -/
theorem exists_of_lookup {s : Index} (hn : s.Numbered) {l : Location} {id : FunctionId}
    (h : s.lookup l = some id) :
    ∃ f, s.functions[id]? = some f ∧ f.declaration.location = l := by
  rw [lookup, Option.map_eq_some_iff] at h
  obtain ⟨f, hfind, rfl⟩ := h
  have hmem : f ∈ s.functions := by simpa using List.mem_of_find?_eq_some hfind
  obtain ⟨i, hi⟩ := Array.mem_iff_getElem?.1 hmem
  rw [(hn i f hi).1]
  exact ⟨f, hi, by simpa using List.find?_some hfind⟩

/-- A function is found at its place if no other function stands there. -/
theorem lookup_location {s : Index} (hn : s.Numbered)
    (hplaces : (s.functions.toList.map (·.declaration.location)).Nodup) {id : FunctionId}
    {f : Function} (h : s.functions[id]? = some f) :
    s.lookup f.declaration.location = some id := by
  have hmem : f ∈ s.functions.toList := by
    rw [Array.mem_toList_iff]
    exact Array.mem_of_getElem? h
  have hfound : (s.functions.toList.reverse.find? fun g ↦
      g.declaration.location == f.declaration.location).isSome := by
    rw [List.find?_isSome]
    exact ⟨f, by simpa using hmem, by simp⟩
  obtain ⟨g, hg⟩ := Option.isSome_iff_exists.1 hfound
  have hgmem : g ∈ s.functions.toList := by simpa using List.mem_of_find?_eq_some hg
  have hplace : g.declaration.location = f.declaration.location := by
    simpa using List.find?_some hg
  have hgf : g = f := List.inj_on_of_nodup_map hplaces hgmem hmem hplace
  rw [lookup, hg, Option.map_some, hgf, (hn id f h).1]

end Index

namespace Syntax.SourceUnit

/-- The heads of a unit. -/
def heads (u : SourceUnit) : List Head := u.attributes.heads ++ u.items.heads

/-- No two functions or closures of a unit stand at the same place. In a unit that was read from a
text this is so, as places are those of tokens. -/
def Distinct (u : SourceUnit) : Prop := (u.heads.map (·.place)).Nodup

instance (u : SourceUnit) : Decidable u.Distinct :=
  inferInstanceAs (Decidable (u.heads.map (·.place)).Nodup)

theorem Distinct.head_inj {u : SourceUnit} (hd : u.Distinct) {h h' : Head} (hh : h ∈ u.heads)
    (hh' : h' ∈ u.heads) (hplace : h.place = h'.place) : h = h' :=
  List.inj_on_of_nodup_map hd hh hh' hplace

end Syntax.SourceUnit

namespace Index

variable (o : Options) (u : SourceUnit)

/-- The index of a unit holds heads of the unit, each at most once. -/
theorem build_adds : Adds u.heads {} (build o u) := by
  have hwalk := (walk_adds o {} u.attributes {}).trans (walk_adds o {} u.items _)
  exact ⟨hwalk.functions, hwalk.numbered⟩

theorem build_numbered : (build o u).Numbered :=
  (build_adds o u).numbered fun i f h ↦ by simp at h

theorem build_heads_subperm :
    ((build o u).functions.toList.map Function.head).Subperm u.heads := by
  obtain ⟨fs, hfs, hsub⟩ := (build_adds o u).functions
  rw [hfs]
  simpa using hsub

variable {o u}

theorem head_mem_heads {id : FunctionId} {f : Function} (h : (build o u).functions[id]? = some f) :
    f.head ∈ u.heads := by
  refine (build_heads_subperm o u).subset (List.mem_map_of_mem ?_)
  rw [Array.mem_toList_iff]
  exact Array.mem_of_getElem? h

theorem build_places_nodup (hd : u.Distinct) :
    ((build o u).functions.toList.map (·.declaration.location)).Nodup := by
  obtain ⟨hs, hperm, hsub⟩ := build_heads_subperm o u
  have hnodup : (hs.map (·.place)).Nodup := List.Nodup.sublist (hsub.map _) hd
  have hmap := (hperm.map (·.place)).nodup_iff.1 hnodup
  rwa [List.map_map] at hmap

end Index

end RenderTrace
