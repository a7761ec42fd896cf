import RenderTrace.Proofs.Function.Order

/-!
# The functions of a unit with its items in another order

A unit is walked in parts, its attributes and then one item after the other, and between the parts
the walk is outside any function. So whatever the order of the items, each of them adds the same
functions up to the numbers, and every function of the one unit has a match in the other one
(`Index.exists_matching`).
-/

namespace RenderTrace

open Syntax

namespace Index

variable {o : Options} {s s' : Index}

/-! ### Units in parts -/

/-- A part of a unit adds twins. -/
theorem Alongside.walk {pre pre' : List Function} {n : Nat} (h : Alongside pre pre' n s s')
    (hpre : Closed pre) (hpre' : Closed pre') (m : Node) :
    ∃ n', Alongside pre pre' n' (walk o {} m s) (walk o {} m s') := by
  have hctx : ContextTwin pre.length pre'.length n {} {} := ⟨rfl, rfl, .none⟩
  obtain ⟨n', halong, -⟩ := walk_alongside hpre hpre' m h hctx
  exact ⟨n', halong⟩

/-- A state between two parts of a unit. -/
def Whole (s : Index) : Prop := ∃ n, Alongside [] [] n s s

theorem whole_empty : Whole {} := ⟨0, [], [], rfl, rfl, .nil, rfl⟩

theorem Whole.walk (h : Whole s) (m : Node) : Whole (walk o {} m s) := by
  obtain ⟨n, halong⟩ := h
  have hnone : Closed [] := fun f hf ↦ absurd hf List.not_mem_nil
  exact halong.walk hnone hnone m

theorem Whole.closed (h : Whole s) : Closed s.functions.toList := by
  obtain ⟨n, fs, fs', hfs, -, htwins, -⟩ := h
  rw [hfs, List.nil_append]
  intro f hf j hj
  obtain ⟨i, hi⟩ := List.getElem?_of_mem hf
  obtain ⟨f', -, htwin⟩ := htwins.exists_twin hi
  have hbound : i < fs.length := (List.getElem?_eq_some_iff.1 hi).1
  have henclosing := htwin.enclosing
  rw [hj] at henclosing
  generalize hk : some j = e, f'.context.enclosing = e' at henclosing
  cases henclosing with
  | none => cases hk
  | some k hlt =>
    obtain rfl := Option.some.inj hk
    rw [List.length_nil, Nat.zero_add]
    exact Nat.lt_trans hlt hbound

/-- The walk over several parts. -/
def walkParts (o : Options) (parts : List Node) (s : Index) : Index :=
  parts.foldl (fun s c ↦ walk o {} c s) s

theorem walkAll_eq_walkParts (i : Nat) (cs : List Node) (s : Index) :
    walkAll o {} (fun _ ↦ true) i cs s = walkParts o cs s := by
  induction cs generalizing i s with
  | nil => rfl
  | cons c cs ih =>
    rw [walkAll, if_pos rfl, ih]
    rfl

theorem Whole.walkParts (h : Whole s) (parts : List Node) : Whole (walkParts o parts s) := by
  induction parts generalizing s with
  | nil => exact h
  | cons c parts ih => exact ih (h.walk c)

theorem walkParts_extends (parts : List Node) (s : Index) :
    s.functions.toList <+: (walkParts o parts s).functions.toList := by
  induction parts generalizing s with
  | nil => exact List.prefix_refl _
  | cons c parts ih =>
    obtain ⟨fs, hfs, -⟩ := (walk_adds o {} c s).functions
    exact List.IsPrefix.trans ⟨fs, hfs.symm⟩ (ih _)

/-- A part of a unit was walked from the state `t` on. -/
structure WalkedFrom (o : Options) (c : Node) (t s : Index) : Prop where
  whole : Whole t
  within : (walk o {} c t).functions.toList <+: s.functions.toList

theorem exists_walkedFrom {parts : List Node} {c : Node} (hs : Whole s) (hc : c ∈ parts) :
    ∃ t, WalkedFrom o c t (walkParts o parts s) := by
  obtain ⟨before, after, rfl⟩ := List.append_of_mem hc
  refine ⟨walkParts o before s, hs.walkParts before, ?_⟩
  have hsplit : walkParts o (before ++ c :: after) s =
      walkParts o after (walk o {} c (walkParts o before s)) := List.foldl_append
  rw [hsplit]
  exact walkParts_extends after _

/-- A function was found in a part. -/
theorem exists_part {parts : List Node} (hs : Whole s) {i : Nat} (hi : s.functions.size ≤ i)
    (h : i < (walkParts o parts s).functions.size) :
    ∃ c ∈ parts, ∃ t, WalkedFrom o c t (walkParts o parts s) ∧ t.functions.size ≤ i ∧
      i < (walk o {} c t).functions.size := by
  induction parts generalizing s with
  | nil => exact absurd h (Nat.not_lt_of_le hi)
  | cons c parts ih =>
    by_cases hlt : i < (walk o {} c s).functions.size
    · exact ⟨c, List.mem_cons_self, s, ⟨hs, walkParts_extends parts _⟩, hi, hlt⟩
    · obtain ⟨c', hc', ht⟩ := ih (hs.walk c) (Nat.le_of_not_lt hlt) h
      exact ⟨c', List.mem_cons_of_mem _ hc', ht⟩

/-! ### Matching functions -/

/-- The place of the function with a number. -/
def placeOf (s : Index) (id : FunctionId) : Option Location :=
  (s.functions[id]?).map (·.declaration.location)

/-- A function of one index and a function of another one are the same: they stand at the same
place, with the same data but for the numbers, have the same name up to the numbers of closures
outside any function, and stand in functions at the same place. -/
structure Matches (s s' : Index) (f f' : Function) : Prop where
  same : f'.anonymous = f.anonymous
  name : SameName f.declaration.localName f'.declaration.localName
  enclosing : f'.context.enclosing.map s'.placeOf = f.context.enclosing.map s.placeOf

theorem getElem?_of_prefix {t : Index} (h : t.functions.toList <+: s.functions.toList) {i : Nat}
    {f : Function} (hf : t.functions.toList[i]? = some f) : s.functions[i]? = some f := by
  obtain ⟨rest, hrest⟩ := h
  rw [← Array.getElem?_toList, ← hrest]
  exact List.getElem?_append_left (List.getElem?_eq_some_iff.1 hf).1 ▸ hf

/-- A function found in a part that two units share has a match. -/
theorem exists_matching_of_part {c : Node} {t t' : Index} (h : WalkedFrom o c t s)
    (h' : WalkedFrom o c t' s') {i : Nat} (hi : t.functions.size ≤ i)
    (hlt : i < (walk o {} c t).functions.size) {f : Function} (hf : s.functions[i]? = some f) :
    ∃ (i' : Nat) (f' : Function), s'.functions[i']? = some f' ∧ Matches s s' f f' := by
  have hstart : Alongside t.functions.toList t'.functions.toList 0 t t' :=
    ⟨[], [], (List.append_nil _).symm, (List.append_nil _).symm, .nil, rfl⟩
  -- both walks add twins in the same order, each behind what was there before
  obtain ⟨n, fs, fs', hfs, hfs', htwins, -⟩ :=
    hstart.walk (o := o) h.whole.closed h'.whole.closed c
  have hat : ∀ {j : Nat} {g : Function}, fs[j]? = some g →
      s.functions[t.functions.toList.length + j]? = some g := fun {j g} hg ↦ by
    refine getElem?_of_prefix h.within ?_
    rwa [hfs, List.getElem?_append_right (Nat.le_add_right _ _), Nat.add_sub_cancel_left]
  have hat' : ∀ {j : Nat} {g : Function}, fs'[j]? = some g →
      s'.functions[t'.functions.toList.length + j]? = some g := fun {j g} hg ↦ by
    refine getElem?_of_prefix h'.within ?_
    rwa [hfs', List.getElem?_append_right (Nat.le_add_right _ _), Nat.add_sub_cancel_left]
  obtain ⟨k, rfl⟩ := Nat.exists_eq_add_of_le hi
  have hk : k < fs.length := by
    have hlength := congrArg List.length hfs
    rw [List.length_append, Array.length_toList, Array.length_toList] at hlength
    omega
  obtain rfl : fs[k] = f := by
    have hfound := hat (List.getElem?_eq_getElem hk)
    rw [Array.length_toList] at hfound
    exact Option.some.inj (hfound.symm.trans hf)
  obtain ⟨f', hf', htwin⟩ := htwins.exists_twin (List.getElem?_eq_getElem hk)
  refine ⟨_, f', hat' hf', htwin.same, htwin.name, ?_⟩
  -- the function around stands earlier in the part, so its twin has been found as well
  have henclosing := htwin.enclosing
  generalize fs[k].context.enclosing = e, f'.context.enclosing = e' at henclosing ⊢
  cases henclosing with
  | none => rfl
  | some j hj =>
    have hg := List.getElem?_eq_getElem (Nat.lt_trans hj hk)
    obtain ⟨g', hg', htwin⟩ := htwins.exists_twin hg
    have hplace : g'.declaration.location = fs[j].declaration.location :=
      Function.location_of_anonymous htwin.same
    rw [Option.map_some, Option.map_some, placeOf, placeOf, hat hg, hat' hg', Option.map_some,
      Option.map_some, hplace]

end Index

/-- A unit has the items of another one in another order. -/
def Syntax.SourceUnit.Reordered (u u' : SourceUnit) : Prop :=
  ∃ items items', items.Perm items' ∧ u.items = .list items ∧ u' = { u with items := .list items' }

namespace Syntax.SourceUnit.Reordered

variable {u u' : SourceUnit}

theorem symm (h : u.Reordered u') : u'.Reordered u := by
  obtain ⟨items, items', hperm, hitems, rfl⟩ := h
  exact ⟨items', items, hperm.symm, rfl, by rw [← hitems]⟩

theorem heads_perm (h : u.Reordered u') : u'.heads.Perm u.heads := by
  have hlist : ∀ cs : List Node, (Node.list cs).heads = cs.flatMap Node.heads := fun cs ↦ by
    have hall : Node.headsAll cs = cs.flatMap Node.heads := by
      induction cs with
      | nil => rfl
      | cons c cs ih => rw [Node.headsAll, ih, List.flatMap_cons]
    rw [Node.list, Node.heads, hall]
    exact List.append_nil _
  obtain ⟨items, items', hperm, hitems, rfl⟩ := h
  rw [heads, heads, hitems, hlist, hlist]
  exact (hperm.symm.flatMap_right _).append_left _

theorem distinct (h : u.Reordered u') (hd : u.Distinct) : u'.Distinct :=
  (h.heads_perm.map _).nodup_iff.2 hd

end Syntax.SourceUnit.Reordered

namespace Index

variable {o : Options} {u u' : SourceUnit}

/-- The functions of a unit are those of its parts. -/
theorem build_functions {items : List Node} (hitems : u.items = .list items) :
    (build o u).functions = (walkParts o (u.attributes :: items) {}).functions := by
  have hwalk : ∀ s, walk o {} (.list items) s = walkParts o items s := fun s ↦
    walkAll_eq_walkParts 0 items s
  rw [walkParts, List.foldl_cons, ← walkParts, ← hwalk, ← hitems]
  rfl

theorem exists_matching (hu : u.Reordered u') {i : Nat} {f : Function}
    (hf : (build o u).functions[i]? = some f) :
    ∃ (i' : Nat) (f' : Function), (build o u').functions[i']? = some f' ∧
      Matches (build o u) (build o u') f f' := by
  obtain ⟨items, items', hperm, hitems, rfl⟩ := hu
  have hparts := build_functions (o := o) hitems
  have hparts' := build_functions (o := o) (u := { u with items := .list items' }) rfl
  obtain ⟨hi, -⟩ := Array.getElem?_eq_some_iff.1 hf
  rw [hparts] at hi
  obtain ⟨c, hc, t, ht, hle, hlt⟩ := exists_part whole_empty i.zero_le hi
  obtain ⟨t', ht'⟩ := exists_walkedFrom (o := o) whole_empty
    (((hperm.cons u.attributes).mem_iff).1 hc)
  exact exists_matching_of_part ⟨ht.whole, by rw [hparts]; exact ht.within⟩
    ⟨ht'.whole, by rw [hparts']; exact ht'.within⟩ hle hlt hf

/-! ### Places -/

/-- The places of the functions of an index. -/
def places (s : Index) : List Location := s.functions.toList.map (·.declaration.location)

/-- A part adds functions at the same places, whatever was found before. -/
theorem places_walk (h : Whole s) (c : Node) :
    (walk o {} c s).places = s.places ++ (walk o {} c {}).places := by
  have htwins : ∀ {b b' : Nat} {fs fs' : List Function}, Twins b b' fs fs' →
      fs'.map (·.declaration.location) = fs.map (·.declaration.location) := fun h ↦ by
    induction h with
    | nil => rfl
    | concat _ hlast ih =>
      rw [List.map_append, List.map_append, ih, List.map_singleton, List.map_singleton,
        Function.location_of_anonymous hlast.same]
  have hstart : Alongside [] s.functions.toList 0 {} s :=
    ⟨[], [], rfl, (List.append_nil _).symm, .nil, rfl⟩
  obtain ⟨n, fs, fs', hfs, hfs', htwin, -⟩ :=
    hstart.walk (o := o) (fun f hf ↦ absurd hf List.not_mem_nil) h.closed c
  rw [places, hfs', List.map_append, htwins htwin, places, places, hfs, List.nil_append]

theorem places_walkParts (h : Whole s) (parts : List Node) :
    (walkParts o parts s).places =
      s.places ++ parts.flatMap fun c ↦ (walk o {} c {}).places := by
  induction parts generalizing s with
  | nil => exact (List.append_nil _).symm
  | cons c parts ih =>
    rw [walkParts, List.foldl_cons, ← walkParts, ih (h.walk c), places_walk h, List.append_assoc,
      List.flatMap_cons]

/-- Units with the same items have functions at the same places. -/
theorem places_perm (hu : u.Reordered u') : (build o u').places.Perm (build o u).places := by
  obtain ⟨items, items', hperm, hitems, rfl⟩ := hu
  rw [places, places, build_functions (o := o) hitems,
    build_functions (o := o) (u := { u with items := .list items' }) rfl, ← places, ← places,
    places_walkParts whole_empty, places_walkParts whole_empty]
  exact (((hperm.symm.cons u.attributes).flatMap_right _).append_left _)

end Index

end RenderTrace
