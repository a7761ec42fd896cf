import RenderTrace.Proofs.Function.Declared

/-!
# The parameters of the functions of an index

Every function of the index of a unit is declared by a node of the unit (`Index.exists_declares`),
and has the parameters that stand there. Which of them are left out is told by the attributes of
each; the index keeps the names of those that are, in order and each once.
-/

namespace RenderTrace

open Syntax

/-! ### Names in order -/

namespace Skip

theorem mem_insertSorted_iff {s t : String} {ts : List String} :
    s ∈ insertSorted t ts ↔ s = t ∨ s ∈ ts := by
  induction ts with
  | nil => simp [insertSorted]
  | cons u us ih =>
    rw [insertSorted]
    split
    · simp
    · split
      · next heq => simp [heq]
      · simp only [List.mem_cons, ih, or_left_comm]

/-- Putting names in order keeps them. -/
theorem mem_sorted_iff {s : String} {names : List String} : s ∈ sorted names ↔ s ∈ names := by
  have hfold : ∀ (names acc : List String),
      s ∈ names.foldl (fun acc s ↦ insertSorted s acc) acc ↔ s ∈ acc ∨ s ∈ names := by
    intro names
    induction names with
    | nil => simp
    | cons t ts ih =>
      intro acc
      rw [List.foldl_cons, ih, mem_insertSorted_iff, List.mem_cons]
      exact or_assoc.trans or_left_comm
  simp [sorted, hfold]

end Skip

/-! ### Nodes that declare functions -/

/-- A node stands somewhere in a tree. -/
inductive Syntax.Node.Inside : Node → Node → Prop
  | refl (n : Node) : Inside n n
  | group {d : Delimiter} {cs : List Node} {c m : Node} : c ∈ cs → Inside m c →
      Inside m (.group d cs)
  | node {k : Kind} {cs : List Node} {c m : Node} : c ∈ cs → Inside m c → Inside m (.node k cs)

/-- A node stands somewhere in a unit. -/
def Syntax.SourceUnit.Holds (u : SourceUnit) (n : Node) : Prop :=
  n.Inside u.attributes ∨ n.Inside u.items

namespace Index

/-- The parameters of a node that declares a function, with their attributes. -/
def paramsOf (o : Options) (n : Node) : List (Param × List Node) :=
  match n with
  | .node .itemFn cs => Param.ofInputs o (cs.getD 2 .absent).signatureInputs
  | .node .implFn cs => Param.ofInputs o (cs.getD 3 .absent).signatureInputs
  | .node .traitFn cs => Param.ofInputs o (cs.getD 1 .absent).signatureInputs
  | .node .foreignFn cs => Param.ofInputs o (cs.getD 2 .absent).signatureInputs
  | n => Param.ofClosureInputs o n.closureInputs

/-- A node declares a function: its head is that of the function, and so are its parameters. -/
structure Declares (o : Options) (n : Node) (f : Function) : Prop where
  head : ∃ k cs, n = .node k cs ∧ Head.of? k cs = some f.head
  params : f.declaration.params = (paramsOf o n).map (·.1)
  skipped : f.skip.parameters = Skip.sorted
    (((paramsOf o n).filter fun p ↦ p.1.binding && Marker.hasMarker p.2 Marker.skipMarker).map
      (·.1.name))

variable {o : Options} {f : Function}

/-- Recording what a node says about a function adds one that the node declares. -/
theorem declares_of_mem_record {ctx : Context} {d : Declared} {s : Index} {k : Kind}
    {cs : List Node} (hhead : Head.of? k cs = some ⟨d.location, d.kind == .closure, d.body⟩)
    (hparams : d.params = paramsOf o (.node k cs)) (h : f ∈ (record o ctx d s).functions) :
    f ∈ s.functions ∨ Declares o (.node k cs) f := by
  have hpush : f ∈ s.functions ∨ f = functionOf o ctx s.functions.size d := by
    simpa [record] using h
  refine hpush.imp_right ?_
  rintro rfl
  refine ⟨⟨k, cs, rfl, hhead⟩, by rw [← hparams]; rfl, ?_⟩
  rw [← hparams]
  simp only [functionOf, Skip.ofAttributes, List.filter_map, List.map_map, List.filter_filter,
    Function.comp_def, Bool.and_comm]

/-- A node adds a function that it declares, or none. -/
theorem enter_declares {ctx : Context} {k : Kind} {cs : List Node} {s : Index}
    (h : f ∈ (enter o ctx (.node k cs) s).index.functions) :
    f ∈ s.functions ∨ Declares o (.node k cs) f := by
  unfold enter at h
  split at h
  case h_4 heq => -- a function
    cases heq
    split at h
    · exact declares_of_mem_record rfl rfl h
    · exact declares_of_mem_record rfl rfl h
  case h_5 heq => -- a method
    cases heq
    exact declares_of_mem_record rfl rfl h
  case h_6 heq => -- a method of a trait
    cases heq
    split at h
    · next hbody =>
      refine declares_of_mem_record ?_ rfl h
      exact congrArg (some <| Head.ofSignature _ ·) (if_pos hbody)
    · next hbody =>
      refine declares_of_mem_record ?_ rfl h
      exact congrArg (some <| Head.ofSignature _ ·) (if_neg hbody)
  case h_7 heq => -- a foreign function
    cases heq
    exact declares_of_mem_record rfl rfl h
  case h_8 heq => -- a closure
    cases heq
    split at h
    · exact declares_of_mem_record rfl rfl h
    · exact Or.inl h
  all_goals exact Or.inl h

/-- What holds of every function that a node adds, and of the node, holds of every function that a
tree adds, and of a node in it. -/
theorem walk_records {P : Node → Function → Prop}
    (hP : ∀ {ctx : Context} {k : Kind} {cs : List Node} {s : Index},
      f ∈ (enter o ctx (.node k cs) s).index.functions → f ∈ s.functions ∨ P (.node k cs) f)
    {ctx : Context} {n : Node} {s : Index} (h : f ∈ (walk o ctx n s).functions) :
    f ∈ s.functions ∨ ∃ m, m.Inside n ∧ P m f := by
  have hall : ∀ cs : List Node, (∀ c ∈ cs, ∀ ctx s, f ∈ (walk o ctx c s).functions →
      f ∈ s.functions ∨ ∃ m, m.Inside c ∧ P m f) →
      ∀ ctx walks i s, f ∈ (walkAll o ctx walks i cs s).functions →
        f ∈ s.functions ∨ ∃ c ∈ cs, ∃ m, m.Inside c ∧ P m f := by
    intro cs
    induction cs with
    | nil => exact fun _ ctx walks i s h ↦ Or.inl h
    | cons c cs ih =>
      intro hcs ctx walks i s h
      rw [walkAll] at h
      rcases ih (fun c hc ↦ hcs c (List.mem_cons_of_mem _ hc)) ctx walks (i + 1) _ h with
        hhead | ⟨c', hc', hm⟩
      · split at hhead
        · exact (hcs c List.mem_cons_self ctx s hhead).imp_right fun hm ↦
            ⟨c, List.mem_cons_self, hm⟩
        · exact Or.inl hhead
      · exact Or.inr ⟨c', List.mem_cons_of_mem _ hc', hm⟩
  -- the context and the index change on the way, so the induction is on the tree alone
  induction n using Node.induction generalizing ctx s with
  | token | unread => exact Or.inl h
  | group d cs ih =>
    rcases hall cs (fun c hc _ _ ↦ ih c hc) ctx _ 0 s h with hbefore | ⟨c, hc, m, hm, hf⟩
    · exact Or.inl hbefore
    · exact Or.inr ⟨m, .group hc hm, hf⟩
  | node k cs ih =>
    rw [walk] at h
    rcases hall cs (fun c hc _ _ ↦ ih c hc) _ _ 0 _ h with hentered | ⟨c, hc, m, hm, hf⟩
    · exact (hP hentered).imp_right fun hf ↦ ⟨_, .refl _, hf⟩
    · exact Or.inr ⟨m, .node hc hm, hf⟩

/-- What holds of every function that a node adds holds of every function of an index. -/
theorem build_records {P : Node → Function → Prop}
    (hP : ∀ {ctx : Context} {k : Kind} {cs : List Node} {s : Index},
      f ∈ (enter o ctx (.node k cs) s).index.functions → f ∈ s.functions ∨ P (.node k cs) f)
    {u : SourceUnit} (h : f ∈ (build o u).functions) : ∃ n, u.Holds n ∧ P n f := by
  rcases walk_records hP (n := u.items) h with hattributes | ⟨m, hm, hf⟩
  · rcases walk_records hP (n := u.attributes) hattributes with hnone | ⟨m, hm, hf⟩
    · simp at hnone
    · exact ⟨m, Or.inl hm, hf⟩
  · exact ⟨m, Or.inr hm, hf⟩

/-- Every function of the index of a unit is declared by a node of the unit. -/
theorem exists_declares {u : SourceUnit} (h : f ∈ (build o u).functions) :
    ∃ n, u.Holds n ∧ Declares o n f :=
  build_records enter_declares h

end Index

end RenderTrace
