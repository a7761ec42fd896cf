import RenderTrace.Proofs.Function.Declared

/-!
# Indexes with and without inline functions

Leaving inline functions out changes one flag of the functions that are inline. The walk records the
same functions in both cases, with the same numbers and in the same contexts
(`Index.build_functions_skipInline`), because nothing that it does depends on which functions render:
not what a node declares, not where its parts stand, and not how closures are counted.
-/

namespace RenderTrace

open Syntax

/-- The function as it counts where inline functions are left out. -/
def Function.unlessInline (f : Function) : Function :=
  { f with
    declaration := { f.declaration with
      isRender := f.declaration.isRender && !f.declaration.isInline } }

namespace Index

variable {o : Options} {s t : Index}

theorem shapeOf_skipInline (o : Options) (b : Bool) (n : Node) :
    Param.shapeOf { o with skipInline := b } n = Param.shapeOf o n := by
  fun_induction Param.shapeOf o n <;> simp_all [Param.shapeOf, Options.isReactiveWrapper]

theorem ofPattern_skipInline (o : Options) (b : Bool) (p : Node) (t : Option Node) :
    Param.ofPattern { o with skipInline := b } p t = Param.ofPattern o p t := by
  simp only [Param.ofPattern, funext (shapeOf_skipInline o b)]

theorem declaredBy_skipInline (n sig : Node) (kind : FunctionKind) (body : Option Node)
    (o : Options) (b : Bool) :
    declaredBy n sig kind body { o with skipInline := b } = declaredBy n sig kind body o := by
  simp only [declaredBy, Param.ofInputs, ofPattern_skipInline]

theorem declaredByClosure_skipInline (n : Node) (name : String) (o : Options) (b : Bool) :
    declaredByClosure n name { o with skipInline := b } = declaredByClosure n name o := by
  simp only [declaredByClosure, Param.ofClosureInputs, ofPattern_skipInline]

theorem functionOf_skipInline (o : Options) (ctx : Context) (id : FunctionId) (d : Declared) :
    functionOf { o with skipInline := true } ctx id d =
      (functionOf { o with skipInline := false } ctx id d).unlessInline := by
  simp [functionOf, Function.unlessInline, isRender, Options.prefixSegments]

/-- `t` holds what `s` holds, as it counts where inline functions are left out. -/
def LeavesOutInline (s t : Index) : Prop :=
  t.functions = s.functions.map Function.unlessInline

theorem LeavesOutInline.record (h : LeavesOutInline s t) (ctx : Context) (d : Declared) :
    LeavesOutInline (record { o with skipInline := false } ctx d s)
      (record { o with skipInline := true } ctx d t) := by
  rw [LeavesOutInline] at h ⊢
  simp [Index.record, h, functionOf_skipInline]

theorem LeavesOutInline.size_eq (h : LeavesOutInline s t) :
    t.functions.size = s.functions.size := by
  rw [h, Array.size_map]

theorem LeavesOutInline.closureName_eq (h : LeavesOutInline s t) (ctx : Context) :
    closureName ctx t = closureName ctx s := by
  unfold closureName
  rw [LeavesOutInline] at h
  rw [h, Array.filter_map]
  simp only [Array.size_map, Array.getElem?_map, Option.map_map]
  rfl

/-- Two steps of a walk that differ in the functions that render. -/
structure StepLeavesOutInline (step step' : Step) : Prop where
  context : step'.context = step.context
  walks : step'.walks = step.walks
  index : LeavesOutInline step.index step'.index

theorem LeavesOutInline.enter (h : LeavesOutInline s t) (ctx : Context) (n : Node) :
    StepLeavesOutInline (Index.enter { o with skipInline := false } ctx n s)
      (Index.enter { o with skipInline := true } ctx n t) := by
  have hinside : ∀ (d : Declared) (outer : Context) (at_ : Nat), StepLeavesOutInline
      ⟨{ outer with enclosing := some s.functions.size }, fun i ↦ i == at_,
        Index.record { o with skipInline := false } outer d s⟩
      ⟨{ outer with enclosing := some t.functions.size }, fun i ↦ i == at_,
        Index.record { o with skipInline := true } outer d t⟩ :=
    fun d outer at_ ↦ ⟨by rw [h.size_eq], rfl, h.record outer d⟩
  unfold Index.enter
  simp only [declaredBy_skipInline, declaredByClosure_skipInline, h.closureName_eq]
  split
  case h_4 => -- a function
    split
    · exact hinside _ { ctx with selfType := none } 3
    · exact hinside _ ctx 3
  case h_5 => exact hinside _ ctx 4
  case h_6 => -- a method of a trait
    split
    · exact ⟨rfl, rfl, h.record _ _⟩
    · exact hinside _ ctx 2
  case h_7 => exact ⟨rfl, rfl, h.record _ _⟩
  case h_8 => -- a closure
    split
    · exact hinside _ ctx 10
    · exact ⟨rfl, rfl, h⟩
  all_goals exact ⟨rfl, rfl, h⟩

theorem LeavesOutInline.walk (h : LeavesOutInline s t) (ctx : Context) (n : Node) :
    LeavesOutInline (Index.walk { o with skipInline := false } ctx n s)
      (Index.walk { o with skipInline := true } ctx n t) := by
  have hall : ∀ cs : List Node, (∀ c ∈ cs, ∀ ctx {s t}, LeavesOutInline s t →
        LeavesOutInline (Index.walk { o with skipInline := false } ctx c s)
          (Index.walk { o with skipInline := true } ctx c t)) →
      ∀ ctx walks i {s t}, LeavesOutInline s t →
        LeavesOutInline (walkAll { o with skipInline := false } ctx walks i cs s)
          (walkAll { o with skipInline := true } ctx walks i cs t) := by
    intro cs
    induction cs with
    | nil => exact fun _ _ _ _ _ _ h ↦ h
    | cons c cs ih =>
      intro hcs ctx walks i s t h
      rw [walkAll, walkAll]
      refine ih (fun c hc ↦ hcs c (List.mem_cons_of_mem _ hc)) ctx walks (i + 1) ?_
      split
      · exact hcs c List.mem_cons_self ctx h
      · exact h
  induction n using Node.induction generalizing ctx s t with
  | token | unread => exact h
  | group d cs ih => exact hall cs (fun c hc ctx _ _ h ↦ ih c hc h ctx) ctx _ 0 h
  | node k cs ih =>
    have hstep := h.enter (o := o) ctx (.node k cs)
    rw [Index.walk, Index.walk, hstep.context, hstep.walks]
    exact hall cs (fun c hc ctx _ _ h ↦ ih c hc h ctx) _ _ 0 hstep.index

/-- **Leaving inline functions out keeps the index but for what renders.** -/
theorem build_functions_skipInline (o : Options) (u : SourceUnit) :
    (build { o with skipInline := true } u).functions =
      (build { o with skipInline := false } u).functions.map Function.unlessInline := by
  have hempty : LeavesOutInline {} {} := by simp [LeavesOutInline]
  exact (hempty.walk {} u.attributes).walk {} u.items

theorem lookup_skipInline (o : Options) (u : SourceUnit) :
    (build { o with skipInline := true } u).lookup =
      (build { o with skipInline := false } u).lookup := by
  funext l
  unfold lookup
  rw [build_functions_skipInline, Array.toList_map, ← List.map_reverse, List.find?_map,
    Option.map_map]
  rfl

end Index

end RenderTrace
