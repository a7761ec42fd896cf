import Mathlib.Data.List.Nodup
import RenderTrace.Proofs.Function.Declared
import RenderTrace.Proofs.Injection.Rewriting

/-!
# What a pass does

A pass meets the heads of a tree that have a body and belong to members of the closure, inner ones
first. What it finds there is a `Meeting`, and what it does about it depends on the meeting alone:
`Advances p p' ms` says how the meetings `ms` lead from one state of a pass to another.

The functions met so far are kept only to pass over what comes again. So everything is said under
the condition that nothing does: the functions that were met before and those that stand in the tree
are all different (`Fresh`). `weave_yields` says that the pass then is `rewritten` and reports its
meetings, and that it comes to its end unless something stands against it at one of them. On the
other hand, a pass that met all members before does nothing (`weave_of_no_target`).
-/

namespace RenderTrace.Injector

open Syntax

/-! ### Runs -/

theorem bind_run_eq_ok {α β : Type} {x : Weaving α} {f : α → Weaving β} {p p' : Pass} {b : β} :
    (x >>= f).run p = .ok (b, p') ↔
      ∃ a q, x.run p = .ok (a, q) ∧ (f a).run q = .ok (b, p') := by
  rw [StateT.run_bind]
  cases hx : x.run p with
  | error e => simp [bind, Except.bind]
  | ok r =>
    obtain ⟨a, q⟩ := r
    constructor
    · exact fun h ↦ ⟨a, q, rfl, h⟩
    · rintro ⟨a', q', hr, h⟩
      obtain ⟨rfl, rfl⟩ := Prod.mk.inj (Except.ok.inj hr)
      exact h

theorem pure_run_eq_ok {α : Type} {a b : α} {p p' : Pass} :
    (pure a : Weaving α).run p = .ok (b, p') ↔ a = b ∧ p = p' := by
  rw [StateT.run_pure]
  constructor
  · exact fun h ↦ Prod.mk.inj (Except.ok.inj h)
  · rintro ⟨rfl, rfl⟩
    rfl

theorem get_bind_run {α : Type} (f : Pass → Weaving α) (p : Pass) :
    ((get : Weaving Pass) >>= f).run p = (f p).run p := rfl

theorem modify_bind_run {α : Type} (g : Pass → Pass) (f : Unit → Weaving α) (p : Pass) :
    ((modify g : Weaving Unit) >>= f).run p = (f ()).run (g p) := rfl

/-! ### Members by place -/

/-- The members of the closure of an analysis by place. -/
def members (a : Analysis) : Members := target? a []

theorem target?_eq_some {a : Analysis} {visited : List FunctionId} {l : Location} {f : Function} :
    target? a visited l = some f ↔ ∃ id, a.lookup l = some id ∧ a.closure.contains id = true ∧
      id ∉ visited ∧ a.function? id = some f := by
  unfold target?
  cases a.lookup l with
  | none => simp
  | some id =>
    by_cases hclosure : a.closure.contains id = true <;> by_cases hvisited : id ∈ visited <;>
      simp [hclosure, hvisited]

/-- What is a member and was not met is a target. -/
theorem target?_of_fresh {a : Analysis} (hn : a.index.Numbered) {visited : List FunctionId}
    {l : Location} {f : Function} (hf : members a l = some f)
    (hfresh : f.declaration.id ∉ visited) : target? a visited l = some f := by
  obtain ⟨id, hlookup, hclosure, -, hid⟩ := target?_eq_some.1 hf
  rw [(hn id f hid).1] at hfresh
  exact target?_eq_some.2 ⟨id, hlookup, hclosure, hfresh, hid⟩

/-- What is a target is a member. -/
theorem members_of_target {a : Analysis} {visited : List FunctionId} {l : Location} {f : Function}
    (h : target? a visited l = some f) : members a l = some f := by
  obtain ⟨id, hlookup, hclosure, -, hid⟩ := target?_eq_some.1 h
  exact target?_eq_some.2 ⟨id, hlookup, hclosure, List.not_mem_nil, hid⟩

theorem target?_of_not_member {a : Analysis} {l : Location} (hl : members a l = none)
    (visited : List FunctionId) : target? a visited l = none := by
  rw [Option.eq_none_iff_forall_ne_some] at hl ⊢
  exact fun f hf ↦ hl f (members_of_target hf)

/-! ### Meetings -/

/-- A member of the closure that a pass meets, with the block of its body as it is found. -/
structure Meeting where
  function : Function
  block : Node
  /-- Whether there is such a block: the body of a closure may be no statement. -/
  fits : Bool

namespace Meeting

/-- The number of the function that is met. -/
def id (mt : Meeting) : FunctionId := mt.function.declaration.id

/-- The warning about the function, if it has no parameter for the host. -/
def warning (inj : Injector) (mt : Meeting) : String := inj.hostWarning mt.function

/-- Whether the function gets its tracker call. -/
def isReady (inj : Injector) (mt : Meeting) : Bool := inj.isReady mt.function mt.block

/-- Whether the function is left as it is for want of a parameter for the host. -/
def isHostless (inj : Injector) (mt : Meeting) : Bool :=
  !isInstrumented mt.block && !inj.hasHost mt.function

/-- Nothing stands against a pass where the function is met. -/
def IsPassable (inj : Injector) (mt : Meeting) : Prop :=
  mt.fits = true ∧ (mt.isReady inj = true →
    ∃ statement, Injection.trackerStatement? inj.runtime inj.host mt.function = some statement)

end Meeting

/-- The meeting at a head when the functions inside are done, if it has a body and belongs to a
member. -/
def meet? (m : Members) (h : Head) : Option Meeting := do
  let body ← h.body
  let f ← m h.place
  return ⟨f, if h.isClosure then bodyBlock body else body,
    !h.isClosure || (bodyBlock? body).isSome⟩

/-- The meetings in a list of heads. -/
def met (inj : Injector) (m : Members) (hs : List Head) : List Meeting :=
  hs.filterMap fun h ↦ meet? m (rewrittenHead inj m h)

/-- How meetings lead from one state of a pass to another. -/
structure Advances (inj : Injector) (ms : List Meeting) (p p' : Pass) : Prop where
  visited : p'.visited = p.visited ++ ms.map Meeting.id
  instrumented : p'.summary.instrumented =
    p.summary.instrumented ++ (ms.filter (·.isReady inj)).map Meeting.id
  untouched : p'.summary.untouched =
    p.summary.untouched ++ (ms.filter (!·.isReady inj)).map Meeting.id
  warnings : p'.summary.warnings =
    p.summary.warnings ++ (ms.filter (·.isHostless inj)).map (Meeting.warning inj)
  /-- Nothing stood against it. -/
  passable : ∀ mt ∈ ms, mt.IsPassable inj

namespace Advances

variable {inj : Injector} {ms ms' : List Meeting} {p p' p'' : Pass}

theorem refl (inj : Injector) (p : Pass) : Advances inj [] p p := by
  constructor <;> simp

theorem trans (h : Advances inj ms p p') (h' : Advances inj ms' p' p'') :
    Advances inj (ms ++ ms') p p'' where
  visited := by rw [h'.visited, h.visited, List.map_append, List.append_assoc]
  instrumented := by
    rw [h'.instrumented, h.instrumented, List.filter_append, List.map_append, List.append_assoc]
  untouched := by
    rw [h'.untouched, h.untouched, List.filter_append, List.map_append, List.append_assoc]
  warnings := by
    rw [h'.warnings, h.warnings, List.filter_append, List.map_append, List.append_assoc]
  passable mt hmt := (List.mem_append.1 hmt).elim (h.passable mt) (h'.passable mt)

end Advances

variable {inj : Injector} {a : Analysis}

/-! ### One body -/

theorem weaveBody_of_no_target {p : Pass} {l : Location} (h : target? a p.visited l = none)
    (block : Node) : (weaveBody inj a l block).run p = .ok (block, p) := by
  rw [weaveBody, get_bind_run, h]
  rfl

/-- A member that is met for the first time: its block becomes what `front` says. -/
theorem weaveBody_of_target {p p' : Pass} {l : Location} {f : Function}
    (h : target? a p.visited l = some f) {block block' : Node}
    (hrun : (weaveBody inj a l block).run p = .ok (block', p')) :
    block' = inj.front f block ∧ Advances inj [⟨f, block, true⟩] p p' := by
  rw [weaveBody, get_bind_run, h] at hrun
  simp only [modify_bind_run] at hrun
  by_cases hbegun : isInstrumented block = true
  · -- a tracker call is there already
    have hready : inj.isReady f block = false := by simp [isReady, hbegun]
    rw [if_pos hbegun, leave, modify_bind_run, pure_run_eq_ok] at hrun
    obtain ⟨rfl, rfl⟩ := hrun
    refine ⟨by rw [front, hready]; rfl, ?_⟩
    constructor <;>
      simp [Meeting.isReady, Meeting.isHostless, Meeting.id, Meeting.IsPassable, hready, hbegun]
  rw [if_neg hbegun] at hrun
  by_cases hhost : inj.hasHost f = true
  · -- the function gets its tracker call, if that can be made
    have hready : inj.isReady f block = true := by simp [isReady, hbegun, hhost]
    rw [if_neg (by simpa [hasHost] using hhost)] at hrun
    cases hstatement : Injection.trackerStatement? inj.runtime inj.host f with
    | none =>
      rw [hstatement] at hrun
      cases hrun
    | some statement =>
      simp only [hstatement] at hrun
      rw [done, modify_bind_run, pure_run_eq_ok] at hrun
      obtain ⟨rfl, rfl⟩ := hrun
      refine ⟨by rw [front, if_pos hready, withCall, hstatement], ?_⟩
      constructor <;>
        simp [Meeting.isReady, Meeting.isHostless, Meeting.id, Meeting.IsPassable, hready, hhost,
          hstatement]
  · -- there is no parameter for the host
    have hready : inj.isReady f block = false := by simp [isReady, hhost]
    rw [if_pos (by simpa [hasHost] using hhost), leave, modify_bind_run, pure_run_eq_ok] at hrun
    obtain ⟨rfl, rfl⟩ := hrun
    refine ⟨by rw [front, hready]; rfl, ?_⟩
    constructor <;>
      simp [Meeting.isReady, Meeting.isHostless, Meeting.id, Meeting.warning, Meeting.IsPassable,
        hostWarning, hready, hbegun, hhost]

/-- A body is passed unless its function needs a tracker call that cannot be made. -/
theorem weaveBody_ends {p : Pass} {l : Location} {block : Node}
    (h : ∀ f, target? a p.visited l = some f → inj.isReady f block = true →
      ∃ statement, Injection.trackerStatement? inj.runtime inj.host f = some statement) :
    ∃ r, (weaveBody inj a l block).run p = .ok r := by
  rw [weaveBody, get_bind_run]
  cases hf : target? a p.visited l with
  | none => exact ⟨_, rfl⟩
  | some f =>
    simp only [modify_bind_run]
    by_cases hbegun : isInstrumented block = true
    · rw [if_pos hbegun]
      exact ⟨_, rfl⟩
    rw [if_neg hbegun]
    by_cases hhost : inj.hasHost f = true
    · obtain ⟨statement, hstatement⟩ := h f hf (by simp [isReady, hbegun, hhost])
      rw [if_neg (by simpa [hasHost] using hhost), hstatement]
      exact ⟨_, rfl⟩
    · rw [if_pos (by simpa [hasHost] using hhost)]
      exact ⟨_, rfl⟩

/-! ### One node -/

theorem wrap_run (p : Pass) (body : Node) : (wrap body).run p =
    match wrapped? body with
    | some block => .ok (block, p)
    | none => .error .closureBody := by
  show (match wrapped? body with
    | some block => pure block
    | none => throw .closureBody : Weaving Node).run p = _
  cases wrapped? body <;> rfl

theorem weaveClosureBody_of_no_target {p : Pass} {l : Location}
    (h : target? a p.visited l = none) (body : Node) :
    (weaveClosureBody inj a l body).run p = .ok (body, p) := by
  rw [weaveClosureBody, get_bind_run, h]
  rfl

/-- The body of a closure that belongs to a target is instrumented as its block. -/
theorem weaveClosureBody_run {p : Pass} {l : Location} {f : Function}
    (h : target? a p.visited l = some f) (body : Node) :
    (weaveClosureBody inj a l body).run p =
      match bodyBlock? body with
      | some block =>
        (do return .node .exprBlock [.list [], .absent, ← weaveBody inj a l block] :
          Weaving Node).run p
      | none => .error .closureBody := by
  rw [weaveClosureBody, get_bind_run, h]
  unfold bodyBlock?
  cases hplain : plainBlock? body with
  | some b => rfl
  | none =>
    show (wrap body >>= _).run p = _
    rw [StateT.run_bind, wrap_run]
    cases wrapped? body <;> rfl

theorem weaveClosureBody_of_target {p p' : Pass} {l : Location} {f : Function}
    (h : target? a p.visited l = some f) {body body' : Node}
    (hrun : (weaveClosureBody inj a l body).run p = .ok (body', p')) :
    body' = .node .exprBlock [.list [], .absent, inj.front f (bodyBlock body)] ∧
      Advances inj [⟨f, bodyBlock body, (bodyBlock? body).isSome⟩] p p' := by
  rw [weaveClosureBody_run h] at hrun
  unfold bodyBlock
  cases hblock : bodyBlock? body with
  | none =>
    rw [hblock] at hrun
    cases hrun
  | some block =>
    rw [hblock] at hrun
    obtain ⟨woven, q, hwoven, hrest⟩ := bind_run_eq_ok.1 hrun
    obtain ⟨rfl, rfl⟩ := pure_run_eq_ok.1 hrest
    obtain ⟨rfl, hadvances⟩ := weaveBody_of_target h hwoven
    exact ⟨rfl, hadvances⟩

/-- The body of a closure is passed unless it is no statement, or its function needs a tracker call
that cannot be made. -/
theorem weaveClosureBody_ends {p : Pass} {l : Location} {body : Node}
    (h : ∀ f, target? a p.visited l = some f → (bodyBlock? body).isSome ∧
      (inj.isReady f (bodyBlock body) = true →
        ∃ statement, Injection.trackerStatement? inj.runtime inj.host f = some statement)) :
    ∃ r, (weaveClosureBody inj a l body).run p = .ok r := by
  cases hf : target? a p.visited l with
  | none => exact ⟨_, weaveClosureBody_of_no_target hf body⟩
  | some f =>
    obtain ⟨block, hblock⟩ := Option.isSome_iff_exists.1 (h f hf).1
    rw [bodyBlock, hblock] at h
    rw [weaveClosureBody_run hf, hblock]
    obtain ⟨⟨woven, q⟩, hwoven⟩ := weaveBody_ends fun g hg ↦ (h g hg).2
    exact ⟨_, bind_run_eq_ok.2 ⟨woven, q, hwoven, rfl⟩⟩

variable (inj a) in
/-- Instruments the body of a head. -/
def weaveHead (place : Location) (isClosure : Bool) (body : Node) : Weaving Node :=
  if isClosure then weaveClosureBody inj a place body else weaveBody inj a place body

/-- A head whose function was not met before. -/
theorem weaveHead_spec (hn : a.index.Numbered) {place : Location} {isClosure : Bool}
    {body body' : Node} {p p' : Pass}
    (hrun : (weaveHead inj a place isClosure body).run p = .ok (body', p'))
    (hfresh : ∀ mt ∈ meet? (members a) ⟨place, isClosure, some body⟩, mt.id ∉ p.visited) :
    body' = inj.newBody (members a) place isClosure body ∧
      Advances inj (meet? (members a) ⟨place, isClosure, some body⟩).toList p p' := by
  unfold newBody
  cases hf : members a place with
  | none =>
    have htarget := target?_of_not_member hf p.visited
    have hmeet : meet? (members a) ⟨place, isClosure, some body⟩ = none := by simp [meet?, hf]
    have hsame : (weaveHead inj a place isClosure body).run p = .ok (body, p) := by
      unfold weaveHead
      split
      · exact weaveClosureBody_of_no_target htarget body
      · exact weaveBody_of_no_target htarget body
    obtain ⟨rfl, rfl⟩ := Prod.mk.inj (Except.ok.inj (hsame.symm.trans hrun))
    rw [hmeet]
    exact ⟨rfl, .refl inj p⟩
  | some f =>
    have hmeet : meet? (members a) ⟨place, isClosure, some body⟩ =
        some ⟨f, if isClosure then bodyBlock body else body,
          !isClosure || (bodyBlock? body).isSome⟩ := by simp [meet?, hf]
    -- a member that was not met before is a target, so the pass acts on its body
    have htarget := target?_of_fresh hn hf (hfresh _ hmeet)
    rw [hmeet]
    unfold weaveHead at hrun
    cases isClosure with
    | true => exact weaveClosureBody_of_target htarget hrun
    | false => exact weaveBody_of_target htarget hrun

theorem weaveHead_ends {place : Location} {isClosure : Bool} {body : Node} {p : Pass}
    (h : ∀ mt ∈ meet? (members a) ⟨place, isClosure, some body⟩, mt.IsPassable inj) :
    ∃ r, (weaveHead inj a place isClosure body).run p = .ok r := by
  have hpassable : ∀ f, target? a p.visited place = some f →
      Meeting.IsPassable inj ⟨f, if isClosure then bodyBlock body else body,
        !isClosure || (bodyBlock? body).isSome⟩ := fun f hf ↦
    h _ (by simp [meet?, members_of_target hf])
  unfold weaveHead
  cases isClosure with
  | true => exact weaveClosureBody_ends hpassable
  | false => exact weaveBody_ends fun f hf ↦ (hpassable f hf).2

/-- Instrumenting a node is instrumenting the body of the head that it is. -/
theorem weaveNode_eq (k : Kind) (cs : List Node) :
    weaveNode inj a k cs =
      match Head.of? k cs with
      | some ⟨place, isClosure, some body⟩ => do
        return .node k (cs.set (Head.bodyAt k) (← weaveHead inj a place isClosure body))
      | _ => return .node k cs := by
  unfold weaveNode
  split
  · rfl
  · rfl
  · next attrs sig block semi =>
    have hof : Head.of? .traitFn [attrs, sig, block, semi] =
        some (.ofSignature sig (if block.isAbsent then none else some block)) := rfl
    rw [hof]
    by_cases habsent : block.isAbsent = true
    · rw [if_pos habsent, if_pos habsent]
      rfl
    · rw [if_neg habsent, if_neg habsent]
      rfl
  · rfl
  · next hfn hmethod htrait hclosure =>
    -- the shapes that were matched on above are all heads that have bodies
    have hnone : ∀ place isClosure body, Head.of? k cs ≠ some ⟨place, isClosure, some body⟩ := by
      intro place isClosure body h
      unfold Head.of? at h
      split at h
      · next hlength =>
        match cs, hlength with
        | [_, _, _, _], _ => exact hfn _ _ _ _ rfl rfl
      · next hlength =>
        match cs, hlength with
        | [_, _, _, _, _], _ => exact hmethod _ _ _ _ _ rfl rfl
      · next hlength =>
        match cs, hlength with
        | [_, _, _, _], _ => exact htrait _ _ _ _ rfl rfl
      · cases h
      · next hlength =>
        match cs, hlength with
        | [_, _, _, _, _, _, _, _, _, _, _], _ =>
          exact hclosure _ _ _ _ _ _ _ _ _ _ _ rfl rfl
      · cases h
    split
    · next h => exact absurd h (hnone _ _ _)
    · rfl

/-- A node whose children are done, and whose function was not met before. -/
theorem weaveNode_spec (hn : a.index.Numbered) {k : Kind} {cs : List Node} {p p' : Pass}
    {n' : Node} (hrun : (weaveNode inj a k cs).run p = .ok (n', p'))
    (hfresh : ∀ mt ∈ (Head.of? k cs).toList.filterMap (meet? (members a)), mt.id ∉ p.visited) :
    n' = .node k (inj.newChildren (members a) k cs) ∧
      Advances inj ((Head.of? k cs).toList.filterMap (meet? (members a))) p p' := by
  rw [weaveNode_eq] at hrun
  unfold newChildren
  match hof : Head.of? k cs with
  | none | some ⟨_, _, none⟩ =>
    rw [hof] at hrun
    obtain ⟨rfl, rfl⟩ := pure_run_eq_ok.1 hrun
    exact ⟨rfl, .refl inj p⟩
  | some ⟨place, isClosure, some body⟩ =>
    rw [hof] at hrun hfresh
    obtain ⟨body', q, hbody, hrest⟩ := bind_run_eq_ok.1 hrun
    obtain ⟨rfl, rfl⟩ := pure_run_eq_ok.1 hrest
    have hmeetings : [Head.mk place isClosure (some body)].filterMap (meet? (members a)) =
        (meet? (members a) ⟨place, isClosure, some body⟩).toList := by
      cases hmeet : meet? (members a) ⟨place, isClosure, some body⟩ <;> simp [hmeet]
    rw [Option.toList_some, hmeetings] at hfresh ⊢
    obtain ⟨rfl, hadvances⟩ := weaveHead_spec hn hbody fun mt hmt ↦ hfresh mt (by simpa using hmt)
    exact ⟨rfl, hadvances⟩

theorem weaveNode_ends {k : Kind} {cs : List Node} {p : Pass}
    (h : ∀ mt ∈ (Head.of? k cs).toList.filterMap (meet? (members a)), mt.IsPassable inj) :
    ∃ r, (weaveNode inj a k cs).run p = .ok r := by
  rw [weaveNode_eq]
  match hof : Head.of? k cs with
  | none | some ⟨_, _, none⟩ => exact ⟨_, rfl⟩
  | some ⟨place, isClosure, some body⟩ =>
    rw [hof] at h
    obtain ⟨⟨body', q⟩, hbody⟩ : ∃ r, (weaveHead inj a place isClosure body).run p = .ok r :=
      weaveHead_ends fun mt hmt ↦ h mt (List.mem_filterMap.2 ⟨_, List.mem_cons_self, hmt⟩)
    exact ⟨_, bind_run_eq_ok.2 ⟨body', q, hbody, rfl⟩⟩

/-! ### Whole trees -/

/-- The functions that a pass met before and those that it meets at heads are all different. -/
def Fresh (inj : Injector) (a : Analysis) (hs : List Head) (p : Pass) : Prop :=
  (p.visited ++ (met inj (members a) hs).map Meeting.id).Nodup

theorem met_append (m : Members) (hs hs' : List Head) :
    met inj m (hs ++ hs') = met inj m hs ++ met inj m hs' := List.filterMap_append

theorem Fresh.of_append {hs hs' : List Head} {p : Pass} (h : Fresh inj a (hs ++ hs') p) :
    Fresh inj a hs p := by
  rw [Fresh, met_append, List.map_append, ← List.append_assoc] at h
  exact h.of_append_left

/-- The functions of a step are new in front of it, and those of the next one behind it. -/
theorem Fresh.advance {hs hs' : List Head} {p p' : Pass} (h : Fresh inj a (hs ++ hs') p)
    (hadvances : Advances inj (met inj (members a) hs) p p') : Fresh inj a hs' p' := by
  rw [Fresh, met_append, List.map_append, ← List.append_assoc] at h
  rwa [Fresh, hadvances.visited]

/-- What a step of a pass does that meets the heads `hs`, all with new functions: it has the result
`r`. -/
structure Yields {α : Type} (inj : Injector) (a : Analysis) (w : Weaving α) (r : α)
    (hs : List Head) : Prop where
  /-- If it ends, it has its result, and advances by its meetings. -/
  spec : ∀ ⦃p p' : Pass⦄ ⦃x : α⦄, Fresh inj a hs p → w.run p = .ok (x, p') →
    x = r ∧ Advances inj (met inj (members a) hs) p p'
  /-- It ends if nothing stands against it. -/
  ends : ∀ ⦃p : Pass⦄, Fresh inj a hs p →
    (∀ mt ∈ met inj (members a) hs, mt.IsPassable inj) → ∃ x, w.run p = .ok x

theorem Yields.pure {α : Type} (r : α) : Yields inj a (Pure.pure r) r [] where
  spec p p' x _ hrun := by
    obtain ⟨rfl, rfl⟩ := pure_run_eq_ok.1 hrun
    exact ⟨rfl, .refl inj p⟩
  ends p _ _ := ⟨_, rfl⟩

theorem Yields.bind {α β : Type} {w : Weaving α} {f : α → Weaving β} {r : α} {r' : β}
    {hs hs' : List Head} (h : Yields inj a w r hs) (h' : Yields inj a (f r) r' hs') :
    Yields inj a (w >>= f) r' (hs ++ hs') where
  spec p p' x hfresh hrun := by
    obtain ⟨y, q, hfirst, hnext⟩ := bind_run_eq_ok.1 hrun
    obtain ⟨rfl, hadvances⟩ := h.spec hfresh.of_append hfirst
    obtain ⟨rfl, hadvances'⟩ := h'.spec (hfresh.advance hadvances) hnext
    exact ⟨rfl, met_append (members a) hs hs' ▸ hadvances.trans hadvances'⟩
  ends p hfresh hpassable := by
    rw [met_append] at hpassable
    obtain ⟨⟨y, q⟩, hfirst⟩ := h.ends hfresh.of_append fun mt hmt ↦
      hpassable mt (List.mem_append_left _ hmt)
    obtain ⟨rfl, hadvances⟩ := h.spec hfresh.of_append hfirst
    obtain ⟨⟨z, q'⟩, hnext⟩ := h'.ends (hfresh.advance hadvances) fun mt hmt ↦
      hpassable mt (List.mem_append_right _ hmt)
    exact ⟨_, bind_run_eq_ok.2 ⟨y, q, hfirst, hnext⟩⟩

theorem Yields.map {α β : Type} {w : Weaving α} {r : α} {hs : List Head} (h : Yields inj a w r hs)
    (f : α → β) : Yields inj a (do return f (← w)) (f r) hs := by
  have hbind := h.bind (f := fun x ↦ Pure.pure (f x)) (.pure (f r))
  rwa [List.append_nil] at hbind

theorem weaveNode_yields (hn : a.index.Numbered) (k : Kind) (cs : List Node) :
    Yields inj a (weaveNode inj a k (cs.map (rewritten inj (members a))))
      (rewritten inj (members a) (.node k cs)) (Head.of? k cs).toList := by
  have hmet : met inj (members a) (Head.of? k cs).toList =
      (Head.of? k (cs.map (rewritten inj (members a)))).toList.filterMap (meet? (members a)) := by
    rw [head_rewritten, met]
    cases Head.of? k cs <;> rfl
  constructor
  · intro p p' x hfresh hrun
    rw [Fresh, hmet] at hfresh
    rw [hmet, rewritten_node]
    exact weaveNode_spec hn hrun fun mt hmt hvisited ↦
      (List.nodup_append.1 hfresh).2.2 _ hvisited _ (List.mem_map_of_mem hmt) rfl
  · intro p hfresh hpassable
    rw [hmet] at hpassable
    exact weaveNode_ends hpassable

/-- **What a pass makes of a tree, what it reports, and when it ends.** -/
theorem weave_yields (hn : a.index.Numbered) (n : Node) :
    Yields inj a (weave inj a n) (rewritten inj (members a) n) n.heads := by
  have hall : ∀ cs : List Node,
      (∀ c ∈ cs, Yields inj a (weave inj a c) (rewritten inj (members a) c) c.heads) →
      Yields inj a (weaveAll inj a cs) (cs.map (rewritten inj (members a)))
        (Node.headsAll cs) := by
    intro cs hcs
    induction cs with
    | nil => exact .pure []
    | cons c cs ih =>
      have hrest := ih fun c hc ↦ hcs c (List.mem_cons_of_mem _ hc)
      exact (hcs c List.mem_cons_self).bind (hrest.map (rewritten inj (members a) c :: ·))
  induction n using Node.induction with
  | token cls text span => exact .pure _
  | unread trees => exact .pure _
  | group d cs ih =>
    rw [rewritten_group]
    exact (hall cs ih).map (Node.group d)
  | node k cs ih => exact (hall cs ih).bind (weaveNode_yields hn k cs)

/-! ### When nothing is left to be met -/

end RenderTrace.Injector
