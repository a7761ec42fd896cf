import RenderTrace.Proofs.Injection.Apply
import RenderTrace.Proofs.Syntax.Sample

/-!
# What a pass leaves alone

Whatever an injector met before, and whatever stands at which place, a pass changes nothing but
bodies: those of the functions that it reports as instrumented, and besides these the bodies of
closures that are expressions. A closure that is a member of the closure set has its expression put
into a block before it is found out whether it gets a tracker call, so that a closure which is
reported as untouched comes out with another body than it had (`Left.boxed`).

What is left alone is said by leaving out the rest. `masked hidden` takes the bodies at the places
`hidden` out of a tree; a unit and what a pass makes of it are the same but for these
(`Injector.apply_frame`), and so are the bodies of all heads that are not hidden, inside the hidden
ones too. The functions that a pass met are in its summary at the end, so the invariant of the
induction is that what was reported so far is part of that summary (`Below`).
-/

namespace RenderTrace.Injector

open Syntax

/-! ### Trees without some bodies -/

/-- What stands for a body that is left out. -/
def hole : Node := .list []

/-- A tree without the bodies at hidden places. -/
def masked (hidden : Location → Bool) : Node → Node :=
  Node.mapBodies fun place _ body ↦ if hidden place then hole else body

variable {hidden : Location → Bool}

theorem masked_node_congr {k : Kind} {cs cs' : List Node}
    (h : cs'.map (masked hidden) = cs.map (masked hidden)) :
    masked hidden (.node k cs') = masked hidden (.node k cs) := by
  rw [masked, Node.mapBodies_node, Node.mapBodies_node, ← masked, h]

theorem masked_group_congr {d : Delimiter} {cs cs' : List Node}
    (h : cs'.map (masked hidden) = cs.map (masked hidden)) :
    masked hidden (.group d cs') = masked hidden (.group d cs) := by
  rw [masked, Node.mapBodies_group, Node.mapBodies_group, ← masked, h]

/-- A head without the hidden bodies inside its body. -/
def maskedHead (hidden : Location → Bool) (h : Head) : Head :=
  ⟨h.place, h.isClosure, h.body.map (masked hidden)⟩

theorem of?_map_masked (k : Kind) (cs : List Node) :
    Head.of? k (cs.map (masked hidden)) = (Head.of? k cs).map (maskedHead hidden) :=
  Node.of?_mapBodies k cs

/-- Nodes with the same children but for hidden bodies are the same head. -/
theorem of?_of_masked_eq {k : Kind} {cs cs' : List Node}
    (h : cs'.map (masked hidden) = cs.map (masked hidden)) {place : Location} {isClosure : Bool}
    {body' : Node} (hof : Head.of? k cs' = some ⟨place, isClosure, some body'⟩) :
    ∃ body, Head.of? k cs = some ⟨place, isClosure, some body⟩ ∧
      masked hidden body' = masked hidden body := by
  have hheads : (Head.of? k cs').map (maskedHead hidden) =
      (Head.of? k cs).map (maskedHead hidden) := by
    rw [← of?_map_masked, ← of?_map_masked, h]
  rw [hof] at hheads
  obtain ⟨⟨_, _, _ | body⟩, hof', hmasked⟩ := Option.map_eq_some_iff.1 hheads.symm
  · cases hmasked
  · obtain ⟨rfl, rfl, hbody⟩ := Head.mk.inj hmasked
    exact ⟨body, hof', (Option.some.inj hbody).symm⟩

/-- A new body at a hidden place makes no difference. -/
theorem masked_set {k : Kind} {cs : List Node} {place : Location} {isClosure : Bool}
    {body body' : Node} (hof : Head.of? k cs = some ⟨place, isClosure, some body⟩)
    (hhidden : hidden place = true)
    (habsent : isClosure = false → body'.isAbsent = body.isAbsent) :
    masked hidden (.node k (cs.set (Head.bodyAt k) body')) = masked hidden (.node k cs) := by
  have hbodies : ∀ {cs : List Node} {b : Node}, Head.of? k cs = some ⟨place, isClosure, some b⟩ →
      masked hidden (.node k cs) = .node k ((cs.map (masked hidden)).set (Head.bodyAt k) hole) := by
    intro cs b hof
    rw [masked, Node.mapBodies_node, Node.withBody, Node.of?_mapBodies, hof]
    simp [hhidden]
  rw [hbodies hof, hbodies ((Head.of?_body hof).2 body' habsent), List.map_set, List.set_set]

theorem plainBlock?_of_masked_eq {body body' : Node}
    (h : masked hidden body' = masked hidden body) (hplain : plainBlock? body' = none) :
    plainBlock? body = none := by
  have hmap : (plainBlock? body').map (masked hidden) = (plainBlock? body).map (masked hidden) := by
    rw [masked, ← plainBlock?_mapBodies, ← plainBlock?_mapBodies, ← masked, h]
  rw [hplain] at hmap
  exact Option.map_eq_none_iff.1 hmap.symm

/-! ### What is reported about a place -/

/-- Whether the function at a place is reported as instrumented. -/
def instrumentedAt (a : Analysis) (s : InjectionSummary) (l : Location) : Bool :=
  (members a l).any fun f ↦ s.instrumented.contains f.declaration.id

/-- Whether the function at a place is reported as untouched. -/
def untouchedAt (a : Analysis) (s : InjectionSummary) (l : Location) : Bool :=
  (members a l).any fun f ↦ s.untouched.contains f.declaration.id

/-- What was reported so far is part of a summary. -/
structure Below (p : Pass) (s : InjectionSummary) : Prop where
  instrumented : p.summary.instrumented ⊆ s.instrumented
  untouched : p.summary.untouched ⊆ s.untouched

variable {inj : Injector} {a : Analysis} {s : InjectionSummary} {p p' : Pass}

theorem Below.of_advances {ms : List Meeting} (h : Advances inj ms p p') (hs : Below p' s) :
    Below p s where
  instrumented _ hid := hs.instrumented (h.instrumented ▸ List.mem_append_left _ hid)
  untouched _ hid := hs.untouched (h.untouched ▸ List.mem_append_left _ hid)

/-! ### One body -/

/-- What becomes of the body of a head: nothing; or it gets a new one, being reported as
instrumented; or it is an expression that is put into a block, being reported as untouched. -/
inductive Woven (inj : Injector) (a : Analysis) (s : InjectionSummary) (place : Location)
    (isClosure : Bool) (body : Node) : Node → Prop
  | same : Woven inj a s place isClosure body body
  | instrumented (hreport : instrumentedAt a s place = true)
      (hblock : isClosure = true → (bodyBlock? body).isSome) :
      Woven inj a s place isClosure body (inj.newBody (members a) place isClosure body)
  | boxed {block : Node} (hreport : untouchedAt a s place = true) (hclosure : isClosure = true)
      (hplain : plainBlock? body = none) (hblock : wrapped? body = some block) :
      Woven inj a s place isClosure body (.node .exprBlock [.list [], .absent, block])

theorem instrumentedAt_of_advances {l : Location} {f : Function} {block : Node} {fits : Bool}
    (hf : members a l = some f) (hready : inj.isReady f block = true)
    (h : Advances inj [⟨f, block, fits⟩] p p') (hs : Below p' s) :
    instrumentedAt a s l = true := by
  have hid : f.declaration.id ∈ p'.summary.instrumented := by
    rw [h.instrumented]
    simp [Meeting.isReady, Meeting.id, hready]
  simpa [instrumentedAt, hf] using hs.instrumented hid

theorem untouchedAt_of_advances {l : Location} {f : Function} {block : Node} {fits : Bool}
    (hf : members a l = some f) (hready : inj.isReady f block = false)
    (h : Advances inj [⟨f, block, fits⟩] p p') (hs : Below p' s) :
    untouchedAt a s l = true := by
  have hid : f.declaration.id ∈ p'.summary.untouched := by
    rw [h.untouched]
    simp [Meeting.isReady, Meeting.id, hready]
  simpa [untouchedAt, hf] using hs.untouched hid

theorem weaveBody_woven {place : Location} {f : Function} {body body' : Node}
    (htarget : target? a p.visited place = some f)
    (hrun : (weaveBody inj a place body).run p = .ok (body', p')) (hs : Below p' s) :
    Below p s ∧ Woven inj a s place false body body' := by
  have hf := members_of_target htarget
  obtain ⟨rfl, hadvances⟩ := weaveBody_of_target htarget hrun
  refine ⟨.of_advances hadvances hs, ?_⟩
  cases hready : inj.isReady f body with
  | true =>
    have hnew : inj.newBody (members a) place false body = inj.front f body := by
      rw [newBody, hf]
      rfl
    rw [← hnew]
    exact .instrumented (instrumentedAt_of_advances hf hready hadvances hs)
      fun hclosure ↦ absurd hclosure Bool.false_ne_true
  | false =>
    rw [front, hready]
    exact .same

theorem weaveClosureBody_woven {place : Location} {f : Function} {body body' : Node}
    (htarget : target? a p.visited place = some f)
    (hrun : (weaveClosureBody inj a place body).run p = .ok (body', p')) (hs : Below p' s) :
    Below p s ∧ Woven inj a s place true body body' := by
  have hf := members_of_target htarget
  obtain ⟨rfl, hadvances⟩ := weaveClosureBody_of_target htarget hrun
  have hfits : (bodyBlock? body).isSome := (hadvances.passable _ List.mem_cons_self).1
  refine ⟨.of_advances hadvances hs, ?_⟩
  cases hready : inj.isReady f (bodyBlock body) with
  | true =>
    have hnew : inj.newBody (members a) place true body =
        .node .exprBlock [.list [], .absent, inj.front f (bodyBlock body)] := by
      rw [newBody, hf]
      rfl
    rw [← hnew]
    exact .instrumented (instrumentedAt_of_advances hf hready hadvances hs) fun _ ↦ hfits
  | false =>
    have hfront : inj.front f (bodyBlock body) = bodyBlock body := by
      rw [front, hready]
      rfl
    rw [hfront]
    -- no call was put in, and the body is the block that it was, or was put into one
    cases hplain : plainBlock? body with
    | some block =>
      have hblock : bodyBlock body = block := by rw [bodyBlock, bodyBlock?, hplain]; rfl
      rw [hblock, ← plainBlock?_eq_some.1 hplain]
      exact .same
    | none =>
      rw [bodyBlock?, hplain] at hfits
      obtain ⟨block, hblock⟩ := Option.isSome_iff_exists.1 hfits
      have hbox : bodyBlock body = block := by
        rw [bodyBlock, bodyBlock?, hplain, hblock]
        rfl
      rw [hbox]
      exact .boxed (untouchedAt_of_advances hf hready hadvances hs) rfl hplain hblock

theorem weaveHead_woven {place : Location} {isClosure : Bool} {body body' : Node}
    (hrun : (weaveHead inj a place isClosure body).run p = .ok (body', p')) (hs : Below p' s) :
    Below p s ∧ Woven inj a s place isClosure body body' := by
  cases htarget : target? a p.visited place with
  | none =>
    have hsame : (weaveHead inj a place isClosure body).run p = .ok (body, p) := by
      unfold weaveHead
      split
      · exact weaveClosureBody_of_no_target htarget body
      · exact weaveBody_of_no_target htarget body
    obtain ⟨rfl, rfl⟩ := Prod.mk.inj (Except.ok.inj (hsame.symm.trans hrun))
    exact ⟨hs, .same⟩
  | some f =>
    unfold weaveHead at hrun
    cases isClosure with
    | true => exact weaveClosureBody_woven htarget hrun hs
    | false => exact weaveBody_woven htarget hrun hs

namespace Woven

variable {place : Location} {isClosure : Bool} {body body' : Node}

theorem isAbsent (h : Woven inj a s place isClosure body body') (hfunction : isClosure = false) :
    body'.isAbsent = body.isAbsent := by
  cases h with
  | same => rfl
  | instrumented =>
    subst hfunction
    unfold newBody
    split
    · rfl
    · exact isAbsent_front _ _
  | boxed _ hclosure => exact absurd (hfunction.symm.trans hclosure) nofun

/-- The heads in a body are found in the new one, unless it was an expression that is put into a
block. -/
theorem heads (h : Woven inj a s place isClosure body body') {x : Head} (hx : x ∈ body.heads) :
    x ∈ body'.heads ∨ isClosure = true ∧ (members a place).isSome ∧ plainBlock? body = none ∧
      (wrapped? body).isSome := by
  cases h with
  | same => exact Or.inl hx
  | instrumented hreport hblock =>
    by_cases hplain : isClosure = true ∧ plainBlock? body = none
    · refine Or.inr ⟨hplain.1, ?_, hplain.2, ?_⟩
      · obtain ⟨f, hf, -⟩ := (Option.any_eq_true _ _).1 hreport
        exact Option.isSome_iff_exists.2 ⟨f, hf⟩
      · have hsome := hblock hplain.1
        rwa [bodyBlock?, hplain.2] at hsome
    · exact Or.inl (heads_newBody (fun hclosure _ hnone ↦ hplain ⟨hclosure, hnone⟩) x hx)
  | boxed hreport hclosure hplain hblock =>
    obtain ⟨f, hf, -⟩ := (Option.any_eq_true _ _).1 hreport
    exact Or.inr ⟨hclosure, Option.isSome_iff_exists.2 ⟨f, hf⟩, hplain,
      Option.isSome_iff_exists.2 ⟨_, hblock⟩⟩

end Woven

/-- A node whose children are done keeps them, but for the body if it is a head with one. -/
theorem weaveNode_woven {k : Kind} {cs : List Node} {n' : Node}
    (hrun : (weaveNode inj a k cs).run p = .ok (n', p')) (hs : Below p' s) :
    Below p s ∧
      ((n' = .node k cs ∧
          ∀ place isClosure body, Head.of? k cs ≠ some ⟨place, isClosure, some body⟩) ∨
        ∃ place isClosure body body', Head.of? k cs = some ⟨place, isClosure, some body⟩ ∧
          Woven inj a s place isClosure body body' ∧
          n' = .node k (cs.set (Head.bodyAt k) body')) := by
  rw [weaveNode_eq] at hrun
  split at hrun
  · next place isClosure body hof =>
    obtain ⟨body', q, hbody, hrest⟩ := bind_run_eq_ok.1 hrun
    obtain ⟨rfl, rfl⟩ := pure_run_eq_ok.1 hrest
    obtain ⟨hbelow, hwoven⟩ := weaveHead_woven hbody hs
    exact ⟨hbelow, Or.inr ⟨place, isClosure, body, body', hof, hwoven, rfl⟩⟩
  · next hnone =>
    obtain ⟨rfl, rfl⟩ := pure_run_eq_ok.1 hrun
    exact ⟨hs, Or.inl ⟨rfl, hnone⟩⟩

/-! ### Whole trees -/

/-- The places hidden are those of the functions that are reported as instrumented, and those of the
closures among some heads that are reported as untouched and have an expression as body; or more. -/
structure Covers (a : Analysis) (s : InjectionSummary) (hs : List Head)
    (hidden : Location → Bool) : Prop where
  instrumented : ∀ l, instrumentedAt a s l = true → hidden l = true
  boxed : ∀ h ∈ hs, ∀ body, h.body = some body → h.isClosure = true → plainBlock? body = none →
    untouchedAt a s h.place = true → hidden h.place = true

theorem Covers.mono {hs hs' : List Head} (h : Covers a s hs hidden) (hsub : ∀ x ∈ hs', x ∈ hs) :
    Covers a s hs' hidden :=
  ⟨h.instrumented, fun x hx ↦ h.boxed x (hsub x hx)⟩

/-- What becomes of the body of a head that gets no tracker call: it is the same but for what is
hidden inside; or it is an expression of a closure that is reported as untouched, which is put into
a block when the functions inside are done. -/
inductive Left (a : Analysis) (s : InjectionSummary) (hidden : Location → Bool) (place : Location)
    (isClosure : Bool) (body : Node) : Node → Prop
  | same {body' : Node} (h : masked hidden body' = masked hidden body) :
      Left a s hidden place isClosure body body'
  | boxed {e block : Node} (h : masked hidden e = masked hidden body)
      (hreport : untouchedAt a s place = true) (hclosure : isClosure = true)
      (hplain : plainBlock? body = none) (hblock : wrapped? e = some block) :
      Left a s hidden place isClosure body (.node .exprBlock [.list [], .absent, block])

/-- A head is found in an expression that is put into a block: the body of a closure which is a
member of the closure set, when the functions inside are done. -/
def InBoxed (a : Analysis) (hidden : Location → Bool) (hs : List Head) (h : Head) : Prop :=
  ∃ c ∈ hs, c.isClosure = true ∧ (members a c.place).isSome ∧
    ∃ body e, c.body = some body ∧ plainBlock? body = none ∧
      masked hidden e = masked hidden body ∧ (wrapped? e).isSome ∧ h ∈ e.heads

theorem InBoxed.mono {hs hs' : List Head} {h : Head} (hb : InBoxed a hidden hs h)
    (hsub : ∀ c ∈ hs, c ∈ hs') : InBoxed a hidden hs' h := by
  obtain ⟨c, hc, hrest⟩ := hb
  exact ⟨c, hsub c hc, hrest⟩

/-- Heads keep their bodies, as `Left` says, among new heads. -/
def Kept (a : Analysis) (s : InjectionSummary) (hidden : Location → Bool) (hs hs' : List Head) :
    Prop :=
  ∀ h ∈ hs, instrumentedAt a s h.place = false → ∀ body, h.body = some body →
    ∃ body', Left a s hidden h.place h.isClosure body body' ∧
      (⟨h.place, h.isClosure, some body'⟩ ∈ hs' ∨
        InBoxed a hidden hs ⟨h.place, h.isClosure, some body'⟩)

theorem Kept.append {hs hs' ks ks' : List Head} (h : Kept a s hidden hs hs')
    (h' : Kept a s hidden ks ks') : Kept a s hidden (hs ++ ks) (hs' ++ ks') := by
  intro x hx hreport body hbody
  rcases List.mem_append.1 hx with hx | hx
  · obtain ⟨body', hleft, hplace⟩ := h x hx hreport body hbody
    exact ⟨body', hleft,
      hplace.imp (List.mem_append_left _) (·.mono fun c ↦ List.mem_append_left _)⟩
  · obtain ⟨body', hleft, hplace⟩ := h' x hx hreport body hbody
    exact ⟨body', hleft,
      hplace.imp (List.mem_append_right _) (·.mono fun c ↦ List.mem_append_right _)⟩

/-- What becomes of the body of a head is not seen where what may be hidden is. -/
theorem Woven.masked_eq {k : Kind} {cs : List Node} {place : Location} {isClosure : Bool}
    {body body' : Node} (h : Woven inj a s place isClosure body body')
    (hof : Head.of? k cs = some ⟨place, isClosure, some body⟩)
    (hcovers : instrumentedAt a s place = true ∨ isClosure = true ∧ plainBlock? body = none ∧
      untouchedAt a s place = true → hidden place = true) :
    masked hidden (.node k (cs.set (Head.bodyAt k) body')) = masked hidden (.node k cs) := by
  have habsent := h.isAbsent
  cases h with
  | same =>
    obtain ⟨hlt, rfl⟩ := List.getElem?_eq_some_iff.1 (Head.of?_body hof).1
    rw [List.set_getElem_self]
  | instrumented hreport => exact masked_set hof (hcovers (Or.inl hreport)) habsent
  | boxed hreport hclosure hplain =>
    exact masked_set hof (hcovers (Or.inr ⟨hclosure, hplain, hreport⟩)) habsent

/-- What becomes of the body of a head that gets no tracker call. -/
theorem Woven.left {place : Location} {isClosure : Bool} {body woven body' : Node}
    (h : Woven inj a s place isClosure woven body')
    (hwoven : masked hidden woven = masked hidden body)
    (hreport : instrumentedAt a s place = false) : Left a s hidden place isClosure body body' := by
  cases h with
  | same => exact .same hwoven
  | instrumented hinstrumented => exact absurd (hreport.symm.trans hinstrumented) nofun
  | boxed huntouched hclosure hplain hblock =>
    exact .boxed hwoven huntouched hclosure (plainBlock?_of_masked_eq hwoven hplain) hblock

theorem mem_headsAll_set {cs : List Node} {i : Nat} {c : Node} {h : Head}
    (hh : h ∈ Node.headsAll cs) :
    h ∈ Node.headsAll (cs.set i c) ∨ ∃ old, cs[i]? = some old ∧ h ∈ old.heads := by
  obtain ⟨x, hx, hh⟩ := Node.mem_headsAll.1 hh
  obtain ⟨j, hj⟩ := List.getElem?_of_mem hx
  by_cases hij : i = j
  · subst hij
    exact Or.inr ⟨x, hj, hh⟩
  · have hkeeps : (cs.set i c)[j]? = some x := by rwa [List.getElem?_set_ne hij]
    exact Or.inl (Node.mem_headsAll.2 ⟨x, List.mem_of_getElem? hkeeps, hh⟩)

/-- The heads of a node are kept if its children are done and it is no head with a body. -/
theorem Kept.node {k : Kind} {cs cs' : List Node}
    (hcs : cs'.map (masked hidden) = cs.map (masked hidden))
    (hkept : Kept a s hidden (Node.headsAll cs) (Node.headsAll cs'))
    (hnone : ∀ place isClosure body, Head.of? k cs' ≠ some ⟨place, isClosure, some body⟩) :
    Kept a s hidden (Node.node k cs).heads (Node.node k cs').heads := by
  intro h hh hreport body hbody
  rcases Node.mem_heads_node.1 hh with hbelow | hof
  · obtain ⟨body', hleft, hplace⟩ := hkept h hbelow hreport body hbody
    exact ⟨body', hleft, hplace.imp (fun hmem ↦ Node.mem_heads_node.2 (Or.inl hmem))
      (·.mono fun x hx ↦ Node.mem_heads_node.2 (Or.inl hx))⟩
  · -- it would have been one before its children were done, too
    obtain ⟨place, isClosure, _⟩ := h
    subst hbody
    obtain ⟨body', hof', -⟩ := of?_of_masked_eq hcs.symm hof
    exact absurd hof' (hnone place isClosure body')

/-- The heads of a node are kept if its children are done and its body, with them, is woven. -/
theorem Kept.node_set {k : Kind} {cs cs' : List Node} {place : Location} {isClosure : Bool}
    {body woven body' : Node} (hof : Head.of? k cs = some ⟨place, isClosure, some body⟩)
    (hof' : Head.of? k cs' = some ⟨place, isClosure, some woven⟩)
    (hbody : masked hidden woven = masked hidden body)
    (hwoven : Woven inj a s place isClosure woven body')
    (hkept : Kept a s hidden (Node.headsAll cs) (Node.headsAll cs')) :
    Kept a s hidden (Node.node k cs).heads
      (Node.node k (cs'.set (Head.bodyAt k) body')).heads := by
  obtain ⟨hold, hset⟩ := Head.of?_body hof'
  have hnew : body' ∈ cs'.set (Head.bodyAt k) body' := by
    obtain ⟨hlt, -⟩ := List.getElem?_eq_some_iff.1 hold
    exact List.mem_set hlt body'
  intro h hh hreport b hb
  rcases Node.mem_heads_node.1 hh with hbelow | hself
  · obtain ⟨b', hleft, hplace⟩ := hkept h hbelow hreport b hb
    refine ⟨b', hleft, ?_⟩
    rcases hplace with hmem | hboxed
    · -- it is found beside the body, or in the body, which is another one now
      rcases mem_headsAll_set hmem with hstays | ⟨x, hx, hmem⟩
      · exact Or.inl (Node.mem_heads_node.2 (Or.inl hstays))
      · obtain rfl : x = woven := Option.some.inj (hx.symm.trans hold)
        rcases hwoven.heads hmem with hmem | ⟨hclosure, hmember, hplain, hblock⟩
        · exact Or.inl (Node.mem_heads_node.2 (Or.inl (Node.mem_headsAll.2 ⟨body', hnew, hmem⟩)))
        · exact Or.inr ⟨_, Node.mem_heads_node.2 (Or.inr hof), hclosure, hmember, body, x, rfl,
            plainBlock?_of_masked_eq hbody hplain, hbody, hblock, hmem⟩
    · exact Or.inr (hboxed.mono fun x hx ↦ Node.mem_heads_node.2 (Or.inl hx))
  · obtain rfl : h = ⟨place, isClosure, some body⟩ := Option.some.inj (hself.symm.trans hof)
    obtain rfl := Option.some.inj hb
    exact ⟨body', hwoven.left hbody hreport,
      Or.inl (Node.mem_heads_node.2 (Or.inr (hset body' hwoven.isAbsent)))⟩

/-- A node whose children are done. -/
theorem weaveNode_kept {k : Kind} {cs cs' : List Node} {n' : Node}
    (hcs : cs'.map (masked hidden) = cs.map (masked hidden))
    (hkept : Kept a s hidden (Node.headsAll cs) (Node.headsAll cs'))
    (hcovers : Covers a s (Node.node k cs).heads hidden)
    (hrun : (weaveNode inj a k cs').run p = .ok (n', p')) (hs : Below p' s) :
    masked hidden n' = masked hidden (.node k cs) ∧
      Kept a s hidden (Node.node k cs).heads n'.heads := by
  obtain ⟨-, ⟨rfl, hnone⟩ | ⟨place, isClosure, woven, body', hof', hwoven, rfl⟩⟩ :=
    weaveNode_woven hrun hs
  · exact ⟨masked_node_congr hcs, hkept.node hcs hnone⟩
  · obtain ⟨body, hof, hbody⟩ := of?_of_masked_eq hcs hof'
    refine ⟨?_, hkept.node_set hof hof' hbody hwoven⟩
    rw [hwoven.masked_eq hof', masked_node_congr hcs]
    rintro (hreport | ⟨hclosure, hplain, hreport⟩)
    · exact hcovers.instrumented place hreport
    · exact hcovers.boxed _ (Node.mem_heads_node.2 (Or.inr hof)) body rfl hclosure
        (plainBlock?_of_masked_eq hbody hplain) hreport

theorem weaveNode_below {k : Kind} {cs : List Node} {n' : Node}
    (hrun : (weaveNode inj a k cs).run p = .ok (n', p')) (hs : Below p' s) : Below p s :=
  (weaveNode_woven hrun hs).1

/-- A pass over a tree leaves alone what is not hidden, if what it reports up to its end is part of a
summary. -/
def Spares (inj : Injector) (a : Analysis) (s : InjectionSummary) (hidden : Location → Bool)
    (n : Node) : Prop :=
  ∀ (n' : Node) (p p' : Pass), (weave inj a n).run p = .ok (n', p') → Below p' s →
    Below p s ∧ (Covers a s n.heads hidden →
      masked hidden n' = masked hidden n ∧ Kept a s hidden n.heads n'.heads)

theorem weaveAll_kept {cs cs' : List Node} (hcs : ∀ c ∈ cs, Spares inj a s hidden c)
    (hrun : (weaveAll inj a cs).run p = .ok (cs', p')) (hs : Below p' s) :
    Below p s ∧ (Covers a s (Node.headsAll cs) hidden →
      cs'.map (masked hidden) = cs.map (masked hidden) ∧
        Kept a s hidden (Node.headsAll cs) (Node.headsAll cs')) := by
  induction cs generalizing cs' p p' with
  | nil =>
    obtain ⟨rfl, rfl⟩ := pure_run_eq_ok.1 hrun
    exact ⟨hs, fun _ ↦ ⟨rfl, fun h hh ↦ absurd hh List.not_mem_nil⟩⟩
  | cons c cs ih =>
    obtain ⟨c', q, hfirst, hnext⟩ := bind_run_eq_ok.1 hrun
    obtain ⟨cs', q', hrest, hdone⟩ := bind_run_eq_ok.1 hnext
    obtain ⟨rfl, rfl⟩ := pure_run_eq_ok.1 hdone
    obtain ⟨hbelow, hkept⟩ := ih (fun c hc ↦ hcs c (List.mem_cons_of_mem _ hc)) hrest hs
    obtain ⟨hbelow', hkept'⟩ := hcs c List.mem_cons_self _ _ _ hfirst hbelow
    refine ⟨hbelow', fun hcovers ↦ ?_⟩
    rw [Node.headsAll] at hcovers ⊢
    obtain ⟨heq, hheads⟩ := hkept (hcovers.mono fun x ↦ List.mem_append_right _)
    obtain ⟨heq', hheads'⟩ := hkept' (hcovers.mono fun x ↦ List.mem_append_left _)
    exact ⟨by rw [List.map_cons, List.map_cons, heq, heq'], hheads'.append hheads⟩

/-- **What a pass leaves alone in a tree.** -/
theorem weave_spares (n : Node) : Spares inj a s hidden n := by
  induction n using Node.induction with
  | token | unread =>
    intro n' p p' hrun hs
    obtain ⟨rfl, rfl⟩ := pure_run_eq_ok.1 hrun
    exact ⟨hs, fun _ ↦ ⟨rfl, fun h hh ↦ absurd hh List.not_mem_nil⟩⟩
  | group d cs ih =>
    intro n' p p' hrun hs
    obtain ⟨cs', q, hchildren, hdone⟩ := bind_run_eq_ok.1 hrun
    obtain ⟨rfl, rfl⟩ := pure_run_eq_ok.1 hdone
    obtain ⟨hbelow, hkept⟩ := weaveAll_kept ih hchildren hs
    refine ⟨hbelow, fun hcovers ↦ ?_⟩
    obtain ⟨heq, hheads⟩ := hkept hcovers
    exact ⟨masked_group_congr heq, hheads⟩
  | node k cs ih =>
    intro n' p p' hrun hs
    obtain ⟨cs', q, hchildren, hnode⟩ := bind_run_eq_ok.1 hrun
    obtain ⟨hbelow, hkept⟩ := weaveAll_kept ih hchildren (weaveNode_below hnode hs)
    refine ⟨hbelow, fun hcovers ↦ ?_⟩
    obtain ⟨heq, hheads⟩ := hkept (hcovers.mono fun x hx ↦ Node.mem_heads_node.2 (Or.inl hx))
    exact weaveNode_kept heq hheads hcovers hnode hs

/-! ### Units -/

/-- Whether the body of the function at a place may come out changed: the function is reported as
instrumented; or it is a closure that is reported as untouched and whose body is an expression. -/
def hiddenAt (a : Analysis) (u : SourceUnit) (s : InjectionSummary) (l : Location) : Bool :=
  instrumentedAt a s l || untouchedAt a s l && u.heads.any fun h ↦
    h.place == l && h.isClosure && h.body.any fun body ↦ (plainBlock? body).isNone

theorem covers_hiddenAt (a : Analysis) (u : SourceUnit) (s : InjectionSummary) :
    Covers a s u.heads (hiddenAt a u s) where
  instrumented l hreport := by simp [hiddenAt, hreport]
  boxed h hh body hbody hclosure hplain hreport := by
    have hany : (u.heads.any fun x ↦ x.place == h.place && x.isClosure &&
        x.body.any fun body ↦ (plainBlock? body).isNone) = true :=
      List.any_eq_true.2 ⟨h, hh, by simp [hclosure, hbody, hplain]⟩
    rw [hiddenAt, hreport, hany]
    simp

/-- **What an injector leaves alone.** A unit is the same but for the bodies of functions that are
reported as instrumented, and of closures that are reported as untouched and have an expression as
body; and all heads that get no tracker call keep their bodies, but for what is instrumented inside,
where such an expression is put into a block. -/
theorem apply_frame {u u' : SourceUnit} {inj' : Injector}
    (h : inj.apply a u = .ok (inj', u', s)) :
    u'.shebang = u.shebang ∧
      masked (hiddenAt a u s) u'.attributes = masked (hiddenAt a u s) u.attributes ∧
      masked (hiddenAt a u s) u'.items = masked (hiddenAt a u s) u.items ∧
      Kept a s (hiddenAt a u s) u.heads u'.heads := by
  obtain ⟨attributes, items, p, hrun, rfl, rfl, rfl⟩ := run_of_apply h
  obtain ⟨attributes', q, hattributes, hnext⟩ := bind_run_eq_ok.1 hrun
  obtain ⟨items', q', hitems, hdone⟩ := bind_run_eq_ok.1 hnext
  obtain ⟨hunit, rfl⟩ := pure_run_eq_ok.1 hdone
  obtain ⟨rfl, rfl⟩ := Prod.mk.inj hunit
  have hcovers := covers_hiddenAt a u q'.summary.concluded
  have hend : Below q' q'.summary.concluded := ⟨fun _ ↦ id, fun _ ↦ id⟩
  -- the items come last, so what is reported up to them is part of the whole summary
  obtain ⟨hbelow, hkept⟩ := weave_spares u.items _ _ _ hitems hend
  obtain ⟨-, hkept'⟩ := weave_spares u.attributes _ _ _ hattributes hbelow
  obtain ⟨heq, hheads⟩ := hkept (hcovers.mono fun x ↦ List.mem_append_right _)
  obtain ⟨heq', hheads'⟩ := hkept' (hcovers.mono fun x ↦ List.mem_append_left _)
  exact ⟨rfl, heq', heq, hheads'.append hheads⟩

/-! A tracked closure without a parameter for the host: it is reported as untouched, and its
expression comes out in a block. -/

open Quotation in
/-- A function whose value is a closure that is tracked, of a name. -/
def boxedUnit : SourceUnit :=
  let tracked : Node := thunk 2 ["component", "track_recompositions"] (name "row")
  unitOf [function 1 [] "list" [] [value tracked]]

theorem apply_frame_boxedUnit :
    ∃ inj' u' s, Injector.apply { runtime := Quotation.path true ["runtime"], host := "cx" }
        (Analysis.run {} boxedUnit) boxedUnit = .ok (inj', u', s) ∧
      s.instrumented = [] ∧ s.untouched = [1] ∧ u'.items ≠ boxedUnit.items ∧
      u'.shebang = boxedUnit.shebang ∧
      masked (hiddenAt (Analysis.run {} boxedUnit) boxedUnit s) u'.attributes =
        masked (hiddenAt (Analysis.run {} boxedUnit) boxedUnit s) boxedUnit.attributes ∧
      masked (hiddenAt (Analysis.run {} boxedUnit) boxedUnit s) u'.items =
        masked (hiddenAt (Analysis.run {} boxedUnit) boxedUnit s) boxedUnit.items ∧
      Kept (Analysis.run {} boxedUnit) s (hiddenAt (Analysis.run {} boxedUnit) boxedUnit s)
        boxedUnit.heads u'.heads := by
  have hcheck : (match Injector.apply { runtime := Quotation.path true ["runtime"], host := "cx" }
      (Analysis.run {} boxedUnit) boxedUnit with
    | .ok (_, u', s) => decide (s.instrumented = [] ∧ s.untouched = [1] ∧
        u'.items.size ≠ boxedUnit.items.size)
    | .error _ => false) = true := by decide +kernel
  split at hcheck
  · next inj' u' s hrun =>
    obtain ⟨hinstrumented, huntouched, hsize⟩ := of_decide_eq_true hcheck
    exact ⟨inj', u', s, hrun, hinstrumented, huntouched, fun heq ↦ hsize (congrArg Node.size heq),
      apply_frame hrun⟩
  · cases hcheck

end RenderTrace.Injector
