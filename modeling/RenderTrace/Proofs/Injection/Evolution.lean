import RenderTrace.Proofs.Injection.Generated

/-!
# What a pass makes of the functions of a tree

A pass keeps the spots that are shown, in their order (`rewritten_shown`). It changes the form of a
body in two ways: a block that a tracker call comes into has one statement more and begins with the
call, and an expression becomes a block. Nothing else happens to a form, so a body that begins with
a tracker call keeps its form in every later pass.

The induction is on the tree. Below a node the spots of the new body are those of the old one: the
tracker call shows none, and an expression that is put into a block is read with the spots that it
had, which is assumed (`readsBack`). The spot of the node itself is about the form of its body, which
the rewriting inside the body leaves alone (`formOfBlock_rewritten`).
-/

namespace RenderTrace

open Syntax

namespace Injector

variable {inj : Injector} {m : Members}

/-! ### Forms -/

/-- The form of a body behind a pass that wants a tracker call in front of it, or does not. -/
def Form.after (wanted : Bool) : Form → Form
  | .block begun count =>
    if wanted && !begun then .block true (count + 1) else .block begun count
  | form => form

/-- What a pass may make of the form of a body. The block that an expression is put into has any
form. -/
inductive Form.Steps (wanted : Bool) : Form → Form → Prop
  | kept {form : Form} (h : form = .expression → wanted = false) :
    Steps wanted form (form.after wanted)
  | put {begun : Bool} {count : Nat} :
    Steps wanted .expression ((Form.block begun count).after wanted)

theorem formOfBlock_blockOf (d : Delimiter) (statements : List Node) :
    formOfBlock (blockOf d statements) =
      .block (isInstrumented (blockOf d statements)) statements.length := rfl

theorem formOfBlock_ne_expression (block : Node) : formOfBlock block ≠ .expression := by
  unfold formOfBlock
  split <;> nofun

theorem formOfBlock_of_ne {block : Node} (h : ∀ d statements, block ≠ blockOf d statements) :
    formOfBlock block = .other := by
  unfold formOfBlock
  split
  · exact absurd rfl (h _ _)
  · rfl

theorem isInstrumented_of_formOfBlock {block : Node} {begun : Bool} {count : Nat}
    (h : formOfBlock block = .block begun count) : isInstrumented block = begun := by
  unfold formOfBlock at h
  split at h
  · exact (Form.block.inj h).1
  · cases h

/-- What is a block behind a rewriting was one before. -/
theorem eq_blockOf_of_rewritten {body : Node} {d : Delimiter} {statements : List Node}
    (h : rewritten inj m body = blockOf d statements) : ∃ before, body = blockOf d before := by
  obtain ⟨cs, rfl, hcs⟩ := eq_of_rewritten_eq (fun _ ↦ rfl) h
  obtain ⟨group, rfl, hgroup⟩ := List.map_eq_singleton_iff.1 hcs
  obtain ⟨inside, rfl, hinside⟩ := rewritten_eq_group_iff.1 hgroup
  obtain ⟨list, rfl, hlist⟩ := List.map_eq_singleton_iff.1 hinside
  obtain ⟨before, rfl, -⟩ := eq_of_rewritten_eq (fun _ ↦ rfl) hlist
  exact ⟨before, rfl⟩

/-- Rewriting what is inside a block does not change its form. -/
theorem formOfBlock_rewritten (block : Node) :
    formOfBlock (rewritten inj m block) = formOfBlock block := by
  by_cases hshape : ∃ d statements, block = blockOf d statements
  · obtain ⟨d, statements, rfl⟩ := hshape
    have hbegins : isInstrumented (rewritten inj m (blockOf d statements)) =
      isInstrumented (blockOf d statements) := isInstrumented_rewritten _
    rw [rewritten_blockOf] at hbegins ⊢
    rw [formOfBlock_blockOf, formOfBlock_blockOf, hbegins, List.length_map]
  · rw [formOfBlock_of_ne fun d statements h ↦ hshape ⟨d, statements, h⟩, formOfBlock_of_ne]
    intro d statements h
    obtain ⟨before, rfl⟩ := eq_blockOf_of_rewritten h
    exact hshape ⟨d, before, rfl⟩

/-- The form of a block with what a pass puts in front. -/
theorem formOfBlock_front (hinert : inj.Inert) {f : Function} {block : Node}
    (hcall : inj.isReady f block = true → ∃ call,
      Injection.trackerStatement? inj.runtime inj.host f = some call) :
    formOfBlock (inj.front f block) = (formOfBlock block).after (inj.hasHost f) := by
  by_cases hshape : ∃ d statements, block = blockOf d statements
  · obtain ⟨d, statements, rfl⟩ := hshape
    rw [formOfBlock_blockOf, Form.after, Bool.and_comm]
    unfold front
    change _ = if inj.isReady f (blockOf d statements) = true then _ else _
    split
    · next hready =>
      obtain ⟨call, hcall⟩ := hcall hready
      have hnew : inj.withCall f (blockOf d statements) = blockOf d (call :: statements) := by
        rw [withCall, hcall]
        rfl
      have hbegins : isInstrumented (blockOf d (call :: statements)) = true :=
        hinert.recognised hcall
      rw [hnew, formOfBlock_blockOf, hbegins, List.length_cons]
    · exact formOfBlock_blockOf d statements
  · -- nothing is put in front of what is no block of statements
    have hother := formOfBlock_of_ne fun d statements h ↦ hshape ⟨d, statements, h⟩
    have hsame : ∀ call, prepend call block = block := fun call ↦ by
      unfold prepend
      split
      · exact absurd ⟨_, _, rfl⟩ hshape
      · rfl
    have hfront : inj.front f block = block := by
      unfold front withCall
      split
      · split
        · exact hsame _
        · rfl
      · rfl
    rw [hfront, hother]
    rfl

/-! ### Bodies -/

theorem shown_prepend {call : Node} (hcall : call.shown = []) (block : Node) :
    (prepend call block).shown = block.shown := by
  unfold prepend
  split
  · rw [Node.shown_plain fun _ ↦ rfl, Node.shown_plain fun _ ↦ rfl]
    simp [Quotation.shown_list, hcall, Node.shown_plain (k := .list) fun _ ↦ rfl]
  · rfl

theorem shown_front (hinert : inj.Inert) (f : Function) (block : Node) :
    (inj.front f block).shown = block.shown := by
  unfold front withCall
  split
  · split
    · next hcall => exact shown_prepend (hinert.shown hcall) block
    · rfl
  · rfl

theorem shown_exprBlock (block : Node) :
    (Node.node .exprBlock [.list [], .absent, block]).shown = block.shown := by
  rw [Node.shown_plain fun _ ↦ rfl]
  simp

variable (inj m) in
/-- Whether the block that the body of a member is, or is put into, shows what the body shows. -/
def readsBack (h : Head) : Bool :=
  !(h.isClosure && (m h.place).isSome) || h.body.all fun body ↦
    (bodyBlock? (rewritten inj m body)).all fun block ↦
      block.shown == (rewritten inj m body).shown

variable (inj m) in
/-- What is assumed of a pass over the heads of a tree: its tracker calls are recognised, the
expressions that are put into a block are read with the functions in them, and nothing stands
against it. -/
structure Smooth (hs : List Head) : Prop where
  inert : inj.Inert
  readsBack : ∀ h ∈ hs, inj.readsBack m h = true
  passable : ∀ mt ∈ met inj m hs, mt.IsPassable inj

theorem Smooth.mono {hs hs' : List Head} (h : Smooth inj m hs) (hsub : hs' ⊆ hs) :
    Smooth inj m hs' where
  inert := h.inert
  readsBack head hhead := h.readsBack head (hsub hhead)
  passable mt hmt := by
    obtain ⟨head, hhead, hmeet⟩ := List.mem_filterMap.1 hmt
    exact h.passable mt (List.mem_filterMap.2 ⟨head, hsub hhead, hmeet⟩)

/-- The meeting at a head that belongs to a member. -/
theorem isPassable_of_smooth {hs : List Head} (hsmooth : Smooth inj m hs) {h : Head} (hh : h ∈ hs)
    {body : Node} (hbody : h.body = some body) {f : Function} (hf : m h.place = some f) :
    (meetingWith inj m f h.isClosure body).IsPassable inj :=
  hsmooth.passable _ (List.mem_filterMap.2 ⟨h, hh, meet?_rewrittenHead.2 ⟨body, f, hbody, hf, rfl⟩⟩)

/-- The new body of a closure that is a member has a block. -/
theorem bodyBlock?_of_smooth {hs : List Head} (hsmooth : Smooth inj m hs) {h : Head} (hh : h ∈ hs)
    (hclosure : h.isClosure = true) {body : Node} (hbody : h.body = some body) {f : Function}
    (hf : m h.place = some f) :
    bodyBlock? (rewritten inj m body) = some (bodyBlock (rewritten inj m body)) := by
  have hfits := (isPassable_of_smooth hsmooth hh hbody hf).1
  simp only [meetingWith, hclosure, Bool.not_true, Bool.false_or] at hfits
  obtain ⟨block, hblock⟩ := Option.isSome_iff_exists.1 hfits
  rw [bodyBlock, hblock, Option.getD_some]

/-- A new body shows what the old one showed. -/
theorem shown_newBody {hs : List Head} (hsmooth : Smooth inj m hs) {h : Head} (hh : h ∈ hs)
    {body : Node} (hbody : h.body = some body) :
    (inj.newBody m h.place h.isClosure (rewritten inj m body)).shown =
      (rewritten inj m body).shown := by
  unfold newBody
  cases hf : m h.place with
  | none => rfl
  | some f =>
    cases hclosure : h.isClosure with
    | false => exact shown_front hsmooth.inert f _
    | true =>
      have hreads := hsmooth.readsBack h hh
      rw [readsBack, hclosure, hf, hbody] at hreads
      simp only [Option.isSome_some, Bool.and_self, Bool.not_true, Bool.false_or, Option.all_some,
        bodyBlock?_of_smooth hsmooth hh hclosure hbody hf, beq_iff_eq] at hreads
      simp only [if_pos]
      rw [shown_exprBlock, shown_front hsmooth.inert, hreads]

/-! ### Spots -/

variable (inj m) in
/-- Whether a tracker call is wanted at a place: a member of the closure stands there that has a
parameter for the host. -/
def wants (l : Location) : Bool := (m l).any inj.hasHost

variable (inj m) in
/-- How a pass acts on a spot. -/
structure Evolves (s s' : Spot) : Prop where
  place : s'.place = s.place
  bare : s'.bare = s.bare
  form : s.form.Steps (inj.wants m s.place) s'.form

theorem formOf_eq {h : Head} {body : Node} (hbody : h.body = some body) :
    formOf h = if h.isClosure then (plainBlock? body).elim .expression formOfBlock
      else formOfBlock body := by
  rw [formOf, hbody]

/-- What has the form of a block is one; with a closure, it is the expression that it is in. -/
theorem exists_block_of_form {h : Head} {body : Node} (hbody : h.body = some body) {begun : Bool}
    {count : Nat} (hform : formOf h = .block begun count) :
    ∃ block, (if h.isClosure then plainBlock? body else some body) = some block ∧
      isInstrumented block = begun := by
  rw [formOf_eq hbody] at hform
  split at hform
  · next hclosure =>
    cases hplain : plainBlock? body with
    | none =>
      rw [hplain] at hform
      cases hform
    | some block =>
      rw [hplain] at hform
      exact ⟨block, if_pos hclosure, isInstrumented_of_formOfBlock hform⟩
  · next hclosure => exact ⟨body, if_neg hclosure, isInstrumented_of_formOfBlock hform⟩

theorem body_placedHead {h : Head} {body : Node} (hbody : h.body = some body) :
    (placedHead inj m h).body =
      some (inj.newBody m h.place h.isClosure (rewritten inj m body)) := by
  rw [placedHead, hbody]
  rfl

/-- The form of the body of a function that is no closure. -/
theorem formOf_function {hs : List Head} (hsmooth : Smooth inj m hs) {h : Head} (hh : h ∈ hs)
    {body : Node} (hbody : h.body = some body) (hclosure : h.isClosure = false) :
    formOf (placedHead inj m h) = (formOf h).after (inj.wants m h.place) := by
  rw [formOf_eq (body_placedHead hbody), formOf_eq hbody]
  simp only [placedHead, hclosure, Bool.false_eq_true, if_false]
  have hform : formOfBlock (rewritten inj m body) = formOfBlock body := formOfBlock_rewritten body
  rw [newBody, wants, ← hform]
  cases hf : m h.place with
  | none => cases formOfBlock (rewritten inj m body) <;> rfl
  | some f =>
    have hpassable := isPassable_of_smooth hsmooth hh hbody hf
    rw [hclosure] at hpassable
    exact formOfBlock_front hsmooth.inert hpassable.2

/-- The form of the body of a closure that is a member. -/
theorem formOf_member {hs : List Head} (hsmooth : Smooth inj m hs) {h : Head} (hh : h ∈ hs)
    {body : Node} (hbody : h.body = some body) (hclosure : h.isClosure = true) {f : Function}
    (hf : m h.place = some f) : formOf (placedHead inj m h) =
      (formOfBlock (bodyBlock (rewritten inj m body))).after (inj.wants m h.place) := by
  have hpassable := isPassable_of_smooth hsmooth hh hbody hf
  rw [hclosure] at hpassable
  rw [formOf_eq (body_placedHead hbody), wants, hf]
  simp only [placedHead, hclosure, newBody, hf, if_pos]
  exact formOfBlock_front hsmooth.inert hpassable.2

/-- What a pass makes of the form of a body. -/
theorem formOf_placedHead {hs : List Head} (hsmooth : Smooth inj m hs) {h : Head} (hh : h ∈ hs) :
    (formOf h).Steps (inj.wants m h.place) (formOf (placedHead inj m h)) := by
  cases hbody : h.body with
  | none =>
    have hmissing : formOf h = .missing ∧ formOf (placedHead inj m h) = .missing := by
      rw [formOf, formOf, placedHead, hbody]
      exact ⟨rfl, rfl⟩
    rw [hmissing.1, hmissing.2]
    exact .kept fun h ↦ by cases h
  | some body =>
    cases hclosure : h.isClosure with
    | false =>
      rw [formOf_function hsmooth hh hbody hclosure]
      refine .kept fun hform ↦ ?_
      rw [formOf_eq hbody, hclosure] at hform
      exact absurd hform (formOfBlock_ne_expression body)
    | true =>
      have hform : formOf h = (plainBlock? body).elim .expression formOfBlock := by
        rw [formOf_eq hbody, hclosure, if_pos rfl]
      cases hf : m h.place with
      | none =>
        -- an outsider: only what is inside its body changes
        have hsame : formOf (placedHead inj m h) = (formOf h).after (inj.wants m h.place) := by
          rw [formOf_eq (body_placedHead hbody), hform, wants, hf]
          simp only [placedHead, hclosure, newBody, hf, if_pos, plainBlock?_rewritten]
          cases plainBlock? body with
          | none => rfl
          | some block =>
            simp only [Option.map_some, Option.elim_some, formOfBlock_rewritten]
            cases formOfBlock block <;> rfl
        rw [hsame]
        exact .kept fun _ ↦ by rw [wants, hf]; rfl
      | some f =>
        rw [formOf_member hsmooth hh hbody hclosure hf, hform]
        cases hplain : plainBlock? body with
        | some block =>
          have hblock : bodyBlock (rewritten inj m body) = rewritten inj m block := by
            rw [bodyBlock, bodyBlock?, plainBlock?_rewritten, hplain]
            rfl
          rw [hblock, formOfBlock_rewritten]
          exact .kept fun hform ↦ absurd hform (formOfBlock_ne_expression block)
        | none =>
          have hblock := bodyBlock?_of_smooth hsmooth hh hclosure hbody hf
          have hwrapped : wrapped? (rewritten inj m body) =
              some (bodyBlock (rewritten inj m body)) := by
            rwa [bodyBlock?, plainBlock?_rewritten, hplain, Option.map_none] at hblock
          obtain ⟨statements, hstatements⟩ := exists_of_reread hwrapped
          rw [hstatements]
          exact .put

/-- A pass does not give attributes to a closure, nor take them away. -/
theorem isBare_newChildren (k : Kind) (cs : List Node) :
    Spot.isBare k (inj.newChildren m k (cs.map (rewritten inj m))) = Spot.isBare k cs := by
  have hempty : ∀ n : Node, rewritten inj m n = .node .list [] ↔ n = .node .list [] := fun n ↦ by
    constructor
    · intro h
      obtain ⟨cs, rfl, hcs⟩ := eq_of_rewritten_eq (fun _ ↦ rfl) h
      rw [List.map_eq_nil_iff.1 hcs]
    · rintro rfl
      exact rewritten_plain (fun _ ↦ rfl) []
  -- attributes are the first child of a closure, which is no body
  have hfirst : (inj.newChildren m k (cs.map (rewritten inj m))).head? =
      cs.head?.map (rewritten inj m) := by
    rw [List.head?_eq_getElem?, newChildren_getElem? k _ (Node.ne_bodyAt (by omega) k),
      ← List.head?_eq_getElem?, List.head?_map]
  have hbare : ∀ cs : List Node, Spot.isBare .exprClosure cs = true ↔
      cs.head? = some (.node .list []) := fun cs ↦ by
    unfold Spot.isBare
    split
    · simp
    · next hno =>
      simp only [Bool.false_eq_true, List.head?_eq_some_iff, false_iff, not_exists]
      exact fun rest hcs ↦ hno rest rfl hcs
  by_cases hk : k = .exprClosure
  · subst hk
    rw [Bool.eq_iff_iff, hbare, hbare, hfirst, Option.map_eq_some_iff]
    simp [hempty]
  · have hno : ∀ cs : List Node, Spot.isBare k cs = false := fun cs ↦ by
      unfold Spot.isBare
      split
      · exact absurd rfl hk
      · rfl
    rw [hno, hno]

/-- The spots of the children are those that were there. -/
theorem shown_newChildren {k : Kind} {cs : List Node}
    (hsmooth : Smooth inj m (Node.node k cs).heads) :
    (inj.newChildren m k (cs.map (rewritten inj m))).flatMap Node.shown =
      (cs.map (rewritten inj m)).flatMap Node.shown := by
  -- the new body is put in the place of one with the same spots
  have hset : ∀ (cs : List Node) (i : Nat) (c : Node), cs[i]?.map Node.shown = some c.shown →
      (cs.set i c).flatMap Node.shown = cs.flatMap Node.shown := by
    intro cs i c hi
    have hmap : (cs.set i c).map Node.shown = cs.map Node.shown := by
      rw [List.map_set]
      obtain ⟨hlt, heq⟩ := List.getElem?_eq_some_iff.1 ((List.getElem?_map).trans hi)
      rw [← heq, List.set_getElem_self]
    rw [List.flatMap_def, List.flatMap_def, hmap]
  cases hof : Head.of? k cs with
  | none =>
    rw [newChildren, head_rewritten, hof]
    rfl
  | some h =>
    obtain ⟨place, isClosure, body⟩ := h
    cases body with
    | none =>
      rw [newChildren, head_rewritten, hof]
      rfl
    | some body =>
      rw [(newChildren_of_body hof).1]
      refine hset _ _ _ ?_
      rw [List.getElem?_map, (Head.of?_body hof).1, Option.map_some, Option.map_some]
      have hmem : ⟨place, isClosure, some body⟩ ∈ (Node.node k cs).heads :=
        Node.mem_heads_node.2 (Or.inr hof)
      exact congrArg some (shown_newBody hsmooth hmem rfl).symm

/-- A head and its spot are kept. -/
theorem spot_evolves {k : Kind} {cs : List Node} (hsmooth : Smooth inj m (Node.node k cs).heads) :
    List.Forall₂ (Evolves inj m) ((Spot.of? k cs).toList.filter (!·.isHidden))
      ((Spot.of? k (inj.newChildren m k (cs.map (rewritten inj m)))).toList.filter
        (!·.isHidden)) := by
  rw [Spot.of?, Spot.of?, of?_newChildren, isBare_newChildren]
  cases hof : Head.of? k cs with
  | none => exact .nil
  | some h =>
    have hmem : h ∈ (Node.node k cs).heads := Node.mem_heads_node.2 (Or.inr hof)
    have hplace : (placedHead inj m h).place = h.place := rfl
    simp only [Option.map_some, Option.toList_some, List.filter_cons, List.filter_nil,
      Spot.isHidden, hplace]
    split
    · exact .cons ⟨rfl, rfl, formOf_placedHead hsmooth hmem⟩ .nil
    · exact .nil

/-- **What a pass makes of the functions of a tree.** -/
theorem rewritten_shown {n : Node} (hsmooth : Smooth inj m n.heads) :
    List.Forall₂ (Evolves inj m) n.shown (rewritten inj m n).shown := by
  have hall : ∀ cs : List Node,
      (∀ c ∈ cs, List.Forall₂ (Evolves inj m) c.shown (rewritten inj m c).shown) →
      List.Forall₂ (Evolves inj m) (cs.flatMap Node.shown)
        ((cs.map (rewritten inj m)).flatMap Node.shown) := by
    intro cs hcs
    induction cs with
    | nil => exact .nil
    | cons c cs ih =>
      rw [List.map_cons, List.flatMap_cons, List.flatMap_cons]
      exact List.rel_append (hcs c List.mem_cons_self)
        (ih fun c hc ↦ hcs c (List.mem_cons_of_mem _ hc))
  have hbelow : ∀ {cs : List Node} {c : Node}, c ∈ cs → c.heads ⊆ Node.headsAll cs :=
    fun hc h hh ↦ Node.mem_headsAll.2 ⟨_, hc, hh⟩
  induction n using Node.induction with
  | token | unread => exact .nil
  | group d cs ih =>
    rw [rewritten_group, Node.shown_group, Node.shown_group]
    exact hall cs fun c hc ↦ ih c hc (hsmooth.mono (hbelow hc))
  | node k cs ih =>
    rw [rewritten_node, Node.shown_node, Node.shown_node, shown_newChildren hsmooth]
    refine List.rel_append (hall cs fun c hc ↦ ih c hc (hsmooth.mono ?_)) (spot_evolves hsmooth)
    exact fun h hh ↦ Node.mem_heads_node.2 (Or.inl (hbelow hc hh))

end Injector

end RenderTrace
