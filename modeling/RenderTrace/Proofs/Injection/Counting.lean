import RenderTrace.Proofs.Injection.Begun
import RenderTrace.Proofs.Injection.Evolution

/-!
# How many tracker calls a pass adds

A pass reports the functions that it gave a tracker call to. `begun_rewritten` says that the report
is right about the tree: it has as many more bodies that begin with a tracker call as functions are
reported, no more and no fewer.

The induction is on the tree, and each head accounts for one meeting at most. Its new body has as
many such bodies inside as the old one (`begun_newBody`), since a tracker call has none. The body
itself begins with a tracker call behind the pass if it did before or if the function is reported,
and never for both reasons (`begins_placedHead`).

For an expression that is put into a block this is an assumption: what is read in the block may be
other statements than the expression, and other closures (`keepsBegun`).
-/

namespace RenderTrace

open Syntax

namespace Injector

variable {inj : Injector} {m : Members}

variable (inj m) in
/-- Whether the block that an expression is put into does not begin with a tracker call, and has as
many bodies inside that do as the expression. -/
def keepsBegun (h : Head) : Bool :=
  !(h.isClosure && (m h.place).isSome) || h.body.all fun body ↦ (plainBlock? body).isSome ||
    (wrapped? (rewritten inj m body)).all fun block ↦
      !isInstrumented block && block.begun == (rewritten inj m body).begun

variable (inj m) in
/-- What is assumed of a pass over the heads of a tree: bodies are blocks or expressions, its tracker
calls are recognised and call no tracker inside, expressions are put into blocks as they are, and
nothing stands against the pass. -/
structure Countable (hs : List Head) : Prop where
  bodies : ∀ h ∈ hs, formOf h ≠ .other
  inert : inj.Inert
  silent : ∀ {f : Function} {call : Node},
    Injection.trackerStatement? inj.runtime inj.host f = some call → call.begun = 0
  keeps : ∀ h ∈ hs, inj.keepsBegun m h = true
  passable : ∀ mt ∈ met inj m hs, mt.IsPassable inj

theorem Countable.mono {hs hs' : List Head} (h : Countable inj m hs) (hsub : hs' ⊆ hs) :
    Countable inj m hs' where
  bodies head hhead := h.bodies head (hsub hhead)
  inert := h.inert
  silent := h.silent
  keeps head hhead := h.keeps head (hsub hhead)
  passable mt hmt := by
    obtain ⟨head, hhead, hmeet⟩ := List.mem_filterMap.1 hmt
    exact h.passable mt (List.mem_filterMap.2 ⟨head, hsub hhead, hmeet⟩)

/-! ### The block of a member -/

/-- The expression of a member, and the block that it is put into. -/
theorem keepsBegun_wrapped {h : Head} {body block : Node} {f : Function}
    (hkeeps : inj.keepsBegun m h = true) (hbody : h.body = some body) (hclosure : h.isClosure = true)
    (hf : m h.place = some f) (hplain : plainBlock? body = none)
    (hblock : wrapped? (rewritten inj m body) = some block) :
    isInstrumented block = false ∧ block.begun = (rewritten inj m body).begun := by
  simpa [keepsBegun, hbody, hclosure, hf, hplain, hblock] using hkeeps

/-- The block of a member begins with a tracker call if its body does. -/
theorem formOfBlock_meeting {hs : List Head} (hc : Countable inj m hs) {h : Head} (hh : h ∈ hs)
    {body : Node} (hbody : h.body = some body) {f : Function} (hf : m h.place = some f) :
    ∃ count, formOfBlock (meetingWith inj m f h.isClosure body).block =
      .block h.begins count := by
  have hform := hc.bodies h hh
  have hpassable := hc.passable _
    (List.mem_filterMap.2 ⟨h, hh, meet?_rewrittenHead.2 ⟨body, f, hbody, hf, rfl⟩⟩)
  -- what has the form of a block has it behind the rewriting
  have hblock {block : Node} (hother : formOfBlock block ≠ .other) :
      ∃ count, formOfBlock (rewritten inj m block) = .block (isInstrumented block) count := by
    rw [formOfBlock_rewritten]
    unfold formOfBlock at hother ⊢
    split at hother
    · exact ⟨_, rfl⟩
    · exact absurd rfl hother
  rw [formOf_eq hbody] at hform
  rw [Head.begins, hbody, Option.any_some]
  unfold meetingWith at hpassable ⊢
  cases hclosure : h.isClosure with
  | false =>
    rw [hclosure] at hform
    exact hblock hform
  | true =>
    rw [hclosure, if_pos rfl] at hform
    rw [hclosure] at hpassable
    simp only [if_pos]
    cases hplain : plainBlock? body with
    | some block =>
      have hsame : bodyBlock (rewritten inj m body) = rewritten inj m block := by
        rw [bodyBlock, bodyBlock?, plainBlock?_rewritten, hplain]
        rfl
      rw [hplain] at hform
      rw [hsame]
      exact hblock hform
    | none =>
      have hnone : plainBlock? (rewritten inj m body) = none := by
        rw [plainBlock?_rewritten, hplain]
        rfl
      obtain ⟨block, hwrapped⟩ : ∃ block, wrapped? (rewritten inj m body) = some block := by
        have hfits : (bodyBlock? (rewritten inj m body)).isSome = true := by simpa using hpassable.1
        rw [bodyBlock?, hnone] at hfits
        exact Option.isSome_iff_exists.1 hfits
      have hsame : bodyBlock (rewritten inj m body) = block := by
        rw [bodyBlock, bodyBlock?, hnone, hwrapped]
        rfl
      obtain ⟨hno, -⟩ := keepsBegun_wrapped (hc.keeps h hh) hbody hclosure hf hplain hwrapped
      obtain ⟨statements, rfl⟩ := exists_of_reread hwrapped
      refine ⟨statements.length, ?_⟩
      rw [hsame, Option.any_none, ← hno]
      exact formOfBlock_blockOf .brace statements

/-! ### One head -/

/-- The form of the new body of a member. -/
theorem formOf_placedHead_of_member (hinert : inj.Inert) {h : Head} {body : Node}
    (hbody : h.body = some body) {f : Function} (hf : m h.place = some f)
    (hpassable : (meetingWith inj m f h.isClosure body).IsPassable inj) :
    formOf (placedHead inj m h) =
      (formOfBlock (meetingWith inj m f h.isClosure body).block).after (inj.hasHost f) := by
  have hfront : formOfBlock (inj.front f (meetingWith inj m f h.isClosure body).block) =
      (formOfBlock (meetingWith inj m f h.isClosure body).block).after (inj.hasHost f) :=
    formOfBlock_front hinert hpassable.2
  rw [← hfront, formOf_eq (body_placedHead hbody), newBody, hf, placedHead, meetingWith]
  cases h.isClosure <;> rfl

theorem begins_of_form {h : Head} {body : Node} (hbody : h.body = some body) {begun : Bool}
    {count : Nat} (hform : formOf h = .block begun count) : h.begins = begun := by
  obtain ⟨block, hblock, rfl⟩ := exists_block_of_form hbody hform
  rw [Head.begins, hbody, Option.any_some]
  split at hblock
  · next hclosure => rw [if_pos hclosure, hblock, Option.any_some]
  · next hclosure =>
    obtain rfl := Option.some.inj hblock
    rw [if_neg hclosure]

/-- The body of an outsider begins with a tracker call behind a pass if it did before. -/
theorem begins_placedHead_of_none {h : Head} (hf : m h.place = none) :
    (placedHead inj m h).begins = h.begins := by
  cases hbody : h.body with
  | none => rw [Head.begins, Head.begins, placedHead, hbody, Option.map_none]
  | some body =>
    rw [Head.begins, Head.begins, body_placedHead hbody, hbody, Option.any_some, Option.any_some,
      newBody, hf, placedHead, isInstrumented_rewritten, plainBlock?_rewritten, Option.any_map]
    simp only [isInstrumented_rewritten]

/-- The body of a member begins with a tracker call behind a pass if it did before, or if the
function got one, but not for both reasons. -/
theorem begins_placedHead_of_member {hs : List Head} (hc : Countable inj m hs) {h : Head}
    (hh : h ∈ hs) {body : Node} (hbody : h.body = some body) {f : Function}
    (hf : m h.place = some f) : (placedHead inj m h).begins.toNat =
      h.begins.toNat + ((meetingWith inj m f h.isClosure body).isReady inj).toNat := by
  have hpassable := hc.passable _
    (List.mem_filterMap.2 ⟨h, hh, meet?_rewrittenHead.2 ⟨body, f, hbody, hf, rfl⟩⟩)
  obtain ⟨count, hblock⟩ := formOfBlock_meeting hc hh hbody hf
  have hnew := formOf_placedHead_of_member hc.inert hbody hf hpassable
  have hready : (meetingWith inj m f h.isClosure body).isReady inj =
      (!h.begins && inj.hasHost f) := by
    rw [Meeting.isReady, isReady, isInstrumented_of_formOfBlock hblock]
    rfl
  rw [hblock, Form.after] at hnew
  rw [hready]
  -- the four cases of a call that is there and a parameter for the host
  cases hbegun : h.begins <;> cases hhost : inj.hasHost f <;> rw [hbegun, hhost] at hnew <;>
    rw [begins_of_form (body_placedHead hbody) hnew] <;> rfl

/-- A head adds to the bodies that begin with a tracker call as it adds to the report. -/
theorem begins_placedHead {hs : List Head} (hc : Countable inj m hs) {h : Head} (hh : h ∈ hs) :
    (placedHead inj m h).begins.toNat =
      h.begins.toNat + (met inj m [h]).countP (·.isReady inj) := by
  have hmet : met inj m [h] = (meet? m (rewrittenHead inj m h)).toList := by
    rw [met, List.filterMap_cons]
    cases meet? m (rewrittenHead inj m h) <;> rfl
  by_cases hmember : ∃ body f, h.body = some body ∧ m h.place = some f
  · obtain ⟨body, f, hbody, hf⟩ := hmember
    rw [hmet, meet?_rewrittenHead.2 ⟨body, f, hbody, hf, rfl⟩, Option.toList_some,
      List.countP_singleton, begins_placedHead_of_member hc hh hbody hf]
    cases Meeting.isReady inj (meetingWith inj m f h.isClosure body) <;> rfl
  · have hno : meet? m (rewrittenHead inj m h) = none := by
      rw [Option.eq_none_iff_forall_ne_some]
      intro mt hmt
      obtain ⟨body, f, hbody, hf, -⟩ := meet?_rewrittenHead.1 hmt
      exact hmember ⟨body, f, hbody, hf⟩
    rw [hmet, hno]
    cases hf : m h.place with
    | none => rw [begins_placedHead_of_none hf]; rfl
    | some f =>
      cases hbody : h.body with
      | none => rw [Head.begins, Head.begins, placedHead, hbody]; rfl
      | some body => exact absurd ⟨body, f, hbody, hf⟩ hmember

/-! ### Inside a body -/

theorem begun_exprBlock (block : Node) :
    (Node.node .exprBlock [.list [], .absent, block]).begun = block.begun := by
  rw [Node.begun_plain rfl]
  simp

theorem begun_prepend {call : Node} (hcall : call.begun = 0) (block : Node) :
    (prepend call block).begun = block.begun := by
  unfold prepend
  split
  · simp [Node.begun_node, Head.of?, hcall]
  · rfl

theorem begun_front (hc : ∀ {call : Node}, Injection.trackerStatement? inj.runtime inj.host f =
    some call → call.begun = 0) (block : Node) : (inj.front f block).begun = block.begun := by
  unfold front withCall
  split
  · split
    · next hcall => exact begun_prepend (hc hcall) block
    · rfl
  · rfl

/-- A new body has as many bodies inside that begin with a tracker call as the old one. -/
theorem begun_newBody {hs : List Head} (hc : Countable inj m hs) {h : Head} (hh : h ∈ hs)
    {body : Node} (hbody : h.body = some body) :
    (inj.newBody m h.place h.isClosure (rewritten inj m body)).begun =
      (rewritten inj m body).begun := by
  rw [newBody]
  cases hf : m h.place with
  | none => rfl
  | some f =>
    cases hclosure : h.isClosure with
    | false => exact begun_front hc.silent _
    | true =>
      simp only [if_pos]
      rw [begun_exprBlock, begun_front hc.silent]
      obtain ⟨hblock, -⟩ := hc.passable _
        (List.mem_filterMap.2 ⟨h, hh, meet?_rewrittenHead.2 ⟨body, f, hbody, hf, rfl⟩⟩)
      rw [meetingWith, hclosure] at hblock
      obtain ⟨block, hblock⟩ := Option.isSome_iff_exists.1 hblock
      rw [bodyBlock, hblock, Option.getD_some]
      rw [bodyBlock?, Option.orElse_eq_orElse, Option.orElse_eq_or, Option.or_eq_some_iff] at hblock
      rcases hblock with hplain | ⟨hplain, hwrapped⟩
      · rw [plainBlock?_eq_some.1 hplain, begun_exprBlock]
      · rw [plainBlock?_rewritten, Option.map_eq_none_iff] at hplain
        exact (keepsBegun_wrapped (hc.keeps h hh) hbody hclosure hf hplain hwrapped).2

/-! ### A tree -/

/-- **A pass adds as many tracker calls as it reports.** -/
theorem begun_rewritten {n : Node} (hc : Countable inj m n.heads) :
    (rewritten inj m n).begun = n.begun + (met inj m n.heads).countP (·.isReady inj) := by
  have hall (cs : List Node) (hcs : ∀ c ∈ cs, (rewritten inj m c).begun =
      c.begun + (met inj m c.heads).countP (·.isReady inj)) :
      Node.begunAll (cs.map (rewritten inj m)) =
        Node.begunAll cs + (met inj m (Node.headsAll cs)).countP (·.isReady inj) := by
    induction cs with
    | nil => rfl
    | cons c cs ih =>
      rw [List.map_cons, Node.begunAll_cons, Node.begunAll_cons, hcs c List.mem_cons_self,
        ih fun c hc ↦ hcs c (List.mem_cons_of_mem _ hc), Node.headsAll, met_append m,
        List.countP_append]
      omega
  have hbelow {cs : List Node} {c : Node} (hc : c ∈ cs) : c.heads ⊆ Node.headsAll cs :=
    fun h hh ↦ Node.mem_headsAll.2 ⟨_, hc, hh⟩
  induction n using Node.induction with
  | token | unread => rfl
  | group d cs ih =>
    rw [rewritten_group, Node.begun_group, Node.begun_group]
    exact hall cs fun c hmem ↦ ih c hmem (hc.mono (hbelow hmem))
  | node k cs ih =>
    have hchildren := hall cs fun c hmem ↦ ih c hmem (hc.mono fun h hh ↦
      Node.mem_heads_node.2 (Or.inl (hbelow hmem hh)))
    -- a new body has as many calls inside as before; its own call is counted with the head
    have hkept : Node.begunAll (inj.newChildren m k (cs.map (rewritten inj m))) =
        Node.begunAll (cs.map (rewritten inj m)) := by
      cases hbody : (Head.of? k cs).bind Head.body with
      | none => rw [newChildren_of_no_body hbody]
      | some body =>
        obtain ⟨⟨place, isClosure, _⟩, hof, rfl⟩ := Option.bind_eq_some_iff.1 hbody
        rw [(newChildren_of_body hof).1]
        refine Node.begunAll_set ?_ (begun_newBody hc (Node.mem_heads_node.2 (Or.inr hof)) rfl)
        rw [List.getElem?_map, (Head.of?_body hof).1, Option.map_some]
    rw [rewritten_node, Node.begun_node, Node.begun_node, hkept, hchildren, of?_newChildren,
      Node.heads, met_append m, List.countP_append]
    cases hof : Head.of? k cs with
    | none => rfl
    | some h =>
      have hown := begins_placedHead hc (Node.mem_heads_node.2 (Or.inr hof))
      have hone (h : Head) : [h].countP Head.begins = h.begins.toNat := by
        rw [List.countP_singleton]
        cases h.begins <;> rfl
      rw [Option.map_some, Option.toList_some, Option.toList_some, hone, hone, hown]
      omega

end Injector

end RenderTrace
