import RenderTrace.Proofs.Injection.Recognition
import RenderTrace.Proofs.Syntax.Bodies

/-!
# What a pass makes of a tree

A pass of an injector carries the functions it met along, and may break down. What it makes of a
tree does not depend on either: given the members of the closure by place, `rewritten` says it as a
function of the tree alone, and everything about shapes is said about this function. The pass is
`rewritten` as long as it meets every function once, which is said in `Injector.weave_yields`.

Bodies are looked at when the functions inside were rewritten already. For a block this makes no
difference: whether it begins with a tracker call is the same before and after
(`isInstrumented_rewritten`), as a rewriting changes nothing but bodies and keeps first children.
-/

namespace RenderTrace.Injector

open Syntax

/-- The members of a closure by place. -/
abbrev Members := Location → Option Function

/-- An expression as the only statement of a block, if it can be read as one. -/
def wrapped? (body : Node) : Option Node :=
  Reread.reread? Grammar.plainBlock [TokenTree.group .brace .nowhere .nowhere body.trees]

/-- The block that the body of a closure is, or is put into. -/
def bodyBlock? (body : Node) : Option Node := plainBlock? body <|> wrapped? body

/-- The block of a closure's body, where there is one. -/
def bodyBlock (body : Node) : Node := (bodyBlock? body).getD .absent

variable (inj : Injector) (m : Members)

/-- Whether a function has a parameter for the host. -/
def hasHost (f : Function) : Bool := f.declaration.params.any fun p ↦ p.name == inj.host

/-- Whether a function gets a tracker call in front of a block. -/
def isReady (f : Function) (block : Node) : Bool := !isInstrumented block && inj.hasHost f

/-- The warning about a function without a parameter for the host. -/
def hostWarning (f : Function) : String :=
  f.declaration.displayName ++ " has no " ++ Reader.shown inj.host ++
    " parameter; not instrumented"

/-- A block with the tracker call of a function in front. -/
def withCall (f : Function) (block : Node) : Node :=
  match Injection.trackerStatement? inj.runtime inj.host f with
  | some statement => prepend statement block
  | none => block

/-- What becomes of the block of a member. -/
def front (f : Function) (block : Node) : Node :=
  if inj.isReady f block then inj.withCall f block else block

/-- What becomes of a body when the functions inside are done. -/
def newBody (place : Location) (isClosure : Bool) (body : Node) : Node :=
  match m place with
  | none => body
  | some f =>
    if isClosure then .node .exprBlock [.list [], .absent, inj.front f (bodyBlock body)]
    else inj.front f body

/-- What becomes of the children of a node when the functions inside are done. -/
def newChildren (k : Kind) (cs : List Node) : List Node :=
  match Head.of? k cs with
  | some ⟨place, isClosure, some body⟩ =>
    cs.set (Head.bodyAt k) (inj.newBody m place isClosure body)
  | _ => cs

mutual

/-- What a pass makes of a tree. -/
def rewritten : Node → Node
  | .node k cs => .node k (inj.newChildren m k (rewrittenAll cs))
  | .group d cs => .group d (rewrittenAll cs)
  | n => n

/-- What a pass makes of several trees. -/
def rewrittenAll : List Node → List Node
  | [] => []
  | c :: cs => rewritten c :: rewrittenAll cs

end

variable {inj m}

theorem rewrittenAll_eq_map (cs : List Node) :
    rewrittenAll inj m cs = cs.map (rewritten inj m) := by
  induction cs with
  | nil => rw [rewrittenAll, List.map_nil]
  | cons c cs ih => rw [rewrittenAll, ih, List.map_cons]

theorem rewritten_node (k : Kind) (cs : List Node) :
    rewritten inj m (.node k cs) = .node k (inj.newChildren m k (cs.map (rewritten inj m))) := by
  rw [rewritten, rewrittenAll_eq_map]

theorem rewritten_group (d : Delimiter) (cs : List Node) :
    rewritten inj m (.group d cs) = .group d (cs.map (rewritten inj m)) := by
  rw [rewritten, rewrittenAll_eq_map]

/-! ### What a rewriting keeps -/

/-- A rewriting is a change to bodies. -/
theorem rewritten_eq_mapBodies : rewritten inj m = Node.mapBodies (inj.newBody m) := by
  funext n
  induction n using Node.induction with
  | token | unread => rfl
  | group d cs ih =>
    rw [rewritten_group, Node.mapBodies_group, List.map_congr_left ih]
  | node k cs ih =>
    rw [rewritten_node, Node.mapBodies_node, List.map_congr_left ih]
    rfl

/-- Only children that can be a body change. -/
theorem newChildren_getElem? (k : Kind) (cs : List Node) {i : Nat} (hi : i ≠ Head.bodyAt k) :
    (inj.newChildren m k cs)[i]? = cs[i]? :=
  Node.withBody_getElem? k cs hi

/-- Nodes of a kind that is no head are rewritten child by child. -/
theorem rewritten_plain {k : Kind} (hk : ∀ cs, Head.of? k cs = none) (cs : List Node) :
    rewritten inj m (.node k cs) = .node k (cs.map (rewritten inj m)) := by
  rw [rewritten_eq_mapBodies, Node.mapBodies_plain hk]

theorem kind?_rewritten (n : Node) : (rewritten inj m n).kind? = n.kind? := by
  rw [rewritten_eq_mapBodies, Node.kind?_mapBodies]

theorem eq_of_rewritten_eq {k : Kind} (hk : ∀ cs, Head.of? k cs = none) {n : Node}
    {cs' : List Node} (h : rewritten inj m n = .node k cs') :
    ∃ cs, n = .node k cs ∧ cs.map (rewritten inj m) = cs' :=
  Node.ChildByChild.exists_eq_node kind?_rewritten (rewritten_plain hk) h

theorem rewritten_eq_group_iff {n : Node} {d : Delimiter} {cs' : List Node} :
    rewritten inj m n = .group d cs' ↔ ∃ cs, n = .group d cs ∧ cs.map (rewritten inj m) = cs' := by
  constructor
  · intro h
    cases n with
    | group d' cs =>
      rw [rewritten_group] at h
      obtain ⟨rfl, hcs⟩ := Node.group.inj h
      exact ⟨cs, rfl, hcs⟩
    | _ => cases h
  · rintro ⟨cs, rfl, rfl⟩
    exact rewritten_group d cs

theorem text_rewritten (n : Node) : (rewritten inj m n).text = n.text := by
  rw [rewritten_eq_mapBodies, Node.text_mapBodies]

theorem isToken_rewritten (n : Node) : (rewritten inj m n).isToken = n.isToken := by
  rw [rewritten_eq_mapBodies, Node.isToken_mapBodies]

/-- Children that are no bodies are rewritten in their place. -/
theorem child_rewritten (n : Node) {i : Nat} (hi : ∀ k, i ≠ Head.bodyAt k) :
    (rewritten inj m n).child i = rewritten inj m (n.child i) := by
  rw [rewritten_eq_mapBodies, Node.child_mapBodies n hi]

variable (inj m) in
/-- A head whose body was rewritten. -/
def rewrittenHead (h : Head) : Head := ⟨h.place, h.isClosure, h.body.map (rewritten inj m)⟩

/-- A rewriting of the children keeps the head, and acts on its body. -/
theorem head_rewritten (k : Kind) (cs : List Node) :
    Head.of? k (cs.map (rewritten inj m)) = (Head.of? k cs).map (rewrittenHead inj m) := by
  have hmap : rewrittenHead inj m = fun h ↦
      ⟨h.place, h.isClosure, h.body.map (Node.mapBodies (inj.newBody m))⟩ := by
    funext h
    rw [rewrittenHead, rewritten_eq_mapBodies]
  rw [hmap, rewritten_eq_mapBodies, Node.of?_mapBodies]

/-! ### Tracker calls -/

theorem wordsOf_rewritten (segments : List Node) :
    Node.wordsOf (segments.map (rewritten inj m)) = Node.wordsOf segments := by
  have hword : ∀ n, ((rewritten inj m n).child 0).text = (n.child 0).text := fun n ↦ by
    rw [child_rewritten n (Node.ne_bodyAt (by omega)), text_rewritten]
  simp only [Node.wordsOf, List.filter_map, List.map_map, Function.comp_def, isToken_rewritten,
    hword]

theorem segmentNames_rewritten (p : Node) :
    (rewritten inj m p).segmentNames = p.segmentNames := by
  have hwords (segments segments' : List Node)
      (h : rewritten inj m (.node .list segments) = .node .list segments') :
      (Node.wordsOf segments').map id = (Node.wordsOf segments).map id := by
    obtain rfl := (Node.node.inj ((rewritten_plain (fun _ ↦ rfl) segments).symm.trans h)).2
    rw [wordsOf_rewritten]
  simpa using Node.segmentNames_of_keeps kind?_rewritten (rewritten_plain fun _ ↦ rfl)
    (rewritten_plain fun _ ↦ rfl) hwords p

theorem isTrackerCall_rewritten (n : Node) :
    isTrackerCall (rewritten inj m n) = isTrackerCall n := by
  have hstmt : Node.ChildByChild (rewritten inj m) .stmtExpr := rewritten_plain fun _ ↦ rfl
  exact isTrackerCall_of_keeps kind?_rewritten (rewritten_plain fun _ ↦ rfl)
    (rewritten_plain fun _ ↦ rfl) (fun _ _ ↦ hstmt _) (fun _ _ _ ↦ hstmt.exists_pair)
    (fun p ↦ by rw [segmentNames_rewritten]) n

theorem head?_children_rewritten (n : Node) :
    (rewritten inj m n).children.head? = n.children.head?.map (rewritten inj m) := by
  cases n with
  | token cls text span => rfl
  | unread trees => rfl
  | group d cs => rw [rewritten_group, Node.children, List.head?_map, Node.children]
  | node k cs =>
    rw [rewritten_node, Node.children, List.head?_eq_getElem?,
      newChildren_getElem? k _ (Node.ne_bodyAt (by omega) k), ← List.head?_eq_getElem?,
      List.head?_map, Node.children]

/-- Whether a block begins with a tracker call does not change. -/
theorem isInstrumented_rewritten (block : Node) :
    isInstrumented (rewritten inj m block) = isInstrumented block :=
  isInstrumented_of_keeps kind?_rewritten (rewritten_plain fun _ ↦ rfl)
    (fun _ _ _ ↦ rewritten_eq_group_iff) head?_children_rewritten isTrackerCall_rewritten block

/-! ### Heads behind a rewriting -/

/-- A closure's body is a plain block before a change to bodies if it is one behind it. -/
theorem plainBlock?_mapBodies {f : Location → Bool → Node → Node} (body : Node) :
    plainBlock? (body.mapBodies f) = (plainBlock? body).map (Node.mapBodies f) := by
  have hplain {k : Kind} (hk : ∀ cs, Head.of? k cs = none) :
      Node.ChildByChild (Node.mapBodies f) k := Node.mapBodies_plain hk
  exact plainBlock?_of_keeps Node.kind?_mapBodies (hplain fun _ ↦ rfl)
    (fun _ ↦ (hplain fun _ ↦ rfl).eq_nil_iff) (fun _ ↦ (hplain fun _ ↦ rfl).eq_nil_iff) body

theorem plainBlock?_rewritten (body : Node) :
    plainBlock? (rewritten inj m body) = (plainBlock? body).map (rewritten inj m) := by
  rw [rewritten_eq_mapBodies, plainBlock?_mapBodies]

theorem heads_prepend (statement block : Node) :
    ∀ h ∈ block.heads, h ∈ (prepend statement block).heads := by
  intro h hh
  unfold prepend
  split
  · simp only [Node.heads, Node.headsAll, Node.list, List.append_nil, List.mem_append] at hh ⊢
    tauto
  · exact hh

theorem heads_front (f : Function) (block : Node) :
    ∀ h ∈ block.heads, h ∈ (inj.front f block).heads := by
  intro h hh
  unfold front withCall
  split
  · split
    · exact heads_prepend _ _ h hh
    · exact hh
  · exact hh

theorem isAbsent_front (f : Function) (block : Node) :
    (inj.front f block).isAbsent = block.isAbsent := by
  unfold front withCall prepend
  split
  · split
    · split <;> rfl
    · rfl
  · rfl

theorem heads_plainBlock (block : Node) :
    (Node.node .exprBlock [.list [], .absent, block]).heads = block.heads := by
  simp [Node.heads, Node.headsAll, Node.list, Node.absent, Head.of?]

/-- The heads in a body are kept, unless it is an expression that is put into a block. -/
theorem heads_newBody {place : Location} {isClosure : Bool} {body : Node}
    (hplain : isClosure = true → (m place).isSome → plainBlock? body ≠ none) :
    ∀ h ∈ body.heads, h ∈ (inj.newBody m place isClosure body).heads := by
  intro h hh
  unfold newBody
  cases hf : m place with
  | none => exact hh
  | some f =>
    cases isClosure with
    | false => exact heads_front f body h hh
    | true =>
      obtain ⟨b, hb⟩ := Option.ne_none_iff_exists'.1 (hplain rfl (by simp [hf]))
      have hblock : bodyBlock body = b := by rw [bodyBlock, bodyBlock?, hb]; rfl
      rw [plainBlock?_eq_some.1 hb, heads_plainBlock] at hh
      simp only [hblock, if_pos]
      rw [heads_plainBlock]
      exact heads_front f b h hh

variable (inj m) in
/-- A head as it is found behind a rewriting. -/
def placedHead (h : Head) : Head :=
  ⟨h.place, h.isClosure,
    h.body.map fun body ↦ inj.newBody m h.place h.isClosure (rewritten inj m body)⟩

/-- The children of a head with a body, and the head that they make, behind a rewriting. -/
theorem newChildren_of_body {k : Kind} {cs : List Node} {place : Location} {isClosure : Bool}
    {body : Node} (h : Head.of? k cs = some ⟨place, isClosure, some body⟩) :
    inj.newChildren m k (cs.map (rewritten inj m)) =
        (cs.map (rewritten inj m)).set (Head.bodyAt k)
          (inj.newBody m place isClosure (rewritten inj m body)) ∧
      Head.of? k (inj.newChildren m k (cs.map (rewritten inj m))) =
        some (placedHead inj m ⟨place, isClosure, some body⟩) := by
  have hof : Head.of? k (cs.map (rewritten inj m)) =
      some ⟨place, isClosure, some (rewritten inj m body)⟩ := by
    rw [head_rewritten, h]
    rfl
  have hchildren : inj.newChildren m k (cs.map (rewritten inj m)) =
      (cs.map (rewritten inj m)).set (Head.bodyAt k)
        (inj.newBody m place isClosure (rewritten inj m body)) := by
    rw [newChildren, hof]
  refine ⟨hchildren, ?_⟩
  rw [hchildren]
  refine (Head.of?_body hof).2 _ fun hfunction ↦ ?_
  subst hfunction
  unfold newBody
  split
  · rfl
  · exact isAbsent_front _ _

/-- Where there is no body, the children are rewritten in their places. -/
theorem newChildren_of_no_body {k : Kind} {cs : List Node}
    (h : (Head.of? k cs).bind Head.body = none) :
    inj.newChildren m k (cs.map (rewritten inj m)) = cs.map (rewritten inj m) := by
  rw [newChildren, head_rewritten]
  cases hof : Head.of? k cs with
  | none => rfl
  | some head =>
    rw [hof, Option.bind_some] at h
    simp only [Option.map_some, rewrittenHead, h, Option.map_none]

/-- A head is found with its new body. -/
theorem of?_newChildren (k : Kind) (cs : List Node) :
    Head.of? k (inj.newChildren m k (cs.map (rewritten inj m))) =
      (Head.of? k cs).map (placedHead inj m) := by
  cases hbody : (Head.of? k cs).bind Head.body with
  | none =>
    rw [newChildren_of_no_body hbody, head_rewritten]
    cases hof : Head.of? k cs with
    | none => rfl
    | some head =>
      rw [hof, Option.bind_some] at hbody
      simp only [Option.map_some, rewrittenHead, placedHead, hbody, Option.map_none]
  | some body =>
    obtain ⟨⟨place, isClosure, _⟩, hof, rfl⟩ := Option.bind_eq_some_iff.1 hbody
    rw [(newChildren_of_body hof).2, hof, Option.map_some]

/-- A child is rewritten in its place, or it is the body of a head and becomes the new body. -/
theorem child_cases {k : Kind} {cs : List Node} {c : Node} {i : Nat} (hi : cs[i]? = some c) :
    (inj.newChildren m k (cs.map (rewritten inj m)))[i]? = some (rewritten inj m c) ∨
      ∃ place isClosure, Head.of? k cs = some ⟨place, isClosure, some c⟩ ∧
        (inj.newChildren m k (cs.map (rewritten inj m)))[i]? =
          some (inj.newBody m place isClosure (rewritten inj m c)) := by
  have hi' : (cs.map (rewritten inj m))[i]? = some (rewritten inj m c) := by
    rw [List.getElem?_map, hi]
    rfl
  by_cases hbody : ∃ place isClosure body, Head.of? k cs = some ⟨place, isClosure, some body⟩
  · obtain ⟨place, isClosure, body, hof⟩ := hbody
    rw [(newChildren_of_body hof).1]
    by_cases hat : Head.bodyAt k = i
    · subst hat
      obtain rfl : body = c := Option.some.inj ((Head.of?_body hof).1.symm.trans hi)
      refine Or.inr ⟨place, isClosure, hof, ?_⟩
      obtain ⟨hlt, -⟩ := List.getElem?_eq_some_iff.1 hi'
      exact List.getElem?_set_self hlt
    · rw [List.getElem?_set_ne hat]
      exact Or.inl hi'
  · refine Or.inl ?_
    unfold newChildren
    split
    · next hof =>
      rw [head_rewritten] at hof
      obtain ⟨⟨place, isClosure, body⟩, hhead, hrewritten⟩ := Option.map_eq_some_iff.1 hof
      cases body with
      | none => cases hrewritten
      | some body => exact absurd ⟨place, isClosure, body, hhead⟩ hbody
    · exact hi'

/-- What was a head is one behind a rewriting, with its new body, if the heads in expressions that
are put into blocks are found there too. -/
theorem placedHead_mem_heads_or {Q : Head → Prop} (n : Node)
    (hexpressions : ∀ c ∈ n.heads, c.isClosure = true → (m c.place).isSome →
      ∀ body, c.body = some body → plainBlock? body = none → ∀ h ∈ (rewritten inj m body).heads,
        h ∈ (inj.newBody m c.place c.isClosure (rewritten inj m body)).heads ∨ Q h) :
    ∀ h ∈ n.heads, placedHead inj m h ∈ (rewritten inj m n).heads ∨ Q (placedHead inj m h) := by
  induction n using Node.induction with
  | token cls text span => simp [Node.heads]
  | unread trees => simp [Node.heads]
  | group d cs ih =>
    intro h hh
    rw [rewritten_group, Node.heads]
    obtain ⟨c, hc, hh⟩ := Node.mem_headsAll.1 hh
    refine (ih c hc (fun x hx ↦ hexpressions x (Node.mem_headsAll.2 ⟨c, hc, hx⟩)) h hh).imp_left
      fun hplaced ↦ ?_
    exact Node.mem_headsAll.2 ⟨_, List.mem_map_of_mem hc, hplaced⟩
  | node k cs ih =>
    intro h hh
    rw [rewritten_node]
    rw [Node.heads, List.mem_append] at hh ⊢
    rcases hh with hh | hh
    · -- a head below the node
      obtain ⟨c, hc, hh⟩ := Node.mem_headsAll.1 hh
      have hbelow : ∀ x ∈ c.heads, x ∈ (Node.node k cs).heads := fun x hx ↦ by
        rw [Node.heads]
        exact List.mem_append_left _ (Node.mem_headsAll.2 ⟨c, hc, hx⟩)
      refine (ih c hc (fun x hx ↦ hexpressions x (hbelow x hx)) h hh).elim (fun hplaced ↦ ?_) Or.inr
      have hfound {x : Node} {i : Nat}
          (hi : (inj.newChildren m k (cs.map (rewritten inj m)))[i]? = some x) :
          ∀ h ∈ x.heads, h ∈ Node.headsAll (inj.newChildren m k (cs.map (rewritten inj m))) :=
        fun h hh ↦ Node.mem_headsAll.2 ⟨x, List.mem_of_getElem? hi, hh⟩
      obtain ⟨i, hi⟩ := List.getElem?_of_mem hc
      rcases child_cases hi with hkept | ⟨place, isClosure, hof, hnew⟩
      · exact Or.inl (Or.inl (hfound hkept _ hplaced))
      · by_cases hplain : isClosure = true → (m place).isSome → plainBlock? c ≠ none
        · refine Or.inl (Or.inl (hfound hnew _ (heads_newBody (fun hclosure hmember ↦ ?_) _ hplaced)))
          rw [plainBlock?_rewritten, ne_eq, Option.map_eq_none_iff]
          exact hplain hclosure hmember
        · simp only [not_forall, not_not] at hplain
          obtain ⟨hclosure, hmember, hexpression⟩ := hplain
          have hhead : ⟨place, isClosure, some c⟩ ∈ (Node.node k cs).heads := by
            rw [Node.heads, hof]
            exact List.mem_append_right _ (by simp)
          exact (hexpressions _ hhead hclosure hmember c rfl hexpression _ hplaced).imp_left
            fun hplaced ↦ Or.inl (hfound hnew _ hplaced)
    · -- the head that the node is
      rw [Option.mem_toList] at hh
      refine Or.inl (Or.inr ?_)
      rw [Option.mem_toList, of?_newChildren, hh, Option.map_some]

end RenderTrace.Injector
