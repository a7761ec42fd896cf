import RenderTrace.Proofs.Injection.Generated

/-!
# Bodies that begin with a tracker call

`Node.begun` counts the bodies of a tree that begin with a tracker call, those of functions and of
closures alike. It is a sum over the nodes of the tree, and only heads add to it. A tracker call adds
nothing: the closures in it read the current value of a parameter and call no tracker
(`Injector.begun_of_isInert`).
-/

namespace RenderTrace

open Syntax

open Injector

namespace Syntax

/-- Whether the body of a function or a closure begins with a tracker call. -/
def Head.begins (h : Head) : Bool :=
  h.body.any fun body ↦
    if h.isClosure then (plainBlock? body).any isInstrumented else isInstrumented body

namespace Node

/-- The number of bodies in several trees that begin with a tracker call. -/
def begunAll (cs : List Node) : Nat := (headsAll cs).countP Head.begins

/-- The number of bodies in a tree that begin with a tracker call. -/
def begun (n : Node) : Nat := n.heads.countP Head.begins

@[simp] theorem begun_group (d : Delimiter) (cs : List Node) :
    (group d cs).begun = begunAll cs := rfl

@[simp] theorem begun_absent : Node.absent.begun = 0 := rfl

@[simp] theorem begunAll_nil : begunAll [] = 0 := rfl

@[simp] theorem begunAll_cons (c : Node) (cs : List Node) :
    begunAll (c :: cs) = c.begun + begunAll cs := List.countP_append

@[simp] theorem begunAll_append (cs cs' : List Node) :
    begunAll (cs ++ cs') = begunAll cs + begunAll cs' := by
  induction cs with
  | nil => exact (Nat.zero_add _).symm
  | cons c cs ih => rw [List.cons_append, begunAll_cons, begunAll_cons, ih, Nat.add_assoc]

theorem begun_node (k : Kind) (cs : List Node) :
    (node k cs).begun = begunAll cs + (Head.of? k cs).toList.countP Head.begins :=
  List.countP_append

/-- A node that is no head adds nothing to its children. -/
theorem begun_plain {k : Kind} {cs : List Node} (hk : Head.of? k cs = none) :
    (node k cs).begun = begunAll cs := by
  rw [begun_node, hk]
  rfl

@[simp] theorem begun_list (cs : List Node) : (Node.list cs).begun = begunAll cs := begun_plain rfl

/-- A child may be replaced by one of the same number. -/
theorem begunAll_set {cs : List Node} {i : Nat} {b c : Node} (hi : cs[i]? = some c)
    (h : b.begun = c.begun) : begunAll (cs.set i b) = begunAll cs := by
  induction cs generalizing i with
  | nil => rfl
  | cons a cs ih =>
    cases i with
    | zero =>
      obtain rfl := Option.some.inj hi
      rw [List.set_cons_zero, begunAll_cons, begunAll_cons, h]
    | succ i => rw [List.set_cons_succ, begunAll_cons, begunAll_cons, ih hi]

theorem begunAll_eq_zero {cs : List Node} (h : ∀ c ∈ cs, c.begun = 0) : begunAll cs = 0 := by
  induction cs with
  | nil => rfl
  | cons c cs ih =>
    rw [begunAll_cons, h c List.mem_cons_self, ih fun c hc ↦ h c (List.mem_cons_of_mem _ hc)]

/-- A tree without heads has none. -/
theorem begun_of_heads_nil {n : Node} (h : n.heads = []) : n.begun = 0 := by
  rw [begun, h, List.countP_nil]

theorem begunAll_children {n : Node} (h : n.begun = 0) : begunAll n.children = 0 := by
  cases n with
  | token | unread => rfl
  | group d cs => exact h
  | node k cs =>
    rw [begun_node] at h
    exact Nat.eq_zero_of_add_eq_zero_right h

theorem begun_child {n : Node} (h : n.begun = 0) (i : Nat) : (n.child i).begun = 0 := by
  have hall := begunAll_children h
  rw [child, List.getD_eq_getElem?_getD]
  cases hi : n.children[i]? with
  | none => rfl
  | some c =>
    obtain ⟨before, after, heq⟩ := List.append_of_mem (List.mem_of_getElem? hi)
    rw [heq, begunAll_append, begunAll_cons] at hall
    rw [Option.getD_some]
    omega

end Node

/-- The number of bodies in a unit that begin with a tracker call. -/
def SourceUnit.begun (u : SourceUnit) : Nat := u.attributes.begun + u.items.begun

end Syntax

/-! ### Generated trees -/

/-- What has no semicolon behind it is no tracker call. -/
theorem Injector.isTrackerCall_value (e : Node) : isTrackerCall (Quotation.value e) = false := by
  rw [Quotation.value]
  unfold isTrackerCall
  split
  · next heq =>
    obtain ⟨-, rfl⟩ : _ ∧ Node.absent = _ := by simpa using heq
    rfl
  · rfl

namespace Quotation

@[simp] theorem begun_op (t : String) : (Node.op t).begun = 0 := rfl

@[simp] theorem begun_word (t : String) : (Node.word t).begun = 0 := rfl

@[simp] theorem begun_segment (w : String) : (segment w).begun = 0 := rfl

@[simp] theorem begun_commas (es : List Node) : (commas es).begun = Node.begunAll es := by
  cases es with
  | nil => rfl
  | cons e es =>
    have hrest : Node.begunAll (es.flatMap fun x ↦ [.op ",", x]) = Node.begunAll es := by
      induction es with
      | nil => rfl
      | cons e es ih => rw [List.flatMap_cons, Node.begunAll_append, ih]; simp
    rw [commas, Node.begun_list, Node.begunAll_cons, Node.begunAll_cons, hrest]

@[simp] theorem begun_use (p : Node) : (use p).begun = p.begun := by
  simp [use, plain, Node.begun_node, Head.of?]

@[simp] theorem begun_name (w : String) : (name w).begun = 0 := by
  rw [name, begun_use]
  rfl

@[simp] theorem begun_text (s : String) : (text s).begun = 0 := rfl

@[simp] theorem begun_call (f : Node) (args : List Node) :
    (call f args).begun = f.begun + Node.begunAll args := by
  simp [call, plain, Node.begun_node, Head.of?]

@[simp] theorem begun_methodCall (receiver : Node) (method : String) (args : List Node) :
    (methodCall receiver method args).begun = receiver.begun + Node.begunAll args := by
  simp [methodCall, plain, Node.begun_node, Head.of?]

@[simp] theorem begun_ref (e : Node) : (ref e).begun = e.begun := by
  simp [ref, plain, Node.begun_node, Head.of?]

@[simp] theorem begun_paren (e : Node) : (paren e).begun = e.begun := by
  simp [paren, plain, Node.begun_node, Head.of?]

@[simp] theorem begun_array (es : List Node) : (array es).begun = Node.begunAll es := by
  simp [array, plain, Node.begun_node, Head.of?]

@[simp] theorem begun_value (e : Node) : (value e).begun = e.begun := by
  simp [value, Node.begun_node, Head.of?]

@[simp] theorem begun_blockExpr (statements : List Node) :
    (blockExpr statements).begun = Node.begunAll statements := by
  simp [blockExpr, block, plain, Node.begun_node, Head.of?]

/-- A closure whose body does not begin with a tracker call. -/
theorem begun_closure {w : String} {body : Node}
    (h : (plainBlock? body).any isInstrumented = false) : (closure w body).begun = body.begun := by
  simp [closure, bind, plain, Node.begun_node, Head.of?, Head.begins, h]

@[simp] theorem begun_letMut (w : String) (e : Node) : (letMut w e).begun = e.begun := by
  simp [letMut, bind, plain, Node.begun_node, Head.of?]

theorem begun_extend {p : Node} {w : String} (h : p.begun = 0) : (extend p w).begun = 0 := by
  have hlonger {segments : Node} (hsegments : segments.begun = 0) :
      (Node.list (segments.children ++ [.op "::", segment w])).begun = 0 := by
    rw [Node.begun_list, Node.begunAll_append, Node.begunAll_children hsegments]
    rfl
  unfold extend Grammar.mapSegments
  split
  case h_3 => exact h
  all_goals simp_all [Node.begun_node, Head.of?]

end Quotation

namespace Injection

open Quotation

variable {runtime : Node}

theorem begun_captured (h : runtime.begun = 0) (p : Param) : (captured runtime p).begun = 0 := by
  have hcapture {e : Node} (he : e.begun = 0) : (capture runtime e).begun = 0 := by
    simp [capture, begun_extend h, he]
  have hpresent {e : Node} (he : e.begun = 0) : (present e).begun = 0 := by
    rw [present, begun_call, Node.begunAll_cons, he]
    rfl
  -- the two sorts of closures: a block of one value, and a value
  have hblock {w : String} {e : Node} (he : e.begun = 0) :
      (closure w (blockExpr [value e])).begun = 0 := by
    have hno : (plainBlock? (blockExpr [value e])).any isInstrumented = false :=
      isTrackerCall_value e
    rw [begun_closure hno]
    simp [he]
  have hvalue {w : String} {e : Node} : (closure w (capture runtime e)).begun =
    (capture runtime e).begun := begun_closure rfl
  unfold captured
  split
  · exact hpresent (hcapture (by simp))
  · exact hpresent (by simp [begun_extend, h, hblock, hcapture])
  · simp [hvalue, hcapture]

theorem begun_push (h : runtime.begun = 0) (p : Param) : (push runtime p).begun = 0 := by
  rw [push, statement_of_spellsItself rfl]
  simp [Node.begun_node, Head.of?, begun_captured h]

theorem begun_snapshotImport (h : runtime.begun = 0) : (snapshotImport runtime).begun = 0 := by
  have htree (words : List String) {t : Node} (ht : t.begun = 0) :
      (words.foldr (fun w t ↦ Node.node .usePath [.word w, .op "::", t]) t).begun = 0 := by
    induction words with
    | nil => exact ht
    | cons w ws ih =>
      rw [List.foldr_cons]
      simp [Node.begun_node, Head.of?, ih]
  have hallow : (allow "unused_imports").begun = 0 := rfl
  rw [snapshotImport, importTraits]
  simp [Node.begun_node, Head.of?, hallow, Node.begun_child h, htree]

/-- A snapshot calls no tracker. -/
theorem begun_snapshot (h : runtime.begun = 0) (params : List Param) :
    (snapshot runtime params).begun = 0 := by
  have hpushes : Node.begunAll (params.map (push runtime)) = 0 :=
    Node.begunAll_eq_zero fun c hc ↦ by
      obtain ⟨p, -, rfl⟩ := List.mem_map.1 hc
      exact begun_push h p
  have hcount : (count params.length).begun = 0 := rfl
  unfold snapshot
  split
  · simp [begun_extend h]
  · simp [begun_extend, h, hpushes, hcount, begun_snapshotImport]

theorem begun_skippedNames (skip : Skip) : (skippedNames skip).begun = 0 := by
  have hnames : Node.begunAll (skip.parameters.map text) = 0 :=
    Node.begunAll_eq_zero fun c hc ↦ by
      obtain ⟨s, -, rfl⟩ := List.mem_map.1 hc
      rfl
  simp [skippedNames, hnames]

end Injection

namespace Injector

variable {inj : Injector}

/-- A tracker call that is recognised as one calls no tracker in its arguments. -/
theorem begun_of_isInert (h : inj.isInert = true) {f : Function} {call : Node}
    (hcall : Injection.trackerStatement? inj.runtime inj.host f = some call) : call.begun = 0 := by
  rw [isInert, Bool.and_eq_true, List.isEmpty_iff] at h
  have hruntime : inj.runtime.begun = 0 := Node.begun_of_heads_nil h.2
  rw [trackerStatement?_eq h.1 hcall]
  simp [Node.begun_node, Head.of?, Quotation.begun_extend, hruntime, Injection.begun_snapshot,
    Injection.begun_skippedNames]

end Injector

end RenderTrace
