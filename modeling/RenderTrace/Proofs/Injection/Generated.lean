import RenderTrace.Proofs.Injection.Spots
import RenderTrace.Proofs.Syntax.Shape

/-!
# What generated trees show

The tracker call that a pass puts in is recognised as one by a later pass, and it shows no functions
(`Node.shown`): the only closures in it read the current value of a parameter, and they are hidden.
Both depend on the path of the runtime, which may have generic arguments without a `::` in front, or
hold functions of its own. `Injector.isInert` says that it does not, and `Injector.Inert` is what
follows from that.
-/

namespace RenderTrace

open Syntax

open Injector

namespace Quotation

/-! ### Pieces -/

@[simp] theorem shown_op (t : String) : (Node.op t).shown = [] := rfl

@[simp] theorem shown_word (t : String) : (Node.word t).shown = [] := rfl

@[simp] theorem shown_absent : Node.absent.shown = [] := rfl

@[simp] theorem shown_list (cs : List Node) : (Node.list cs).shown = cs.flatMap Node.shown :=
  Node.shown_plain (fun _ ↦ rfl) cs

@[simp] theorem shown_plain : plain.shown = [] := rfl

@[simp] theorem shown_commas (es : List Node) : (commas es).shown = es.flatMap Node.shown := by
  cases es with
  | nil => rfl
  | cons e es =>
    rw [commas, shown_list, List.flatMap_cons, List.flatMap_cons, List.flatMap_assoc]
    simp

@[simp] theorem shown_segment (w : String) : (segment w).shown = [] := rfl

@[simp] theorem shown_path (rooted : Bool) (words : List String) :
    (path rooted words).shown = [] := by
  unfold path
  rw [Node.shown_plain fun _ ↦ rfl]
  cases words <;> cases rooted <;> simp [List.flatMap_assoc]

@[simp] theorem shown_use (p : Node) : (use p).shown = p.shown := by
  rw [use, Node.shown_plain fun _ ↦ rfl]
  simp

@[simp] theorem shown_name (w : String) : (name w).shown = [] := by simp [name]

@[simp] theorem shown_text (s : String) : (text s).shown = [] := rfl

@[simp] theorem shown_count (n : Nat) : (count n).shown = [] := rfl

@[simp] theorem shown_call (f : Node) (args : List Node) :
    (call f args).shown = f.shown ++ args.flatMap Node.shown := by
  rw [call, Node.shown_plain fun _ ↦ rfl]
  simp

@[simp] theorem shown_methodCall (receiver : Node) (method : String) (args : List Node) :
    (methodCall receiver method args).shown = receiver.shown ++ args.flatMap Node.shown := by
  rw [methodCall, Node.shown_plain fun _ ↦ rfl]
  simp

@[simp] theorem shown_ref (e : Node) : (ref e).shown = e.shown := by
  rw [ref, Node.shown_plain fun _ ↦ rfl]
  simp

@[simp] theorem shown_paren (e : Node) : (paren e).shown = e.shown := by
  rw [paren, Node.shown_plain fun _ ↦ rfl]
  simp

@[simp] theorem shown_array (es : List Node) : (array es).shown = es.flatMap Node.shown := by
  rw [array, Node.shown_plain fun _ ↦ rfl]
  simp

@[simp] theorem shown_value (e : Node) : (value e).shown = e.shown := by
  rw [value, Node.shown_plain fun _ ↦ rfl]
  simp

@[simp] theorem shown_blockExpr (statements : List Node) :
    (blockExpr statements).shown = statements.flatMap Node.shown := by
  rw [blockExpr, Node.shown_plain fun _ ↦ rfl, block]
  simp [Node.shown_plain (k := .block) fun _ ↦ rfl]

@[simp] theorem shown_bind (w : String) (mutable : Bool) : (bind w mutable).shown = [] := by
  rw [bind, Node.shown_plain fun _ ↦ rfl]
  cases mutable <;> simp

/-- A generated closure is hidden. -/
@[simp] theorem shown_closure (w : String) (body : Node) :
    (closure w body).shown = body.shown := by
  rw [closure, Node.shown_node]
  have hspot : Spot.of? .exprClosure [plain, .absent, .absent, .absent, .absent, .absent, .op "|",
      .list [bind w false], .op "|", .absent, body] =
        some ⟨.start, true, (plainBlock? body).elim .expression formOfBlock⟩ := rfl
  rw [hspot]
  simp [Spot.isHidden]

@[simp] theorem shown_letMut (w : String) (e : Node) : (letMut w e).shown = e.shown := by
  rw [letMut, Node.shown_plain fun _ ↦ rfl]
  simp

/-- A longer path shows no more. -/
theorem shown_extend {p : Node} {w : String} (h : p.shown = []) : (extend p w).shown = [] := by
  have hlonger : ∀ segments : Node, segments.shown = [] →
      (Node.list (segments.children ++ [.op "::", segment w])).shown = [] := by
    intro segments hsegments
    rw [shown_list, List.flatMap_append, List.append_eq_nil_iff, List.flatMap_eq_nil_iff]
    exact ⟨fun c hc ↦ Node.shown_of_mem_children hsegments hc, by simp⟩
  unfold extend
  unfold Grammar.mapSegments
  split
  · next colons segments =>
    have hparts := fun c hc ↦ Node.shown_of_mem_children (c := c) h hc
    rw [Node.shown_plain fun _ ↦ rfl, List.flatMap_eq_nil_iff]
    simp only [Node.children, List.mem_cons, List.not_mem_nil, or_false, forall_eq_or_imp,
      forall_eq] at hparts ⊢
    exact ⟨hparts.1, hlonger _ hparts.2⟩
  · next segments =>
    have hparts := fun c hc ↦ Node.shown_of_mem_children (c := c) h hc
    rw [Node.shown_plain fun _ ↦ rfl, List.flatMap_eq_nil_iff]
    simp only [Node.children, List.mem_cons, List.not_mem_nil, or_false, forall_eq_or_imp,
      forall_eq] at hparts ⊢
    obtain ⟨h1, h2, h3, h4, h5, h6, hsegments⟩ := hparts
    exact ⟨h1, h2, h3, h4, h5, h6, hlonger _ hsegments⟩
  · exact h

end Quotation

namespace Injection

open Quotation

variable {runtime : Node}

theorem shown_captured (h : runtime.shown = []) (p : Param) : (captured runtime p).shown = [] := by
  unfold captured
  split <;> simp [present, capture, shown_extend, h]

theorem shown_push (h : runtime.shown = []) (p : Param) : (push runtime p).shown = [] := by
  rw [push, statement_of_spellsItself rfl, Node.shown_plain fun _ ↦ rfl]
  simp [shown_captured h]

theorem shown_snapshotImport (h : runtime.shown = []) : (snapshotImport runtime).shown = [] := by
  have htree : ∀ (words : List String) (t : Node), t.shown = [] →
      (words.foldr (fun w t ↦ Node.node .usePath [.word w, .op "::", t]) t).shown = [] := by
    intro words t ht
    induction words with
    | nil => exact ht
    | cons w ws ih =>
      rw [List.foldr_cons, Node.shown_plain fun _ ↦ rfl]
      simp [ih]
  have htree := htree runtime.segmentNames (.node .useGroup [.group .brace [commas
    (["CaptureDebug", "CaptureOpaque"].map fun t ↦
      .node .useRename [.word t, .word "as", .word "_"])]]) rfl
  have hallow : (Node.list [allow "unused_imports"]).shown = [] := rfl
  rw [snapshotImport, importTraits, Node.shown_plain fun _ ↦ rfl, List.flatMap_eq_nil_iff]
  simp only [List.mem_cons, List.not_mem_nil, or_false, forall_eq_or_imp, forall_eq]
  exact ⟨hallow, rfl, rfl, Node.shown_child h 0, htree, rfl⟩

/-- A snapshot shows nothing. -/
theorem shown_snapshot (h : runtime.shown = []) (params : List Param) :
    (snapshot runtime params).shown = [] := by
  unfold snapshot
  split
  · simp [shown_extend h]
  · simp [shown_extend, h, shown_push h, shown_snapshotImport h, List.flatMap_map]

theorem shown_skippedNames (skip : Skip) : (skippedNames skip).shown = [] := by
  simp [skippedNames]

end Injection

namespace Injector

variable {o : Options} {inj : Injector}

/-- Whether the path of the runtime may stand in a call and holds no functions. -/
def isInert (inj : Injector) : Bool :=
  Quotation.fitsExpression inj.runtime && inj.runtime.heads.isEmpty

/-- The tracker calls of an injector are recognised as such, and show no functions. -/
structure Inert (inj : Injector) : Prop where
  recognised : ∀ {f : Function} {call : Node},
    Injection.trackerStatement? inj.runtime inj.host f = some call → isTrackerCall call = true
  shown : ∀ {f : Function} {call : Node},
    Injection.trackerStatement? inj.runtime inj.host f = some call → call.shown = []

/-- The path of the runtime that the options give has a first segment. -/
theorem runtime_of_ofOptions (h : ofOptions o = .ok inj) :
    ∃ colons first more, inj.runtime = .node .path [colons, .list (first :: more)] ∧
      first.isToken = false :=
  exists_of_pathOf (of_ofOptions h).1

/-- The last word of a longer path is the one that was added. -/
theorem segmentNames_extend (colons : Node) (segments : List Node) (w : String) :
    (Quotation.extend (.node .path [colons, .list segments]) w).segmentNames.getLast? =
      some w := by
  have hwords : (Quotation.extend (.node .path [colons, .list segments]) w).segmentNames =
      Node.wordsOf (segments ++ [.op "::", Quotation.segment w]) := rfl
  rw [hwords, Node.wordsOf, List.filter_append, List.map_append]
  exact List.getLast?_concat

/-- The tracker call by a path that may stand in a call. -/
theorem trackerStatement?_eq (hfits : Quotation.fitsExpression inj.runtime = true) {f : Function}
    {call : Node} (h : Injection.trackerStatement? inj.runtime inj.host f = some call) :
    call = .node .stmtExpr
      [Quotation.call (Quotation.use (Quotation.extend inj.runtime Injection.trackerEntry))
        [Quotation.name inj.host, Quotation.text f.declaration.displayName,
          Injection.snapshot inj.runtime
            (Injection.capturedParams f.declaration.params inj.host),
          Injection.skippedNames f.skip], .op ";"] := by
  unfold Injection.trackerStatement? at h
  dsimp only at h
  split at h
  · rw [Quotation.statement?_of_spellsItself] at h
    · exact (Option.some.inj h).symm
    · exact (Quotation.fitsExpression_extend _ _).trans hfits
  · cases h

theorem inert_of_isInert (hinj : ofOptions o = .ok inj) (h : inj.isInert = true) : inj.Inert := by
  obtain ⟨colons, first, more, hpath, -⟩ := runtime_of_ofOptions hinj
  rw [isInert, Bool.and_eq_true, List.isEmpty_iff] at h
  have hshown : inj.runtime.shown = [] := Node.shown_of_heads_nil h.2
  constructor
  · intro f call hstatement
    rw [trackerStatement?_eq h.1 hstatement, Quotation.call, Quotation.use, isTrackerCall, hpath,
      segmentNames_extend]
    rfl
  · intro f call hstatement
    rw [trackerStatement?_eq h.1 hstatement, Node.shown_plain fun _ ↦ rfl]
    simp [Quotation.shown_extend hshown, Injection.shown_snapshot hshown,
      Injection.shown_skippedNames]

end Injector

end RenderTrace
