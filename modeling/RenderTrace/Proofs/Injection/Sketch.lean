import RenderTrace.Layout.Expression
import RenderTrace.Proofs.Injection.Begun

/-!
# Trees up to their spelling

A tree that is laid out and read again is not the same tree: its tokens stand elsewhere, and the
layout adds or leaves out what has no meaning, such as a comma behind the last element. The
*sketch* of a tree is what is left when all of this is set aside, so that a layout that keeps the
meaning of a tree keeps its sketch.

## What is set aside

* The places of tokens, and what the grammar does not read.
* Separators, a `::` in front of generic arguments, a bar in front of the cases of a pattern, and the
  brackets around the rules of a macro.
* Statements that are lone semicolons, unless one stands first, and semicolons that follow from the
  form of an expression.
* Braces around a single import, and braces or parentheses around the body of a closure or an arm. A
  block that is the whole body of a closure is never uncovered: its statements are those of the body.

Whether a body begins with a tracker call does not depend on any of this, so the heads of a tree and
of its sketch do so one by one (`beginnings_sketch`).
-/

namespace RenderTrace.Syntax

namespace Node

open Injector

/-! ### Sketches -/

/-- A part that may be left out where it is a token. -/
def optional (n : Node) : Node := if n.isToken then .absent else n

/-- The value of a block that holds nothing else. -/
def loneValue? : Node → Option Node
  | .node .exprBlock [.node .list [], .node .absent [], .node .block [.group _ [.node .list
      [.node .stmtExpr [e, .node .absent []]]]]] => some e
  | .node .exprBlock [.node .list [], .node .absent [], .node .block [.group _ [.node .list
      [.node .stmtMacro [attrs, call, .node .absent []]]]]] => some (.node .exprMacro [attrs, call])
  | _ => none

/-- What stands in parentheses. -/
def inParens? : Node → Option Node
  | .node .exprParen [.node .list [], .group _ [e]] => some e
  | _ => none

/-- An expression without what `inner` finds around it, unless a block would be uncovered. -/
def uncovered (inner : Node → Option Node) (e : Node) : Node :=
  match inner e with
  | some i => if (plainBlock? i).isSome then e else i
  | none => e

/-- The body of a closure without braces or parentheses around it. -/
def bareBody (e : Node) : Node := uncovered inParens? (uncovered loneValue? e)

/-- The body of an arm without braces or parentheses around it, to a depth. -/
def bareArm : Nat → Node → Node
  | 0, e => e
  | depth + 1, e =>
    match loneValue? e <|> inParens? e with
    | some i => bareArm depth i
    | none =>
      match e with
      | .node .exprTuple [.node .list [], .group _ [.node .list []]] => Layout.emptyBlock
      | e => e

/-- Whether a statement is a lone semicolon. -/
def isLoneSemicolon : Node → Bool
  | .node .stmtExpr [.node .verbatim [.unread []], .token ..] => true
  | _ => false

/-- An import without braces around a single one. -/
def loneImport : Node → Node
  | .node .useGroup [.group _ [.node .list [t]]] => t
  | t => t

/-- Generic arguments without a `::` in front. -/
def withoutColons : Node → Node
  | .node .angleArguments (colons :: rest) => .node .angleArguments (optional colons :: rest)
  | args => args

/-- What the grammar does not read, without the brackets around it. -/
def withoutBrackets : Node → Node
  | .group _ [.unread ts] => .unread ts
  | args => args

/-- The children of a node of a kind without what is a matter of spelling. -/
def tidied : Kind → List Node → List Node
  | .list, c :: cs => c :: cs.filter fun c ↦ !c.isToken
  | .block, [.group d [.node .list (s :: ss)]] =>
    [.group d [.node .list (s :: ss.filter fun s ↦ !s.isLoneSemicolon)]]
  | .stmtExpr, [e, semi] =>
    [e, if Layout.addsSemicolon e || Layout.dropsSemicolon e then optional semi else semi]
  | .exprClosure, cs => cs.modify 10 bareBody
  | .arm, cs => (cs.modify 5 fun e ↦ bareArm e.size e).modify 6 optional
  | .segment, cs => cs.modify 1 withoutColons
  | .patOr, cs => cs.modify 1 optional
  | .usePath, cs => cs.modify 2 loneImport
  | .itemUse, cs => cs.modify 4 loneImport
  | .itemMacro, cs => (cs.modify 4 withoutBrackets).modify 5 optional
  | _, cs => cs

mutual

/-- A tree without what is a matter of spelling. -/
def sketch : Node → Node
  | .token cls t _ => .token cls t .nowhere
  | .unread _ => .unread []
  | .group d cs => .group d (sketchAll cs)
  | .node k cs => .node k (tidied k (sketchAll cs))

/-- Several trees without what is a matter of spelling. -/
def sketchAll : List Node → List Node
  | [] => []
  | c :: cs => sketch c :: sketchAll cs

end

theorem sketchAll_eq_map (cs : List Node) : sketchAll cs = cs.map sketch := by
  induction cs with
  | nil => rw [sketchAll, List.map_nil]
  | cons c cs ih => rw [sketchAll, ih, List.map_cons]

theorem sketch_node (k : Kind) (cs : List Node) :
    sketch (.node k cs) = .node k (tidied k (cs.map sketch)) := by
  rw [sketch, sketchAll_eq_map]

theorem sketch_group (d : Delimiter) (cs : List Node) :
    sketch (.group d cs) = .group d (cs.map sketch) := by
  rw [sketch, sketchAll_eq_map]

/-! ### What a sketch keeps -/

theorem kind?_sketch (n : Node) : n.sketch.kind? = n.kind? := by
  cases n <;> rfl

theorem isAbsent_sketch (n : Node) : n.sketch.isAbsent = n.isAbsent := by
  rw [isAbsent, is, kind?_sketch, isAbsent, is]

theorem isToken_sketch (n : Node) : n.sketch.isToken = n.isToken := by
  cases n <;> rfl

theorem text_sketch (n : Node) : n.sketch.text = n.text := by
  cases n <;> rfl

theorem sketch_absent : sketch .absent = .absent := rfl

/-! ### Bodies inside -/

/-- Which of the heads in a tree begin with a tracker call, in the order of the heads. -/
def beginnings (n : Node) : List Bool := n.heads.map Head.begins

/-- Which of the heads in several trees begin with a tracker call. -/
def beginningsAll (cs : List Node) : List Bool := (headsAll cs).map Head.begins

@[simp] theorem beginnings_group (d : Delimiter) (cs : List Node) :
    (group d cs).beginnings = beginningsAll cs := rfl

@[simp] theorem beginningsAll_nil : beginningsAll [] = [] := rfl

@[simp] theorem beginningsAll_cons (c : Node) (cs : List Node) :
    beginningsAll (c :: cs) = c.beginnings ++ beginningsAll cs := List.map_append

theorem beginnings_node (k : Kind) (cs : List Node) : (node k cs).beginnings =
    beginningsAll cs ++ (Head.of? k cs).toList.map Head.begins := List.map_append

theorem begun_eq_countP (n : Node) : n.begun = n.beginnings.countP id := by
  rw [beginnings, List.countP_map]
  rfl

theorem beginningsAll_map {f : Node → Node} {cs : List Node}
    (h : ∀ c ∈ cs, (f c).beginnings = c.beginnings) :
    beginningsAll (cs.map f) = beginningsAll cs := by
  induction cs with
  | nil => rfl
  | cons c cs ih =>
    rw [List.map_cons, beginningsAll_cons, beginningsAll_cons, h c List.mem_cons_self,
      ih fun c hc ↦ h c (List.mem_cons_of_mem _ hc)]

/-- Children without heads may be left out. -/
theorem beginningsAll_filter {p : Node → Bool} {cs : List Node}
    (h : ∀ c ∈ cs, p c = false → c.beginnings = []) :
    beginningsAll (cs.filter p) = beginningsAll cs := by
  induction cs with
  | nil => rfl
  | cons c cs ih =>
    have hrest := ih fun c hc ↦ h c (List.mem_cons_of_mem _ hc)
    cases hc : p c with
    | true => rw [List.filter_cons_of_pos hc, beginningsAll_cons, beginningsAll_cons, hrest]
    | false =>
      rw [List.filter_cons_of_neg (by simp [hc]), beginningsAll_cons, hrest,
        h c List.mem_cons_self hc, List.nil_append]

theorem beginnings_optional (n : Node) : (optional n).beginnings = n.beginnings := by
  unfold optional
  split
  · cases n with
    | token => rfl
    | _ => contradiction
  · rfl

theorem beginnings_loneValue? {e i : Node} (h : loneValue? e = some i) : i.beginnings = e.beginnings := by
  unfold loneValue? at h
  split at h
  case h_3 => cases h
  all_goals
    obtain rfl := Option.some.inj h
    simp [beginnings_node, Head.of?]

theorem beginnings_inParens? {e i : Node} (h : inParens? e = some i) : i.beginnings = e.beginnings := by
  unfold inParens? at h
  split at h
  · obtain rfl := Option.some.inj h
    simp [beginnings_node, Head.of?]
  · cases h

theorem beginnings_uncovered {inner : Node → Option Node}
    (hinner : ∀ {e i}, inner e = some i → i.beginnings = e.beginnings) (e : Node) :
    (uncovered inner e).beginnings = e.beginnings := by
  unfold uncovered
  split
  · next hi =>
    split
    · rfl
    · exact hinner hi
  · rfl

theorem beginnings_bareBody (e : Node) : (bareBody e).beginnings = e.beginnings :=
  (beginnings_uncovered beginnings_inParens? _).trans (beginnings_uncovered beginnings_loneValue? e)

theorem beginnings_bareArm (depth : Nat) (e : Node) : (bareArm depth e).beginnings = e.beginnings := by
  induction depth generalizing e with
  | zero => rfl
  | succ depth ih =>
    unfold bareArm
    split
    · next i hi =>
      rw [Option.orElse_eq_orElse, Option.orElse_eq_or, Option.or_eq_some_iff] at hi
      rw [ih]
      exact hi.elim beginnings_loneValue? fun h ↦ beginnings_inParens? h.2
    · split
      · rfl
      · rfl

theorem beginnings_of_isLoneSemicolon {s : Node} (h : s.isLoneSemicolon = true) : s.beginnings = [] := by
  unfold isLoneSemicolon at h
  split at h
  · rfl
  · cases h

theorem beginnings_loneImport (t : Node) : (loneImport t).beginnings = t.beginnings := by
  unfold loneImport
  split
  · simp [beginnings_node, Head.of?]
  · rfl

theorem beginnings_withoutColons (n : Node) : (withoutColons n).beginnings = n.beginnings := by
  unfold withoutColons
  split
  · simp [beginnings_node, Head.of?, beginnings_optional]
  · rfl

theorem beginnings_withoutBrackets (n : Node) : (withoutBrackets n).beginnings = n.beginnings := by
  unfold withoutBrackets
  split <;> rfl

theorem beginningsAll_modify {f : Node → Node} (hf : ∀ n, (f n).beginnings = n.beginnings) (cs : List Node)
    (i : Nat) : beginningsAll (cs.modify i f) = beginningsAll cs := by
  induction cs generalizing i with
  | nil => rw [List.modify_nil]
  | cons c cs ih =>
    cases i with
    | zero => rw [List.modify_zero_cons, beginningsAll_cons, beginningsAll_cons, hf]
    | succ i => rw [List.modify_succ_cons, beginningsAll_cons, beginningsAll_cons, ih]

/-- What is a matter of spelling holds no bodies. -/
theorem beginningsAll_tidied (k : Kind) (cs : List Node) : beginningsAll (tidied k cs) = beginningsAll cs := by
  have htokens (cs : List Node) : beginningsAll (cs.filter fun c ↦ !c.isToken) = beginningsAll cs :=
    beginningsAll_filter fun c _ hc ↦ by
      cases c with
      | token => rfl
      | _ => cases hc
  have hempty (ss : List Node) : beginningsAll (ss.filter fun s ↦ !s.isLoneSemicolon) = beginningsAll ss :=
    beginningsAll_filter fun s _ hs ↦ beginnings_of_isLoneSemicolon (by simpa using hs)
  unfold tidied
  split
  case h_1 => rw [beginningsAll_cons, beginningsAll_cons, htokens]
  case h_2 => simp [beginnings_node, Head.of?, hempty]
  case h_3 => split <;> simp [beginnings_optional]
  case h_4 => exact beginningsAll_modify beginnings_bareBody _ _
  case h_5 =>
    rw [beginningsAll_modify beginnings_optional]
    exact beginningsAll_modify (fun e ↦ beginnings_bareArm _ e) _ _
  case h_6 => exact beginningsAll_modify beginnings_withoutColons _ _
  case h_7 => exact beginningsAll_modify beginnings_optional _ _
  case h_8 | h_9 => exact beginningsAll_modify beginnings_loneImport _ _
  case h_10 =>
    rw [beginningsAll_modify beginnings_optional, beginningsAll_modify beginnings_withoutBrackets]
  case h_11 => rfl

/-! ### Tracker calls -/

/-- A kind whose children are a matter of spelling only in themselves. -/
theorem sketch_plain {k : Kind} (hk : ∀ cs, tidied k cs = cs) (cs : List Node) :
    sketch (.node k cs) = .node k (cs.map sketch) := by
  rw [sketch_node, hk]

/-- The first child is kept, up to what a group holds. -/
theorem head?_tidied {α : Type} {p : Node → α}
    (hgroup : ∀ d cs cs', p (.group d cs) = p (.group d cs')) (k : Kind) (cs : List Node) :
    (tidied k cs).head?.map p = cs.head?.map p := by
  have hmodify (cs : List Node) (i : Nat) (f : Node → Node) :
      (cs.modify (i + 1) f).head? = cs.head? := by
    cases cs with
    | nil => rfl
    | cons => rfl
  unfold tidied
  split
  case h_2 => exact congrArg some (hgroup _ _ _)
  all_goals first | rfl | rw [hmodify, hmodify] | rw [hmodify]

theorem text_child_sketch (n : Node) : (n.sketch.child 0).text = (n.child 0).text := by
  have hfirst (cs : List Node) : (cs.getD 0 .absent).text = (cs.head?.map text).getD "" := by
    cases cs with
    | nil => rfl
    | cons => rfl
  have hmap (cs : List Node) : (cs.map sketch).head?.map text = cs.head?.map text := by
    rw [List.head?_map, Option.map_map]
    exact Option.map_congr fun c _ ↦ text_sketch c
  cases n with
  | token | unread => rfl
  | group d cs => rw [sketch_group, child, children, child, children, hfirst, hmap, hfirst]
  | node k cs =>
    rw [sketch_node, child, children, child, children, hfirst, head?_tidied (fun _ _ _ ↦ rfl), hmap,
      hfirst]

theorem wordsOf_sketch (segments : List Node) :
    wordsOf (tidied .list (segments.map sketch)) = wordsOf segments := by
  have hmap (segments : List Node) : wordsOf (segments.map sketch) = wordsOf segments := by
    simp only [wordsOf, List.filter_map, List.map_map, Function.comp_def, isToken_sketch,
      text_child_sketch]
  rw [← hmap segments]
  generalize segments.map sketch = segments
  cases segments with
  | nil => rfl
  | cons s ss =>
    rw [tidied, wordsOf, wordsOf, List.filter_cons, List.filter_cons, List.filter_filter]
    simp only [Bool.and_self]

theorem segmentNames_sketch (p : Node) : p.sketch.segmentNames = p.segmentNames := by
  have hwords (segments segments' : List Node)
      (h : sketch (.node .list segments) = .node .list segments') :
      (wordsOf segments').map id = (wordsOf segments).map id := by
    obtain rfl := (Node.node.inj ((sketch_node .list segments).symm.trans h)).2
    rw [wordsOf_sketch]
  simpa using segmentNames_of_keeps kind?_sketch (sketch_plain fun _ ↦ rfl)
    (sketch_plain fun _ ↦ rfl) hwords p

theorem isTrackerCall_sketch (n : Node) : isTrackerCall n.sketch = isTrackerCall n := by
  refine isTrackerCall_of_keeps kind?_sketch (sketch_plain fun _ ↦ rfl) (sketch_plain fun _ ↦ rfl)
    (fun parts semi ↦ ?_) (fun cs e semi h ↦ ?_) (fun p ↦ by rw [segmentNames_sketch]) n
  · -- the semicolon behind a call is no matter of spelling
    rw [sketch_node, List.map_cons, List.map_singleton, sketch_plain fun _ ↦ rfl]
    rfl
  · have hcs := (Node.node.inj ((sketch_node .stmtExpr cs).symm.trans h)).2
    rcases cs with _ | ⟨e', _ | ⟨semi', _ | ⟨other, cs⟩⟩⟩
    · cases hcs
    · cases (List.cons.inj hcs).2
    · exact ⟨e', semi', rfl, (List.cons.inj hcs).1⟩
    · cases (List.cons.inj (List.cons.inj hcs).2).2

theorem head_children_sketch (n : Node) :
    n.sketch.children.head?.any isTrackerCall = n.children.head?.any isTrackerCall := by
  have hfirst (cs : List Node) :
      cs.head?.any isTrackerCall = (cs.head?.map isTrackerCall).getD false := by
    cases cs with
    | nil => rfl
    | cons => rfl
  have hmap (cs : List Node) :
      (cs.map sketch).head?.map isTrackerCall = cs.head?.map isTrackerCall := by
    rw [List.head?_map, Option.map_map]
    exact Option.map_congr fun c _ ↦ isTrackerCall_sketch c
  cases n with
  | token | unread => rfl
  | group d cs => rw [sketch_group, children, children, hfirst, hmap, hfirst]
  | node k cs =>
    rw [sketch_node, children, children, hfirst, head?_tidied (fun _ _ _ ↦ rfl), hmap, hfirst]

theorem isInstrumented_tidied (cs : List Node) :
    isInstrumented (.node .block (tidied .block cs)) = isInstrumented (.node .block cs) := by
  unfold tidied
  split
  case h_2 | h_11 => rfl
  all_goals contradiction

theorem isInstrumented_sketch (block : Node) :
    isInstrumented block.sketch = isInstrumented block := by
  by_cases hshape : ∃ d statements, block = .node .block [.group d [statements]]
  · obtain ⟨d, statements, rfl⟩ := hshape
    rw [sketch_node, isInstrumented_tidied, List.map_singleton, sketch_group, List.map_singleton]
    exact head_children_sketch statements
  · have hno : ∀ {block : Node}, (∀ d statements, block ≠ .node .block [.group d [statements]]) →
        isInstrumented block = false := fun h ↦ by
      rw [isInstrumented, statementsOf.eq_2 _ h]
      rfl
    rw [hno fun d statements h ↦ hshape ⟨d, statements, h⟩]
    cases block with
    | token | unread | group => rfl
    | node k cs =>
      by_cases hk : k = .block
      · subst hk
        rw [sketch_node, isInstrumented_tidied]
        refine hno fun d statements h ↦ ?_
        obtain ⟨group, rfl, hgroup⟩ := List.map_eq_singleton_iff.1 (Node.node.inj h).2
        cases group with
        | group d' inside =>
          rw [sketch_group] at hgroup
          obtain ⟨statements, rfl, -⟩ := List.map_eq_singleton_iff.1 (Node.group.inj hgroup).2
          exact hshape ⟨_, _, rfl⟩
        | _ => cases hgroup
      · refine hno fun d statements h ↦ hk ?_
        rw [sketch_node] at h
        exact (Node.node.inj h).1

theorem plainBlock?_sketch (body : Node) :
    plainBlock? body.sketch = (plainBlock? body).map sketch := by
  refine plainBlock?_of_keeps kind?_sketch (sketch_plain fun _ ↦ rfl) (fun cs ↦ ?_)
    (fun _ ↦ ChildByChild.eq_nil_iff (sketch_plain fun _ ↦ rfl)) body
  -- what a sketch leaves out of a sequence stands behind its first part
  cases cs with
  | nil => exact iff_of_true rfl rfl
  | cons c cs => exact iff_of_false nofun nofun

/-- Uncovering the body of a closure does not make it begin with a tracker call, or no longer. -/
theorem plainBlock?_uncovered {inner : Node → Option Node} {e : Node}
    (h : ∀ {i}, inner e = some i → (plainBlock? e).any isInstrumented = false) :
    (plainBlock? (uncovered inner e)).any isInstrumented =
      (plainBlock? e).any isInstrumented := by
  unfold uncovered
  split
  · next i hi =>
    split
    · rfl
    · next hno =>
      rw [Bool.not_eq_true, Option.isSome_eq_false_iff, Option.isNone_iff_eq_none] at hno
      rw [hno, h hi]
      rfl
  · rfl

theorem plainBlock?_bareBody (e : Node) :
    (plainBlock? (bareBody e)).any isInstrumented = (plainBlock? e).any isInstrumented := by
  have hlone {e i : Node} (h : loneValue? e = some i) :
      (plainBlock? e).any isInstrumented = false := by
    unfold loneValue? at h
    split at h
    case h_1 => exact isTrackerCall_value _
    case h_2 => rfl
    case h_3 => cases h
  have hparens {e i : Node} (h : inParens? e = some i) :
      (plainBlock? e).any isInstrumented = false := by
    unfold inParens? at h
    split at h
    · rfl
    · cases h
  exact (plainBlock?_uncovered hparens).trans (plainBlock?_uncovered hlone)

/-! ### Heads -/

/-- What keeps what is missing keeps the bodies of heads, wherever these stand. -/
theorem of?_map_body {g : Node → Node} (hg : g .absent = .absent)
    (habsent : ∀ n, (g n).isAbsent = n.isAbsent) (k : Kind) (cs : List Node) :
    (Head.of? k (cs.map g)).map (fun h ↦ (h.isClosure, h.body)) =
      (Head.of? k cs).map fun h ↦ (h.isClosure, h.body.map g) := by
  have hat : ∀ i, (cs.map g).getD i .absent = g (cs.getD i .absent) := fun i ↦ by
    rw [← hg, List.getD_map, hg]
  simp only [Head.of?, hat, List.length_map, Head.ofSignature, habsent]
  split
  case h_3 => split <;> rfl
  all_goals rfl

theorem isClosure_of_of? {k : Kind} {cs : List Node} {h : Head} (hof : Head.of? k cs = some h) :
    h.isClosure = true ↔ k = .exprClosure := by
  unfold Head.of? at hof
  split at hof
  case h_6 => cases hof
  all_goals
    obtain rfl := Option.some.inj hof
    simp [Head.ofSignature]

/-- The body of a head in a sketch. -/
def bodySketch (isClosure : Bool) (body : Node) : Node :=
  if isClosure then bareBody body.sketch else body.sketch

/-- The heads of a sketch are those of the tree, in other places. -/
theorem of?_sketch (k : Kind) (cs : List Node) :
    (Head.of? k (tidied k (cs.map sketch))).map (fun h ↦ (h.isClosure, h.body)) =
      (Head.of? k cs).map fun h ↦ (h.isClosure, h.body.map (bodySketch h.isClosure)) := by
  have hsketch := of?_map_body sketch_absent isAbsent_sketch k cs
  by_cases hplain : ∀ cs, Head.of? k cs = none
  · rw [hplain, hplain]
    rfl
  -- only of closures does a sketch change the body itself
  by_cases hclosure : k = .exprClosure
  · subst hclosure
    have hmodify (cs : List Node) :
        (Head.of? .exprClosure (cs.modify 10 bareBody)).map (fun h ↦ (h.isClosure, h.body)) =
          (Head.of? .exprClosure cs).map fun h ↦ (h.isClosure, h.body.map bareBody) := by
      by_cases hlength : cs.length = 11
      · match cs, hlength with
        | [_, _, _, _, _, _, _, _, _, _, _], _ => rfl
      · have hno (cs : List Node) (h : cs.length ≠ 11) : Head.of? .exprClosure cs = none := by
          unfold Head.of?
          split <;> simp_all
        rw [hno cs hlength, hno _ (by rwa [List.length_modify])]
        rfl
    have hbare := congrArg (Option.map fun p : Bool × Option Node ↦ (p.1, p.2.map bareBody)) hsketch
    simp only [Option.map_map, Function.comp_def] at hbare
    rw [tidied, hmodify, hbare]
    cases hof : Head.of? .exprClosure cs with
    | none => rfl
    | some h =>
      have hclosure : h.isClosure = true := (isClosure_of_of? hof).2 rfl
      rw [Option.map_some, Option.map_some, hclosure]
      rfl
  · have hsame : tidied k (cs.map sketch) = cs.map sketch := by
      unfold tidied
      split <;> first | rfl | exact absurd rfl hclosure | exact absurd (fun _ ↦ rfl) hplain
    rw [hsame, hsketch]
    cases hof : Head.of? k cs with
    | none => rfl
    | some h =>
      have hfunction : h.isClosure = false := by
        rw [Bool.eq_false_iff]
        exact fun h ↦ hclosure ((isClosure_of_of? hof).1 h)
      rw [Option.map_some, Option.map_some, hfunction]
      rfl

/-- Heads begin with a tracker call in a sketch as they do in the tree. -/
theorem begins_sketch (k : Kind) (cs : List Node) :
    (Head.of? k (tidied k (cs.map sketch))).toList.map Head.begins =
      (Head.of? k cs).toList.map Head.begins := by
  have hheads := of?_sketch k cs
  generalize Head.of? k (tidied k (cs.map sketch)) = sketched, Head.of? k cs = found at hheads ⊢
  cases found with
  | none => rw [Option.map_eq_none_iff.1 hheads]
  | some h =>
    obtain ⟨⟨place, isClosure, body⟩, rfl, hsame⟩ := Option.map_eq_some_iff.1 hheads
    obtain ⟨rfl, rfl⟩ := Prod.mk.inj hsame
    have hbegins : Head.begins ⟨place, h.isClosure, h.body.map (bodySketch h.isClosure)⟩ =
        h.begins := by
      rw [Head.begins, Head.begins, Option.any_map]
      congr 1
      funext body
      unfold bodySketch
      cases h.isClosure with
      | false => exact isInstrumented_sketch body
      | true =>
        refine (plainBlock?_bareBody body.sketch).trans ?_
        rw [plainBlock?_sketch, Option.any_map]
        simp only [isInstrumented_sketch]
        rfl
    rw [Option.toList_some, Option.toList_some, List.map_singleton, List.map_singleton, hbegins]

/-- **The heads of a sketch begin with tracker calls as those of the tree do.** -/
theorem beginnings_sketch (n : Node) : n.sketch.beginnings = n.beginnings := by
  induction n using Node.induction with
  | token | unread => rfl
  | group d cs ih => rw [sketch_group, beginnings_group, beginnings_group, beginningsAll_map ih]
  | node k cs ih =>
    rw [sketch_node, beginnings_node, beginnings_node, beginningsAll_tidied, beginningsAll_map ih,
      begins_sketch]

/-- A sketch has as many bodies that begin with a tracker call as the tree. -/
theorem begun_sketch (n : Node) : n.sketch.begun = n.begun := by
  rw [begun_eq_countP, beginnings_sketch, ← begun_eq_countP]

/-! ### Comparing trees -/

mutual

/-- Whether two trees are found to be equal. What the grammar does not read is only compared where
there is none, as in a sketch. -/
def same : Node → Node → Bool
  | .token cls t s, .token cls' t' s' => cls == cls' && t == t' && s == s'
  | .unread ts, .unread ts' => ts.isEmpty && ts'.isEmpty
  | .group d cs, .group d' cs' => d == d' && sameAll cs cs'
  | .node k cs, .node k' cs' => k == k' && sameAll cs cs'
  | _, _ => false

/-- Whether several trees are found to be equal to several others. -/
def sameAll : List Node → List Node → Bool
  | [], [] => true
  | a :: as, b :: bs => same a b && sameAll as bs
  | _, _ => false

end

theorem eq_of_same {a b : Node} (h : same a b = true) : a = b := by
  have hall {as : List Node} (ih : ∀ a ∈ as, ∀ {b}, same a b = true → a = b) :
      ∀ {bs}, sameAll as bs = true → as = bs := by
    induction as with
    | nil =>
      intro bs h
      cases bs with
      | nil => rfl
      | cons => cases h
    | cons a as ihas =>
      intro bs h
      cases bs with
      | nil => cases h
      | cons b bs =>
        rw [sameAll, Bool.and_eq_true] at h
        rw [ih a List.mem_cons_self h.1, ihas (fun a ha ↦ ih a (List.mem_cons_of_mem _ ha)) h.2]
  induction a using Node.induction generalizing b with
  | token cls t s =>
    cases b with
    | token cls' t' s' =>
      simp only [same, Bool.and_eq_true, beq_iff_eq] at h
      obtain ⟨⟨rfl, rfl⟩, rfl⟩ := h
      rfl
    | _ => cases h
  | unread ts =>
    cases b with
    | unread ts' =>
      simp only [same, Bool.and_eq_true, List.isEmpty_iff] at h
      obtain ⟨rfl, rfl⟩ := h
      rfl
    | _ => cases h
  | group d cs ih =>
    cases b with
    | group d' cs' =>
      simp only [same, Bool.and_eq_true, beq_iff_eq] at h
      obtain ⟨rfl, hcs⟩ := h
      rw [hall ih hcs]
    | _ => cases h
  | node k cs ih =>
    cases b with
    | node k' cs' =>
      simp only [same, Bool.and_eq_true, beq_iff_eq] at h
      obtain ⟨rfl, hcs⟩ := h
      rw [hall ih hcs]
    | _ => cases h

end Node

namespace SourceUnit

/-- The attributes and the items of a unit without what is a matter of spelling. -/
def sketch (u : SourceUnit) : Node × Node := (u.attributes.sketch, u.items.sketch)

/-- Whether two units are found to differ in spelling only. -/
def sameSketch (u v : SourceUnit) : Bool :=
  u.attributes.sketch.same v.attributes.sketch && u.items.sketch.same v.items.sketch

theorem sketch_eq_of_sameSketch {u v : SourceUnit} (h : u.sameSketch v = true) :
    u.sketch = v.sketch := by
  rw [sameSketch, Bool.and_eq_true] at h
  exact Prod.ext (Node.eq_of_same h.1) (Node.eq_of_same h.2)

/-- Units that differ in spelling only have as many bodies that begin with a tracker call. -/
theorem begun_eq_of_sketch_eq {u v : SourceUnit} (h : v.sketch = u.sketch) : v.begun = u.begun := by
  obtain ⟨hattributes, hitems⟩ := Prod.mk.inj h
  rw [begun, ← Node.begun_sketch, ← Node.begun_sketch v.items, hattributes, hitems,
    Node.begun_sketch, Node.begun_sketch, begun]

end SourceUnit

end RenderTrace.Syntax
