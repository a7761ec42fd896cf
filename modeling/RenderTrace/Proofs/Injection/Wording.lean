import RenderTrace.Proofs.Function.Order
import RenderTrace.Proofs.Injection.Quotation
import RenderTrace.Proofs.Injection.Rewriting
import RenderTrace.Proofs.Syntax.Blank

/-!
# Which names a pass shows does not matter

A tracker call names its function. Where a closure stands in another closure, the body of the outer
one may be read again with the call for the inner one in it, so the name is part of what is read.
But it stands there as a text, and texts are set aside. So functions that differ in their numbers
and in the names of closures only are treated alike: what a pass makes of a tree is the same but for
texts (`Injector.rewritten_blank`), and it begins with a tracker call, is put into a block, or cannot
be, for the one if and only if for the other.
-/

namespace RenderTrace

open Syntax

/-! ### Shapes without texts -/

namespace Syntax.Node

/-- The words of a path are the same, up to texts. -/
theorem segmentNames_blank (p : Node) :
    p.blank.segmentNames.map blankText = p.segmentNames.map blankText := by
  have hwords : ∀ segments : List Node,
      (wordsOf (segments.map blank)).map blankText = (wordsOf segments).map blankText := by
    intro segments
    have htoken : ((fun s : Node ↦ !s.isToken) ∘ blank) = fun s : Node ↦ !s.isToken := by
      funext s
      simp
    rw [wordsOf, wordsOf, List.filter_map, htoken, List.map_map, List.map_map, List.map_map]
    exact List.map_congr_left fun s _ ↦ by
      simp only [Function.comp_apply, child_blank, text_blank]
  refine segmentNames_of_keeps kind?_blank (blank_node _) (blank_node _) ?_ p
  intro segments segments' h
  obtain rfl := (Node.node.inj ((blank_node .list segments).symm.trans h)).2
  exact hwords segments

/-- Whether a path ends with a word that is no text. -/
theorem endsWith_blank {p : Node} {w : String} (hw : Reread.isText w = false) :
    (p.blank.segmentNames.getLast? == some w) = (p.segmentNames.getLast? == some w) := by
  have hlast : p.blank.segmentNames.getLast?.map blankText =
      p.segmentNames.getLast?.map blankText := by
    rw [← List.getLast?_map, segmentNames_blank, List.getLast?_map]
  have hiff : ∀ last : Option String, last = some w ↔ last.map blankText = some w := fun last ↦ by
    cases last with
    | none => exact Iff.rfl
    | some t => simp [blankText_eq_iff hw]
  rw [Bool.eq_iff_iff, beq_iff_eq, beq_iff_eq, hiff, hlast, ← hiff]

/-- Heads without texts. -/
theorem of?_blank (k : Kind) (cs : List Node) :
    Head.of? k (cs.map blank) =
      (Head.of? k cs).map fun h ↦ ⟨h.place, h.isClosure, h.body.map blank⟩ :=
  Head.of?_map blank_absent (fun n ↦ by rw [signatureName, child_blank, location_blank]; rfl)
    location_blank isAbsent_blank k cs

end Syntax.Node

namespace Injector

open Syntax.Node

theorem isTrackerCall_blank (n : Node) : isTrackerCall n.blank = isTrackerCall n := by
  have hentry : Reread.isText Injection.trackerEntry = false := by
    rw [Reread.isText, String.startsWith_string_eq_false_iff]
    decide
  have hplain (k : Kind) : ChildByChild blank k := blank_node k
  exact isTrackerCall_of_keeps kind?_blank (hplain _) (hplain _) (fun _ _ ↦ hplain _ _)
    (fun _ _ _ ↦ (hplain _).exists_pair) (fun _ ↦ endsWith_blank hentry) n

/-- Whether a block begins with a tracker call does not depend on texts. -/
theorem isInstrumented_blank (block : Node) : isInstrumented block.blank = isInstrumented block := by
  refine isInstrumented_of_keeps kind?_blank (blank_node _) (fun n d cs' ↦ ?_) (fun n ↦ ?_)
    isTrackerCall_blank block
  · constructor
    · exact eq_of_blank_eq_group
    · rintro ⟨cs, rfl, rfl⟩
      exact Node.blank_group d cs
  · rw [children_blank, List.head?_map]

theorem prepend_blank (statement block : Node) :
    prepend statement.blank block.blank = (prepend statement block).blank := by
  by_cases hshape : ∃ d statements, block = .node .block [.group d [.node .list statements]]
  · obtain ⟨d, statements, rfl⟩ := hshape
    simp only [blank_node, Node.blank_group, List.map_cons, List.map_nil, prepend, blank_list]
  · have hno : ∀ d statements, block ≠ .node .block [.group d [.node .list statements]] :=
      fun d statements h ↦ hshape ⟨d, statements, h⟩
    rw [prepend.eq_2 statement block hno, prepend.eq_2]
    intro d statements h
    obtain ⟨cs, rfl, hcs⟩ := eq_of_blank_eq_node h
    obtain ⟨group, rfl, hgroup⟩ := List.map_eq_singleton_iff.1 hcs
    obtain ⟨inside, rfl, hinside⟩ := eq_of_blank_eq_group hgroup
    obtain ⟨list, rfl, hlist⟩ := List.map_eq_singleton_iff.1 hinside
    obtain ⟨statements, rfl, -⟩ := eq_of_blank_eq_node hlist
    exact hno _ _ rfl

theorem plainBlock?_blank (body : Node) :
    plainBlock? body.blank = (plainBlock? body).map blank := by
  have hplain (k : Kind) : ChildByChild blank k := blank_node k
  exact plainBlock?_of_keeps kind?_blank (hplain _) (fun _ ↦ (hplain _).eq_nil_iff)
    (fun _ ↦ (hplain _).eq_nil_iff) body

/-! ### Bodies that are the same but for texts -/

variable {inj : Injector} {f f' : Function} {body body' : Node}

theorem bodyBlock?_blank (h : body'.blank = body.blank) :
    (bodyBlock? body').map blank = (bodyBlock? body).map blank := by
  have hplain : (plainBlock? body').map blank = (plainBlock? body).map blank := by
    rw [← plainBlock?_blank, h, plainBlock?_blank]
  have htrees : body'.trees.map TokenTree.blank = body.trees.map TokenTree.blank := by
    rw [← trees_blank, h, trees_blank]
  have hwrapped : (wrapped? body').map blank = (wrapped? body).map blank := by
    refine reread?_blank _ ?_
    rw [List.map_singleton, List.map_singleton, TokenTree.blank_group, TokenTree.blank_group,
      htrees]
  have hmap : ∀ r r' : Option Node, (r <|> r').map blank = (r.map blank <|> r'.map blank) :=
    fun r r' ↦ by cases r <;> rfl
  rw [bodyBlock?, bodyBlock?, hmap, hmap, hplain, hwrapped]

theorem bodyBlock_blank (h : body'.blank = body.blank) :
    (bodyBlock body').blank = (bodyBlock body).blank := by
  have hgetD : ∀ r : Option Node, (r.getD .absent).blank = (r.map blank).getD .absent := fun r ↦ by
    rw [← blank_absent, Option.getD_map, blank_absent]
  rw [bodyBlock, bodyBlock, hgetD, bodyBlock?_blank h, ← hgetD]

/-- An assignment with or without a semicolon. -/
def assignment? : Node → Option Node
  | .node .stmtExpr [.node .exprAssign parts, semi] =>
    some (.node .stmtExpr [.node .exprAssign parts, semi])
  | _ => none

theorem assignment?_blank (n : Node) : assignment? n.blank = (assignment? n).map blank := by
  by_cases hshape : ∃ parts semi, n = .node .stmtExpr [.node .exprAssign parts, semi]
  · obtain ⟨parts, semi, rfl⟩ := hshape
    simp only [blank_node, List.map_cons, List.map_nil, assignment?, Option.map_some]
  · have hno : ∀ parts semi, n ≠ .node .stmtExpr [.node .exprAssign parts, semi] :=
      fun parts semi h ↦ hshape ⟨parts, semi, h⟩
    rw [assignment?.eq_2 n hno, assignment?.eq_2]
    · rfl
    intro parts semi h
    obtain ⟨cs, rfl, hcs⟩ := eq_of_blank_eq_node h
    obtain ⟨assign, cs, rfl, hassign, hcs⟩ := List.map_eq_cons_iff.1 hcs
    obtain ⟨semi, rfl, -⟩ := List.map_eq_singleton_iff.1 hcs
    obtain ⟨parts, rfl, -⟩ := eq_of_blank_eq_node hassign
    exact hno _ _ rfl

/-- What the tokens of a statement are read as, if they do not spell it. -/
theorem statement?_of_not_spellsItself {e : Node} (h : Quotation.spellsItself e = false) :
    Quotation.statement? e =
      (Reread.reread? Grammar.statement (Node.node .stmtExpr [e, .op ";"]).trees).bind
        assignment? := by
  unfold Quotation.statement?
  dsimp only
  rw [h, if_neg Bool.false_ne_true]
  cases Reread.reread? Grammar.statement (Node.node .stmtExpr [e, .op ";"]).trees with
  | none => rfl
  | some n =>
    rw [Option.bind_some, assignment?.eq_def]
    split
    · next parts semi h =>
      obtain rfl := Option.some.inj h
      rfl
    · next hno =>
      split
      · exact absurd rfl (hno _ _)
      · rfl

/-- Statements of calls that are the same but for texts. -/
theorem statement?_blank {p : Node} {args args' : List Node} (h : (Quotation.call
    (Quotation.use p) args').blank = (Quotation.call (Quotation.use p) args).blank) :
    (Quotation.statement? (Quotation.call (Quotation.use p) args')).map blank =
      (Quotation.statement? (Quotation.call (Quotation.use p) args)).map blank := by
  have hstatement : (Node.node .stmtExpr [Quotation.call (Quotation.use p) args', .op ";"]).blank =
      (Node.node .stmtExpr [Quotation.call (Quotation.use p) args, .op ";"]).blank := by
    simp only [blank_node, List.map_cons, h]
  have hspells : Quotation.spellsItself (Quotation.call (Quotation.use p) args') =
      Quotation.spellsItself (Quotation.call (Quotation.use p) args) := rfl
  cases hspelled : Quotation.spellsItself (Quotation.call (Quotation.use p) args) with
  | true =>
    rw [Quotation.statement?_of_spellsItself (hspells.trans hspelled),
      Quotation.statement?_of_spellsItself hspelled, Option.map_some, Option.map_some, hstatement]
  | false =>
    have hread := reread?_blank Grammar.statement
      ((trees_blank _).symm.trans ((congrArg (fun n : Node ↦ n.trees.map TokenTree.blank)
        hstatement).trans (trees_blank _)))
    have hassign : ∀ read : Option Node, (read.bind assignment?).map blank =
        (read.map blank).bind assignment? := fun read ↦ by
      cases read with
      | none => rfl
      | some n => exact (assignment?_blank n).symm
    rw [statement?_of_not_spellsItself (hspells.trans hspelled),
      statement?_of_not_spellsItself hspelled, hassign, hassign, hread]

/-- The tracker calls of two functions are the same but for the names. -/
theorem trackerStatement?_blank (h : f'.anonymous = f.anonymous) :
    (Injection.trackerStatement? inj.runtime inj.host f').map blank =
      (Injection.trackerStatement? inj.runtime inj.host f).map blank := by
  have hliteral : ∀ name, blankText (Text.stringLiteral name) = "\"" := fun name ↦ by
    refine blankText_of_isText ?_
    rw [Reread.isText, String.startsWith_string_iff, Text.stringLiteral, String.append_assoc,
      String.toList_append]
    exact List.prefix_append _ _
  have htext : (Quotation.text f'.declaration.displayName).blank =
      (Quotation.text f.declaration.displayName).blank := by
    simp only [Quotation.text, blank_node, List.map_cons, List.map_nil, blank, hliteral]
  unfold Injection.trackerStatement?
  dsimp only
  rw [Function.params_of_anonymous h, Function.skip_of_anonymous h]
  split
  · refine statement?_blank ?_
    simp only [Quotation.call, Quotation.commas, blank_node, Node.blank_group, blank_list,
      List.map_cons, List.map_nil, List.flatMap_cons, List.flatMap_nil, List.cons_append,
      List.nil_append, htext]
  · rfl

/-! ### What a pass makes of a tree -/

/-- Two ways to find members by place find the same functions. -/
def Members.Alike (m m' : Members) : Prop :=
  ∀ l, Option.Rel (fun f f' ↦ f'.anonymous = f.anonymous) (m l) (m' l)

variable {m m' : Members}

theorem hasHost_of_anonymous (hf : f'.anonymous = f.anonymous) :
    inj.hasHost f' = inj.hasHost f := by
  rw [hasHost, hasHost, Function.params_of_anonymous hf]

theorem front_blank (hf : f'.anonymous = f.anonymous) (h : body'.blank = body.blank) :
    (inj.front f' body').blank = (inj.front f body).blank := by
  have hready : inj.isReady f' body' = inj.isReady f body := by
    rw [isReady, isReady, hasHost_of_anonymous hf, ← isInstrumented_blank, h, isInstrumented_blank]
  have hcall : (Injection.trackerStatement? inj.runtime inj.host f').map blank =
      (Injection.trackerStatement? inj.runtime inj.host f).map blank := trackerStatement?_blank hf
  unfold front withCall
  rw [hready]
  split
  · generalize Injection.trackerStatement? inj.runtime inj.host f' = call',
      Injection.trackerStatement? inj.runtime inj.host f = call at hcall ⊢
    cases call with
    | none =>
      rw [Option.map_none, Option.map_eq_none_iff] at hcall
      rw [hcall]
      exact h
    | some call =>
      obtain ⟨call', rfl, hblank⟩ := Option.map_eq_some_iff.1 hcall
      dsimp only
      rw [← prepend_blank, ← prepend_blank, hblank, h]
  · exact h

theorem newBody_blank (hm : m.Alike m') (place : Location) (isClosure : Bool)
    (h : body'.blank = body.blank) : (inj.newBody m' place isClosure body').blank =
      (inj.newBody m place isClosure body).blank := by
  have hplace := hm place
  unfold newBody
  generalize m place = member, m' place = member' at hplace ⊢
  cases hplace with
  | none => exact h
  | some hf =>
    dsimp only
    split
    · simp only [blank_node, List.map_cons, front_blank hf (bodyBlock_blank h)]
    · exact front_blank hf h

/-- **What a pass makes of a tree does not depend on numbers and names**, but for texts. -/
theorem rewritten_blank (hm : m.Alike m') (n : Node) :
    (rewritten inj m' n).blank = (rewritten inj m n).blank := by
  induction n using Node.induction with
  | token | unread => rfl
  | group d cs ih =>
    rw [rewritten_group, rewritten_group, Node.blank_group, Node.blank_group, List.map_map,
      List.map_map]
    exact congrArg (Node.group d) (List.map_congr_left ih)
  | node k cs ih =>
    have hcs : (cs.map (rewritten inj m')).map blank = (cs.map (rewritten inj m)).map blank := by
      rw [List.map_map, List.map_map]
      exact List.map_congr_left ih
    rw [rewritten_node, rewritten_node, blank_node, blank_node]
    refine congrArg (Node.node k) ?_
    -- the two nodes are heads of the same shape, with bodies that are the same but for texts
    generalize cs.map (rewritten inj m') = cs', cs.map (rewritten inj m) = cs at hcs ⊢
    have hhead := of?_blank k cs'
    rw [hcs, of?_blank] at hhead
    unfold newChildren
    cases hof : Head.of? k cs with
    | none =>
      rw [hof, Option.map_none, eq_comm, Option.map_eq_none_iff] at hhead
      rw [hhead]
      exact hcs
    | some head =>
      obtain ⟨place, isClosure, body⟩ := head
      rw [hof, Option.map_some, eq_comm, Option.map_eq_some_iff] at hhead
      obtain ⟨⟨place', isClosure', body'⟩, hof', hsame⟩ := hhead
      simp only [Head.mk.injEq] at hsame
      obtain ⟨rfl, rfl, hbody⟩ := hsame
      rw [hof']
      cases body with
      | none =>
        rw [Option.map_none, Option.map_eq_none_iff] at hbody
        rw [hbody]
        exact hcs
      | some body =>
        obtain ⟨body', rfl, hblank⟩ := Option.map_eq_some_iff.1 hbody
        dsimp only
        rw [List.map_set, List.map_set, hcs, newBody_blank hm place' isClosure' hblank]

end Injector

end RenderTrace
