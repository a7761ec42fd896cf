import RenderTrace.Injection.Weaving

/-!
# What generated statements are

A statement that is put together from an expression is this expression with a semicolon, as long as
the tokens of the expression spell it. A call by a path that does not fit is the one exception, and
then the statement is an assignment (`exists_assignment`): so it pushes nothing and leaves nothing
out, and it is not recognised as a tracker call either.
-/

namespace RenderTrace.Quotation

open Syntax

variable {e s p : Node} {word : String}

theorem statement?_of_spellsItself (h : spellsItself e = true) :
    statement? e = some (.node .stmtExpr [e, .op ";"]) := by
  simp [statement?, h]

theorem statement_of_spellsItself (h : spellsItself e = true) :
    statement e = .node .stmtExpr [e, .op ";"] := by
  rw [statement, statement?_of_spellsItself h, Option.getD_some]

theorem eq_statement (h : statement? e = some s) : s = statement e := by
  rw [statement, h, Option.getD_some]

/-- A statement whose expression is spelled by other tokens is an assignment. -/
theorem exists_assignment (hspells : spellsItself e = false) (h : statement? e = some s) :
    ∃ parts semi, s = .node .stmtExpr [.node .exprAssign parts, semi] := by
  unfold statement? at h
  rw [hspells] at h
  simp only [Bool.false_eq_true, if_false] at h
  split at h
  · exact ⟨_, _, (Option.some.inj h).symm⟩
  · cases h

/-! ### Longer paths -/

theorem elements_append (cs : List Node) (word : String) :
    (Node.list (cs ++ [.op "::", segment word])).elements =
      cs.filter (!·.isToken) ++ [segment word] := by
  rw [Node.elements, Node.list, Node.children, List.filter_append]
  rfl

theorem fitsExpression_extend (p : Node) (word : String) :
    fitsExpression (extend p word) = fitsExpression p := by
  unfold extend
  unfold Grammar.mapSegments
  split
  · next colons segments =>
    rw [fitsExpression, fitsExpression, Grammar.segmentsOf, Grammar.segmentsOf, elements_append,
      List.all_append]
    simp [segment, Node.elements, Node.absent]
  · next segments =>
    rw [fitsExpression, fitsExpression, Grammar.segmentsOf, Grammar.segmentsOf, elements_append,
      List.all_append]
    simp [segment, Node.elements, Node.absent]
  · rfl

/-- A path of plain words may stand in an expression. -/
theorem fitsExpression_of_isPlainPath (h : Grammar.isPlainPath p = true) :
    fitsExpression p = true := by
  rw [Grammar.isPlainPath, Bool.and_eq_true, List.all_eq_true] at h
  rw [fitsExpression, List.all_eq_true]
  intro segment hsegment
  have habsent := h.2 segment hsegment
  split
  · next name colons rest => cases habsent
  · rfl

end RenderTrace.Quotation
