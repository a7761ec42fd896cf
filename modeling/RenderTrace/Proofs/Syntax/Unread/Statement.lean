import RenderTrace.Proofs.Syntax.Unread.Item

/-!
# The macros in statements

A macro that stands as a statement is read as an expression first and then put into the form of a
statement, and attributes in front of a statement go to its leftmost expression.
-/

namespace RenderTrace.Syntax

open Std.Do Yield

set_option mvcgen.warning false

namespace Grammar

variable {w : Nat} {self : Readers}

/-! ### Answers, and trees that are put together -/

instance : Yield MacroAhead := ⟨fun _ _ ↦ True⟩

@[simp] theorem within_macroAhead (a : MacroAhead) : Within w a := trivial

@[simp]
theorem within_attributeLeftmost {attrs : Node} (ha : Within w attrs) (fuel : Nat) {e : Node}
    (he : Within w e) : Within w (attributeLeftmost attrs fuel e) := by
  fun_induction attributeLeftmost attrs fuel e <;> simp_all

@[simp]
theorem within_expressionOrMacro {e semi : Node} (he : Within w e) (hs : Within w semi) :
    Within w (expressionOrMacro e semi) := by
  unfold expressionOrMacro
  split <;> simp_all

/-! ### Rules that call no others -/

@[spec]
theorem macroAhead_reads : Reads w macroAhead := by
  mvcgen -leave -elimLets [macroAhead] with simp_all +zetaDelta

@[spec]
theorem emptyStatement_reads : Reads w emptyStatement := by
  mvcgen -leave -elimLets [emptyStatement] with simp_all +zetaDelta

/-! ### Rules -/

section

variable (hself : self.Read w)
include hself

@[spec]
theorem localStatement_reads {attrs : Node} (ha : Within w attrs) :
    Reads w (localStatement self attrs) := by
  mvcgen -leave -elimLets [localStatement] with simp_all +zetaDelta

@[spec]
theorem expressionStatement_reads (start : Cursor) {attrs : Node} (ha : Within w attrs) :
    Reads w (expressionStatement self start attrs) := by
  mvcgen -leave -elimLets [expressionStatement] with simp_all +zetaDelta

@[spec]
theorem statement_reads : Reads w (statement self) := by
  mvcgen -leave -elimLets [statement] with simp_all +zetaDelta

@[spec]
theorem statements_reads : Reads w (statements self) := by
  mvcgen -leave -elimLets [statements] with simp_all +zetaDelta

end

end Grammar

end RenderTrace.Syntax
