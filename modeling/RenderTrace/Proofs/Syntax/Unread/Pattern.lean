import RenderTrace.Proofs.Syntax.Unread.Type

/-!
# The macros in patterns

A path that a `!` follows is a macro in the place of a pattern; `macroAfter` is the reader of its
arguments, here and in expressions and statements.
-/

namespace RenderTrace.Syntax

open Std.Do Yield

set_option mvcgen.warning false

namespace Grammar

variable {w : Nat} {self : Readers}

/-! ### Rules that call no others -/

@[spec]
theorem macroAfter_reads {p : Node} (hp : Within w p) : Reads w (macroAfter p) := by
  mvcgen -leave -elimLets [macroAfter] with simp_all +zetaDelta

@[spec]
theorem indexAt_reads (span : Span) (t : String) : Reads w (indexAt span t) := by
  mvcgen -leave -elimLets [indexAt] with simp_all +zetaDelta

@[spec]
theorem index_reads : Reads w index := by
  mvcgen -leave -elimLets [index] with simp_all +zetaDelta

@[spec]
theorem member_reads : Reads w member := by
  mvcgen -leave -elimLets [member] with simp_all +zetaDelta

@[spec]
theorem patternLimits_reads : Reads w patternLimits := by
  mvcgen -leave -elimLets [patternLimits] with simp_all +zetaDelta

/-! ### Rules -/

section

variable (hself : self.Read w)
include hself

@[spec]
theorem alternatives_reads {leading : Node} (hl : Within w leading) :
    Reads w (alternatives self leading) := by
  mvcgen -leave -elimLets [alternatives] with simp_all +zetaDelta

@[spec]
theorem patternWithAlternatives_reads : Reads w (patternWithAlternatives self) := by
  mvcgen -leave -elimLets [patternWithAlternatives] with simp_all +zetaDelta

@[spec]
theorem patIdent_reads : Reads w (patIdent self) := by
  mvcgen -leave -elimLets [patIdent] with simp_all +zetaDelta

@[spec]
theorem fieldPattern_reads : Reads w (fieldPattern self) := by
  mvcgen -leave -elimLets [fieldPattern] with simp_all +zetaDelta

@[spec]
theorem fieldPatterns_reads : Reads w (fieldPatterns self) := by
  mvcgen -leave -elimLets [fieldPatterns] with simp_all +zetaDelta

@[spec]
theorem constBlock_reads : Reads w (constBlock self) := by
  mvcgen -leave -elimLets [constBlock] with simp_all +zetaDelta

@[spec]
theorem rangeBound?_reads : Reads w (rangeBound? self) := by
  mvcgen -leave -elimLets [rangeBound?] with simp_all +zetaDelta

@[spec]
theorem rangePattern_reads {start : Node} (hs : Within w start) :
    Reads w (rangePattern self start) := by
  mvcgen -leave -elimLets [rangePattern] with simp_all +zetaDelta

@[spec]
theorem pathPattern_reads : Reads w (pathPattern self) := by
  mvcgen -leave -elimLets [pathPattern] with simp_all +zetaDelta

@[spec]
theorem parenPattern_reads : Reads w (parenPattern self) := by
  mvcgen -leave -elimLets [parenPattern] with simp_all +zetaDelta

@[spec]
theorem slicePattern_reads : Reads w (slicePattern self) := by
  mvcgen -leave -elimLets [slicePattern] with simp_all +zetaDelta

@[spec]
theorem openPattern_reads : Reads w (openPattern self) := by
  mvcgen -leave -elimLets [openPattern] with simp_all +zetaDelta

@[spec]
theorem pattern_reads : Reads w (pattern self) := by
  mvcgen -leave -elimLets [pattern] with simp_all +zetaDelta

end

end Grammar

end RenderTrace.Syntax
