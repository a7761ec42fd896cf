import RenderTrace.Proofs.Syntax.Unread.Pattern

/-!
# The macros in expressions

Operators, trailers and the arms of an `if` are read by functions that call themselves with less and
less fuel, so these go by induction on the fuel. Attributes that are read before an expression are
put into it afterwards, at its first part; that makes no macro of it.
-/

namespace RenderTrace.Syntax

open Std.Do Yield

set_option mvcgen.warning false

namespace Grammar

variable {w : Nat} {self : Readers}

/-! ### Trees that are taken apart and put together -/

/-- A first part does not matter for whether a node is a macro. -/
theorem within_node_cons {k : Kind} {c c' : Node} {cs : List Node}
    (h : Within w (Node.node k (c :: cs))) (hc : Within w c') :
    Within w (Node.node k (c' :: cs)) := by
  rw [within_node, within_cons] at h ⊢
  refine ⟨?_, hc, h.2.2⟩
  rintro path bang d ts rfl hcs
  obtain ⟨-, rfl⟩ := List.cons.inj hcs
  exact h.1 c bang d ts rfl rfl

@[simp]
theorem within_addAttributes {attrs e : Node} (ha : Within w attrs) (he : Within w e) :
    Within w (addAttributes attrs e) := by
  unfold addAttributes
  split
  · exact he
  · split
    · exact he
    · simp_all
    · exact within_node_cons he (by simp_all)
    · exact he

@[simp]
theorem within_withAttributes {attrs p : Node} (ha : Within w attrs) (hp : Within w p) :
    Within w (withAttributes attrs p) := by
  unfold withAttributes
  split
  · exact hp
  · split <;> simp_all
  · exact within_node_cons hp ha
  · exact hp

@[simp]
theorem within_parenthesizeLeftBlock (fuel : Nat) {e : Node} (he : Within w e) :
    Within w (parenthesizeLeftBlock fuel e) := by
  fun_induction parenthesizeLeftBlock fuel e <;> simp_all

instance {α : Type} [Yield α] : Yield (Reader α) := ⟨fun w r ↦ Reads w r⟩

theorem within_reader {α : Type} [Yield α] (r : Reader α) : Within w r ↔ Reads w r := Iff.rfl

/-! ### Rules that call no others -/

@[spec]
theorem rangeLimits_reads : Reads w rangeLimits := by
  mvcgen -leave -elimLets [rangeLimits] with simp_all +zetaDelta

@[spec]
theorem label_reads : Reads w label := by
  mvcgen -leave -elimLets [label] with simp_all +zetaDelta

@[spec]
theorem fractionFields_reads {e dot : Node} (span : Span) (t : String) (he : Within w e)
    (hd : Within w dot) : Reads w (fractionFields e dot span t) := by
  mvcgen -leave -elimLets [fractionFields] with simp_all +zetaDelta

/-! ### Rules -/

section

variable (hself : self.Read w)
include hself

theorem rightSide_extend_reads (structs : Bool) (p : Precedence) (fuel : Nat) {e : Node}
    (he : Within w e) : Reads w (rightSide.extend self structs p fuel e) := by
  induction fuel generalizing e with
  | zero =>
    mvcgen [rightSide.extend]
  | succ fuel ih =>
    unfold rightSide.extend
    generalize rightSide.extend self structs p fuel = again at ih
    clear fuel
    mvcgen -leave -elimLets [ih] with simp_all +zetaDelta

@[spec]
theorem rightSide_reads (structs : Bool) (p : Precedence) :
    Reads w (rightSide self structs p) := by
  mvcgen -leave -elimLets [rightSide, rightSide_extend_reads] with simp_all +zetaDelta

@[spec]
theorem rangeFrom_reads (structs : Bool) {start : Node} (hs : Within w start) :
    Reads w (rangeFrom self structs start) := by
  mvcgen -leave -elimLets [rangeFrom] with simp_all +zetaDelta

@[spec]
theorem operators_reads {left : Node} (structs : Bool) (base : Precedence) (hl : Within w left) :
    Reads w (operators self left structs base) := by
  mvcgen -leave -elimLets [operators] with simp_all +zetaDelta

@[spec]
theorem expressionList_reads : Reads w (expressionList self) := by
  mvcgen -leave -elimLets [expressionList] with simp_all +zetaDelta

@[spec]
theorem structField_reads : Reads w (structField self) := by
  mvcgen -leave -elimLets [structField] with simp_all +zetaDelta

@[spec]
theorem structFields_reads : Reads w (structFields self) := by
  mvcgen -leave -elimLets [structFields] with simp_all +zetaDelta

@[spec]
theorem pathExpression_reads (structs : Bool) : Reads w (pathExpression self structs) := by
  mvcgen -leave -elimLets [pathExpression] with simp_all +zetaDelta

@[spec]
theorem parenExpression_reads : Reads w (parenExpression self) := by
  mvcgen -leave -elimLets [parenExpression] with simp_all +zetaDelta

@[spec]
theorem arrayExpression_reads : Reads w (arrayExpression self) := by
  mvcgen -leave -elimLets [arrayExpression] with simp_all +zetaDelta

@[spec]
theorem breakExpression_reads (structs : Bool) : Reads w (breakExpression self structs) := by
  mvcgen -leave -elimLets [breakExpression] with simp_all +zetaDelta

@[spec]
theorem optionalValue_reads (structs : Bool) : Reads w (optionalValue self structs) := by
  mvcgen -leave -elimLets [optionalValue] with simp_all +zetaDelta

@[spec]
theorem closureParameter_reads : Reads w (closureParameter self) := by
  mvcgen -leave -elimLets [closureParameter] with simp_all +zetaDelta

@[spec]
theorem closureExpression_reads (structs : Bool) : Reads w (closureExpression self structs) := by
  mvcgen -leave -elimLets [closureExpression] with simp_all +zetaDelta

@[spec]
theorem letExpression_reads (structs : Bool) : Reads w (letExpression self structs) := by
  mvcgen -leave -elimLets [letExpression] with simp_all +zetaDelta

@[spec]
theorem ifChain_reads (fuel : Nat) : Reads w (ifChain self fuel) := by
  induction fuel with
  | zero =>
    mvcgen [ifChain]
    all_goals simp_all
  | succ fuel ih =>
    unfold ifChain
    generalize ifChain self fuel = again at ih
    clear fuel
    mvcgen -leave -elimLets [ih] with simp_all +zetaDelta

@[spec]
theorem ifExpression_reads : Reads w (ifExpression self) := by
  mvcgen -leave -elimLets [ifExpression] with simp_all +zetaDelta

@[spec]
theorem whileExpression_reads {l : Node} (hl : Within w l) : Reads w (whileExpression self l) := by
  mvcgen -leave -elimLets [whileExpression] with simp_all +zetaDelta

@[spec]
theorem forExpression_reads {l : Node} (hl : Within w l) : Reads w (forExpression self l) := by
  mvcgen -leave -elimLets [forExpression] with simp_all +zetaDelta

@[spec]
theorem loopExpression_reads {l : Node} (hl : Within w l) : Reads w (loopExpression self l) := by
  mvcgen -leave -elimLets [loopExpression] with simp_all +zetaDelta

@[spec]
theorem blockExpression_reads {l : Node} (hl : Within w l) : Reads w (blockExpression self l) := by
  mvcgen -leave -elimLets [blockExpression] with simp_all +zetaDelta

@[spec]
theorem labelledExpression_reads : Reads w (labelledExpression self) := by
  mvcgen -leave -elimLets [labelledExpression] with simp_all +zetaDelta

@[spec]
theorem matchArm_reads : Reads w (matchArm self) := by
  mvcgen -leave -elimLets [matchArm] with simp_all +zetaDelta

@[spec]
theorem matchExpression_reads : Reads w (matchExpression self) := by
  mvcgen -leave -elimLets [matchExpression] with simp_all +zetaDelta

@[spec]
theorem atom_reads (structs : Bool) : Reads w (atom self structs) := by
  mvcgen -leave -elimLets [atom] with simp_all +zetaDelta

@[spec]
theorem afterPoint_reads {e dot : Node} (he : Within w e) (hd : Within w dot) :
    Reads w (afterPoint self e dot) := by
  mvcgen -leave -elimLets [afterPoint] with simp_all +zetaDelta

@[spec]
theorem trailer?_reads {e : Node} (he : Within w e) : Reads w (trailer? self e) := by
  mvcgen -leave -elimLets [trailer?] with simp_all +zetaDelta

theorem trailers_extend_reads (fuel : Nat) {e : Node} (he : Within w e) :
    Reads w (trailers.extend self fuel e) := by
  induction fuel generalizing e with
  | zero =>
    mvcgen [trailers.extend]
  | succ fuel ih =>
    unfold trailers.extend
    generalize trailers.extend self fuel = again at ih
    clear fuel
    mvcgen -leave -elimLets [ih] with simp_all +zetaDelta

@[spec]
theorem trailers_reads {e : Node} (he : Within w e) : Reads w (trailers self e) := by
  mvcgen [trailers, trailers_extend_reads]

@[spec]
theorem operand_reads (structs : Bool) : Reads w (operand self structs) := by
  mvcgen -leave -elimLets [operand] with simp_all +zetaDelta

@[spec]
theorem expression_reads (structs : Bool) : Reads w (expression self structs) := by
  mvcgen [expression]
  all_goals simp_all

@[spec]
theorem braceExpression?_reads : Reads w (braceExpression? self) := by
  mvcgen [braceExpression?]
  all_goals simp_all only [within_some, within_none, within_reader, and_self, true_and]
  · exact ifExpression_reads hself
  · exact whileExpression_reads hself within_absent
  · exact forExpression_reads hself within_absent
  · exact loopExpression_reads hself within_absent
  · exact matchExpression_reads hself
  · exact atom_reads hself true
  · exact labelledExpression_reads hself

@[spec]
theorem unlessContinued_reads {attrs : Node} (ha : Within w attrs) {r : Reader Node}
    (hr : Reads w r) : Reads w (unlessContinued self attrs r) := by
  mvcgen [unlessContinued, hr]
  all_goals simp_all

@[spec]
theorem leading_reads : Reads w (leading self) := by
  mvcgen [leading] with try simp_all +zetaDelta
  next hr => exact ((within_reader _).1 hr.2)

end

end Grammar

end RenderTrace.Syntax
