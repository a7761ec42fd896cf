import RenderTrace.Proofs.Syntax.Unread.Reader

/-!
# The macros in paths, bounds and types

The rules of the grammar call each other through `Readers`, so each is shown to leave little unread
if the readers that it is given do (`Readers.Read`).

For each rule `mvcgen` finds what is to be shown. It leaves the conditions and the local definitions
as they come, since `simp_all` puts both in order only where a condition is not there already.
-/

namespace RenderTrace.Syntax

open Std.Do Yield

set_option mvcgen.warning false

/-- The tree that is given to a nonterminal holds macros of fewer than `w` tokens only. -/
@[simp]
def Nonterminal.Within (w : Nat) : Nonterminal → Prop
  | .operators left _ _ => Yield.Within w left
  | _ => True

/-- Readers of macros of fewer than `w` tokens. -/
def Readers.Read (w : Nat) (self : Readers) : Prop := ∀ n, n.Within w → Reads w (self n)

@[spec]
theorem Readers.Read.reads {w : Nat} {self : Readers} (hself : self.Read w) {n : Nonterminal}
    (hn : n.Within w) : Reads w (self n) := hself n hn

namespace Grammar

variable {w : Nat} {self : Readers}

/-! ### Trees that are taken apart and put together -/

@[simp]
theorem within_colonFor {colon bs : Node} (hc : Within w colon) : Within w (colonFor colon bs) := by
  unfold colonFor
  split <;> simp_all

theorem within_of_loneSegment? {n word args : Node} (h : loneSegment? n = some (word, args))
    (hn : Within w n) : Within w word ∧ Within w args := by
  unfold loneSegment? at h
  split at h <;> simp_all

theorem within_mapSegments {f : List Node → List Node} (hf : ∀ ns, Within w ns → Within w (f ns))
    {p : Node} (hp : Within w p) : Within w (mapSegments f p) := by
  unfold mapSegments
  split <;> simp_all

@[simp]
theorem within_withLastArguments {args p : Node} (ha : Within w args) (hp : Within w p) :
    Within w (withLastArguments args p) := by
  refine within_mapSegments (fun segments hs ↦ ?_) hp
  split
  · next hlast =>
    have hinit : Within w segments.dropLast := fun n hn ↦ hs n (List.mem_of_mem_dropLast hn)
    have hsegment := hs _ (List.mem_of_getLast? hlast)
    simp_all
  · exact hs

@[spec]
theorem requireTrait_reads (start : Span) (message : String) (bs : Node) :
    Reads w (requireTrait start message bs) := by
  mvcgen -leave -elimLets [requireTrait] with simp_all +zetaDelta

instance : Yield ParenType where
  Within w
    | .done t => Within w t
    | .single t => Within w t
    | .bound b => Within w b

@[simp] theorem within_done (t : Node) : Within w (ParenType.done t) ↔ Within w t := Iff.rfl

@[simp] theorem within_single (t : Node) : Within w (ParenType.single t) ↔ Within w t := Iff.rfl

@[simp] theorem within_bound (b : Node) : Within w (ParenType.bound b) ↔ Within w b := Iff.rfl

theorem within_of_boundOfType? {n b : Node} (h : boundOfType? n = some b) (hn : Within w n) :
    Within w b := by
  unfold boundOfType? at h
  split at h
  · split at h <;> cases h
    simpa using hn
  · split at h <;> cases h <;> simp_all
  · cases h

/-! ### Rules that call no others -/

@[spec]
theorem plainPath_reads : Reads w plainPath := by
  mvcgen -leave -elimLets [plainPath] with simp_all +zetaDelta

@[spec]
theorem lifetimeParam_reads {attrs : Node} (ha : Within w attrs) :
    Reads w (lifetimeParam attrs) := by
  mvcgen -leave -elimLets [lifetimeParam] with simp_all +zetaDelta

@[spec]
theorem capturedParams_reads : Reads w capturedParams := by
  mvcgen -leave -elimLets [capturedParams] with simp_all +zetaDelta

@[spec]
theorem abi?_reads : Reads w abi? := by
  mvcgen -leave -elimLets [abi?] with simp_all +zetaDelta

@[spec]
theorem constness_reads (style : BoundStyle) : Reads w (constness style) := by
  mvcgen -leave -elimLets [constness] with simp_all +zetaDelta

@[spec]
theorem refuseBinder_reads (maybe lifetimes : Node) : Reads w (refuseBinder maybe lifetimes) := by
  mvcgen -leave -elimLets [refuseBinder] with simp_all +zetaDelta

@[spec]
theorem requireQuantifiable_reads (quantified : Bool) :
    Reads w (requireQuantifiable quantified) := by
  mvcgen -leave -elimLets [requireQuantifiable] with simp_all +zetaDelta

@[spec]
theorem builtin_reads : Reads w builtin := by
  mvcgen -leave -elimLets [builtin] with simp_all +zetaDelta

/-! ### Attributes -/

section

variable (hself : self.Read w)
include hself

@[spec]
theorem attributeInside_reads : Reads w (attributeInside self) := by
  mvcgen -leave -elimLets [attributeInside] with simp_all +zetaDelta

@[spec]
theorem outerAttribute_reads : Reads w (outerAttribute self) := by
  mvcgen -leave -elimLets [outerAttribute] with simp_all +zetaDelta

@[spec]
theorem innerAttribute_reads : Reads w (innerAttribute self) := by
  mvcgen -leave -elimLets [innerAttribute] with simp_all +zetaDelta

@[spec]
theorem outerAttributes_reads : Reads w (outerAttributes self) := by
  mvcgen -leave -elimLets [outerAttributes] with simp_all +zetaDelta

@[spec]
theorem innerAttributes_reads : Reads w (innerAttributes self) := by
  mvcgen -leave -elimLets [innerAttributes] with simp_all +zetaDelta

@[spec]
theorem plainBlock_reads : Reads w (plainBlock self) := by
  mvcgen -leave -elimLets [plainBlock] with simp_all +zetaDelta

@[spec]
theorem attributedBraces_reads {r : Reader Node} (hr : Reads w r) :
    Reads w (attributedBraces self r) := by
  mvcgen -leave -elimLets [attributedBraces, hr] with simp_all +zetaDelta

@[spec]
theorem attributedBlock_reads : Reads w (attributedBlock self) := by
  mvcgen [attributedBlock]
  all_goals simp_all +zetaDelta

@[spec]
theorem constArgument_reads : Reads w (constArgument self) := by
  mvcgen -leave -elimLets [constArgument] with simp_all +zetaDelta

@[spec]
theorem paramBound_reads : Reads w (paramBound self) :=
  hself _ trivial

@[spec]
theorem bounds_reads (done : Probe) : Reads w (bounds self done) :=
  sum_reads done (paramBound_reads hself)

@[spec]
theorem genericArgument_reads : Reads w (genericArgument self) := by
  mvcgen -leave -elimLets [genericArgument] with simp_all +zetaDelta
  all_goals exact within_of_loneSegment? ‹loneSegment? _ = some _› (by simp_all)

@[spec]
theorem angleArguments_reads {colons : Node} (hc : Within w colons) :
    Reads w (angleArguments self colons) := by
  mvcgen -leave -elimLets [angleArguments] with simp_all +zetaDelta

@[spec]
theorem returns_reads (plus : Bool) : Reads w (returns self plus) := by
  mvcgen -leave -elimLets [returns] with simp_all +zetaDelta

@[spec]
theorem parenArguments_reads : Reads w (parenArguments self) := by
  mvcgen [parenArguments]
  all_goals simp_all +zetaDelta

@[spec]
theorem segment_reads (exprStyle : Bool) : Reads w (segment self exprStyle) := by
  mvcgen -leave -elimLets [segment] with simp_all +zetaDelta

@[spec]
theorem moreSegments_reads (exprStyle : Bool) : Reads w (moreSegments self exprStyle) := by
  mvcgen -leave -elimLets [moreSegments] with simp_all +zetaDelta

@[spec]
theorem path_reads (exprStyle : Bool) : Reads w (path self exprStyle) := by
  mvcgen -leave -elimLets [path] with simp_all +zetaDelta

@[spec]
theorem qualifiedPath_reads (exprStyle : Bool) : Reads w (qualifiedPath self exprStyle) := by
  mvcgen -leave -elimLets [qualifiedPath] with simp_all +zetaDelta

@[spec]
theorem typeParam_reads {attrs n : Node} (ha : Within w attrs) (hn : Within w n) :
    Reads w (typeParam self attrs n) := by
  mvcgen -leave -elimLets [typeParam] with simp_all +zetaDelta

@[spec]
theorem constParam_reads {attrs : Node} (ha : Within w attrs) :
    Reads w (constParam self attrs) := by
  mvcgen -leave -elimLets [constParam] with simp_all +zetaDelta

@[spec]
theorem quantifiedParam_reads : Reads w (quantifiedParam self) := by
  mvcgen -leave -elimLets [quantifiedParam] with simp_all +zetaDelta

@[spec]
theorem forLifetimes?_reads : Reads w (forLifetimes? self) := by
  mvcgen -leave -elimLets [forLifetimes?] with simp_all +zetaDelta

@[spec]
theorem traitPath_reads : Reads w (traitPath self) := by
  mvcgen [traitPath]
  all_goals simp_all

@[spec]
theorem traitBound_reads (style : BoundStyle) : Reads w (traitBound self style) := by
  mvcgen -leave -elimLets [traitBound] with simp_all +zetaDelta

@[spec]
theorem bound_reads (style : BoundStyle) : Reads w (bound self style) := by
  mvcgen -leave -elimLets [bound] with simp_all +zetaDelta

@[spec]
theorem turbofish_reads : Reads w (turbofish self) := by
  mvcgen [turbofish]
  all_goals simp_all

@[spec]
theorem typeBounds_reads (style : BoundStyle) (plus : Bool) :
    Reads w (typeBounds self style plus) := by
  mvcgen -leave -elimLets [typeBounds] with simp_all +zetaDelta

@[spec]
theorem generics_reads : Reads w (generics self) := by
  mvcgen -leave -elimLets [generics] with simp_all +zetaDelta

@[spec]
theorem whereClause_reads : Reads w (whereClause self) := by
  mvcgen -leave -elimLets [whereClause] with simp_all +zetaDelta

@[spec]
theorem bareFnArg_reads (first : Bool) {attrs : Node} (ha : Within w attrs) :
    Reads w (bareFnArg self first attrs) := by
  mvcgen -leave -elimLets [bareFnArg] with simp_all +zetaDelta

@[spec]
theorem nextBareFnArg_reads (first : Bool) : Reads w (nextBareFnArg self first) := by
  mvcgen -leave -elimLets [nextBareFnArg] with simp_all +zetaDelta

@[spec]
theorem bareFnArgs_reads : Reads w (bareFnArgs self) := by
  have hparts := @parts_reads w
  have hnext := fun first ↦ nextBareFnArg_reads hself first
  mvcgen [bareFnArgs, hparts, hnext]

@[spec]
theorem typeBareFn_reads {lifetimes : Node} (hl : Within w lifetimes) :
    Reads w (typeBareFn self lifetimes) := by
  mvcgen -leave -elimLets [typeBareFn] with simp_all +zetaDelta

@[spec]
theorem plusBounds_reads {first : Node} (hf : Within w first) :
    Reads w (plusBounds self first) := by
  mvcgen -leave -elimLets [plusBounds] with simp_all +zetaDelta

@[spec]
theorem typeInParens_reads (plus : Bool) : Reads w (typeInParens self plus) := by
  mvcgen [typeInParens]
  all_goals simp_all +zetaDelta
  exact fun _ _ ↦ within_of_boundOfType? ‹boundOfType? _ = some _› (by simp_all)

@[spec]
theorem boundsFromPath_reads (plus : Bool) {lifetimes p : Node}
    (hl : Within w lifetimes) (hp : Within w p) :
    Reads w (boundsFromPath self plus lifetimes p) := by
  mvcgen -leave -elimLets [boundsFromPath] with simp_all +zetaDelta

@[spec]
theorem typeFromPath_reads (plus : Bool) {lifetimes : Node} (hl : Within w lifetimes) :
    Reads w (typeFromPath self plus lifetimes) := by
  mvcgen -leave -elimLets [typeFromPath] with simp_all +zetaDelta

@[spec]
theorem type_reads (plus : Bool) : Reads w (type self plus) := by
  mvcgen -leave -elimLets [type] with simp_all +zetaDelta

end

end Grammar

end RenderTrace.Syntax
