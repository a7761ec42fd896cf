import RenderTrace.Proofs.Pipeline.Breakdown
import RenderTrace.Proofs.Syntax.Blank
import RenderTrace.Proofs.Syntax.Leading
import RenderTrace.Proofs.Syntax.Places

/-!
# Closures whose bodies are expressions

A closure whose body is no block gets one: the tokens of the expression are read again as the only
statement of a block, and the tracker call goes in front of it. In the one place the tokens stand
where only an expression can, in the other one where a statement begins, so the expression comes out
as it was exactly where the two rules of the grammar agree.

`StandsAlone` says of an expression that its tokens spell it and that the rules agree about them; for
the second part see `Syntax.Grammar.leading_of_expression`. If all bodies that are put into blocks
stand alone, an injector with the path that the options have by default comes to the end of the
unit, and each of the closures has its tracker call and then its expression (`apply_wraps`).
-/

namespace RenderTrace

open Syntax

namespace Injector

open Grammar Reader

variable {o : Options} {u : SourceUnit} {inj : Injector} {m : Members} {e : Node}

/-! ### Expressions in blocks -/

/-- The tokens of an expression, with the texts set aside. -/
def tokensOf (e : Node) : List TokenTree := (Reread.setAsideAll [] e.trees).1

/-- The texts in the tokens of an expression. -/
def textsOf (e : Node) : List String := (Reread.setAsideAll [] e.trees).2

/-- An expression is spelled by its tokens, and these are read alike where only an expression can
stand and where a statement begins. -/
inductive StandsAlone (e : Node) : Prop
  /-- The tokens are attributes and an expression that is not severed. -/
  | expression {attrs first whole : Node} {c₀ c₁ : Cursor}
      (attributes : ∀ depth ≥ depthFor (tokensOf e),
        outerAttributes (readers depth) (inBlock (tokensOf e)) = .ok (attrs, c₀))
      (begins : BeginsExpression c₀)
      (operand : Steady (depthFor (tokensOf e)) (.operand true) c₀ first c₁)
      (operators : Steady (depthFor (tokensOf e)) (.operators first true .lowest) c₁ whole
        (inBlock []))
      (unsevered : isSevered whole = false)
      (spells : Reread.putBack (textsOf e) (attributed attrs (tokensOf e) whole) = e)
  /-- The tokens are attributes and a macro call with braces. -/
  | macroCall {attrs path call : Node} {c₀ c₁ : Cursor}
      (attributes : ∀ depth ≥ depthFor (tokensOf e),
        outerAttributes (readers depth) (inBlock (tokensOf e)) = .ok (attrs, c₀))
      (named : plainPath c₀ = .ok (path, c₁))
      (called : macroAfter path c₁ = .ok (call, inBlock []))
      (braced : isBraceMacro call = true)
      (spells : Reread.putBack (textsOf e) (.node .exprMacro [attrs, call]) = e)

theorem isBraceMacro_putBack (texts : List String) (n : Node) :
    isBraceMacro (Reread.putBack texts n) = isBraceMacro n := by
  rw [Bool.eq_iff_iff]
  constructor
  · intro h
    unfold isBraceMacro at h
    split at h
    · next heq =>
      obtain ⟨cs, rfl, hcs⟩ := Node.eq_of_putBack_eq heq
      obtain ⟨path, cs, rfl, -, hcs⟩ := List.map_eq_cons_iff.1 hcs
      obtain ⟨bang, cs, rfl, -, hcs⟩ := List.map_eq_cons_iff.1 hcs
      obtain ⟨group, rfl, hgroup⟩ := List.map_eq_singleton_iff.1 hcs
      cases group with
      | group d inside =>
        obtain ⟨rfl, -⟩ := Node.group.inj hgroup
        rfl
      | token cls => cases cls <;> cases hgroup
      | _ => cases hgroup
    · cases h
  · intro h
    unfold isBraceMacro at h
    split at h
    · rfl
    · cases h

theorem putBack_tail (texts : List String) (e : Node) :
    Reread.putBack texts (tail e) = tail (Reread.putBack texts e) := by
  by_cases hmacro : ∃ attrs call, e = .node .exprMacro [attrs, call]
  · obtain ⟨attrs, call, rfl⟩ := hmacro
    have hback : Reread.putBack texts (.node .exprMacro [attrs, call]) =
        .node .exprMacro [Reread.putBack texts attrs, Reread.putBack texts call] := rfl
    rw [hback, tail, tail, expressionOrMacro, expressionOrMacro, isBraceMacro_putBack]
    split <;> rfl
  · have hno : ∀ attrs call, e ≠ .node .exprMacro [attrs, call] := fun attrs call h ↦
      hmacro ⟨attrs, call, h⟩
    rw [tail, tail, expressionOrMacro.eq_2 _ _ hno, expressionOrMacro.eq_2]
    · rfl
    · intro attrs call h
      obtain ⟨cs, rfl, hcs⟩ := Node.eq_of_putBack_eq h
      obtain ⟨attrs, cs, rfl, -, hcs⟩ := List.map_eq_cons_iff.1 hcs
      obtain ⟨call, rfl, -⟩ := List.map_eq_singleton_iff.1 hcs
      exact hno attrs call rfl

/-- An expression is put into the block that its tokens are read as, between braces. -/
theorem wrapped?_of_statements {s : Node}
    (h : Steady (depthFor (tokensOf e) + 2) .statements (inBlock (tokensOf e)) (.list [s])
      (inBlock [])) :
    wrapped? e = some (blockOf .brace [Reread.putBack (textsOf e) s]) := by
  have hgroup : Reread.setAsideAll [] [TokenTree.group .brace .nowhere .nowhere e.trees] =
      ([TokenTree.group .brace .nowhere .nowhere (tokensOf e)], textsOf e) := by
    simp [Reread.setAsideAll, Reread.setAside, tokensOf, textsOf]
  have hdepth : depthFor (tokensOf e) + 2 ≤
      depthFor [TokenTree.group .brace .nowhere .nowhere (tokensOf e)] := by
    simp only [depthFor, TokenTree.sizes, TokenTree.size]
    omega
  have hinside : (do
      return [← readers (depthFor [TokenTree.group .brace .nowhere .nowhere (tokensOf e)])
        .statements] : Reader (List Node)) ⟨tokensOf e, .nowhere, some .brace, none⟩ =
      .ok ([Node.list [s]], inBlock []) := bind_of_ok (h _ hdepth)
  -- from the inside out: the statements, the group around them, and the block that this is
  have hread : closed plainBlock
      ⟨[TokenTree.group .brace .nowhere .nowhere (tokensOf e)], .nowhere, none, none⟩ =
      .ok (blockOf .brace [s], ⟨[], .nowhere, none, none⟩) := by
    rw [closed, get_bind, plainBlock]
    refine bind_of_ok (a := Node.group .brace [Node.list [s]]) ?_
    rw [groupOf]
    refine bind_of_ok (a := [Node.list [s]]) ?_
    simp only [inGroup, if_true, hinside]
    rfl
  rw [wrapped?, Reread.reread?, hgroup]
  simp only [run, hread]
  rfl

/-- An expression that stands alone is all that there is in the block that it is put into. -/
theorem wrapped?_of_standsAlone (h : StandsAlone e) :
    wrapped? e = some (blockOf .brace [tail e]) := by
  -- read as a statement, the expression takes all tokens, whichever way it stands alone
  have hstatement : ∃ s, Reread.putBack (textsOf e) s = e ∧ ∀ depth > depthFor (tokensOf e),
      tokensOf e ≠ [] ∧ Probe.op ";" (tokensOf e) = false ∧
        statement (readers depth) (inBlock (tokensOf e)) = .ok (tail s, inBlock []) := by
    cases h with
    | @expression attrs first whole c₀ c₁ hattrs hbegins hfirst hwhole hunsevered hspells =>
      refine ⟨_, hspells, fun depth hdepth ↦ ?_⟩
      have hattrs := hattrs depth (Nat.le_of_lt hdepth)
      have hleading :=
        leading_of_expression hbegins.noAttribute hfirst hwhole hunsevered depth hdepth
      have hoperand : (outerAttributes (readers depth) >>= fun _ ↦ operand (readers depth) true)
          (inBlock (tokensOf e)) = .ok (first, c₁) := by
        rw [bind_of_ok hattrs]
        exact hfirst (depth + 1) (Nat.le_succ_of_le (Nat.le_of_lt hdepth))
      obtain ⟨hne, hsemi⟩ := (operand_refuses true).behind_attributes _ _ _ hoperand
      exact ⟨hne, hsemi, statement_of_leading hattrs hbegins hleading⟩
    | @macroCall attrs path call c₀ c₁ hattrs hpath hcall hbraced hspells =>
      refine ⟨_, hspells, fun depth hdepth ↦ ?_⟩
      have hattrs := hattrs depth (Nat.le_of_lt hdepth)
      have hplain : (outerAttributes (readers depth) >>= fun _ ↦ plainPath)
          (inBlock (tokensOf e)) = .ok (path, c₁) := by
        rw [bind_of_ok hattrs, hpath]
      obtain ⟨hne, hsemi⟩ := plainPath_refuses.behind_attributes _ _ _ hplain
      exact ⟨hne, hsemi, statement_of_macro hattrs hpath hcall hbraced⟩
  obtain ⟨s, hspells, hstatement⟩ := hstatement
  rw [wrapped?_of_statements (s := tail s), putBack_tail, hspells]
  intro depth hdepth
  obtain ⟨depth, rfl⟩ := Nat.exists_eq_add_of_le' (Nat.le_trans (Nat.le_add_left 1 _) hdepth)
  obtain ⟨hne, hsemi, hread⟩ := hstatement depth (Nat.le_of_succ_le_succ hdepth)
  exact statements_of_statement hne hsemi hread

/-! ### What the block holds -/

theorem heads_tail (e : Node) : (blockOf .brace [tail e]).heads = e.heads := by
  unfold blockOf tail expressionOrMacro
  split
  · split <;> simp [Node.heads, Node.headsAll, Node.list, Node.absent, Head.of?]
  · simp [Node.heads, Node.headsAll, Node.list, Node.absent, Head.of?]

/-- An expression at the end of a block is no tracker call, which has a semicolon. -/
theorem isInstrumented_tail (e : Node) : isInstrumented (blockOf .brace [tail e]) = false := by
  have hcall : isTrackerCall (tail e) = false := by
    unfold tail expressionOrMacro
    split
    · split <;> rfl
    · unfold isTrackerCall
      split
      · next heq =>
        cases heq
        rfl
      · rfl
  simpa [blockOf, isInstrumented, statementsOf, Node.list, Node.children] using hcall

/-- The body of a closure that stands alone, as a block. -/
theorem bodyBlock?_of_standsAlone (hplain : plainBlock? e = none)
    (halone : StandsAlone (rewritten inj m e)) :
    bodyBlock? (rewritten inj m e) = some (blockOf .brace [tail (rewritten inj m e)]) := by
  rw [bodyBlock?, plainBlock?_rewritten, hplain, wrapped?_of_standsAlone halone]
  rfl

/-- The new body of a member that stands alone. -/
theorem newBody_of_standsAlone {f : Function} {place : Location} (hm : m place = some f)
    (hplain : plainBlock? e = none) (halone : StandsAlone (rewritten inj m e)) :
    inj.newBody m place true (rewritten inj m e) = .node .exprBlock
      [.list [], .absent, inj.front f (blockOf .brace [tail (rewritten inj m e)])] := by
  rw [newBody, hm, bodyBlock, bodyBlock?_of_standsAlone hplain halone]
  rfl

/-! ### Units -/

variable (o u inj) in
/-- The expressions that are the bodies of members of the closure stand alone, when the functions
inside are done. -/
def ExpressionsStandAlone : Prop :=
  ∀ f ∈ (Analysis.run o u).targets, f.isClosure = true → ∀ e, f.body = some e →
    plainBlock? e = none → StandsAlone (rewritten inj (members (Analysis.run o u)) e)

/-- The path that the options have by default fits every function. -/
theorem fitsImport_of_default (hinj : ofOptions o = .ok inj)
    (hpath : o.runtimePath = ({} : Options).runtimePath) :
    Injection.fitsImport inj.runtime = true := by
  have hdefault : (pathOf ({} : Options).runtimePath).toOption.any Injection.fitsImport = true := by
    decide +kernel
  rw [← hpath, (of_ofOptions hinj).1] at hdefault
  exact hdefault

theorem manages_of_standAlone (halone : ExpressionsStandAlone o u inj)
    (hcan : ∀ f, inj.canCall f = true) {f : Function} (hf : f ∈ (Analysis.run o u).targets) :
    inj.manages (members (Analysis.run o u)) f = true := by
  obtain ⟨id, hid, hfunction⟩ := List.mem_filterMap.1 hf
  obtain ⟨f', hf', hbody⟩ := Analysis.exists_function_of_mem_closure o u hid
  obtain rfl := Option.some.inj (hfunction.symm.trans hf')
  obtain ⟨e, hbody⟩ := Option.isSome_iff_exists.1 hbody
  have hblock : inj.hasBlock (members (Analysis.run o u)) f = true := by
    rw [hasBlock, hbody]
    cases hclosure : f.isClosure with
    | false => rfl
    | true =>
      cases hplain : plainBlock? e with
      | none =>
        simp [bodyBlock?_of_standsAlone hplain (halone f hf hclosure e hbody hplain)]
      | some b => simp [bodyBlock?, plainBlock?_rewritten, hplain]
  rw [manages, hblock, hcan, Bool.or_true, Bool.and_self]

/-- The heads in expressions that stand alone are found in the blocks that they are put into. -/
theorem heads_newBody_of_standAlone (hd : u.Distinct) (halone : ExpressionsStandAlone o u inj)
    {c : Head} (hc : c ∈ u.heads) (hclosure : c.isClosure = true)
    (hmember : (members (Analysis.run o u) c.place).isSome) (hbody : c.body = some e)
    (hplain : plainBlock? e = none) :
    ∀ h ∈ (rewritten inj (members (Analysis.run o u)) e).heads,
      h ∈ (inj.newBody (members (Analysis.run o u)) c.place c.isClosure
        (rewritten inj (members (Analysis.run o u)) e)).heads := by
  intro h hh
  obtain ⟨f, hf⟩ := Option.isSome_iff_exists.1 hmember
  obtain ⟨hplace, hid, hfunction⟩ := (members_eq_some hd).1 hf
  obtain rfl : c = f.head := hd.head_inj hc (Index.head_mem_heads hfunction) hplace.symm
  have htarget : f ∈ (Analysis.run o u).targets := List.mem_filterMap.2 ⟨_, hid, hfunction⟩
  have halone := halone f htarget hclosure e hbody hplain
  rw [hclosure, newBody_of_standsAlone hf hplain halone, heads_plainBlock]
  refine heads_front f _ h ?_
  rwa [heads_tail]

/-- **Closures whose bodies are expressions.** If all bodies that are put into blocks stand alone, an
injector with the default path of the runtime comes to the end of the unit, and the body of each of
these closures that has a parameter for the host becomes a block of two statements: the tracker call,
and the expression at the end, with the functions inside done. -/
theorem apply_wraps {source : String} (hparse : parseUnit source = .ok u)
    (hinj : ofOptions o = .ok inj) (hpath : o.runtimePath = ({} : Options).runtimePath)
    (halone : ExpressionsStandAlone o u inj) :
    ∃ inj' u' s, inj.apply (Analysis.run o u) u = .ok (inj', u', s) ∧
      ∀ f ∈ (Analysis.run o u).targets, f.isClosure = true → inj.hasHost f = true →
        ∀ e, f.body = some e → plainBlock? e = none → ∃ call, inj.IsCallOf f call ∧
          ⟨f.declaration.location, true, some (.node .exprBlock [.list [], .absent,
            blockOf .brace [call, tail (rewritten inj (members (Analysis.run o u)) e)]])⟩ ∈
              u'.heads := by
  have hd := distinct_of_parseUnit hparse
  have hcan := canCall_of_fitsImport (fitsImport_of_default hinj hpath)
  have hnew := (of_ofOptions hinj).2
  obtain ⟨⟨inj', u', s⟩, happly⟩ := (apply_ends_iff hd hnew).2 fun f hf ↦
    manages_of_standAlone halone hcan hf
  refine ⟨inj', u', s, happly, ?_⟩
  rw [(run_spec hd hnew happly).2, forall_mem_targets inj hd]
  intro mt hmt hclosure hhost e hbody hplain
  obtain ⟨hhead, hm, -⟩ := body_of_mem_met hd hmt
  obtain ⟨call, hcall⟩ := Option.isSome_iff_exists.1 (hcan mt.function)
  refine ⟨call, isCallOf_of_eq_some hcall, ?_⟩
  have hplaced : placedHead inj (members (Analysis.run o u)) mt.function.head ∈ _ :=
    (placedHead_mem_unit_or (Q := fun _ ↦ False) (fun c hc hclosure hmember body hbody hplain h hh ↦
      Or.inl (heads_newBody_of_standAlone hd halone hc hclosure hmember hbody hplain h hh))
      hhead).resolve_right id
  -- the block has no call of its own yet, as the expression is its only statement
  have halone := (forall_mem_targets inj hd).1 halone mt hmt hclosure e hbody hplain
  rw [← front_blockOf hcall (isInstrumented_tail _) hhost,
    ← newBody_of_standsAlone hm hplain halone]
  simpa only [placedHead, Function.head, hbody, hclosure, Option.map_some] using hplaced

/-! ### A name as the body of a closure -/

/-- A name in some place, as an expression. -/
def nameAt (word : String) (span : Span) : Node :=
  .node .exprPath [.list [],
    .node .path [.absent, .list [.node .segment [.token .word word span, .absent]]]]

/-- The place of an expression that is a name. -/
def placeOf? (word : String) : Node → Option Span
  | .node .exprPath [.node .list [], .node .path [.node .absent [],
      .node .list [.node .segment [.token .word t span, .node .absent []]]]] =>
    if t = word then some span else none
  | _ => none

theorem exists_of_placeOf? {word : String} (h : (placeOf? word e).isSome = true) :
    ∃ span, e = nameAt word span := by
  unfold placeOf? at h
  split at h
  · split at h
    · next hword =>
      subst hword
      exact ⟨_, rfl⟩
    · cases h
  · cases h

theorem standsAlone_nameAt (span : Span) : StandsAlone (nameAt "cx" span) := by
  refine @StandsAlone.expression _ (.list []) (nameAt "cx" span) (nameAt "cx" span)
    (inBlock [.name "cx" span]) (inBlock []) (fun _ _ ↦ outerAttributes_of_not rfl)
    ⟨rfl, rfl, rfl, rfl⟩ (fun depth hdepth ↦ ?_) (fun depth hdepth ↦ ?_) rfl rfl
  all_goals
    obtain ⟨depth, rfl⟩ := Nat.exists_eq_add_of_le' (Nat.le_trans (by decide : 1 ≤ 80) hdepth)
    rfl

/-- A tracked function with a closure that is a member and whose body is a name. -/
def nameText : String :=
  "#[component]\n#[track_recompositions(include_nested = true)]\nfn list(cx: &mut Host) \x7b\n" ++
  "    each(cx, #[component] |cx: &mut Host| cx);\n\x7d\n"

theorem apply_wraps_nameText : ∃ u, parseUnit nameText = .ok u ∧
    ∃ inj, ofOptions {} = .ok inj ∧ ExpressionsStandAlone {} u inj ∧
      ∃ inj' u' s, inj.apply (Analysis.run {} u) u = .ok (inj', u', s) ∧
        ∃ f ∈ (Analysis.run {} u).targets, ∃ span call, f.body = some (nameAt "cx" span) ∧
          inj.IsCallOf f call ∧ ⟨f.declaration.location, true, some (.node .exprBlock
            [.list [], .absent, blockOf .brace [call, tail (nameAt "cx" span)]])⟩ ∈ u'.heads := by
  have hparse : ∃ u, parseUnit nameText = .ok u ∧ ((ofOptions {}).toOption.map fun inj ↦
      (Analysis.run {} u).targets.map fun f ↦
        (f.isClosure, inj.hasHost f, f.body.any fun e ↦ (placeOf? "cx" e).isSome)) =
      some [(false, true, false), (true, true, true)] :=
    exists_parseUnit_eq_ok (append_eq_ofList rfl rfl) (by decide +kernel)
  obtain ⟨u, hparse, hunit⟩ := hparse
  obtain ⟨inj, hinj, htargets⟩ := exists_eq_ok hunit
  have hname {f : Function} (hf : f ∈ (Analysis.run {} u).targets) (hclosure : f.isClosure = true) :
      inj.hasHost f = true ∧ ∃ span, f.body = some (nameAt "cx" span) := by
    have hmem := List.mem_map_of_mem (f := fun f ↦
      (f.isClosure, inj.hasHost f, f.body.any fun e ↦ (placeOf? "cx" e).isSome)) hf
    rw [htargets, hclosure] at hmem
    simp only [List.mem_cons, Prod.mk.injEq, Bool.true_eq_false, false_and, true_and,
      List.not_mem_nil, or_false, false_or] at hmem
    obtain ⟨e, hbody, hplace⟩ := (Option.any_eq_true _ _).1 hmem.2
    obtain ⟨span, rfl⟩ := exists_of_placeOf? hplace
    exact ⟨hmem.1, span, hbody⟩
  have halone : ExpressionsStandAlone {} u inj := by
    intro f hf hclosure e hbody hplain
    obtain ⟨-, span, hspan⟩ := hname hf hclosure
    obtain rfl := Option.some.inj (hbody.symm.trans hspan)
    exact standsAlone_nameAt span
  obtain ⟨inj', u', s, happly, hwrapped⟩ := apply_wraps hparse hinj rfl halone
  have hclosure : (true, true, true) ∈ (Analysis.run {} u).targets.map fun f ↦
      (f.isClosure, inj.hasHost f, f.body.any fun e ↦ (placeOf? "cx" e).isSome) := by
    rw [htargets]
    exact List.mem_cons_of_mem _ List.mem_cons_self
  obtain ⟨f, hf, htriple⟩ := List.mem_map.1 hclosure
  have hclosure : f.isClosure = true := congrArg Prod.fst htriple
  obtain ⟨hhost, span, hbody⟩ := hname hf hclosure
  obtain ⟨call, hcall, hhead⟩ := hwrapped f hf hclosure hhost _ hbody rfl
  exact ⟨u, hparse, inj, hinj, halone, inj', u', s, happly, f, hf, span, call, hbody, hcall, hhead⟩

end Injector

end RenderTrace
