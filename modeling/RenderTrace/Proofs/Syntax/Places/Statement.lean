import RenderTrace.Proofs.Syntax.Places.Item
import RenderTrace.Syntax.Grammar.Closure

/-!
# The places that statements spend

With statements the rules are complete, and so readers of any depth keep to the law.
-/

namespace RenderTrace.Syntax.Grammar

open Marked

variable {l : Location}

/-! ### Rules that call no others -/

instance : Marked MacroAhead := ⟨fun _ _ ↦ 0⟩

@[simp] theorem marks_macroAhead (found : MacroAhead) : marks l found = 0 := rfl

instance macroAhead_spends : Spends l 0 macroAhead where
  affords := .ahead? fun found ↦ by
    cases found with
    | none => exact .done
    | some ts => exact .ite .done <| .ite .done <| .ite .done .done

/-- The semicolon of an empty statement is all of it. -/
instance emptyStatement_spends : Spends l 0 emptyStatement where
  affords := .next fun _ ↦ .done

theorem marks_attributeLeftmost (attrs : Node) (fuel : Nat) (e : Node) :
    marks l (attributeLeftmost attrs fuel e) ≤ marks l attrs + marks l e := by
  induction fuel generalizing e with
  | zero => exact marks_addAttributes attrs e
  | succ fuel ih =>
    unfold attributeLeftmost
    split
    case h_4 => exact marks_addAttributes attrs e
    all_goals
      next left _ _ =>
        have hleft := ih left
        simp
        omega

theorem marks_expressionOrMacro (e semi : Node) :
    marks l (expressionOrMacro e semi) ≤ marks l e + marks l semi := by
  unfold expressionOrMacro
  split
  · split <;> simp [Nat.add_assoc]
  · simp

variable {self : Readers} [self.Thrifty l]

/-! ### Rules -/

instance localStatement_spends (attrs : Node) :
    Spends l (marks l attrs) (localStatement self attrs) where
  affords := .next fun let_ ↦ .next fun p ↦ .next fun _ ↦ by
    extract_lets jp
    have hjp (p : Node) : Affords l (marks l attrs + marks l let_ + marks l p) (jp p) :=
      .next fun _ ↦ .ite (.next fun _ ↦ .done) <| .next fun _ ↦ .next fun _ ↦ .ite
        (.next fun _ ↦ .nextAs plainBlock_answers (plainBlock_spends).affords fun _ hblock ↦
          .next fun _ ↦ .pure (by simp [hblock]; omega))
        (.next fun _ ↦ .done)
    exact .ite (.next fun _ ↦ .next fun _ ↦ .value (hjp _).mono) (.value (hjp _).mono)

instance expressionStatement_spends (start : Cursor) (attrs : Node) :
    Spends l (marks l attrs) (expressionStatement self start attrs) where
  affords := .next fun e ↦ by
    extract_lets jp
    have hjp (e : Node) : Affords l (marks l e) (jp e) := .next fun semi ↦
      have hle := marks_expressionOrMacro (l := l) e semi
      .done
    have hle := marks_attributeLeftmost (l := l) attrs e.size e
    exact .ite (.next fun _ ↦ (hjp _).mono) (.value (hjp _).mono)

instance statement_spends : Spends l 0 (statement self) where
  affords := orVerbatim_affords <| .get fun _ ↦ .next fun _ ↦ .next fun _ ↦ .ite
    (.next fun _ ↦ .give fun _ ↦ .next fun _ ↦ .done) <|
    .when (.give fun _ ↦ .done) <| .next fun _ ↦ .ite .last (.give fun _ ↦ .done)

instance statements_spends : Spends l 0 (statements self) where
  affords := .parts <| .when (.next fun _ ↦ .done) <| .next fun _ ↦ .ite .done <|
    .next fun _ ↦ .next fun _ ↦ .ite .done <| .ite .fail .done

omit [self.Thrifty l] in
theorem statements_answers : Answers (fun n : Node ↦ n.isList = true) (statements self) :=
  .bind fun _ ↦ .pure rfl

/-! ### The whole grammar -/

/-- Readers that keep to the law are joined to readers that do. -/
instance rule_thrifty : Readers.Thrifty l (rule self) where
  statements := statements_answers
  affords
    | .type plus => (type_spends plus).affords
    | .bound style => (bound_spends style).affords
    | .expression structs => (expression_spends structs).affords
    | .operand structs => (operand_spends structs).affords
    | .operators left structs base => (operators_spends left structs base).affords
    | .leading => leading_spends.affords
    | .pattern => pattern_spends.affords
    | .statements => statements_spends.affords
    | .item => item_spends.affords

instance readers_thrifty (depth : Nat) : Readers.Thrifty l (readers depth) := by
  induction depth with
  | zero => exact ⟨fun _ ↦ (AffordsBy.mono (fail_spends _).affords (Nat.zero_le _)), .fail⟩
  | succ depth ih => exact rule_thrifty

end RenderTrace.Syntax.Grammar
