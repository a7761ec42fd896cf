import RenderTrace.Proofs.Syntax.Places.Type

/-!
# The places that patterns spend
-/

namespace RenderTrace.Syntax.Grammar

open Marked

variable {l : Location}

instance macroAfter_spends (p : Node) : Spends l (marks l p) (macroAfter p) where
  affords := .next fun _ ↦ .bind unreadGroup_keeps fun _ ↦ .done

instance indexAt_spends (span : Span) (t : String) : Spends l 0 (indexAt span t) where
  affords := by
    unfold indexAt
    split
    · exact .pure (by simp [marks_plain])
    · exact .last

instance index_spends : Spends l 0 index where
  affords := .next fun _ ↦ by
    split
    · exact .last
    · exact .last

instance member_spends : Spends l 0 member where
  affords := .when .last <| .when .last .last

instance patternLimits_spends : Spends l 0 patternLimits where
  affords := .when .last <| .when
    (.nextAs (op_answers "...") (op_spends _).affords fun _ ⟨s, hdots⟩ ↦ by
      subst hdots
      exact .pure (by simp [marks_operator]))
    .last

variable {self : Readers} [self.Thrifty l]

instance alternatives_spends (leading : Node) :
    Spends l (marks l leading) (alternatives self leading) where
  affords := .next fun _ ↦ .next fun _ ↦ .ite .done <|
    .bind (.repeatNodes <| .when (.next fun _ ↦ .next fun _ ↦ .done) .done) fun _ ↦ .done

instance patternWithAlternatives_spends : Spends l 0 (patternWithAlternatives self) where
  affords := .next fun _ ↦ .last

instance patIdent_spends : Spends l 0 (patIdent self) where
  affords := .next fun ref_ ↦ .next fun mut_ ↦ .next fun _ ↦ by
    extract_lets jp
    have hjp (n : Node) : Affords l (marks l ref_ + marks l mut_ + marks l n) (jp n) :=
      .next fun _ ↦ .ite (.value .done) (.next fun _ ↦ .done)
    exact .ite (.next fun _ ↦ (hjp _).mono) (.next fun _ ↦ (hjp _).mono)

instance fieldPattern_spends : Spends l 0 (fieldPattern self) where
  affords := .next fun _ ↦
    .bind (.taking <| .next fun _ ↦ .next fun _ ↦ .next fun _ ↦
      .ite (.next fun _ ↦ .done) (.next fun _ ↦ .done)) fun ⟨⟨_, _, _, _⟩, _⟩ ↦
    .next fun _ ↦ .ite (.next fun _ ↦ .next fun _ ↦ .done) <| .ite .done .done

instance fieldPatterns_spends : Spends l 0 (fieldPatterns self) where
  affords := .parts <| .next fun _ ↦ .ite .done <| .ahead? fun _ ↦
    .ite (.next fun _ ↦ .next fun _ ↦ .done) <|
    .next fun _ ↦ .next fun _ ↦ .ite .done <| .next fun _ ↦ .done

instance constBlock_spends : Spends l 0 (constBlock self) where
  affords := .next fun _ ↦ .next fun ⟨_, _⟩ ↦ .done

instance rangeBound?_spends : Spends l 0 (rangeBound? self) where
  affords := .when .done <| .when (.next fun _ ↦ .done) <| .when (.next fun _ ↦ .done) <|
    .when (.next fun _ ↦ .done) .last

instance rangePattern_spends (start : Node) :
    Spends l (marks l start) (rangePattern self start) where
  affords := .next fun _ ↦ .next fun stop ↦ by
    cases stop with
    | some stop => exact .done
    | none => exact .ite .fail .done

instance pathPattern_spends : Spends l 0 (pathPattern self) where
  affords := .next fun _ ↦ .next fun _ ↦ .ite (.give fun _ ↦ .done) <|
    .when (.bind (.groupOf <| .next fun _ ↦ .done) fun _ ↦ .done) <|
    .when (.bind (.groupOf <| .next fun _ ↦ .done) fun _ ↦ .done) <|
    .when .last .done

instance parenPattern_spends : Spends l 0 (parenPattern self) where
  affords := .bind (.inGroup .last) fun _ ↦ by
    split
    · exact .ite .done .done
    · exact .done

instance slicePattern_spends : Spends l 0 (slicePattern self) where
  affords := by
    refine .bind (.groupOf <| .bind (.separated <| .next fun _ ↦ ?_) fun _ ↦ .done) fun _ ↦ .done
    split
    · exact .ite .failAt .done
    · exact .done

instance openPattern_spends : Spends l 0 (openPattern self) where
  affords := .next fun _ ↦ by
    extract_lets jp
    have hjp (limits : Node) : Affords l (marks l limits) (jp limits) :=
      .next fun stop ↦ by
        cases stop with
        | some stop => exact .done
        | none => exact .ite .fail .done
    exact .ite (.next fun _ ↦ (hjp _).mono) (.next fun _ ↦ (hjp _).mono)

instance pattern_spends : Spends l 0 (pattern self) where
  affords := .when .last <| .when (.next fun _ ↦ .done) <|
    .when (.verbatim <| .next fun _ ↦ .last) <|
    .when
      (.next fun start ↦ by
        cases start with
        | some start => exact .when .last .done
        | none => exact .fail) <|
    .when .last <| .when (.next fun _ ↦ .next fun _ ↦ .next fun _ ↦ .done) <|
    .when .last <| .when .last <| .next fun _ ↦ .next fun _ ↦ .ite .last .last

end RenderTrace.Syntax.Grammar
