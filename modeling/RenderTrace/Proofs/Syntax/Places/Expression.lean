import RenderTrace.Proofs.Syntax.Places.Pattern

/-!
# The places that expressions spend
-/

namespace RenderTrace.Syntax.Grammar

open Marked

variable {l : Location}

/-! ### Attributes that are moved -/

/-- A node has no flaw more if its first child, a sequence, is replaced. -/
theorem flawed_of_cons {k : Kind} {a : Node} {own cs : List Node}
    (h : Node.flawed k (a :: cs) = true) : Node.flawed k (.node .list own :: cs) = true := by
  unfold Node.flawed at h
  split at h
  case h_11 => cases h
  case h_9 hlength =>
    -- a closure keeps its number of children
    unfold Node.flawed
    split <;> simp_all
  case h_1 => rfl
  case h_2 => rfl
  case h_3 => exact h
  all_goals
    next hcs =>
      obtain ⟨-, rfl⟩ := List.cons.inj hcs
      exact h

theorem passed_of_cons (k : Kind) (a b : Node) (cs : List Node) :
    Node.passed l k (a :: cs) = Node.passed l k (b :: cs) := by
  unfold Node.passed
  split
  · next hcs =>
    obtain ⟨-, rfl⟩ := List.cons.inj hcs
    rfl
  · next hother =>
    split
    · next hcs =>
      obtain ⟨-, rfl⟩ := List.cons.inj hcs
      exact absurd rfl (hother _ _ _ rfl)
    · rfl

theorem marks_of_cons (k : Kind) (a : Node) (own cs : List Node) :
    marks l (Node.node k (a :: cs)) + marks l own ≤
      marks l (Node.node k (.node .list own :: cs)) + marks l a := by
  have hflaw : (Node.flawed k (a :: cs)).toNat ≤ (Node.flawed k (.node .list own :: cs)).toNat := by
    cases hflawed : Node.flawed k (a :: cs) with
    | false => exact Nat.zero_le _
    | true => exact Nat.le_of_eq (congrArg Bool.toNat (flawed_of_cons hflawed)).symm
  have hown : marks l (Node.node .list own) = marks l own := marks_list own
  simp only [marks_node k, marks_cons, hown, passed_of_cons k a (.node .list own) cs]
  omega

theorem marks_addAttributes (attrs e : Node) :
    marks l (addAttributes attrs e) ≤ marks l attrs + marks l e := by
  have hchildren := marks_children (l := l) attrs
  unfold addAttributes
  split
  · exact Nat.le_add_left _ _
  · split
    · exact Nat.le_add_left _ _
    · simp
    · next own cs _ _ =>
      have hle := marks_of_cons (l := l) ‹Kind› (.list (attrs.children ++ own)) own cs
      simp only [marks_list, marks_append] at hle
      omega
    · exact Nat.le_add_left _ _

theorem marks_withAttributes (attrs p : Node) :
    marks l (withAttributes attrs p) ≤ marks l attrs + marks l p := by
  unfold withAttributes
  split
  · exact Nat.le_add_left _ _
  · split
    · exact Nat.le_add_left _ _
    · simp
  · next k own cs _ _ =>
    have hle := marks_of_cons (l := l) k attrs own cs
    omega
  · exact Nat.le_add_left _ _

/-- A block at the left end of an expression gets parentheses; nothing else changes. -/
theorem marks_parenthesizeLeftBlock (fuel : Nat) (e : Node) :
    marks l (parenthesizeLeftBlock fuel e) = marks l e := by
  induction fuel generalizing e with
  | zero => rfl
  | succ fuel ih =>
    unfold parenthesizeLeftBlock
    split
    · simp
    · next k _ _ _ _ =>
      split
      · next hk =>
        have hplain : ∀ cs, Node.flawed k cs = false ∧ Node.passed l k cs = 0 := fun cs ↦ by
          simp only [List.contains_eq_mem, List.mem_cons, List.not_mem_nil, or_false,
            decide_eq_true_eq] at hk
          rcases hk with rfl | rfl | rfl | rfl | rfl | rfl | rfl | rfl | rfl | rfl <;>
            exact ⟨rfl, rfl⟩
        rw [marks_node, marks_node, (hplain _).1, (hplain _).1, (hplain _).2, (hplain _).2]
        simp only [marks_cons, ih]
      · rfl
    · rfl

/-! ### Rules that call no others -/

instance rangeLimits_spends : Spends l 0 rangeLimits where
  affords := .when .last <| .when .fail .last

instance label_spends : Spends l 0 label where
  affords := .next fun _ ↦ .next fun _ ↦ .done

instance fractionFields_spends (e dot : Node) (span : Span) (t : String) :
    Spends l (marks l e + marks l dot) (fractionFields e dot span t) where
  affords := by
    unfold fractionFields
    extract_lets parts point field
    have hpoint : marks l point = 0 := marks_operator (by decide) span
    have hfield (e dot : Node) (part : String) :
        Affords l (marks l e + marks l dot) (field e dot part) :=
      .next fun _ ↦ .done
    clear_value parts
    split
    · exact (hfield _ _ _).bindWith (Nat.le_refl _) fun _ ↦ .done
    · exact (hfield _ _ _).bindWith (Nat.le_refl _) fun _ ↦ .done
    · refine (hfield _ _ _).bindWith (Nat.le_refl _) fun _ ↦ ?_
      exact (hfield _ _ _).bindWith (by omega) fun _ ↦ .done
    · exact .last

variable {self : Readers} [self.Thrifty l]

/-! ### Operators -/

theorem extend_affords (structs : Bool) (p : Precedence) (fuel : Nat) (e : Node) :
    Affords l (marks l e) (rightSide.extend self structs p fuel e) := by
  induction fuel generalizing e with
  | zero => exact .done
  | succ fuel ih =>
    exact .get fun _ ↦ .ite (.give fun _ ↦ .get fun _ ↦ .ite .done ((ih _).mono)) .done

instance rightSide_spends (structs : Bool) (p : Precedence) :
    Spends l 0 (rightSide self structs p) where
  affords := .next fun _ ↦ .get fun _ ↦ (extend_affords structs p _ _).mono

instance rangeFrom_spends (structs : Bool) (start : Node) :
    Spends l (marks l start) (rangeFrom self structs start) where
  affords := .next fun _ ↦ .next fun _ ↦ .ite .done (.next fun _ ↦ .done)

instance operators_spends (left : Node) (structs : Bool) (base : Precedence) :
    Spends l (marks l left) (operators self left structs base) where
  affords := .get fun _ ↦ .ite .done <| by
    split
    · exact .ite .done <| .ite .fail <| .next fun _ ↦ .next fun _ ↦ .last
    · refine .ite (.next fun _ ↦ .next fun _ ↦ .last) <| .ite (.give fun _ ↦ .last) <|
        .ite (.next fun _ ↦ .next fun _ ↦ .get fun _ ↦ ?_) .done
      split
      · exact .last
      · exact .last

/-! ### Parts of expressions -/

instance expressionList_spends : Spends l 0 (expressionList self) :=
  commaList_spends

instance structField_spends : Spends l 0 (structField self) where
  affords := .next fun _ ↦ .next fun _ ↦ .next fun _ ↦
    .ite (.next fun _ ↦ .next fun _ ↦ .done) .done

instance structFields_spends : Spends l 0 (structFields self) where
  affords := .bind (.parts <| .when .done <| .next fun _ ↦ .next fun _ ↦
      .ite .done (.next fun _ ↦ .done)) fun _ ↦
    .when (.next fun _ ↦ .next fun _ ↦ .ite (.value .done) (.next fun _ ↦ .done)) .done

instance pathExpression_spends (structs : Bool) : Spends l 0 (pathExpression self structs) where
  affords := .next fun _ ↦ .next fun _ ↦ .ite (.give fun _ ↦ .done) <| .next fun _ ↦
    .ite (.bind (.groupOf .last) fun _ ↦ .done) .done

instance parenExpression_spends : Spends l 0 (parenExpression self) where
  affords := .inGroup <| .next fun _ ↦ .ite .done <| .next fun _ ↦ .next fun _ ↦ .ite .done <|
    .next fun _ ↦ .next fun rest ↦
      have hchildren := marks_children (l := l) rest
      .done

instance arrayExpression_spends : Spends l 0 (arrayExpression self) where
  affords := .inGroup <| .next fun _ ↦ .ite .done <| .next fun _ ↦ .next fun _ ↦ .ite .done <|
    .when
      (.next fun _ ↦ .next fun rest ↦
        have hchildren := marks_children (l := l) rest
        .done) <|
    .when (.next fun _ ↦ .next fun _ ↦ .done) .last

instance breakExpression_spends (structs : Bool) : Spends l 0 (breakExpression self structs) where
  affords := .next fun _ ↦ .when (.get fun _ ↦ .next fun _ ↦ .get fun _ ↦ .failAt) <|
    .next fun _ ↦ .next fun _ ↦ .next fun _ ↦ .ite (.next fun _ ↦ .done) (.value .done)

instance optionalValue_spends (structs : Bool) : Spends l 0 (optionalValue self structs) where
  affords := .when
    (.next fun e ↦ .pure <| by
      split
      · simp
      · simp [marks_parenthesizeLeftBlock])
    .done

instance closureParameter_spends : Spends l 0 (closureParameter self) where
  affords := .next fun attrs ↦ .next fun p ↦ .when (.next fun _ ↦ .next fun _ ↦ .done) <|
    have hle := marks_withAttributes (l := l) attrs p
    .done

instance closureExpression_spends (structs : Bool) :
    Spends l 0 (closureExpression self structs) where
  affords := .next fun _ ↦ .next fun _ ↦ .next fun _ ↦ .next fun _ ↦ .next fun _ ↦
    .nextAs (op_answers "|") (op_spends _).affords fun bar ⟨s, hbar⟩ ↦
    have hbar : bar.isBar = true := hbar ▸ rfl
    .next fun _ ↦ .next fun _ ↦ .when
      (.next fun _ ↦ .nextAs plainBlock_answers (plainBlock_spends).affords fun _ hblock ↦
        .pure (by simp [hbar, hblock]; omega))
      (.next fun _ ↦ .pure (by simp [hbar]; omega))

instance letExpression_spends (structs : Bool) : Spends l 0 (letExpression self structs) where
  affords := .next fun _ ↦ .next fun _ ↦ .next fun _ ↦ .next fun _ ↦ .give fun _ ↦ .done

theorem ifChain_affords (fuel : Nat) : Affords l 0 (ifChain self fuel) := by
  induction fuel with
  | zero => exact (fail_spends _).affords
  | succ fuel ih =>
    exact .next fun _ ↦ .next fun _ ↦ .next fun _ ↦ .next fun _ ↦ .ite .done <|
      .next fun _ ↦ .when (ih.bind fun _ ↦ .done) <|
      .when (.nextAs plainBlock_answers (plainBlock_spends).affords fun _ hblock ↦
        .pure (by simp [hblock]; omega)) .last

instance ifExpression_spends : Spends l 0 (ifExpression self) where
  affords := .next fun attrs ↦ .get fun _ ↦ .bind (ifChain_affords _) fun e ↦
    have hle := marks_addAttributes (l := l) attrs e
    .done

instance whileExpression_spends (label : Node) :
    Spends l (marks l label) (whileExpression self label) where
  affords := .next fun _ ↦ .next fun _ ↦ .next fun ⟨_, _⟩ ↦ .done

instance forExpression_spends (label : Node) :
    Spends l (marks l label) (forExpression self label) where
  affords := .next fun _ ↦ .next fun _ ↦ .next fun _ ↦ .next fun _ ↦ .next fun ⟨_, _⟩ ↦ .done

instance loopExpression_spends (label : Node) :
    Spends l (marks l label) (loopExpression self label) where
  affords := .next fun _ ↦ .next fun ⟨_, _⟩ ↦ .done

instance blockExpression_spends (label : Node) :
    Spends l (marks l label) (blockExpression self label) where
  affords := .nextAs attributedBlock_answers (attributedBlock_spends).affords
    fun ⟨_, _⟩ hblock ↦ .pure (by simp at hblock; simp [hblock]; omega)

instance labelledExpression_spends : Spends l 0 (labelledExpression self) where
  affords := .next fun _ ↦ .when .last <| .when .last <| .when .last <| .when .last .last

instance matchArm_spends : Spends l 0 (matchArm self) where
  affords := .next fun attrs ↦ .next fun p ↦ .next fun if_ ↦ by
    extract_lets jp
    have hjp (guard_ : Node) :
        Affords l (marks l attrs + marks l p + marks l if_ + marks l guard_) (jp guard_) :=
      .next fun _ ↦ .next fun _ ↦ .next fun _ ↦ .ite (.next fun _ ↦ .done) (.next fun _ ↦ .done)
    exact .ite (.value <| (hjp _).mono) (.next fun _ ↦ (hjp _).mono)

instance matchExpression_spends : Spends l 0 (matchExpression self) where
  affords := .next fun _ ↦ .next fun _ ↦ .bind (attributedBraces_affords .last) fun ⟨_, _⟩ ↦ .done

instance atom_spends (structs : Bool) : Spends l 0 (atom self structs) where
  affords := .when (.next fun _ ↦ .done) <|
    .when (.next fun _ ↦ .next fun _ ↦ .next fun _ ↦ .done) <|
    .when (.next fun _ ↦ .next fun _ ↦ .done) <| .when .last <| .when .last <| .when .last <|
    .when .last <| .when .last <| .when (.next fun _ ↦ .next fun _ ↦ .done) <|
    .when (.next fun _ ↦ .next fun _ ↦ .done) <| .when (.verbatim <| .next fun _ ↦ .last) <|
    .when .last <| .when .last <| .when .last <| .when .last <| .when .last <| .when .last <|
    .when .last <| .when (.next fun _ ↦ .next fun _ ↦ .done) <|
    .when (.next fun _ ↦ .next fun ⟨_, _⟩ ↦ .done) <| .when .last <| .when .last <| .when .last <|
    .when (.next fun _ ↦ .done) <| .when .last .last

/-! ### What follows an expression without operators -/

instance afterPoint_spends (e dot : Node) :
    Spends l (marks l e + marks l dot) (afterPoint self e dot) where
  affords := .when (.next fun _ ↦ .done) <| .next fun m ↦ .next fun _ ↦ by
    extract_lets jp
    have hjp (args : Node) :
        Affords l (marks l e + marks l dot + marks l m + marks l args) (jp args) :=
      .next fun _ ↦ .ite (.bind (.groupOf <| .next fun _ ↦ .done) fun _ ↦ .done) .done
    exact .ite (.next fun _ ↦ (hjp _).mono) (.value <| (hjp _).mono)

/-- Where nothing follows `e`, it is not spent. -/
theorem trailer?_affords (e : Node) :
    AffordsBy l (fun found ↦ marks l (found.getD e)) (marks l e) (trailer? self e) := by
  exact .when (.bind (.groupOf <| .next fun _ ↦ .done) fun _ ↦ .done) <|
  .next fun _ ↦ .ite
    (.next fun _ ↦ .when
      (.next fun _ ↦ by
        split
        · refine .give fun found ↦ ?_
          rcases found with ⟨e, _ | dot⟩
          · exact .done
          · exact .give fun _ ↦ .done
        · exact .done)
      (.give fun _ ↦ .done)) <|
  .when (.bind (.groupOf <| .next fun _ ↦ .done) fun _ ↦ .done) <|
  .next fun _ ↦ .ite (.next fun _ ↦ .done) .done

theorem extendTrailers_affords (fuel : Nat) (e : Node) :
    Affords l (marks l e) (trailers.extend self fuel e) := by
  induction fuel generalizing e with
  | zero => exact .done
  | succ fuel ih =>
    refine .bindWith (trailer?_affords e) (Nat.le_refl _) fun found ↦ ?_
    cases found with
    | some e' => exact (ih e').mono
    | none => exact .done

instance trailers_spends (e : Node) : Spends l (marks l e) (trailers self e) where
  affords := .get fun _ ↦ extendTrailers_affords _ e

instance operand_spends (structs : Bool) : Spends l 0 (operand self structs) where
  affords := .get fun start ↦ .next fun attrs ↦ .when
    (.next fun _ ↦ .when (.next fun _ ↦ .next fun _ ↦ .next fun _ ↦ .done)
      (.next fun _ ↦ .next fun _ ↦ .done)) <|
    .when
      (.next fun _ ↦ .next fun _ ↦ .ite (.next fun _ ↦ .next fun _ ↦ .done) <|
        .ite (.next fun _ ↦ .next fun _ ↦ .done) (.next fun _ ↦ .next fun _ ↦ .done)) <|
    .next fun _ ↦ .give fun e ↦ by
      have hle := marks_addAttributes (l := l) attrs e
      split
      · exact .last
      · exact .ite .done (.last)
      · exact .done

instance expression_spends (structs : Bool) : Spends l 0 (expression self structs) where
  affords := .next fun _ ↦ .last

/-! ### Expressions where a statement begins -/

omit [self.Thrifty l] in
/-- To find a reader nothing is read. -/
theorem braceExpression?_affords : AffordsBy l (fun _ ↦ 0) 0 (braceExpression? self) :=
  .when .done <| .when .done <| .when .done <| .when .done <| .when .done <| .when .done <|
    .when .done .done

/-- The readers that are found keep to the law. -/
theorem braceExpression?_answers :
    Answers (fun found ↦ ∀ r ∈ found, Affords l 0 r) (braceExpression? self) := by
  have hsome {r : Reader Node} (hr : Affords l 0 r) : ∀ r' ∈ some r, Affords l 0 r' := by
    rintro r' hr'
    obtain rfl := Option.some.inj hr'
    exact hr
  exact .bind fun _ ↦ .ite (.pure <| hsome .last) <| .bind fun _ ↦ .ite (.pure <| hsome .last) <|
    .bind fun _ ↦ .ite (.pure <| hsome .last) <| .bind fun _ ↦ .ite (.pure <| hsome .last) <|
    .bind fun _ ↦ .ite (.pure <| hsome .last) <| .bind fun _ ↦ .ite (.pure <| hsome .last) <|
    .bind fun _ ↦ .ite (.pure <| hsome .last) <| .pure nofun

theorem unlessContinued_affords (attrs : Node) {r : Reader Node} (hr : Affords l 0 r) :
    Affords l (marks l attrs) (unlessContinued self attrs r) :=
  .bind hr fun e ↦ .when
    (.give fun e' ↦
      have hle := marks_addAttributes (l := l) attrs e'
      .last)
    (have hle := marks_addAttributes (l := l) attrs e
     .done)

instance leading_spends : Spends l 0 (leading self) where
  affords := .next fun attrs ↦ .nextAs braceExpression?_answers braceExpression?_affords
    fun found hfound ↦ by
      cases found with
      | some r => exact (unlessContinued_affords attrs (hfound r rfl)).mono
      | none =>
        refine .next fun e ↦ ?_
        have hle := marks_addAttributes (l := l) attrs e
        exact .ite .done .last

end RenderTrace.Syntax.Grammar
