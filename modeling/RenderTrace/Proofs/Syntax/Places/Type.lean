import RenderTrace.Proofs.Syntax.Places.Reader

/-!
# The places that paths, bounds and types spend

The rules of the grammar call each other through `Readers`, so each is shown to keep to the law if
the readers that it is given do (`Readers.Thrifty`). A proof has the steps of its rule: `next` for
a step, `ite` for a condition, `done` for the answer.
-/

namespace RenderTrace.Syntax

open Marked

variable {l : Location}

/-- What a nonterminal is given to put into its answer. -/
@[reducible]
def Nonterminal.credit (l : Location) : Nonterminal → Nat
  | .operators left _ _ => Marked.marks l left
  | _ => 0

/-- Readers of the nonterminals that keep to the law. -/
class Readers.Thrifty (l : Location) (self : Readers) : Prop where
  affords (n : Nonterminal) : Affords l (n.credit l) (self n)
  statements : Answers (fun n : Node ↦ n.isList = true) (self .statements)

namespace Grammar

/-! ### Trees that are taken apart and put together -/

theorem marks_colonFor (colon bs : Node) : marks l (colonFor colon bs) ≤ marks l colon := by
  unfold colonFor
  split <;> simp

theorem marks_of_loneSegment? {n word args : Node} (h : loneSegment? n = some (word, args)) :
    marks l n = marks l word + marks l args := by
  unfold loneSegment? at h
  split at h <;> cases h
  simp

theorem marks_mapSegments {f : List Node → List Node} {k : Nat}
    (hf : ∀ ns, marks l (f ns) ≤ marks l ns + k) (p : Node) :
    marks l (mapSegments f p) ≤ marks l p + k := by
  unfold mapSegments
  split
  · next segments =>
    have hle := hf segments.children
    have hchildren := marks_children (l := l) segments
    simp
    omega
  · next segments =>
    have hle := hf segments.children
    have hchildren := marks_children (l := l) segments
    simp
    omega
  · exact Nat.le_add_right _ _

theorem marks_withLastArguments (args p : Node) :
    marks l (withLastArguments args p) ≤ marks l p + marks l args := by
  refine marks_mapSegments (fun segments ↦ ?_) p
  split
  · next hlast =>
    have hsplit := List.dropLast_append_getLast? _ hlast
    have hmarks := congrArg (marks l) hsplit
    simp at hmarks ⊢
    omega
  · exact Nat.le_add_right _ _

instance : Marked ParenType where
  marks l
    | .done t => marks l t
    | .single t => marks l t
    | .bound b => marks l b

@[simp] theorem marks_done (t : Node) : marks l (ParenType.done t) = marks l t := rfl

@[simp] theorem marks_single (t : Node) : marks l (ParenType.single t) = marks l t := rfl

@[simp] theorem marks_bound (b : Node) : marks l (ParenType.bound b) = marks l b := rfl

theorem marks_of_boundOfType? {n b : Node} (h : boundOfType? n = some b) :
    marks l b = marks l n := by
  unfold boundOfType? at h
  split at h
  · split at h <;> cases h
    simp
  · split at h <;> cases h <;> simp
  · cases h

/-! ### Rules that call no others -/

instance requireTrait_spends (start : Span) (message : String) (bs : Node) :
    Spends l 0 (requireTrait start message bs) where
  affords := .ite .last .done

instance plainPath_spends : Spends l 0 plainPath where
  affords := .next fun _ ↦
    .bind (.repeatNodes <| .when (.next fun _ ↦ .when (.next fun _ ↦ .done) .done) .done)
      fun _ ↦ by
    split
    · exact .next fun _ ↦ .last
    · exact .last
    · exact .done

instance lifetimeParam_spends (attrs : Node) : Spends l (marks l attrs) (lifetimeParam attrs) where
  affords := .next fun _ ↦ .next fun colon ↦
    have hdone (bs : Node) : marks l (colonFor colon bs) ≤ marks l colon := marks_colonFor colon bs
    .ite (.value <| .pure (by have := hdone (.list []); simp; omega))
      (.bind (.sum <| .next fun _ ↦ .done) fun bs ↦
        .pure (by have := hdone bs; simp; omega))

instance capturedParams_spends : Spends l 0 capturedParams where
  affords := .parts <| .when .done <| .next fun _ ↦ .next fun _ ↦ by
    extract_lets jp
    have hjp (p : Node) : Affords l (marks l p) (jp p) :=
      .when .done <| .when (.next fun _ ↦ .done) .last
    refine .ite (.next fun _ ↦ .value ?_) (.ite (.next fun _ ↦ .value ?_) .fail)
    · exact (hjp _).mono
    · exact (hjp _).mono

instance abi?_spends : Spends l 0 abi? where
  affords := .next fun _ ↦ .ite .done <| .next fun _ ↦ .next fun _ ↦ .done

instance constness_spends (style : BoundStyle) : Spends l 0 (constness style) where
  affords := .next fun _ ↦ .next fun _ ↦ .ite
    (.get fun _ ↦ .bind (.inGroup (keyword_spends _).affords) fun _ ↦ .ite .failAt .done)
    (.ite (.get fun _ ↦ .next fun _ ↦ .ite .failAt .done) .done)

instance refuseBinder_spends (maybe lifetimes : Node) :
    Spends l 0 (refuseBinder maybe lifetimes) where
  affords := by
    unfold refuseBinder
    split
    · exact .ite .done .last
    · exact .done

instance requireQuantifiable_spends (quantified : Bool) :
    Spends l 0 (requireQuantifiable quantified) where
  affords := .next fun _ ↦ .ite .last .done

instance builtin_spends : Spends l 0 builtin where
  affords := .verbatim <| .next fun _ ↦ .next fun _ ↦ .next fun _ ↦ .last

variable {self : Readers} [self.Thrifty l]

instance (plus : Bool) : Spends l 0 (self (.type plus)) := ⟨Readers.Thrifty.affords _⟩
instance (style : BoundStyle) : Spends l 0 (self (.bound style)) := ⟨Readers.Thrifty.affords _⟩
instance (structs : Bool) : Spends l 0 (self (.expression structs)) := ⟨Readers.Thrifty.affords _⟩
instance (structs : Bool) : Spends l 0 (self (.operand structs)) := ⟨Readers.Thrifty.affords _⟩
instance (left : Node) (structs : Bool) (base : Precedence) :
    Spends l (marks l left) (self (.operators left structs base)) := ⟨Readers.Thrifty.affords _⟩
instance : Spends l 0 (self .leading) := ⟨Readers.Thrifty.affords _⟩
instance : Spends l 0 (self .pattern) := ⟨Readers.Thrifty.affords _⟩
instance : Spends l 0 (self .statements) := ⟨Readers.Thrifty.affords _⟩
instance : Spends l 0 (self .item) := ⟨Readers.Thrifty.affords _⟩

/-! ### Attributes and blocks -/

instance attributeInside_spends : Spends l 0 (attributeInside self) where
  affords := .next fun _ ↦ by
    extract_lets jp
    have hjp (p : Node) : Affords l (marks l p) (jp p) := by
      refine .when (.next fun _ ↦ .done) <| .when (.next fun _ ↦ .ahead? fun _ ↦ ?_) .done
      split
      · exact .next fun _ ↦ .done
      · exact .when .fail (.next fun _ ↦ .done)
    exact .ite (.next fun _ ↦ .value <| (hjp _).mono)
      (.next fun _ ↦ (hjp _).mono)

instance outerAttribute_spends : Spends l 0 (outerAttribute self) where
  affords := .next fun _ ↦ .bind (.groupOf <| .next fun _ ↦ .done) fun _ ↦ .done

instance innerAttribute_spends : Spends l 0 (innerAttribute self) where
  affords := .next fun _ ↦ .next fun _ ↦ .bind (.groupOf <| .next fun _ ↦ .done) fun _ ↦ .done

instance outerAttributes_spends : Spends l 0 (outerAttributes self) where
  affords := .parts <| .when (.next fun _ ↦ .done) .done

instance innerAttributes_spends : Spends l 0 (innerAttributes self) where
  affords := .parts <| .when (.next fun _ ↦ .done) .done

/-- The group of a block holds a sequence. -/
theorem bracedStatements_answers (h : Answers (fun n : Node ↦ n.isList = true) (self .statements)) :
    Answers (fun n : Node ↦ ∃ s, n = .group .brace [s] ∧ s.isList = true)
      (Reader.groupOf .brace do return [← self .statements]) :=
  .bindAs (Q := fun ns ↦ ∃ s : Node, ns = [s] ∧ s.isList = true)
    (.inGroup <| .bindAs h fun s hs ↦ .pure ⟨s, rfl, hs⟩)
    fun _ ⟨s, hns, hs⟩ ↦ .pure ⟨s, hns ▸ rfl, hs⟩

instance plainBlock_spends : Spends l 0 (plainBlock self) where
  affords := .nextAs (bracedStatements_answers (Readers.Thrifty.statements l))
    (.groupOf <| .next fun _ ↦ .done) fun _ ⟨s, hgroup, hs⟩ ↦ .pure (by simp [hgroup, hs])

theorem plainBlock_answers : Answers (fun n : Node ↦ n.is .block = true) (plainBlock self) :=
  .bind fun _ ↦ .pure rfl

theorem attributedBraces_affords {r : Reader Node} (hr : Affords l 0 r) :
    Affords l 0 (attributedBraces self r) :=
  .inGroup <| .next fun _ ↦ hr.bind fun _ ↦ .done

theorem attributedBraces_answers {P : Node → Prop} {r : Reader Node} (hr : Answers P r) :
    Answers (fun p : Node × Node ↦ ∃ s, p.2 = .group .brace [s] ∧ P s) (attributedBraces self r) :=
  .inGroup <| .bind fun _ ↦ .bindAs hr fun s hs ↦ .pure ⟨s, rfl, hs⟩

instance attributedBlock_spends : Spends l 0 (attributedBlock self) where
  affords := .nextAs (attributedBraces_answers (Readers.Thrifty.statements l))
    (attributedBraces_affords (Readers.Thrifty.affords _)) fun _ ⟨s, hgroup, hs⟩ ↦
      .pure (by simp [hgroup, hs])

theorem attributedBlock_answers :
    Answers (fun p : Node × Node ↦ p.2.is .block = true) (attributedBlock self) :=
  .bind fun _ ↦ .pure rfl

/-! ### Generic arguments -/

instance constArgument_spends : Spends l 0 (constArgument self) where
  affords := .when (.next fun _ ↦ .done) <| .when (.next fun _ ↦ .done) <|
    .when (.nextAs attributedBlock_answers (attributedBlock_spends).affords fun _ hblock ↦
      .pure (by simp [hblock])) <|
    .get fun _ ↦ by
      split
      · exact .last
      · exact .get fun _ ↦ .last

instance paramBound_spends : Spends l 0 (paramBound self) :=
  inferInstanceAs (Spends l 0 (self _))

instance bounds_spends (done : Probe) : Spends l 0 (bounds self done) :=
  sum_spends done

instance genericArgument_spends : Spends l 0 (genericArgument self) where
  affords := .when (.next fun _ ↦ .done) <| .when (.next fun _ ↦ .done) <| .next fun _ ↦ by
    split
    · exact .done
    · next hlone =>
      have hmarks := marks_of_loneSegment? (l := l) hlone
      exact .when
        (.next fun _ ↦ .when (.next fun _ ↦ .done) (.next fun _ ↦ .done))
        (.when (.next fun _ ↦ .next fun _ ↦ .done) .done)

instance angleArguments_spends (colons : Node) :
    Spends l (marks l colons) (angleArguments self colons) where
  affords := .next fun _ ↦ .next fun _ ↦ .next fun _ ↦ .done

instance returns_spends (plus : Bool) : Spends l 0 (returns self plus) where
  affords := .when (.next fun _ ↦ .next fun _ ↦ .done) .done

instance parenArguments_spends : Spends l 0 (parenArguments self) where
  affords := .bind (.groupOf <| .next fun _ ↦ .done) fun _ ↦ .next fun _ ↦ .done

/-! ### Paths -/

instance segment_spends (exprStyle : Bool) : Spends l 0 (segment self exprStyle) where
  affords := .when (.next fun _ ↦ .done) <| .next fun _ ↦ by
    extract_lets _ jp
    have hjp (n : Node) : Affords l (marks l n) (jp n) :=
      .next fun _ ↦ .next fun _ ↦ .ite
        (.next fun _ ↦ .give fun _ ↦ .done) .done
    exact .ite (.next fun _ ↦ (hjp _).mono) (.next fun _ ↦ (hjp _).mono)

instance moreSegments_spends (exprStyle : Bool) : Spends l 0 (moreSegments self exprStyle) where
  affords := .repeatNodes <| .when (.next fun _ ↦ .next fun _ ↦ .done) .done

instance path_spends (exprStyle : Bool) : Spends l 0 (path self exprStyle) where
  affords := .next fun _ ↦ .next fun _ ↦ .next fun _ ↦ .done

instance qualifiedPath_spends (exprStyle : Bool) : Spends l 0 (qualifiedPath self exprStyle) where
  affords := .when
    (.next fun lt ↦ .next fun ty ↦ .next fun as_ ↦ by
      extract_lets jp
      have hjp (p : Node) :
          Affords l (marks l lt + marks l ty + marks l as_ + marks l p) (jp p) :=
        .next fun _ ↦ .next fun _ ↦ .next fun _ ↦
          .bind (.repeatNodes <| .when (.next fun _ ↦ .next fun _ ↦ .done) .done) fun _ ↦ .done
      exact .ite (.value <| (hjp _).mono) (.next fun _ ↦ (hjp _).mono))
    .last

/-! ### Lifetimes and bounds -/

instance typeParam_spends (attrs n : Node) :
    Spends l (marks l attrs + marks l n) (typeParam self attrs n) where
  affords := .next fun colon ↦ by
    extract_lets jp
    have hjp (bs : Node) :
        Affords l (marks l attrs + marks l n + marks l colon + marks l bs) (jp bs) := by
      have hcolon := marks_colonFor (l := l) colon bs
      exact .next fun _ ↦ .ite (.value .done) (.next fun _ ↦ .done)
    exact .ite (.value <| (hjp _).mono) (.next fun _ ↦ (hjp _).mono)

instance constParam_spends (attrs : Node) : Spends l (marks l attrs) (constParam self attrs) where
  affords := .next fun _ ↦ .next fun _ ↦ .next fun _ ↦ .next fun _ ↦ .next fun _ ↦
    .ite (.value .done) (.next fun _ ↦ .done)

instance quantifiedParam_spends : Spends l 0 (quantifiedParam self) where
  affords := .next fun _ ↦ .when (.next fun _ ↦ .last) <| .when .last <| .when .last .last

instance forLifetimes?_spends : Spends l 0 (forLifetimes? self) where
  affords := .when (.next fun _ ↦ .next fun _ ↦ .next fun _ ↦ .next fun _ ↦ .done) .done

instance traitPath_spends : Spends l 0 (traitPath self) where
  affords := .next fun p ↦ .next fun _ ↦ .ite
    (.next fun _ ↦ .next fun args ↦
      have hle := marks_withLastArguments (l := l) args p
      .done)
    .done

instance traitBound_spends (style : BoundStyle) : Spends l 0 (traitBound self style) where
  affords := .next fun lifetimes ↦ .next fun _ ↦ .next fun maybe ↦ by
    extract_lets jp
    have hjp (ls : Node) : Affords l (marks l maybe + marks l ls) (jp ls) :=
      .next fun _ ↦ .next fun _ ↦ .ite .done .done
    exact .ite (.next fun _ ↦ (hjp _).mono) (.value <| (hjp _).mono)

instance bound_spends (style : BoundStyle) : Spends l 0 (bound self style) where
  affords := .when (.next fun _ ↦ .done) <| .next fun _ ↦ by
    extract_lets jp
    have hjp (u : Unit) : Affords l 0 (jp u) := by
      refine .bind (.taking <| .when (.bind (.inGroup <| .last) fun found ↦ ?_) .last) fun found ↦ ?_
      · cases found <;> exact .done
      · rcases found with ⟨_ | t, trees⟩ <;> exact .done
    exact .ite
      (.get fun _ ↦ .next fun _ ↦ .next fun _ ↦ .next fun _ ↦ .get fun _ ↦ .next fun _ ↦
        .ite .done .failAt)
      ((hjp ()).mono)

instance turbofish_spends : Spends l 0 (turbofish self) where
  affords := .next fun _ ↦ .last

instance typeBounds_spends (style : BoundStyle) (plus : Bool) :
    Spends l 0 (typeBounds self style plus) where
  affords := .parts <| .next fun _ ↦ .next fun _ ↦ .ite .done <|
    .next fun _ ↦ .next fun _ ↦ .next fun _ ↦ .done

instance generics_spends : Spends l 0 (generics self) where
  affords := .next fun _ ↦ .ite .done <| .next fun _ ↦
    .bind (.separated <| .next fun _ ↦ .when .last <| .when (.next fun _ ↦ .last) <|
      .when .last <| .when (.next fun _ ↦ .done) .last) fun _ ↦
    .next fun _ ↦ .ite .done .done

instance whereClause_spends : Spends l 0 (whereClause self) where
  affords := .next fun _ ↦ .ite .done <| .next fun _ ↦ .next fun _ ↦ .ite .fail <|
    .bind (.parts <| .when .done <| .next fun _ ↦ by
      extract_lets jp
      have hjp (p : Node) : Affords l (marks l p) (jp p) := .when (.next fun _ ↦ .done) .done
      exact .ite
        (.next fun _ ↦ .next fun _ ↦ .bind (.sum <| .next fun _ ↦ .done) fun _ ↦
          .value <| (hjp _).mono)
        (.next fun _ ↦ .next fun _ ↦ .next fun _ ↦ .next fun _ ↦
          .value <| (hjp _).mono)) fun _ ↦
    .ite .done .done

/-! ### Types -/

instance bareFnArg_spends (first : Bool) (attrs : Node) :
    Spends l (marks l attrs) (bareFnArg self first attrs) where
  affords := .next fun _ ↦ .ite
    (.bind (.verbatim <| .next fun _ ↦ .next fun _ ↦ .when (.next fun _ ↦ .next fun _ ↦ .done) .done)
      fun _ ↦ .done)
    (.when
      (.get fun _ ↦ .next fun _ ↦ .next fun _ ↦ .next fun _ ↦ .next fun _ ↦ .ite
        (.next fun _ ↦ .next fun _ ↦ .next fun _ ↦ .done)
        (.next fun _ ↦ .done))
      (.next fun _ ↦ .done))

instance nextBareFnArg_spends (first : Bool) : Spends l 0 (nextBareFnArg self first) where
  affords := .next fun _ ↦ .ite .done <| .next fun attrs ↦ .when
    (.next fun _ ↦ by
      extract_lets jp
      have hjp (n : Node) : Affords l (marks l attrs + marks l n) (jp n) :=
        .ite (.value <| .next fun _ ↦ .next fun _ ↦ .done)
          (.next fun _ ↦ .next fun _ ↦ .next fun _ ↦ .done)
      exact .ite (.value <| (hjp _).mono) (.next fun _ ↦ (hjp _).mono))
    (.give fun _ ↦ .next fun _ ↦ .ite .done (.next fun _ ↦ .done))

instance bareFnArgs_spends : Spends l 0 (bareFnArgs self) where
  affords := .get fun _ ↦ .parts <| .get fun _ ↦ .last

instance typeBareFn_spends (lifetimes : Node) :
    Spends l (marks l lifetimes) (typeBareFn self lifetimes) where
  affords := .next fun _ ↦ .next fun _ ↦ .next fun _ ↦ .next fun _ ↦
    .bind (.groupOf <| .next fun _ ↦ .done) fun _ ↦ .next fun _ ↦
      .pure (by simp; split <;> omega)

instance plusBounds_spends (first : Node) : Spends l (marks l first) (plusBounds self first) where
  affords := .bind (.repeatNodes <| .when (.next fun _ ↦ .next fun _ ↦ .done) .done) fun _ ↦ .done

instance typeInParens_spends (plus : Bool) : Spends l 0 (typeInParens self plus) where
  affords := by
    refine .bind (.inGroup <| .next fun _ ↦ .ite .done <|
      .when (.get fun _ ↦ .next fun _ ↦ .next fun _ ↦ .done) <| .when (.next fun found ↦ ?_) <|
      .next fun _ ↦ .when (.next fun _ ↦ .next fun rest ↦ ?_) .done) fun found ↦ ?_
    · cases found with
      | some b => exact .done
      | none => exact .fail
    · have hchildren := marks_children (l := l) rest
      exact .done
    · cases found with
      | done t => exact .done
      | bound b => exact .last
      | single first =>
        refine .next fun _ ↦ ?_
        split
        · next hbound =>
          have hmarks := marks_of_boundOfType? (l := l) hbound
          exact .ite (.last (by simp [hmarks])) .done
        · exact .done

instance boundsFromPath_spends (plus : Bool) (lifetimes p : Node) :
    Spends l (marks l lifetimes + marks l p) (boundsFromPath self plus lifetimes p) where
  affords := .ite .done <|
    .bind (.repeatNodes <| .next fun _ ↦ .ite .done <| .next fun _ ↦
      .when (.next fun _ ↦ .done) .done) fun _ ↦ .done

instance typeFromPath_spends (plus : Bool) (lifetimes : Node) :
    Spends l (marks l lifetimes) (typeFromPath self plus lifetimes) where
  affords := .next fun _ ↦ .ite .done <| .next fun _ ↦
    .ite (.next fun _ ↦ .bind unreadGroup_keeps fun _ ↦ .done) <| .next fun _ ↦ .ite .last .done

instance type_spends (plus : Bool) : Spends l 0 (type self plus) where
  affords := .next fun _ ↦ .next fun _ ↦ .next fun _ ↦ .when .last <| .when .last <|
    .when .last <| .when .last <|
    .when (.get fun _ ↦ .bind (.taking <| .next fun _ ↦ .next fun _ ↦ .next fun _ ↦
      .next fun _ ↦ .done) fun ⟨⟨_, _, _⟩, _⟩ ↦ .ite .done .done) <|
    .when (.inGroup <| .next fun _ ↦ .when (.next fun _ ↦ .next fun _ ↦ .done) .done) <|
    .when (.next fun _ ↦ .next fun _ ↦ .ite (.next fun _ ↦ .next fun _ ↦ .done) .fail) <|
    .when (.next fun _ ↦ .next fun _ ↦ .next fun _ ↦ .next fun _ ↦ .done) <|
    .when (.next fun _ ↦ .done) <|
    .when (.get fun _ ↦ .next fun _ ↦ .next fun _ ↦ .next fun _ ↦ .done) <|
    .when (.next fun _ ↦ .done) <|
    .when (.get fun _ ↦ .next fun _ ↦ .next fun _ ↦ .done) .last

end Grammar

end RenderTrace.Syntax
