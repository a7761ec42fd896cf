import RenderTrace.Proofs.Syntax.Places.Expression

/-!
# The places that items spend
-/

namespace RenderTrace.Syntax.Grammar

open Marked

variable {l : Location}

/-! ### Parts of items -/

theorem orVerbatim_affords {r : Reader (Option Node)} (hr : Affords l 0 r) :
    Affords l 0 (orVerbatim r) :=
  .bind (.taking hr) fun ⟨found, _⟩ ↦ by
    cases found with
    | some n => exact .done
    | none => exact .done

instance restricted?_spends : Spends l 0 restricted? where
  affords := by
    refine .bind (.inGroup <| .when (.next fun _ ↦ .next fun _ ↦ .ite .done .done) <|
      .when (.next fun _ ↦ .next fun _ ↦ .done) .done) fun found ↦ ?_
    cases found with
    | some parts => exact .done
    | none => exact .done

instance visibility_spends : Spends l 0 visibility where
  affords := .next fun _ ↦ .ite .done <| .next fun _ ↦ .when
    (.ahead fun found ↦ by
      cases found with
      | none => exact .done
      | some _ =>
        refine .next fun found ↦ ?_
        cases found with
        | some g => exact .done
        | none => exact .done)
    .done

instance commaUnlessEnd_spends : Spends l 0 commaUnlessEnd where
  affords := .next fun _ ↦ .ite .done .last

instance semicolonAfter_spends (delimited : Node) : Spends l 0 (semicolonAfter delimited) where
  affords := by
    unfold semicolonAfter
    split
    · exact .done
    · exact .last

instance memberMacro_spends (attrs : Node) : Spends l (marks l attrs) (memberMacro attrs) where
  affords := .next fun _ ↦ .next fun _ ↦ .bind unreadGroup_keeps fun _ ↦ .next fun _ ↦ .done

instance constantName_spends : Spends l 0 constantName where
  affords := .when .last .last

variable {self : Readers} [self.Thrifty l]

instance receiver_spends (attrs : Node) : Spends l (marks l attrs) (receiver self attrs) where
  affords := .next fun amp ↦ by
    extract_lets jp
    have hjp (lt : Node) : Affords l (marks l attrs + marks l amp + marks l lt) (jp lt) :=
      .next fun mut_ ↦ .next fun self_ ↦ .next fun _ ↦ .ite .fail <| by
        extract_lets jp
        have hjp (colon : Node) : Affords l
            (marks l attrs + marks l amp + marks l lt + marks l mut_ + marks l self_ +
              marks l colon) (jp colon) :=
          .ite (.value .done) (.next fun _ ↦ .done)
        exact .ite (.next fun _ ↦ (hjp _).mono) (.value <| (hjp _).mono)
    exact .ite (.value <| (hjp _).mono) (.next fun _ ↦ (hjp _).mono)

/-- What is put in the place of a pattern that is missing has no marks. -/
theorem marks_wild (span : Span) : marks l (Node.token .word "_" span) = 0 := by
  change Node.marks l _ = 0
  simp [Node.marks, Node.isName, Node.isBar]

instance parameter_spends : Spends l 0 (parameter self) where
  affords := .next fun attrs ↦ .when (.next fun _ ↦ .next fun _ ↦ .done) <|
    .bindWith (.attempt? (receiver_spends attrs).affords) (by omega) fun found ↦ by
      cases found with
      | some r => exact .done
      | none =>
        exact .when
          (.get fun _ ↦ .next fun _ ↦
            .pure (by simp [marks_wild, marks_operator]))
          (.next fun _ ↦ .next fun _ ↦ .when (.next fun _ ↦ .next fun _ ↦ .done)
            (.next fun _ ↦ .done))

theorem more_affords (fuel : Nat) (before : List Node) :
    Affords l (marks l before) (parameters.more self fuel before) := by
  induction fuel generalizing before with
  | zero => exact .done
  | succ fuel ih =>
    refine .next fun _ ↦ .ite .done <| .next fun p ↦ ?_
    have hrest (u : Unit) : Affords l (marks l before + marks l p)
        (do
          let done ← Reader.atEnd
          if p.is .variadic || done then return before ++ [p]
          parameters.more self fuel (before ++ [p, ← Reader.op ","])) :=
      .next fun _ ↦ .ite .done (.next fun _ ↦ (ih _).mono)
    split
    · exact .ite .failAt <| .ite .failAt <| (hrest ()).mono
    · exact .value <| (hrest ()).mono

instance parameters_spends : Spends l 0 (parameters self) where
  affords := .get fun _ ↦ .bindWith (more_affords _ []) (by simp) fun _ ↦ .done

instance signature_spends (safe : Bool) : Spends l 0 (signature self safe) where
  affords := .next fun const_ ↦ .next fun async_ ↦ .next fun unsafe_ ↦ by
    extract_lets jp
    have hjp (safe_ : Node) :
        Affords l (marks l const_ + marks l async_ + marks l unsafe_) (jp safe_) :=
      .next fun _ ↦ .next fun _ ↦ .nextAs name_answers (name_spends).affords fun n hn ↦
        .next fun _ ↦ .bind (.groupOf <| .next fun _ ↦ .done) fun _ ↦ .next fun _ ↦ .next fun _ ↦
          .ite .done (.pure (by simp [hn]; omega))
    exact .ite (.next fun _ ↦ (hjp _).mono) (.value <| (hjp _).mono)

omit [self.Thrifty l] in
/-- What is answered is a signature; without the word for it there is always one. -/
theorem signature_answers (safe : Bool) : Answers (fun found : Option Node ↦
    (∀ sig ∈ found, sig.is .signature = true) ∧ (safe = false → found.isSome = true))
    (signature self safe) := by
  refine .bind fun _ ↦ .bind fun _ ↦ .bind fun _ ↦ ?_
  extract_lets jp
  have hjp (safe_ : Node) (hsafe : safe = false → safe_.isAbsent = true) :
      Answers (fun found : Option Node ↦ (∀ sig ∈ found, sig.is .signature = true) ∧
        (safe = false → found.isSome = true)) (jp safe_) := by
    refine .bind fun _ ↦ .bind fun _ ↦ .bind fun _ ↦ .bind fun _ ↦ .bind fun _ ↦ .bind fun _ ↦
      .bind fun _ ↦ ?_
    split
    · next hpresent => exact .pure ⟨nofun, fun hno ↦ by simp [hsafe hno] at hpresent⟩
    · refine .pure ⟨?_, fun _ ↦ rfl⟩
      rintro sig hsig
      obtain rfl := Option.some.inj hsig
      rfl
  split
  · next hmarked => exact .bind fun safe_ ↦ hjp safe_ fun hno ↦ by simp [hno] at hmarked
  · exact .bindAs (Q := fun n : Node ↦ n.isAbsent = true) (.pure rfl) fun n hn ↦ hjp n fun _ ↦ hn

instance plainSignature_spends : Spends l 0 (plainSignature self) where
  affords := .next fun found ↦ by
    cases found with
    | some sig => exact .done
    | none => exact .done

omit [self.Thrifty l] in
theorem plainSignature_answers :
    Answers (fun sig : Node ↦ sig.is .signature = true) (plainSignature self) :=
  .bindAs (signature_answers false) fun found ⟨hfound, hsome⟩ ↦ .pure <| by
    obtain ⟨sig, rfl⟩ := Option.isSome_iff_exists.1 (hsome rfl)
    exact hfound sig rfl

/-! ### Type aliases -/

instance : Marked Alias where
  marks l a := marks l [a.visibility, a.default_, a.keyword, a.name, a.generics, a.colon, a.bounds,
    a.conditions, a.eq, a.type, a.semi]

theorem marks_alias (a : Alias) : marks l a = marks l [a.visibility, a.default_, a.keyword, a.name,
    a.generics, a.colon, a.bounds, a.conditions, a.eq, a.type, a.semi] := rfl

instance boundsUntil_spends (style : BoundStyle) (stop : Probe) :
    Spends l 0 (boundsUntil self style stop) :=
  separated_spends stop "+"

instance boundsBehind_spends (colon : Node) (stop : Probe) :
    Spends l 0 (boundsBehind self colon stop) where
  affords := .ite .done .last

instance typeAlias_spends (default_ : Bool) (place : WherePlace) :
    Spends l 0 (typeAlias self default_ place) where
  affords := .next fun vis ↦ by
    extract_lets jp
    have hjp (default_ : Node) : Affords l (marks l vis + marks l default_) (jp default_) :=
      .next fun word ↦ .next fun n ↦ .next fun g ↦ .next fun colon ↦ .next fun bs ↦
        .next fun _ ↦ by
        extract_lets _ jp
        have hjp (before : Node) : Affords l (marks l [vis, default_, word, n, g, colon, bs, before])
            (jp before) := .next fun eq ↦ by
          extract_lets jp
          have hjp (ty : Node) :
              Affords l (marks l [vis, default_, word, n, g, colon, bs, before, eq, ty]) (jp ty) :=
            .ite
              (.next fun _ ↦ .next fun _ ↦ .pure (by simp [marks_alias]; split <;> omega))
              (.value <| .next fun _ ↦ .pure (by
                simp [marks_alias]
                split <;> (try simp) <;> omega))
          exact .ite (.value <| (hjp _).mono)
            (.next fun _ ↦ (hjp _).mono)
        exact .ite (.next fun _ ↦ (hjp _).mono)
          (.value <| (hjp _).mono)
    exact .ite (.next fun _ ↦ (hjp _).mono) (.value <| (hjp _).mono)

/-! ### Fields -/

theorem fieldsNamedWith_affords {nested : Reader Node} (hnested : Affords l 0 nested) :
    Affords l 0 (fieldsNamedWith self nested) := by
  refine .bind (.groupOf <| .bind (.separated <| .next fun attrs ↦ .next fun vis ↦
    .next fun _ ↦ ?_) fun _ ↦ .done) fun _ ↦ .done
  extract_lets _ jp
  have hjp (n : Node) : Affords l (marks l attrs + marks l vis + marks l n) (jp n) :=
    .next fun _ ↦ .next fun _ ↦ .ite
      (.bind (.verbatim <| .next fun _ ↦ hnested.mono (Nat.zero_le _)) fun _ ↦ .done)
      (.next fun _ ↦ .done)
  exact .ite (.next fun _ ↦ (hjp _).mono) (.next fun _ ↦ (hjp _).mono)

theorem fieldsNamedLevel_affords (depth : Nat) : Affords l 0 (fieldsNamedLevel self depth) := by
  induction depth with
  | zero => exact (fail_spends _).affords
  | succ depth ih => exact fieldsNamedWith_affords ih

instance fieldsNamed_spends : Spends l 0 (fieldsNamed self) where
  affords := .get fun _ ↦ fieldsNamedLevel_affords _

instance fieldsUnnamed_spends : Spends l 0 (fieldsUnnamed self) where
  affords := .bind (.groupOf <| .bind (.separated <| .next fun _ ↦ .next fun _ ↦ .next fun _ ↦
    .done) fun _ ↦ .done) fun _ ↦ .done

instance variant_spends : Spends l 0 (variant self) where
  affords := .next fun attrs ↦ .next fun _ ↦ .next fun n ↦ .next fun _ ↦ .next fun _ ↦ by
    extract_lets jp
    have hjp (fields : Node) : Affords l (marks l attrs + marks l n + marks l fields) (jp fields) :=
      .next fun _ ↦ .ite (.value .done) (.next fun _ ↦ .done)
    exact .ite (.next fun _ ↦ (hjp _).mono) <|
      .ite (.next fun _ ↦ (hjp _).mono) (.value <| (hjp _).mono)

/-! ### Imports -/

omit [self.Thrifty l] in
theorem useTreeWith_affords {again inner : Reader (Option Node)} (hagain : Affords l 0 again)
    (hinner : Affords l 0 inner) (root : Bool) : Affords l 0 (useTreeWith again inner root) := by
  refine .when
    (.next fun _ ↦ .when
      (.next fun _ ↦ .bind hinner fun rest ↦ ?_)
      (.when (.next fun _ ↦ .when (.next fun _ ↦ .done) .fail) .done)) <|
    .when (.next fun _ ↦ .done) <|
    .when (.inGroup <| .bind (.repeatNodes <| .next fun _ ↦ .ite .done ?_) fun _ ↦ .ite .done .done)
      .last
  · cases rest with
    | some t => exact .done
    | none => exact .done
  · extract_lets jp
    have hjp (rooted : Bool) : Affords l 0 (jp rooted) := by
      have hrest (t : Option Node) : marks l ((if rooted = true then none else t).getD .absent) ≤
          marks l t := by
        cases rooted <;> cases t <;> simp
      exact .ite (.bind hinner fun t ↦ .next fun _ ↦ .ite (.pure (by simp [hrest t]))
          (.next fun _ ↦ .pure (by simpa using hrest t)))
        (.bind hagain fun t ↦ .next fun _ ↦ .ite (.pure (by simp [hrest t]))
          (.next fun _ ↦ .pure (by simpa using hrest t)))
    exact .ite (.next fun _ ↦ .value <| (hjp _).mono) (.value <| (hjp _).mono)

theorem useTreeLevel_affords (depth : Nat) (root : Bool) :
    Affords l 0 (useTreeLevel depth root) := by
  induction depth generalizing root with
  | zero => exact (fail_spends _).affords
  | succ depth ih => exact useTreeWith_affords (ih root) (ih false) root

instance useTree_spends (root : Bool) : Spends l 0 (useTree root) where
  affords := .get fun _ ↦ useTreeLevel_affords _ root

/-! ### Members -/

theorem marks_joinAttributes (outer inner : Node) :
    marks l (joinAttributes outer inner) ≤ marks l outer + marks l inner := by
  have houter := marks_children (l := l) outer
  have hinner := marks_children (l := l) inner
  simp [joinAttributes]
  omega

instance members_spends {member : Reader Node} [h : Spends l 0 member] :
    Spends l 0 (members self member) :=
  ⟨attributedBraces_affords h.affords.untilEnd⟩

instance constantRest_spends (needsValue : Bool) : Spends l 0 (constantRest self needsValue) where
  affords := .next fun _ ↦ .next fun _ ↦ .next fun colon ↦ .next fun ty ↦ .next fun eq ↦ by
    extract_lets jp
    have hjp (value : Node) :
        Affords l (marks l colon + marks l ty + marks l eq + marks l value) (jp value) :=
      .next fun _ ↦ .next fun _ ↦ .next fun _ ↦ .ite .done .done
    exact .ite (.value <| (hjp _).mono)
      (.next fun _ ↦ (hjp _).mono)

instance implItem_spends : Spends l 0 (implItem self) where
  affords := orVerbatim_affords <| .next fun attrs ↦ .next fun _ ↦ .ahead fun ⟨_, _⟩ ↦ .ite
    (.next fun _ ↦ .next fun _ ↦ .nextAs plainSignature_answers (plainSignature_spends).affords
      fun _ hsig ↦ .when (.next fun _ ↦ .done) <|
      .nextAs attributedBlock_answers (attributedBlock_spends).affords fun ⟨inner, _⟩ hblock ↦
        have hle := marks_joinAttributes (l := l) attrs inner
        .pure (by simp at hblock; simp [hsig, hblock]; omega)) <| .ite
    (.next fun vis ↦ by
      extract_lets jp
      have hjp (default_ : Node) :
          Affords l (marks l attrs + marks l vis + marks l default_) (jp default_) :=
        .next fun _ ↦ .next fun _ ↦ .next fun parts ↦ by
          cases parts with
          | some parts => exact .done
          | none => exact .done
      exact .ite (.next fun _ ↦ (hjp _).mono) (.value <| (hjp _).mono)) <| .ite
    (.next fun a ↦ .ite .done (.pure (by simp [marks_alias]; omega))) <| .ite
    (.give fun _ ↦ .done) <|
    .next fun _ ↦ .ite (.next fun _ ↦ .fail) .last

instance traitMethod_spends (attrs : Node) : Spends l (marks l attrs) (traitMethod self attrs) where
  affords := .nextAs plainSignature_answers (plainSignature_spends).affords fun _ hsig ↦ .when
    (.nextAs attributedBlock_answers (attributedBlock_spends).affords fun ⟨inner, _⟩ hblock ↦
      have hle := marks_joinAttributes (l := l) attrs inner
      .pure (by simp at hblock; simp [hsig, hblock]; omega)) <|
    .when (.next fun _ ↦
      have habsent : Node.absent.isAbsent = true := rfl
      .pure (by simp [hsig, habsent]; omega)) .last

instance traitItem_spends : Spends l 0 (traitItem self) where
  affords := orVerbatim_affords <| .next fun attrs ↦ .next fun _ ↦ .next fun _ ↦ by
    extract_lets plain keep
    have hkeep (n : Node) : marks l (keep n) ≤ marks l n := by
      cases hplain : plain <;> simp [keep, hplain]
    refine .get fun _ ↦ ?_
    extract_lets rest jp
    have hjp (u : Unit) : Affords l (marks l attrs) (jp u) :=
      .ite
        (.next fun a ↦
          have hcolon := marks_colonFor (l := l) a.colon a.bounds
          .pure (Nat.le_trans (hkeep _) (by simp [marks_alias]; omega))) <|
      .ite (.give fun _ ↦ .done) .last
    refine .ite (.give fun n ↦ .pure (Nat.le_trans (hkeep n) (by omega))) <| .ite
      (.ite (.next fun _ ↦ .next fun _ ↦ .next fun parts ↦ ?_) <|
        .ite (.give fun n ↦ .pure (Nat.le_trans (hkeep n) (by omega))) <| .next fun _ ↦ .fail)
      (hjp ()).mono
    cases parts with
    | some parts => exact .pure (Nat.le_trans (hkeep _) (by simp; omega))
    | none => exact .done

instance foreignItem_spends : Spends l 0 (foreignItem self) where
  affords := orVerbatim_affords <| .next fun attrs ↦ .next fun _ ↦ .ahead fun _ ↦ .ite
    (.next fun _ ↦ .nextAs (signature_answers true) (signature_spends true).affords
      fun sig ⟨hsig, _⟩ ↦ .when (.next fun ⟨_, _⟩ ↦ .done) <| .next fun _ ↦ by
      cases sig with
      | some sig => exact .pure (by simp [hsig sig rfl]; omega)
      | none => exact .done) <| .ite
    (.next fun vis ↦ .next fun _ ↦ by
      extract_lets jp
      have hjp (safe_ : Node) : Affords l (marks l attrs + marks l vis) (jp safe_) :=
        .next fun _ ↦ .next fun _ ↦ .next fun _ ↦ .next fun _ ↦ .next fun _ ↦ .next fun _ ↦
          .ite (.value <| .next fun _ ↦ .ite .done .done)
            (.next fun _ ↦ .next fun _ ↦ .ite .done .done)
      exact .ite (.next fun _ ↦ (hjp _).mono) (.value <| (hjp _).mono)) <| .ite
    (.next fun a ↦ .ite .done (.pure (by simp [marks_alias]; omega))) <| .ite
    (.give fun _ ↦ .done) <|
    .next fun _ ↦ .last

/-! ### Items -/

instance functionItem_spends (attrs : Node) :
    Spends l (marks l attrs) (functionItem self attrs) where
  affords := .next fun _ ↦ .nextAs plainSignature_answers (plainSignature_spends).affords
    fun _ hsig ↦ .when (.next fun _ ↦ .done) <|
    .nextAs attributedBlock_answers (attributedBlock_spends).affords fun ⟨inner, _⟩ hblock ↦
      have hle := marks_joinAttributes (l := l) attrs inner
      .pure (by simp at hblock; simp [hsig, hblock]; omega)

instance useItem_spends (attrs : Node) : Spends l (marks l attrs) (useItem attrs) where
  affords := by
    refine .next fun _ ↦ .next fun _ ↦ .next fun _ ↦ .next fun tree ↦ .next fun _ ↦ ?_
    cases tree with
    | some tree => exact .done
    | none => exact .done

instance staticItem_spends (attrs : Node) :
    Spends l (marks l attrs) (staticItem self attrs) where
  affords := .next fun _ ↦ .next fun _ ↦ .next fun _ ↦ .next fun _ ↦ .when
    (.next fun _ ↦ .next fun _ ↦ .next fun _ ↦ .done) <|
    .next fun _ ↦ .next fun _ ↦ .when (.next fun _ ↦ .done) <|
    .next fun _ ↦ .next fun _ ↦ .next fun _ ↦ .done

instance constItem_spends (attrs : Node) : Spends l (marks l attrs) (constItem self attrs) where
  affords := .next fun _ ↦ .next fun _ ↦ .next fun _ ↦ .next fun parts ↦ by
    cases parts with
    | some parts => exact .done
    | none => exact .done

instance modItem_spends (attrs : Node) : Spends l (marks l attrs) (modItem self attrs) where
  affords := .next fun vis ↦ .next fun unsafe_ ↦ .next fun mod_ ↦ .next fun _ ↦ by
    extract_lets jp
    have hjp (n : Node) :
        Affords l (marks l attrs + marks l vis + marks l unsafe_ + marks l mod_ + marks l n)
          (jp n) :=
      .when (.next fun _ ↦ .done) <| .when
        (.next fun ⟨inner, _⟩ ↦
          have hle := marks_joinAttributes (l := l) attrs inner
          .done) .last
    exact .ite (.next fun _ ↦ (hjp _).mono) (.next fun _ ↦ (hjp _).mono)

instance foreignModItem_spends (attrs : Node) :
    Spends l (marks l attrs) (foreignModItem self attrs) where
  affords := .next fun _ ↦ .next fun _ ↦ .ite .fail <| .next fun _ ↦ .next fun ⟨inner, _⟩ ↦
    have hle := marks_joinAttributes (l := l) attrs inner
    .done

instance externCrateItem_spends (attrs : Node) :
    Spends l (marks l attrs) (externCrateItem attrs) where
  affords := .next fun vis ↦ .next fun extern_ ↦ .next fun crate_ ↦ .next fun _ ↦ by
    extract_lets jp
    have hjp (n : Node) :
        Affords l (marks l attrs + marks l vis + marks l extern_ + marks l crate_ + marks l n)
          (jp n) :=
      .when
        (.next fun as_ ↦ .next fun _ ↦ by
          extract_lets jp
          have hjp (alias_ : Node) : Affords l (marks l attrs + marks l vis + marks l extern_ +
              marks l crate_ + marks l n + marks l as_ + marks l alias_) (jp alias_) :=
            .next fun _ ↦ .done
          exact .ite (.next fun _ ↦ (hjp _).mono) (.next fun _ ↦ (hjp _).mono))
        (.next fun _ ↦ .done)
    exact .ite (.next fun _ ↦ (hjp _).mono) (.next fun _ ↦ (hjp _).mono)

instance structItem_spends (attrs : Node) :
    Spends l (marks l attrs) (structItem self attrs) where
  affords := .next fun vis ↦ .next fun struct_ ↦ .next fun n ↦ .next fun g ↦ .next fun _ ↦
    .next fun before ↦ .next fun _ ↦ .ite
      (.next fun _ ↦ .next fun _ ↦ .next fun _ ↦ .when (.next fun _ ↦ .done) .fail) <|
      .when (.next fun _ ↦ .done) <| .when (.next fun _ ↦ .done) .last

instance enumItem_spends (attrs : Node) : Spends l (marks l attrs) (enumItem self attrs) where
  affords := .next fun _ ↦ .next fun _ ↦ .next fun _ ↦ .next fun _ ↦ .next fun _ ↦
    .bind (.groupOf <| .next fun _ ↦ .done) fun _ ↦ .done

instance unionItem_spends (attrs : Node) : Spends l (marks l attrs) (unionItem self attrs) where
  affords := .next fun _ ↦ .next fun _ ↦ .next fun _ ↦ .next fun _ ↦ .next fun _ ↦ .next fun _ ↦
    .done

instance traitRest_spends (attrs : Node) (head : List Node) :
    Spends l (marks l attrs + marks l head) (traitRest self attrs head) where
  affords := .next fun colon ↦ .next fun bs ↦ .next fun _ ↦ .next fun ⟨inner, _⟩ ↦
    have hle := marks_joinAttributes (l := l) attrs inner
    have hcolon := marks_colonFor (l := l) colon bs
    .done

instance markedTraitItem_spends (attrs : Node) :
    Spends l (marks l attrs) (markedTraitItem self attrs) where
  affords := .next fun _ ↦ .next fun _ ↦ .next fun _ ↦ .next fun _ ↦ .next fun _ ↦ .next fun _ ↦
    .last

instance traitItemOrAlias_spends (attrs : Node) :
    Spends l (marks l attrs) (traitItemOrAlias self attrs) where
  affords := .next fun _ ↦ .next fun _ ↦ .next fun _ ↦ .next fun _ ↦ .when .last <|
    .when (.next fun _ ↦ .next fun _ ↦ .next fun _ ↦ .next fun _ ↦ .done) .last

instance constantMark_spends : Spends l 0 constantMark where
  affords := .next fun _ ↦ .ite (.next fun _ ↦ .next fun _ ↦ .done) .done

theorem marks_pathOfType (n : Node) : marks l (pathOfType n) ≤ marks l n := by
  unfold pathOfType
  split
  · split <;> simp
  · simp

instance inherentType_spends (bang ty : Node) :
    Spends l (marks l ty) (inherentType bang ty) where
  affords := by
    unfold inherentType
    split
    · exact .last
    · exact .done

instance implItems_spends (attrs : Node) : Spends l (marks l attrs) (implItems self attrs) where
  affords := .next fun _ ↦ .next fun default_ ↦ .next fun unsafe_ ↦ .next fun impl_ ↦
    .next fun _ ↦ by
    extract_lets jp
    have hjp (g : Node) : Affords l
        (marks l [attrs, default_, unsafe_, impl_, g]) (jp g) := .next fun _ ↦ .next fun _ ↦ by
      extract_lets jp
      have hjp (bang : Node) : Affords l
          (marks l [attrs, default_, unsafe_, impl_, g, bang]) (jp bang) :=
        .next fun first ↦ .next fun forNext ↦ .next fun for_ ↦ by
          extract_lets traitPath kept jp
          have hkept : marks l kept ≤ marks l bang := by
            cases habsent : traitPath.isAbsent <;> simp [kept, habsent]
          have hpath : marks l traitPath ≤ if forNext = true then marks l first else 0 := by
            cases forNext <;> simp [traitPath, marks_pathOfType]
          have hjp (ty : Node) : Affords l
              (marks l [attrs, default_, unsafe_, impl_, g, bang, traitPath, for_, ty]) (jp ty) :=
            .next fun _ ↦ .next fun ⟨inner, _⟩ ↦ .ite .done <|
              have hle := marks_joinAttributes (l := l) attrs inner
              .done
          by_cases hnext : forNext = true
          · rw [if_pos hnext] at hpath ⊢
            exact .next fun _ ↦ (hjp _).mono
          · rw [if_neg hnext] at hpath ⊢
            exact .give fun _ ↦ (hjp _).mono
      exact .ite (.next fun _ ↦ (hjp _).mono) (.value <| (hjp _).mono)
    exact .ite (.next fun _ ↦ (hjp _).mono) (.value <| (hjp _).mono)

instance macroItem_spends (attrs : Node) : Spends l (marks l attrs) (macroItem attrs) where
  affords := .next fun p ↦ .next fun bang ↦ .next fun _ ↦ by
    extract_lets jp
    have hjp (n : Node) :
        Affords l (marks l attrs + marks l p + marks l bang + marks l n) (jp n) :=
      .next fun _ ↦ .next fun _ ↦ .done
    exact .ite (.next fun _ ↦ (hjp _).mono) (.value <| (hjp _).mono)

instance macroDefinition_spends : Spends l 0 macroDefinition where
  affords := .next fun _ ↦ .next fun _ ↦ .next fun _ ↦ .next fun _ ↦ by
    extract_lets jp
    have hjp : Affords l 0 (jp ()) := .when (.next fun _ ↦ .done) .last
    exact .ite (.next fun _ ↦ hjp.mono) hjp.mono

instance externItem_spends (attrs : Node) (rest : List TokenTree) :
    Spends l (marks l attrs) (externItem self attrs rest) where
  affords := .ite .last <| .ite .last <| .ite .last <| .next fun _ ↦ .next fun _ ↦
    .ite (.next fun _ ↦ .fail) .last

instance unsafeItem_spends (attrs : Node) (rest : List TokenTree) :
    Spends l (marks l attrs) (unsafeItem self attrs rest) where
  affords := .ite (.give fun _ ↦ .done) <| .ite .last <| .ite (.give fun _ ↦ .done) <|
    .ite (.give fun _ ↦ .done) <| .next fun _ ↦ .next fun _ ↦ .last

instance itemAfter_spends (attrs : Node) : Spends l (marks l attrs) (itemAfter self attrs) where
  affords := .next fun _ ↦ .ahead fun _ ↦
    .ite .last <| .ite (.give fun _ ↦ .done) <| .ite .last <| .ite .last <| .ite .last <|
    .ite .last <| .ite (.give fun _ ↦ .done) <|
    .ite (.next fun a ↦ .ite .done (.pure (by simp [marks_alias]; omega))) <|
    .ite (.give fun _ ↦ .done) <| .ite (.give fun _ ↦ .done) <| .ite (.give fun _ ↦ .done) <|
    .ite (.give fun _ ↦ .done) <| .ite (.give fun _ ↦ .done) <| .ite .last <| .ite .last <|
    .ite (.give fun _ ↦ .done) <| .next fun _ ↦ .last

instance item_spends : Spends l 0 (item self) where
  affords := orVerbatim_affords <| .next fun _ ↦ .last

end RenderTrace.Syntax.Grammar
