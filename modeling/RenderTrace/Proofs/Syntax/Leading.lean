import RenderTrace.Proofs.Syntax.Places.Reader

/-!
# Expressions where a statement begins

The grammar has two rules for an expression. Where only an expression can stand, operators go on
with whatever was read before them. Where a statement begins, an expression that ends with its own
brace is a statement already, unless a point or a `?` goes on with it: `if a {} else {} - 1` is an
expression in the one place, and two statements in the other.

So an expression is read alike in both places if it does not begin with such a part, or goes on
behind it with a point or a `?` only. Whether it does is told by the tree (`isSevered`), and
`leading_of_expression` says that there is nothing else to it.

The proof takes the reading as an expression apart. What is read without operators is the same for
both rules (`readsBraced`), and all that operators, calls and indices add keeps what was there at
the beginning of the tree (`Continues`, `Cuts`), so that an expression which was cut there is seen
to be.

## Depth

The rules are tied together to some depth, and the two ways to an expression take different numbers
of levels. So what is said here is said of readers to any depth that suffices (`Steady`).
-/

namespace RenderTrace.Syntax

namespace Grammar

open Reader

variable {self : Readers} {c c' c₁ : Cursor} {e e' e'' : Node}

/-! ### What an expression begins with -/

/-- The kinds of expressions that put an operator, arguments or an index behind another one. -/
def goesOnPlainly (k : Kind) : Bool :=
  [Kind.exprAssign, .exprBinary, .exprCall, .exprCast, .exprIndex, .exprRange].contains k

/-- The kinds of expressions that put a point or a `?` behind another one. -/
def goesOnWithPoint (k : Kind) : Bool :=
  [Kind.exprAwait, .exprField, .exprMethodCall, .exprTry].contains k

/-- Whether an expression begins with one that ends with its own brace, and goes on behind this
brace with anything but a point or a `?`. -/
def isSevered : Node → Bool
  | .node k (_ :: left :: _) =>
    (goesOnPlainly k && (isBlockLike left || isSevered left)) ||
      (goesOnWithPoint k && isSevered left)
  | _ => false

/-- An expression begins with another one, and is severed where this one is. -/
structure Continues (e e' : Node) : Prop where
  keeps : isSevered e = true → isSevered e' = true
  notVerbatim : e'.is .verbatim = false

/-- An expression goes on behind another one as no statement does that ends with a brace. -/
structure Cuts (e e' : Node) : Prop extends Continues e e' where
  cuts : isBlockLike e = true → isSevered e' = true

theorem Continues.trans (h : Continues e e') (h' : Continues e' e'') : Continues e e'' :=
  ⟨fun hsevered ↦ h'.keeps (h.keeps hsevered), h'.notVerbatim⟩

theorem Cuts.trans (h : Cuts e e') (h' : Continues e' e'') : Cuts e e'' :=
  ⟨h.toContinues.trans h', fun hblock ↦ h'.keeps (h.cuts hblock)⟩

section

variable {k : Kind} {attrs : Node} {rest : List Node}

theorem cuts_of_goesOnPlainly (hk : goesOnPlainly k = true) :
    Cuts e (.node k (attrs :: e :: rest)) where
  keeps h := by simp [isSevered, hk, h]
  notVerbatim := by cases k <;> first | rfl | cases hk
  cuts h := by simp [isSevered, hk, h]

theorem continues_of_goesOnWithPoint (hk : goesOnWithPoint k = true) :
    Continues e (.node k (attrs :: e :: rest)) where
  keeps h := by simp [isSevered, hk, h]
  notVerbatim := by cases k <;> first | rfl | cases hk

theorem exists_of_is {n : Node} (h : n.is k = true) : ∃ cs, n = .node k cs := by
  cases n with
  | node k' cs =>
    obtain rfl := Option.some.inj (eq_of_beq h)
    exact ⟨cs, rfl⟩
  | _ => cases h

end

/-! ### Operators -/

theorem rangeFrom_cuts (structs : Bool) : Answers (Cuts e) (rangeFrom self structs e) :=
  .bind fun _ ↦ .bind fun _ ↦ .ite (.pure (cuts_of_goesOnPlainly rfl))
    (.bind fun _ ↦ .pure (cuts_of_goesOnPlainly rfl))

/-- The operators behind an expression leave it as it is, or go on with it. -/
theorem operators_cut {depth : Nat} {left : Node} {structs : Bool} {base : Precedence}
    (h : readers depth (.operators left structs base) c = .ok (e, c')) :
    (e = left ∧ c' = c) ∨ Cuts left e := by
  induction depth generalizing left c with
  | zero => exact absurd h fail_ne_ok
  | succ depth ih =>
    have hsame : (pure left : Reader Node) c = .ok (e, c') → (e = left ∧ c' = c) ∨ Cuts left e := by
      intro h
      obtain ⟨rfl, rfl⟩ := pure_eq_ok.1 h
      exact Or.inl ⟨rfl, rfl⟩
    have hmore {left' : Node} {c₁ : Cursor} (hcuts : Cuts left left')
        (h : readers depth (.operators left' structs base) c₁ = .ok (e, c')) :
        (e = left ∧ c' = c) ∨ Cuts left e := by
      rcases ih h with ⟨rfl, -⟩ | hcuts'
      · exact Or.inr hcuts
      · exact Or.inr (hcuts.trans hcuts'.toContinues)
    rw [readers, rule, operators, get_bind] at h
    split at h
    · exact hsame h
    -- a choice of readers can only be split where it is not applied to a cursor
    change StateT.run _ _ = _ at h
    split at h
    · split at h
      · exact hsame h
      split at h
      · obtain ⟨_, _, hfail, -⟩ := bind_eq_ok.1 h
        exact absurd hfail fail_ne_ok
      · obtain ⟨sign, _, -, h⟩ := bind_eq_ok.1 h
        obtain ⟨right, _, -, h⟩ := bind_eq_ok.1 h
        exact hmore (cuts_of_goesOnPlainly rfl) h
    split at h
    · obtain ⟨eq, _, -, h⟩ := bind_eq_ok.1 h
      obtain ⟨right, _, -, h⟩ := bind_eq_ok.1 h
      exact hmore (cuts_of_goesOnPlainly rfl) h
    split at h
    · obtain ⟨range, _, hrange, h⟩ := bind_eq_ok.1 h
      exact hmore (rangeFrom_cuts structs _ _ _ hrange) h
    split at h
    · obtain ⟨as_, _, -, h⟩ := bind_eq_ok.1 h
      obtain ⟨ty, _, -, h⟩ := bind_eq_ok.1 h
      rw [get_bind] at h
      change StateT.run _ _ = _ at h
      split at h
      · exact absurd h fail_ne_ok
      · exact hmore (cuts_of_goesOnPlainly rfl) h
    · exact hsame h

/-! ### Calls, fields, indices -/

/-- A point that does not begin a range comes next, or a `?`. -/
def pointNext : Probe := Probe.any [(Probe.op ".").butNot (Probe.op ".."), Probe.op "?"]

theorem afterPoint_continues (dot : Node) : Answers (Continues e) (afterPoint self e dot) := by
  have hpoint {k : Kind} {rest : List Node} (hk : goesOnWithPoint k = true) :
      Answers (Continues e) (pure (.node k (.list [] :: e :: rest))) :=
    .pure (continues_of_goesOnWithPoint hk)
  refine .bind fun _ ↦ .ite (.bind fun _ ↦ hpoint rfl) (.bind fun m ↦ .bind fun _ ↦ ?_)
  have hmember (args : Node) : Answers (Continues e) (do
      if isNamed m && (!args.isAbsent || (← peek Probe.paren)) then
        return .node .exprMethodCall
          [.list [], e, dot, m, args, ← groupOf .paren do return [← expressionList self]]
      return .node .exprField [.list [], e, dot, m]) :=
    .bind fun _ ↦ .ite (.bind fun _ ↦ hpoint rfl) (hpoint rfl)
  exact .ite (.bind hmember) (.bind hmember)

theorem fractionFields_continues (dot : Node) (span : Span) (t : String) :
    Answers (fun p : Node × Option Node ↦ Continues e p.1) (fractionFields e dot span t) := by
  unfold fractionFields
  extract_lets parts point field
  have hfield (e dot : Node) (part : String) : Answers (Continues e) (field e dot part) :=
    .bind fun _ ↦ .pure (continues_of_goesOnWithPoint rfl)
  clear_value parts
  split
  · exact .bindAs (hfield _ _ _) fun _ hfirst ↦ .pure hfirst
  · exact .bindAs (hfield _ _ _) fun _ hfirst ↦ .pure hfirst
  · exact .bindAs (hfield _ _ _) fun _ hfirst ↦ .bindAs (hfield _ _ _) fun _ hsecond ↦
      .pure (hfirst.trans hsecond)
  · exact nofun

/-- What comes behind an expression goes on with it. -/
theorem trailer?_continues :
    Answers (fun found : Option Node ↦ ∀ e' ∈ found, Continues e e') (trailer? self e) := by
  have hsome {e' : Node} (h : Continues e e') : ∀ e'' ∈ some e', Continues e e'' := by
    rintro _ ⟨⟩
    exact h
  have hnone : ∀ e' ∈ (none : Option Node), Continues e e' := nofun
  refine .bind fun _ ↦ .ite ?_ (.bind fun _ ↦ .ite (.bind fun dot ↦ .bind fun _ ↦ .ite ?_ ?_) ?_)
  · exact .bind fun _ ↦ .pure (hsome (cuts_of_goesOnPlainly rfl).toContinues)
  · refine .bind fun literal ↦ ?_
    split
    · refine .bindAs (fractionFields_continues _ _ _) fun p hp ↦ ?_
      split
      · exact .pure (hsome hp)
      · exact .bindAs (afterPoint_continues _) fun _ hpoint ↦ .pure (hsome (hp.trans hpoint))
    · exact .pure hnone
  · exact .bindAs (afterPoint_continues _) fun _ hpoint ↦ .pure (hsome hpoint)
  · refine .bind fun _ ↦ .ite ?_ (.bind fun _ ↦ .ite ?_ (.pure hnone))
    · exact .bind fun _ ↦ .pure (hsome (cuts_of_goesOnPlainly rfl).toContinues)
    · exact .bind fun _ ↦ .pure (hsome (continues_of_goesOnWithPoint rfl))

/-- Where no point comes next, an expression is called or indexed, or nothing comes behind it. -/
theorem trailer?_of_no_point {found : Option Node} (hpoint : pointNext c.rest = false)
    (h : trailer? self e c = .ok (found, c')) :
    (found = none ∧ c' = c) ∨ ∃ e', found = some e' ∧ Cuts e e' := by
  simp only [pointNext, Probe.any, List.any_cons, List.any_nil, Bool.or_false,
    Bool.or_eq_false_iff] at hpoint
  obtain ⟨hdot, hmark⟩ := hpoint
  rw [trailer?, peek_bind] at h
  split at h
  · obtain ⟨args, _, -, h⟩ := bind_eq_ok.1 h
    obtain ⟨rfl, -⟩ := pure_eq_ok.1 h
    exact Or.inr ⟨_, rfl, cuts_of_goesOnPlainly rfl⟩
  rw [peek_bind, hdot, Bool.and_false, if_neg Bool.false_ne_true, peek_bind] at h
  split at h
  · obtain ⟨index, _, -, h⟩ := bind_eq_ok.1 h
    obtain ⟨rfl, -⟩ := pure_eq_ok.1 h
    exact Or.inr ⟨_, rfl, cuts_of_goesOnPlainly rfl⟩
  · rw [peek_bind, hmark, Bool.and_false, if_neg Bool.false_ne_true] at h
    obtain ⟨rfl, rfl⟩ := pure_eq_ok.1 h
    exact Or.inl ⟨rfl, rfl⟩

theorem extend_continues (fuel : Nat) :
    Answers (fun t ↦ t = e ∨ Continues e t) (trailers.extend self fuel e) := by
  induction fuel generalizing e with
  | zero => exact .pure (Or.inl rfl)
  | succ fuel ih =>
    refine .bindAs trailer?_continues fun found hfound ↦ ?_
    cases found with
    | none => exact .pure (Or.inl rfl)
    | some e' =>
      intro c t c' h
      rcases ih c t c' h with rfl | hmore
      · exact Or.inr (hfound _ rfl)
      · exact Or.inr ((hfound _ rfl).trans hmore)

theorem trailers_continues : Answers (fun t ↦ t = e ∨ Continues e t) (trailers self e) :=
  .bind fun _ ↦ extend_continues _

/-- Where no point comes next, nothing comes behind an expression, or it is cut there. -/
theorem trailers_of_no_point (hpoint : pointNext c.rest = false)
    (h : trailers self e c = .ok (e', c')) : (e' = e ∧ c' = c) ∨ Cuts e e' := by
  rw [trailers, get_bind, trailers.extend] at h
  obtain ⟨found, c₁, htrailer, h⟩ := bind_eq_ok.1 h
  rcases trailer?_of_no_point hpoint htrailer with ⟨rfl, rfl⟩ | ⟨e₁, rfl, hcuts⟩
  · obtain ⟨rfl, rfl⟩ := pure_eq_ok.1 h
    exact Or.inl ⟨rfl, rfl⟩
  · rcases extend_continues _ _ _ _ h with rfl | hmore
    · exact Or.inr hcuts
    · exact Or.inr (hcuts.trans hmore)

/-! ### Expressions that end with their own brace -/

section

variable {l : Node}

theorem ifChain_answers (fuel : Nat) : Answers (isBlockLike · = true) (ifChain self fuel) := by
  cases fuel with
  | zero => exact .fail
  | succ fuel =>
    refine .bind fun _ ↦ .bind fun _ ↦ .bind fun _ ↦ .bind fun _ ↦ .ite (.pure rfl) ?_
    refine .bind fun _ ↦ .bind fun _ ↦ .ite (.bind fun _ ↦ .pure rfl) ?_
    exact .bind fun _ ↦ .ite (.bind fun _ ↦ .pure rfl) .fail

theorem whileExpression_answers : Answers (isBlockLike · = true) (whileExpression self l) :=
  .bind fun _ ↦ .bind fun _ ↦ .bind fun _ ↦ .pure rfl

theorem forExpression_answers : Answers (isBlockLike · = true) (forExpression self l) :=
  .bind fun _ ↦ .bind fun _ ↦ .bind fun _ ↦ .bind fun _ ↦ .bind fun _ ↦ .pure rfl

theorem loopExpression_answers : Answers (isBlockLike · = true) (loopExpression self l) :=
  .bind fun _ ↦ .bind fun _ ↦ .pure rfl

theorem blockExpression_answers : Answers (isBlockLike · = true) (blockExpression self l) :=
  .bind fun _ ↦ .pure rfl

theorem matchExpression_answers : Answers (isBlockLike · = true) (matchExpression self) :=
  .bind fun _ ↦ .bind fun _ ↦ .bind fun _ ↦ .pure rfl

theorem labelledExpression_answers : Answers (isBlockLike · = true) (labelledExpression self) :=
  .bind fun _ ↦ .bind fun _ ↦ .ite whileExpression_answers <|
    .bind fun _ ↦ .ite forExpression_answers <| .bind fun _ ↦ .ite loopExpression_answers <|
    .bind fun _ ↦ .ite blockExpression_answers .fail

end

/-- The parts that a reader finds at once are all that there is. -/
theorem parts_of_done {r : Reader (List Node × Bool)} {nodes : List Node}
    (h : r c = .ok ((nodes, false), c')) : parts r c = .ok (.list nodes, c') := by
  have hnodes : repeatNodes r c = .ok (nodes, c') := by
    rw [repeatNodes, get_bind, repeatFor, bind_of_ok h]
    rfl
  rw [parts, bind_of_ok hnodes]
  rfl

/-- Where no attribute comes next, none is read. -/
theorem outerAttributes_of_not (h : Probe.op "#" c.rest = false) :
    outerAttributes self c = .ok (.list [], c) := by
  refine parts_of_done ?_
  rw [peek_bind_of_not h]
  rfl

theorem isBlockLike_of_ifExpression (hpound : Probe.op "#" c.rest = false)
    (h : ifExpression self c = .ok (e, c')) : isBlockLike e = true := by
  rw [ifExpression, bind_of_ok (outerAttributes_of_not hpound), get_bind] at h
  obtain ⟨chain, _, hchain, h⟩ := bind_eq_ok.1 h
  obtain ⟨rfl, -⟩ := pure_eq_ok.1 h
  exact ifChain_answers _ _ _ _ hchain

theorem exists_of_keyword {w : String} {ts : List TokenTree} (h : Probe.keyword w ts = true) :
    ∃ span ts', ts = .name w span :: ts' := by
  unfold Probe.keyword at h
  split at h
  · obtain rfl := eq_of_beq h
    exact ⟨_, _, rfl⟩
  · cases h

theorem exists_of_brace {ts : List TokenTree} (h : Probe.brace ts = true) :
    ∃ opening closing inside ts', ts = .group .brace opening closing inside :: ts' := by
  unfold Probe.brace Probe.group at h
  split at h
  · obtain rfl := eq_of_beq h
    exact ⟨_, _, _, _, rfl⟩
  · cases h

/-- A reader of expressions that end with their own brace reads at a cursor what an expression
without operators is there, and nothing stands in front of it. -/
structure ReadsBraced (parts : Readers) (r : Reader Node) (c : Cursor) : Prop where
  atom_eq : atom parts true c = r c
  unsigned : Probe.any [Probe.op "#", Probe.op "&", Probe.op "*", Probe.op "!", Probe.op "-"]
    c.rest = false
  blockLike : ∀ e c', r c = .ok (e, c') → isBlockLike e = true

/-- A `for` that quantifies no lifetimes begins a loop. One that does would begin a closure. -/
theorem readsBraced_forExpression (h : (Probe.keyword "for").butNot quantifierNext c.rest = true) :
    ReadsBraced self (forExpression self .absent) c := by
  obtain ⟨rest, scope, d, stray⟩ := c
  rw [Probe.butNot, Bool.and_eq_true, Bool.not_eq_true'] at h
  obtain ⟨span, ts, rfl⟩ := exists_of_keyword h.1
  refine ⟨?_, rfl, forExpression_answers _⟩
  have hclosure : Probe.any [Probe.op "|", Probe.keyword "move", quantifierNext,
      (Probe.keyword "const").butNot (Probe.second Probe.brace), Probe.keyword "static",
      (Probe.keyword "async").and
        (Probe.any [Probe.second (Probe.op "|"), Probe.second (Probe.keyword "move")])]
      (.name "for" span :: ts) = false := by
    simp only [Probe.any, List.any_cons, h.2]
    rfl
  rw [atom, peek_bind_of_not rfl, peek_bind_of_not rfl, peek_bind_of_not rfl,
    peek_bind_of_not hclosure]
  rfl

/-- An expression without operators that begins with one of four words or a brace ends with its own
brace. -/
theorem readsBraced_atom (h : Probe.any [(Probe.keyword "try").and (Probe.second Probe.brace),
      Probe.keyword "unsafe", (Probe.keyword "const").and (Probe.second Probe.brace), Probe.brace]
      c.rest = true) :
    ReadsBraced self (atom self true) c := by
  obtain ⟨rest, scope, d, stray⟩ := c
  simp only [Probe.any, Probe.and, List.any_cons, List.any_nil, Bool.or_false, Bool.or_eq_true,
    Bool.and_eq_true] at h
  rcases h with ⟨htry, hbrace⟩ | hunsafe | ⟨hconst, hbrace⟩ | hbrace
  · obtain ⟨span, ts, rfl⟩ := exists_of_keyword htry
    obtain ⟨opening, closing, inside, ts, rfl⟩ := exists_of_brace hbrace
    refine ⟨rfl, rfl, ?_⟩
    have htry : Answers (isBlockLike · = true) (do
        let try_ ← Reader.keyword "try"
        return .node .exprTryBlock [.list [], try_, ← plainBlock self]) :=
      .bind fun _ ↦ .bind fun _ ↦ .pure rfl
    exact htry ⟨.name "try" span :: .group .brace opening closing inside :: ts, scope, d, stray⟩
  · obtain ⟨span, ts, rfl⟩ := exists_of_keyword hunsafe
    refine ⟨rfl, rfl, ?_⟩
    have hunsafe : Answers (isBlockLike · = true) (do
        let unsafe_ ← Reader.keyword "unsafe"
        let block ← attributedBlock self
        return .node .exprUnsafe [block.1, unsafe_, block.2]) :=
      .bind fun _ ↦ .bind fun _ ↦ .pure rfl
    exact hunsafe ⟨.name "unsafe" span :: ts, scope, d, stray⟩
  · obtain ⟨span, ts, rfl⟩ := exists_of_keyword hconst
    obtain ⟨opening, closing, inside, ts, rfl⟩ := exists_of_brace hbrace
    refine ⟨rfl, rfl, ?_⟩
    have hconst : Answers (isBlockLike · = true) (constBlock self) :=
      .bind fun _ ↦ .bind fun _ ↦ .pure rfl
    exact hconst ⟨.name "const" span :: .group .brace opening closing inside :: ts, scope, d, stray⟩
  · obtain ⟨opening, closing, inside, ts, rfl⟩ := exists_of_brace hbrace
    exact ⟨rfl, rfl, blockExpression_answers _⟩

/-- What is chosen where a statement begins is what is chosen in an expression. -/
theorem readsBraced {r : Reader Node} (h : braceExpression? self c = .ok (some r, c')) :
    ReadsBraced self r c := by
  obtain ⟨rest, scope, d, stray⟩ := c
  have hsome {r' : Reader Node}
      (h : (pure (some r') : Reader (Option (Reader Node))) ⟨rest, scope, d, stray⟩ =
        .ok (some r, c')) : r' = r :=
    Option.some.inj (pure_eq_ok.1 h).1
  rw [braceExpression?, peek_bind] at h
  split at h
  · next hif =>
    obtain ⟨span, ts, rfl⟩ := exists_of_keyword hif
    obtain rfl := hsome h
    exact ⟨rfl, rfl, fun e c' ↦ isBlockLike_of_ifExpression rfl⟩
  rw [peek_bind] at h
  split at h
  · next hwhile =>
    obtain ⟨span, ts, rfl⟩ := exists_of_keyword hwhile
    obtain rfl := hsome h
    exact ⟨rfl, rfl, whileExpression_answers _⟩
  rw [peek_bind] at h
  split at h
  · next hfor =>
    obtain rfl := hsome h
    exact readsBraced_forExpression hfor
  rw [peek_bind] at h
  split at h
  · next hloop =>
    obtain ⟨span, ts, rfl⟩ := exists_of_keyword hloop
    obtain rfl := hsome h
    exact ⟨rfl, rfl, loopExpression_answers _⟩
  rw [peek_bind] at h
  split at h
  · next hmatch =>
    obtain ⟨span, ts, rfl⟩ := exists_of_keyword hmatch
    obtain rfl := hsome h
    exact ⟨rfl, rfl, matchExpression_answers _⟩
  rw [peek_bind] at h
  split at h
  · next hatom =>
    obtain rfl := hsome h
    exact readsBraced_atom hatom
  rw [peek_bind] at h
  split at h
  · next hlifetime =>
    obtain rfl := hsome h
    unfold Probe.lifetime at hlifetime
    dsimp only at hlifetime
    split at hlifetime
    · exact ⟨rfl, rfl, labelledExpression_answers _⟩
    · cases hlifetime
  · cases (pure_eq_ok.1 h).1

/-- What reads an expression that ends with its own brace is found by looking ahead. -/
theorem exists_braceExpression? (self : Readers) (c : Cursor) :
    ∃ found, braceExpression? self c = .ok (found, c) := by
  rw [braceExpression?]
  iterate 7
    rw [peek_bind]
    split
    · exact ⟨_, rfl⟩
  exact ⟨_, rfl⟩

/-! ### Operands -/

theorem is_verbatim_of_isBlockLike (h : isBlockLike e = true) : e.is .verbatim = false := by
  rw [Bool.eq_false_iff]
  intro hverbatim
  obtain ⟨cs, rfl⟩ := exists_of_is hverbatim
  cases h

/-- An operand that ends with its own brace is this brace's expression with what comes behind it
without an operator. -/
theorem operand_of_braced {r : Reader Node} (hr : ReadsBraced self r c)
    (h : operand self true c = .ok (e, c')) :
    ∃ x c₁ t, r c = .ok (x, c₁) ∧ trailers self x c₁ = .ok (t, c') ∧
      (t.is .verbatim = false → e = t) := by
  have hunsigned := hr.unsigned
  simp only [Probe.any, List.any_cons, List.any_nil, Bool.or_false, Bool.or_eq_false_iff]
    at hunsigned
  obtain ⟨hpound, hamp, hstar, hbang, hminus⟩ := hunsigned
  rw [operand, get_bind, bind_of_ok (outerAttributes_of_not hpound), peek_bind_of_not hamp,
    peek_bind_of_not (by simp [Probe.any, hstar, hbang, hminus])] at h
  obtain ⟨x, c₁, hx, h⟩ := bind_eq_ok.1 h
  obtain ⟨t, c₂, ht, h⟩ := bind_eq_ok.1 h
  rw [hr.atom_eq] at hx
  change StateT.run _ _ = _ at h
  split at h
  · obtain ⟨_, rfl⟩ := pure_eq_ok.1 h
    exact ⟨x, c₁, _, hx, ht, fun hverbatim ↦ by cases hverbatim⟩
  · obtain ⟨rfl, rfl⟩ := pure_eq_ok.1 h
    exact ⟨x, c₁, _, hx, ht, fun _ ↦ rfl⟩
  · obtain ⟨rfl, rfl⟩ := pure_eq_ok.1 h
    exact ⟨x, c₁, _, hx, ht, fun _ ↦ rfl⟩

/-! ### An expression where a statement begins -/

/-- Readers to any depth that suffices answer a nonterminal alike. -/
def Steady (least : Nat) (n : Nonterminal) (c : Cursor) (e : Node) (c' : Cursor) : Prop :=
  ∀ depth ≥ least, readers depth n c = .ok (e, c')

variable {least : Nat} {first whole : Node}

/-- **An expression where a statement begins.** What is read as an expression is read as one where a
statement begins, if it has no attributes in front and is not severed. -/
theorem leading_of_expression (hpound : Probe.op "#" c.rest = false)
    (hfirst : Steady least (.operand true) c first c₁)
    (hwhole : Steady least (.operators first true .lowest) c₁ whole c')
    (hsevered : isSevered whole = false) : Steady (least + 1) .leading c whole c' := by
  intro depth hdepth
  obtain ⟨depth, rfl⟩ := Nat.exists_eq_add_of_le' (Nat.le_trans (Nat.le_add_left 1 least) hdepth)
  have hdepth : depth ≥ least := Nat.le_of_succ_le_succ hdepth
  have hnot : isSevered first ≠ true := fun hfirst ↦ by
    rcases operators_cut (hwhole depth hdepth) with ⟨rfl, -⟩ | hcuts
    · exact Bool.false_ne_true (hsevered.symm.trans hfirst)
    · exact Bool.false_ne_true (hsevered.symm.trans (hcuts.keeps hfirst))
  obtain ⟨found, hfound⟩ := exists_braceExpression? (readers depth) c
  rw [readers, rule, leading, bind_of_ok (outerAttributes_of_not hpound), bind_of_ok hfound]
  cases found with
  | none =>
    change (readers depth (.operand true) >>= _) c = _
    rw [bind_of_ok (hfirst depth hdepth)]
    split
    · next hrange =>
      -- a range is never the left side of an operator
      have hsame := hwhole (depth + 1) (Nat.le_succ_of_le hdepth)
      rw [readers, rule, operators, get_bind, if_pos hrange] at hsame
      exact hsame
    · exact hwhole depth hdepth
  | some r =>
    have hr := readsBraced hfound
    obtain ⟨x, c₂, t, hx, ht, heq⟩ :=
      operand_of_braced hr (hfirst (depth + 1) (Nat.le_succ_of_le hdepth))
    have hblock := hr.blockLike x c₂ hx
    have htverbatim : t.is .verbatim = false := by
      rcases trailers_continues _ _ _ ht with rfl | hcontinues
      · exact is_verbatim_of_isBlockLike hblock
      · exact hcontinues.notVerbatim
    obtain rfl := heq htverbatim
    change unlessContinued (readers depth) (.list []) r c = _
    rw [unlessContinued, bind_of_ok hx, peek_bind]
    split
    · rw [bind_of_ok ht]
      exact hwhole depth hdepth
    · next hpoint =>
      -- nothing may come behind the brace now
      rw [Bool.not_eq_true] at hpoint
      rcases trailers_of_no_point hpoint ht with ⟨rfl, rfl⟩ | hcuts
      · rcases operators_cut (hwhole depth hdepth) with ⟨rfl, rfl⟩ | hcuts
        · rfl
        · exact absurd (hcuts.cuts hblock) (by simp [hsevered])
      · exact absurd (hcuts.cuts hblock) hnot

/-! ### Statements that go to the end of a block -/

variable {attrs s : Node} {trees : List TokenTree}

/-- The beginning of the braces of a block that was put together from tokens. -/
def inBlock (trees : List TokenTree) : Cursor := ⟨trees, .nowhere, some .brace, none⟩

/-- What begins neither an attribute nor a binding, an item or a macro call that is a statement. -/
structure BeginsExpression (c : Cursor) : Prop where
  noAttribute : Probe.op "#" c.rest = false
  noLet : Probe.keyword "let" c.rest = false
  noItem : itemStatementNext c.rest = false
  noMacro : macroAhead c = .ok (.none, c)

/-- An expression with attributes, as it is kept. -/
def attributed (attrs : Node) (trees : List TokenTree) (e : Node) : Node :=
  if e.is .verbatim then .node .verbatim [.unread trees] else attributeLeftmost attrs e.size e

/-- An expression that ends its block, as a statement. -/
def tail (e : Node) : Node := expressionOrMacro e .absent

theorem taking_of_ok {α : Type} {r : Reader α} {a : α} (h : r c = .ok (a, c')) :
    taking r c = .ok ((a, c.rest.take (c.rest.length - c'.rest.length)), c') := by
  rw [taking, get_bind, bind_of_ok h]
  rfl

/-- An expression is a statement that goes to the end of the block. -/
theorem statement_of_leading (hattrs : outerAttributes self (inBlock trees) = .ok (attrs, c₀))
    (hbegins : BeginsExpression c₀) (h : self .leading c₀ = .ok (e, inBlock [])) :
    statement self (inBlock trees) = .ok (tail (attributed attrs trees e), inBlock []) := by
  rw [statement, orVerbatim]
  refine bind_of_ok (taking_of_ok (a := some (tail (attributed attrs trees e))) ?_)
  rw [get_bind, bind_of_ok hattrs, bind_of_ok hbegins.noMacro]
  simp only [reduceCtorEq, if_false, peek_bind, hbegins.noLet, hbegins.noItem]
  have hall : verbatimSince (inBlock trees) (inBlock []) =
      .ok (.node .verbatim [.unread trees], inBlock []) := by
    have htake : trees.take (trees.length - 0) = trees := List.take_length
    rw [verbatimSince, treesSince, inBlock, inBlock]
    exact congrArg (fun ts ↦ Except.ok (Node.node .verbatim [.unread ts], inBlock [])) htake
  have hexpression : expressionStatement self (inBlock trees) attrs c₀ =
      .ok (tail (attributed attrs trees e), inBlock []) := by
    rw [expressionStatement, bind_of_ok h, attributed]
    split
    · rw [bind_of_ok hall]
      rfl
    · rfl
  exact bind_of_ok hexpression

theorem exists_of_operator {char : Char} {ts rest : List TokenTree}
    (h : Probe.operator? [char] ts = some rest) :
    ∃ joint span, ts = .punct char joint span :: rest := by
  cases ts with
  | nil => cases h
  | cons t ts =>
    cases t with
    | punct char' joint span =>
      rw [Probe.operator?] at h
      split at h
      · next heq =>
        obtain rfl := eq_of_beq heq
        obtain rfl := Option.some.inj h
        exact ⟨joint, span, rfl⟩
      · cases h
    | _ => cases h

theorem exists_of_bang {n : Node} (h : op "!" c = .ok (n, c')) :
    ∃ joint span, c.rest = .punct '!' joint span :: c'.rest := by
  unfold op at h
  split at h
  · next rest hrest =>
    obtain ⟨-, rfl⟩ := Prod.mk.inj (Except.ok.inj h)
    exact exists_of_operator hrest
  · cases h

theorem exists_of_macroAfter {p call : Node} (h : macroAfter p c = .ok (call, c'))
    (hbrace : isBraceMacro call = true) : ∃ joint span opening closing inside,
      c.rest = .punct '!' joint span :: .group .brace opening closing inside :: c'.rest := by
  obtain ⟨bang, c₁, hbang, h⟩ := bind_eq_ok.1 h
  obtain ⟨group, c₂, hgroup, h⟩ := bind_eq_ok.1 h
  obtain ⟨rfl, rfl⟩ := pure_eq_ok.1 h
  rw [unreadGroup, get_bind] at hgroup
  change StateT.run _ _ = _ at hgroup
  split at hgroup
  · next d opening closing inside rest hrest =>
    obtain ⟨_, _, hadvance, hgroup⟩ := bind_eq_ok.1 hgroup
    obtain ⟨rfl, rfl⟩ := pure_eq_ok.1 hgroup
    obtain ⟨-, rfl⟩ := Prod.mk.inj (Except.ok.inj hadvance)
    obtain ⟨joint, span, hpunct⟩ := exists_of_bang hbang
    change ∃ joint span opening closing inside, c.rest = .punct '!' joint span ::
      .group .brace opening closing inside :: c₁.rest.tail
    rw [hrest] at hpunct ⊢
    cases d with
    | brace => exact ⟨joint, span, opening, closing, inside, hpunct⟩
    | _ => cases hbrace
  · exact absurd hgroup fail_ne_ok

/-- A macro call with braces is a statement that goes to the end of the block. -/
theorem statement_of_macro {p call : Node}
    (hattrs : outerAttributes self (inBlock trees) = .ok (attrs, c₀))
    (hpath : plainPath c₀ = .ok (p, c₁)) (hcall : macroAfter p c₁ = .ok (call, inBlock []))
    (hbrace : isBraceMacro call = true) :
    statement self (inBlock trees) = .ok (tail (.node .exprMacro [attrs, call]), inBlock []) := by
  obtain ⟨joint, span, opening, closing, inside, hrest⟩ := exists_of_macroAfter hcall hbrace
  have htail : tail (.node .exprMacro [attrs, call]) = .node .stmtMacro [attrs, call, .absent] := by
    rw [tail, expressionOrMacro, hbrace]
    rfl
  have hahead : macroAhead c₀ = .ok (.statement, c₀) := by
    have hfound : ahead? (do let _ ← plainPath; return (← get).rest) c₀ =
        .ok (some c₁.rest, c₀) := by
      rw [ahead?, bind_of_ok hpath]
      rfl
    rw [macroAhead, bind_of_ok hfound, hrest]
    rfl
  rw [statement, orVerbatim]
  refine bind_of_ok (taking_of_ok (a := some (tail (.node .exprMacro [attrs, call]))) ?_)
  rw [get_bind, bind_of_ok hattrs, bind_of_ok hahead, if_pos rfl, bind_of_ok hpath,
    bind_of_ok hcall, htail]
  rfl

/-- A statement that goes to the end of a block is all that there is in it. -/
theorem statements_of_statement (hne : trees ≠ []) (hsemi : Probe.op ";" trees = false)
    (h : statement self (inBlock trees) = .ok (s, inBlock [])) :
    statements self (inBlock trees) = .ok (.list [s], inBlock []) := by
  have hend : atEnd (inBlock trees) = .ok (false, inBlock trees) := by
    cases trees with
    | nil => exact absurd rfl hne
    | cons => rfl
  refine parts_of_done ?_
  rw [peek_bind_of_not hsemi, bind_of_ok hend]
  exact bind_of_ok h

/-- A reader takes no semicolon, and does not answer where nothing is left. -/
def Refuses (r : Reader Node) : Prop :=
  ∀ c a c', r c = .ok (a, c') → c.rest ≠ [] ∧ Probe.op ";" c.rest = false

theorem refuses_of_error {r : Reader Node}
    (hnil : ∀ scope d stray, ∃ why, r ⟨[], scope, d, stray⟩ = .error why)
    (hsemi : ∀ joint span ts scope d stray,
      ∃ why, r ⟨.punct ';' joint span :: ts, scope, d, stray⟩ = .error why) : Refuses r := by
  rintro ⟨rest, scope, d, stray⟩ a c' h
  constructor
  · rintro rfl
    obtain ⟨why, herror⟩ := hnil scope d stray
    cases herror.symm.trans h
  · rw [Bool.eq_false_iff]
    intro hop
    obtain ⟨_, hrest⟩ := Option.isSome_iff_exists.1 hop
    obtain ⟨joint, span, rfl⟩ := exists_of_operator hrest
    obtain ⟨why, herror⟩ := hsemi joint span _ scope d stray
    cases herror.symm.trans h

theorem operand_refuses (structs : Bool) : Refuses (operand self structs) :=
  refuses_of_error (fun _ _ _ ↦ ⟨_, rfl⟩) fun _ _ _ _ _ _ ↦ ⟨_, rfl⟩

theorem plainPath_refuses : Refuses plainPath :=
  refuses_of_error (fun _ _ _ ↦ ⟨_, rfl⟩) fun _ _ _ _ _ _ ↦ ⟨_, rfl⟩

/-- What is refused is refused behind attributes too. -/
theorem Refuses.behind_attributes {r : Reader Node} (hr : Refuses r) :
    Refuses (outerAttributes self >>= fun _ ↦ r) := by
  intro c a c' h
  have hplain (hpound : Probe.op "#" c.rest = false) : r c = .ok (a, c') := by
    rwa [bind_of_ok (outerAttributes_of_not hpound)] at h
  constructor
  · intro hnil
    exact (hr c a c' (hplain (by rw [hnil]; rfl))).1 hnil
  · rw [Bool.eq_false_iff]
    intro hop
    obtain ⟨_, hrest⟩ := Option.isSome_iff_exists.1 hop
    obtain ⟨joint, span, hsemi⟩ := exists_of_operator hrest
    have hno := (hr c a c' (hplain (by rw [hsemi]; rfl))).2
    exact Bool.false_ne_true (hno.symm.trans hop)

end Grammar

end RenderTrace.Syntax
