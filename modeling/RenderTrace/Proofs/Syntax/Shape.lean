import RenderTrace.Injection.Reread
import RenderTrace.Syntax.SourceUnit

/-!
# The shape of what is read

Some rules of the grammar answer with a tree of one shape, whatever the parts are: a path, a block,
the statements of a block. These are read off the rule, with readers for the parts that may do
anything.
-/

namespace RenderTrace.Syntax

namespace Reader

variable {α β : Type}

/-- A reader behind another one answers if both do. -/
theorem bind_eq_ok {r : Reader α} {f : α → Reader β} {c c'' : Cursor} {b : β} :
    (r >>= f) c = .ok (b, c'') ↔ ∃ a c', r c = .ok (a, c') ∧ f a c' = .ok (b, c'') := by
  show (StateT.bind r f) c = _ ↔ _
  unfold StateT.bind
  cases hr : r c with
  | error e => simp [Bind.bind, Except.bind]
  | ok p =>
    obtain ⟨a, c'⟩ := p
    constructor
    · exact fun h ↦ ⟨a, c', rfl, h⟩
    · rintro ⟨a', q, heq, h⟩
      obtain ⟨rfl, rfl⟩ := Prod.mk.inj (Except.ok.inj heq)
      exact h

theorem pure_eq_ok {a b : α} {c c' : Cursor} :
    (pure a : Reader α) c = .ok (b, c') ↔ a = b ∧ c = c' := by
  constructor
  · exact fun h ↦ Prod.mk.inj (Except.ok.inj h)
  · rintro ⟨rfl, rfl⟩
    rfl

/-- A reader behind one that answers goes on from there. -/
theorem bind_of_ok {r : Reader α} {f : α → Reader β} {c c' : Cursor} {a : α}
    (h : r c = .ok (a, c')) : (r >>= f) c = f a c' := by
  show (StateT.bind r f) c = _
  rw [StateT.bind, h]
  rfl

theorem get_bind {f : Cursor → Reader α} {c : Cursor} :
    ((get : Reader Cursor) >>= f) c = f c c := rfl

theorem peek_bind {p : Probe} {f : Bool → Reader α} {c : Cursor} :
    (peek p >>= f) c = f (p c.rest) c := rfl

/-- A choice by what comes next, where this does not come. -/
theorem peek_bind_of_not {p : Probe} {r r' : Reader α} {c : Cursor} (h : p c.rest = false) :
    (peek p >>= fun b ↦ if b = true then r else r') c = r' c := by
  rw [peek_bind, h]
  rfl

theorem fail_ne_ok {message : String} {c : Cursor} {r : α × Cursor} :
    (fail message : Reader α) c ≠ .ok r := nofun

/-- What is left behind an operator is an end of what there was. -/
theorem operator?_suffix {cs : List Char} {ts rest : List TokenTree}
    (h : Probe.operator? cs ts = some rest) : rest <:+ ts := by
  fun_induction Probe.operator? cs ts with
  | case1 c d joint s ts =>
    cases h
    exact List.suffix_cons _ _
  | case3 c cs d joint s ts _ _ ih => exact (ih h).trans (List.suffix_cons _ _)
  | case2 | case4 | case5 => cases h

/-- What is read from a forest was read from its start on. -/
theorem exists_of_run {r : Reader α} {trees : List TokenTree} {a : α} (h : r.run trees = .ok a) :
    ∃ c, r ⟨trees, .nowhere, none, none⟩ = .ok (a, c) := by
  unfold run at h
  dsimp only at h
  split at h
  · cases h
  · next hread =>
    split at h
    · cases h
    · obtain rfl := Except.ok.inj h
      exact ⟨_, hread⟩

/-- What is read from a group was read inside. -/
theorem exists_of_inGroup {d : Delimiter} {r : Reader α} {c c' : Cursor} {a : α}
    (h : inGroup d r c = .ok (a, c')) : ∃ inside inside', r inside = .ok (a, inside') := by
  unfold inGroup at h
  split at h
  · split at h
    · split at h
      · next hread =>
        obtain ⟨rfl, -⟩ := Prod.mk.inj (Except.ok.inj h)
        exact ⟨_, _, hread⟩
      · cases h
    · cases h
  · cases h

/-- What repeated parts make is a sequence. -/
theorem exists_of_parts {r : Reader (List Node × Bool)} {c c' : Cursor} {n : Node}
    (h : parts r c = .ok (n, c')) : ∃ cs, n = .list cs := by
  obtain ⟨cs, _, -, hrest⟩ := bind_eq_ok.1 h
  obtain ⟨rfl, -⟩ := pure_eq_ok.1 hrest
  exact ⟨cs, rfl⟩

end Reader

open Reader

variable {self : Readers} {c c' : Cursor} {n : Node}

namespace Grammar

/-- A rule is read with readers to some depth. -/
theorem exists_of_closed {α : Type} {r : Readers → Reader α} {a : α}
    (h : closed r c = .ok (a, c')) : ∃ depth, r (readers depth) c = .ok (a, c') :=
  ⟨depthFor c.rest, h⟩

/-- A segment is no separator. -/
theorem isToken_of_segment {exprStyle : Bool} (h : segment self exprStyle c = .ok (n, c')) :
    n.isToken = false := by
  unfold segment at h
  rw [peek_bind] at h
  split at h
  · obtain ⟨w, _, -, h⟩ := bind_eq_ok.1 h
    obtain ⟨rfl, -⟩ := pure_eq_ok.1 h
    rfl
  · obtain ⟨isSelfType, _, -, h⟩ := bind_eq_ok.1 h
    cases isSelfType
    -- whatever the word is, what is behind it are arguments or nothing
    all_goals
      obtain ⟨w, _, -, h⟩ := bind_eq_ok.1 h
      obtain ⟨bare, _, -, h⟩ := bind_eq_ok.1 h
      obtain ⟨turbofish, _, -, h⟩ := bind_eq_ok.1 h
      split at h
      · obtain ⟨colons, _, -, h⟩ := bind_eq_ok.1 h
        obtain ⟨arguments, _, -, h⟩ := bind_eq_ok.1 h
        obtain ⟨rfl, -⟩ := pure_eq_ok.1 h
        rfl
      · obtain ⟨rfl, -⟩ := pure_eq_ok.1 h
        rfl

/-- A path has a first segment. -/
theorem exists_of_path {exprStyle : Bool} (h : path self exprStyle c = .ok (n, c')) :
    ∃ colons first more, n = .node .path [colons, .list (first :: more)] ∧
      first.isToken = false := by
  obtain ⟨colons, _, -, h⟩ := bind_eq_ok.1 h
  obtain ⟨first, _, hfirst, h⟩ := bind_eq_ok.1 h
  obtain ⟨more, _, -, h⟩ := bind_eq_ok.1 h
  obtain ⟨rfl, -⟩ := pure_eq_ok.1 h
  exact ⟨colons, first, more, rfl, isToken_of_segment hfirst⟩

/-- The statements of a block are a sequence. -/
theorem exists_of_statements {depth : Nat} (h : readers depth .statements c = .ok (n, c')) :
    ∃ cs, n = .list cs := by
  cases depth with
  | zero => cases h
  | succ depth => exact exists_of_parts h

/-- A block holds statements. -/
theorem exists_of_plainBlock (h : closed plainBlock c = .ok (n, c')) :
    ∃ cs, n = .node .block [.group .brace [.list cs]] := by
  obtain ⟨depth, h⟩ := exists_of_closed h
  obtain ⟨group, _, hgroup, h⟩ := bind_eq_ok.1 h
  obtain ⟨rfl, -⟩ := pure_eq_ok.1 h
  obtain ⟨inside, _, hinside, hgroup⟩ := bind_eq_ok.1 hgroup
  obtain ⟨rfl, -⟩ := pure_eq_ok.1 hgroup
  obtain ⟨_, _, hinside⟩ := exists_of_inGroup hinside
  obtain ⟨statements, _, hstatements, hinside⟩ := bind_eq_ok.1 hinside
  obtain ⟨rfl, -⟩ := pure_eq_ok.1 hinside
  obtain ⟨cs, rfl⟩ := exists_of_statements hstatements
  exact ⟨cs, rfl⟩

end Grammar

/-- A path that is alone in a text has a first segment. -/
theorem exists_of_pathOf {text : String} (h : pathOf text = .ok n) :
    ∃ colons first more, n = .node .path [colons, .list (first :: more)] ∧
      first.isToken = false := by
  unfold pathOf readText at h
  split at h
  · cases h
  · obtain ⟨_, h⟩ := exists_of_run h
    obtain ⟨_, h⟩ := Grammar.exists_of_closed h
    exact Grammar.exists_of_path h

/-- What is read again as a block holds statements. -/
theorem exists_of_reread {trees : List TokenTree}
    (h : Reread.reread? Grammar.plainBlock trees = some n) :
    ∃ cs, n = .node .block [.group .brace [.list cs]] := by
  obtain ⟨block, hblock, rfl⟩ := Option.map_eq_some_iff.1 h
  cases hrun : (Grammar.closed Grammar.plainBlock).run
      (Reread.setAsideAll [] trees).1 with
  | error e =>
    rw [hrun] at hblock
    cases hblock
  | ok read =>
    rw [hrun] at hblock
    obtain rfl := Option.some.inj hblock
    obtain ⟨_, hread⟩ := exists_of_run hrun
    obtain ⟨cs, rfl⟩ := Grammar.exists_of_plainBlock hread
    exact ⟨_, rfl⟩

/-- The items of a unit that was read are a sequence. -/
theorem SourceUnit.exists_items_of_parse {text : String} {u : SourceUnit} (h : parse text = .ok u) :
    ∃ items, u.items = .list items := by
  unfold parse at h
  cases hread : readText reader (String.ofList (splitShebang (withoutMark text.toList)).2) with
  | error e => simp [hread, Bind.bind, Except.bind] at h
  | ok parts =>
    obtain ⟨attributes, items⟩ := parts
    simp only [hread, Bind.bind, Except.bind, pure, Except.pure, Except.ok.injEq] at h
    subst h
    unfold readText at hread
    split at hread
    · cases hread
    · obtain ⟨_, hrun⟩ := exists_of_run hread
      obtain ⟨_, hrun⟩ := Grammar.exists_of_closed hrun
      obtain ⟨_, _, -, hrun⟩ := bind_eq_ok.1 hrun
      obtain ⟨_, _, hitems, hrun⟩ := bind_eq_ok.1 hrun
      obtain ⟨hpair, -⟩ := pure_eq_ok.1 hrun
      obtain ⟨-, rfl⟩ := Prod.mk.inj hpair
      exact exists_of_parts hitems

end RenderTrace.Syntax
