import RenderTrace.Proofs.Syntax.Head
import RenderTrace.Proofs.Syntax.Shape

/-!
# The places that readers spend

A tree that is read from a text names its functions by tokens of the text, each token one function
at most. This is a law about every reader of the grammar, in the manner of amortised accounts: fix a
place, and let the *marks* of a forest be the tokens there that can name a function or open a
closure. A reader `Affords` its answer if the marks of the answer and the marks that are left are
together no more than those that there were. Here it is shown of the readers that the grammar is
built from, and of the ways of combining them; the modules beside this one go through the grammar
rule by rule.

## Macros

The tokens that a macro is given stay unread, and may be read on their own later. They are spent all
the same: what is found in them stands at no place of the tree around.

## Flaws

The law says nothing yet of the shape of what is read: that a function has a signature with a name,
and a block as its body. So a node that should have a shape and does not (`Node.flawed`) counts as a
mark at every place. Where a forest has no marks, what is read has no flaws.

## Credit

What a reader is given to put into its answer, such as the left side of an operator, is credited to
it: `Affords l n r` admits `n` marks more. So the law of a rule is checked step by step: what the
steps before answered is credit for those behind.
-/

namespace RenderTrace.TokenTree

/-! ### Marks of forests -/

mutual

/-- The tokens in a tree that stand at `l` and can name a function or open a closure. -/
def marks (l : Location) : TokenTree → Nat
  | .name t s => if s.start = l ∧ t ≠ "_" then 1 else 0
  | .punct c _ s => if s.start = l ∧ c = '|' then 1 else 0
  | .literal _ _ => 0
  | .group _ _ _ inside => marksAll l inside

/-- The marks of a forest. -/
def marksAll (l : Location) : List TokenTree → Nat
  | [] => 0
  | t :: ts => marks l t + marksAll l ts

end

variable {l : Location}

theorem marksAll_append (ts ts' : List TokenTree) :
    marksAll l (ts ++ ts') = marksAll l ts + marksAll l ts' := by
  induction ts with
  | nil => exact (Nat.zero_add _).symm
  | cons t ts ih => rw [List.cons_append, marksAll, marksAll, ih, Nat.add_assoc]

theorem marksAll_tail (ts : List TokenTree) : marksAll l ts.tail ≤ marksAll l ts := by
  cases ts with
  | nil => exact Nat.le_refl _
  | cons t ts => exact Nat.le_add_left _ _

theorem marksAll_reverse (ts : List TokenTree) : marksAll l ts.reverse = marksAll l ts := by
  induction ts with
  | nil => rfl
  | cons t ts ih =>
    rw [List.reverse_cons, marksAll_append, ih, marksAll, marksAll, marksAll, Nat.add_comm,
      Nat.add_zero]

end RenderTrace.TokenTree

namespace RenderTrace.Syntax

variable {l : Location}

/-! ### Marks of trees -/

namespace Node

/-- Whether a token can name a function. -/
def isName : Node → Bool
  | token .word t _ => t != "_"
  | _ => false

/-- Whether a token is a name and no keyword. -/
def isIdentifier (n : Node) : Bool := n.isName && !Probe.reserved.contains n.text

/-- Whether a token can open a closure. -/
def isBar : Node → Bool
  | token .operator t _ => t == "|"
  | _ => false

/-- Whether a node is a sequence. -/
def isList : Node → Bool
  | node .list _ => true
  | _ => false

/-- Whether a node that should have a certain shape does not have it: a block holds a sequence, a
signature has a name, functions have a signature and a block, closures begin with a bar. -/
@[simp]
def flawed : Kind → List Node → Bool
  | .block, [group _ [statements]] => !statements.isList
  | .block, _ => true
  | .signature, cs => !(cs.getD 5 .absent).isIdentifier
  | .itemFn, [_, _, sig, body] => !(sig.is .signature && body.is .block)
  | .implFn, [_, _, _, sig, body] => !(sig.is .signature && body.is .block)
  | .traitFn, [_, sig, body, _] => !(sig.is .signature && (body.isAbsent || body.is .block))
  | .foreignFn, [_, _, sig, _] => !sig.is .signature
  | .exprClosure, [_, _, _, _, _, _, bar, _, _, _, _] => !bar.isBar
  | .exprClosure, _ => true
  | .exprBlock, [_, _, body] => !body.is .block
  | _, _ => false

/-- The marks of a group that is kept unread. -/
def kept (l : Location) : Node → Nat
  | group _ [unread ts] => TokenTree.marksAll l ts
  | _ => 0

/-- The marks of the arguments of a macro, which is what a node is or not. -/
@[simp]
def passed (l : Location) : Kind → List Node → Nat
  | .macroCall, [_, _, args] => args.kept l
  | _, _ => 0

mutual

/-- The tokens of a tree that stand at `l` and can name a function or open a closure, those in the
arguments of macros included. A flaw counts as one. -/
def marks (l : Location) : Node → Nat
  | token cls t s => if s.start = l ∧ ((token cls t s).isName ∨ (token cls t s).isBar) then 1 else 0
  | unread _ => 0
  | group _ cs => marksAll l cs
  | node k cs => marksAll l cs + (flawed k cs).toNat + passed l k cs

/-- The marks of several trees. -/
def marksAll (l : Location) : List Node → Nat
  | [] => 0
  | c :: cs => marks l c + marksAll l cs

end

end Node

/-- The marks that are left. -/
def Cursor.marks (l : Location) (c : Cursor) : Nat := TokenTree.marksAll l c.rest

/-! ### Marks of answers -/

/-- Answers of readers, with the marks of the trees in them. -/
class Marked (α : Type) where
  marks (l : Location) : α → Nat

namespace Marked

variable {α β : Type} [Marked α] [Marked β]

instance : Marked Node := ⟨Node.marks⟩
instance : Marked (List α) := ⟨fun l as ↦ as.foldr (fun a n ↦ marks l a + n) 0⟩
instance : Marked (Option α) := ⟨fun l o ↦ (o.map (marks l)).getD 0⟩
instance : Marked (α × β) := ⟨fun l p ↦ marks l p.1 + marks l p.2⟩
instance : Marked Unit := ⟨fun _ _ ↦ 0⟩
instance : Marked Bool := ⟨fun _ _ ↦ 0⟩
instance : Marked Cursor := ⟨fun _ _ ↦ 0⟩
instance : Marked TokenTree := ⟨fun _ _ ↦ 0⟩

@[simp] theorem marks_nil : marks l ([] : List α) = 0 := rfl

@[simp] theorem marks_cons (a : α) (as : List α) :
    marks l (a :: as) = marks l a + marks l as := rfl

@[simp] theorem marks_append (as bs : List α) : marks l (as ++ bs) = marks l as + marks l bs := by
  induction as with
  | nil => exact (Nat.zero_add _).symm
  | cons a as ih => rw [List.cons_append, marks_cons, ih, marks_cons, Nat.add_assoc]

@[simp] theorem marks_none : marks l (none : Option α) = 0 := rfl

@[simp] theorem marks_some (a : α) : marks l (some a) = marks l a := rfl

@[simp] theorem marks_pair (p : α × β) : marks l p = marks l p.1 + marks l p.2 := rfl

@[simp] theorem marks_unit (u : Unit) : marks l u = 0 := rfl

@[simp] theorem marks_bool (b : Bool) : marks l b = 0 := rfl

@[simp] theorem marks_cursor (c : Cursor) : Marked.marks l c = 0 := rfl

@[simp] theorem marks_trees (ts : List TokenTree) : marks l ts = 0 := by
  induction ts with
  | nil => rfl
  | cons t ts ih => rw [marks_cons, ih]; rfl

theorem marksAll_eq (cs : List Node) : Node.marksAll l cs = marks l cs := by
  induction cs with
  | nil => rfl
  | cons c cs ih => rw [Node.marksAll, ih, marks_cons]; rfl

@[simp] theorem marks_unread (ts : List TokenTree) : marks l (Node.unread ts) = 0 := by
  show Node.marks l _ = 0
  rw [Node.marks]

@[simp] theorem marks_group (d : Delimiter) (cs : List Node) :
    marks l (Node.group d cs) = marks l cs := by
  show Node.marks l _ = _
  rw [Node.marks, marksAll_eq]

@[simp] theorem marks_node (k : Kind) (cs : List Node) :
    marks l (Node.node k cs) = marks l cs + (Node.flawed k cs).toNat + Node.passed l k cs := by
  show Node.marks l _ = _
  rw [Node.marks, marksAll_eq]

@[simp] theorem marks_list (cs : List Node) : marks l (Node.list cs) = marks l cs := by
  rw [Node.list, marks_node]
  rfl

@[simp] theorem marks_absent : marks l Node.absent = 0 := by
  rw [Node.absent, marks_node]
  rfl

theorem marks_children (n : Node) : marks l n.children ≤ marks l n := by
  cases n with
  | group d cs => exact Nat.le_of_eq (marks_group d cs).symm
  | node k cs =>
    rw [marks_node, Nat.add_assoc]
    exact Nat.le_add_right _ _
  | _ => exact Nat.zero_le _

end Marked

/-! ### The law -/

variable {α β : Type} [Marked α] [Marked β] {m n : Nat}

/-- With a credit of `n`, the marks `μ` of what is read from a cursor and of what is left are no
more than there were. -/
def AffordsAt (l : Location) {α : Type} (μ : α → Nat) (c : Cursor) (n : Nat) (r : Reader α) :
    Prop :=
  ∀ a c', r c = .ok (a, c') → c'.marks l + μ a ≤ c.marks l + n

/-- So it is from every cursor. -/
def AffordsBy (l : Location) {α : Type} (μ : α → Nat) (n : Nat) (r : Reader α) : Prop :=
  ∀ c, AffordsAt l μ c n r

/-- The law by the marks of the trees that are read. -/
abbrev Affords (l : Location) (n : Nat) (r : Reader α) : Prop := AffordsBy l (Marked.marks l) n r

/-- The law with the credit that a reader needs. -/
class Spends (l : Location) (n : outParam Nat) (r : Reader α) : Prop where
  affords : Affords l n r

/-- All answers of a reader have a property. -/
def Answers {α : Type} (P : α → Prop) (r : Reader α) : Prop := ∀ c a c', r c = .ok (a, c') → P a

theorem Reader.get_eq_ok {a c c' : Cursor} :
    (get : Reader Cursor) c = .ok (a, c') ↔ c = a ∧ c = c' := by
  constructor
  · exact fun h ↦ Prod.mk.inj (Except.ok.inj h)
  · rintro ⟨rfl, rfl⟩
    rfl

namespace Answers

variable {α β : Type} {P : α → Prop} {Q : β → Prop}

theorem pure {a : α} (h : P a) : Answers P (Pure.pure a : Reader α) := by
  intro c b c' hr
  obtain ⟨rfl, -⟩ := Reader.pure_eq_ok.1 hr
  exact h

theorem bindAs {r : Reader β} {f : β → Reader α} (hr : Answers Q r)
    (hf : ∀ b, Q b → Answers P (f b)) : Answers P (r >>= f) := by
  intro c a c'' h
  obtain ⟨b, c', hfirst, hrest⟩ := Reader.bind_eq_ok.1 h
  exact hf b (hr c b c' hfirst) c' a c'' hrest

theorem bind {r : Reader β} {f : β → Reader α} (hf : ∀ b, Answers P (f b)) :
    Answers P (r >>= f) :=
  bindAs (Q := fun _ ↦ True) (fun _ _ _ _ ↦ trivial) fun b _ ↦ hf b

theorem ite {p : Prop} [Decidable p] {r r' : Reader α} (h : Answers P r) (h' : Answers P r') :
    Answers P (if p then r else r') := by
  split <;> assumption

theorem fail {t : String} : Answers P (Reader.fail t) := fun _ _ _ h ↦ nomatch h

theorem inGroup {d : Delimiter} {r : Reader α} (hr : Answers P r) :
    Answers P (Reader.inGroup d r) := by
  intro c a c' h
  unfold Reader.inGroup at h
  split at h
  case h_2 => cases h
  split at h
  case isFalse => cases h
  split at h
  case h_2 => cases h
  case h_1 hread =>
    obtain ⟨rfl, -⟩ := Prod.mk.inj (Except.ok.inj h)
    exact hr _ _ _ hread

end Answers

namespace AffordsBy

variable {γ δ : Type} {ν : γ → Nat} {μ : δ → Nat}

theorem pure {a : δ} (h : μ a ≤ n) : AffordsBy l μ n (pure a : Reader δ) := by
  intro c b c' hr
  obtain ⟨rfl, rfl⟩ := Reader.pure_eq_ok.1 hr
  omega

/-- The last step puts an answer together from what was read. -/
theorem done {a : δ} (h : μ a ≤ n := by (try simp) <;> omega) :
    AffordsBy l μ n (Pure.pure a : Reader δ) :=
  .pure h

theorem mono {r : Reader δ} (hr : AffordsBy l μ m r)
    (hmn : m ≤ n := by (try simp) <;> omega) : AffordsBy l μ n r := by
  intro c a c' h
  have hle := hr c a c' h
  omega

/-- What a step answers is credit for the steps behind it. -/
theorem bindWith {r : Reader γ} {f : γ → Reader δ} (hr : AffordsBy l ν m r) (hmn : m ≤ n)
    (hf : ∀ a, AffordsBy l μ (n - m + ν a) (f a)) : AffordsBy l μ n (r >>= f) := by
  intro c b c'' h
  obtain ⟨a, c', hfirst, hrest⟩ := Reader.bind_eq_ok.1 h
  have hle := hr c a c' hfirst
  have hle' := hf a c' b c'' hrest
  omega

theorem bind {r : Reader γ} {f : γ → Reader δ} (hr : AffordsBy l ν 0 r)
    (hf : ∀ a, AffordsBy l μ (n + ν a) (f a)) : AffordsBy l μ n (r >>= f) :=
  bindWith hr (Nat.zero_le n) hf

/-- The next step is a reader whose law is known. -/
theorem next {r : Reader α} [hr : Spends l 0 r] {f : α → Reader δ}
    (hf : ∀ a, AffordsBy l μ (n + Marked.marks l a) (f a)) : AffordsBy l μ n (r >>= f) :=
  bind hr.affords hf

/-- The next step is a reader that is given what was read before. -/
theorem give {r : Reader α} [hr : Spends l m r] {f : α → Reader δ}
    (hf : ∀ a, AffordsBy l μ (n - m + Marked.marks l a) (f a))
    (hmn : m ≤ n := by (try simp) <;> omega) : AffordsBy l μ n (r >>= f) :=
  bindWith hr.affords hmn hf

/-- The next step is a reader whose law and whose answers are known. -/
theorem nextAs {P : γ → Prop} {r : Reader γ} {f : γ → Reader δ} (hP : Answers P r)
    (hr : AffordsBy l ν 0 r) (hf : ∀ a, P a → AffordsBy l μ (n + ν a) (f a)) :
    AffordsBy l μ n (r >>= f) := by
  intro c b c'' h
  obtain ⟨a, c', hfirst, hrest⟩ := Reader.bind_eq_ok.1 h
  have hle := hr c a c' hfirst
  have hle' := hf a (hP c a c' hfirst) c' b c'' hrest
  omega

/-- A step that only names a value. -/
theorem value {α : Type} {a : α} {f : α → Reader δ} (hf : AffordsBy l μ n (f a)) :
    AffordsBy l μ n (Pure.pure a >>= f : Reader δ) := by
  intro c b c' h
  obtain ⟨a', c'', hfirst, hrest⟩ := Reader.bind_eq_ok.1 h
  obtain ⟨rfl, rfl⟩ := Reader.pure_eq_ok.1 hfirst
  exact hf _ b c' hrest

/-- The last step is a reader whose law is known. -/
theorem last {r : Reader α} [hr : Spends l m r] (hmn : m ≤ n := by (try simp) <;> omega) :
    Affords l n r :=
  mono hr.affords hmn

/-- A step that refuses has no steps behind it. -/
theorem fail {α : Type} {t : String} {f : α → Reader δ} : AffordsBy l μ n (Reader.fail t >>= f) :=
  fun _ _ _ h ↦ nomatch h

theorem failAt {α : Type} {s : Span} {t : String} {f : α → Reader δ} :
    AffordsBy l μ n (Reader.failAt s t >>= f) :=
  fun _ _ _ h ↦ nomatch h

theorem ite {p : Prop} [Decidable p] {r r' : Reader δ} (h : AffordsBy l μ n r)
    (h' : AffordsBy l μ n r') : AffordsBy l μ n (if p then r else r') := by
  split <;> assumption

/-- A step that looks at the cursor. -/
theorem look {f : Cursor → Reader δ} (hf : ∀ c, AffordsAt l μ c n (f c)) :
    AffordsBy l μ n (MonadState.get >>= f) := by
  intro c b c' h
  obtain ⟨a, c'', hget, hrest⟩ := Reader.bind_eq_ok.1 h
  obtain ⟨rfl, rfl⟩ := Reader.get_eq_ok.1 hget
  exact hf c b c' hrest

theorem get {f : Cursor → Reader δ} (hf : ∀ c, AffordsBy l μ n (f c)) :
    AffordsBy l μ n (MonadState.get >>= f) :=
  .look fun c ↦ hf c c

end AffordsBy

/-! ### What comes next, and refusing -/

theorem Reader.peek_eq_ok {p : Probe} {b : Bool} {c c' : Cursor} :
    Reader.peek p c = .ok (b, c') ↔ p c.rest = b ∧ c = c' := by
  constructor
  · exact fun h ↦ Prod.mk.inj (Except.ok.inj h)
  · rintro ⟨rfl, rfl⟩
    rfl

instance peek_spends (p : Probe) : Spends l 0 (Reader.peek p) where
  affords c b c' h := by
    obtain ⟨-, rfl⟩ := Reader.peek_eq_ok.1 h
    exact Nat.le_refl _

instance atEnd_spends : Spends l 0 Reader.atEnd :=
  peek_spends List.isEmpty

instance failAt_spends (s : Span) (t : String) : Spends l 0 (Reader.failAt s t : Reader α) where
  affords _ _ _ h := nomatch h

instance fail_spends (t : String) : Spends l 0 (Reader.fail t : Reader α) where
  affords _ _ _ h := nomatch h

instance expected_spends (things : List String) : Spends l 0 (Reader.expected things : Reader α) :=
  fail_spends _

/-- A step if something comes next, and another one if it does not. -/
theorem AffordsBy.when {δ : Type} {μ : δ → Nat} {p : Probe} {r r' : Reader δ}
    (h : AffordsBy l μ n r) (h' : AffordsBy l μ n r') :
    AffordsBy l μ n (Reader.peek p >>= fun b ↦ if b = true then r else r') :=
  .next fun _ ↦ .ite h h'

/-! ### Trying -/

namespace AffordsBy

/-- Where an attempt fails, what it was given is not spent. -/
theorem attempt? {r : Reader α} (hr : Affords l n r) :
    AffordsBy l (fun o : Option α ↦ o.elim n (Marked.marks l)) n (Reader.attempt? r) := by
  intro c a c' h
  unfold Reader.attempt? at h
  rcases hread : r c with e | ⟨b, c''⟩ <;> rw [hread] at h <;> obtain ⟨rfl, rfl⟩ :=
    Prod.mk.inj (Except.ok.inj h)
  · exact Nat.le_refl _
  · exact hr c b c'' hread

/-- What is read ahead is no answer yet. -/
theorem ahead? {α : Type} {r : Reader α} {f : Option α → Reader β} (hf : ∀ a, Affords l n (f a)) :
    Affords l n (Reader.ahead? r >>= f) := by
  intro c b c' h
  obtain ⟨a, c'', hahead, hrest⟩ := Reader.bind_eq_ok.1 h
  unfold Reader.ahead? at hahead
  rcases hread : r c with e | ⟨b, c''⟩ <;> rw [hread] at hahead <;> obtain ⟨-, rfl⟩ :=
    Prod.mk.inj (Except.ok.inj hahead) <;> exact hf a c _ c' hrest

theorem ahead {α : Type} {r : Reader α} {f : α → Reader β} (hf : ∀ a, Affords l n (f a)) :
    Affords l n (Reader.ahead r >>= f) := by
  intro c b c' h
  obtain ⟨a, c'', hahead, hrest⟩ := Reader.bind_eq_ok.1 h
  unfold Reader.ahead at hahead
  rcases hread : r c with e | ⟨b, c''⟩ <;> rw [hread] at hahead
  · cases hahead
  · obtain ⟨-, rfl⟩ := Prod.mk.inj (Except.ok.inj hahead)
    exact hf a c _ c' hrest

end AffordsBy

instance treesSince_spends (start : Cursor) : Spends l 0 (Reader.treesSince start) where
  affords := .get fun _ ↦ .done

instance verbatimSince_spends (start : Cursor) : Spends l 0 (Reader.verbatimSince start) where
  affords := .next fun _ ↦ .done

namespace AffordsBy

theorem taking {r : Reader α} (hr : Affords l n r) : Affords l n (Reader.taking r) :=
  .get fun _ ↦ hr.bindWith (Nat.le_refl n) fun _ ↦ .next fun _ ↦ .done

/-- What is kept as it is spelled has no marks. -/
theorem verbatim {r : Reader α} (hr : Affords l 0 r) : Affords l n (Reader.verbatim r) :=
  .get fun _ ↦ hr.bind fun _ ↦ .last

end AffordsBy

/-! ### Tokens -/

instance advance_spends : Spends l 0 Reader.advance where
  affords c _ c' h := by
    obtain ⟨-, rfl⟩ := Prod.mk.inj (Except.ok.inj h)
    exact TokenTree.marksAll_tail c.rest

/-- An operator other than the bar is no mark. -/
theorem marks_operator {t : String} (ht : t ≠ "|") (s : Span) :
    Marked.marks l (Node.token .operator t s) = 0 := by
  change Node.marks l _ = 0
  simp [Node.marks, Node.isName, Node.isBar, ht]

/-- A bar that is taken has the marks of the tree that it is taken from. -/
theorem bar_affords {c : Cursor} {rest : List TokenTree} {stop : Span}
    (hrest : Probe.operator? ['|'] c.rest = some rest) :
    TokenTree.marksAll l rest +
      Marked.marks l (Node.token .operator "|" ((Reader.place c).join stop)) ≤
        TokenTree.marksAll l c.rest := by
  rcases hc : c.rest with _ | ⟨_ | ⟨d, joint, s⟩ | _ | _, ts⟩ <;> rw [hc] at hrest <;>
    simp only [Probe.operator?, reduceCtorEq, Option.ite_none_right_eq_some, Option.some.injEq,
      beq_iff_eq] at hrest
  obtain ⟨rfl, rfl⟩ := hrest
  have hplace : ((Reader.place c).join stop).start = s.start := by rw [Reader.place, hc]; rfl
  change _ + Node.marks l _ ≤ _
  rw [TokenTree.marksAll, TokenTree.marks, Node.marks, hplace]
  simp [Node.isName, Node.isBar, Nat.add_comm]

instance op_spends (t : String) : Spends l 0 (Reader.op t) where
  affords c a c' h := by
    unfold Reader.op at h
    split at h
    case h_2 => cases h
    case h_1 rest hrest =>
      obtain ⟨rfl, rfl⟩ := Prod.mk.inj (Except.ok.inj h)
      by_cases ht : t = "|"
      · -- the bar that is read is a mark of the forest
        subst ht
        exact bar_affords hrest
      · obtain ⟨front, hfront⟩ := Reader.operator?_suffix hrest
        rw [marks_operator ht, Cursor.marks, Cursor.marks, ← hfront, TokenTree.marksAll_append]
        exact Nat.le_add_left _ _

/-- A word that is taken has the marks of the tree that it is taken from. -/
theorem word_affords {c : Cursor} {t : String} {s : Span} {ts : List TokenTree}
    (hrest : c.rest = .name t s :: ts) :
    AffordsAt l (Marked.marks l) c 0
      (do Reader.advance; return .token .word t s : Reader Node) := by
  intro a c' h
  obtain ⟨rfl, rfl⟩ := Prod.mk.inj (Except.ok.inj h)
  change TokenTree.marksAll l c.rest.tail + Node.marks l _ ≤ TokenTree.marksAll l c.rest
  rw [hrest, List.tail_cons, TokenTree.marksAll, TokenTree.marks, Node.marks]
  simp [Node.isName, Node.isBar, Nat.add_comm]

instance keyword_spends (t : String) : Spends l 0 (Reader.keyword t) where
  affords := .look fun c ↦ by
    split
    · next hrest =>
      split
      · exact word_affords hrest
      · exact (fail_spends _).affords c
    · exact (fail_spends _).affords c

instance anyWord_spends : Spends l 0 Reader.anyWord where
  affords := .look fun c ↦ by
    split
    · next hrest => exact word_affords hrest
    · exact (fail_spends _).affords c

instance name_spends : Spends l 0 Reader.name where
  affords := .look fun c ↦ by
    split
    · next hrest =>
      split
      · exact (fail_spends _).affords c
      · exact word_affords hrest
    · exact (fail_spends _).affords c

theorem name_answers : Answers (fun n : Node ↦ n.isIdentifier = true) Reader.name := by
  refine .bind fun c ↦ ?_
  split
  · next t s _ hrest =>
    split
    · exact .fail
    · next hno =>
      rw [Bool.not_eq_true] at hno
      refine .bind fun _ ↦ .pure ?_
      have hname : (Node.token .word t s).isName = true := by
        rw [Node.isName, bne_iff_ne]
        rintro rfl
        cases hno
      rw [Node.isIdentifier, hname, Bool.true_and, Bool.not_eq_true']
      exact hno
  · exact .fail

theorem op_answers (t : String) :
    Answers (fun n : Node ↦ ∃ s, n = .token .operator t s) (Reader.op t) := by
  intro c a c' h
  unfold Reader.op at h
  split at h
  · obtain ⟨rfl, -⟩ := Prod.mk.inj (Except.ok.inj h)
    exact ⟨_, rfl⟩
  · cases h

/-- Lifetimes and literals are no marks. -/
theorem marks_plain {cls : TokenClass} (hcls : cls = .lifetime ∨ cls = .literal) (t : String)
    (s : Span) : Marked.marks l (Node.token cls t s) = 0 := by
  change Node.marks l _ = 0
  rcases hcls with rfl | rfl <;> simp [Node.marks, Node.isName, Node.isBar]

instance lifetime_spends : Spends l 0 Reader.lifetime where
  affords := .get fun c ↦ by
    split
    · exact .next fun _ ↦ .next fun _ ↦ .pure (by simp [marks_plain])
    · exact (fail_spends _).affords

instance literal_spends : Spends l 0 Reader.literal where
  affords := .when
    (.look fun c ↦ by
      split
      · exact AffordsBy.next (fun _ ↦ .pure (by simp [marks_plain])) c
      · next hrest => exact word_affords hrest
      · exact AffordsBy.next (fun _ ↦ .next fun _ ↦ .pure (by simp [marks_plain])) c
      · exact (fail_spends _).affords c)
    (fail_spends _).affords

instance op?_spends (t : String) : Spends l 0 (Reader.op? t) where
  affords := .next fun _ ↦ .ite (.last) .done

instance keyword?_spends (t : String) : Spends l 0 (Reader.keyword? t) where
  affords := .next fun _ ↦ .ite (.last) .done

instance whenNext_spends (p : Probe) {r : Reader Node} [Spends l 0 r] :
    Spends l 0 (Reader.whenNext p r) where
  affords := .next fun _ ↦ .ite (.last) .done

/-! ### Groups -/

namespace AffordsBy

theorem inGroup {d : Delimiter} {r : Reader α} (hr : Affords l n r) :
    Affords l n (Reader.inGroup d r) := by
  intro c a c' h
  unfold Reader.inGroup at h
  split at h
  case h_2 => cases h
  case h_1 d' opening closing inside rest hrest =>
    split at h
    case isFalse => cases h
    split at h
    case h_2 => cases h
    case h_1 b c'' hread =>
      obtain ⟨rfl, rfl⟩ := Prod.mk.inj (Except.ok.inj h)
      have hle := hr _ _ _ hread
      have hinside : c.marks l = TokenTree.marksAll l inside + TokenTree.marksAll l rest := by
        rw [Cursor.marks, hrest, TokenTree.marksAll, TokenTree.marks]
      change TokenTree.marksAll l rest + _ ≤ _
      change _ ≤ TokenTree.marksAll l inside + n at hle
      omega

theorem groupOf {d : Delimiter} {r : Reader (List Node)} (hr : Affords l n r) :
    Affords l n (Reader.groupOf d r) :=
  hr.inGroup.bindWith (Nat.le_refl n) fun _ ↦ .done

end AffordsBy

instance skipParens_spends : Spends l 0 Reader.skipParens where
  affords := .inGroup fun c _ c' h ↦ by
    obtain ⟨-, rfl⟩ := Prod.mk.inj (Except.ok.inj h)
    exact Nat.zero_le _

/-- What is kept unread is spent as well. -/
theorem unreadGroup_keeps :
    AffordsBy l (fun n : Node ↦ Marked.marks l n + n.kept l) 0 Reader.unreadGroup :=
  .look fun c ↦ by
    split
    · next d _ _ inside rest hrest =>
      intro n c' h
      obtain ⟨rfl, rfl⟩ := Prod.mk.inj (Except.ok.inj h)
      change TokenTree.marksAll l c.rest.tail + (Node.marks l _ + TokenTree.marksAll l inside) ≤
        TokenTree.marksAll l c.rest
      rw [hrest, List.tail_cons, TokenTree.marksAll, TokenTree.marks, Node.marks, Node.marksAll,
        Node.marksAll, Node.marks]
      omega
    · exact fun _ _ h ↦ nomatch h

instance unreadGroup_spends : Spends l 0 Reader.unreadGroup where
  affords c n c' h :=
    Nat.le_trans (Nat.add_le_add_left (Nat.le_add_right _ _) _) (unreadGroup_keeps c n c' h)

/-! ### Repetition -/

namespace AffordsBy

variable {r : Reader (List Node × Bool)} {element : Reader Node}

theorem repeatFor (hr : Affords l 0 r) (fuel : Nat) : Affords l 0 (Reader.repeatFor r fuel) := by
  induction fuel with
  | zero => exact .done
  | succ fuel ih =>
    refine hr.bind fun ⟨nodes, more⟩ ↦ .ite (ih.bind fun _ ↦ .done) .done

theorem repeatNodes (hr : Affords l 0 r) : Affords l 0 (Reader.repeatNodes r) :=
  .get fun _ ↦ hr.repeatFor _

theorem parts (hr : Affords l 0 r) : Affords l 0 (Reader.parts r) :=
  hr.repeatNodes.bind fun _ ↦ .done

theorem separated {done : Probe} {separator : String} (h : Affords l 0 element) :
    Affords l 0 (Reader.separated done separator element) :=
  .parts <| .when .done <| h.bind fun _ ↦ .when .done <| .next fun _ ↦ .done

theorem untilEnd (h : Affords l 0 element) : Affords l 0 (Reader.untilEnd element) :=
  .parts <| .when .done <| h.bind fun _ ↦ .done

theorem sum {done : Probe} (h : Affords l 0 element) : Affords l 0 (Reader.sum done element) :=
  .parts <| .when .done <| h.bind fun _ ↦ .when (.next fun _ ↦ .done) .done

end AffordsBy

section

variable {element : Reader Node} [h : Spends l 0 element]

instance separated_spends (done : Probe) (separator : String) :
    Spends l 0 (Reader.separated done separator element) :=
  ⟨h.affords.separated⟩

instance commaList_spends : Spends l 0 (Reader.commaList element) :=
  ⟨h.affords.separated⟩

instance untilEnd_spends : Spends l 0 (Reader.untilEnd element) :=
  ⟨h.affords.untilEnd⟩

instance sum_spends (done : Probe) : Spends l 0 (Reader.sum done element) :=
  ⟨h.affords.sum⟩

end

end RenderTrace.Syntax
