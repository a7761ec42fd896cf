import Mathlib
import RenderTrace.Proofs.Syntax.Shape

/-!
# The macros that readers leave unread

The arguments of a macro stay in a tree as a group of tokens. Whoever reads them later, and then the
macros in the trees that come of it, and so on, comes to an end because such a group holds fewer
tokens than there were to read. This is a law about every reader of the grammar: `Reads w r` says
that where at most `w` tokens are left, the macros in the trees that `r` reads have fewer than `w`
tokens as arguments each. Here it is shown of the readers that the grammar is built from, and of the
ways of combining them; the modules beside this one go through the grammar rule by rule.

What readers answer with is not always a tree. `Yield` says for each kind of answer what the law
means.
-/

namespace RenderTrace.Syntax

open Std.Do

set_option mvcgen.warning false

/-! ### Trees and other answers -/

namespace Node

mutual

/-- The macros in a tree have fewer than `w` tokens as arguments each. -/
def Within (w : Nat) : Node → Prop
  | .token .. => True
  | .unread _ => True
  | .group _ cs => AllWithin w cs
  | .node k cs =>
    (∀ path bang d ts, k = .macroCall → cs = [path, bang, .group d [.unread ts]] →
      TokenTree.sizes ts < w) ∧ AllWithin w cs

/-- So it is in each of several trees. -/
def AllWithin (w : Nat) : List Node → Prop
  | [] => True
  | c :: cs => Within w c ∧ AllWithin w cs

end

theorem allWithin_iff {w : Nat} {cs : List Node} : AllWithin w cs ↔ ∀ c ∈ cs, c.Within w := by
  induction cs with
  | nil => simp [AllWithin]
  | cons c cs ih => simp [AllWithin, ih]

end Node

/-- Answers of readers. -/
class Yield (α : Type) where
  /-- The macros in the trees of an answer have fewer than `w` tokens as arguments each. -/
  Within (w : Nat) : α → Prop

namespace Yield

variable {α β : Type} [Yield α] [Yield β] {w : Nat}

instance : Yield Node := ⟨Node.Within⟩
instance : Yield (List α) := ⟨fun w as ↦ ∀ a ∈ as, Within w a⟩
instance : Yield (Option α) := ⟨fun w o ↦ ∀ a ∈ o, Within w a⟩
instance : Yield (α × β) := ⟨fun w p ↦ Within w p.1 ∧ Within w p.2⟩
instance : Yield Unit := ⟨fun _ _ ↦ True⟩
instance : Yield Bool := ⟨fun _ _ ↦ True⟩
instance : Yield TokenTree := ⟨fun _ _ ↦ True⟩

@[simp] theorem within_nil : Within w ([] : List α) := List.forall_mem_nil _

@[simp] theorem within_cons (a : α) (as : List α) :
    Within w (a :: as) ↔ Within w a ∧ Within w as := List.forall_mem_cons

@[simp] theorem within_append (as bs : List α) :
    Within w (as ++ bs) ↔ Within w as ∧ Within w bs := List.forall_mem_append

@[simp] theorem within_none : Within w (none : Option α) := by simp [Within]

@[simp] theorem within_some (a : α) : Within w (some a) ↔ Within w a := by simp [Within]

@[simp] theorem within_pair (p : α × β) : Within w p ↔ Within w p.1 ∧ Within w p.2 := Iff.rfl

@[simp] theorem within_unit (u : Unit) : Within w u := trivial

@[simp] theorem within_bool (b : Bool) : Within w b := trivial

@[simp] theorem within_trees (ts : List TokenTree) : Within w ts := fun _ _ ↦ trivial

@[simp] theorem within_token (cls : TokenClass) (t : String) (s : Span) :
    Within w (Node.token cls t s) := trivial

@[simp] theorem within_unread (ts : List TokenTree) : Within w (Node.unread ts) := trivial

@[simp] theorem within_group (d : Delimiter) (cs : List Node) :
    Within w (Node.group d cs) ↔ Within w cs := by
  show Node.Within w _ ↔ ∀ c ∈ cs, Node.Within w c
  rw [Node.Within, Node.allWithin_iff]

@[simp] theorem within_node (k : Kind) (cs : List Node) :
    Within w (Node.node k cs) ↔
      (∀ path bang d ts, k = .macroCall → cs = [path, bang, .group d [.unread ts]] →
        TokenTree.sizes ts < w) ∧ Within w cs := by
  show Node.Within w _ ↔ _ ∧ ∀ c ∈ cs, Node.Within w c
  rw [Node.Within, Node.allWithin_iff]

@[simp] theorem within_ite (c : Prop) [Decidable c] (a b : α) :
    Within w (if c then a else b) ↔ (c → Within w a) ∧ (¬ c → Within w b) := by
  split <;> simp_all

@[simp] theorem within_map {f : α → β} {o : Option α} (hf : ∀ a, Within w a → Within w (f a))
    (ho : Within w o) : Within w (o.map f) := by
  cases o with
  | none => exact within_none
  | some a => exact (within_some _).2 (hf a ((within_some a).1 ho))

@[simp] theorem within_getD {o : Option α} {a : α} (ho : Within w o) (ha : Within w a) :
    Within w (o.getD a) := by
  cases o with
  | none => exact ha
  | some b => exact (within_some b).1 ho

@[simp] theorem within_absent : Within w Node.absent := by simp [Node.absent]

@[simp] theorem within_list (cs : List Node) : Within w (Node.list cs) ↔ Within w cs := by
  simp [Node.list]

@[simp] theorem within_children {n : Node} (h : Within w n) : Within w n.children := by
  cases n with
  | group d cs => exact (within_group d cs).1 h
  | node k cs => exact ((within_node k cs).1 h).2
  | _ => exact within_nil

end Yield

/-! ### Readers -/

open Yield

/-- At most `w` tokens are left. -/
def Cursor.Inside (w : Nat) (c : Cursor) : Prop := TokenTree.sizes c.rest ≤ w

variable {α β : Type} [Yield α] [Yield β] {w : Nat}

/-- Where at most `w` tokens are left, a reader leaves at most as many, and the macros that it reads
have fewer than `w` tokens as arguments. -/
abbrev Reads (w : Nat) (r : Reader α) : Prop :=
  Triple r (fun c : Cursor ↦ ⌜c.Inside w⌝)
    (post⟨fun a c ↦ ⌜c.Inside w ∧ Within w a⌝, fun _ ↦ ⌜True⌝⟩)

theorem reads_iff {r : Reader α} : Reads w r ↔ ∀ (c : Cursor) (a : α) (c' : Cursor), c.Inside w →
    r c = .ok (a, c') → c'.Inside w ∧ Within w a := by
  constructor
  · intro h c a c' hc hr
    have hpost := h c hc
    simp only [WP.wp, PredTrans.apply_pushArg] at hpost
    rwa [show StateT.run r c = .ok (a, c') from hr] at hpost
  · intro h c hc
    simp only [WP.wp, PredTrans.apply_pushArg]
    cases hr : StateT.run r c with
    | ok p => exact h c p.1 p.2 hc hr
    | error e => trivial

theorem sizes_append (ts ts' : List TokenTree) :
    TokenTree.sizes (ts ++ ts') = TokenTree.sizes ts + TokenTree.sizes ts' := by
  induction ts with
  | nil => simp [TokenTree.sizes]
  | cons t ts ih => simp [TokenTree.sizes, ih, Nat.add_assoc]

/-- What is left of a forest has at most its size. -/
theorem sizes_le_of_suffix {ts ts' : List TokenTree} (h : ts <:+ ts') :
    TokenTree.sizes ts ≤ TokenTree.sizes ts' := by
  obtain ⟨front, rfl⟩ := h
  rw [sizes_append]
  exact Nat.le_add_left _ _

theorem inside_of_suffix {c c' : Cursor} (h : c'.rest <:+ c.rest) (hc : c.Inside w) :
    c'.Inside w := (sizes_le_of_suffix h).trans hc

/-! ### What comes next, and refusing -/

@[spec]
theorem peek_reads (p : Probe) : Reads w (Reader.peek p) := by
  mvcgen [Reader.peek]

@[spec]
theorem atEnd_reads : Reads w Reader.atEnd := by
  mvcgen [Reader.atEnd]

/-- A reader has no answer. -/
abbrev Fails {α : Type} (r : Reader α) : Prop :=
  Triple r (fun _ : Cursor ↦ ⌜True⌝) (post⟨fun _ _ ↦ ⌜False⌝, fun _ ↦ ⌜True⌝⟩)

@[spec]
theorem failAt_fails {α : Type} (s : Span) (m : String) : Fails (Reader.failAt s m : Reader α) :=
  fun _ _ ↦ trivial

@[spec]
theorem fail_fails {α : Type} (m : String) : Fails (Reader.fail m : Reader α) := by
  mvcgen [Reader.fail]

@[spec]
theorem expected_fails {α : Type} (things : List String) :
    Fails (Reader.expected things : Reader α) := by
  mvcgen [Reader.expected]

/-! ### Trying -/

@[spec]
theorem attempt?_reads {r : Reader α} (h : Reads w r) : Reads w (Reader.attempt? r) := by
  rw [reads_iff] at h ⊢
  intro c a c' hc hr
  unfold Reader.attempt? at hr
  split at hr
  · next hok =>
    cases hr
    simpa using h c _ _ hc hok
  · cases hr
    exact ⟨hc, within_none⟩

@[spec]
theorem ahead?_reads {r : Reader α} (h : Reads w r) : Reads w (Reader.ahead? r) := by
  rw [reads_iff] at h ⊢
  intro c a c' hc hr
  unfold Reader.ahead? at hr
  split at hr
  · next hok =>
    cases hr
    exact ⟨hc, (within_some _).2 (h c _ _ hc hok).2⟩
  · cases hr
    exact ⟨hc, within_none⟩

@[spec]
theorem ahead_reads {r : Reader α} (h : Reads w r) : Reads w (Reader.ahead r) := by
  rw [reads_iff] at h ⊢
  intro c a c' hc hr
  unfold Reader.ahead at hr
  split at hr
  · next hok =>
    cases hr
    exact ⟨hc, (h c _ _ hc hok).2⟩
  · cases hr

@[spec]
theorem treesSince_reads (start : Cursor) : Reads w (Reader.treesSince start) := by
  mvcgen [Reader.treesSince] with simp_all

@[spec]
theorem verbatimSince_reads (start : Cursor) : Reads w (Reader.verbatimSince start) := by
  mvcgen [Reader.verbatimSince] with simp_all

@[spec]
theorem taking_reads {r : Reader α} (h : Reads w r) : Reads w (Reader.taking r) := by
  mvcgen [Reader.taking, h] with simp_all

@[spec]
theorem verbatim_reads {r : Reader α} (h : Reads w r) : Reads w (Reader.verbatim r) := by
  mvcgen [Reader.verbatim, h] with simp_all

/-! ### Tokens -/

@[spec]
theorem advance_reads : Reads w Reader.advance := by
  mvcgen [Reader.advance]
  exact ⟨inside_of_suffix (List.tail_suffix _) ‹_›, trivial⟩

@[spec]
theorem op_reads (t : String) : Reads w (Reader.op t) := by
  rw [reads_iff]
  intro c a c' hc hr
  unfold Reader.op at hr
  split at hr
  · next hrest =>
    cases hr
    exact ⟨inside_of_suffix (Reader.operator?_suffix hrest) hc, trivial⟩
  · cases hr

@[spec]
theorem keyword_reads (t : String) : Reads w (Reader.keyword t) := by
  mvcgen [Reader.keyword] with simp_all

@[spec]
theorem anyWord_reads : Reads w Reader.anyWord := by
  mvcgen [Reader.anyWord] with simp_all

@[spec]
theorem name_reads : Reads w Reader.name := by
  mvcgen [Reader.name] with simp_all

@[spec]
theorem lifetime_reads : Reads w Reader.lifetime := by
  mvcgen [Reader.lifetime] with simp_all

@[spec]
theorem literal_reads : Reads w Reader.literal := by
  mvcgen [Reader.literal] with simp_all

@[spec]
theorem op?_reads (t : String) : Reads w (Reader.op? t) := by
  mvcgen [Reader.op?] with simp_all

@[spec]
theorem keyword?_reads (t : String) : Reads w (Reader.keyword? t) := by
  mvcgen [Reader.keyword?] with simp_all

@[spec]
theorem whenNext_reads (p : Probe) {r : Reader Node} (h : Reads w r) :
    Reads w (Reader.whenNext p r) := by
  mvcgen [Reader.whenNext, h] with simp_all

/-! ### Groups -/

/-- The inside of a group is smaller than what it stands in. -/
theorem sizes_inside_lt {c : Cursor} (hc : c.Inside w) {d : Delimiter} {opening closing : Span}
    {inside rest : List TokenTree} (h : c.rest = .group d opening closing inside :: rest) :
    TokenTree.sizes inside < w := by
  unfold Cursor.Inside at hc
  rw [h, TokenTree.sizes, TokenTree.size] at hc
  omega

@[spec]
theorem inGroup_reads (d : Delimiter) {r : Reader α} (h : Reads w r) :
    Reads w (Reader.inGroup d r) := by
  rw [reads_iff] at h ⊢
  intro c a c' hc hr
  unfold Reader.inGroup at hr
  split at hr
  · next hgroup =>
    split at hr
    · split at hr
      · next hinside =>
        cases hr
        refine ⟨inside_of_suffix ?_ hc, (h _ _ _ ?_ hinside).2⟩
        · rw [hgroup]
          exact List.suffix_cons _ _
        · exact (sizes_inside_lt hc hgroup).le
      · cases hr
    · exact absurd hr nofun
  · exact absurd hr nofun

@[spec]
theorem groupOf_reads (d : Delimiter) {r : Reader (List Node)} (h : Reads w r) :
    Reads w (Reader.groupOf d r) := by
  mvcgen [Reader.groupOf, h] with simp_all

@[spec]
theorem skipParens_reads : Reads w Reader.skipParens := by
  mvcgen [Reader.skipParens]
  exact ⟨Nat.zero_le w, trivial⟩

/-- A group that is left unread holds fewer tokens than there were. -/
@[spec]
theorem unreadGroup_reads :
    Triple Reader.unreadGroup (fun c : Cursor ↦ ⌜c.Inside w⌝)
      (post⟨fun n c ↦ ⌜c.Inside w ∧ Within w n ∧
        ∀ d ts, n = .group d [.unread ts] → TokenTree.sizes ts < w⌝, fun _ ↦ ⌜True⌝⟩) := by
  mvcgen [Reader.unreadGroup]
  · next hc _ _ _ _ _ hgroup _ _ h =>
    refine ⟨h.1, by simp, ?_⟩
    rintro d ts ⟨⟩
    exact sizes_inside_lt hc hgroup
  · exact fun h ↦ h.elim

/-! ### Repetition -/

theorem repeatFor_reads {r : Reader (List Node × Bool)} (h : Reads w r) (fuel : Nat) :
    Reads w (Reader.repeatFor r fuel) := by
  induction fuel with
  | zero =>
    mvcgen [Reader.repeatFor]
    simp_all
  | succ fuel ih =>
    mvcgen [Reader.repeatFor, h, ih]
    all_goals simp_all

@[spec]
theorem repeatNodes_reads {r : Reader (List Node × Bool)} (h : Reads w r) :
    Reads w (Reader.repeatNodes r) := by
  mvcgen [Reader.repeatNodes, repeatFor_reads, h]

@[spec]
theorem parts_reads {r : Reader (List Node × Bool)} (h : Reads w r) :
    Reads w (Reader.parts r) := by
  mvcgen [Reader.parts, h] with simp_all

@[spec]
theorem separated_reads (done : Probe) (separator : String) {element : Reader Node}
    (h : Reads w element) : Reads w (Reader.separated done separator element) := by
  mvcgen [Reader.separated, h] with simp_all

@[spec]
theorem commaList_reads {element : Reader Node} (h : Reads w element) :
    Reads w (Reader.commaList element) := by
  mvcgen [Reader.commaList, h]

@[spec]
theorem untilEnd_reads {element : Reader Node} (h : Reads w element) :
    Reads w (Reader.untilEnd element) := by
  mvcgen [Reader.untilEnd, h] with simp_all

@[spec]
theorem sum_reads (done : Probe) {element : Reader Node} (h : Reads w element) :
    Reads w (Reader.sum done element) := by
  mvcgen [Reader.sum, h] with simp_all

end RenderTrace.Syntax
