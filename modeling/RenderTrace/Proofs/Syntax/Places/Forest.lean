import RenderTrace.Proofs.Syntax.Places.Reader
import RenderTrace.Proofs.Text.Location
import RenderTrace.Proofs.Token.Lexeme
import RenderTrace.Token.Lexer

/-!
# The marks of a text

The lexer only goes forward, and whatever makes a mark takes a character. So the marks that are made
so far stand before the place that it has come to (`Scan.Forward`), and no two of them at the same
place. Names, bars and documenting comments are the lexemes that make marks; the trees that a
documenting comment stands for all have the place of the comment, but only one of them is a mark.
-/

namespace RenderTrace

open Syntax

/-! ### Lexemes take characters -/

namespace Lexeme

theorem length_of_plainName? {cs rest : List Char} (h : plainName? cs = some rest) :
    rest.length < cs.length := by
  unfold plainName? at h
  split at h
  · cases h
  · split at h
    · obtain rfl := Option.some.inj h
      exact Nat.lt_succ_of_le (List.dropWhile_suffix _).length_le
    · cases h

theorem length_of_anyName? {cs rest : List Char} (h : anyName? cs = some rest) :
    rest.length < cs.length := by
  unfold anyName? at h
  split at h
  · obtain ⟨after, hplain, hrest⟩ := Option.bind_eq_some_iff.1 h
    split at hrest
    · cases hrest
    · obtain rfl := Option.some.inj hrest
      have hlt := length_of_plainName? hplain
      simp only [List.length_cons]
      omega
  · exact length_of_plainName? h

theorem length_of_name? {cs rest : List Char} (h : name? cs = some rest) :
    rest.length < cs.length := by
  unfold name? at h
  split at h
  · cases h
  · exact length_of_anyName? h

theorem length_of_punct? {cs rest : List Char} {c : Char} {joint : Bool}
    (h : punct? cs = some (c, joint, rest)) : rest.length < cs.length := by
  rw [cons_of_punct? h]
  exact Nat.lt_succ_self _

theorem length_of_docComment? {cs text rest : List Char} {inner : Bool}
    (h : docComment? cs = some (text, inner, rest)) : rest.length < cs.length := by
  obtain ⟨c, front, d, rfl, -, -⟩ := exists_of_docComment? h
  simp only [List.length_append, List.length_cons]
  omega

end Lexeme

/-! ### Marks that are made -/

namespace Token.Scan

open Lexeme

variable {l : Location}

/-- The marks of the trees that are read so far, those of the open groups included. -/
def marks (l : Location) (s : Scan) : Nat :=
  TokenTree.marksAll l (s.done ++ s.stack.flatMap (·.before))

/-- At most one mark stands at each place, and only at places that the lexer has left behind. -/
def Forward (s : Scan) : Prop :=
  ∀ l, s.marks l ≤ 1 ∧ (s.place.le l = true → s.marks l = 0)

theorem start_forward (cs : List Char) : (start cs).Forward := fun _ ↦ ⟨Nat.zero_le 1, fun _ ↦ rfl⟩

/-- Going on without a mark. -/
theorem Forward.keeps {s s' : Scan} (hs : s.Forward) (hmarks : ∀ l, s'.marks l = s.marks l)
    (hplace : ∀ l, s'.place.le l = true → s.place.le l = true) : s'.Forward := fun l ↦ by
  rw [hmarks l]
  exact ⟨(hs l).1, fun hl ↦ (hs l).2 (hplace l hl)⟩

theorem le_of_moveTo {s : Scan} {rest : List Char} (h : (s.moveTo rest).place.le l = true) :
    s.place.le l = true :=
  (Location.le_of_advanceAll h).1

theorem ne_of_moveTo {s : Scan} {rest : List Char} (hlt : rest.length < s.rest.length)
    (h : (s.moveTo rest).place.le l = true) : s.place ≠ l := by
  refine (Location.le_of_advanceAll h).2 fun hno ↦ ?_
  have hlength := congrArg List.length hno
  simp at hlength
  omega

theorem Forward.moveTo {s : Scan} (hs : s.Forward) (rest : List Char) : (s.moveTo rest).Forward :=
  hs.keeps (fun _ ↦ rfl) fun _ ↦ le_of_moveTo

theorem Forward.skipMark {s : Scan} (hs : s.Forward) : s.skipMark.Forward := by
  unfold Scan.skipMark
  split
  · exact hs.moveTo _
  · exact hs

/-- Going on by a lexeme with the marks of one token, or none. -/
theorem Forward.adds {s : Scan} (hs : s.Forward) (trees : List TokenTree) {rest : List Char}
    (htrees : ∀ l, TokenTree.marksAll l trees ≤ if s.place = l then 1 else 0)
    (hlt : rest.length < s.rest.length ∨ ∀ l, TokenTree.marksAll l trees = 0) :
    Forward { s.moveTo rest with done := trees ++ s.done } := fun l ↦ by
  have hmarks : marks l { s.moveTo rest with done := trees ++ s.done } =
      TokenTree.marksAll l trees + s.marks l := by
    simp only [marks, TokenTree.marksAll_append, Nat.add_assoc]
    rfl
  have hle := htrees l
  rw [hmarks]
  refine ⟨?_, fun hl ↦ ?_⟩
  · split at hle
    · next hplace =>
      have hnone := (hs l).2 (hplace ▸ Location.le_refl _)
      omega
    · have hone := (hs l).1
      omega
  · have hnone := (hs l).2 (le_of_moveTo hl)
    rcases hlt with hlt | hno
    · rw [if_neg (ne_of_moveTo hlt hl)] at hle
      omega
    · rw [hno l, hnone]

theorem marks_docAttribute (text : List Char) (inner : Bool) (span : Span) :
    TokenTree.marksAll l (docAttribute text inner span) = if span.start = l then 1 else 0 := by
  cases inner <;> simp [docAttribute, TokenTree.marksAll, TokenTree.marks]

/-- A leaf is a mark at most where it begins, and if it is one then it takes a character. -/
theorem marks_of_leaf? {s : Scan} {rest : List Char} {tree : Span → TokenTree}
    (h : s.leaf? = some (rest, tree)) :
    (∀ span l, (tree span).marks l ≤ if span.start = l then 1 else 0) ∧
      (rest.length < s.rest.length ∨ ∀ span l, (tree span).marks l = 0) := by
  unfold leaf? at h
  extract_lets literal punct name placeholder at h
  have hliteral : ∀ text span l, (TokenTree.literal text span).marks l = 0 := fun _ _ _ ↦ by
    rw [TokenTree.marks]
  simp only [Option.orElse_eq_orElse, Option.orElse_eq_or, Option.or_eq_some_iff] at h
  rcases h with h | ⟨-, h | ⟨-, h | ⟨-, h⟩⟩⟩
  · obtain ⟨after, -, heq⟩ := Option.map_eq_some_iff.1 h
    obtain ⟨rfl, rfl⟩ := Prod.mk.inj heq
    exact ⟨fun span l ↦ by simp [hliteral], .inr (hliteral _)⟩
  · obtain ⟨⟨c, joint, after⟩, hpunct, heq⟩ := Option.map_eq_some_iff.1 h
    obtain ⟨rfl, rfl⟩ := Prod.mk.inj heq
    refine ⟨fun span l ↦ ?_, .inl (length_of_punct? hpunct)⟩
    rw [TokenTree.marks]
    split <;> split <;> simp_all
  · obtain ⟨after, hname, heq⟩ := Option.map_eq_some_iff.1 h
    obtain ⟨rfl, rfl⟩ := Prod.mk.inj heq
    refine ⟨fun span l ↦ ?_, .inl (length_of_name? hname)⟩
    rw [TokenTree.marks]
    split <;> split <;> simp_all
  · obtain ⟨-, heq⟩ := Option.ite_none_right_eq_some.1 h
    obtain ⟨rfl, rfl⟩ := Prod.mk.inj (Option.some.inj heq)
    exact ⟨fun span l ↦ by simp [hliteral], .inr (hliteral _)⟩

theorem step_forward {s s' : Scan} {c : Char} (hs : s.Forward) (h : s.step c = .ok s') :
    s'.Forward := by
  unfold step at h
  split at h
  · obtain rfl := Except.ok.inj h
    exact hs.keeps (fun l ↦ by simp [marks, moveTo]) fun _ ↦ le_of_moveTo
  split at h
  · split at h
    case h_1 => cases h
    case h_2 frame stack hstack =>
      split at h
      case isFalse => cases h
      obtain rfl := Except.ok.inj h
      refine hs.keeps (fun l ↦ ?_) fun _ ↦ le_of_moveTo
      simp [marks, moveTo, TokenTree.marksAll, TokenTree.marks, TokenTree.marksAll_reverse,
        TokenTree.marksAll_append, hstack]
  · split at h
    case h_2 => cases h
    case h_1 rest tree hleaf =>
      obtain rfl := Except.ok.inj h
      obtain ⟨hmarks, htakes⟩ := marks_of_leaf? hleaf
      refine hs.adds [tree _] (fun l ↦ ?_) (htakes.imp_right fun hno l ↦ ?_)
      · exact hmarks _ l
      · exact hno _ l

/-- What is read has at most one mark at each place, and none behind the text. -/
theorem marks_of_run {fuel : Nat} {s : Scan} {trees : List TokenTree} (hs : s.Forward)
    (h : run fuel s = .ok trees) :
    (∀ l, TokenTree.marksAll l trees ≤ 1) ∧ ∃ l, TokenTree.marksAll l trees = 0 := by
  induction fuel generalizing s with
  | zero => cases h
  | succ fuel ih =>
    have hskip : s.skip.Forward := hs.moveTo _
    rw [run] at h
    split at h
    · next text inner rest hdoc =>
      refine ih (hskip.adds _ (fun l ↦ Nat.le_of_eq ?_) (Or.inl (length_of_docComment? hdoc))) h
      exact marks_docAttribute text inner _
    split at h
    · split at h
      case h_2 => cases h
      case h_1 hstack =>
        obtain rfl := Except.ok.inj h
        have hmarks (l : Location) : TokenTree.marksAll l s.skip.done = s.skip.marks l := by
          simp [marks, hstack]
        refine ⟨fun l ↦ ?_, s.skip.place, ?_⟩
        · rw [TokenTree.marksAll_reverse, hmarks]
          exact (hskip l).1
        · rw [TokenTree.marksAll_reverse, hmarks]
          exact (hskip _).2 (Location.le_refl _)
    · next c rest hrest =>
      cases hstep : s.skip.step c with
      | error e => rw [hstep] at h; cases h
      | ok s' => rw [hstep] at h; exact ih (step_forward hskip hstep) h

end Token.Scan

/-- **A text has at most one mark at each place**, and places where it has none. -/
theorem Token.marks_of_forest? {text : String} {trees : List TokenTree}
    (h : Token.forest? text = .ok trees) :
    (∀ l, TokenTree.marksAll l trees ≤ 1) ∧ ∃ l, TokenTree.marksAll l trees = 0 :=
  Scan.marks_of_run (Scan.start_forward _).skipMark h

end RenderTrace
