import RenderTrace.Proofs.Text.Location
import RenderTrace.Proofs.Token.Lexeme
import RenderTrace.Token.Lexer

/-!
# Where tokens stand

The place of a token says where it is in the text: counted from the start of the text, the
characters from the one end of its span to the other are what the token is spelled with
(`Token.stands_of_run`). A group is spelled with its two delimiters and all between them, and each
of the delimiters has a place of its own.

## Documenting comments

The trees that a documenting comment stands for are not spelled in the text. They all have the place
of the comment, but for the brackets of its attribute, which have the places of its first and its
last character.
-/

namespace RenderTrace

open Lexeme Location

/-! ### Counting on -/

namespace Location

theorem after_append (front back : List Char) :
    after (front ++ back) = (after front).advanceAll back := by
  rw [← advanceAll_start, ← advanceAll_start, advanceAll, List.foldl_append]
  rfl

theorem after_concat (cs : List Char) {c : Char} (hc : c ≠ '\n') :
    after (cs ++ [c]) = ⟨(after cs).line, (after cs).column + 1⟩ := by
  rw [after_append, advanceAll, List.foldl_cons, List.foldl_nil, advance, if_neg hc]

/-- What stands in a line that is gone by does not count for the place. -/
theorem after_append_of_mem {front back : List Char} (hfront : '\n' ∉ front) (hback : '\n' ∈ back) :
    after (front ++ back) = after back := by
  induction front with
  | nil => rfl
  | cons c front ih =>
    obtain ⟨hc, hfront⟩ := not_or.1 (mt List.mem_cons.2 hfront)
    rw [List.cons_append, after, columnOf_cons, if_pos (.inr (List.mem_append_right _ hback)),
      Nat.add_zero, List.count_cons_of_ne (Ne.symm hc)]
    exact ih hfront

end Location

/-! ### Spans in a text -/

namespace Span

/-- A span is where a text reads `inside`, behind `before`. -/
structure Covers (s : Span) (cs before inside : List Char) : Prop where
  /-- The text begins with them. -/
  reads : before ++ inside <+: cs
  start_eq : s.start = after before
  stop_eq : s.stop = after (before ++ inside)

theorem Covers.mono {s : Span} {cs cs' before inside : List Char} (h : s.Covers cs before inside)
    (hcs : cs <+: cs') : s.Covers cs' before inside :=
  ⟨h.reads.trans hcs, h.start_eq, h.stop_eq⟩

end Span

/-! ### Tokens and their places -/

namespace TokenTree

mutual

/-- A tree with all that is inside it. -/
def tokens : TokenTree → List TokenTree
  | .group d opening closing inside => .group d opening closing inside :: tokensAll inside
  | t => [t]

/-- The trees of a forest with all that is inside them. -/
def tokensAll : List TokenTree → List TokenTree
  | [] => []
  | t :: ts => tokens t ++ tokensAll ts

end

theorem tokensAll_append (ts ts' : List TokenTree) :
    tokensAll (ts ++ ts') = tokensAll ts ++ tokensAll ts' := by
  induction ts with
  | nil => rfl
  | cons t ts ih => rw [List.cons_append, tokensAll, tokensAll, ih, List.append_assoc]

theorem mem_tokensAll {ts : List TokenTree} {u : TokenTree} :
    u ∈ tokensAll ts ↔ ∃ t ∈ ts, u ∈ tokens t := by
  induction ts with
  | nil => simp [tokensAll]
  | cons t ts ih => simp [tokensAll, ih]

/-- The places at which a token can be meant: a group as a whole, or by one of its delimiters. -/
def places : TokenTree → List Span
  | .group _ opening closing _ => [opening, closing, opening.join closing]
  | t => [t.span]

/-- What a token is spelled with at one of its places. -/
inductive Spells : List Char → TokenTree → Span → Prop where
  | name (cs : List Char) (s : Span) : Spells cs (.name (.ofList cs) s) s
  | punct (c : Char) (joint : Bool) (s : Span) : Spells [c] (.punct c joint s) s
  | literal (cs : List Char) (s : Span) : Spells cs (.literal (.ofList cs) s) s
  | opening (d : Delimiter) (opening closing : Span) (inside : List TokenTree) :
      Spells [d.opening] (.group d opening closing inside) opening
  | closing (d : Delimiter) (opening closing : Span) (inside : List TokenTree) :
      Spells [d.closing] (.group d opening closing inside) closing
  | group (d : Delimiter) (opening closing : Span) (inside : List TokenTree) (between : List Char) :
      Spells (d.opening :: (between ++ [d.closing])) (.group d opening closing inside)
        (opening.join closing)
  /-- A documenting comment is what all its trees are spelled with. -/
  | comment {cs rest text : List Char} {inner : Bool} (s : Span) {t : TokenTree}
      (h : docComment? (cs ++ rest) = some (text, inner, rest))
      (ht : t ∈ tokensAll (Token.Scan.docAttribute text inner s)) : Spells cs t s
  /-- Its first character stands for the opening bracket. -/
  | first {c : Char} {cs rest text : List Char} {inner : Bool} (s : Span) {t : TokenTree}
      (h : docComment? (c :: cs ++ rest) = some (text, inner, rest))
      (ht : t ∈ tokensAll (Token.Scan.docAttribute text inner s)) : Spells [c] t s.first
  /-- Its last character stands for the closing bracket. -/
  | last {c : Char} {cs rest text : List Char} {inner : Bool} (s : Span) {t : TokenTree}
      (h : docComment? (cs ++ [c] ++ rest) = some (text, inner, rest))
      (ht : t ∈ tokensAll (Token.Scan.docAttribute text inner s)) : Spells [c] t s.last

/-- A token is where its places say. -/
def Stands (cs : List Char) (t : TokenTree) : Prop :=
  ∀ s ∈ t.places, ∃ before inside, s.Covers cs before inside ∧ Spells inside t s

theorem Stands.mono {cs cs' : List Char} {t : TokenTree} (h : t.Stands cs) (hcs : cs <+: cs') :
    t.Stands cs' := fun s hs ↦ by
  obtain ⟨before, inside, hcovers, hspells⟩ := h s hs
  exact ⟨before, inside, hcovers.mono hcs, hspells⟩

end TokenTree

/-! ### The beginning of a text -/

namespace Token.Scan

open TokenTree

/-- The trees that are read so far, those in front of the open groups included. -/
def read (s : Scan) : List TokenTree := s.done ++ s.stack.flatMap (·.before)

/-- The lexer has read `seen`, the beginning of a text, and knows where that was. -/
structure Reads (cs seen : List Char) (s : Scan) : Prop where
  text : cs = seen ++ s.rest
  place : s.place = after seen
  /-- The open groups were opened where they say. -/
  opened : ∀ frame ∈ s.stack, ∃ before, frame.opening.Covers seen before [frame.delimiter.opening]
  /-- The tokens so far are where they say. -/
  stands : ∀ t ∈ tokensAll s.read, t.Stands seen

variable {cs seen : List Char} {s : Scan}

/-- A lexeme is where it was read. -/
theorem Reads.covers {rest taken : List Char} (hs : s.Reads cs seen)
    (hrest : s.rest = taken ++ rest) :
    (⟨s.place, (s.moveTo rest).place⟩ : Span).Covers (seen ++ taken) seen taken where
  reads := List.prefix_rfl
  start_eq := hs.place
  stop_eq := by
    rw [moveTo, hrest, List.length_append, Nat.add_sub_cancel, List.take_left, hs.place,
      after_append]

/-- Going on with more trees. -/
theorem Reads.adds {rest taken : List Char} (hs : s.Reads cs seen) (hrest : s.rest = taken ++ rest)
    (trees : List TokenTree) (htrees : ∀ t ∈ tokensAll trees, t.Stands (seen ++ taken)) :
    Reads cs (seen ++ taken) { s.moveTo rest with done := trees ++ s.done } where
  text := by rw [hs.text, hrest, List.append_assoc]; rfl
  place := (hs.covers hrest).stop_eq
  opened frame hframe := by
    obtain ⟨before, hcovers⟩ := hs.opened frame hframe
    exact ⟨before, hcovers.mono (List.prefix_append _ _)⟩
  stands t ht := by
    have hread : read { s.moveTo rest with done := trees ++ s.done } = trees ++ s.read :=
      List.append_assoc ..
    rw [hread, tokensAll_append, List.mem_append] at ht
    exact ht.elim (htrees t) fun ht ↦ (hs.stands t ht).mono (List.prefix_append _ _)

theorem Reads.moveTo {rest : List Char} (hs : s.Reads cs seen) (hrest : rest <:+ s.rest) :
    ∃ seen', (s.moveTo rest).Reads cs seen' :=
  ⟨_, hs.adds (taken_append hrest).symm [] fun t ht ↦ by cases ht⟩

theorem Reads.skip (hs : s.Reads cs seen) : ∃ seen', s.skip.Reads cs seen' :=
  hs.moveTo (skipBlanks_suffix _ _)

/-! ### Leaves -/

/-- A leaf is spelled with the characters that it takes. -/
theorem spells_of_leaf? {rest : List Char} {tree : Span → TokenTree}
    (h : s.leaf? = some (rest, tree)) : ∃ taken, s.rest = taken ++ rest ∧ ∀ span,
      tokens (tree span) = [tree span] ∧ (tree span).places = [span] ∧
        Spells taken (tree span) span := by
  unfold leaf? at h
  extract_lets literal punct name placeholder at h
  simp only [Option.orElse_eq_orElse, Option.orElse_eq_or, Option.or_eq_some_iff] at h
  rcases h with h | ⟨-, h | ⟨-, h | ⟨-, h⟩⟩⟩
  · obtain ⟨after, hliteral, heq⟩ := Option.map_eq_some_iff.1 h
    obtain ⟨rfl, rfl⟩ := Prod.mk.inj heq
    exact ⟨_, (taken_append (suffix_of_literal? hliteral)).symm,
      fun span ↦ ⟨rfl, rfl, .literal _ span⟩⟩
  · obtain ⟨⟨c, joint, after⟩, hpunct, heq⟩ := Option.map_eq_some_iff.1 h
    obtain ⟨rfl, rfl⟩ := Prod.mk.inj heq
    exact ⟨[c], cons_of_punct? hpunct, fun span ↦ ⟨rfl, rfl, .punct c joint span⟩⟩
  · obtain ⟨after, hname, heq⟩ := Option.map_eq_some_iff.1 h
    obtain ⟨rfl, rfl⟩ := Prod.mk.inj heq
    exact ⟨_, (taken_append (suffix_of_name? hname)).symm, fun span ↦ ⟨rfl, rfl, .name _ span⟩⟩
  · obtain ⟨hbegins, heq⟩ := Option.ite_none_right_eq_some.1 h
    obtain ⟨rfl, rfl⟩ := Prod.mk.inj (Option.some.inj heq)
    obtain ⟨behind, hrest⟩ := List.isPrefixOf_iff_prefix.1 hbegins
    exact ⟨unwritable, by rw [← hrest, List.drop_left], fun span ↦ ⟨rfl, rfl, .literal _ span⟩⟩

/-! ### Documenting comments -/

/-- The trees of a documenting comment stand at the comment, or at one of its ends. -/
theorem places_docAttribute (text : List Char) (inner : Bool) (span : Span) :
    ∀ t ∈ tokensAll (docAttribute text inner span), ∀ p ∈ t.places,
      p = span.first ∨ p = span.last ∨ p = span := by
  have hjoin : span.first.join span.last = span := rfl
  cases inner <;> simp [docAttribute, tokensAll, tokens, places, TokenTree.span, hjoin]

theorem stands_of_docComment? {rest text : List Char} {inner : Bool} (hs : s.Reads cs seen)
    (h : docComment? s.rest = some (text, inner, rest)) :
    ∃ taken, s.rest = taken ++ rest ∧
      ∀ t ∈ tokensAll (docAttribute text inner ⟨s.place, (s.moveTo rest).place⟩),
        t.Stands (seen ++ taken) := by
  obtain ⟨c, front, d, hrest, hc, hd⟩ := exists_of_docComment? h
  have htaken : s.rest = c :: front ++ [d] ++ rest := by simp [hrest]
  rw [htaken] at h
  have hcovers := hs.covers htaken
  refine ⟨c :: front ++ [d], htaken, fun t ht p hp ↦ ?_⟩
  rcases places_docAttribute text inner _ t ht p hp with rfl | rfl | rfl
  · refine ⟨seen, [c], ⟨by simp, hcovers.start_eq, ?_⟩, .first _ h ht⟩
    rw [after_concat _ hc, Span.first, hcovers.start_eq]
  · have hstop := hcovers.stop_eq
    rw [← List.append_assoc] at hstop
    refine ⟨seen ++ c :: front, [d], ⟨by simp, ?_, hstop⟩, .last _ h ht⟩
    rw [after_concat _ hd] at hstop
    rw [Span.last, hstop, Nat.add_sub_cancel]
  · exact ⟨seen, c :: front ++ [d], hcovers, .comment _ h ht⟩

/-! ### Groups -/

theorem eq_opening {c : Char} {d : Delimiter} (h : s.opening? c = some d) : c = d.opening := by
  obtain ⟨-, hfind⟩ := Option.ite_none_left_eq_some.1 h
  have hsame := List.find?_some hfind
  exact (eq_of_beq hsame).symm

theorem eq_closing {c : Char} {d : Delimiter} (h : Delimiter.ofClosing? c = some d) :
    c = d.closing := by
  have hsame := List.find?_some h
  exact (eq_of_beq hsame).symm

/-- A group that is closed stands from its opening delimiter to its closing one. -/
theorem stands_group {d : Delimiter} {opening closing : Span} {before : List Char}
    (inside : List TokenTree) (hopening : opening.Covers seen before [d.opening])
    (hclosing : closing.Covers (seen ++ [d.closing]) seen [d.closing]) :
    (TokenTree.group d opening closing inside).Stands (seen ++ [d.closing]) := by
  obtain ⟨between, hbetween⟩ := hopening.reads
  intro p hp
  simp only [places, List.mem_cons, List.not_mem_nil, or_false] at hp
  rcases hp with rfl | rfl | rfl
  · exact ⟨before, _, hopening.mono (List.prefix_append _ _), .opening d _ _ inside⟩
  · exact ⟨seen, _, hclosing, .closing d _ _ inside⟩
  · have hseen : seen ++ [d.closing] = before ++ d.opening :: (between ++ [d.closing]) := by
      simp [← hbetween]
    refine ⟨before, _, ⟨?_, hopening.start_eq, ?_⟩, .group d _ _ inside between⟩
    · exact hseen ▸ List.prefix_rfl
    · exact hseen ▸ hclosing.stop_eq

/-- Opening a group. -/
theorem Reads.opens {d : Delimiter} {behind : List Char} (hs : s.Reads cs seen)
    (hrest : s.rest = [d.opening] ++ behind) :
    Reads cs (seen ++ [d.opening]) { s.moveTo behind with
      stack := ⟨d, ⟨s.place, (s.moveTo behind).place⟩, s.done⟩ :: s.stack, done := [] } where
  text := (hs.adds hrest [] nofun).text
  place := (hs.covers hrest).stop_eq
  opened frame hframe := by
    rcases List.mem_cons.1 hframe with rfl | hframe
    · exact ⟨seen, hs.covers hrest⟩
    · exact (hs.adds hrest [] nofun).opened frame hframe
  stands := (hs.adds hrest [] nofun).stands

/-- Closing the group that was opened last. -/
theorem Reads.closes {frame : Frame} {stack : List Frame} {behind : List Char}
    (hs : s.Reads cs seen) (hstack : s.stack = frame :: stack)
    (hrest : s.rest = [frame.delimiter.closing] ++ behind) :
    Reads cs (seen ++ [frame.delimiter.closing]) { s.moveTo behind with
      stack, done := .group frame.delimiter frame.opening ⟨s.place, (s.moveTo behind).place⟩
        s.done.reverse :: frame.before } where
  text := (hs.adds hrest [] nofun).text
  place := (hs.covers hrest).stop_eq
  opened frame' hframe :=
    (hs.adds hrest [] nofun).opened frame' (hstack ▸ List.mem_cons_of_mem _ hframe)
  stands t ht := by
    have hread : s.read = s.done ++ (frame.before ++ stack.flatMap (·.before)) := by
      rw [read, hstack]
      rfl
    have hstands (ht : t ∈ tokensAll s.read) : t.Stands (seen ++ [frame.delimiter.closing]) :=
      (hs.stands t ht).mono (List.prefix_append _ _)
    rw [hread, tokensAll_append, List.mem_append] at hstands
    simp only [read, List.cons_append, tokensAll, tokens, List.mem_cons, List.mem_append] at ht
    rcases ht with rfl | ht | ht
    · obtain ⟨before, hopened⟩ := hs.opened frame (hstack ▸ List.mem_cons_self)
      exact stands_group s.done.reverse hopened (hs.covers hrest)
    · obtain ⟨u, hu, ht⟩ := mem_tokensAll.1 ht
      exact hstands (.inl (mem_tokensAll.2 ⟨u, List.mem_reverse.1 hu, ht⟩))
    · exact hstands (.inr ht)

/-! ### Going through the text -/

theorem step_reads {c : Char} {behind : List Char} {s' : Scan} (hs : s.Reads cs seen)
    (hrest : s.rest = c :: behind) (h : s.step c = .ok s') : ∃ seen', s'.Reads cs seen' := by
  have hbehind : s.rest.tail = behind := by rw [hrest, List.tail_cons]
  unfold step at h
  rw [hbehind] at h
  split at h
  · next d hopening =>
    obtain rfl := Except.ok.inj h
    obtain rfl := eq_opening hopening
    exact ⟨_, hs.opens hrest⟩
  split at h
  · next d hclosing =>
    split at h
    case h_1 => cases h
    case h_2 frame stack hstack =>
      split at h
      case isFalse => cases h
      case isTrue hsame =>
        obtain rfl := Except.ok.inj h
        obtain rfl := eq_closing hclosing
        subst hsame
        exact ⟨_, hs.closes hstack hrest⟩
  · split at h
    case h_2 => cases h
    case h_1 rest tree hleaf =>
      obtain rfl := Except.ok.inj h
      obtain ⟨taken, htaken, hspells⟩ := spells_of_leaf? hleaf
      obtain ⟨htokens, hplaces, hspells⟩ := hspells ⟨s.place, (s.moveTo rest).place⟩
      refine ⟨seen ++ taken, hs.adds htaken [tree _] fun t ht ↦ ?_⟩
      rw [tokensAll, htokens, tokensAll, List.append_nil, List.mem_singleton] at ht
      subst ht
      intro p hp
      rw [hplaces, List.mem_singleton] at hp
      exact ⟨seen, taken, hp ▸ hs.covers htaken, hp ▸ hspells⟩

/-- What is read from a text stands in it, wherever the text was begun to be read. -/
theorem stands_of_run {fuel : Nat} {trees : List TokenTree} (hs : s.skip.Reads cs seen)
    (h : run fuel s = .ok trees) : ∀ t ∈ tokensAll trees, t.Stands cs := by
  induction fuel generalizing s seen with
  | zero => cases h
  | succ fuel ih =>
    rw [run] at h
    split at h
    · next text inner rest hdoc =>
      obtain ⟨taken, hrest, htrees⟩ := stands_of_docComment? hs hdoc
      obtain ⟨seen', hseen'⟩ := (hs.adds hrest _ htrees).skip
      exact ih hseen' h
    split at h
    · next hrest =>
      split at h
      case h_2 => cases h
      case h_1 hstack =>
        obtain rfl := Except.ok.inj h
        intro t ht
        -- nothing is open at the end, so what was read is what was done
        have hread : s.skip.read = s.skip.done := by simp [read, hstack]
        refine (hs.stands t ?_).mono ⟨s.skip.rest, hs.text.symm⟩
        rw [hread]
        obtain ⟨u, hu, ht⟩ := mem_tokensAll.1 ht
        exact mem_tokensAll.2 ⟨u, List.mem_reverse.1 hu, ht⟩
    · next c behind hrest =>
      cases hstep : s.skip.step c with
      | error e => rw [hstep] at h; cases h
      | ok s' =>
        rw [hstep] at h
        obtain ⟨seen', hs'⟩ := step_reads hs hrest hstep
        obtain ⟨seen'', hs''⟩ := hs'.skip
        exact ih hs'' h

end Token.Scan

/-! ### Whole texts -/

namespace Token

open TokenTree Scan

theorem start_reads (cs : List Char) : (start cs).Reads cs [] :=
  ⟨rfl, rfl, nofun, nofun⟩

theorem skipMark_reads (cs : List Char) : ∃ seen, (start cs).skipMark.Reads cs seen := by
  unfold skipMark
  split
  · next rest hrest => exact (start_reads cs).moveTo (hrest ▸ List.suffix_cons _ rest)
  · exact ⟨[], start_reads cs⟩

/-- Where a text begins with the end of a line, what stands in that line before it makes no
difference. -/
theorem skip_reads_of_line {front : List Char} (hfront : '\n' ∉ front) (cs : List Char) :
    ∃ seen, (start ('\n' :: cs)).skip.Reads (front ++ '\n' :: cs) seen := by
  have hskip : (start ('\n' :: cs)).skip =
      (start ('\n' :: cs)).moveTo (skipBlanks (cs.length + 1) cs) := rfl
  obtain ⟨blanks, hblanks⟩ := skipBlanks_suffix (cs.length + 1) cs
  have hrest : (start ('\n' :: cs)).rest = '\n' :: blanks ++ skipBlanks (cs.length + 1) cs :=
    congrArg ('\n' :: ·) hblanks.symm
  have hplace := ((start_reads _).covers hrest).stop_eq
  rw [hskip]
  refine ⟨front ++ '\n' :: blanks, ⟨?_, ?_, nofun, nofun⟩⟩
  · rw [List.append_assoc]
    exact congrArg (front ++ ·) hrest
  · rw [after_append_of_mem hfront List.mem_cons_self]
    exact hplace

/-- **Tokens stand where their places say**: what is read of a text stands in it, and where the text
goes on from the end of a line, in the whole text as well. -/
theorem stands_of_forest? {front : List Char} {text : String} {trees : List TokenTree}
    (hfront : front ≠ [] → '\n' ∉ front ∧ ∀ c ∈ text.toList.head?, c = '\n')
    (h : forest? text = .ok trees) : ∀ t ∈ tokensAll trees, t.Stands (front ++ text.toList) := by
  unfold forest? at h
  by_cases hempty : front = []
  · subst hempty
    obtain ⟨seen, hreads⟩ := skipMark_reads text.toList
    obtain ⟨seen', hreads'⟩ := hreads.skip
    exact stands_of_run hreads' h
  · obtain ⟨hline, hhead⟩ := hfront hempty
    cases htext : text.toList with
    | nil =>
      rw [htext] at h
      obtain rfl : [] = trees := Except.ok.inj h
      exact nofun
    | cons c cs =>
      obtain rfl : c = '\n' := hhead c (by rw [htext]; rfl)
      rw [htext] at h
      obtain ⟨seen, hreads⟩ := skip_reads_of_line hline cs
      exact stands_of_run hreads h

end Token

end RenderTrace
