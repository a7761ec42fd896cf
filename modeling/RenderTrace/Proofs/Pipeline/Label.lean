import RenderTrace.Pipeline
import RenderTrace.Proofs.Token.Standing

/-!
# What a failure points at

A text that is no unit fails with a stretch of bytes. The parser says by lines and columns what the
failure is about, and it counts them in what it is given: a text without its byte order mark. The
bytes are counted in the whole text. So the stretch is the tokens that the parser means, unless they
begin in the first line behind such a mark; there it begins one character too early
(`parseUnit_points`). A first line for the shell makes no difference, since the parser is given the
line feed behind it.
-/

namespace RenderTrace

open Syntax TokenTree Location

/-! ### What is made into tokens -/

namespace Syntax.SourceUnit

/-- The part of a text that is made into tokens. -/
def lexed (source : String) : String :=
  .ofList (splitShebang (withoutMark source.toList)).2

/-- The byte order mark in front of a text, if there is one. -/
def markOf (source : String) : String :=
  match source.toList with
  | '\ufeff' :: _ => "\ufeff"
  | _ => ""

theorem toList_eq (source : String) :
    source.toList = (markOf source).toList ++ withoutMark source.toList := by
  unfold markOf
  split
  · next hmark => rw [hmark]; rfl
  · next hnone =>
    unfold withoutMark
    split
    · next rest hmark => exact (hnone rest hmark).elim
    · rfl

/-- The first line of a text, and what it ends with. -/
theorem exists_firstLine (cs : List Char) : ∃ front, cs = front ++ cs.dropWhile (· != '\n') ∧
    '\n' ∉ front ∧ ∀ c ∈ (cs.dropWhile (· != '\n')).head?, c = '\n' := by
  refine ⟨cs.takeWhile (· != '\n'), List.takeWhile_append_dropWhile.symm, fun hmem ↦ ?_, ?_⟩
  · simpa using List.mem_takeWhile_imp hmem
  · intro c hc
    have hends := List.head?_dropWhile_not (· != '\n') cs
    rw [hc] at hends
    simpa using hends

theorem exists_splitShebang (cs : List Char) : ∃ front, cs = front ++ (splitShebang cs).2 ∧
    (front ≠ [] → '\n' ∉ front ∧ ∀ c ∈ (splitShebang cs).2.head?, c = '\n') := by
  have hwhole : ∃ front, cs = front ++ cs ∧ (front ≠ [] → '\n' ∉ front ∧ ∀ c ∈ cs.head?, c = '\n') :=
    ⟨[], rfl, fun h ↦ absurd rfl h⟩
  obtain ⟨front, hcs, hfront⟩ := exists_firstLine cs
  unfold splitShebang
  split
  · split
    · exact hwhole
    · exact ⟨front, hcs, fun _ ↦ hfront⟩
  · exact hwhole

theorem stands_of_lexed {source : String} {trees : List TokenTree}
    (h : Token.forest? (lexed source) = .ok trees) :
    ∀ t ∈ tokensAll trees, t.Stands (withoutMark source.toList) := by
  obtain ⟨front, hcs, hfront⟩ := exists_splitShebang (withoutMark source.toList)
  have hlexed : (lexed source).toList = (splitShebang (withoutMark source.toList)).2 :=
    String.toList_ofList
  rw [hcs, ← hlexed]
  rw [← hlexed] at hfront
  exact Token.stands_of_forest? hfront h

/-- A text is no unit for its characters, or for its tokens. -/
theorem fault_of_parse {source : String} {e : SyntaxError} (h : parse source = .error e) :
    (∃ l, Token.forest? (lexed source) = .error l ∧ e.span = ⟨l, l⟩) ∨
      ∃ trees, Token.forest? (lexed source) = .ok trees ∧
        (Grammar.closed reader).run trees = .error e := by
  have hread : readText reader (lexed source) = .error e := by
    unfold parse at h
    rw [lexed]
    dsimp only at h
    cases hread : readText reader (.ofList (splitShebang (withoutMark source.toList)).2) with
    | error e' =>
      rw [hread] at h
      cases h
      rfl
    | ok p => rw [hread] at h; cases h
  unfold readText at hread
  split at hread
  · next l hforest => exact .inl ⟨l, hforest, Except.error.inj hread ▸ rfl⟩
  · next trees hforest => exact .inr ⟨trees, hforest, hread⟩

end Syntax.SourceUnit

open SourceUnit

/-! ### Tokens of a source -/

/-- A token of a source at one of its places: behind the mark of the source and behind `front`, the
source reads `piece` there. Places are counted behind the mark. -/
structure StandsAt (source : String) (t : TokenTree) (s : Span) (front piece : String) : Prop where
  reads : ∃ behind, source = markOf source ++ front ++ piece ++ behind
  start_eq : s.start = after front.toList
  stop_eq : s.stop = after (front ++ piece).toList
  spells : Spells piece.toList t s

theorem exists_standsAt {source : String} {trees : List TokenTree}
    (h : Token.forest? (lexed source) = .ok trees) {t : TokenTree} (ht : t ∈ tokensAll trees)
    {s : Span} (hs : s ∈ t.places) : ∃ front piece, StandsAt source t s front piece := by
  obtain ⟨front, piece, ⟨⟨behind, hreads⟩, hstart, hstop⟩, hspells⟩ := stands_of_lexed h t ht s hs
  refine ⟨.ofList front, .ofList piece, ⟨.ofList behind, ?_⟩, ?_, ?_, ?_⟩
  · rw [← String.toList_inj]
    rw [toList_eq source, ← hreads]
    simp
  · rwa [String.toList_ofList]
  · rwa [← String.ofList_append, String.toList_ofList]
  · rwa [String.toList_ofList]

/-! ### Turning back over a mark -/

theorem after_of_not_mem {cs : List Char} (h : '\n' ∉ cs) : after cs = ⟨1, cs.length⟩ := by
  rw [after, List.count_eq_zero.2 h, columnOf, List.rtakeWhile_eq_self_iff.2]
  simpa using fun c (hc : c ∈ cs) (heq : c = '\n') ↦ h (heq ▸ hc)

theorem line_after (cs : List Char) : (after cs).line = 1 ↔ '\n' ∉ cs := by
  rw [← List.count_eq_zero]
  exact Nat.succ_inj

theorem markOf_eq (source : String) : markOf source = "" ∨ markOf source = "\ufeff" := by
  unfold markOf
  split
  · exact .inr rfl
  · exact .inl rfl

/-- In all other lines but the first one a mark does not count. -/
theorem offset_of_line {source front behind : String}
    (hreads : source = markOf source ++ front ++ behind)
    (h : markOf source = "" ∨ (after front.toList).line ≠ 1) :
    (after front.toList).offset source = (markOf source ++ front).utf8ByteSize := by
  have hafter : after front.toList = after (markOf source ++ front).toList := by
    rcases markOf_eq source with hmark | hmark
    · rw [hmark, String.empty_append]
    · have hline : '\n' ∈ front.toList := by
        simpa [hmark, line_after] using h
      rw [hmark, String.toList_append, after_append_of_mem (by decide) hline]
  have hoffset := offset_after (markOf source ++ front) behind
  rwa [← hreads, ← hafter] at hoffset

/-- In the first line behind a mark, the column of a place is that of the character before it. -/
theorem offset_of_firstLine {source front behind : String}
    (hreads : source = markOf source ++ front ++ behind) (hmark : markOf source ≠ "")
    (hline : (after front.toList).line = 1) :
    ∃ earlier c, markOf source ++ front = earlier ++ String.singleton c ∧
      (after front.toList).offset source = earlier.utf8ByteSize := by
  rw [line_after] at hline
  have hchars : (markOf source ++ front).toList = '\ufeff' :: front.toList := by
    rw [(markOf_eq source).resolve_left hmark, String.toList_append]
    rfl
  rcases List.eq_nil_or_concat ('\ufeff' :: front.toList) with hnil | ⟨earlier, c, hlast⟩
  · cases hnil
  have hearlier : '\n' ∉ earlier := fun hmem ↦ by
    have hmem : '\n' ∈ '\ufeff' :: front.toList := by simp [hlast, hmem]
    exact hline (by simpa using hmem)
  have hafter : after front.toList = after (String.ofList earlier).toList := by
    have hlength : front.toList.length = earlier.length := by simpa using congrArg List.length hlast
    rw [String.toList_ofList, after_of_not_mem hline, after_of_not_mem hearlier, hlength]
  have hbegins : markOf source ++ front = .ofList earlier ++ String.singleton c := by
    rw [← String.toList_inj, hchars, hlast]
    simp
  refine ⟨.ofList earlier, c, hbegins, ?_⟩
  have hoffset := offset_after (.ofList earlier) (String.singleton c ++ behind)
  rwa [← String.append_assoc, ← hbegins, ← hreads, ← hafter] at hoffset

/-! ### Failures -/

theorem fault_of_parseUnit {source : String} {e : SyntaxError} {offset length : Nat}
    (h : parseUnit source = .error (.parse e offset length)) :
    SourceUnit.parse source = .error e ∧ e.span.bytes source = (offset, length) := by
  unfold parseUnit at h
  cases hparse : SourceUnit.parse source with
  | error e' =>
    rw [hparse] at h
    cases h
    exact ⟨rfl, rfl⟩
  | ok u => rw [hparse] at h; cases h

namespace StandsAt

variable {source : String} {t : TokenTree} {s : Span} {front piece : String}

theorem reads_start (h : StandsAt source t s front piece) :
    ∃ behind, source = markOf source ++ front ++ behind := by
  obtain ⟨behind, hreads⟩ := h.reads
  exact ⟨piece ++ behind, by rw [← String.append_assoc, ← hreads]⟩

theorem reads_stop (h : StandsAt source t s front piece) :
    ∃ behind, source = markOf source ++ (front ++ piece) ++ behind := by
  obtain ⟨behind, hreads⟩ := h.reads
  exact ⟨behind, by rw [← String.append_assoc, ← hreads]⟩

theorem start_le_stop (h : StandsAt source t s front piece) : s.start.le s.stop = true := by
  rw [h.start_eq, h.stop_eq, String.toList_append, after_append]
  exact (le_of_advanceAll (le_refl _)).1

end StandsAt

/-- **What a failure points at.** A text fails where there is no token, or over its tokens, and these
stand where their places say, counted behind the byte order mark of the text. If the error is about a
token, or about all from one token to a later one, the bytes that the failure points at are theirs,
but if the text has a mark and they begin in its first line: then they begin one character too
early. -/
theorem parseUnit_points {source : String} {e : SyntaxError} {offset length : Nat}
    (h : parseUnit source = .error (.parse e offset length)) :
    ((∃ l, Token.forest? (lexed source) = .error l ∧ e.span = ⟨l, l⟩) ∨
      ∃ trees, Token.forest? (lexed source) = .ok trees ∧
        (Grammar.closed SourceUnit.reader).run trees = .error e ∧
        ∀ t ∈ tokensAll trees, ∀ s ∈ t.places, ∃ front piece, StandsAt source t s front piece) ∧
    ∀ {a b : TokenTree} {p q : Span} {front first front' last : String},
      StandsAt source a p front first → StandsAt source b q front' last →
      e.span = p.join q → p.start.le q.start = true →
      ((offset = (markOf source ++ front).utf8ByteSize ∧
          offset + length = (markOf source ++ (front' ++ last)).utf8ByteSize) ↔
        markOf source = "" ∨ p.start.line ≠ 1) ∧
      (markOf source ≠ "" → p.start.line = 1 →
        ∃ earlier c, markOf source ++ front = earlier ++ String.singleton c ∧
          offset = earlier.utf8ByteSize) := by
  obtain ⟨hparse, hbytes⟩ := fault_of_parseUnit h
  refine ⟨(fault_of_parse hparse).imp_right fun ⟨trees, hforest, hrun⟩ ↦
    ⟨trees, hforest, hrun, fun t ht s hs ↦ exists_standsAt hforest ht hs⟩, ?_⟩
  intro a b p q front first front' last ha hb hspan hle
  have hle := le_trans hle hb.start_le_stop
  obtain ⟨behind, hreads⟩ := ha.reads_start
  obtain ⟨behind', hreads'⟩ := hb.reads_stop
  rw [hspan, Span.bytes, Span.join, Prod.mk.injEq] at hbytes
  obtain ⟨hoffset, hlength⟩ := hbytes
  have hearly (hmark : markOf source ≠ "") (hline : p.start.line = 1) :
      ∃ earlier c, markOf source ++ front = earlier ++ String.singleton c ∧
        offset = earlier.utf8ByteSize := by
    rw [ha.start_eq] at hline hoffset
    obtain ⟨earlier, c, hbegins, hearlier⟩ := offset_of_firstLine hreads hmark hline
    exact ⟨earlier, c, hbegins, hoffset.symm.trans hearlier⟩
  refine ⟨⟨fun hright ↦ ?_, fun hplain ↦ ?_⟩, hearly⟩
  · -- behind a mark, in the first line, the offset is short of the bytes in front
    by_contra hmarked
    obtain ⟨hmark, hline⟩ := not_or.1 hmarked
    obtain ⟨earlier, c, hbegins, hearlier⟩ := hearly hmark (not_not.1 hline)
    have hsize := hright.1.symm.trans hearlier
    rw [hbegins, String.utf8ByteSize_append, String.utf8ByteSize_singleton] at hsize
    have hpos := c.utf8Size_pos
    omega
  · -- elsewhere both ends are turned back into the bytes in front of them
    have hstop : markOf source = "" ∨ q.stop.line ≠ 1 := hplain.imp_right fun hline ↦ by
      rw [le_iff] at hle
      have hfirst : 1 ≤ p.start.line := by
        rw [ha.start_eq]
        exact Nat.le_add_left 1 _
      omega
    have hmono := offset_mono source hle
    rw [ha.start_eq] at hplain hoffset hmono hlength
    rw [hb.stop_eq] at hstop hmono hlength
    rw [offset_of_line hreads hplain] at hoffset hmono hlength
    rw [offset_of_line hreads' hstop] at hmono hlength
    omega

/-- A text with a mark, and a number where the name of a structure should be. -/
def markedText : String := "\ufeffstruct 1;"

/-- The number in it. -/
def markedNumber : TokenTree := .literal "1" ⟨⟨1, 7⟩, ⟨1, 8⟩⟩

theorem parseUnit_points_markedText :
    parseUnit markedText = .error (.parse ⟨⟨⟨1, 7⟩, ⟨1, 8⟩⟩, "expected identifier"⟩ 9 1) ∧
    StandsAt markedText markedNumber ⟨⟨1, 7⟩, ⟨1, 8⟩⟩ "struct " "1" ∧
    ¬ (9 = (markOf markedText ++ "struct ").utf8ByteSize ∧
      9 + 1 = (markOf markedText ++ ("struct " ++ "1")).utf8ByteSize) ∧
    ∃ earlier c, markOf markedText ++ "struct " = earlier ++ String.singleton c ∧
      9 = earlier.utf8ByteSize := by
  have hfails : parseUnit markedText =
      .error (.parse ⟨⟨⟨1, 7⟩, ⟨1, 8⟩⟩, "expected identifier"⟩ 9 1) := by
    have hfailure : (Except.rec some (fun _ ↦ none) (parseUnit markedText) : Option Failure) =
        some (.parse ⟨⟨⟨1, 7⟩, ⟨1, 8⟩⟩, "expected identifier"⟩ 9 1) := by decide +kernel
    cases hparse : parseUnit markedText with
    | error f =>
      rw [hparse] at hfailure
      exact congrArg Except.error (Option.some.inj hfailure)
    | ok u =>
      rw [hparse] at hfailure
      cases hfailure
  have hstands : StandsAt markedText markedNumber ⟨⟨1, 7⟩, ⟨1, 8⟩⟩ "struct " "1" :=
    ⟨⟨";", by decide⟩, by decide, by decide, .literal ['1'] _⟩
  have hmark : markOf markedText ≠ "" := by decide
  obtain ⟨hright, hearly⟩ := (parseUnit_points hfails).2 hstands hstands rfl rfl
  refine ⟨hfails, hstands, fun h ↦ ?_, hearly hmark rfl⟩
  exact (hright.1 h).elim hmark fun hline ↦ hline rfl

end RenderTrace
