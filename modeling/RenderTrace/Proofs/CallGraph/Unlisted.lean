import RenderTrace.Proofs.CallGraph.Reading
import RenderTrace.Proofs.Syntax.Places

/-!
# No function is declared in the arguments of a macro

What is read out of a macro was not there when the index was built. It can be mistaken for a
declared function only by its place; and as every token of a text stands at a place of its own, no
declared function stands at the place of a token that a macro was given (`Index.build_unlisted`). So
a marked closure that is read out of a macro is not found by its place, however often macros are
read (`Node.bar_of_marks`, `Site.marks_of_macroContents?`).
-/

namespace RenderTrace

open Syntax

namespace Syntax.Node

variable {l : Location} {n m : Node}

/-- Where there are no marks, there are none further inside. -/
theorem Inside.marks_eq_zero (hm : m.Inside n) (h : n.marks l = 0) : m.marks l = 0 := by
  induction hm with
  | refl => exact h
  | group hc _ ih => exact ih (marksAll_eq_zero h _ hc)
  | node hc _ ih => exact ih ((marks_node_eq_zero h).1 _ hc)

/-- A closure without marks at a place does not open there. -/
theorem bar_of_marks {cs : List Node} (h : (node .exprClosure cs).marks l = 0) :
    (cs.getD 6 .absent).location ≠ l := by
  obtain ⟨hparts, hflaw⟩ := marks_node_eq_zero h
  match cs, hflaw with
  | [_, _, _, _, _, _, bar, _, _, _, _], hflaw =>
    have hbar : bar.isBar = true := by simpa using hflaw
    have hown := own_of_isBar (l := l) hbar
    have hmarks := hparts bar (by simp)
    intro hl
    cases bar with
    | token cls t s => simp_all [own]
    | _ => cases hbar

/-- The marks of the arguments of a macro are those of its tokens. -/
theorem passed_macroCall (ms : List Node) :
    passed l .macroCall ms = TokenTree.marksAll l (Site.macroTokens (.node .macroCall ms)) := by
  unfold Site.macroTokens
  split
  · next h =>
    cases h
    rfl
  · next hother =>
    unfold passed
    split
    · next args _ =>
      unfold kept
      split
      · exact absurd rfl (hother _ _ _ _)
      · rfl
    · rfl

/-- A macro without marks is given no tokens with marks. -/
theorem tokens_of_marks {ms : List Node} (h : (node .macroCall ms).marks l = 0) :
    TokenTree.marksAll l (Site.macroTokens (.node .macroCall ms)) = 0 := by
  rw [marks] at h
  rw [← passed_macroCall]
  omega

/-- The tokens of a macro are counted among those of all macros of a tree. -/
theorem Inside.passed_le {ms : List Node} (hm : (Node.node .macroCall ms).Inside n) :
    passed l .macroCall ms ≤ passedIn l n := by
  have hall {c : Node} {cs : List Node} (hc : c ∈ cs) : passedIn l c ≤ passedInAll l cs := by
    induction cs with
    | nil => cases hc
    | cons d cs ih =>
      rw [passedInAll]
      rcases List.mem_cons.1 hc with rfl | hc
      · exact Nat.le_add_right _ _
      · exact (ih hc).trans (Nat.le_add_left _ _)
  generalize hm' : Node.node .macroCall ms = m at hm
  induction hm with
  | refl =>
    subst hm'
    rw [passedIn]
    exact Nat.le_add_left _ _
  | group hc _ ih =>
    rw [passedIn]
    exact (ih hm').trans (hall hc)
  | node hc _ ih =>
    rw [passedIn]
    exact (ih hm').trans ((hall hc).trans (Nat.le_add_right _ _))

end Syntax.Node

namespace Site

variable {lookup : Location → Option FunctionId}

/-- No place that names a function is that of a token that a macro of a tree was given. -/
def Unlisted (lookup : Location → Option FunctionId) (n : Node) : Prop :=
  ∀ ms, (Node.node .macroCall ms).Inside n → ∀ l, (lookup l).isSome →
    TokenTree.marksAll l (macroTokens (.node .macroCall ms)) = 0

/-- What is read out of a macro has no more marks than its tokens. -/
theorem marks_of_macroContents? {m contents : Node} (h : macroContents? m = some contents)
    {l : Location} (hl : TokenTree.marksAll l (macroTokens m) = 0) : contents.marks l = 0 := by
  unfold macroContents? at h
  dsimp only at h
  split at h
  · next hread =>
    obtain rfl := Option.some.inj h
    exact Nat.eq_zero_of_le_zero (hl ▸ Reader.marks_of_run
      (Grammar.closed_affords fun self _ ↦ (Grammar.expressionList_spends).affords) hread)
  · split at h
    · next hread =>
      obtain rfl := Option.some.inj h
      exact Nat.eq_zero_of_le_zero (hl ▸ Reader.marks_of_run
        (Grammar.closed_affords fun self _ ↦ (Grammar.statements_spends).affords) hread)
    · cases h

theorem unlisted_of_marks {n : Node} (h : ∀ l, (lookup l).isSome → n.marks l = 0) :
    Unlisted lookup n :=
  fun _ hms l hl ↦ Node.tokens_of_marks (hms.marks_eq_zero (h l hl))

end Site

namespace Index

variable {o : Options} {u : SourceUnit}

/-- The body of a function of an index stands in the unit. -/
theorem holds_body {f : Function} (hf : f ∈ (build o u).functions) {b : Node}
    (hb : f.body = some b) : u.Holds b := by
  obtain ⟨n, hn, hdeclares⟩ := exists_declares hf
  obtain ⟨k, cs, rfl, hhead⟩ := hdeclares.head
  have hhead' : Head.of? k cs = some ⟨f.head.place, f.head.isClosure, some b⟩ := by
    rw [hhead, ← hb]
    rfl
  have hbody := (Head.of?_body hhead').1
  have hmem : b.Inside (.node k cs) := .node (List.mem_of_getElem? hbody) (.refl b)
  exact hn.imp hmem.trans hmem.trans

/-- **No function is declared in the arguments of a macro.** -/
theorem build_unlisted {source : String} (hparse : parseUnit source = .ok u) {n : Node}
    (hn : u.Holds n) : Site.Unlisted (build o u).lookup n := by
  obtain ⟨rest, trees, hforest, hmarks⟩ :=
    SourceUnit.exists_forest_of_parse (parse_of_parseUnit hparse)
  intro ms hms l hl
  obtain ⟨id, hid⟩ := Option.isSome_iff_exists.1 hl
  obtain ⟨f, hf, rfl⟩ := exists_of_lookup (build_numbered o u) hid
  -- the token that names the function is the only one there, so that no macro is given it
  have hhead : 0 < (u.heads.map (·.place)).count f.declaration.location :=
    List.count_pos_iff.2 (List.mem_map_of_mem (head_mem_heads hf))
  have hattributes := u.attributes.count_heads_le (l := f.declaration.location)
  have hitems := u.items.count_heads_le (l := f.declaration.location)
  have hone := (hmarks f.declaration.location).trans ((Token.marks_of_forest? hforest).1 _)
  rw [SourceUnit.marks] at hone
  rw [SourceUnit.heads, List.map_append, List.count_append] at hhead
  rw [← Node.passed_macroCall]
  rcases hn with hn | hn
  · have hle := (hms.trans hn).passed_le (l := f.declaration.location)
    omega
  · have hle := (hms.trans hn).passed_le (l := f.declaration.location)
    omega

end Index

end RenderTrace
