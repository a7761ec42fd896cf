import Mathlib
import RenderTrace.Pipeline
import RenderTrace.Proofs.Function.Declared
import RenderTrace.Proofs.Syntax.Places.Forest
import RenderTrace.Proofs.Syntax.Places.Statement
import RenderTrace.Proofs.Syntax.Way

/-!
# Functions stand at different places

A text has at most one mark at each place (`Token.marks_of_forest?`), what is read from it has no
more marks than it (`Reader.marks_of_run`), and each function of a tree has a mark of its own, which
is the token that names it, or the bar that opens it (`Node.count_heads_le`). So the functions of a
unit that is read from a text stand at different places (`distinct_of_parseUnit`). And since there
are places in a text without marks, the unit has no flaws (`exists_marks_eq_zero`).
-/

namespace RenderTrace

namespace Syntax

variable {l : Location}

/-! ### From a text to a tree -/

theorem Grammar.closed_affords {α : Type} [Marked α] {r : Readers → Reader α}
    (h : ∀ (self : Readers) [self.Thrifty l], Affords l 0 (r self)) : Affords l 0 (closed r) :=
  .get fun _ ↦ h _

/-- What is read from a forest has no more marks than the forest. -/
theorem Reader.marks_of_run {α : Type} [Marked α] {r : Reader α} (hr : Affords l 0 r)
    {trees : List TokenTree} {a : α} (h : r.run trees = .ok a) :
    Marked.marks l a ≤ TokenTree.marksAll l trees := by
  obtain ⟨c, hread⟩ := exists_of_run h
  have hle := hr _ a c hread
  change _ ≤ TokenTree.marksAll l trees + 0 at hle
  omega

/-! ### Trees without flaws -/

namespace Node

theorem marksAll_eq_zero {cs : List Node} (h : marksAll l cs = 0) : ∀ c ∈ cs, c.marks l = 0 := by
  induction cs with
  | nil => exact List.forall_mem_nil _
  | cons c cs ih =>
    rw [marksAll] at h
    obtain ⟨hc, hcs⟩ := Nat.add_eq_zero_iff.1 h
    exact List.forall_mem_cons.2 ⟨hc, ih hcs⟩

/-- Where there are no marks, there are none in the children, and no flaw. -/
theorem marks_node_eq_zero {k : Kind} {cs : List Node} (h : (node k cs).marks l = 0) :
    (∀ c ∈ cs, c.marks l = 0) ∧ flawed k cs = false := by
  rw [marks] at h
  obtain ⟨hall, -⟩ := Nat.add_eq_zero_iff.1 h
  obtain ⟨hall, hflaw⟩ := Nat.add_eq_zero_iff.1 hall
  exact ⟨marksAll_eq_zero hall, Bool.toNat_eq_zero.1 hflaw⟩

/-- Where there are no marks, there are none at the end of a way. -/
theorem marks_at?_eq_zero {n m : Node} {w : Way} (h : n.marks l = 0) (hat : n.at? w = some m) :
    m.marks l = 0 := by
  induction w generalizing n with
  | nil => exact Option.some.inj hat ▸ h
  | cons i w ih =>
    obtain ⟨c, hc, hrest⟩ := Option.bind_eq_some_iff.1 hat
    have hmem := List.mem_of_getElem? hc
    cases n with
    | node k cs => exact ih ((marks_node_eq_zero h).1 c hmem) hrest
    | group d cs => exact ih (marksAll_eq_zero h c hmem) hrest
    | _ => cases hmem

/-! ### The marks of functions -/

/-- The mark by which the node above names a function: that of a token, or of the name in a
signature. -/
def own (l : Location) : Node → Nat
  | token cls t s => marks l (token cls t s)
  | node .signature cs => if (cs.getD 5 .absent).location = l then 1 else 0
  | _ => 0

theorem own_le_sum (i : Nat) (cs : List Node) :
    own l (cs.getD i .absent) ≤ (cs.map (own l)).sum := by
  rw [List.getD_eq_getElem?_getD]
  cases hi : cs[i]? with
  | none => exact Nat.zero_le _
  | some c => exact List.le_sum_of_mem (List.mem_map_of_mem (List.mem_of_getElem? hi))

theorem own_of_isName {n : Node} (h : n.isName = true) :
    own l n = if n.location = l then 1 else 0 := by
  cases n with
  | token cls t s =>
    simp [own, marks, h]
    rfl
  | _ => cases h

theorem own_of_isBar {n : Node} (h : n.isBar = true) :
    own l n = if n.location = l then 1 else 0 := by
  cases n with
  | token cls t s =>
    simp [own, marks, h]
    rfl
  | _ => cases h

theorem own_of_signature {sig : Node} (h : sig.is .signature = true) :
    own l sig = if sig.signatureName.location = l then 1 else 0 := by
  cases sig with
  | node k cs =>
    obtain rfl : k = .signature := by simpa [is, kind?] using h
    rfl
  | _ => cases h

/-- A function without a flaw has a signature, which names it, and its body is a block if it has
one. -/
theorem exists_signature {k : Kind} {cs : List Node} {h : Head} (hof : Head.of? k cs = some h)
    (hflaw : flawed k cs = false) (hclosure : h.isClosure = false) :
    ∃ (i : Nat) (sig : Node), cs[i]? = some sig ∧ sig.is .signature = true ∧
      h.place = sig.signatureName.location ∧
      (node k cs).declaredName = sig.signatureName.text ∧
      ∀ body ∈ h.body, body.is .block = true := by
  unfold Head.of? at hof
  split at hof
  case h_6 => cases hof
  all_goals obtain rfl := Option.some.inj hof
  case h_1 hlength =>
    obtain ⟨_, _, sig, body, rfl⟩ := List.length_eq_four.1 hlength
    simp only [flawed, Bool.not_eq_false', Bool.and_eq_true] at hflaw
    exact ⟨2, sig, rfl, hflaw.1, rfl, rfl, by simpa [Head.ofSignature] using hflaw.2⟩
  case h_2 hlength =>
    obtain ⟨_, cs, rfl⟩ := List.exists_of_length_succ cs hlength
    obtain ⟨_, _, sig, body, rfl⟩ := List.length_eq_four.1 (Nat.succ.inj hlength)
    simp only [flawed, Bool.not_eq_false', Bool.and_eq_true] at hflaw
    exact ⟨3, sig, rfl, hflaw.1, rfl, rfl, by simpa [Head.ofSignature] using hflaw.2⟩
  -- a method of a trait may have no body, and then nothing is asked of it
  case h_3 hlength =>
    obtain ⟨_, sig, body, _, rfl⟩ := List.length_eq_four.1 hlength
    simp only [flawed, Bool.not_eq_false', Bool.and_eq_true, Bool.or_eq_true] at hflaw
    refine ⟨1, sig, rfl, hflaw.1, rfl, rfl, fun b hb ↦ ?_⟩
    simp only [Head.ofSignature] at hb
    split at hb
    · cases hb
    · next habsent => exact Option.some.inj hb ▸ hflaw.2.resolve_left habsent
  case h_4 hlength =>
    obtain ⟨_, _, sig, _, rfl⟩ := List.length_eq_four.1 hlength
    simp only [flawed, Bool.not_eq_false'] at hflaw
    exact ⟨2, sig, rfl, hflaw, rfl, rfl, fun body hb ↦ absurd hb (Option.not_mem_none body)⟩
  case h_5 => cases hclosure

/-- A closure without a flaw begins with its bar. -/
theorem exists_bar {k : Kind} {cs : List Node} {h : Head} (hof : Head.of? k cs = some h)
    (hflaw : flawed k cs = false) (hclosure : h.isClosure = true) :
    ∃ (i : Nat) (bar : Node), cs[i]? = some bar ∧ bar.isBar = true ∧ h.place = bar.location := by
  unfold Head.of? at hof
  split at hof
  case h_6 => cases hof
  all_goals obtain rfl := Option.some.inj hof
  case h_5 hlength =>
    match cs, hlength with
    | [_, _, _, _, _, _, bar, _, _, _, _], _ =>
      simp only [flawed, Bool.not_eq_false'] at hflaw
      exact ⟨6, bar, rfl, hflaw, rfl⟩
  all_goals cases hclosure

/-- The name of a function without a flaw is in its signature, and the bar of a closure among its
parts. -/
theorem own_of_head {k : Kind} {cs : List Node} {h : Head} (hof : Head.of? k cs = some h)
    (hflaw : flawed k cs = false) :
    ∃ i, own l (cs.getD i .absent) = if h.place = l then 1 else 0 := by
  have hget {i : Nat} {c : Node} (hi : cs[i]? = some c) : cs.getD i .absent = c := by
    rw [List.getD_eq_getElem?_getD, hi, Option.getD_some]
  cases hclosure : h.isClosure with
  | false =>
    obtain ⟨i, sig, hi, hsig, hplace, -, -⟩ := exists_signature hof hflaw hclosure
    exact ⟨i, by rw [hget hi, hplace]; exact own_of_signature hsig⟩
  | true =>
    obtain ⟨i, bar, hi, hbar, hplace⟩ := exists_bar hof hflaw hclosure
    exact ⟨i, by rw [hget hi, hplace]; exact own_of_isBar hbar⟩

/-- The name of a signature without a flaw is one of its parts. -/
theorem own_signature_le (cs : List Node) :
    own l (.node .signature cs) ≤ (cs.map (own l)).sum + (flawed .signature cs).toNat := by
  have hle := own_le_sum (l := l) 5 cs
  have hown : own l (.node .signature cs) = if (cs.getD 5 .absent).location = l then 1 else 0 := rfl
  cases hname : (cs.getD 5 .absent).isIdentifier with
  | true =>
    rw [own_of_isName (Bool.and_eq_true_iff.1 hname).1] at hle
    omega
  | false =>
    have hflaw : flawed .signature cs = true := congrArg (!·) hname
    rw [hown, hflaw]
    split <;> simp

/-- A node takes the marks of its parts for a function that it is, and for its own name. -/
theorem own_le (k : Kind) (cs : List Node) :
    ((Head.of? k cs).toList.map (·.place)).count l + own l (.node k cs) ≤
      (cs.map (own l)).sum + (flawed k cs).toNat := by
  by_cases hsig : k = .signature
  · subst hsig
    have hle := own_signature_le (l := l) cs
    have hof : Head.of? .signature cs = none := rfl
    rw [hof]
    simpa using hle
  have hown : own l (.node k cs) = 0 := by
    unfold own
    split <;> simp_all
  cases hof : Head.of? k cs with
  | none => simp [hown]
  | some h =>
    have hcount : (((some h).toList.map (·.place)).count l) = if h.place = l then 1 else 0 := by
      simp [List.count_singleton]
    rw [hown, hcount]
    cases hflaw : flawed k cs with
    | true => split <;> simp
    | false =>
      obtain ⟨i, hi⟩ := own_of_head (l := l) hof hflaw
      have hle := own_le_sum (l := l) i cs
      rw [hi] at hle
      omega

mutual

/-- The marks of the arguments of the macros in a tree. -/
def passedIn (l : Location) : Node → Nat
  | node k cs => passedInAll l cs + passed l k cs
  | group _ cs => passedInAll l cs
  | _ => 0

/-- The marks of the arguments of the macros in several trees. -/
def passedInAll (l : Location) : List Node → Nat
  | [] => 0
  | c :: cs => passedIn l c + passedInAll l cs

end

/-- **The functions at a place are no more than the marks there**, and the marks of the arguments of
macros come on top. -/
theorem count_heads_le (n : Node) :
    (n.heads.map (·.place)).count l + own l n + passedIn l n ≤ marks l n := by
  have hall (cs : List Node)
      (ih : ∀ c ∈ cs, (c.heads.map (·.place)).count l + own l c + passedIn l c ≤ marks l c) :
      ((headsAll cs).map (·.place)).count l + (cs.map (own l)).sum + passedInAll l cs ≤
        marksAll l cs := by
    induction cs with
    | nil => exact Nat.le_refl _
    | cons c cs ihcs =>
      have hc := ih c List.mem_cons_self
      have hcs := ihcs fun c hc ↦ ih c (List.mem_cons_of_mem _ hc)
      rw [headsAll, marksAll, passedInAll, List.map_append, List.count_append, List.map_cons,
        List.sum_cons]
      omega
  induction n using Node.induction with
  | token cls t s => exact Nat.le_of_eq (Nat.zero_add _)
  | unread ts => exact Nat.zero_le _
  | group d cs ih =>
    have hle := hall cs ih
    have hown : own l (group d cs) = 0 := rfl
    rw [heads, marks, passedIn, hown]
    omega
  | node k cs ih =>
    have hle := hall cs ih
    have hown := own_le (l := l) k cs
    rw [heads, marks, passedIn, List.map_append, List.count_append]
    omega

/-- A function without a flaw has a name that is no keyword. -/
theorem declaredName_free {k : Kind} {cs : List Node} {h : Head} (hof : Head.of? k cs = some h)
    (hmarks : (node k cs).marks l = 0) (hclosure : h.isClosure = false) :
    (node k cs).declaredName ∉ Probe.reserved := by
  obtain ⟨hparts, hflaw⟩ := marks_node_eq_zero hmarks
  obtain ⟨i, sig, hi, hsig, -, hname, -⟩ := exists_signature hof hflaw hclosure
  have hmarks := hparts sig (List.mem_of_getElem? hi)
  cases sig with
  | node k' cs' =>
    obtain rfl : k' = .signature := by simpa [is, kind?] using hsig
    have hidentifier : (cs'.getD 5 .absent).isIdentifier = true := by
      simpa using (marks_node_eq_zero hmarks).2
    rw [isIdentifier, Bool.and_eq_true, Bool.not_eq_true', ← Bool.not_eq_true,
      List.contains_iff_mem] at hidentifier
    rw [hname]
    exact hidentifier.2
  | _ => cases hsig

end Node

namespace SourceUnit

/-- The marks of a unit. -/
def marks (l : Location) (u : SourceUnit) : Nat := u.attributes.marks l + u.items.marks l

theorem reader_affords (self : Readers) [self.Thrifty l] : Affords l 0 (reader self) :=
  .next fun _ ↦ .next fun _ ↦ .done

/-- A unit that is parsed is read from the forest of a text. -/
theorem exists_forest_of_parse {text : String} {u : SourceUnit} (h : parse text = .ok u) :
    ∃ rest trees, Token.forest? rest = .ok trees ∧
      ∀ l, u.marks l ≤ TokenTree.marksAll l trees := by
  unfold parse at h
  dsimp only at h
  cases hread : readText reader (String.ofList (splitShebang (withoutMark text.toList)).2) with
  | error e => rw [hread] at h; cases h
  | ok p =>
    rw [hread] at h
    obtain rfl := Except.ok.inj h
    unfold readText at hread
    split at hread
    · cases hread
    · next trees hforest =>
      exact ⟨_, trees, hforest, fun l ↦
        Reader.marks_of_run (Grammar.closed_affords reader_affords) hread⟩

theorem distinct_of_marks {u : SourceUnit} (h : ∀ l, u.marks l ≤ 1) : u.Distinct := by
  refine List.nodup_iff_count_le_one.2 fun l ↦ ?_
  have hattributes := u.attributes.count_heads_le (l := l)
  have hitems := u.items.count_heads_le (l := l)
  have hle := h l
  rw [marks] at hle
  rw [heads, List.map_append, List.count_append]
  omega

end SourceUnit

end Syntax

open Syntax

theorem parse_of_parseUnit {source : String} {u : SourceUnit} (h : parseUnit source = .ok u) :
    SourceUnit.parse source = .ok u := by
  unfold parseUnit at h
  cases hparse : SourceUnit.parse source with
  | error e => rw [hparse] at h; cases h
  | ok u' =>
    rw [hparse] at h
    obtain rfl := Except.ok.inj h
    rfl

/-- **The functions of a unit that is read from a text stand at different places.** -/
theorem distinct_of_parseUnit {source : String} {u : SourceUnit} (h : parseUnit source = .ok u) :
    u.Distinct := by
  obtain ⟨rest, trees, hforest, hmarks⟩ :=
    SourceUnit.exists_forest_of_parse (parse_of_parseUnit h)
  exact SourceUnit.distinct_of_marks fun l ↦
    Nat.le_trans (hmarks l) ((Token.marks_of_forest? hforest).1 l)

/-- A unit that is read from a text has no flaws, as it has no marks at some places. -/
theorem exists_marks_eq_zero {source : String} {u : SourceUnit} (h : parseUnit source = .ok u) :
    ∃ l, u.marks l = 0 := by
  obtain ⟨rest, trees, hforest, hmarks⟩ :=
    SourceUnit.exists_forest_of_parse (parse_of_parseUnit h)
  obtain ⟨l, hl⟩ := (Token.marks_of_forest? hforest).2
  exact ⟨l, Nat.eq_zero_of_le_zero (hl ▸ hmarks l)⟩

end RenderTrace
