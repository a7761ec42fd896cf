import RenderTrace.Injection.Reread
import RenderTrace.Proofs.Syntax.Bodies

/-!
# Trees with the texts of strings blanked out

Generated code holds the names of functions in string literals, and where it is read again, these
are set aside first. So nothing but the texts themselves depends on what stands in the literals:
trees that are the same with all texts blanked out have the same shape, are spelled by the same
tokens but for the texts, and are read again as trees that are the same with all texts blanked out
(`Reread.reread?_blank`).
-/

namespace RenderTrace

namespace Syntax

open Reread (isText)

/-- The literal without its text, if it is a string between plain quotes. -/
def blankText (literal : String) : String := if isText literal then "\"" else literal

theorem isText_quote : isText "\"" = true :=
  String.startsWith_string_iff.2 (List.prefix_refl _)

theorem isText_blankText (t : String) : isText (blankText t) = isText t := by
  unfold blankText
  split
  · next h => rw [isText_quote, h]
  · rfl

@[simp]
theorem blankText_blankText (t : String) : blankText (blankText t) = blankText t := by
  rw [blankText, isText_blankText]
  unfold blankText
  split <;> rfl

theorem blankText_of_isText {t : String} (h : isText t = true) : blankText t = "\"" := if_pos h

/-- A literal that is no text is told from all others. -/
theorem blankText_eq_iff {t w : String} (hw : isText w = false) : blankText t = w ↔ t = w := by
  unfold blankText
  split
  · next h =>
    constructor
    · rintro rfl
      cases isText_quote.symm.trans hw
    · rintro rfl
      cases h.symm.trans hw
  · exact Iff.rfl

/-- A text does not begin with a sign. -/
theorem not_startsWith_minus {t : String} (h : isText t = true) : t.startsWith "-" = false := by
  rw [isText, String.startsWith_string_iff] at h
  rw [String.startsWith_string_eq_false_iff]
  intro hminus
  obtain ⟨rest, hrest⟩ := h
  obtain ⟨rest', hrest'⟩ := hminus
  have hhead := congrArg List.head? (hrest.trans hrest'.symm)
  cases hhead

end Syntax

/-! ### Tokens -/

namespace TokenTree

open Syntax Syntax.Reread

/-- Induction on token trees. -/
@[elab_as_elim]
theorem induction {P : TokenTree → Prop} (t : TokenTree) (name : ∀ text span, P (.name text span))
    (punct : ∀ char joint span, P (.punct char joint span))
    (literal : ∀ text span, P (.literal text span))
    (group : ∀ d opening closing inside, (∀ t ∈ inside, P t) →
      P (.group d opening closing inside)) : P t :=
  match t with
  | .name text span => name text span
  | .punct char joint span => punct char joint span
  | .literal text span => literal text span
  | .group d opening closing inside =>
    group d opening closing inside fun t _ ↦ t.induction name punct literal group

mutual

/-- A token tree without texts. -/
def blank : TokenTree → TokenTree
  | .literal t s => .literal (blankText t) s
  | .group d opening closing inside => .group d opening closing (blankAll inside)
  | t => t

/-- Several token trees without texts. -/
def blankAll : List TokenTree → List TokenTree
  | [] => []
  | t :: ts => blank t :: blankAll ts

end

theorem blankAll_eq_map (ts : List TokenTree) : blankAll ts = ts.map blank := by
  induction ts with
  | nil => rfl
  | cons t ts ih => rw [blankAll, ih, List.map_cons]

theorem blank_group (d : Delimiter) (opening closing : Span) (inside : List TokenTree) :
    blank (.group d opening closing inside) = .group d opening closing (inside.map blank) := by
  rw [blank, blankAll_eq_map]

theorem blank_blank (t : TokenTree) : t.blank.blank = t.blank := by
  induction t using TokenTree.induction with
  | name | punct => rfl
  | literal t s => rw [blank, blank, blankText_blankText]
  | group d opening closing inside ih =>
    rw [blank_group, blank_group, List.map_map]
    exact congrArg (TokenTree.group d opening closing) (List.map_congr_left ih)

/-- What is left of a tree when its texts are set aside does not depend on the texts. -/
theorem setAside_blank (t : TokenTree) {texts texts' : List String}
    (hlength : texts'.length = texts.length) :
    (setAside texts' t.blank).1 = (setAside texts t).1 ∧
      (setAside texts' t.blank).2.length = (setAside texts t).2.length := by
  have hall : ∀ ts : List TokenTree, (∀ t ∈ ts, ∀ {texts texts' : List String},
        texts'.length = texts.length → (setAside texts' t.blank).1 = (setAside texts t).1 ∧
          (setAside texts' t.blank).2.length = (setAside texts t).2.length) →
      ∀ {texts texts' : List String}, texts'.length = texts.length →
        (setAsideAll texts' (ts.map blank)).1 = (setAsideAll texts ts).1 ∧
          (setAsideAll texts' (ts.map blank)).2.length = (setAsideAll texts ts).2.length := by
    intro ts
    induction ts with
    | nil => exact fun _ {_ _} hlength ↦ ⟨rfl, hlength⟩
    | cons t ts ih =>
      intro hts texts texts' hlength
      obtain ⟨hhead, hlength⟩ := hts t List.mem_cons_self hlength
      obtain ⟨hrest, hlength⟩ := ih (fun t ht ↦ hts t (List.mem_cons_of_mem _ ht)) hlength
      rw [List.map_cons, setAsideAll, setAsideAll]
      exact ⟨congrArg₂ List.cons hhead hrest, hlength⟩
  induction t using TokenTree.induction generalizing texts texts' with
  | name | punct => exact ⟨rfl, hlength⟩
  | literal t s =>
    rw [blank, setAside, setAside, isText_blankText, hlength]
    split
    · exact ⟨rfl, by simp [hlength]⟩
    · next h => exact ⟨by rw [blankText, if_neg h], hlength⟩
  | group d opening closing inside ih =>
    obtain ⟨hinside, hlength⟩ := hall inside ih hlength
    rw [blank_group, setAside, setAside]
    exact ⟨congrArg (TokenTree.group d opening closing) hinside, hlength⟩

theorem setAsideAll_blank (ts : List TokenTree) :
    (setAsideAll [] (ts.map blank)).1 = (setAsideAll [] ts).1 := by
  have hlength : ([] : List String).length = ([] : List String).length := rfl
  have hgroup := (setAside_blank (.group .paren .nowhere .nowhere ts) hlength).1
  rw [blank_group, setAside, setAside] at hgroup
  exact (TokenTree.group.inj hgroup).2.2.2

/-- Nothing but texts is set aside. -/
theorem isText_of_mem_setAside (t : TokenTree) {texts : List String}
    (h : ∀ x ∈ texts, isText x = true) : ∀ x ∈ (setAside texts t).2, isText x = true := by
  have hall : ∀ ts : List TokenTree, (∀ t ∈ ts, ∀ {texts : List String},
        (∀ x ∈ texts, isText x = true) → ∀ x ∈ (setAside texts t).2, isText x = true) →
      ∀ {texts : List String}, (∀ x ∈ texts, isText x = true) →
        ∀ x ∈ (setAsideAll texts ts).2, isText x = true := by
    intro ts
    induction ts with
    | nil => exact fun _ {_} h ↦ h
    | cons t ts ih =>
      intro hts texts h
      exact ih (fun t ht ↦ hts t (List.mem_cons_of_mem _ ht)) (hts t List.mem_cons_self h)
  induction t using TokenTree.induction generalizing texts with
  | name | punct => exact h
  | literal t s =>
    rw [setAside]
    split
    · next ht =>
      intro x hx
      rcases List.mem_append.1 hx with hx | hx
      · exact h x hx
      · rwa [List.mem_singleton.1 hx]
    · exact h
  | group d opening closing inside ih => exact hall inside ih h

theorem isText_of_mem_setAsideAll (ts : List TokenTree) :
    ∀ x ∈ (setAsideAll [] ts).2, isText x = true :=
  isText_of_mem_setAside (.group .paren .nowhere .nowhere ts) fun _ h ↦ absurd h List.not_mem_nil

/-- A text that is put back is a text again. -/
theorem blankText_literalOf {texts : List String} (h : ∀ x ∈ texts, isText x = true) (t : String) :
    blankText (literalOf texts t) = blankText t := by
  unfold literalOf
  split
  · next ht =>
    rw [blankText_of_isText ht, blankText_of_isText]
    rw [List.getD_eq_getElem?_getD]
    cases hx : texts[numberOf t]? with
    | none => exact ht
    | some x => exact h x (List.mem_of_getElem? hx)
  · rfl

theorem putBackTrees_eq_map (texts : List String) (ts : List TokenTree) :
    putBackTrees texts ts = ts.map (putBackTree texts) := by
  induction ts with
  | nil => rfl
  | cons t ts ih => rw [putBackTrees, ih, List.map_cons]

theorem blank_putBackTree {texts : List String} (h : ∀ x ∈ texts, isText x = true)
    (t : TokenTree) : (putBackTree texts t).blank = t.blank := by
  induction t using TokenTree.induction with
  | name | punct => rfl
  | literal t s => rw [putBackTree, blank, blank, blankText_literalOf h]
  | group d opening closing inside ih =>
    rw [putBackTree, putBackTrees_eq_map, blank_group, blank_group, List.map_map]
    exact congrArg (TokenTree.group d opening closing) (List.map_congr_left ih)

end TokenTree

namespace Syntax

open Reread (isText)

namespace Node

/-! ### Syntax trees -/

mutual

/-- A syntax tree without texts. -/
def blank : Node → Node
  | .token .literal t s => .token .literal (blankText t) s
  | .token cls t s => .token cls t s
  | .unread ts => .unread (ts.map TokenTree.blank)
  | .group d cs => .group d (blankAll cs)
  | .node k cs => .node k (blankAll cs)

/-- Several syntax trees without texts. -/
def blankAll : List Node → List Node
  | [] => []
  | c :: cs => blank c :: blankAll cs

end

theorem blankAll_eq_map (cs : List Node) : blankAll cs = cs.map blank := by
  induction cs with
  | nil => rfl
  | cons c cs ih => rw [blankAll, ih, List.map_cons]

theorem blank_node (k : Kind) (cs : List Node) :
    blank (.node k cs) = .node k (cs.map blank) := by
  rw [blank, blankAll_eq_map]

theorem blank_group (d : Delimiter) (cs : List Node) :
    blank (.group d cs) = .group d (cs.map blank) := by
  rw [blank, blankAll_eq_map]

@[simp]
theorem blank_list (cs : List Node) : blank (.list cs) = .list (cs.map blank) := blank_node _ _

@[simp]
theorem blank_absent : blank .absent = .absent := blank_node _ _

theorem blank_token (cls : TokenClass) (t : String) (s : Span) :
    ∃ t', blank (.token cls t s) = .token cls t' s ∧ blankText t' = blankText t := by
  cases cls with
  | literal => exact ⟨_, rfl, blankText_blankText t⟩
  | _ => exact ⟨t, rfl, rfl⟩

@[simp]
theorem kind?_blank (n : Node) : n.blank.kind? = n.kind? := by
  cases n with
  | token cls t s =>
    obtain ⟨t', h, -⟩ := blank_token cls t s
    rw [h]
    rfl
  | _ => rfl

@[simp]
theorem is_blank (n : Node) (k : Kind) : n.blank.is k = n.is k := by
  rw [Node.is, kind?_blank, Node.is]

@[simp]
theorem isAbsent_blank (n : Node) : n.blank.isAbsent = n.isAbsent := is_blank n .absent

@[simp]
theorem isToken_blank (n : Node) : n.blank.isToken = n.isToken := by
  cases n with
  | token cls t s =>
    obtain ⟨t', h, -⟩ := blank_token cls t s
    rw [h]
    rfl
  | _ => rfl

theorem location_blank (n : Node) : n.blank.location = n.location := by
  cases n with
  | token cls t s =>
    obtain ⟨t', h, -⟩ := blank_token cls t s
    rw [h]
    rfl
  | _ => rfl

theorem text_blank (n : Node) : blankText n.blank.text = blankText n.text := by
  cases n with
  | token cls t s =>
    obtain ⟨t', h, htext⟩ := blank_token cls t s
    rw [h]
    exact htext
  | _ => rfl

theorem children_blank (n : Node) : n.blank.children = n.children.map blank := by
  cases n with
  | token cls t s =>
    obtain ⟨t', h, -⟩ := blank_token cls t s
    rw [h]
    rfl
  | unread => rfl
  | group d cs => rw [blank_group, children, children]
  | node k cs => rw [blank_node, children, children]

theorem getD_map_blank (cs : List Node) (i : Nat) :
    (cs.map blank).getD i .absent = blank (cs.getD i .absent) := by
  rw [← blank_absent, List.getD_map, blank_absent]

theorem child_blank (n : Node) (i : Nat) : n.blank.child i = (n.child i).blank := by
  rw [child, children_blank, getD_map_blank, child]

theorem eq_of_blank_eq_node {n : Node} {k : Kind} {cs' : List Node} (h : n.blank = .node k cs') :
    ∃ cs, n = .node k cs ∧ cs.map blank = cs' := by
  cases n with
  | node k' cs =>
    rw [blank_node] at h
    obtain ⟨rfl, hcs⟩ := Node.node.inj h
    exact ⟨cs, rfl, hcs⟩
  | token cls t s =>
    obtain ⟨t', htoken, -⟩ := blank_token cls t s
    cases htoken.symm.trans h
  | _ => cases h

theorem eq_of_blank_eq_group {n : Node} {d : Delimiter} {cs' : List Node}
    (h : n.blank = .group d cs') : ∃ cs, n = .group d cs ∧ cs.map blank = cs' := by
  cases n with
  | group d' cs =>
    rw [blank_group] at h
    obtain ⟨rfl, hcs⟩ := Node.group.inj h
    exact ⟨cs, rfl, hcs⟩
  | token cls t s =>
    obtain ⟨t', htoken, -⟩ := blank_token cls t s
    cases htoken.symm.trans h
  | _ => cases h

/-! ### The order of writing -/

theorem isInnerAttribute_blank (n : Node) : n.blank.isInnerAttribute = n.isInnerAttribute := by
  by_cases hshape : ∃ pound bang inside, n = .node .attr [pound, bang, inside]
  · obtain ⟨pound, bang, inside, rfl⟩ := hshape
    rw [blank_node]
    simp [isInnerAttribute]
  · have hno : ∀ pound bang inside, n ≠ .node .attr [pound, bang, inside] :=
      fun pound bang inside h ↦ hshape ⟨pound, bang, inside, h⟩
    rw [isInnerAttribute.eq_2 n hno, isInnerAttribute.eq_2]
    intro pound bang inside h
    obtain ⟨cs, rfl, hcs⟩ := eq_of_blank_eq_node h
    obtain ⟨pound, cs, rfl, -, hcs⟩ := List.map_eq_cons_iff.1 hcs
    obtain ⟨bang, cs, rfl, -, hcs⟩ := List.map_eq_cons_iff.1 hcs
    obtain ⟨inside, rfl, -⟩ := List.map_eq_singleton_iff.1 hcs
    exact hno _ _ _ rfl

theorem openWith_blank (parts : List Node) (n : Node) :
    openWith (parts.map blank) n.blank = (openWith parts n).blank := by
  by_cases hblock : ∃ d cs, n = .node .block [.group d cs]
  · obtain ⟨d, cs, rfl⟩ := hblock
    simp only [blank_node, blank_group, openWith, List.map_cons, List.map_nil, List.map_append]
  by_cases hgroup : ∃ d cs, n = .group d cs
  · obtain ⟨d, cs, rfl⟩ := hgroup
    simp only [blank_group, openWith, List.map_append]
  · have hno : ∀ d cs, n ≠ .node .block [.group d cs] := fun d cs h ↦ hblock ⟨d, cs, h⟩
    have hno' : ∀ d cs, n ≠ .group d cs := fun d cs h ↦ hgroup ⟨d, cs, h⟩
    rw [openWith.eq_3 _ n hno hno', openWith.eq_3]
    · intro d cs h
      obtain ⟨cs, rfl, hcs⟩ := eq_of_blank_eq_node h
      obtain ⟨inside, rfl, hinside⟩ := List.map_eq_singleton_iff.1 hcs
      obtain ⟨cs, rfl, -⟩ := eq_of_blank_eq_group hinside
      exact hno _ _ rfl
    · intro d cs h
      obtain ⟨cs, rfl, -⟩ := eq_of_blank_eq_group h
      exact hno' _ _ rfl

theorem modify_openWith_blank (parts cs : List Node) (i : Nat) :
    (cs.map blank).modify i (openWith (parts.map blank)) =
      (cs.modify i (openWith parts)).map blank := by
  induction cs generalizing i with
  | nil => rw [List.map_nil, List.modify_nil, List.modify_nil, List.map_nil]
  | cons c cs ih =>
    cases i with
    | zero =>
      rw [List.map_cons, List.modify_zero_cons, List.modify_zero_cons, List.map_cons,
        openWith_blank]
    | succ i =>
      rw [List.map_cons, List.modify_succ_cons, List.modify_succ_cons, List.map_cons, ih]

theorem attributesInside_blank (cs : List Node) :
    attributesInside (cs.map blank) = (attributesInside cs).map blank := by
  by_cases hshape : ∃ attrs rest, cs = .node .list attrs :: rest
  · obtain ⟨attrs, rest, rfl⟩ := hshape
    have hbody : ((fun n : Node ↦ n.is .block || n.kind?.isNone && !n.isToken) ∘ blank) =
        fun n : Node ↦ n.is .block || n.kind?.isNone && !n.isToken := by
      funext n
      simp
    have hinner : (isInnerAttribute ∘ blank) = isInnerAttribute :=
      funext isInnerAttribute_blank
    have houter : ((fun a : Node ↦ !a.isInnerAttribute) ∘ blank) =
        fun a : Node ↦ !a.isInnerAttribute := by
      funext n
      simp [isInnerAttribute_blank]
    rw [List.map_cons, blank_node]
    simp only [attributesInside, List.filter_map, hinner, houter, List.isEmpty_map,
      List.length_map, ← List.map_reverse, List.findIdx_map, hbody]
    split
    · rw [List.map_cons, blank_node]
    · rw [List.map_cons, blank_list, modify_openWith_blank]
  · have hno : ∀ attrs rest, cs ≠ .node .list attrs :: rest :=
      fun attrs rest h ↦ hshape ⟨attrs, rest, h⟩
    rw [attributesInside.eq_2 cs hno, attributesInside.eq_2]
    intro attrs rest h
    obtain ⟨first, rest, rfl, hfirst, -⟩ := List.map_eq_cons_iff.1 h
    obtain ⟨attrs, rfl, -⟩ := eq_of_blank_eq_node hfirst
    exact hno _ _ rfl

theorem conditionsLate_blank (cs : List Node) :
    conditionsLate (cs.map blank) = (conditionsLate cs).map blank := by
  have hwhere : ((fun c : Node ↦ c.is .whereClause) ∘ blank) = fun c : Node ↦ c.is .whereClause :=
    funext fun c ↦ is_blank c _
  have hother : ((fun c : Node ↦ !c.is .whereClause) ∘ blank) =
      fun c : Node ↦ !c.is .whereClause := by
    funext c
    simp
  simp only [conditionsLate, List.map_append, ← List.map_dropLast, List.filter_map, hwhere, hother,
    List.getLast?_map, Option.toList_map]

/-- An element and what separates it from the next one, without texts. -/
def blankPart (e : Node × List Node) : Node × List Node := (e.1.blank, e.2.map blank)

theorem separated_blank (cs : List Node) :
    separated (cs.map blank) = (separated cs).map blankPart := by
  induction cs with
  | nil => rfl
  | cons c cs ih =>
    rw [List.map_cons, separated, ih, separated]
    cases separated cs with
    | nil => rfl
    | cons e rest =>
      obtain ⟨e, parts⟩ := e
      simp only [List.map_cons, blankPart, isToken_blank]
      split <;> rfl

theorem lifetimesFirst_blank (cs : List Node) :
    lifetimesFirst (cs.map blank) = (lifetimesFirst cs).map blank := by
  have hlifetime : ((fun e : Node × List Node ↦ e.1.is .lifetime || e.1.is .lifetimeParam) ∘
      blankPart) = fun e : Node × List Node ↦ e.1.is .lifetime || e.1.is .lifetimeParam := by
    funext e
    simp [blankPart]
  have hparts : ∀ es : List (Node × List Node), (es.map blankPart).flatMap (fun e ↦ e.1 :: e.2) =
      (es.flatMap fun e ↦ e.1 :: e.2).map blank := fun es ↦ by
    rw [List.flatMap_map, List.map_flatMap]
    rfl
  have hcomma : blank (op ",") = op "," := rfl
  simp only [lifetimesFirst, separated_blank, List.partition_eq_filter_filter, List.filter_map,
    hlifetime, Function.comp_assoc, hparts, List.map_append, List.getLast?_map,
    List.isEmpty_map]
  congr 2
  generalize List.getLast? _ = last
  cases last with
  | none => rfl
  | some e =>
    obtain ⟨e, _ | ⟨c, rest⟩⟩ := e
    · simp only [Option.map_some, blankPart, List.map_nil]
      split
      · rfl
      · rw [List.map_singleton, hcomma]
    · rfl

theorem written_blank (k : Kind) (cs : List Node) :
    written k (cs.map blank) = (written k cs).map blank := by
  have hthree : ∀ {cs : List Node} {lt : Node} {ps : List Node} {gt : Node},
      cs.map blank = [lt, .node .list ps, gt] → ∃ lt' ps' gt', cs = [lt', .node .list ps', gt'] ∧
        lt'.blank = lt ∧ ps'.map blank = ps ∧ gt'.blank = gt := fun h ↦ by
    obtain ⟨lt', rest, rfl, hlt, hrest⟩ := List.map_eq_cons_iff.1 h
    obtain ⟨ps', rest, rfl, hps, hrest⟩ := List.map_eq_cons_iff.1 hrest
    obtain ⟨gt', rfl, hgt⟩ := List.map_eq_singleton_iff.1 hrest
    obtain ⟨ps', rfl, hinside⟩ := eq_of_blank_eq_node hps
    exact ⟨lt', ps', gt', rfl, hlt, hinside, hgt⟩
  have hfour : ∀ {cs : List Node} {first lt : Node} {ps : List Node} {gt : Node},
      cs.map blank = [first, lt, .node .list ps, gt] → ∃ first' lt' ps' gt',
        cs = [first', lt', .node .list ps', gt'] ∧ first'.blank = first ∧ lt'.blank = lt ∧
          ps'.map blank = ps ∧ gt'.blank = gt := fun h ↦ by
    obtain ⟨first', rest, rfl, hfirst, hrest⟩ := List.map_eq_cons_iff.1 h
    obtain ⟨lt', ps', gt', rfl, hlt, hps, hgt⟩ := hthree hrest
    exact ⟨first', lt', ps', gt', rfl, hfirst, hlt, hps, hgt⟩
  unfold written
  split
  case h_1 heq =>
    obtain ⟨lt, ps, gt, rfl, rfl, rfl, rfl⟩ := hthree heq
    simp only [lifetimesFirst_blank, List.map_cons, List.map_nil, blank_list]
  case h_2 heq | h_3 heq =>
    obtain ⟨first, lt, ps, gt, rfl, rfl, rfl, rfl, rfl⟩ := hfour heq
    simp only [lifetimesFirst_blank, List.map_cons, List.map_nil, blank_list]
  case h_4 =>
    rw [getD_map_blank, is_blank, conditionsLate_blank]
    split <;> rfl
  case h_5 | h_6 | h_7 => exact conditionsLate_blank cs
  case h_8 | h_9 => rw [attributesInside_blank, conditionsLate_blank]
  case h_10 hstruct halias himplType htraitType himpl htrait hgenerics harguments hcapture =>
    -- what has no shape of its own without texts has none with them
    split
    case h_1 lt ps gt =>
      exact (hgenerics lt.blank (ps.map blank) gt.blank rfl
        (by simp only [List.map_cons, List.map_nil, blank_node])).elim
    case h_2 colons lt ps gt =>
      exact (harguments colons.blank lt.blank (ps.map blank) gt.blank rfl
        (by simp only [List.map_cons, List.map_nil, blank_node])).elim
    case h_3 use lt ps gt =>
      exact (hcapture use.blank lt.blank (ps.map blank) gt.blank rfl
        (by simp only [List.map_cons, List.map_nil, blank_node])).elim
    case h_4 => exact (hstruct rfl).elim
    case h_5 => exact (halias rfl).elim
    case h_6 => exact (himplType rfl).elim
    case h_7 => exact (htraitType rfl).elim
    case h_8 => exact (himpl rfl).elim
    case h_9 => exact (htrait rfl).elim
    case h_10 => exact attributesInside_blank cs

theorem spelled_blank (n : Node) : n.blank.spelled = n.spelled.blank := by
  have hmap : ∀ cs, spelledAll cs = cs.map spelled := fun cs ↦ by
    induction cs with
    | nil => rfl
    | cons c cs ih => rw [spelledAll, ih, List.map_cons]
  induction n using Node.induction with
  | token cls t s =>
    obtain ⟨t', h, -⟩ := blank_token cls t s
    have hspelled : ∀ t s, spelled (.token cls t s) = .token cls t s := fun _ _ ↦ rfl
    rw [h, hspelled, hspelled, h]
  | unread => rfl
  | group d cs ih =>
    rw [blank_group, spelled, spelled, blank_group, hmap, hmap, List.map_map, List.map_map]
    exact congrArg (Node.group d) (List.map_congr_left ih)
  | node k cs ih =>
    rw [blank_node, spelled, spelled, blank_node, hmap, hmap, ← written_blank, List.map_map,
      List.map_map]
    exact congrArg (fun cs ↦ Node.node k (written k cs)) (List.map_congr_left ih)

/-- The tokens of a tree without texts are those of the tree, but for the texts. -/
theorem leaves_blank (n : Node) :
    n.blank.leaves.map TokenTree.blank = n.leaves.map TokenTree.blank := by
  have hmap : ∀ cs, leavesAll cs = cs.flatMap leaves := fun cs ↦ by
    induction cs with
    | nil => rfl
    | cons c cs ih => rw [leavesAll, ih, List.flatMap_cons]
  have hall : ∀ cs : List Node, (∀ c ∈ cs, c.blank.leaves.map TokenTree.blank =
      c.leaves.map TokenTree.blank) → (leavesAll (cs.map blank)).map TokenTree.blank =
        (leavesAll cs).map TokenTree.blank := fun cs hcs ↦ by
    rw [hmap, hmap, List.flatMap_map, List.map_flatMap, List.map_flatMap]
    exact List.flatMap_congr hcs
  induction n using Node.induction with
  | token cls t s =>
    cases cls with
    | literal =>
      rw [blank, leaves, leaves]
      by_cases ht : isText t = true
      · rw [not_startsWith_minus ht, not_startsWith_minus ((isText_blankText t).trans ht)]
        simp [TokenTree.blank]
      · rw [blankText, if_neg ht]
    | _ => rfl
  | unread ts =>
    rw [blank, leaves, leaves, List.map_map]
    exact List.map_congr_left fun t _ ↦ t.blank_blank
  | group d cs ih =>
    rw [blank_group, leaves, leaves, List.map_singleton, List.map_singleton,
      TokenTree.blank_group, TokenTree.blank_group, hall cs ih]
  | node k cs ih =>
    rw [blank_node, leaves, leaves, hall cs ih]

theorem trees_blank (n : Node) :
    n.blank.trees.map TokenTree.blank = n.trees.map TokenTree.blank := by
  rw [trees, spelled_blank, leaves_blank, trees]

/-! ### Reading again -/

theorem putBackAll_eq_map (texts : List String) (cs : List Node) :
    Reread.putBackAll texts cs = cs.map (Reread.putBack texts) := by
  induction cs with
  | nil => rfl
  | cons c cs ih => rw [Reread.putBackAll, ih, List.map_cons]

theorem eq_of_putBack_eq {texts : List String} {n : Node} {k : Kind} {cs' : List Node}
    (h : Reread.putBack texts n = .node k cs') :
    ∃ cs, n = .node k cs ∧ cs.map (Reread.putBack texts) = cs' := by
  cases n with
  | node k' cs =>
    obtain ⟨rfl, rfl⟩ := Node.node.inj h
    exact ⟨cs, rfl, (putBackAll_eq_map texts cs).symm⟩
  | token cls => cases cls <;> cases h
  | _ => cases h

theorem blank_putBack {texts : List String} (h : ∀ x ∈ texts, isText x = true) (n : Node) :
    (Reread.putBack texts n).blank = n.blank := by
  induction n using Node.induction with
  | token cls t s =>
    cases cls with
    | literal => rw [Reread.putBack, blank, blank, TokenTree.blankText_literalOf h]
    | _ => rfl
  | unread ts =>
    rw [Reread.putBack, TokenTree.putBackTrees_eq_map, blank, blank, List.map_map]
    exact congrArg Node.unread (List.map_congr_left fun t _ ↦ TokenTree.blank_putBackTree h t)
  | group d cs ih =>
    rw [Reread.putBack, putBackAll_eq_map, blank_group, blank_group, List.map_map]
    exact congrArg (Node.group d) (List.map_congr_left ih)
  | node k cs ih =>
    rw [Reread.putBack, putBackAll_eq_map, blank_node, blank_node, List.map_map]
    exact congrArg (Node.node k) (List.map_congr_left ih)

/-- **What is read again does not depend on the texts**, but for the texts. -/
theorem reread?_blank (r : Readers → Reader Node) {ts ts' : List TokenTree}
    (h : ts'.map TokenTree.blank = ts.map TokenTree.blank) :
    (Reread.reread? r ts').map blank = (Reread.reread? r ts).map blank := by
  have hmarks : (Reread.setAsideAll [] ts').1 = (Reread.setAsideAll [] ts).1 := by
    rw [← TokenTree.setAsideAll_blank, h, TokenTree.setAsideAll_blank]
  have hback : ∀ ts : List TokenTree, blank ∘ Reread.putBack (Reread.setAsideAll [] ts).2 = blank :=
    fun ts ↦ funext (blank_putBack (TokenTree.isText_of_mem_setAsideAll ts))
  simp only [Reread.reread?, hmarks, Option.map_map, hback]

end Node

end Syntax

end RenderTrace
