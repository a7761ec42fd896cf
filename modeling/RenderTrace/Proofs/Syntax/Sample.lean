import RenderTrace.Injection.Quotation
import RenderTrace.Pipeline

/-!
# Small units

Functions and closures with markers, as the grammar lays them out. A statement about units is
applied to such a one where it matters which functions are declared and what marks them, and not how
the text is spelled. Where it matters, the unit is read from a text, and what is needed of it is
computed along (`exists_eq_ok`).
-/

namespace RenderTrace

/-- An answer that is there is an answer. -/
theorem eq_ok_of_toOption {ε α : Type} {e : Except ε α} {a : α} (h : e.toOption = some a) :
    e = .ok a := by
  cases e with
  | error e => cases h
  | ok b => exact congrArg Except.ok (Option.some.inj h)

/-- What is computed of an answer tells that there is one. -/
theorem exists_eq_ok {ε α β : Type} {e : Except ε α} {f : α → β} {b : β}
    (h : e.toOption.map f = some b) : ∃ a, e = .ok a ∧ f a = b := by
  obtain ⟨a, ha, hf⟩ := Option.map_eq_some_iff.1 h
  exact ⟨a, eq_ok_of_toOption ha, hf⟩

/-! ### Reading characters -/

namespace Syntax

/-- Reads all of a text that is given by its characters. -/
def readChars {α : Type} (r : Readers → Reader α) (cs : List Char) : Except SyntaxError α :=
  let s := (Token.Scan.start cs).skipMark
  match s.run (s.rest.length + 1) with
  | .error at_ => .error ⟨⟨at_, at_⟩, "cannot parse string into token stream"⟩
  | .ok trees => (Grammar.closed r).run trees

theorem readText_ofList {α : Type} (r : Readers → Reader α) (cs : List Char) :
    readText r (String.ofList cs) = readChars r cs := by
  rw [readText, Token.forest?, String.toList_ofList]
  rfl

/-- Parses a unit that is given by its characters. -/
def SourceUnit.ofChars (cs : List Char) : Except SyntaxError SourceUnit := do
  let (shebang, rest) := splitShebang (withoutMark cs)
  let (attributes, items) ← readChars reader rest
  return ⟨shebang.map String.ofList, attributes, items⟩

theorem SourceUnit.parse_ofList (cs : List Char) : parse (String.ofList cs) = ofChars cs := by
  simp only [parse, ofChars, String.toList_ofList, readText_ofList]

end Syntax

open Syntax

/-- The characters of a text that is put together. -/
theorem append_eq_ofList {s t : String} {cs ds : List Char} (hs : s = .ofList cs)
    (ht : t = .ofList ds) : s ++ t = .ofList (cs ++ ds) := by
  rw [hs, ht, String.ofList_append]

/-- What is computed of a unit tells that a text is read as one. -/
theorem exists_parse_eq_ok {β : Type} {text : String} {cs : List Char} {f : SourceUnit → β} {b : β}
    (htext : text = .ofList cs) (h : (SourceUnit.ofChars cs).toOption.map f = some b) :
    ∃ u, SourceUnit.parse text = .ok u ∧ f u = b := by
  rw [htext, SourceUnit.parse_ofList]
  exact exists_eq_ok h

theorem exists_parseUnit_eq_ok {β : Type} {text : String} {cs : List Char} {f : SourceUnit → β}
    {b : β} (htext : text = .ofList cs) (h : (SourceUnit.ofChars cs).toOption.map f = some b) :
    ∃ u, parseUnit text = .ok u ∧ f u = b := by
  obtain ⟨u, hparse, hu⟩ := exists_parse_eq_ok htext h
  exact ⟨u, by rw [parseUnit, hparse]; rfl, hu⟩

/-- What is computed of two units tells that two texts are read as them. -/
theorem exists_parseUnits_eq_ok {β : Type} {text text' : String} {cs cs' : List Char}
    {f : SourceUnit → SourceUnit → β} {b : β} (htext : text = .ofList cs)
    (htext' : text' = .ofList cs') (h : ((SourceUnit.ofChars cs).toOption.bind fun u ↦
      (SourceUnit.ofChars cs').toOption.map (f u)) = some b) :
    ∃ u v, parseUnit text = .ok u ∧ parseUnit text' = .ok v ∧ f u v = b := by
  obtain ⟨u, hu, hv⟩ := Option.bind_eq_some_iff.1 h
  obtain ⟨u₀, hparse, rfl : u₀ = u⟩ :=
    exists_parseUnit_eq_ok (f := id) htext (by rwa [Option.map_id])
  obtain ⟨v, hparse', hv⟩ := exists_parseUnit_eq_ok htext' hv
  exact ⟨u₀, v, hparse, hparse', hv⟩

namespace Quotation

/-- An attribute that is a word. -/
def marker (word : String) : Node :=
  .node .attr [.op "#", .absent, .group .bracket [.node .metaPath [path false [word]]]]

/-- A parameter with markers, of a type that is a word. -/
def input (markers : List String) (name type : String) : Node :=
  .node .patType
    [.list (markers.map marker), bind name false, .op ":", .node .typePath [path false [type]]]

/-- A function with markers that is declared in a line. -/
def function (line : Nat) (markers : List String) (name : String) (inputs statements : List Node) :
    Node :=
  let signature : Node := .node .signature [.absent, .absent, .absent, .absent, .word "fn",
    .token .word name ⟨⟨line, 0⟩, ⟨line, name.length⟩⟩, .absent, .group .paren [commas inputs],
    .absent, .absent]
  .node .itemFn [.list (markers.map marker), .absent, signature, block statements]

/-- A closure with markers and without parameters that is declared in a line. -/
def thunk (line : Nat) (markers : List String) (body : Node) : Node :=
  .node .exprClosure [.list (markers.map marker), .absent, .absent, .absent, .absent, .absent,
    .token .operator "|" ⟨⟨line, 0⟩, ⟨line, 1⟩⟩, plain, .op "|", .absent, body]

/-- A unit of some items. -/
def unitOf (items : List Node) : SourceUnit := ⟨none, plain, .list items⟩

end Quotation

end RenderTrace
