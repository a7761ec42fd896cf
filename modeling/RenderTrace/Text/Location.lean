/-!
# Places in a text

A place is a line (counted from one) and a column (counted in characters from zero). A lexer walks a
text character by character with `Location.advance`; `Location.offset` goes back from a place to the
number of bytes before it.

## What the walk back promises

`Location.offset` clamps: a column past the end of its line stands at the end of that line (its line
feed included), a line past the end of the text stands at the end of the text, and line zero, which
no text has, stands at its start.
-/

namespace RenderTrace

/-- A place in a text: `line` counts from one, `column` counts characters from zero. -/
structure Location where
  line : Nat
  column : Nat
  deriving DecidableEq, Repr, Inhabited

namespace Location

/-- The start of every text. -/
def start : Location := ⟨1, 0⟩

/-- The place after the character `c`: a line feed opens the next line. -/
def advance (at_ : Location) (c : Char) : Location :=
  if c = '\n' then ⟨at_.line + 1, 0⟩ else ⟨at_.line, at_.column + 1⟩

/-- The place after all of `cs`. -/
def advanceAll (at_ : Location) (cs : List Char) : Location :=
  cs.foldl advance at_

/-- Earlier line first, then earlier column. -/
def le (a b : Location) : Bool :=
  a.line < b.line || (a.line == b.line && a.column ≤ b.column)

/-- The bytes that `column` characters of a line take, at most to the end of the line. -/
def bytesWithin : Nat → List Char → Nat
  | 0, _ => 0
  | _, [] => 0
  | _ + 1, '\n' :: _ => 1
  | k + 1, c :: cs => c.utf8Size + bytesWithin k cs

/-- The bytes before `column` on the line that is `skipped` lines below the first line of `cs`. -/
def bytesBefore (column : Nat) : Nat → List Char → Nat
  | 0, cs => bytesWithin column cs
  | _ + 1, [] => 0
  | k + 1, c :: cs =>
    c.utf8Size + if c = '\n' then bytesBefore column k cs else bytesBefore column (k + 1) cs

/-- The number of bytes of `text` before a place, clamped to the text. -/
def offset (text : String) (at_ : Location) : Nat :=
  match at_.line with
  | 0 => 0
  | k + 1 => bytesBefore at_.column k text.toList

end Location

/-- A stretch of text, from `start` up to but not including `stop`. -/
structure Span where
  start : Location
  stop : Location
  deriving DecidableEq, Repr, Inhabited

namespace Span

/-- The span of what no text spells: the very start, of no length. -/
def nowhere : Span := ⟨.start, .start⟩

/-- From the start of `a` to the end of `b`. -/
def join (a b : Span) : Span := ⟨a.start, b.stop⟩

/-- The first character of a span. -/
def first (s : Span) : Span := ⟨s.start, ⟨s.start.line, s.start.column + 1⟩⟩

/-- The last character of a span that does not end with a line. -/
def last (s : Span) : Span := ⟨⟨s.stop.line, s.stop.column - 1⟩, s.stop⟩

/-- The stretch in bytes: how many stand before it, and how many it takes. -/
def bytes (text : String) (s : Span) : Nat × Nat :=
  let lo := s.start.offset text
  (lo, s.stop.offset text - lo)

end Span

end RenderTrace
