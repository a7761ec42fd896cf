/-!
# Documents with breaks

A laid-out text is described by a *row* of documents: texts, *breaks* and *boxes*, which hold rows.
A box whose contents, with what follows up to the next break behind it, does not fit into what is
left of the line is *broken*. In a box that is not broken no line ends. In a broken box that keeps
its breaks together every break ends the line; in a broken box that fills lines a break ends the
line only if what follows up to the next break does not fit.

Widths are counted in bytes. `Row.print` is the one function that makes a text of a row; it is a
recursion over the documents with the width that follows each of them in hand.
-/

namespace RenderTrace.Layout

/-- The width of a line. -/
def lineWidth : Nat := 89

/-- The least width that a line has behind its indentation. -/
def leastWidth : Nat := 60

/-- A width that fits into no line. -/
def endless : Nat := 65535

/-- How far a level is indented. -/
def step : Int := 4

/-- A place where a line may end. -/
structure Break where
  /-- How much deeper the next line is indented than its box. -/
  offset : Int := 0
  /-- The blanks in its place if the line goes on. -/
  blanks : Nat := 0
  /-- A character in front of the end of the line. -/
  before : Option Char := none
  /-- A text at the beginning of the next line. -/
  after : String := ""
  /-- A character in its place if the line goes on. -/
  inline : Option Char := none
  /-- Whether it vanishes at the end of a box. -/
  vanishes : Bool := false
  /-- Whether the line always goes on. -/
  never : Bool := false
  deriving Repr

/-- What the breaks of a broken box do. -/
inductive Mode where
  /-- All of them end the line. -/
  | together
  /-- Each of them ends the line if it has to. -/
  | fill
  deriving DecidableEq, Repr

/-- A part of a laid-out text. -/
inductive Doc where
  /-- A text, and how wide it counts. -/
  | text (s : String) (width : Nat)
  /-- A place where the line may end. -/
  | brk (b : Break)
  /-- A box, indented by `offset` if it is broken, with the width of its contents. -/
  | box (mode : Mode) (offset : Int) (width : Nat) (contents : List Doc)
  /-- Something that has no layout. -/
  | unprintable
  deriving Repr

/-- Documents in a row. -/
abbrev Row := List Doc

namespace Doc

/-- How wide a document is if no line ends in it. -/
def width : Doc → Nat
  | text _ w => w
  | brk b => b.blanks
  | box _ _ w _ => w
  | unprintable => 0

mutual

/-- Whether a document has a layout. -/
def isPrintable : Doc → Bool
  | unprintable => false
  | box _ _ _ contents => allPrintable contents
  | _ => true

/-- Whether all documents of a row have a layout. -/
def allPrintable : List Doc → Bool
  | [] => true
  | d :: ds => isPrintable d && allPrintable ds

end

end Doc

/-! ### Rows -/

/-- A text. -/
def word (s : String) : Row := [.text s s.utf8ByteSize]

/-- A blank, or the end of the line. -/
def blank : Row := [.brk { blanks := 1 }]

/-- Nothing, or the end of the line. -/
def seam : Row := [.brk {}]

/-- The end of the line. -/
def newline : Row := [.brk { blanks := endless }]

/-- The end of the line, unless the box ends here. -/
def newlineIfMore : Row := [.brk { blanks := endless, vanishes := true }]

/-- A blank or the end of the line, unless the box ends here. -/
def blankIfMore : Row := [.brk { blanks := 1, vanishes := true }]

/-- A place where the line goes on, up to which the breaks before it look. -/
def glue : Row := [.brk { never := true }]

/-- Behind an element: a comma and a blank; behind the last one, a comma only if the line ends. -/
def comma (isLast : Bool) : Row :=
  if isLast then [.brk { before := some ',' }] else word "," ++ blank

/-- Behind an element: a comma and a blank; behind the last one, a blank if the line goes on. -/
def commaOrBlank (isLast : Bool) : Row :=
  if isLast then [.brk { blanks := 1, before := some ',' }] else word "," ++ blank

/-- The width of a row. -/
def widthOf : Row → Nat
  | [] => 0
  | d :: ds => d.width + widthOf ds

mutual

/-- The last text of a document, if there is one. -/
def Doc.lastText? : Doc → Option String
  | .text s _ => some s
  | .box _ _ _ contents => lastTextOf contents
  | _ => none

/-- The last text of a row. -/
def lastTextOf : List Doc → Option String
  | [] => none
  | d :: ds => lastTextOf ds <|> d.lastText?

end

/-- Whether the last text of a row ends with a point. -/
def endsWithPoint (r : Row) : Bool := (lastTextOf r).any (·.endsWith ".")

/-- A row whose last break ends the line one level further out. -/
def outdent (r : Row) : Row :=
  match r.getLast? with
  | some (.brk b) => r.dropLast ++ [.brk { b with offset := b.offset - step }]
  | _ => r

/-- A box. A single break in it is left out with the box, and so is a last break that vanishes. -/
def boxed (mode : Mode) (offset : Int) (r : Row) : Row :=
  match r with
  | [.brk _] => []
  | _ =>
    let r := match r.getLast? with
      | some (.brk b) => if b.vanishes then r.dropLast else r
      | _ => r
    [.box mode offset (widthOf r) r]

/-- A box that keeps its breaks together. -/
def together (offset : Int) (r : Row) : Row := boxed .together offset r

/-- A box that fills lines. -/
def fill (offset : Int) (r : Row) : Row := boxed .fill offset r

/-- A row that fits into no line, so that the boxes around it are broken. -/
def forced (r : Row) : Row := r ++ [.text "" endless]

/-- A row with a part between each two of the rows given. -/
def joined (between : Row) (rs : List Row) : Row := between.intercalate rs

/-! ### Printing -/

/-- A page in the making. -/
structure Page where
  /-- What is written. -/
  text : String
  /-- How much fits into the line; less than nothing if the line is too long. -/
  room : Int
  /-- The indentation of the box. -/
  indent : Int
  /-- Blanks that are due before the next text. -/
  due : Nat

/-- What the innermost box does with its breaks. -/
inductive Frame where
  | whole
  | broken (mode : Mode)

namespace Page

/-- Writes the blanks that are due. -/
def settle (p : Page) : Page :=
  { p with text := p.text ++ "".pushn ' ' p.due, due := 0 }

/-- Writes a text. -/
def write (s : String) (p : Page) : Page :=
  let p := p.settle
  { p with text := p.text ++ s, room := p.room - s.utf8ByteSize }

/-- Whether the line goes on at a break that is `size` wide up to the next one. -/
def goesOn (frame : Frame) (b : Break) (size : Nat) (p : Page) : Bool :=
  b.never ||
    match frame with
    | .whole => true
    | .broken .together => false
    | .broken .fill => size ≤ p.room

/-- The line goes on at a break. -/
def stay (b : Break) (p : Page) : Page :=
  let p := { p with due := p.due + b.blanks, room := p.room - b.blanks }
  match b.inline with
  | some c => { p with text := p.text.push c, room := p.room - c.utf8Size }
  | none => p

/-- The line ends at a break. -/
def turn (b : Break) (p : Page) : Page :=
  let p := match b.before with
    | some c => { p.settle with text := p.settle.text.push c }
    | none => p
  let indent := p.indent + b.offset
  let p : Page :=
    { p with
      text := p.text.push '\n', due := indent.toNat,
      room := max (lineWidth - indent) leastWidth }
  if b.after.isEmpty then p else p.write b.after

end Page

/-- The width of a row up to its first break, and to `after` if it has none. -/
def reach (after : Nat) : Row → Nat
  | [] => after
  | .brk _ :: _ => 0
  | d :: ds => d.width + reach after ds

mutual

/-- Prints a document that is followed by a width of `after` up to the next break. -/
def Doc.print (frame : Frame) (after : Nat) : Doc → Page → Page
  | .text s _, p => p.write s
  | .brk b, p => if p.goesOn frame b (b.blanks + after) then p.stay b else p.turn b
  | .box mode offset width contents, p =>
    if width + after > p.room then
      let q := Doc.printAll (.broken mode) after contents { p with indent := p.indent + offset }
      { q with indent := p.indent }
    else Doc.printAll .whole after contents p
  | .unprintable, p => p

/-- Prints documents in a row. -/
def Doc.printAll (frame : Frame) (after : Nat) : List Doc → Page → Page
  | [], p => p
  | d :: ds, p => Doc.printAll frame after ds (Doc.print frame (reach after ds) d p)

end

/-- The text of a row. -/
def Row.print (r : Row) : String :=
  (Doc.printAll (.broken .fill) 0 r ⟨"", lineWidth, 0, 0⟩).text

end RenderTrace.Layout
