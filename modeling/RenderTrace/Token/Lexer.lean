import RenderTrace.Token.Tree
import RenderTrace.Token.Lexeme
import RenderTrace.Text.Quoted

/-!
# From text to token trees

`Token.forest?` reads a whole text. It keeps a stack of the groups that are still open, each with
the trees that stood before it. Reading fails at a place: at the character that begins no lexeme, at
a closing delimiter that nothing opened or another delimiter did, or, at the end of the text, at the
delimiter that was opened last and never closed.

Documenting comments become the attributes they abbreviate: `/// text` is `#[doc = " text"]`.
-/

namespace RenderTrace.Token

open Lexeme

/-- A group that is still open: its delimiter, where it was opened, and the trees before it, latest
first. -/
structure Frame where
  delimiter : Delimiter
  opening : Span
  before : List TokenTree

/-- What is read so far: the characters left, the place of the first of them, the open groups, and
the trees of the innermost one, latest first. -/
structure Scan where
  rest : List Char
  place : Location
  stack : List Frame
  done : List TokenTree

namespace Scan

/-- Before the first character. -/
def start (cs : List Char) : Scan := ⟨cs, .start, [], []⟩

/-- Goes on to `rest`, which the characters left end with. -/
def moveTo (s : Scan) (rest : List Char) : Scan :=
  { s with rest, place := s.place.advanceAll (s.rest.take (s.rest.length - rest.length)) }

/-- Skips blanks and comments. -/
def skip (s : Scan) : Scan := s.moveTo (skipBlanks (s.rest.length + 1) s.rest)

/-- Adds a tree to the innermost group. -/
def push (s : Scan) (t : TokenTree) : Scan := { s with done := t :: s.done }

/-- The attribute that a documenting comment stands for, latest tree first. -/
def docAttribute (text : List Char) (inner : Bool) (span : Span) : List TokenTree :=
  let pound := TokenTree.punct '#' false span
  let bang := if inner then [TokenTree.punct '!' false span] else []
  let inside := [.name "doc" span, .punct '=' false span,
    .literal (Text.stringLiteral (String.ofList text)) span]
  .group .bracket span.first span.last inside :: bang ++ [pound]

/-- The leaf that begins here, with what follows it. -/
def leaf? (s : Scan) : Option (List Char × (Span → TokenTree)) :=
  let literal := (literal? s.rest).map fun rest => (rest, TokenTree.literal (taken s.rest rest))
  let punct := (punct? s.rest).map fun (c, joint, rest) => (rest, TokenTree.punct c joint)
  let name := (name? s.rest).map fun rest => (rest, TokenTree.name (taken s.rest rest))
  let placeholder := if unwritable.isPrefixOf s.rest then
      some (s.rest.drop unwritable.length, TokenTree.literal (String.ofList unwritable))
    else none
  literal <|> punct <|> name <|> placeholder

/-- The delimiter that a group opens with here. -/
def opening? (s : Scan) (c : Char) : Option Delimiter :=
  if unwritable.isPrefixOf s.rest then none else Delimiter.ofOpening? c

/-- Reads one token or delimiter; blanks have been skipped, and at least one character is left. -/
def step (s : Scan) (c : Char) : Except Location Scan :=
  match s.opening? c with
  | some d =>
    let after := s.moveTo s.rest.tail
    .ok { after with stack := ⟨d, ⟨s.place, after.place⟩, s.done⟩ :: s.stack, done := [] }
  | none =>
    match Delimiter.ofClosing? c with
    | some d =>
      match s.stack with
      | [] => .error s.place
      | frame :: stack =>
        if frame.delimiter = d then
          let after := s.moveTo s.rest.tail
          let tree := TokenTree.group d frame.opening ⟨s.place, after.place⟩ s.done.reverse
          .ok { after with stack, done := tree :: frame.before }
        else .error s.place
    | none =>
      match s.leaf? with
      | some (rest, tree) =>
        let after := s.moveTo rest
        .ok (after.push (tree ⟨s.place, after.place⟩))
      | none => .error s.place

/-- Reads to the end. Every step takes a character, so one step more than there are characters is
fuel enough. -/
def run : Nat → Scan → Except Location (List TokenTree)
  | 0, s => .error s.place
  | fuel + 1, s =>
    let s := s.skip
    match docComment? s.rest with
    | some (text, inner, rest) =>
      let after := s.moveTo rest
      run fuel { after with done := docAttribute text inner ⟨s.place, after.place⟩ ++ s.done }
    | none =>
      match s.rest with
      | [] =>
        match s.stack with
        | [] => .ok s.done.reverse
        | frame :: _ => .error frame.opening.start
      | c :: _ => s.step c >>= run fuel

/-- Passes over a byte order mark, which takes a column like other characters. -/
def skipMark (s : Scan) : Scan :=
  match s.rest with
  | '\ufeff' :: rest => s.moveTo rest
  | _ => s

end Scan

/-- The token trees of a text, or the place where there is no token. A byte order mark in front is
not read. -/
def forest? (text : String) : Except Location (List TokenTree) :=
  let s := (Scan.start text.toList).skipMark
  s.run (s.rest.length + 1)

end RenderTrace.Token
