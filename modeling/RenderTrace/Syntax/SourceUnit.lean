import RenderTrace.Syntax.Grammar.Closure
import RenderTrace.Token.Lexer
import RenderTrace.Token.Text

/-!
# Compilation units

A unit is a text of items. A byte order mark in front is not part of it, and neither is a first line
that begins with `#!`, unless that begins an attribute; the line feed behind it is, so that lines
are counted as in the text.
-/

namespace RenderTrace.Syntax

/-- A parsed unit. -/
structure SourceUnit where
  /-- The first line for the shell, if there is one. -/
  shebang : Option String
  /-- The attributes of the whole unit. -/
  attributes : Node
  /-- The items, in a sequence. -/
  items : Node
  deriving Repr, Inhabited

/-- Reads all of a text. -/
def readText {α : Type} (r : Readers → Reader α) (text : String) : Except SyntaxError α :=
  match Token.forest? text with
  | .error at_ => .error ⟨⟨at_, at_⟩, "cannot parse string into token stream"⟩
  | .ok trees => (Grammar.closed r).run trees

namespace SourceUnit

/-- A text without a byte order mark in front. -/
def withoutMark (cs : List Char) : List Char :=
  match cs with
  | '\ufeff' :: rest => rest
  | _ => cs

/-- The first line for the shell, and the text from its line feed on. -/
def splitShebang (cs : List Char) : Option (List Char) × List Char :=
  match cs with
  | '#' :: '!' :: rest =>
    match Lexeme.skipBlanks (rest.length + 1) rest with
    | '[' :: _ => (none, cs)
    | _ => (some (cs.takeWhile (· != '\n')), cs.dropWhile (· != '\n'))
  | _ => (none, cs)

/-- The attributes and items of a unit. -/
def reader (self : Readers) : Reader (Node × Node) := do
  let attributes ← Grammar.innerAttributes self
  return (attributes, ← Reader.untilEnd (self .item))

/-- Parses a unit. -/
def parse (text : String) : Except SyntaxError SourceUnit := do
  let (shebang, rest) := splitShebang (withoutMark text.toList)
  let (attributes, items) ← readText reader (String.ofList rest)
  return ⟨shebang.map String.ofList, attributes, items⟩

end SourceUnit

/-- The text of a node's tokens. -/
def Node.tokenText (n : Node) : String := TokenTree.textAll n.trees

/-- A function with its attributes, alone in a text. -/
def functionOf (text : String) : Except SyntaxError Node :=
  readText (fun self => do
    let attrs ← Grammar.outerAttributes self
    let vis ← Grammar.visibility
    let sig ← Grammar.plainSignature self
    let (inner, body) ← Grammar.attributedBlock self
    return .node .itemFn [Grammar.joinAttributes attrs inner, vis, sig, body]) text

/-- A path as types spell it, alone in a text. -/
def pathOf (text : String) : Except SyntaxError Node :=
  readText (fun self => Grammar.path self false) text

/-- A name, alone in a text. -/
def nameOf (text : String) : Except SyntaxError String :=
  (readText (fun _ => Reader.name) text).map Node.text

end RenderTrace.Syntax
