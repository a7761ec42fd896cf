import RenderTrace.Syntax.Node

/-!
# Reading token trees

The grammar is written with readers: functions from a cursor to a result and the cursor behind it,
or to the reason why reading stopped. A cursor stands in one group (or at the top) and sees the
trees that are left there. This module holds the cursor, the reasons, the tests of what comes next,
and the readers of single tokens and of groups.

## Two ways of saying what was expected

A construct that is expected but not found is reported at the next token, or, where the group ends,
at its closing delimiter with `unexpected end of input` in front; at the end of all input no place
is left to point at. Punctuation is reported without that phrase.

## Leftovers

A group whose inside is not read to its end is remembered (`Cursor.stray`), not refused on the spot:
the first such leftover is reported only if everything else could be read.
-/

namespace RenderTrace.Syntax

/-- Why a text has no tree: a message, and the place it is about. -/
structure SyntaxError where
  span : Span
  message : String
  deriving Repr, DecidableEq

/-- A position in a group: what is left of it, the place that stands for its end, its delimiter, and
the first leftover met so far. -/
structure Cursor where
  rest : List TokenTree
  scope : Span
  delimiter : Option Delimiter
  stray : Option SyntaxError

/-- A reader of `α`. -/
abbrev Reader (α : Type) := StateT Cursor (Except SyntaxError) α

/-! ### What comes next -/

/-- A test on the trees to come. -/
abbrev Probe := List TokenTree → Bool

namespace Probe

/-- The trees after the first one; a lifetime counts as one tree. -/
def skip? : List TokenTree → Option (List TokenTree)
  | [] => none
  | .punct '\'' true _ :: .name _ _ :: ts => some ts
  | _ :: ts => some ts

/-- The trees after an operator, whose characters must be joint. -/
def operator? : List Char → List TokenTree → Option (List TokenTree)
  | [c], .punct d _ _ :: ts => if c == d then some ts else none
  | c :: cs, .punct d joint _ :: ts => if c == d && joint then operator? cs ts else none
  | _, _ => none

/-- An operator comes next; it may be the beginning of a longer one. -/
def op (text : String) : Probe := fun ts => (operator? text.toList ts).isSome

/-- This keyword comes next. -/
def keyword (text : String) : Probe
  | .name t _ :: _ => t == text
  | _ => false

/-- Words that are no names. -/
def reserved : List String :=
  ["_", "abstract", "as", "async", "await", "become", "box", "break", "const", "continue", "crate",
    "do", "dyn", "else", "enum", "extern", "false", "final", "fn", "for", "if", "impl", "in", "let",
    "loop", "macro", "match", "mod", "move", "mut", "override", "priv", "pub", "ref", "return",
    "Self", "self", "static", "struct", "super", "trait", "true", "try", "type", "typeof", "unsafe",
    "unsized", "use", "virtual", "where", "while", "yield"]

/-- A name that is no keyword comes next. -/
def name : Probe
  | .name t _ :: _ => !reserved.contains t
  | _ => false

/-- A name or keyword comes next. -/
def anyWord : Probe
  | .name _ _ :: _ => true
  | _ => false

/-- A lifetime comes next. -/
def lifetime : Probe
  | .punct '\'' true _ :: .name _ _ :: _ => true
  | _ => false

/-- A literal comes next; the two truth values and negative numbers are literals. -/
def literal : Probe
  | .literal _ _ :: _ => true
  | .name t _ :: _ => t == "true" || t == "false"
  | .punct '-' _ _ :: .literal t _ :: _ => (t.toList.head?.any Char.isDigit)
  | _ => false

/-- The text of a string literal, raw or not. -/
def isStringLiteral (t : String) : Bool :=
  t.startsWith "\"" || t.startsWith "r"

/-- A string literal comes next. -/
def stringLiteral : Probe
  | .literal t _ :: _ => isStringLiteral t
  | _ => false

/-- A group comes next. -/
def group (d : Delimiter) : Probe
  | .group d' _ _ _ :: _ => d == d'
  | _ => false

/-- Parentheses come next. -/
def paren : Probe := group .paren

/-- Square brackets come next. -/
def bracket : Probe := group .bracket

/-- Curly braces come next. -/
def brace : Probe := group .brace

/-- The test holds one tree later. -/
def second (p : Probe) : Probe := fun ts => (skip? ts).any p

/-- The test holds two trees later. -/
def third (p : Probe) : Probe := fun ts => ((skip? ts).bind skip?).any p

/-- Both tests hold. -/
def and (p q : Probe) : Probe := fun ts => p ts && q ts

/-- One of the tests holds. -/
def any (ps : List Probe) : Probe := fun ts => ps.any fun p => p ts

/-- The first test holds and the second does not. -/
def butNot (p q : Probe) : Probe := fun ts => p ts && !q ts

/-- A word that may begin a path, besides names. -/
def pathKeyword : Probe :=
  any [keyword "self", keyword "Self", keyword "super", keyword "crate"]

end Probe

namespace Reader

/-- Whether the test holds of what comes next. -/
def peek (p : Probe) : Reader Bool := do return p (← get).rest

/-- Whether nothing is left in the group. -/
def atEnd : Reader Bool := do return (← get).rest.isEmpty

/-! ### Refusing -/

/-- The place that a message about a cursor points at. -/
def place (c : Cursor) : Span :=
  match c.rest with
  | t :: _ => t.span
  | [] => c.scope

/-- Stops with a message about a place. -/
def failAt {α : Type} (span : Span) (message : String) : Reader α :=
  throw ⟨span, message⟩

/-- Stops with a message about what comes next; if nothing does, the message says so. -/
def fail {α : Type} (message : String) : Reader α := do
  let c ← get
  failAt (place c)
    (if c.rest.isEmpty then "unexpected end of input, " ++ message else message)

/-- The words for a choice of things that would have been right. -/
def expectation : List String → String
  | [one] => "expected " ++ one
  | [one, two] => "expected " ++ one ++ " or " ++ two
  | many => "expected one of: " ++ ", ".intercalate many

/-- Stops because none of the things listed comes next. -/
def expected {α : Type} (things : List String) : Reader α := fail (expectation things)

/-- A word of the language as messages show it. -/
def shown (text : String) : String := String.ofList ['\x60'] ++ text ++ String.ofList ['\x60']

/-! ### Trying -/

/-- Reads if that is possible; if not, the cursor stays. -/
def attempt? {α : Type} (r : Reader α) : Reader (Option α) := fun c =>
  match r c with
  | .ok (a, c') => .ok (some a, c')
  | .error _ => .ok (none, c)

/-- Reads ahead: the cursor stays. -/
def ahead? {α : Type} (r : Reader α) : Reader (Option α) := fun c =>
  match r c with
  | .ok (a, _) => .ok (some a, c)
  | .error _ => .ok (none, c)

/-- Reads ahead, and refuses as the reader does: the cursor stays. -/
def ahead {α : Type} (r : Reader α) : Reader α := fun c =>
  match r c with
  | .ok (a, _) => .ok (a, c)
  | .error e => .error e

/-- The trees from a cursor on up to here. -/
def treesSince (start : Cursor) : Reader (List TokenTree) := do
  return start.rest.take (start.rest.length - (← get).rest.length)

/-- What is read from a cursor on up to here, with its trees as they are. -/
def verbatimSince (start : Cursor) : Reader Node := do
  return .node .verbatim [.unread (← treesSince start)]

/-- The trees that a reader takes. -/
def taking {α : Type} (r : Reader α) : Reader (α × List TokenTree) := do
  let start ← get
  let a ← r
  return (a, ← treesSince start)

/-- Reads as `r` does, but keeps the trees as they are. -/
def verbatim {α : Type} (r : Reader α) : Reader Node := do
  let start ← get
  let _ ← r
  verbatimSince start

/-! ### Tokens -/

/-- Takes the next tree. -/
def advance : Reader Unit := modify fun c => { c with rest := c.rest.tail }

/-- Reads an operator; its place reaches from the first of its characters to the last. -/
def op (text : String) : Reader Node := fun c =>
  match Probe.operator? text.toList c.rest with
  | some rest =>
    let last := ((c.rest.drop (text.length - 1)).head?.map TokenTree.span).getD (place c)
    .ok (.token .operator text ((place c).join last), { c with rest })
  | none => .error ⟨place c, "expected " ++ shown text⟩

/-- Reads a keyword. -/
def keyword (text : String) : Reader Node := do
  match (← get).rest with
  | .name t span :: _ =>
    if t == text then
      advance
      return .token .word t span
    else fail ("expected " ++ shown text)
  | _ => fail ("expected " ++ shown text)

/-- Reads any name or keyword. -/
def anyWord : Reader Node := do
  match (← get).rest with
  | .name t span :: _ =>
    advance
    return .token .word t span
  | _ => fail "expected ident"

/-- Reads a name that is no keyword. -/
def name : Reader Node := do
  match (← get).rest with
  | .name t span :: _ =>
    if Probe.reserved.contains t then
      fail ("expected identifier, found keyword " ++ shown t)
    else
      advance
      return .token .word t span
  | _ => fail "expected identifier"

/-- Reads a lifetime. -/
def lifetime : Reader Node := do
  match (← get).rest with
  | .punct '\'' true quote :: .name t span :: _ =>
    advance
    advance
    return .token .lifetime ("'" ++ t) (quote.join span)
  | _ => fail "expected lifetime"

/-- Reads a literal. -/
def literal : Reader Node := do
  if ← peek Probe.literal then
    match (← get).rest with
    | .literal t span :: _ =>
      advance
      return .token .literal t span
    | .name t span :: _ =>
      advance
      return .token .word t span
    | .punct _ _ minus :: .literal t span :: _ =>
      advance
      advance
      return .token .literal ("-" ++ t) (minus.join span)
    | _ => fail "expected literal"
  else fail "expected literal"

/-- Reads the operator if it comes next. -/
def op? (text : String) : Reader Node := do
  if ← peek (Probe.op text) then op text else return .absent

/-- Reads the keyword if it comes next. -/
def keyword? (text : String) : Reader Node := do
  if ← peek (Probe.keyword text) then keyword text else return .absent

/-- Reads with `r` if the test holds. -/
def whenNext (p : Probe) (r : Reader Node) : Reader Node := do
  if ← peek p then r else return .absent

/-! ### Groups -/

/-- How a group is called in messages. -/
def groupName : Delimiter → String
  | .paren => "parentheses"
  | .bracket => "square brackets"
  | .brace => "curly braces"

/-- The whole place of a tree. -/
def fullSpan : TokenTree → Span
  | .group _ opening closing _ => opening.join closing
  | t => t.span

/-- The complaint about what is left where nothing should be. -/
def leftover? (c : Cursor) : Option SyntaxError :=
  match c.rest, c.delimiter with
  | [], _ => none
  | t :: _, none => some ⟨fullSpan t, "unexpected token"⟩
  | t :: _, some d =>
    some ⟨fullSpan t, "unexpected token, expected " ++ shown d.closing.toString⟩

/-- Reads the inside of a group with `r`. What `r` leaves is remembered. -/
def inGroup {α : Type} (d : Delimiter) (r : Reader α) : Reader α := fun c =>
  match c.rest with
  | .group d' _ closing inside :: rest =>
    if d = d' then
      match r ⟨inside, closing, some d, c.stray⟩ with
      | .ok (a, c') => .ok (a, { c with rest, stray := c'.stray <|> leftover? c' })
      | .error e => .error e
    else fail ("expected " ++ groupName d) c
  | _ => fail ("expected " ++ groupName d) c

/-- Reads a group of one or more parts. -/
def groupOf (d : Delimiter) (r : Reader (List Node)) : Reader Node := do
  return .group d (← inGroup d r)

/-- Takes parentheses with all that is in them. -/
def skipParens : Reader Unit := inGroup .paren (modify fun c => { c with rest := [] })

/-- Reads a group of any delimiter and leaves its inside unread. -/
def unreadGroup : Reader Node := do
  match (← get).rest with
  | .group d _ _ inside :: _ =>
    advance
    return .group d [.unread inside]
  | _ => fail "expected delimiter"

/-! ### Repetition -/

/-- Runs `r` until it says that it is done, at most `fuel` times. -/
def repeatFor (r : Reader (List Node × Bool)) : Nat → Reader (List Node)
  | 0 => return []
  | fuel + 1 => do
    let (nodes, more) ← r
    if more then return nodes ++ (← repeatFor r fuel) else return nodes

/-- Runs `r`, which takes a tree each time, until it says that it is done. -/
def repeatNodes (r : Reader (List Node × Bool)) : Reader (List Node) := do
  repeatFor r ((← get).rest.length + 1)

/-- The parts that `r` reads, in a sequence. -/
def parts (r : Reader (List Node × Bool)) : Reader Node := do
  return .list (← repeatNodes r)

/-- Elements with a separator between them and perhaps after them. `done` is asked before an element
and again before a separator. -/
def separated (done : Probe) (separator : String) (element : Reader Node) : Reader Node :=
  parts do
    if ← peek done then return ([], false)
    let e ← element
    if ← peek done then return ([e], false)
    return ([e, ← op separator], true)

/-- Comma-separated elements up to the end of the group. -/
def commaList (element : Reader Node) : Reader Node :=
  separated List.isEmpty "," element

/-- Elements up to the end of the group, with nothing between them. -/
def untilEnd (element : Reader Node) : Reader Node :=
  parts do
    if ← atEnd then return ([], false)
    return ([← element], true)

/-- Elements with `+` between them; after an element it is a `+` that asks for another one, unless
`done` holds. -/
def sum (done : Probe) (element : Reader Node) : Reader Node :=
  parts do
    if ← peek done then return ([], false)
    let e ← element
    if ← peek (Probe.op "+") then return ([e, ← op "+"], true)
    return ([e], false)

/-! ### Running -/

/-- Reads all of a forest. What stands at the end of all input has no place. -/
def run {α : Type} (r : Reader α) (trees : List TokenTree) : Except SyntaxError α :=
  let start : Cursor := ⟨trees, .nowhere, none, none⟩
  match r start with
  | .error e => .error e
  | .ok (a, c) =>
    match c.stray <|> leftover? c with
    | some e => .error e
    | none => .ok a

end Reader

end RenderTrace.Syntax
