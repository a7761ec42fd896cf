import RenderTrace.Text.Location

/-!
# Token trees

A source text is read first as a forest of *token trees*: names, punctuation characters, literals
and delimited groups of trees. Punctuation keeps one bit of spacing: whether another punctuation
character follows at once, which is how `::` differs from `: :`. A lifetime such as `'a` is the
punctuation character `'` with the name behind it.

`TokenTree.sizes` counts the trees of a forest with everything inside them; it is the measure by
which reading the inside of a group gets smaller.
-/

namespace RenderTrace

/-- The three pairs of brackets that group tokens. -/
inductive Delimiter where
  | paren
  | bracket
  | brace
  deriving DecidableEq, Repr, Inhabited

namespace Delimiter

/-- The opening character. -/
def opening : Delimiter → Char
  | paren => '('
  | bracket => '['
  | brace => '\x7b'

/-- The closing character. -/
def closing : Delimiter → Char
  | paren => ')'
  | bracket => ']'
  | brace => '\x7d'

/-- The delimiter that a character opens. -/
def ofOpening? (c : Char) : Option Delimiter :=
  [paren, bracket, brace].find? (·.opening == c)

/-- The delimiter that a character closes. -/
def ofClosing? (c : Char) : Option Delimiter :=
  [paren, bracket, brace].find? (·.closing == c)

end Delimiter

/-- A token, or a delimited group of tokens. -/
inductive TokenTree where
  /-- A name, with its raw mark `r#` if it has one. -/
  | name (text : String) (span : Span)
  /-- A punctuation character; `joint` if another one follows at once. -/
  | punct (char : Char) (joint : Bool) (span : Span)
  /-- A literal, as it is spelled. -/
  | literal (text : String) (span : Span)
  /-- A group, with the places of its two delimiters. -/
  | group (delimiter : Delimiter) (opening closing : Span) (inside : List TokenTree)
  deriving Repr, Inhabited

namespace TokenTree

/-- Where a token stands; for a group, its opening delimiter. -/
def span : TokenTree → Span
  | name _ s => s
  | punct _ _ s => s
  | literal _ s => s
  | group _ s _ _ => s

mutual

/-- The number of tokens and groups in a tree. -/
def size : TokenTree → Nat
  | group _ _ _ inside => 1 + sizes inside
  | _ => 1

/-- The number of tokens and groups in a forest. -/
def sizes : List TokenTree → Nat
  | [] => 0
  | t :: ts => size t + sizes ts

end

end TokenTree

end RenderTrace
