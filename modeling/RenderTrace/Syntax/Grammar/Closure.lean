import RenderTrace.Syntax.Grammar.Statement

/-!
# The whole grammar

The rules of the grammar call each other through `Readers`. Here they are put together, with a bound
on the depth of those calls: between two calls that take a token there are only few that take none,
so a multiple of the number of tokens is deep enough.
-/

namespace RenderTrace.Syntax.Grammar

open Reader

/-- What a nonterminal reads, given readers for the parts. -/
def rule (self : Readers) : Nonterminal → Reader Node
  | .type plus => type self plus
  | .bound style => bound self style
  | .expression structs => expression self structs
  | .operand structs => operand self structs
  | .operators left structs base => operators self left structs base
  | .leading => leading self
  | .pattern => pattern self
  | .statements => statements self
  | .item => item self

/-- Readers for all nonterminals, to a depth. -/
def readers : Nat → Readers
  | 0, _ => fail "expected fewer levels"
  | depth + 1, n => rule (readers depth) n

/-- A depth that no forest of this size exceeds. -/
def depthFor (trees : List TokenTree) : Nat := 16 * TokenTree.sizes trees + 64

/-- Reads with readers deep enough for what is left. -/
def closed {α : Type} (r : Readers → Reader α) : Reader α := do
  r (readers (depthFor (← get).rest))

end RenderTrace.Syntax.Grammar
