import RenderTrace.Syntax.Reader

/-!
# The nonterminals of the grammar

The grammar is recursive through a handful of nonterminals. The modules beside this one say what
each of them reads, given a reader for all of them; `Syntax/Grammar/Closure` ties the knot. So every
rule is a plain definition, and an argument about the grammar is an induction on the depth of the
knot.
-/

namespace RenderTrace.Syntax

/-- How tightly an operator binds, loosest first. -/
inductive Precedence where
  | lowest
  | assign
  | range
  | or
  | and
  | compare
  | bitOr
  | bitXor
  | bitAnd
  | shift
  | sum
  | product
  | cast
  deriving DecidableEq, Repr, Inhabited

namespace Precedence

/-- The rank of a precedence. -/
def rank : Precedence → Nat
  | lowest => 0
  | assign => 1
  | range => 2
  | or => 3
  | and => 4
  | compare => 5
  | bitOr => 6
  | bitXor => 7
  | bitAnd => 8
  | shift => 9
  | sum => 10
  | product => 11
  | cast => 12

end Precedence

/-- What a bound may be besides a trait: a list of captured lifetimes, or a trait with a condition
on constness. -/
structure BoundStyle where
  captures : Bool
  constness : Bool
  deriving DecidableEq, Repr

/-- What a part of the source may be asked to be. -/
inductive Nonterminal where
  /-- A type; `plus` if a sum of bounds may follow without parentheses. -/
  | type (plus : Bool)
  /-- A bound on a type. -/
  | bound (style : BoundStyle)
  /-- An expression; `structs` if a brace after a path opens a struct literal. -/
  | expression (structs : Bool)
  /-- An expression without binary operators. -/
  | operand (structs : Bool)
  /-- The operators, from precedence `base` on, that follow the expression `left`. -/
  | operators (left : Node) (structs : Bool) (base : Precedence)
  /-- An expression where a statement or an arm begins, which may end at a closing brace. -/
  | leading
  /-- A pattern without alternatives. -/
  | pattern
  /-- The statements up to the end of the group. -/
  | statements
  /-- An item. -/
  | item

/-- A reader for every nonterminal. -/
abbrev Readers := Nonterminal → Reader Node

end RenderTrace.Syntax
