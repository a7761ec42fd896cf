import RenderTrace.Layout.MacroBody
import RenderTrace.Token.StringLiteral

/-!
# Attributes and comments

An attribute that documents is written as a comment again, as a line if its text has one line, else
as a block if the text can stand in one. The attribute `comment` stands for a comment that documents
nothing and is written so. All other attributes stand in brackets.
-/

namespace RenderTrace.Layout

open Syntax

variable (self : Layouts)

/-! ### Comments -/

/-- A text without the blanks at its end. -/
def trimEnd (cs : List Char) : List Char := (cs.reverse.dropWhile (· == ' ')).reverse

/-- A text without the blanks at the ends of its lines but the last. -/
def trimLines (s : String) : String :=
  let lines := s.splitOn "\n"
  "\n".intercalate
    ((lines.dropLast.map fun l => String.ofList (trimEnd l.toList)) ++ lines.getLast?.toList)

/-- Whether all blocks that a text opens inside a block of comment, from `depth` open ones on, are
closed, and no others. -/
def isBalanced : Nat → List Char → Bool
  | depth, '/' :: '*' :: cs => isBalanced (depth + 1) cs
  | 0, '*' :: '/' :: _ => false
  | depth + 1, '*' :: '/' :: cs => isBalanced depth cs
  | depth, _ :: cs => isBalanced depth cs
  | depth, [] => depth == 0

/-- Whether a text can stand in a block of comment. -/
def fitsBlock (s : String) : Bool := isBalanced 0 s.toList && !s.endsWith "/"

/-- Whether a text begins with one of the characters. -/
def beginsWith (cs : List Char) (s : String) : Bool := s.toList.head?.any cs.contains

/-- A comment of one line behind its mark. -/
def lineComment (opening s : String) : Row :=
  word opening ++ word (String.ofList (trimEnd s.toList)) ++ newline

/-- A block of comment behind its mark. -/
def blockComment (opening s : String) : Row :=
  word opening ++ word (trimLines s) ++ word "*/" ++ newline

/-- The text of an attribute of the form `name = "text"`. -/
def attributeText? (a : Node) (name : String) : Option String :=
  match a.attributeInside with
  | .node .metaNameValue [p, _, .node .exprLit [_, .token .literal t _]] =>
    if p.isWord name then Token.StringLiteral.text? t else none
  | _ => none

/-- The comment that an attribute is written as, if it is. -/
def comment? (outer : Bool) (a : Node) : Option Row :=
  match attributeText? a "doc" with
  | some s =>
    if !s.contains '\n' && !(outer && beginsWith ['/'] s) then
      some (lineComment (if outer then "///" else "//!") s)
    else if fitsBlock s && !(outer && beginsWith ['*', '/'] s) then
      some (blockComment (if outer then "/**" else "/*!") s)
    else none
  | none =>
    match attributeText? a "comment" with
    | some s =>
      if !s.contains '\n' then some (lineComment "//" s)
      else if fitsBlock s && !beginsWith ['*', '!'] s then some (blockComment "/*" s)
      else none
    | none => none

/-! ### Arguments of attributes -/

/-- What the arguments of an attribute end with so far. -/
inductive ArgumentPlace where
  | word
  | sign
  | lastComma
  deriving DecidableEq

mutual

/-- An argument, with what it leaves; `isLast` if nothing follows it in its group. -/
def argument (s : ArgumentPlace) (isLast : Bool) : TokenTree → Row × ArgumentPlace
  | .name t _ => ((if s = .word then blank else []) ++ word t, .word)
  | .literal t _ => ((if s = .word then blank else []) ++ word t, .word)
  | .punct c _ _ =>
    if c == ',' && isLast then (comma true, .lastComma)
    else
      let before := if s = .word && c == '=' then word " " else []
      let after := if c == '=' then word " " else if c == ',' then blank else []
      (before ++ word c.toString ++ after, .sign)
  | .group d _ _ trees =>
    let (row, s') := argumentsBehind .sign trees
    let row := match d with
      | .paren => inside (row ++ if s' = .lastComma then [] else seam)
      | _ => row
    (word d.opening.toString ++ row ++ word d.closing.toString, .sign)

/-- Arguments behind others, with what they leave. -/
def argumentsBehind (s : ArgumentPlace) : List TokenTree → Row × ArgumentPlace
  | [] => ([], s)
  | t :: ts =>
    let (row, s') := argument s ts.isEmpty t
    let (rest, s'') := argumentsBehind s' ts
    (row ++ rest, s'')

end

/-! ### Attributes -/

/-- What an attribute says. -/
def attributeRow : Node → Row
  | .node .metaPath [p] => plainPath p
  | .node .metaList [p, args] =>
    plainPath p ++
      (argument .word true (.group (delimiterOf args) .nowhere .nowhere (unreadTrees args))).1
  | .node .metaNameValue [p, _, value] =>
    plainPath p ++ word " = " ++ self (.expression false) value
  | _ => [.unprintable]

/-- An attribute, or the comment that it stands for. -/
def attributeOf (a : Node) : Row :=
  let outer := (a.child 1).isAbsent
  match comment? outer a with
  | some row => row
  | none =>
    word (if outer then "#" else "#!") ++ word "[" ++ attributeRow self a.attributeInside ++
      word "]" ++ blank

/-- Attributes in a row. -/
def attributesOf (attrs : List Node) : Row := attrs.flatMap (attributeOf self)

/-- The attributes in front of a construct. -/
def attributes (n : Node) : Row := attributesOf self n.outerAttributes

end RenderTrace.Layout
