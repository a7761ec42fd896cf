import RenderTrace.Layout.Role

/-!
# The bodies of macros

What stands in a macro has no grammar, so its tokens are laid out by the look of their neighbours: a
small machine (`Spacing`) says before each token whether a blank comes first. A blank is a place
where the line may end. Tokens that are joint never have a blank between them.
-/

namespace RenderTrace.Layout

open Syntax

/-- What the tokens so far end with. -/
inductive Spacing where
  | start
  | dollar
  | dollarName
  | dollarNameColon
  | dollarParen
  | dollarParenSeparator
  | pound
  | poundBang
  | dot
  | colon
  | colons
  | name
  | nameBang
  | delimited
  | other
  deriving DecidableEq

/-- Words that do not count as names in a macro. -/
def macroKeywords : List String :=
  ["as", "async", "await", "box", "break", "const", "continue", "crate", "dyn", "else", "enum",
    "extern", "fn", "for", "if", "impl", "in", "let", "loop", "macro", "match", "mod", "move",
    "mut", "pub", "ref", "return", "static", "struct", "trait", "type", "unsafe", "use", "where",
    "while", "yield"]

namespace Spacing

/-- What holds of a token wherever it stands: whether a blank comes before it, and what it
leaves. -/
def general (matcher : Bool) (s : Spacing) : TokenTree → Bool × Spacing
  | .group .brace _ _ _ => (true, .other)
  | .group .. => (true, .delimited)
  | .name t _ =>
    if macroKeywords.contains t then (true, .other) else (s != .dot && s != .colons, .name)
  | .literal t _ => (s != .dot, if t.endsWith "." then .other else .name)
  | .punct c joint _ =>
    if c == ',' || c == ';' then (false, .other)
    else if c == '.' && !matcher then (s != .name && s != .delimited, .dot)
    else if c == ':' && joint then (s != .name, .colon)
    else if c == '$' then (true, .dollar)
    else if c == '#' then (true, .pound)
    else (true, .other)

/-- Whether a blank comes before a token, and what it leaves. A `matcher` is the left side of a rule
of a macro. -/
def next (matcher : Bool) (s : Spacing) (t : TokenTree) : Bool × Spacing :=
  match s, t with
  | .dollar, .name t _ =>
    (false, if matcher then .dollarName else if t == "crate" then .name else .other)
  | .dollarName, .punct ':' false _ => (false, .dollarNameColon)
  | .dollarNameColon, .name .. => (false, .other)
  | .dollarParen, .punct c joint _ =>
    if !joint && (c == '+' || c == '*' || c == '?') then (false, .other)
    else (false, if joint then .dollarParen else .dollarParenSeparator)
  | .dollarParen, .name .. => (false, .dollarParenSeparator)
  | .dollarParen, .literal .. => (false, .dollarParenSeparator)
  | .dollarParenSeparator, .punct '+' _ _ => (false, .other)
  | .dollarParenSeparator, .punct '*' _ _ => (false, .other)
  | .pound, .punct '!' _ _ => (false, .poundBang)
  | .dollar, .group .paren _ _ _ => (false, .dollarParen)
  | .pound, .group .bracket _ _ _ => (false, .other)
  | .poundBang, .group .bracket _ _ _ => (false, .other)
  | .name, .group .paren _ _ _ => (false, .delimited)
  | .name, .group .bracket _ _ _ => (false, .delimited)
  | .name, .punct '!' false _ => (false, .nameBang)
  | .nameBang, .group .paren _ _ _ => (false, .other)
  | .nameBang, .group .bracket _ _ _ => (false, .other)
  | .colon, .punct ':' _ _ => (false, .colons)
  | s, t => general matcher s t

end Spacing

/-- Whether the next token follows without a blank whatever it is. -/
def holdsNext : TokenTree → Bool
  | .punct c joint _ => joint || c == '$'
  | _ => false

/-- Whether a token is a point. -/
def isPoint : TokenTree → Bool
  | .punct '.' _ _ => true
  | _ => false

mutual

/-- A token of a macro. -/
def macroToken (matcher : Bool) : TokenTree → Row
  | .name t _ => word t
  | .literal t _ => word t
  | .punct c _ _ => word c.toString
  | .group d _ _ trees =>
    let edge := if d == .brace && !trees.isEmpty then blank else []
    word d.opening.toString ++ edge ++ macroTokens matcher .start true trees ++ edge ++
      word d.closing.toString

/-- Tokens of a macro behind others; `held` if the first one follows without a blank. -/
def macroTokens (matcher : Bool) (s : Spacing) (held : Bool) : List TokenTree → Row
  | [] => []
  | t :: ts =>
    let (spaced, s') := s.next matcher t
    let gap := if held then [] else if spaced then blank else if isPoint t then seam else []
    gap ++ macroToken matcher t ++ macroTokens matcher s' (holdsNext t) ts

end

/-- The tokens of a macro in a box that fills lines. -/
def macroBody (matcher : Bool) (trees : List TokenTree) : Row :=
  fill 0 (macroTokens matcher .start true trees)

/-- The path of a macro or an attribute: plain words. -/
def plainPath (p : Node) : Row :=
  match p with
  | .node .path [colons, segments] =>
    mark colons "::" ++ between (word "::") (fun s => token (s.child 0)) segments.elements
  | _ => []

/-- The token trees of a group that the grammar does not read. -/
def unreadTrees : Node → List TokenTree
  | .group _ [.unread trees] => trees
  | _ => []

/-- The delimiter of a group. -/
def delimiterOf : Node → Delimiter
  | .group d _ => d
  | _ => .brace

/-! ### Rules of a macro -/

/-- Where one stands in the rules of a macro. -/
inductive RulePlace where
  | start
  | matcher
  | equal
  | greater
  | expander
  deriving DecidableEq

/-- The rules of a macro: a group, `=>`, a group, and a semicolon behind each but perhaps the
last. -/
def macroRules : RulePlace → List TokenTree → Row
  | .start, [] => []
  | .expander, [] => word ";" ++ newline
  | _, [] => newline
  | .start, .group d _ _ trees :: ts =>
    word d.opening.toString ++
      (if trees.isEmpty then [] else inside (macroBody true trees ++ seam)) ++
      word d.closing.toString ++ macroRules .matcher ts
  | .matcher, .punct '=' true _ :: ts => word " =" ++ macroRules .equal ts
  | .equal, .punct '>' false _ :: ts => word ">" ++ macroRules .greater ts
  | .greater, .group _ _ _ trees :: ts =>
    word " \x7b" ++ glue ++
      (if trees.isEmpty then []
        else together step (outdent (newline ++ macroBody false trees ++ newline))) ++
      word "\x7d" ++ macroRules .expander ts
  | .expander, .punct ';' false _ :: ts => word ";" ++ newline ++ macroRules .start ts
  | _, _ :: _ => [.unprintable]

/-- A macro call with its path, the name that it defines, and its group. -/
def macroCall (path name args : Node) (semicolon : Bool) : Row :=
  let trees := unreadTrees args
  if path.isWord "macro_rules" && !name.isAbsent then
    word "macro_rules! " ++ token name ++ word " \x7b" ++
      together step (outdent (newlineIfMore ++ macroRules .start trees)) ++ word "\x7d"
  else
    let d := delimiterOf args
    let edge := if d == .brace then newline else seam
    let opening := if d == .brace then " \x7b" else d.opening.toString
    plainPath path ++ word "!" ++ whenThere name (fun n => word " " ++ token n) ++ word opening ++
      (if trees.isEmpty then []
        else together step (outdent (edge ++ macroBody false trees ++ edge))) ++
      word d.closing.toString ++ if semicolon then word ";" else []

/-- Whether a macro call needs a semicolon where statements or items follow each other. -/
def needsSemicolonAfter (args : Node) : Bool := delimiterOf args != .brace

end RenderTrace.Layout
