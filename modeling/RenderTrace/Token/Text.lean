import RenderTrace.Token.Tree

/-!
# The text of token trees

Trees are written with one blank between them, except after a punctuation character that is joint
with the next. Parentheses and square brackets hug what they enclose, braces keep a blank on either
side, and an empty pair of braces holds one blank.
-/

namespace RenderTrace.TokenTree

/-- Whether no blank follows a tree. -/
def isJoint : TokenTree → Bool
  | punct _ joint _ => joint
  | _ => false

mutual

/-- The text of a tree. -/
def text : TokenTree → String
  | name t _ => t
  | literal t _ => t
  | punct c _ _ => c.toString
  | group d _ _ inside =>
    let body := textAll inside
    match d with
    | .brace => "\x7b " ++ body ++ (if inside.isEmpty then "" else " ") ++ "\x7d"
    | d => d.opening.toString ++ body ++ d.closing.toString

/-- The text of several trees in a row. -/
def textAll : List TokenTree → String
  | [] => ""
  | t :: ts => text t ++ (if ts.isEmpty || t.isJoint then "" else " ") ++ textAll ts

end

end RenderTrace.TokenTree
