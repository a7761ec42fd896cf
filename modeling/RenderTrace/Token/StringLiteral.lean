import RenderTrace.Token.Lexeme

/-!
# The text of a string literal

What a string literal stands for: its escapes are resolved, a line continuation is skipped with the
blanks behind it, and a line end of two characters counts as a line feed. A raw literal stands for
what is between its quotes.
-/

namespace RenderTrace.Token.StringLiteral

/-- The character that an escape of one letter stands for. -/
def escaped (c : Char) : Char :=
  if c == 'n' then '\n'
  else if c == 'r' then '\r'
  else if c == 't' then '\t'
  else if c == '0' then '\x00'
  else c

/-- The characters up to the closing quote; each step takes one at least, so the number of
characters is fuel enough. -/
def unescape : Nat → List Char → List Char
  | 0, _ => []
  | fuel + 1, cs =>
    match cs with
    | [] => []
    | '"' :: _ => []
    | '\r' :: '\n' :: cs => '\n' :: unescape fuel cs
    | '\\' :: 'x' :: a :: b :: cs =>
      Char.ofNat (16 * Lexeme.hexValue a + Lexeme.hexValue b) :: unescape fuel cs
    | '\\' :: 'u' :: cs =>
      match Lexeme.unicodeEscape? cs with
      | some (n, rest) => Char.ofNat n :: unescape fuel rest
      | none => unescape fuel cs
    | '\\' :: '\n' :: cs => unescape fuel (cs.dropWhile Text.isBlank)
    | '\\' :: '\r' :: cs => unescape fuel (cs.dropWhile Text.isBlank)
    | '\\' :: c :: cs => escaped c :: unescape fuel cs
    | c :: cs => c :: unescape fuel cs

/-- The characters of a raw literal up to the quote before its closing hash signs. -/
def rawText (hashes : Nat) : List Char → List Char
  | [] => []
  | c :: cs =>
    if c == '"' && cs.take hashes == List.replicate hashes '#' then []
    else c :: rawText hashes cs

/-- The text that a string literal stands for; other literals stand for none. -/
def text? (literal : String) : Option String :=
  match literal.toList with
  | '"' :: cs => some (String.ofList (unescape (cs.length + 1) cs))
  | 'r' :: cs =>
    let hashes := (cs.takeWhile (· == '#')).length
    some (String.ofList (rawText hashes (cs.drop (hashes + 1))))
  | _ => none

end RenderTrace.Token.StringLiteral
