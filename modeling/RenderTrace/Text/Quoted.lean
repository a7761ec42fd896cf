import RenderTrace.Text.CharClass

/-!
# Quoted texts

How a text is written between quotes. Both ways of writing escape what would not show: controls,
unassigned characters and marks that would attach to the character before them become `\u` escapes.
They differ in which quote they escape and in how they write a NUL, so both are one function with a
record of those decisions.
-/

namespace RenderTrace.Text

/-- Lower-case hexadecimal digits of a number, no leading zeros. -/
def hexDigits (n : Nat) : String :=
  String.ofList (Nat.toDigits 16 n)

/-- The escape of a character by its number. -/
def unicodeEscape (c : Char) : String :=
  "\\u\x7b" ++ hexDigits c.toNat ++ "\x7d"

/-- A character as it stands in a quoted text, where `quotes` are the quotes to escape. -/
def escapeChar (quotes : List Char) (c : Char) : String :=
  if c == '\t' then "\\t"
  else if c == '\r' then "\\r"
  else if c == '\n' then "\\n"
  else if c == '\\' then "\\\\"
  else if quotes.contains c then String.ofList ['\\', c]
  else if c.toNat == 0 then "\\0"
  else if isExtender c || !isPrintable c then unicodeEscape c
  else c.toString

/-- A text in double quotes, as a debugging view shows it. -/
def quoted (s : String) : String :=
  "\"" ++ String.join (s.toList.map (escapeChar ['"'])) ++ "\""

/-- A character in single quotes, as a debugging view shows it. -/
def quotedChar (c : Char) : String :=
  "'" ++ escapeChar ['\''] c ++ "'"

/-- The characters of a string literal: a NUL before an octal digit is spelled `\x00`, so that no
reader takes the digit for a part of the escape. -/
def literalChars : List Char → List String
  | [] => []
  | c :: cs =>
    let escaped :=
      if c.toNat == 0 then
        match cs with
        | d :: _ => if '0' ≤ d && d ≤ '7' then "\\x00" else "\\0"
        | [] => "\\0"
      else escapeChar ['"'] c
    escaped :: literalChars cs

/-- A text as a string literal of the source language. -/
def stringLiteral (s : String) : String :=
  "\"" ++ String.join (literalChars s.toList) ++ "\""

end RenderTrace.Text
