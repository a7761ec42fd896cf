/-!
# JSON documents

Documents as the program writes them: objects keep the order of their members, and every member and
element stands on a line of its own, two blanks further in than what holds it.
-/

namespace RenderTrace

/-- A JSON document. -/
inductive Json where
  | null
  | bool (b : Bool)
  | number (n : Nat)
  | string (s : String)
  | array (elements : List Json)
  | object (members : List (String × Json))
  deriving Repr, Inhabited

namespace Json

/-- Four hexadecimal digits. -/
def fourDigits (n : Nat) : String :=
  let ds := Nat.toDigits 16 n
  String.ofList (List.replicate (4 - ds.length) '0' ++ ds)

/-- A character between the quotes of a string. -/
def escapeChar (c : Char) : String :=
  if c == '"' then "\\\""
  else if c == '\\' then "\\\\"
  else if c == '\n' then "\\n"
  else if c == '\r' then "\\r"
  else if c == '\t' then "\\t"
  else if c.toNat == 8 then "\\b"
  else if c.toNat == 12 then "\\f"
  else if c.toNat < 32 then "\\u" ++ fourDigits c.toNat
  else c.toString

/-- A string in its quotes. -/
def quoteString (s : String) : String :=
  "\"" ++ String.join (s.toList.map escapeChar) ++ "\""

/-- The blanks in front of a line. -/
def indent (depth : Nat) : String := String.ofList (List.replicate (2 * depth) ' ')

mutual

/-- The text of a document that stands `depth` levels deep. -/
def pretty (depth : Nat) : Json → String
  | null => "null"
  | bool b => if b then "true" else "false"
  | number n => toString n
  | string s => quoteString s
  | array [] => "[]"
  | array es => "[\n" ++ prettyElements (depth + 1) es ++ "\n" ++ indent depth ++ "]"
  | object [] => "\x7b\x7d"
  | object ms => "\x7b\n" ++ prettyMembers (depth + 1) ms ++ "\n" ++ indent depth ++ "\x7d"

/-- The elements of an array, with commas between them. -/
def prettyElements (depth : Nat) : List Json → String
  | [] => ""
  | e :: es =>
    indent depth ++ pretty depth e ++ (if es.isEmpty then "" else ",\n") ++ prettyElements depth es

/-- The members of an object, with commas between them. -/
def prettyMembers (depth : Nat) : List (String × Json) → String
  | [] => ""
  | (k, v) :: ms =>
    indent depth ++ quoteString k ++ ": " ++ pretty depth v ++ (if ms.isEmpty then "" else ",\n") ++
      prettyMembers depth ms

end

/-- The strings of a list. -/
def strings (ss : List String) : Json := array (ss.map string)

end Json

end RenderTrace
