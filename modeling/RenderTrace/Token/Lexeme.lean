import RenderTrace.Text.CharClass

/-!
# Lexemes

What a single token may look like. Each recogniser takes the characters that are left and answers
with those that are left after the lexeme, or with nothing when none begins there. Nothing here
knows of places or of groups; `Token/Lexer` puts the lexemes together.
-/

namespace RenderTrace.Lexeme

open Text

/-! ### Names -/

/-- A name without a raw mark. -/
def plainName? : List Char → Option (List Char)
  | [] => none
  | c :: cs => if isNameStart c then some (cs.dropWhile isNameContinue) else none

/-- The characters by which `rest` is shorter than `cs`. -/
def taken (cs rest : List Char) : String :=
  String.ofList (cs.take (cs.length - rest.length))

/-- Words that no raw mark turns into names. -/
def neverRaw : List String := ["_", "super", "self", "Self", "crate"]

/-- A name, raw or not, in the way it may follow a `'`. -/
def anyName? : List Char → Option (List Char)
  | 'r' :: '#' :: cs => do
    let rest ← plainName? cs
    if neverRaw.contains (taken cs rest) then none else some rest
  | cs => plainName? cs

/-- Beginnings of literals; a text that opens like one of them and is none holds no name either. -/
def literalOpenings : List String :=
  ["r\"", "r#\"", "r##", "b\"", "b'", "br\"", "br#", "c\"", "cr\"", "cr#"]

/-- A name where a token may begin. -/
def name? (cs : List Char) : Option (List Char) :=
  if literalOpenings.any fun p => p.toList.isPrefixOf cs then none else anyName? cs

/-- The characters after an optional literal suffix, which is spelled like a name. -/
def afterSuffix (cs : List Char) : List Char :=
  (plainName? cs).getD cs

/-! ### Escapes -/

/-- Hexadecimal digits. -/
def isHex (c : Char) : Bool :=
  c.isDigit || ('a' ≤ c && c ≤ 'f') || ('A' ≤ c && c ≤ 'F')

/-- The value of a hexadecimal digit. -/
def hexValue (c : Char) : Nat :=
  if c.isDigit then c.toNat - 48
  else if 'a' ≤ c && c ≤ 'f' then c.toNat - 87
  else c.toNat - 55

/-- Whether a number is that of a character. -/
def isScalar (n : Nat) : Bool :=
  n < 0xd800 || (0xdfff < n && n < 0x110000)

/-- The digits of a `\u` escape behind its opening brace: at most six of them, with underscores
anywhere but in front. -/
def unicodeDigits? (value digits : Nat) : List Char → Option (Nat × List Char)
  | [] => none
  | c :: cs =>
    if isHex c then
      if digits == 6 then none else unicodeDigits? (value * 16 + hexValue c) (digits + 1) cs
    else if c == '_' && digits > 0 then unicodeDigits? value digits cs
    else if c == '\x7d' && digits > 0 then
      if isScalar value then some (value, cs) else none
    else none

/-- A whole `\u` escape behind the letter. -/
def unicodeEscape? : List Char → Option (Nat × List Char)
  | '\x7b' :: cs => unicodeDigits? 0 0 cs
  | _ => none

/-- What the three kinds of quoted literals (text, bytes, C text) accept between their quotes. -/
structure Quoting where
  /-- The letters of one-character escapes. -/
  letters : List Char
  /-- The two digits of a `\x` escape. -/
  hex : Char → Char → Bool
  /-- The characters that a `\u` escape may name; none if the escape is refused. -/
  unicode : Option (Nat → Bool)
  /-- The characters that stand for themselves. -/
  plain : Char → Bool

/-- Text: `\x` stops at `7F`, and every character may stand. -/
def textQuoting : Quoting where
  letters := ['n', 'r', 't', '\\', '\'', '"', '0']
  hex a b := '0' ≤ a && a ≤ '7' && isHex b
  unicode := some fun _ => true
  plain _ := true

/-- Bytes: ASCII only, and no `\u`. -/
def bytesQuoting : Quoting where
  letters := ['n', 'r', 't', '\\', '0', '\'', '"']
  hex a b := isHex a && isHex b
  unicode := none
  plain c := c.toNat < 128

/-- C text: anything but NUL. -/
def cQuoting : Quoting where
  letters := ['n', 'r', 't', '\\', '\'', '"']
  hex a b := isHex a && isHex b && !(a == '0' && b == '0')
  unicode := some fun n => n != 0
  plain c := c.toNat != 0

/-- The characters after a line continuation: blanks and line ends, where a carriage return must
stand before a line feed. -/
def afterContinuation? : List Char → Option (List Char)
  | '\r' :: '\n' :: cs => afterContinuation? cs
  | '\r' :: _ => none
  | ' ' :: cs => afterContinuation? cs
  | '\t' :: cs => afterContinuation? cs
  | '\n' :: cs => afterContinuation? cs
  | [] => none
  | cs => some cs

/-- One element of a quoted literal, up to its closing quote. -/
inductive Element where
  /-- The closing quote, with what follows it. -/
  | close (rest : List Char)
  /-- One more character, with what follows it. -/
  | more (rest : List Char)
  /-- Nothing that may stand in the literal. -/
  | bad

/-- Reads an element of a literal that `q` rules and a double quote ends. -/
def element (q : Quoting) : List Char → Element
  | '"' :: cs => .close cs
  | '\r' :: '\n' :: cs => .more cs
  | '\r' :: _ => .bad
  | '\\' :: 'x' :: a :: b :: cs => if q.hex a b then .more cs else .bad
  | '\\' :: 'u' :: cs =>
    match q.unicode, unicodeEscape? cs with
    | some ok, some (n, rest) => if ok n then .more rest else .bad
    | _, _ => .bad
  | '\\' :: '\n' :: cs => (afterContinuation? ('\n' :: cs)).elim .bad .more
  | '\\' :: '\r' :: cs => (afterContinuation? ('\r' :: cs)).elim .bad .more
  | '\\' :: c :: cs => if q.letters.contains c then .more cs else .bad
  | ['\\'] => .bad
  | c :: cs => if q.plain c then .more cs else .bad
  | [] => .bad

/-- The rest behind the closing quote; every element takes a character, so the number of characters
is fuel enough. -/
def cooked? (q : Quoting) : Nat → List Char → Option (List Char)
  | 0, _ => none
  | fuel + 1, cs =>
    match element q cs with
    | .close rest => some (afterSuffix rest)
    | .more rest => cooked? q fuel rest
    | .bad => none

/-- The rest behind a raw literal's closing quote and its `hashes` hash signs. -/
def rawBody? (plain : Char → Bool) (hashes : Nat) : List Char → Option (List Char)
  | [] => none
  | '"' :: cs =>
    if (cs.take hashes).length == hashes && (cs.take hashes).all (· == '#') then
      some (afterSuffix (cs.drop hashes))
    else rawBody? plain hashes cs
  | '\r' :: '\n' :: cs => rawBody? plain hashes cs
  | '\r' :: _ => none
  | c :: cs => if plain c then rawBody? plain hashes cs else none

/-- A raw literal behind its letters: hash signs, at most 255 of them, and a quote open it. -/
def raw? (plain : Char → Bool) (cs : List Char) : Option (List Char) :=
  let hashes := (cs.takeWhile (· == '#')).length
  match cs.drop hashes with
  | '"' :: body => if hashes > 255 then none else rawBody? plain hashes body
  | _ => none

/-- A quoted literal behind its opening quote. -/
def quotedBody? (q : Quoting) (cs : List Char) : Option (List Char) :=
  cooked? q (cs.length + 1) cs

/-- String, byte string and C string literals. -/
def quotedLiteral? : List Char → Option (List Char)
  | '"' :: cs => quotedBody? textQuoting cs
  | 'r' :: cs => raw? textQuoting.plain cs
  | 'b' :: '"' :: cs => quotedBody? bytesQuoting cs
  | 'b' :: 'r' :: cs => raw? bytesQuoting.plain cs
  | 'c' :: '"' :: cs => quotedBody? cQuoting cs
  | 'c' :: 'r' :: cs => raw? cQuoting.plain cs
  | _ => none

/-- The closing quote of a character literal, and a suffix. -/
def closeChar? : List Char → Option (List Char)
  | '\'' :: cs => some (afterSuffix cs)
  | _ => none

/-- A character literal. -/
def charLiteral? : List Char → Option (List Char)
  | '\'' :: '\\' :: 'x' :: a :: b :: cs => if textQuoting.hex a b then closeChar? cs else none
  | '\'' :: '\\' :: 'u' :: cs => do closeChar? (← unicodeEscape? cs).2
  | '\'' :: '\\' :: c :: cs => if textQuoting.letters.contains c then closeChar? cs else none
  | '\'' :: c :: cs => if c == '\\' then none else closeChar? cs
  | _ => none

/-- A byte literal: one ASCII character or escape. -/
def byteLiteral? : List Char → Option (List Char)
  | 'b' :: '\'' :: '\\' :: 'x' :: a :: b :: cs =>
    if bytesQuoting.hex a b then closeChar? cs else none
  | 'b' :: '\'' :: '\\' :: c :: cs =>
    if bytesQuoting.letters.contains c then closeChar? cs else none
  | 'b' :: '\'' :: c :: cs => if c == '\\' || c.toNat ≥ 128 then none else closeChar? cs
  | _ => none

/-! ### Numbers -/

/-- What may follow a number: no character of a name. -/
def wordBreak? : List Char → Option (List Char)
  | [] => some []
  | c :: cs => if isNameContinue c then none else some (c :: cs)

/-- The end of a number behind its digits: an optional suffix and a break. -/
def numberEnd? (cs : List Char) : Option (List Char) :=
  wordBreak? (afterSuffix cs)

/-- The exponent behind its letter. If it is no exponent, the number ends where `back` says. -/
def exponent? (back : Option (List Char)) (signed valued : Bool) :
    List Char → Option (List Char)
  | [] => if valued then some [] else back
  | c :: cs =>
    if c == '+' || c == '-' then
      if valued then some (c :: cs)
      else if signed then back
      else exponent? back true valued cs
    else if c.isDigit then exponent? back signed true cs
    else if c == '_' then exponent? back signed valued cs
    else if valued then some (c :: cs) else back

/-- The digits of a fractional number: there is a point, or an exponent, or both, and the point does
not stand before another point or a name. -/
def mantissa? (dotted : Bool) : List Char → Option (List Char)
  | [] => if dotted then some [] else none
  | c :: cs =>
    if c.isDigit || c == '_' then mantissa? dotted cs
    else if c == '.' then
      if dotted then some (c :: cs)
      else match cs with
        | d :: _ => if d == '.' || isNameStart d then none else mantissa? true cs
        | [] => mantissa? true cs
    else if c == 'e' || c == 'E' then
      exponent? (if dotted then some (c :: cs) else none) false false cs
    else if dotted then some (c :: cs) else none

/-- A number with a fraction or an exponent. -/
def fractional? : List Char → Option (List Char)
  | [] => none
  | c :: cs => if c.isDigit then mantissa? false cs >>= numberEnd? else none

/-- The digits of a whole number in a base; `empty` until there is one. -/
def digits? (base : Nat) (empty : Bool) : List Char → Option (List Char)
  | [] => if empty then none else some []
  | c :: cs =>
    if c == '_' then if empty && base == 10 then none else digits? base empty cs
    else if c.isDigit then
      if hexValue c < base then digits? base false cs else none
    else if isHex c && hexValue c < base then digits? base false cs
    else if empty then none else some (c :: cs)

/-- A whole number, in one of four bases. -/
def whole? (cs : List Char) : Option (List Char) :=
  (match cs with
    | '0' :: 'x' :: ds => digits? 16 true ds
    | '0' :: 'o' :: ds => digits? 8 true ds
    | '0' :: 'b' :: ds => digits? 2 true ds
    | ds => digits? 10 true ds) >>= numberEnd?

/-- What stands for a literal that could not be written. -/
def unwritable : List Char := "(/*ERROR*/)".toList

/-- A literal of any kind. -/
def literal? (cs : List Char) : Option (List Char) :=
  quotedLiteral? cs <|> byteLiteral? cs <|> charLiteral? cs <|> fractional? cs <|> whole? cs

/-! ### Punctuation -/

/-- The characters of punctuation. -/
def punctuation : List Char := "~!@#$%^&*-=+|;:,<.>/?'".toList

/-- A punctuation character, where no comment begins. -/
def punctChar? : List Char → Option (Char × List Char)
  | '/' :: '/' :: _ => none
  | '/' :: '*' :: _ => none
  | c :: cs => if punctuation.contains c then some (c, cs) else none
  | [] => none

/-- A punctuation character and whether it is joint. The quote of a lifetime is joint with the name
that must follow it, and neither a quote nor a hash sign may follow that name. -/
def punct? (cs : List Char) : Option (Char × Bool × List Char) := do
  let (c, rest) ← punctChar? cs
  if c == '\'' then
    let after ← anyName? rest
    match after with
    | '\'' :: _ => none
    | '#' :: _ => if "r#".toList.isPrefixOf rest then some (c, true, rest) else none
    | _ => some (c, true, rest)
  else some (c, (punctChar? rest).isSome, rest)

/-! ### Blanks and comments -/

/-- The end of a line: the characters before it, and what follows from the line feed on. -/
def line : List Char → List Char × List Char
  | [] => ([], [])
  | '\n' :: cs => ([], '\n' :: cs)
  | '\r' :: '\n' :: cs => ([], '\n' :: cs)
  | c :: cs => let (l, rest) := line cs; (c :: l, rest)

/-- Where a block comment ends, from `depth` open comments on. -/
def blockEnd? : Nat → List Char → Option (List Char)
  | depth, '/' :: '*' :: cs => blockEnd? (depth + 1) cs
  | 0, '*' :: '/' :: _ => none
  | 1, '*' :: '/' :: cs => some cs
  | depth + 2, '*' :: '/' :: cs => blockEnd? (depth + 1) cs
  | depth, _ :: cs => blockEnd? depth cs
  | _, [] => none

/-- A block comment, with the blocks nested in it. -/
def blockComment? : List Char → Option (List Char)
  | '/' :: '*' :: cs => blockEnd? 1 cs
  | _ => none

/-- A comment that documents nothing. -/
def comment? (cs : List Char) : Option (List Char) :=
  match cs with
  | '/' :: '/' :: '/' :: '/' :: _ => some (line cs).2
  | '/' :: '/' :: '/' :: _ => none
  | '/' :: '/' :: '!' :: _ => none
  | '/' :: '/' :: _ => some (line cs).2
  | '/' :: '*' :: '*' :: '/' :: rest => some rest
  | '/' :: '*' :: '*' :: '*' :: _ => blockComment? cs
  | '/' :: '*' :: '*' :: _ => none
  | '/' :: '*' :: '!' :: _ => none
  | '/' :: '*' :: _ => blockComment? cs
  | _ => none

/-- A blank between tokens; the two direction marks count as blanks. -/
def isSpace (c : Char) : Bool :=
  isBlank c || c.toNat == 0x200e || c.toNat == 0x200f

/-- Skips blanks and comments, each of which takes a character of the fuel. -/
def skipBlanks : Nat → List Char → List Char
  | 0, cs => cs
  | fuel + 1, cs =>
    match comment? cs with
    | some rest => skipBlanks fuel rest
    | none =>
      match cs with
      | c :: rest => if isSpace c then skipBlanks fuel rest else cs
      | [] => []

/-- Whether every carriage return stands before a line feed. -/
def pairedReturns : List Char → Bool
  | [] => true
  | '\r' :: '\n' :: cs => pairedReturns cs
  | '\r' :: _ => false
  | _ :: cs => pairedReturns cs

/-- The text of a block comment between its marks of three and two characters. -/
def blockText (cs rest : List Char) : List Char :=
  let whole := cs.take (cs.length - rest.length)
  (whole.drop 3).take (whole.length - 5)

/-- A documenting comment: its text, whether it documents what encloses it, and what follows. -/
def docComment? (cs : List Char) : Option (List Char × Bool × List Char) := do
  let found ← match cs with
    | '/' :: '/' :: '!' :: body => some ((line body).1, true, (line body).2)
    | '/' :: '*' :: '!' :: _ => (blockComment? cs).map fun rest => (blockText cs rest, true, rest)
    | '/' :: '/' :: '/' :: '/' :: _ => none
    | '/' :: '/' :: '/' :: body => some ((line body).1, false, (line body).2)
    | '/' :: '*' :: '*' :: '*' :: _ => none
    | '/' :: '*' :: '*' :: _ => (blockComment? cs).map fun rest => (blockText cs rest, false, rest)
    | _ => none
  if pairedReturns found.1 then some found else none

end RenderTrace.Lexeme
