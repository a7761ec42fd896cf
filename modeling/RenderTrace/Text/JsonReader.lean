import RenderTrace.Number.Text
import RenderTrace.Text.Quoted

/-!
# Reading JSON

The parts of a reader of JSON documents: blanks, strings, numbers, words, and the first thing wrong
with a text. A place is a line, counted from one, and the bytes before it on that line. Most faults
are placed *at* the first byte not read; a fault in a byte that was looked at is placed *past* it.
-/

namespace RenderTrace

/-- What a value was found to be, where another kind of value was wanted. -/
inductive FoundValue where
  | null
  | bool (b : Bool)
  | integer (n : Int)
  | floating (x : Binary)
  | string (s : String)
  | sequence
  | map
  deriving DecidableEq, Repr

/-- What is wrong with a document. -/
inductive DocumentFault where
  | endOfList
  | endOfObject
  | endOfString
  | endOfValue
  | expectedColon
  | expectedCommaOrBracket
  | expectedCommaOrBrace
  | expectedWord
  | expectedValue
  | invalidEscape
  | invalidNumber
  | numberOutOfRange
  | controlCharacter
  | keyMustBeString
  | loneSurrogate
  | endOfSurrogates
  | trailingComma
  | trailingCharacters
  /-- A value of another kind was wanted. -/
  | mismatch (found : FoundValue) (wanted : String)
  | unknownField (name : String) (known : List String)
  | duplicateField (name : String)
  deriving DecidableEq, Repr

/-- A fault and its place. -/
structure DocumentError where
  fault : DocumentFault
  line : Nat
  column : Nat
  deriving DecidableEq, Repr

/-- The description of a value. -/
def FoundValue.text : FoundValue → String
  | null => "null"
  | bool b => "boolean `" ++ (if b then "true" else "false") ++ "`"
  | integer n => "integer `" ++ toString n ++ "`"
  | floating x => "floating point `" ++ NumberStyle.document.text .double x ++ "`"
  | string s => "string " ++ Text.quoted s
  | sequence => "sequence"
  | map => "map"

/-- The description of a fault. -/
def DocumentFault.text : DocumentFault → String
  | endOfList => "EOF while parsing a list"
  | endOfObject => "EOF while parsing an object"
  | endOfString => "EOF while parsing a string"
  | endOfValue => "EOF while parsing a value"
  | expectedColon => "expected `:`"
  | expectedCommaOrBracket => "expected `,` or `]`"
  | expectedCommaOrBrace => "expected `,` or `\x7d`"
  | expectedWord => "expected ident"
  | expectedValue => "expected value"
  | invalidEscape => "invalid escape"
  | invalidNumber => "invalid number"
  | numberOutOfRange => "number out of range"
  | controlCharacter => "control character (\\u0000-\\u001F) found while parsing a string"
  | keyMustBeString => "key must be a string"
  | loneSurrogate => "lone leading surrogate in hex escape"
  | endOfSurrogates => "unexpected end of hex escape"
  | trailingComma => "trailing comma"
  | trailingCharacters => "trailing characters"
  | mismatch found wanted => "invalid type: " ++ found.text ++ ", expected " ++ wanted
  | unknownField name known => "unknown field `" ++ name ++ "`, expected one of " ++
      ", ".intercalate (known.map fun k => "`" ++ k ++ "`")
  | duplicateField name => "duplicate field `" ++ name ++ "`"

/-- The description of a fault with its place. -/
def DocumentError.message (e : DocumentError) : String :=
  e.fault.text ++ " at line " ++ toString e.line ++ " column " ++ toString e.column

/-- A place in a document, and the text from there on. -/
structure DocumentMark where
  rest : List Char
  line : Nat := 1
  column : Nat := 0

namespace DocumentMark

/-- The place after one character. -/
def next (m : DocumentMark) : DocumentMark :=
  match m.rest with
  | [] => m
  | c :: cs => if c == '\n' then ⟨cs, m.line + 1, 0⟩ else ⟨cs, m.line, m.column + c.utf8Size⟩

/-- The place after some bytes of a text, which may be inside a character. -/
def afterBytes : Nat → List Char → Nat → Nat → Nat × Nat
  | _, [], line, column => (line, column)
  | n, c :: cs, line, column =>
    if n < c.utf8Size then (line, column + n)
    else if c == '\n' then afterBytes (n - 1) cs (line + 1) 0
    else afterBytes (n - c.utf8Size) cs line (column + c.utf8Size)

/-- A fault so many bytes further on. -/
def fault (m : DocumentMark) (bytes : Nat) (f : DocumentFault) : DocumentError :=
  let (line, column) := afterBytes bytes m.rest m.line m.column
  ⟨f, line, column⟩

/-- Whether a character may stand between values. -/
def isBlank (c : Char) : Bool := c == ' ' || c == '\n' || c == '\t' || c == '\r'

/-- The place after the blanks of a text. -/
def afterBlanks : List Char → Nat → Nat → DocumentMark
  | [], line, column => ⟨[], line, column⟩
  | c :: cs, line, column =>
    if !isBlank c then ⟨c :: cs, line, column⟩
    else if c == '\n' then afterBlanks cs (line + 1) 0 else afterBlanks cs line (column + 1)

end DocumentMark

/-- A reader of documents. -/
abbrev DocumentReader (α : Type) := StateT DocumentMark (Except DocumentError) α

namespace DocumentReader

/-- The next character. -/
def peek : DocumentReader (Option Char) := return (← get).rest.head?

/-- Steps over a character. -/
def skip : DocumentReader Unit := modify (·.next)

/-- Fails at the first byte not read. -/
def failAt {α : Type} (f : DocumentFault) : DocumentReader α := do throw ((← get).fault 0 f)

/-- Fails past the first byte not read. -/
def failPast {α : Type} (f : DocumentFault) : DocumentReader α := do throw ((← get).fault 1 f)

/-- Skips blanks, and gives the character behind them. -/
def afterBlanks : DocumentReader (Option Char) := do
  modify fun m => .afterBlanks m.rest m.line m.column
  peek

/-- Reads the characters of a word. -/
def word : List Char → DocumentReader Unit
  | [] => return
  | c :: cs => do
    match ← peek with
    | none => failAt .endOfValue
    | some d => if d == c then do skip; word cs else failPast .expectedWord

/-! ### Strings -/

/-- The value of a hexadecimal digit. -/
def hexDigit? (c : Char) : Option Nat :=
  if '0' ≤ c && c ≤ '9' then some (c.toNat - '0'.toNat)
  else if 'a' ≤ c && c ≤ 'f' then some (c.toNat - 'a'.toNat + 10)
  else if 'A' ≤ c && c ≤ 'F' then some (c.toNat - 'A'.toNat + 10)
  else none

/-- The value of four hexadecimal digits. -/
def fourDigits? (cs : List Char) : Option Nat := do
  let ds ← cs.mapM hexDigit?
  if ds.length = 4 then some (ds.foldl (fun n d => 16 * n + d) 0) else none

/-- Reads the four digits of an escape, which are four bytes whatever they are. -/
def hexEscape : DocumentReader Nat := do
  let m ← get
  let cs := m.rest.take 4
  match fourDigits? cs with
  | some n =>
    set m.next.next.next.next
    return n
  | none =>
    throw (m.fault 4 (if 4 ≤ (String.ofList cs).utf8ByteSize then .invalidEscape else .endOfString))

/-- Steps over a character that has to be there inside a pair of surrogates. -/
def pairMark (c : Char) : DocumentReader Unit := do
  match ← peek with
  | none => failAt .endOfString
  | some d => if d == c then skip else failPast .endOfSurrogates

/-- Reads the character of a `\u` escape; one outside the basic plane takes two escapes. -/
def unicodeEscape : DocumentReader Char := do
  let high ← hexEscape
  if 0xDC00 ≤ high && high ≤ 0xDFFF then failAt .loneSurrogate
  else if high < 0xD800 || 0xDBFF < high then return Char.ofNat high
  else
    pairMark '\\'
    pairMark 'u'
    let low ← hexEscape
    if low < 0xDC00 || 0xDFFF < low then failAt .loneSurrogate
    else return Char.ofNat ((high - 0xD800) * 0x400 + (low - 0xDC00) + 0x10000)

/-- Reads the character of an escape, behind its backslash. -/
def escape : DocumentReader Char := do
  match ← peek with
  | none => failAt .endOfString
  | some 'u' => do skip; unicodeEscape
  | some c =>
    match [('"', '"'), ('\\', '\\'), ('/', '/'), ('b', '\x08'), ('f', '\x0c'), ('n', '\n'),
        ('r', '\r'), ('t', '\t')].lookup c with
    | some d => do skip; return d
    | none => failPast .invalidEscape

/-- Reads characters up to and with the closing quote; `found` is what is in front, in reverse. -/
def stringTail : Nat → List Char → DocumentReader String
  | 0, _ => failAt .endOfString
  | fuel + 1, found => do
    match ← peek with
    | none => failAt .endOfString
    | some '"' => do skip; return String.ofList found.reverse
    | some '\\' => do skip; stringTail fuel ((← escape) :: found)
    | some c =>
      if c.toNat < 32 then failPast .controlCharacter else do skip; stringTail fuel (c :: found)

/-- Reads a string at its opening quote. -/
def string : DocumentReader String := do
  skip
  stringTail ((← get).rest.length + 1) []

/-! ### Numbers -/

/-- A number in the eight bytes that documents are read with. -/
structure Significand where
  negative : Bool
  digits : Nat
  /-- The power of ten behind the digits. -/
  exponent : Int

/-- The greatest whole number of eight bytes. -/
def greatestWhole : Nat := Nat.pow 2 64 - 1

/-- The greatest exponent that is kept. -/
def greatestExponent : Nat := Nat.pow 2 31 - 1

/-- The value of the next digit. -/
def digit? : DocumentReader (Option Nat) := do
  match ← peek with
  | some c => return if c.isDigit then some (c.toNat - '0'.toNat) else none
  | none => return none

/-- Counts and skips digits that are too many to keep. -/
def skipDigits : Nat → Nat → DocumentReader Nat
  | 0, n => return n
  | fuel + 1, n => do
    match ← digit? with
    | some _ => do skip; skipDigits fuel (n + 1)
    | none => return n

/-- Reads digits behind `n` as long as the number stays at most `bound`: the number, how many digits
were read, and whether a further digit would lead beyond. -/
def digitsUpTo (bound : Nat) : Nat → Nat → Nat → DocumentReader (Nat × Nat × Bool)
  | 0, n, count => return (n, count, false)
  | fuel + 1, n, count => do
    match ← digit? with
    | none => return (n, count, false)
    | some d =>
      if bound < 10 * n + d then return (n, count, true)
      else do skip; digitsUpTo bound fuel (10 * n + d) (count + 1)

/-- A power of ten in eight bytes. -/
def powerOfTen (n : Nat) : Magnitude := (Format.double.ofScientific 1 n).getD ⟨0, 0⟩

/-- The number of a significand and an exponent, rounded after every step: the significand first,
then its product with the power of ten. A very small number is divided in several steps. -/
def scaled : Nat → Magnitude → Int → Option Magnitude
  | 0, x, _ => some x
  | fuel + 1, x, e =>
    if e.natAbs ≤ 308 then
      if 0 ≤ e then Format.double.times x (powerOfTen e.natAbs)
      else Format.double.quotient x (powerOfTen e.natAbs)
    else if x.m = 0 then some x
    else if 0 ≤ e then none
    else do scaled fuel (← Format.double.quotient x (powerOfTen 308)) (e + 308)

/-- The number of a significand. -/
def floating (s : Significand) : DocumentReader FoundValue := do
  match (Format.double.round s.digits 1).bind (scaled 4 · s.exponent) with
  | some x => return .floating (.finite s.negative x)
  | none => failAt .numberOutOfRange

/-- Reads a number from the mark of its exponent on. -/
def exponent (s : Significand) : DocumentReader FoundValue := do
  skip
  let negative := (← peek) == some '-'
  if negative || (← peek) == some '+' then skip
  match ← peek with
  | none => failAt .endOfValue
  | some c =>
    if !c.isDigit then failPast .invalidNumber
    else
      let (e, _, overflow) ← digitsUpTo greatestExponent ((← get).rest.length + 1) 0 0
      if overflow then
        skip
        if s.digits != 0 && !negative then failAt .numberOutOfRange
        else
          let _ ← skipDigits ((← get).rest.length + 1) 0
          return .floating (.finite s.negative ⟨0, Format.double.least⟩)
      else floating { s with exponent := if negative then s.exponent - e else s.exponent + e }

/-- Reads a number behind its last digit before an exponent. -/
def withExponent (s : Significand) : DocumentReader FoundValue := do
  match ← peek with
  | some 'e' | some 'E' => exponent s
  | _ => floating s

/-- Reads a number from its point on. -/
def fraction (s : Significand) : DocumentReader FoundValue := do
  skip
  let (n, count, overflow) ← digitsUpTo greatestWhole ((← get).rest.length + 1) s.digits 0
  let s := { s with digits := n, exponent := s.exponent - count }
  if overflow then
    let _ ← skipDigits ((← get).rest.length + 1) 0
    withExponent s
  else if count = 0 then
    failPast (if (← peek).isSome then .invalidNumber else .endOfValue)
  else withExponent s

/-- Reads a number behind its whole digits; `whole` says that they are all of them. -/
def numberTail (s : Significand) (whole : Bool) : DocumentReader FoundValue := do
  match ← peek with
  | some '.' => fraction s
  | some 'e' | some 'E' => exponent s
  | _ =>
    if !whole then floating s
    else if !s.negative then return .integer s.digits
    else if s.digits = 0 || Nat.pow 2 63 < s.digits then floating s
    else return .integer (-(s.digits : Int))

/-- Reads a number behind its sign. -/
def number (negative : Bool) : DocumentReader FoundValue := do
  match ← peek with
  | none => failAt .endOfValue
  | some '0' => do
    skip
    match ← digit? with
    | some _ => failPast .invalidNumber
    | none => numberTail ⟨negative, 0, 0⟩ true
  | some c =>
    if !c.isDigit then failPast .invalidNumber
    else
      let (n, _, overflow) ← digitsUpTo greatestWhole ((← get).rest.length + 1) 0 0
      let more ← if overflow then skipDigits ((← get).rest.length + 1) 0 else pure 0
      numberTail ⟨negative, n, more⟩ !overflow

/-! ### Values -/

/-- Reads a value that is not of the kind wanted, as far as it takes to say what it is. -/
def mismatch {α : Type} (wanted : String) : DocumentReader α := do
  let found ← match ← peek with
    | some 'n' => do skip; word "ull".toList; pure .null
    | some 't' => do skip; word "rue".toList; pure (.bool true)
    | some 'f' => do skip; word "alse".toList; pure (.bool false)
    | some '"' => do pure (.string (← string))
    | some '[' => pure .sequence
    | some '\x7b' => pure .map
    | some '-' => do skip; number true
    | some c => if c.isDigit then number false else failPast .expectedValue
    | none => failPast .expectedValue
  failAt (.mismatch found wanted)

/-- Finds the first character of a value. -/
def valueStart : DocumentReader Char := do
  match ← afterBlanks with
  | some c => return c
  | none => failPast .endOfValue

/-- Reads a truth value. -/
def boolean : DocumentReader Bool := do
  match ← valueStart with
  | 't' => do skip; word "rue".toList; return true
  | 'f' => do skip; word "alse".toList; return false
  | _ => mismatch "a boolean"

/-- Reads a string. -/
def text : DocumentReader String := do
  match ← valueStart with
  | '"' => string
  | _ => mismatch "a string"

/-- Reads a string, or the word for none. -/
def text? : DocumentReader (Option String) := do
  match ← afterBlanks with
  | some 'n' => do skip; word "ull".toList; return none
  | _ => return some (← text)

/-- Whether a sequence has another element; `first` says that none was read before. -/
def hasElement (first : Bool) : DocumentReader Bool := do
  match ← afterBlanks with
  | none => failPast .endOfList
  | some ']' => return false
  | some c =>
    if first then return true
    else if c != ',' then failPast .expectedCommaOrBracket
    else
      skip
      match ← afterBlanks with
      | some ']' => failPast .trailingComma
      | some _ => return true
      | none => failPast .endOfValue

/-- Reads the end of a sequence. -/
def endSequence : DocumentReader Unit := do
  match ← afterBlanks with
  | some ']' => skip
  | some ',' => do
    skip
    match ← afterBlanks with
    | some ']' => failPast .trailingComma
    | _ => failPast .trailingCharacters
  | some _ => failPast .trailingCharacters
  | none => failPast .endOfList

/-- Reads elements to the end of a sequence; `found` are those in front, in reverse. -/
def textsTail : Nat → List String → DocumentReader (List String)
  | 0, found => return found.reverse
  | fuel + 1, found => do
    if ← hasElement found.isEmpty then textsTail fuel ((← text) :: found)
    else return found.reverse

/-- Reads a sequence of strings. -/
def texts : DocumentReader (List String) := do
  match ← valueStart with
  | '[' => do
    skip
    let ss ← textsTail ((← get).rest.length + 1) []
    endSequence
    return ss
  | _ => mismatch "a sequence"

/-- Whether an object has another member; `first` says that none was read before. -/
def hasMember (first : Bool) : DocumentReader Bool := do
  match ← afterBlanks with
  | none => failPast .endOfObject
  | some '\x7d' => return false
  | some c =>
    if first then
      if c == '"' then return true else failPast .keyMustBeString
    else if c != ',' then failPast .expectedCommaOrBrace
    else
      skip
      match ← afterBlanks with
      | some '"' => return true
      | some '\x7d' => failPast .trailingComma
      | some _ => failPast .keyMustBeString
      | none => failPast .endOfValue

/-- Reads the colon behind a key. -/
def colon : DocumentReader Unit := do
  match ← afterBlanks with
  | some ':' => skip
  | some _ => failPast .expectedColon
  | none => failPast .endOfObject

/-- Fails because of a member's key. Such a fault is placed behind the blanks that follow the key,
and behind the end of the object if that is what comes next. -/
def refuseMember {α : Type} (f : DocumentFault) : DocumentReader α := do
  if (← afterBlanks) == some '\x7d' then skip
  failAt f

/-- Reads the end of a document. -/
def endDocument : DocumentReader Unit := do
  if (← afterBlanks).isSome then failPast .trailingCharacters

end DocumentReader

end RenderTrace
