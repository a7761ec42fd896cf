import RenderTrace.Token.Lexeme

/-!
# Whole number literals

A number literal is a whole number unless a point or an exponent makes it a fraction. `Integer`
keeps the digits without underscores, the base, and the suffix.
-/

namespace RenderTrace.Token

/-- A whole number literal. -/
structure Integer where
  base : Nat
  digits : List Char
  suffix : List Char
  deriving Repr

namespace Integer

/-- Whether the characters behind an `e` make it an exponent; `valued` once there was a digit. -/
def isExponent (valued : Bool) : List Char → Bool
  | [] => valued
  | c :: cs =>
    if c == '_' then isExponent valued cs
    else if c == '+' || c == '-' then true
    else if c.isDigit then isExponent true cs
    else valued

/-- The digits in front, of which `isDigit` tells, and the rest. -/
def splitDigits (isDigit : Char → Bool) (cs : List Char) : List Char × List Char :=
  ((cs.takeWhile fun c => isDigit c || c == '_').filter (· != '_'),
    cs.dropWhile fun c => isDigit c || c == '_')

/-- A literal with the digits of a base. -/
def ofDigits? (base : Nat) (isDigit : Char → Bool) (cs : List Char) : Option Integer :=
  let (digits, suffix) := splitDigits isDigit cs
  if digits.isEmpty then none else some ⟨base, digits, suffix⟩

/-- The whole number that a literal is, if it is one. -/
def ofLiteral? (t : String) : Option Integer :=
  match t.toList with
  | '0' :: 'x' :: cs => ofDigits? 16 Lexeme.isHex cs
  | '0' :: 'o' :: cs => ofDigits? 8 Char.isDigit cs
  | '0' :: 'b' :: cs => ofDigits? 2 Char.isDigit cs
  | cs => do
    let n ← ofDigits? 10 Char.isDigit cs
    match n.suffix with
    | '.' :: _ => none
    | e :: rest => if (e == 'e' || e == 'E') && isExponent false rest then none else some n
    | [] => some n

/-- The value of a literal. -/
def value (n : Integer) : Nat :=
  n.digits.foldl (fun v c => v * n.base + Lexeme.hexValue c) 0

end Integer

end RenderTrace.Token
