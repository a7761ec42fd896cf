import RenderTrace.Number.Shortest

/-!
# Numbers as text

`NumberStyle.text` writes a number with the fewest digits that read back. A style says how far
positional notation reaches; beyond, one digit stands before the point and a power of ten behind.
`Binary.ofText?` reads a number.
-/

namespace RenderTrace

/-- How numbers are written. -/
structure NumberStyle where
  /-- Which of two equally near decimals is taken. -/
  tie : Tie
  /-- The point of positional notation stands behind at least this place. -/
  leastPoint : Int
  /-- The point of positional notation stands behind at most this place. -/
  greatestPoint : Int

namespace NumberStyle

/-- Debugging views: positional from `0.0001` to below `10 ^ 16`. -/
def debug : NumberStyle := ⟨.up, -3, 16⟩

/-- Messages about a document: positional from `0.00001` to below `10 ^ 16`. -/
def document : NumberStyle := ⟨.even, -4, 16⟩

/-- A row of zeros. -/
def zeros (n : Int) : String := String.ofList (List.replicate n.toNat '0')

/-- A decimal with its point behind place `k` of its digits. -/
def positional (digits : List Char) (k : Int) : String :=
  if k ≤ 0 then "0." ++ zeros (-k) ++ String.ofList digits
  else if (digits.length : Int) ≤ k then
    String.ofList digits ++ zeros (k - digits.length) ++ ".0"
  else String.ofList (digits.take k.toNat) ++ "." ++ String.ofList (digits.drop k.toNat)

/-- A decimal with its point behind the first digit, and a power of ten. -/
def exponential (digits : List Char) (k : Int) : String :=
  String.ofList (digits.take 1) ++
    (if digits.length ≤ 1 then "" else "." ++ String.ofList (digits.drop 1)) ++
    "e" ++ toString (k - 1)

/-- The text of a magnitude. -/
def magnitudeText (s : NumberStyle) (f : Format) (x : Magnitude) : String :=
  if x.m = 0 then "0.0"
  else
    let d := shortest f s.tie x
    let digits := Nat.toDigits 10 d.digits
    let k := digits.length + d.exponent
    if s.leastPoint ≤ k && k ≤ s.greatestPoint then positional digits k else exponential digits k

/-- The text of a number. -/
def text (s : NumberStyle) (f : Format) : Binary → String
  | .nan => "NaN"
  | .infinity negative => if negative then "-inf" else "inf"
  | .finite negative x => (if negative then "-" else "") ++ s.magnitudeText f x

end NumberStyle

namespace Binary

/-- The digits in front, and what is behind them. -/
def digitsOf (cs : List Char) : List Char × List Char :=
  (cs.takeWhile Char.isDigit, cs.dropWhile Char.isDigit)

/-- The value of decimal digits. -/
def valueOf (ds : List Char) : Nat := ds.foldl (fun n c => 10 * n + (c.toNat - '0'.toNat)) 0

/-- A power of ten behind a number, which has to end the text. -/
def exponentOf? : List Char → Option Int
  | [] => some 0
  | e :: cs =>
    if e != 'e' && e != 'E' then none
    else
      let (negative, cs) := match cs with
        | '-' :: r => (true, r)
        | '+' :: r => (false, r)
        | r => (false, r)
      match digitsOf cs with
      | ([], _) => none
      | (ds, []) => some (if negative then -(valueOf ds : Int) else valueOf ds)
      | _ => none

/-- A magnitude in digits, with a point and a power of ten if there are some. -/
def decimalOf? (f : Format) (negative : Bool) (cs : List Char) : Option Binary :=
  let (whole, rest) := digitsOf cs
  let (fraction, rest) := match rest with
    | '.' :: r => digitsOf r
    | r => ([], r)
  if whole.isEmpty && fraction.isEmpty then none
  else do
    let e ← exponentOf? rest
    match f.ofScientific (valueOf (whole ++ fraction)) (e - fraction.length) with
    | some x => some (.finite negative x)
    | none => some (.infinity negative)

/-- Reads a number: digits with an optional sign, point and exponent, or a word for what is no
finite number. -/
def ofText? (f : Format) (s : String) : Option Binary :=
  let (negative, cs) := match s.toList with
    | '-' :: r => (true, r)
    | '+' :: r => (false, r)
    | r => (false, r)
  let word := String.ofList (cs.map Char.toLower)
  if word == "nan" then some .nan
  else if word == "inf" || word == "infinity" then some (.infinity negative)
  else decimalOf? f negative cs

end Binary

end RenderTrace
