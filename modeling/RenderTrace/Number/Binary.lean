/-!
# Binary floating point numbers

A finite number is `m · 2 ^ q`. A format says how many binary digits `m` may have and how far `q`
reaches; `Format.round` finds the nearest number of a format to a quotient of natural numbers, and
of two that are equally near the one with the even `m`.
-/

namespace RenderTrace

/-- A binary format. -/
structure Format where
  /-- How many binary digits a number has at most. -/
  precision : Nat
  /-- The weight of the last digit of the smallest numbers. -/
  least : Int
  /-- The weight of the last digit of the greatest numbers. -/
  greatest : Int
  deriving DecidableEq, Repr

namespace Format

/-- The format of four bytes. -/
def single : Format := ⟨24, -149, 104⟩

/-- The format of eight bytes. -/
def double : Format := ⟨53, -1074, 971⟩

end Format

/-- A magnitude `m · 2 ^ q`. -/
structure Magnitude where
  m : Nat
  q : Int
  deriving DecidableEq, Repr, Inhabited

/-- A number of a binary format. -/
inductive Binary where
  | nan
  | infinity (negative : Bool)
  | finite (negative : Bool) (magnitude : Magnitude)
  deriving DecidableEq, Repr, Inhabited

/-- The whole number nearest to a quotient; a half goes to the even neighbour. -/
def roundDiv (num den : Nat) : Nat :=
  let quotient := num / den
  let twice := 2 * (num % den)
  if twice < den then quotient else if den < twice then quotient + 1 else quotient + quotient % 2

namespace Magnitude

/-- A magnitude as a quotient. -/
def ratio (x : Magnitude) : Nat × Nat :=
  if 0 ≤ x.q then (x.m * Nat.pow 2 x.q.toNat, 1) else (x.m, Nat.pow 2 (-x.q).toNat)

end Magnitude

namespace Format

/-- A quotient in units of `2 ^ q`. -/
def inUnits (num den : Nat) (q : Int) : Nat × Nat :=
  if 0 ≤ q then (num, den * Nat.pow 2 q.toNat) else (num * Nat.pow 2 (-q).toNat, den)

/-- The weight of the last digit of a quotient that is not zero. -/
def lastWeight (f : Format) (num den : Nat) : Int :=
  let guess : Int := num.log2 - den.log2 - f.precision + 1
  let (n, d) := inUnits num den guess
  max f.least (if n < d * Nat.pow 2 (f.precision - 1) then guess - 1 else guess)

/-- The number of the format that is nearest to a quotient, or none if that is out of range. -/
def round (f : Format) (num den : Nat) : Option Magnitude :=
  if num = 0 then some ⟨0, f.least⟩
  else
    let q := f.lastWeight num den
    let (n, d) := inUnits num den q
    let m := roundDiv n d
    let x : Magnitude :=
      if m = Nat.pow 2 f.precision then ⟨Nat.pow 2 (f.precision - 1), q + 1⟩ else ⟨m, q⟩
    if f.greatest < x.q then none else some x

/-- The product of two numbers, rounded. -/
def times (f : Format) (x y : Magnitude) : Option Magnitude :=
  f.round (x.ratio.1 * y.ratio.1) (x.ratio.2 * y.ratio.2)

/-- The quotient of two numbers, rounded. -/
def quotient (f : Format) (x y : Magnitude) : Option Magnitude :=
  f.round (x.ratio.1 * y.ratio.2) (x.ratio.2 * y.ratio.1)

/-- The number nearest to `digits · 10 ^ e`. Exponents that lead out of every range are cut
short. -/
def ofScientific (f : Format) (digits : Nat) (e : Int) : Option Magnitude :=
  let reach : Int := (Nat.toDigits 10 digits).length + 400
  let e := max (-reach) (min e reach)
  if 0 ≤ e then f.round (digits * Nat.pow 10 e.toNat) 1 else f.round digits (Nat.pow 10 (-e).toNat)

end Format

end RenderTrace
