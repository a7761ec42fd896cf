import RenderTrace.Number.Binary

/-!
# The shortest decimal that reads back

The decimals that round to a number form an interval around it, whose ends belong to it if the
number has an even last digit. `shortest` finds the decimal in that interval with the fewest digits,
and of those with equally many the nearest. It tries grids of one digit, two digits and so on; on
each the two neighbours of the number are the only candidates.
-/

namespace RenderTrace

/-- A decimal `digits · 10 ^ exponent`. -/
structure Decimal where
  digits : Nat
  exponent : Int
  deriving DecidableEq, Repr, Inhabited

/-- Which of two equally near decimals is taken. -/
inductive Tie where
  /-- The greater one. -/
  | up
  /-- The one with the even last digit. -/
  | even
  deriving DecidableEq, Repr

namespace Shortest

/-- The number of decimal digits. -/
def length (n : Nat) : Nat := (Nat.toDigits 10 n).length

/-- Where the decimal point stands: the least `k` with the quotient below `10 ^ k`. -/
def point (num den : Nat) : Int :=
  let guess : Int := (length num : Int) - length den
  let below :=
    if 0 ≤ guess then decide (num < den * Nat.pow 10 guess.toNat)
    else decide (num * Nat.pow 10 (-guess).toNat < den)
  if below then guess else guess + 1

/-- A grid of decimals beside a number: a decimal `c` of the grid stands at `c * step`, a quarter
`x` of the number's last digit at `x * quarter`. -/
structure Grid where
  step : Nat
  quarter : Nat

/-- The grid of the multiples of `10 ^ e`, beside numbers with the last weight `q`. -/
def grid (e q : Int) : Grid :=
  ⟨Nat.pow 10 e.toNat * Nat.pow 2 (2 - q).toNat, Nat.pow 10 (-e).toNat * Nat.pow 2 (q - 2).toNat⟩

/-- The decimal of a grid that reads back, if there is one. -/
def onGrid? (f : Format) (tie : Tie) (x : Magnitude) (g : Grid) : Option Nat :=
  let value := 4 * x.m * g.quarter
  let narrow := x.m = Nat.pow 2 (f.precision - 1) && f.least < x.q
  let low := (if narrow then 4 * x.m - 1 else 4 * x.m - 2) * g.quarter
  let high := (4 * x.m + 2) * g.quarter
  let reads (c : Nat) : Bool :=
    let place := c * g.step
    if x.m % 2 = 0 then low ≤ place && place ≤ high else low < place && place < high
  let below := value / g.step
  let above := below + 1
  match reads below, reads above with
  | false, false => none
  | true, false => some below
  | false, true => some above
  | true, true =>
    let down := value - below * g.step
    let up := above * g.step - value
    if down < up then some below
    else if up < down then some above
    else match tie with
      | .up => some above
      | .even => some (if below % 2 = 0 then below else above)

/-- Tries the grids from `n` digits on. -/
def search (f : Format) (tie : Tie) (x : Magnitude) (k : Int) : Nat → Nat → Decimal
  | 0, n => ⟨x.m, n⟩
  | fuel + 1, n =>
    match onGrid? f tie x (grid (k - n) x.q) with
    | some c => if c = Nat.pow 10 n then ⟨1, k⟩ else ⟨c, k - n⟩
    | none => search f tie x k fuel (n + 1)

end Shortest

/-- The shortest decimal that reads back as a number that is not zero. Seventeen digits are enough
for every number of eight bytes. -/
def shortest (f : Format) (tie : Tie) (x : Magnitude) : Decimal :=
  Shortest.search f tie x (Shortest.point x.ratio.1 x.ratio.2) 20 1

end RenderTrace
