import Shroud.Decimal.Binary

/-!
# The shortest decimal of a binary number

Many decimals round to one binary number: all those between the two midpoints to its neighbours, the
midpoints included when its mantissa is even.  The shortest decimal is one with the fewest digits
among them, and of those the nearest to the number, a tie going to the even digit.

Every comparison is one of natural numbers.  For each number of digits only two candidates need a
look, the two neighbours of the number on that decimal grid: if the interval holds any point of the
grid, it holds one of these.
-/

set_option autoImplicit false

namespace Shroud

/-- The decimal `digits · 10 ^ exponent`. -/
structure Decimal where
  digits : Nat
  exponent : Int
  deriving DecidableEq

namespace Decimal

/-- A positive number `value · unit` together with the ends `low · unit` and `high · unit` of the
interval of numbers that round to it; the unit is a ratio. -/
structure Interval where
  low : Nat
  value : Nat
  high : Nat
  unitNum : Nat
  unitDen : Nat
  /-- The ends belong to the interval. -/
  closed : Bool

/-- The interval of a positive number of a format. -/
def Interval.of (f : Format) (mantissa : Nat) (scale : Int) : Interval :=
  let narrow := mantissa = pow2 f.fractionBits ∧ f.minScale < scale
  let unit := Format.scaled 1 (scale - 2)
  ⟨if narrow then 4 * mantissa - 1 else 4 * mantissa - 2, 4 * mantissa, 4 * mantissa + 2,
   unit.1, unit.2, mantissa % 2 = 0⟩

/-- How many times a number below one must be multiplied by ten to reach one; `fuel` bounds it. -/
def tenfolds : Nat → Nat → Nat → Nat
  | 0, _, _ => 0
  | fuel + 1, num, den => if den ≤ num then 0 else tenfolds fuel (num * 10) den + 1

/-- The exponent of the leading decimal digit of a ratio. -/
def leadingTen (num den : Nat) : Int :=
  if den ≤ num then ((Nat.toDigits 10 (num / den)).length : Int) - 1
  else -(tenfolds 400 num den : Int)

/-- Where a point of the grid of step `10 ^ k` lies; both sides are brought to one denominator. -/
structure Grid (i : Interval) where
  pointFactor : Nat
  unitFactor : Nat

/-- The grid of step `10 ^ k`. -/
def Grid.of (i : Interval) (k : Int) : Grid i :=
  if 0 ≤ k then ⟨pow10 k.toNat * i.unitDen, i.unitNum⟩
  else ⟨i.unitDen, i.unitNum * pow10 (-k).toNat⟩

variable {i : Interval}

/-- The point `c` of the grid lies in the interval. -/
def Grid.holds (g : Grid i) (c : Nat) : Bool :=
  let p := c * g.pointFactor
  let l := i.low * g.unitFactor
  let h := i.high * g.unitFactor
  if i.closed then l ≤ p && p ≤ h else l < p && p < h

/-- The last point of the grid that is not above the value. -/
def Grid.floor (g : Grid i) : Nat := i.value * g.unitFactor / g.pointFactor

/-- The point `c + 1` is nearer to the value than `c`, or as near and even. -/
def Grid.prefersNext (g : Grid i) (c : Nat) : Bool :=
  let below := i.value * g.unitFactor - c * g.pointFactor
  let above := (c + 1) * g.pointFactor - i.value * g.unitFactor
  above < below || (above == below && c % 2 == 1)

/-- The best point of a grid, if the interval holds one. -/
def Grid.best? (g : Grid i) : Option Nat :=
  let c := g.floor
  match g.holds c, g.holds (c + 1) with
  | true, true => some (if g.prefersNext c then c + 1 else c)
  | true, false => some c
  | false, true => some (c + 1)
  | false, false => none

/-- The best point of the first grid that has one, going to finer grids `fuel` times. -/
def search (i : Interval) : Nat → Int → Decimal
  | 0, k => ⟨(Grid.of i k).floor, k⟩
  | fuel + 1, k =>
    match (Grid.of i k).best? with
    | some c => ⟨c, k⟩
    | none => search i fuel (k - 1)

/-- The shortest decimal of a positive number of a format. -/
def shortest (f : Format) (mantissa : Nat) (scale : Int) : Decimal :=
  let i := Interval.of f mantissa scale
  search i 17 (leadingTen (i.value * i.unitNum) i.unitDen)

end Decimal

end Shroud
