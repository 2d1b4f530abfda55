/-
The fewest decimal digits that read back as a given number.

* **`Decimal`**: a coefficient with a power of ten.
* **`Binary32.bracket`**: the interval of values that round to a number.
* **`Binary32.shortest`**: the decimal with the fewest digits inside that interval; of two,
  the nearer to the number, and the larger when the number is half way between them.

Design notes.

* The interval's ends are half way to the neighbouring patterns, and belong to it exactly
  when the significand is even, because a half is rounded to even.
* On the grid of decimals with `n` digits only the two neighbours of the number need a look:
  if any point of the grid lies in the interval, so does one of these two.
* All lengths are counted in units of `2 ^ -151 * 10 ^ -54`.  Half a step between neighbours
  is then a whole number, and so is every step of a grid.
-/
import StackLang.Binary32.Basic

namespace StackLang

/-- The value `coefficient * 10 ^ exponent`. -/
structure Decimal where
  coefficient : Nat
  exponent : Int
deriving DecidableEq, Repr

namespace Decimal

/-- The decimal digits of the coefficient, without leading zeros. -/
def digits (d : Decimal) : List Char :=
  Nat.toDigits 10 d.coefficient

/-- Drops up to `fuel` trailing zeros of the coefficient. -/
def stripZeros : Nat → Decimal → Decimal
  | 0, d => d
  | fuel + 1, d =>
    if d.coefficient % 10 = 0 then stripZeros fuel ⟨d.coefficient / 10, d.exponent + 1⟩ else d

end Decimal

namespace Binary32

/-- Values that round to one number, from `low` to `high` in units of `2 ^ -151`, ends
included if `closed`. -/
structure Bracket where
  low : Nat
  high : Nat
  closed : Bool

/-- The interval of a finite number that is not zero.  Below a power of two the neighbour is
nearer, except at the bottom of the range, where steps stay equal. -/
def bracket (x : Binary32) : Bracket where
  low := 4 * x.magnitude - (if x.fraction = 0 ∧ 1 < x.exponent then x.ulp else 2 * x.ulp)
  high := 4 * x.magnitude + 2 * x.ulp
  closed := x.significand % 2 == 0

/-- The power of ten that makes every step of a grid a whole number. -/
def gridScale : Nat :=
  Nat.pow 10 54

/-- Whether a value, in units of `2 ^ -151 * 10 ^ -54`, lies in the interval. -/
def Bracket.holds (b : Bracket) (value : Nat) : Bool :=
  let low := b.low * gridScale
  let high := b.high * gridScale
  if b.closed then decide (low ≤ value ∧ value ≤ high) else decide (low < value ∧ value < high)

/-- The power of ten of the leading digit of a finite number that is not zero.  The smallest
such number is above `10 ^ -45`, so the whole part of its product with `10 ^ 45` has that
digit. -/
def leadingPower (x : Binary32) : Int :=
  ((Nat.toDigits 10 (x.magnitude * Nat.pow 10 45 / unitsPerOne)).length : Int) - 46

/-- The decimal with `count` digits that lies in the interval of `x`, if one of the two
neighbours of `x` does. -/
def onGrid? (x : Binary32) (count : Nat) : Option Decimal :=
  let exponent := x.leadingPower - (count : Int) + 1
  let step := 4 * unitsPerOne * Nat.pow 10 (exponent + 54).toNat
  let value := 4 * x.magnitude * gridScale
  let below := value / step
  let fitsBelow := x.bracket.holds (below * step)
  let fitsAbove := x.bracket.holds ((below + 1) * step)
  let nearerAbove := decide (step ≤ 2 * (value % step))
  if fitsAbove && (nearerAbove || !fitsBelow) then some ⟨below + 1, exponent⟩
  else if fitsBelow then some ⟨below, exponent⟩
  else none

/-- The shortest decimal that reads back as the finite number `x`, without trailing zeros.
Nine digits always suffice. -/
def shortest (x : Binary32) : Decimal :=
  match (List.range' 1 9).findSome? x.onGrid? with
  | some d => d.stripZeros 10
  | none => ⟨0, 0⟩

end Binary32

end StackLang
