/-
The two texts of a number.

Both show the shortest digits that read back (`Binary32.shortest`); they differ in where the
point goes.

* **`NumberFormat.plain`**: never an exponent, and no point in a whole number.  This is what
  `print` writes.
* **`NumberFormat.exact`**: a whole number ends in `.0`, and very small or large numbers
  have an exponent.  This is what a token dump shows.
-/
import StackLang.Binary32.Shortest

namespace StackLang

/-- The choices that fix the text of a number. -/
structure NumberFormat where
  /-- Written after the digits of a whole number. -/
  wholeSuffix : String
  /-- Whether a number whose leading digit has this power of ten is written with an exponent. -/
  scientific : Int → Bool

namespace NumberFormat

/-- Positional for every size, and whole numbers without a point. -/
def plain : NumberFormat where
  wholeSuffix := ""
  scientific _ := false

/-- Positional from `0.0001` up to below `10 ^ 16`, and whole numbers with `.0`. -/
def exact : NumberFormat where
  wholeSuffix := ".0"
  scientific power := decide (power < -4 ∨ 16 ≤ power)

end NumberFormat

namespace Decimal

/-- The power of ten of the leading digit. -/
def leadingPower (d : Decimal) : Int :=
  d.exponent + (d.digits.length : Int) - 1

/-- Positional text: zeros are filled in up to the point on either side. -/
def positional (format : NumberFormat) (d : Decimal) : String :=
  let digits := d.digits
  let whole := d.leadingPower + 1
  if whole ≤ 0 then
    "0." ++ String.ofList (List.replicate whole.natAbs '0' ++ digits)
  else if (digits.length : Int) ≤ whole then
    String.ofList (digits ++ List.replicate (whole.toNat - digits.length) '0') ++ format.wholeSuffix
  else
    String.ofList (digits.take whole.toNat) ++ "." ++ String.ofList (digits.drop whole.toNat)

/-- One digit, the others after a point if there are any, and the power of ten. -/
def scientific (d : Decimal) : String :=
  let digits := d.digits
  let rest := digits.drop 1
  let tail := if rest.isEmpty then "" else "." ++ String.ofList rest
  String.ofList (digits.take 1) ++ tail ++ "e" ++ toString d.leadingPower

/-- The text of a decimal that is not zero. -/
def text (format : NumberFormat) (d : Decimal) : String :=
  if format.scientific d.leadingPower then d.scientific else d.positional format

end Decimal

namespace Binary32

/-- The text of a number.  A not-a-number has no sign in its text; negative zero has one. -/
def text (format : NumberFormat) (x : Binary32) : String :=
  if x.isNaN then "NaN"
  else
    let sign := if x.negative then "-" else ""
    if x.isInfinite then sign ++ "inf"
    else if x.isZero then sign ++ "0" ++ format.wholeSuffix
    else sign ++ x.shortest.text format

/-- The text that `print` writes. -/
def plain (x : Binary32) : String :=
  x.text .plain

end Binary32

end StackLang
