/-
Arithmetic and comparison of single-precision numbers.

* **`Binary32.neg`**: flips the sign bit of every pattern.
* **`Binary32.add`**, **`sub`**, **`mul`**, **`div`**: the exact result rounded once.
* **`Binary32.eq`**, **`lt`**, **`le`**: comparison of values; zeros are equal, and no
  comparison with a not-a-number holds.

Design notes.

* A not-a-number operand is handed on, made quiet, the left one first.  An operation with no
  answer, such as a difference of infinities, gives `Binary32.invalid`.
* Comparison reads the sign and the lower 31 bits as one integer (`Binary32.orderKey`):
  patterns of larger absolute value are larger bit strings, and both zeros have the key
  zero.
-/
import StackLang.Binary32.Basic

namespace StackLang.Binary32

/-- Hands on a not-a-number operand, the left one first. -/
def propagate (x y : Binary32) (otherwise : Binary32) : Binary32 :=
  if x.isNaN then x.quiet else if y.isNaN then y.quiet else otherwise

/-- The number of the other sign. -/
def neg (x : Binary32) : Binary32 :=
  ⟨x.bits ^^^ 0x80000000⟩

/-- The sum of two patterns neither of which is a not-a-number.  A sum that is exactly zero
is negative only when both operands are. -/
def addOrdered (x y : Binary32) : Binary32 :=
  if x.isInfinite then
    if y.isInfinite && x.negative != y.negative then invalid else x
  else if y.isInfinite then y
  else
    let sum := x.scaled + y.scaled
    if sum = 0 then zero (x.negative && y.negative)
    else ofRatio (decide (sum < 0)) sum.natAbs unitsPerOne

/-- Sum. -/
def add (x y : Binary32) : Binary32 :=
  propagate x y (addOrdered x y)

/-- Difference. -/
def sub (x y : Binary32) : Binary32 :=
  propagate x y (addOrdered x y.neg)

/-- Product. -/
def mul (x y : Binary32) : Binary32 :=
  let negative := x.negative != y.negative
  propagate x y <|
    if x.isInfinite || y.isInfinite then
      if x.isZero || y.isZero then invalid else infinity negative
    else ofRatio negative (x.magnitude * y.magnitude) (unitsPerOne * unitsPerOne)

/-- Quotient. -/
def div (x y : Binary32) : Binary32 :=
  let negative := x.negative != y.negative
  propagate x y <|
    if x.isInfinite then
      if y.isInfinite then invalid else infinity negative
    else if y.isInfinite then zero negative
    else if y.isZero then
      if x.isZero then invalid else infinity negative
    else ofRatio negative x.magnitude y.magnitude

/-! ### Comparison -/

/-- An integer that orders all patterns but the not-a-number ones. -/
def orderKey (x : Binary32) : Int :=
  if x.negative then -(x.unsigned : Int) else x.unsigned

/-- Neither operand is a not-a-number. -/
def ordered (x y : Binary32) : Bool :=
  !x.isNaN && !y.isNaN

/-- Equality of values. -/
def eq (x y : Binary32) : Bool :=
  ordered x y && x.orderKey == y.orderKey

/-- Strict order of values. -/
def lt (x y : Binary32) : Bool :=
  ordered x y && decide (x.orderKey < y.orderKey)

/-- Order of values. -/
def le (x y : Binary32) : Bool :=
  ordered x y && decide (x.orderKey ≤ y.orderKey)

end StackLang.Binary32
