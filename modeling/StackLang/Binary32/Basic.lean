/-
Single-precision numbers, as exact arithmetic on their bit patterns.

A number of the language is one 32-bit pattern: a sign bit, eight exponent bits and 23
fraction bits.  Every finite pattern stands for a whole multiple of `2 ^ -149`, so its
absolute value is held as a natural number of such units (`Binary32.magnitude`), and nothing
below ever leaves exact arithmetic.

* **`Binary32.magnitude`**: the absolute value of a finite number, in units of `2 ^ -149`.
* **`Binary32.ofRatio`**: the number nearest to a quotient, a half going to the even
  neighbour, and infinity past the largest finite number.
* **`Binary32.ofDecimal`**: the number nearest to a decimal numeral, rounded once.

Design notes.

* There is one rounding function.  Sums, products, quotients and decimal numerals are first
  written as an exact quotient of natural numbers and then rounded by `ofRatio`.
* Bit patterns, and so the payloads of not-a-number patterns, are kept: equality of
  `Binary32` is equality of bits, while the language's own `==` is `Binary32.eq` in the
  module on arithmetic.
-/

namespace StackLang

/-- A single-precision number, given by its bit pattern. -/
structure Binary32 where
  bits : UInt32
deriving DecidableEq, Inhabited, Repr

namespace Binary32

/-! ### Fields of the pattern -/

/-- The sign bit; set on negative numbers and on negative zero. -/
def negative (x : Binary32) : Bool :=
  decide (0x80000000 ≤ x.bits.toNat)

/-- The pattern without its sign bit. -/
def unsigned (x : Binary32) : Nat :=
  x.bits.toNat % 0x80000000

/-- The eight exponent bits. -/
def exponent (x : Binary32) : Nat :=
  x.unsigned / 0x800000

/-- The 23 fraction bits. -/
def fraction (x : Binary32) : Nat :=
  x.unsigned % 0x800000

/-- All exponent bits set and a fraction that is not zero. -/
def isNaN (x : Binary32) : Bool :=
  decide (0x7F800000 < x.unsigned)

/-- All exponent bits set and a zero fraction. -/
def isInfinite (x : Binary32) : Bool :=
  x.unsigned == 0x7F800000

/-- Zero of either sign. -/
def isZero (x : Binary32) : Bool :=
  x.unsigned == 0

/-! ### Values -/

/-- The fraction with its leading bit, which exponent zero lacks. -/
def significand (x : Binary32) : Nat :=
  if x.exponent = 0 then x.fraction else 0x800000 + x.fraction

/-- The number one in units of `2 ^ -149`. -/
def unitsPerOne : Nat :=
  Nat.pow 2 149

/-- Distance to the next larger pattern, in units of `2 ^ -149`. -/
def ulp (x : Binary32) : Nat :=
  Nat.pow 2 (x.exponent - 1)

/-- The absolute value of a finite number, in units of `2 ^ -149`. -/
def magnitude (x : Binary32) : Nat :=
  x.significand * x.ulp

/-- The value of a finite number, in units of `2 ^ -149`. -/
def scaled (x : Binary32) : Int :=
  if x.negative then -(x.magnitude : Int) else x.magnitude

/-! ### Building patterns -/

/-- The pattern with the given sign and the given lower 31 bits. -/
def ofSign (negative : Bool) (unsigned : Nat) : Binary32 :=
  ⟨UInt32.ofNat (if negative then 0x80000000 + unsigned else unsigned)⟩

/-- Zero with a sign. -/
def zero (negative : Bool) : Binary32 :=
  ofSign negative 0

/-- Infinity with a sign. -/
def infinity (negative : Bool) : Binary32 :=
  ofSign negative 0x7F800000

/-- The pattern that an invalid operation yields: quiet, with the sign bit set and no
payload. -/
def invalid : Binary32 :=
  ofSign true 0x7FC00000

/-- The not-a-number pattern of `x` with its quiet bit set. -/
def quiet (x : Binary32) : Binary32 :=
  ⟨x.bits ||| 0x400000⟩

/-! ### Rounding -/

/-- The whole number nearest to `num / den`; a half goes to the even neighbour. -/
def roundHalfEven (num den : Nat) : Nat :=
  let quotient := num / den
  let twice := 2 * (num % den)
  if twice < den then quotient
  else if twice = den then quotient + quotient % 2
  else quotient + 1

/-- The number nearest to `num / den` with the given sign.

With `shift` chosen so that the quotient keeps 24 binary digits, or fewer at the bottom of
the range, the rounded quotient and `shift` are together the lower 31 bits: a carry out of
the fraction is an increment of the exponent. -/
def ofRatio (negative : Bool) (num den : Nat) : Binary32 :=
  let units := num * unitsPerOne
  let shift := (units / den).log2 - 23
  let unsigned := shift * 0x800000 + roundHalfEven units (den * Nat.pow 2 shift)
  if unsigned < 0x7F800000 then ofSign negative unsigned else infinity negative

/-- The number nearest to `coefficient / 10 ^ places`. -/
def ofDecimal (coefficient places : Nat) : Binary32 :=
  ofRatio false coefficient (Nat.pow 10 places)

end Binary32

end StackLang
