/-
Ranges of code points.

A property of characters that a standard gives by enumeration is a list of inclusive ranges,
in increasing order.

* **`CodeRange`**: the first and the last code point of a range.
* **`covers`**: whether some range of a list holds a character.
-/

namespace StackLang.Text

/-- The first and the last code point of a range. -/
abbrev CodeRange := Nat × Nat

/-- Whether some range of the list holds the character. -/
def covers (ranges : List CodeRange) (c : Char) : Bool :=
  ranges.any fun range => decide (range.1 ≤ c.toNat) && decide (c.toNat ≤ range.2)

end StackLang.Text
