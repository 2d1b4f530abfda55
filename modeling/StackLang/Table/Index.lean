/-
Indices into tables.

An instruction names an entry of a table by 32 bits, so a table has at most `2 ^ 32` entries
that code can reach.

* **`index32`**: a position as 32 bits, if it fits.
-/

namespace StackLang

/-- The position as 32 bits, if it fits. -/
def index32 (position : Nat) : Option UInt32 :=
  if position < 0x100000000 then some (UInt32.ofNat position) else none

end StackLang
