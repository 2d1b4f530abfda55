/-
Global slots.

* **`Slots`**: the values of a session's variables, by slot.
* **`Slots.get?`**: the value of a slot within the capacity.
* **`Slots.set`**: stores a value; beyond the capacity it is handed back.
* **`Slots.setCapacity`**: changes the capacity, unless the stored values do not fit.

What changes slots gives the slots after it, also when it fails.

Design notes.

* Storage grows to the highest slot that was stored to.  A slot that was never stored to
  holds `Value.empty`.
-/
import StackLang.Value

namespace StackLang

/-- The values of variables, by slot. -/
structure Slots where
  values : Array Value := #[]
  capacity : UInt64
deriving DecidableEq, Repr

namespace Slots

/-- Number of stored slots. -/
def size (slots : Slots) : Nat :=
  slots.values.size

/-- Whether a slot is within the capacity. -/
def inRange (slots : Slots) (slot : UInt32) : Bool :=
  decide (slot.toNat < slots.capacity.toNat)

/-- The value of a slot within the capacity. -/
def get? (slots : Slots) (slot : UInt32) : Option Value :=
  if slots.inRange slot then some (slots.values[slot.toNat]?.getD .empty) else none

/-- The values after a store, grown with empty ones up to the slot. -/
def store (values : Array Value) (slot : Nat) (value : Value) : Array Value :=
  if slot < values.size then values.setIfInBounds slot value
  else (values ++ Array.replicate (slot - values.size) Value.empty).push value

/-- Stores a value, or fails with the value itself if the slot is beyond the capacity. -/
def set (slots : Slots) (slot : UInt32) (value : Value) : EStateM.Result Value Slots Unit :=
  if slots.inRange slot then .ok () { slots with values := store slots.values slot.toNat value }
  else .error value slots

/-- Sets another capacity, or fails with the number of stored slots if they would not fit. -/
def setCapacity (slots : Slots) (capacity : UInt64) : EStateM.Result Nat Slots Unit :=
  if capacity.toNat < slots.size then .error slots.size slots
  else .ok () { slots with capacity }

end Slots

end StackLang
