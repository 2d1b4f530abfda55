/-
The constant pool.

* **`ConstantPool`**: literal values in the order of appearance, named by position.
* **`ConstantPool.push`**: appends a value.

Design notes.

* Equal values are not shared: every string literal of a program has an entry of its own.
-/
import StackLang.Table.Index
import StackLang.Value

namespace StackLang

/-- Values that code refers to by position. -/
structure ConstantPool where
  values : Array Value := #[]
deriving DecidableEq, Repr, Inhabited

namespace ConstantPool

/-- Number of entries. -/
def size (pool : ConstantPool) : Nat :=
  pool.values.size

/-- Appends a value and gives its position, unless that position does not fit an operand. -/
def push (pool : ConstantPool) (value : Value) : Option (UInt32 × ConstantPool) :=
  (index32 pool.size).map fun index => (index, ⟨pool.values.push value⟩)

/-- The value at a position. -/
def get? (pool : ConstantPool) (index : UInt32) : Option Value :=
  pool.values[index.toNat]?

end ConstantPool

end StackLang
