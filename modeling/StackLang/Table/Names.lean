/-
The name table.

* **`NameTable`**: the variables of a session in the order of their declaration.  The
  position of a name is the slot that holds its value.
* **`NameTable.resolve`**: the slot of a name.
* **`NameTable.declare`**: the slot of a name, given to it now if it has none.

Beside each name the table keeps the category of the value last declared into it, which is
what the compiler knows of a variable.

Design notes.

* Names and categories are two sequences, because a stored session may hold more of one than
  of the other.  A slot without a category has an unknown one.
* To declare a name again changes its category and not its slot.
-/
import StackLang.Table.Index
import StackLang.Value

namespace StackLang

/-- The variables of a session with their categories. -/
structure NameTable where
  names : Array String := #[]
  categories : Array Category := #[]
deriving DecidableEq, Repr, Inhabited

namespace NameTable

/-- Number of names. -/
def size (table : NameTable) : Nat :=
  table.names.size

/-- The slot of a name. -/
def resolve (table : NameTable) (name : String) : Option UInt32 :=
  (table.names.findIdx? (· == name)).bind index32

/-- The name of a slot. -/
def name? (table : NameTable) (slot : UInt32) : Option String :=
  table.names[slot.toNat]?

/-- The category of a slot. -/
def category (table : NameTable) (slot : UInt32) : Category :=
  table.categories[slot.toNat]?.getD .unknown

/-- Overwrites the category of a slot that has one. -/
def setCategory (table : NameTable) (slot : UInt32) (category : Category) : NameTable :=
  { table with categories := table.categories.setIfInBounds slot.toNat category }

/-- The slot of a name, which is the next free one if the name is new, and the table that
knows the category of its value.  There is none once slots no longer fit an operand. -/
def declare (table : NameTable) (name : String) (category : Category) :
    Option (UInt32 × NameTable) :=
  match table.resolve name with
  | some slot => some (slot, table.setCategory slot category)
  | none =>
    (index32 table.size).map fun slot =>
      (slot, ⟨table.names.push name, table.categories.push category⟩)

/-- The names with their categories, in slot order. -/
def entries (table : NameTable) : List (String × Category) :=
  table.names.toList.mapIdx fun i name => (name, table.categories[i]?.getD .unknown)

end NameTable

end StackLang
