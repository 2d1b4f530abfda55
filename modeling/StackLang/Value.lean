/-
Values and what is known of them before they exist.

* **`Value`**: what the machine computes with.
* **`ValueType`**: the type of a value, as messages name it.
* **`Category`**: what the compiler knows of a value's type.

Design notes.

* A variable that was never stored to holds `Value.empty`.  No expression of the language
  computes it, so its category is unknown.
-/
import StackLang.Binary32.Layout

namespace StackLang

/-- The type of a value. -/
inductive ValueType where
  | empty
  | number
  | string
  | boolean
deriving DecidableEq, Repr

/-- The name of the type in messages. -/
def ValueType.name : ValueType → String
  | empty => "empty"
  | number => "number"
  | string => "string"
  | boolean => "boolean"

/-- A value of the machine. -/
inductive Value where
  /-- The content of a variable that was never stored to. -/
  | empty
  | number (value : Binary32)
  | string (value : String)
  | boolean (value : Bool)
deriving DecidableEq, Repr, Inhabited

namespace Value

/-- The type of the value. -/
def type : Value → ValueType
  | empty => .empty
  | number _ => .number
  | string _ => .string
  | boolean _ => .boolean

/-- The value as `print` writes it. -/
def text : Value → String
  | empty => "nil"
  | number value => value.plain
  | string value => value
  | boolean value => if value then "true" else "false"

end Value

/-- What the compiler knows of a value's type. -/
inductive Category where
  | float
  | string
  | boolean
  | unknown
deriving DecidableEq, Repr, Inhabited

namespace Category

/-- The name of the category in messages. -/
def name : Category → String
  | float => "float"
  | string => "string"
  | boolean => "boolean"
  | unknown => "unknown"

/-- The category of a value that exists. -/
def ofValue : Value → Category
  | .number _ => float
  | .string _ => string
  | .boolean _ => boolean
  | .empty => unknown

end Category

end StackLang
