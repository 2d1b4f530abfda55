/-
Instructions.

* **`BinaryOp`**, **`UnaryOp`**: the operations of the machine.
* **`Instruction`**: one step of the machine.
* **`Instruction.pops`**, **`Instruction.pushes`**: what an instruction takes from the stack
  and puts on it.
* **`Instruction.category`**: what the compiler knows of the value that an instruction
  leaves.

Design notes.

* An operation works on operands of one type, so the type of its result follows from the
  operation alone.  A load is different: what it leaves depends on the variable.
-/
import StackLang.Code.Opcode
import StackLang.Value

namespace StackLang

/-- An operation on two values. -/
inductive BinaryOp where
  | addString
  | subString
  | add
  | sub
  | mul
  | div
  | equal
  | notEqual
  | less
  | lessEqual
  | greater
  | greaterEqual
  | and
  | or
deriving DecidableEq, Repr

namespace BinaryOp

/-- The opcode that names the operation. -/
def opcode : BinaryOp → Opcode
  | addString => .addString
  | subString => .subString
  | add => .add
  | sub => .sub
  | mul => .mul
  | div => .div
  | equal => .equal
  | notEqual => .notEqual
  | less => .less
  | lessEqual => .lessEqual
  | greater => .greater
  | greaterEqual => .greaterEqual
  | and => .and
  | or => .or

/-- The operation that an opcode names. -/
def ofOpcode? : Opcode → Option BinaryOp
  | .addString => some addString
  | .subString => some subString
  | .add => some add
  | .sub => some sub
  | .mul => some mul
  | .div => some div
  | .equal => some equal
  | .notEqual => some notEqual
  | .less => some less
  | .lessEqual => some lessEqual
  | .greater => some greater
  | .greaterEqual => some greaterEqual
  | .and => some and
  | .or => some or
  | _ => none

/-- The type of both operands. -/
def operandType : BinaryOp → ValueType
  | addString | subString => .string
  | and | or => .boolean
  | _ => .number

/-- The category of the result. -/
def category : BinaryOp → Category
  | addString | subString => .string
  | add | sub | mul | div => .float
  | _ => .boolean

end BinaryOp

/-- An operation on one value. -/
inductive UnaryOp where
  | negate
  | not
deriving DecidableEq, Repr

namespace UnaryOp

/-- The opcode that names the operation. -/
def opcode : UnaryOp → Opcode
  | negate => .negate
  | not => .not

/-- The operation that an opcode names. -/
def ofOpcode? : Opcode → Option UnaryOp
  | .negate => some negate
  | .not => some not
  | _ => none

/-- The type of the operand. -/
def operandType : UnaryOp → ValueType
  | negate => .number
  | not => .boolean

/-- The category of the operand and of the result. -/
def category : UnaryOp → Category
  | negate => .float
  | not => .boolean

end UnaryOp

/-- One step of the machine. -/
inductive Instruction where
  /-- Puts a number on the stack. -/
  | pushNumber (value : Binary32)
  /-- Puts an entry of the constant pool on the stack. -/
  | pushConst (index : UInt32)
  /-- Puts a boolean on the stack. -/
  | pushBool (value : Bool)
  /-- Replaces the two topmost values, the right operand on top, by a result. -/
  | binary (op : BinaryOp)
  /-- Replaces the topmost value by a result. -/
  | unary (op : UnaryOp)
  /-- Takes the topmost value into a slot. -/
  | store (slot : UInt32)
  /-- Puts the value of a slot on the stack. -/
  | load (slot : UInt32)
  /-- Takes the topmost value and writes it. -/
  | print
deriving DecidableEq, Repr

namespace Instruction

/-- The leading opcode of the instruction. -/
def opcode : Instruction → Opcode
  | pushNumber _ => .pushNumber
  | pushConst _ => .pushConst
  | pushBool _ => .bool
  | binary _ => .binary
  | unary _ => .unary
  | store _ => .store
  | load _ => .load
  | print => .print

/-- Number of values taken from the stack. -/
def pops : Instruction → Nat
  | binary _ => 2
  | unary _ | store _ | print => 1
  | pushNumber _ | pushConst _ | pushBool _ | load _ => 0

/-- Number of values put on the stack. -/
def pushes : Instruction → Nat
  | store _ | print => 0
  | _ => 1

/-- The category of the value left on the stack, as far as the instruction alone tells. -/
def category : Instruction → Category
  | pushNumber _ => .float
  | pushConst _ => .string
  | pushBool _ => .boolean
  | binary op => op.category
  | unary op => op.category
  | store _ | load _ | print => .unknown

end Instruction

end StackLang
