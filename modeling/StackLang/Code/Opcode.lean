/-
Opcodes.

* **`Opcode`**: what a byte of code can mean.
* **`Opcode.byte`**, **`Opcode.ofByte?`**: the byte of an opcode and back.
* **`Opcode.operandCount`**, **`Opcode.isMarker`**: what follows an opcode in code.

Design notes.

* The byte of an opcode is its position in the declaration below, and is part of the code
  format.
* A marker is followed by one more opcode, which names the operation.
-/

namespace StackLang

/-- The meaning of one byte of code. -/
inductive Opcode where
  | pushNumber
  | pushConst
  | addString
  | subString
  | add
  | sub
  | mul
  | div
  | negate
  | not
  | unary
  | binary
  | equal
  | notEqual
  | less
  | lessEqual
  | greater
  | greaterEqual
  | and
  | or
  | bool
  | trueValue
  | falseValue
  | store
  | load
  | print
deriving DecidableEq, Repr

namespace Opcode

/-- The byte of the opcode. -/
def byte : Opcode → UInt8
  | pushNumber => 0
  | pushConst => 1
  | addString => 2
  | subString => 3
  | add => 4
  | sub => 5
  | mul => 6
  | div => 7
  | negate => 8
  | not => 9
  | unary => 10
  | binary => 11
  | equal => 12
  | notEqual => 13
  | less => 14
  | lessEqual => 15
  | greater => 16
  | greaterEqual => 17
  | and => 18
  | or => 19
  | bool => 20
  | trueValue => 21
  | falseValue => 22
  | store => 23
  | load => 24
  | print => 25

/-- All opcodes, in the order of their bytes. -/
def all : List Opcode :=
  [pushNumber, pushConst, addString, subString, add, sub, mul, div, negate, not, unary, binary,
    equal, notEqual, less, lessEqual, greater, greaterEqual, and, or, bool, trueValue, falseValue,
    store, load, print]

/-- The opcode of a byte. -/
def ofByte? (byte : UInt8) : Option Opcode :=
  all[byte.toNat]?

/-- Number of four-byte operands that follow. -/
def operandCount : Opcode → Nat
  | pushNumber | pushConst | store | load => 1
  | _ => 0

/-- Whether another opcode follows, which names the operation. -/
def isMarker : Opcode → Bool
  | unary | binary | bool => true
  | _ => false

/-- The name of the opcode in listings and messages. -/
def mnemonic : Opcode → String
  | pushNumber => "PUSHF"
  | pushConst => "PUSHS"
  | addString => "ADDS"
  | subString => "SUBS"
  | add => "ADD"
  | sub => "SUB"
  | mul => "MUL"
  | div => "DIV"
  | negate => "UNEG"
  | not => "NOT"
  | unary => "UNARY"
  | binary => "CMP"
  | equal => "EQ"
  | notEqual => "NEQ"
  | less => "LT"
  | lessEqual => "LEQ"
  | greater => "GT"
  | greaterEqual => "GEQ"
  | and => "AND"
  | or => "OR"
  | bool => "BOOL"
  | trueValue => "TRUE"
  | falseValue => "FALSE"
  | store => "STORE"
  | load => "LOAD"
  | print => "PRINT"

theorem ofByte?_byte (op : Opcode) : ofByte? op.byte = some op := by
  cases op <;> rfl

end Opcode

end StackLang
