/-
The operations of the machine on values.

* **`BinaryOp.apply`**, **`UnaryOp.apply`**: the result of an operation, or why it has none.
* **`trimSpaces`**: a text without the spaces at its end; `trimSpaces_eq_iff` says what is kept
  and what is dropped.

Design notes.

* Both operands of `and` and `or` are values already, so nothing is left out when the first
  decides.
* The difference of strings drops the spaces at the end of the left one and appends the
  right one.
* Division by zero of either sign is an error; all other arithmetic has a result.
* When the operands do not have the type of the operation, the left one is blamed if its
  type is wrong, and the right one otherwise.
-/
import StackLang.Binary32.Arith
import StackLang.Code.Instruction
import StackLang.Text.Blank

namespace StackLang

/-- Why an operation has no result. -/
inductive OperandFault where
  | divisionByZero
  | mismatch (op : Opcode) (expected found : ValueType)
deriving DecidableEq, Repr

/-- The text without the spaces at its end. -/
def trimSpaces (text : String) : String :=
  Text.trimEnd (· == ' ') text

/-- What is dropped are spaces, and what is kept does not end in one. -/
theorem trimSpaces_eq_iff {text kept : String} :
    trimSpaces text = kept ↔
      (∃ dropped, kept ++ dropped = text ∧ ∀ c ∈ dropped.toList, c = ' ') ∧
        ∀ c ∈ kept.toList.getLast?, c ≠ ' ' := by
  rw [trimSpaces, Text.trimEnd_eq_iff]
  simp only [beq_iff_eq, ne_eq]

namespace BinaryOp

/-- The result of an operation on strings. -/
def applyStrings : BinaryOp → String → String → Option Value
  | addString, left, right => some (.string (left ++ right))
  | subString, left, right => some (.string (trimSpaces left ++ right))
  | _, _, _ => none

/-- The result of an operation on booleans. -/
def applyBooleans : BinaryOp → Bool → Bool → Option Value
  | and, left, right => some (.boolean (left && right))
  | or, left, right => some (.boolean (left || right))
  | _, _, _ => none

/-- The result of an operation on numbers, a division by zero apart. -/
def applyNumbers : BinaryOp → Binary32 → Binary32 → Option Value
  | add, left, right => some (.number (left.add right))
  | sub, left, right => some (.number (left.sub right))
  | mul, left, right => some (.number (left.mul right))
  | div, left, right => some (.number (left.div right))
  | equal, left, right => some (.boolean (left.eq right))
  | notEqual, left, right => some (.boolean (!left.eq right))
  | less, left, right => some (.boolean (left.lt right))
  | lessEqual, left, right => some (.boolean (left.le right))
  | greater, left, right => some (.boolean (right.lt left))
  | greaterEqual, left, right => some (.boolean (right.le left))
  | _, _, _ => none

/-- The fault of an operation on operands that do not both have its type. -/
def mismatch (op : BinaryOp) (left right : Value) : OperandFault :=
  .mismatch op.opcode op.operandType
    (if left.type ≠ op.operandType then left.type else right.type)

/-- The result of the operation, or why it has none. -/
def apply (op : BinaryOp) : Value → Value → Except OperandFault Value
  | .string left, .string right =>
    match op.applyStrings left right with
    | some result => .ok result
    | none => .error (op.mismatch (.string left) (.string right))
  | .boolean left, .boolean right =>
    match op.applyBooleans left right with
    | some result => .ok result
    | none => .error (op.mismatch (.boolean left) (.boolean right))
  | .number left, .number right =>
    if op = .div ∧ right.isZero then .error .divisionByZero
    else
      match op.applyNumbers left right with
      | some result => .ok result
      | none => .error (op.mismatch (.number left) (.number right))
  | left, right => .error (op.mismatch left right)

end BinaryOp

/-- The result of the operation, or why it has none. -/
def UnaryOp.apply : UnaryOp → Value → Except OperandFault Value
  | negate, .number value => .ok (.number value.neg)
  | not, .boolean value => .ok (.boolean !value)
  | op, operand => .error (.mismatch op.opcode op.operandType operand.type)

end StackLang
