/-
The operation that an operator stands for.

One operator sign stands for several operations of the machine, and the categories of its
operands decide which.

* **`BinaryOp.select`**, **`UnaryOp.select`**: the operation of an operator, or why there is
  none.
* **`CompileError`**: everything that can be wrong with a program that was read.

Design notes.

* Two operands must have the same category, and a known one, before the operator is looked
  at.
* Comparisons are for numbers only, also those for equality.
-/
import StackLang.Code.Instruction
import StackLang.Token.Basic

namespace StackLang

/-- A table that can run out of positions. -/
inductive FullTable where
  | names
  | constants
deriving DecidableEq, Repr

/-- The name of the table in messages. -/
def FullTable.name : FullTable → String
  | names => "name table"
  | constants => "constant pool"

/-- What can be wrong with a program. -/
inductive CompileFault where
  /-- A variable that was never declared. -/
  | undefinedVariable (name : String)
  /-- Operands of different categories, or of unknown ones. -/
  | invalidOperands (op : Token) (left right : Category)
  /-- An operator that is not defined for the category of its operands. -/
  | unsupportedOperator (op : Token) (category : Category)
  /-- An operand of another category than its operator works on. -/
  | invalidOperand (op : Token) (expected found : Category)
  /-- A token that makes no sense where it stands. -/
  | unexpectedToken (token : Token)
  /-- No position is left for an entry. -/
  | tableFull (table : FullTable)
deriving DecidableEq, Repr

/-- The wording of a fault. -/
def CompileFault.message : CompileFault → String
  | undefinedVariable name => "variable not defined: " ++ name
  | invalidOperands op left right =>
    "invalid operands for '" ++ op.text ++ "': " ++ left.name ++ " and " ++ right.name
  | unsupportedOperator op category =>
    "unsupported operator '" ++ op.text ++ "' for " ++ category.name ++ " operands"
  | invalidOperand op expected found =>
    "the '" ++ op.text ++ "' operator only works with " ++ expected.name ++ " operands, got " ++
      found.name
  | unexpectedToken token => "unexpected token '" ++ token.text ++ "'"
  | tableFull table => table.name ++ " is full"

/-- A fault of a program and the place of the token it is about. -/
structure CompileError where
  fault : CompileFault
  pos : Pos
deriving DecidableEq, Repr

/-- The wording of the error with its place in front. -/
def CompileError.text (e : CompileError) : String :=
  e.pos.label e.fault.message

/-- The operation of an operator on numbers. -/
def BinaryOp.onNumbers? : Token → Option BinaryOp
  | .plus => some .add
  | .minus => some .sub
  | .star => some .mul
  | .slash => some .div
  | .less => some .less
  | .lessEqual => some .lessEqual
  | .greater => some .greater
  | .greaterEqual => some .greaterEqual
  | .equal => some .equal
  | .notEqual => some .notEqual
  | _ => none

/-- The operation of an operator on strings. -/
def BinaryOp.onStrings? : Token → Option BinaryOp
  | .plus => some .addString
  | .minus => some .subString
  | _ => none

/-- The operation of an operator on booleans. -/
def BinaryOp.onBooleans? : Token → Option BinaryOp
  | .and => some .and
  | .or => some .or
  | _ => none

/-- The operation of an operator on operands of one category, which is not the unknown one. -/
def BinaryOp.on? : Category → Token → Option BinaryOp
  | .float => onNumbers?
  | .string => onStrings?
  | .boolean => onBooleans?
  | .unknown => fun _ => none

/-- The operation of an operator between operands of the given categories. -/
def BinaryOp.select (op : Token) (left right : Category) : Except CompileFault BinaryOp :=
  if left = right ∧ left ≠ .unknown then
    match on? left op with
    | some operation => .ok operation
    | none => .error (.unsupportedOperator op left)
  else .error (.invalidOperands op left right)

/-- The operation of an operator in front of its operand, whatever the operand. -/
def UnaryOp.ofToken? : Token → Option UnaryOp
  | .minus => some .negate
  | .bang => some .not
  | _ => none

/-- The operation of an operator in front of an operand of the given category. -/
def UnaryOp.select (op : Token) (operand : Category) : Except CompileFault UnaryOp :=
  match ofToken? op with
  | none => .error (.unexpectedToken op)
  | some operation =>
    if operand = operation.category then .ok operation
    else .error (.invalidOperand op operation.category operand)

end StackLang
