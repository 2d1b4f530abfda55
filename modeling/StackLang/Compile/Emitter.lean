/-
Compilation.

* **`Emitter`**: the code, the tables and the errors so far.
* **`Emitter.category`**: what is known of the value on top of the stack.
* **`Emitter.expr`**, **`Emitter.stmt`**, **`Emitter.program`**: emit the code of a piece of
  program.
* **`CodeUnit.ofProgram`**: the unit that a program compiles to, starting from given tables,
  and the errors found on the way.

Operands come before their operator.  An error emits nothing and does not stop the compiler,
which goes on to find more; the unit of a program with errors is not meant to be run.

Design notes.

* There is no typed form of a program.  What is known of the value on top of the stack is
  read off the instruction emitted last; after an error nothing is known.
* A declaration is entered in the name table even if its value has an error, so that uses of
  the variable are not reported as undefined.
-/
import StackLang.Code.CodeUnit
import StackLang.Compile.Selection
import StackLang.Program.Basic

namespace StackLang

/-- The code, the tables and the errors so far. -/
structure Emitter where
  code : Array Instruction := #[]
  names : NameTable
  constants : ConstantPool
  errors : List CompileError := []
  /-- The instruction emitted last, unless an error came after it. -/
  last : Option Instruction := none

namespace Emitter

/-- Emits an instruction. -/
def emit (e : Emitter) (i : Instruction) : Emitter :=
  { e with code := e.code.push i, last := some i }

/-- Records an error at the place of a token. -/
def fail (e : Emitter) (fault : CompileFault) (token : Located) : Emitter :=
  { e with errors := e.errors ++ [⟨fault, token.pos⟩], last := none }

/-- What is known of the value on top of the stack. -/
def category (e : Emitter) : Category :=
  match e.last with
  | none => .unknown
  | some (.load slot) => e.names.category slot
  | some i => i.category

/-- Emits a literal or the load of a variable. -/
def literal (e : Emitter) (t : Located) : Emitter :=
  match t.token with
  | .number value => e.emit (.pushNumber value)
  | .bool value => e.emit (.pushBool value)
  | .string value =>
    match e.constants.push (.string value) with
    | some (index, constants) => { e with constants }.emit (.pushConst index)
    | none => e.fail (.tableFull .constants) t
  | .ident name =>
    match e.names.resolve name with
    | some slot => e.emit (.load slot)
    | none => e.fail (.undefinedVariable name) t
  | token => e.fail (.unexpectedToken token) t

/-- Emits the operation of an operator, or records why there is none. -/
def selected {α : Type} (e : Emitter) (op : Located) (make : α → Instruction) :
    Except CompileFault α → Emitter
  | .ok operation => e.emit (make operation)
  | .error fault => e.fail fault op

/-- Emits an expression. -/
def expr (e : Emitter) : Expr → Emitter
  | .literal t => e.literal t
  | .unary op operand =>
    let e := e.expr operand
    e.selected op .unary (UnaryOp.select op.token e.category)
  | .binary left op right =>
    let e₁ := e.expr left
    let e₂ := e₁.expr right
    e₂.selected op .binary (BinaryOp.select op.token e₁.category e₂.category)

/-- Emits the store to a declared variable. -/
def declare (e : Emitter) (t : Located) : Emitter :=
  match t.token with
  | .ident name =>
    match e.names.declare name e.category with
    | some (slot, names) => { e with names }.emit (.store slot)
    | none => e.fail (.tableFull .names) t
  | token => e.fail (.unexpectedToken token) t

/-- Emits a statement. -/
def stmt (e : Emitter) : Stmt → Emitter
  | .declare name init => (e.expr init).declare name
  | .expr value => e.expr value
  | .print value => (e.expr value).emit .print

/-- Emits the statements of a program. -/
def program (e : Emitter) (program : Program) : Emitter :=
  program.foldl stmt e

/-- The unit of what was emitted. -/
def unit (e : Emitter) : CodeUnit where
  code := assemble e.code.toList
  constants := e.constants
  names := e.names

end Emitter

/-- The unit that a program compiles to, starting from the given tables, and its errors. -/
def CodeUnit.ofProgram (names : NameTable) (constants : ConstantPool) (program : Program) :
    CodeUnit × List CompileError :=
  let e := ({ names, constants } : Emitter).program program
  (e.unit, e.errors)

end StackLang
