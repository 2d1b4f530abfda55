/-
The stack machine.

* **`Machine`**: the operand stack, the global slots and the output of a run.
* **`Machine.exec`**: one instruction.
* **`Machine.loop`**: all instructions of a code, one after the other, each counted as a
  step.
* **`Machine.run`**: empties the stack, checks the code, and runs it.

A run that fails leaves the machine as it was when the instruction failed: operands that
were taken are gone, and what was stored or written stays.

Design notes.

* `loop` makes no use of the check: it guards every push and every pop by itself.  That the
  guards never fail after the check is a theorem about the check, not a matter of these
  definitions.
* Steps are counted before an instruction is decoded, so the limit wins over code that does
  not decode.
-/
import StackLang.Code.CodeUnit
import StackLang.Machine.Error
import StackLang.Machine.Operation
import StackLang.Table.Slots

namespace StackLang

/-- The limits of a machine. -/
structure Config where
  /-- The most values on the stack. -/
  stackCapacity : Nat := 2048
  /-- The most global slots. -/
  slotCapacity : UInt64 := 65536
  /-- The most instructions of one run, if that is limited. -/
  maxSteps : Option Nat := none
deriving DecidableEq, Repr

/-- The operand stack, topmost value first, the global slots and the output. -/
structure Machine where
  stack : List Value := []
  slots : Slots
  out : Sink := {}
deriving DecidableEq, Repr

/-- Computations on a machine. -/
abbrev Exec := EStateM RunError Machine

namespace Machine

/-! ### Stack, slots and output -/

/-- Puts a value on the stack. -/
def push (config : Config) (offset : Nat) (value : Value) : Exec Unit := fun m =>
  if m.stack.length < config.stackCapacity then .ok () { m with stack := value :: m.stack }
  else .error (.stackOverflow offset config.stackCapacity) m

/-- Takes the topmost value from the stack. -/
def pop (offset : Nat) : Exec Value := fun m =>
  match m.stack with
  | value :: rest => .ok value { m with stack := rest }
  | [] => .error (.stackUnderflow offset) m

/-- The value of a slot. -/
def fetch (offset : Nat) (slot : UInt32) : Exec Value := fun m =>
  match m.slots.get? slot with
  | some value => .ok value m
  | none => .error (.slotOutOfRange offset slot m.slots.capacity) m

/-- Stores a value to a slot. -/
def assign (offset : Nat) (slot : UInt32) (value : Value) : Exec Unit := fun m =>
  match m.slots.set slot value with
  | .ok () slots => .ok () { m with slots }
  | .error _ slots => .error (.slotOutOfRange offset slot slots.capacity) { m with slots }

/-- Writes a value and a line feed. -/
def write (value : Value) : Exec Unit := fun m =>
  match Sink.writeText (value.text ++ "\n") m.out with
  | .ok () out => .ok () { m with out }
  | .error e out => .error (.output e) { m with out }

/-- The error of a run in which an operation at the given offset has no result. -/
def operandError (offset : Nat) : OperandFault → RunError
  | .divisionByZero => .divisionByZero offset
  | .mismatch op expected found => .typeMismatch offset op expected found

/-- The result of an operation at the given offset. -/
def result (offset : Nat) : Except OperandFault Value → Exec Value
  | .ok value => pure value
  | .error fault => throw (operandError offset fault)

/-- The value at a position of the constant pool. -/
def constant (constants : ConstantPool) (offset : Nat) (index : UInt32) : Exec Value :=
  match constants.get? index with
  | some value => pure value
  | none => throw (.constantOutOfRange offset index)

/-! ### Instructions -/

/-- Carries out the instruction at the given offset. -/
def exec (config : Config) (constants : ConstantPool) (offset : Nat) : Instruction → Exec Unit
  | .pushNumber value => push config offset (.number value)
  | .pushConst index => do
    let value ← constant constants offset index
    push config offset value
  | .pushBool value => push config offset (.boolean value)
  | .binary op => do
    let right ← pop offset
    let left ← pop offset
    let value ← result offset (op.apply left right)
    push config offset value
  | .unary op => do
    let operand ← pop offset
    let value ← result offset (op.apply operand)
    push config offset value
  | .store slot => do
    let value ← pop offset
    assign offset slot value
  | .load slot => do
    let value ← fetch offset slot
    push config offset value
  | .print => do
    let value ← pop offset
    write value

/-- Counts one more step after the given number of them, and fails past the limit. -/
def countStep (config : Config) (steps : Nat) : Exec Unit :=
  match config.maxSteps with
  | some limit => if steps < limit then pure () else throw (.stepLimit limit)
  | none => pure ()

/-- Carries out code, after the given number of steps. -/
def loop (config : Config) (constants : ConstantPool) : Nat → Decoded → Exec Unit
  | _, .done => pure ()
  | steps, .fault e => do
    countStep config steps
    throw (.ofDecode e)
  | steps, .step offset i rest => do
    countStep config steps
    exec config constants offset i
    loop config constants (steps + 1) rest

/-! ### Runs -/

/-- Whether a unit passes the stack check, starting from an empty stack. -/
def check (config : Config) (unit : CodeUnit) : Except RunError Unit :=
  match stackCheck unit.code 0 config.stackCapacity with
  | .ok _ => .ok ()
  | .error e => .error (.ofStackCheck e)

/-- Empties the stack. -/
def reset (m : Machine) : Machine :=
  { m with stack := [] }

/-- Carries out a unit without checking it, and gives the topmost value that it leaves. -/
def runUnchecked (config : Config) (unit : CodeUnit) : Exec (Option Value) := do
  modify reset
  loop config unit.constants 0 (decodeAll unit.code)
  return (← get).stack.head?

/-- Checks a unit and carries it out, and gives the topmost value that it leaves. -/
def run (config : Config) (unit : CodeUnit) : Exec (Option Value) := do
  modify reset
  match check config unit with
  | .ok () => runUnchecked config unit
  | .error e => throw e

end Machine

end StackLang
