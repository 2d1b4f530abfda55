/-
Units of compiled code.

* **`CodeUnit`**: code with the tables that it refers to.
* **`CodeUnit.listing`**: one line for each instruction, with constants and names resolved.

A line of a listing has the offset in four digits, the mnemonic in a column of six, and the
operand. The operand of a constant or a variable is a position in a column of six, followed
by what stands there.

Design notes.

* A unit's tables are those of the session it was compiled in, extended by what its source
  adds.
* A constant beyond the pool is marked; a slot without a name is shown by its number alone.
-/
import StackLang.Code.Encoding
import StackLang.Table.Constants
import StackLang.Table.Names
import StackLang.Text.Quoted

namespace StackLang

/-- Code with the tables that it refers to. -/
structure CodeUnit where
  code : Bytes := []
  constants : ConstantPool := {}
  names : NameTable := {}
deriving DecidableEq, Repr

namespace CodeUnit

/-- A position in a column of six, and what stands there. -/
def annotated (position : UInt32) (note : String) : String :=
  Text.padRight 6 (toString position.toNat) ++ " ; " ++ note

/-- The slot, and its name if it has one. -/
def slotText (unit : CodeUnit) (slot : UInt32) : String :=
  match unit.names.name? slot with
  | some name => annotated slot name
  | none => toString slot.toNat

/-- The operand of an instruction. -/
def operandText (unit : CodeUnit) : Instruction → String
  | .pushNumber value => value.plain
  | .pushConst index =>
    match unit.constants.get? index with
    | some value => annotated index (Text.quoted value.text)
    | none => annotated index "<out of range>"
  | .pushBool value => if value then "TRUE" else "FALSE"
  | .binary op => op.opcode.mnemonic
  | .unary op => op.opcode.mnemonic
  | .store slot => unit.slotText slot
  | .load slot => unit.slotText slot
  | .print => ""

/-- The line of an instruction, with its line feed. -/
def lineText (unit : CodeUnit) (offset : Nat) (i : Instruction) : String :=
  Text.zeroPadded 4 offset ++ "  " ++ Text.padRight 6 i.opcode.mnemonic ++ " " ++
    unit.operandText i ++ "\n"

/-- One line for each instruction, or the first error of the code. -/
def listing (unit : CodeUnit) : Except DecodeError String :=
  (decodeAll unit.code).lines.map fun lines =>
    String.join (lines.map fun line => unit.lineText line.1 line.2)

end CodeUnit

end StackLang
