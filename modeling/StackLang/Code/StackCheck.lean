/-
The stack check.

Code has no jumps, so one pass over it sees every stack height that a run can reach.

* **`Decoded.stackCheck`**: follows the height of the stack through code, and finds the
  first instruction that would take more values than there are or leave more than the
  capacity.
* **`stackCheck`**: the check of a whole code from a given height.
* **`wrappingStackCheck`**: the same check with heights that are words, as they are for a caller
  that starts from a height of its own.

Design notes.

* An instruction's operands are taken before its result is put on the stack, so only the
  height after it is compared with the capacity.
* The check is exact.  Words differ from it in one case only: a value on top of the largest
  height gives the height zero, which is within every capacity.  From an empty stack no code
  that fits in memory comes to that, so a unit is checked with exact heights.
-/
import StackLang.Code.Encoding

namespace StackLang

/-- Why code does not pass the check. -/
inductive StackCheckError where
  | decode (error : DecodeError)
  /-- The instruction at the offset takes more values than there are. -/
  | underflow (offset : Nat) (opcode : Opcode) (needed : Nat)
  /-- The instruction at the offset leaves more values than fit. -/
  | overflow (offset : Nat) (capacity : Nat)
deriving DecidableEq, Repr

/-- The wording of the error. -/
def StackCheckError.message (e : StackCheckError) : String :=
  "stack-check error: " ++
    match e with
    | decode error => error.message
    | underflow offset opcode needed =>
      "stack underflow at offset " ++ toString offset ++ ", " ++ opcode.mnemonic ++ " needs " ++
        toString needed ++ " items"
    | overflow offset capacity =>
      "stack would exceed " ++ toString capacity ++ " entries at offset " ++ toString offset

/-- The height after the last instruction, for a stack of the given height and capacity. -/
def Decoded.stackCheck (capacity : Nat) : Nat → Decoded → Except StackCheckError Nat
  | height, done => .ok height
  | _, fault e => .error (.decode e)
  | height, step offset i rest =>
    if height < i.pops then .error (.underflow offset i.opcode i.pops)
    else
      let after := height - i.pops + i.pushes
      if capacity < after then .error (.overflow offset capacity)
      else rest.stackCheck capacity after

/-- The height that code leaves, for a stack of the given height and capacity. -/
def stackCheck (code : Bytes) (height capacity : Nat) : Except StackCheckError Nat :=
  (decodeAll code).stackCheck capacity height

/-- The height after an instruction whose operands are there, as a word. -/
def Instruction.heightAfter (i : Instruction) (height : UInt64) : UInt64 :=
  height - .ofNat i.pops + .ofNat i.pushes

/-- The height after the last instruction, with heights that are words. -/
def Decoded.wrappingStackCheck (capacity : UInt64) :
    UInt64 → Decoded → Except StackCheckError UInt64
  | height, done => .ok height
  | _, fault e => .error (.decode e)
  | height, step offset i rest =>
    if height.toNat < i.pops then .error (.underflow offset i.opcode i.pops)
    else if capacity < i.heightAfter height then .error (.overflow offset capacity.toNat)
    else rest.wrappingStackCheck capacity (i.heightAfter height)

/-- The height that code leaves, with heights that are words. -/
def wrappingStackCheck (code : Bytes) (height capacity : UInt64) :
    Except StackCheckError UInt64 :=
  (decodeAll code).wrappingStackCheck capacity height

end StackLang
