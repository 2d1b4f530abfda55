/-
Errors of a run.

* **`RunError`**: everything that ends a run before the end of its code.
* **`RunError.message`**: the wording of an error.

Design notes.

* Code that does not decode is found by the stack check before anything runs.  An unknown
  opcode is then reported in the words of a run.
-/
import StackLang.Code.StackCheck
import StackLang.Output
import StackLang.Value

namespace StackLang

/-- Why a run ended before the end of its code. -/
inductive RunError where
  | unknownOpcode (byte : UInt8) (offset : Nat)
  | decode (error : DecodeError)
  | divisionByZero (offset : Nat)
  | stackOverflow (offset capacity : Nat)
  | stackUnderflow (offset : Nat)
  | typeMismatch (offset : Nat) (op : Opcode) (expected found : ValueType)
  | constantOutOfRange (offset : Nat) (index : UInt32)
  | slotOutOfRange (offset : Nat) (slot : UInt32) (capacity : UInt64)
  | output (error : IoError)
  | stepLimit (limit : Nat)
  | stackCheck (error : StackCheckError)
deriving DecidableEq, Repr

namespace RunError

/-- The wording of the error. -/
def message (e : RunError) : String :=
  "runtime error: " ++
    match e with
    | unknownOpcode byte offset => (DecodeError.unknownOpcode byte offset).message
    | decode error => error.message
    | divisionByZero offset => "division by zero at offset " ++ toString offset
    | stackOverflow offset capacity =>
      "stack overflow (" ++ toString capacity ++ " entries) at offset " ++ toString offset
    | stackUnderflow offset => "stack underflow at offset " ++ toString offset
    | typeMismatch offset op expected found =>
      "type error at offset " ++ toString offset ++ ": " ++ op.mnemonic ++ " expected " ++
        expected.name ++ ", got " ++ found.name
    | constantOutOfRange offset index =>
      "constant " ++ toString index.toNat ++ " out of range at offset " ++ toString offset
    | slotOutOfRange offset slot capacity =>
      "slot " ++ toString slot.toNat ++ " beyond capacity " ++ toString capacity.toNat ++
        " at offset " ++ toString offset
    | output error => "cannot write output: " ++ error.message
    | stepLimit limit => "execution step limit exceeded (" ++ toString limit ++ ")"
    | stackCheck error => error.message

/-- The error of a run that meets code that does not decode. -/
def ofDecode : DecodeError → RunError
  | .unknownOpcode byte offset => unknownOpcode byte offset
  | error => decode error

/-- The error of a run whose code does not pass the stack check. -/
def ofStackCheck : StackCheckError → RunError
  | .decode error => ofDecode error
  | error => stackCheck error

end RunError

end StackLang
