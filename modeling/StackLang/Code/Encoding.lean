/-
The byte format of code.

An instruction is its opcode, followed by a four-byte operand, most significant byte first,
or by one more opcode if the first is a marker.  The opcode alone says how many bytes
follow, so code needs no lengths.

* **`Instruction.encode`**, **`assemble`**: the bytes of an instruction, and of a sequence
  of them.
* **`decode`**: the instruction at the head of some bytes, and the bytes after it.
* **`Decoded`**: code as it is read from a given offset on: instructions with their offsets,
  up to the end of the bytes or to the first place that does not decode.

Design notes.

* Offsets are only carried along for messages; `decode` looks at the bytes in front of it
  and at nothing else.  The next offset is as much further as bytes were taken.
* Everything that walks over code is a recursion on `Decoded`.
-/
import StackLang.Code.Instruction
import StackLang.Text.Bytes
import StackLang.Text.Padding

namespace StackLang

/-- Why bytes are no instruction. -/
inductive DecodeError where
  /-- No instruction starts with this byte, or no opcode has it. -/
  | unknownOpcode (byte : UInt8) (offset : Nat)
  /-- The opcode after a marker names no operation of that marker. -/
  | invalidSubOpcode (marker : Opcode) (byte : UInt8) (offset : Nat)
  /-- Bytes are missing from this offset on. -/
  | unexpectedEnd (offset : Nat)
deriving DecidableEq, Repr

/-- The wording of the error. -/
def DecodeError.message : DecodeError → String
  | unknownOpcode byte offset =>
    "unknown opcode " ++ Text.hexByte byte ++ " at offset " ++ toString offset
  | invalidSubOpcode marker byte offset =>
    "invalid " ++ marker.mnemonic ++ " sub-opcode " ++ Text.hexByte byte ++ " at offset " ++
      toString offset
  | unexpectedEnd offset => "unexpected end of bytecode at offset " ++ toString offset

/-! ### Writing -/

/-- The four bytes of an operand, most significant first. -/
def operandBytes (operand : UInt32) : Bytes :=
  [UInt8.ofNat (operand.toNat / 0x1000000), UInt8.ofNat (operand.toNat / 0x10000),
    UInt8.ofNat (operand.toNat / 0x100), UInt8.ofNat operand.toNat]

namespace Instruction

/-- The bytes after the leading opcode. -/
def payload : Instruction → Bytes
  | pushNumber value => operandBytes value.bits
  | pushConst index => operandBytes index
  | pushBool value => [if value then Opcode.trueValue.byte else Opcode.falseValue.byte]
  | binary op => [op.opcode.byte]
  | unary op => [op.opcode.byte]
  | store slot => operandBytes slot
  | load slot => operandBytes slot
  | print => []

/-- The bytes of the instruction. -/
def encode (i : Instruction) : Bytes :=
  i.opcode.byte :: i.payload

/-- Number of bytes of the instruction. -/
def width (i : Instruction) : Nat :=
  if i.opcode.isMarker then 2 else 1 + 4 * i.opcode.operandCount

theorem length_encode (i : Instruction) : i.encode.length = i.width := by
  cases i <;> rfl

end Instruction

/-- The bytes of a sequence of instructions. -/
def assemble (code : List Instruction) : Bytes :=
  code.flatMap Instruction.encode

/-! ### Reading -/

/-- The four-byte operand at the head of the bytes, and the bytes after it. -/
def readOperand (offset : Nat) : Bytes → Except DecodeError (UInt32 × Bytes)
  | a :: b :: c :: d :: rest =>
    .ok (UInt32.ofNat (a.toNat * 0x1000000 + b.toNat * 0x10000 + c.toNat * 0x100 + d.toNat), rest)
  | _ => .error (.unexpectedEnd offset)

/-- The opcode at the head of the bytes, and the bytes after it. -/
def readOpcode (offset : Nat) : Bytes → Except DecodeError (Opcode × Bytes)
  | [] => .error (.unexpectedEnd offset)
  | byte :: rest =>
    match Opcode.ofByte? byte with
    | some opcode => .ok (opcode, rest)
    | none => .error (.unknownOpcode byte offset)

/-- The instruction that an opcode makes of a four-byte operand, for the opcodes that have
one. -/
def Instruction.ofOperand? : Opcode → Option (UInt32 → Instruction)
  | .pushNumber => some fun operand => .pushNumber ⟨operand⟩
  | .pushConst => some .pushConst
  | .store => some .store
  | .load => some .load
  | _ => none

/-- The instruction that a marker makes of the opcode after it. -/
def Instruction.ofMarker? : Opcode → Opcode → Option Instruction
  | .binary, operation => (BinaryOp.ofOpcode? operation).map .binary
  | .unary, operation => (UnaryOp.ofOpcode? operation).map .unary
  | .bool, .trueValue => some (.pushBool true)
  | .bool, .falseValue => some (.pushBool false)
  | _, _ => none

/-- Goes on after a marker: the bytes start with the opcode that names the operation. -/
def readMarked (marker : Opcode) (offset : Nat) (bytes : Bytes) :
    Except DecodeError (Instruction × Bytes) :=
  match readOpcode offset bytes with
  | .error e => .error e
  | .ok (operation, rest) =>
    match Instruction.ofMarker? marker operation with
    | some i => .ok (i, rest)
    | none => .error (.invalidSubOpcode marker operation.byte offset)

/-- Goes on after an opcode that is no marker.  An operation without its marker is no
instruction. -/
def readUnmarked (opcode : Opcode) (offset : Nat) (bytes : Bytes) :
    Except DecodeError (Instruction × Bytes) :=
  match Instruction.ofOperand? opcode with
  | some make =>
    match readOperand (offset + 1) bytes with
    | .error e => .error e
    | .ok (operand, rest) => .ok (make operand, rest)
  | none =>
    if opcode = .print then .ok (.print, bytes) else .error (.unknownOpcode opcode.byte offset)

/-- The instruction at the head of the bytes, and the bytes after it. -/
def decode (offset : Nat) (bytes : Bytes) : Except DecodeError (Instruction × Bytes) :=
  match readOpcode offset bytes with
  | .error e => .error e
  | .ok (opcode, rest) =>
    if opcode.isMarker then readMarked opcode (offset + 1) rest
    else readUnmarked opcode offset rest

/-! ### Reading takes bytes -/

theorem length_readOpcode {offset : Nat} {bytes rest : Bytes} {opcode : Opcode}
    (h : readOpcode offset bytes = .ok (opcode, rest)) : rest.length < bytes.length := by
  cases bytes with
  | nil => cases h
  | cons byte tail =>
    rw [readOpcode] at h
    split at h
    · cases h
      exact Nat.lt_succ_self _
    · cases h

theorem length_readOperand {offset : Nat} {bytes rest : Bytes} {operand : UInt32}
    (h : readOperand offset bytes = .ok (operand, rest)) : rest.length < bytes.length := by
  unfold readOperand at h
  split at h
  · cases h
    simp only [List.length_cons]
    omega
  · cases h

theorem length_readMarked {marker : Opcode} {offset : Nat} {bytes rest : Bytes}
    {i : Instruction} (h : readMarked marker offset bytes = .ok (i, rest)) :
    rest.length < bytes.length := by
  rw [readMarked] at h
  split at h
  · cases h
  · rename_i hread
    split at h
    · cases h
      exact length_readOpcode hread
    · cases h

theorem length_readUnmarked {opcode : Opcode} {offset : Nat} {bytes rest : Bytes}
    {i : Instruction} (h : readUnmarked opcode offset bytes = .ok (i, rest)) :
    rest.length ≤ bytes.length := by
  rw [readUnmarked] at h
  split at h
  · split at h
    · cases h
    · rename_i hread
      cases h
      exact Nat.le_of_lt (length_readOperand hread)
  · split at h
    · cases h
      exact Nat.le_refl _
    · cases h

/-- An instruction takes at least one byte. -/
theorem length_decode {offset : Nat} {bytes rest : Bytes} {i : Instruction}
    (h : decode offset bytes = .ok (i, rest)) : rest.length < bytes.length := by
  rw [decode] at h
  split at h
  · cases h
  · rename_i hread
    have hopcode := length_readOpcode hread
    split at h
    · exact Nat.lt_trans (length_readMarked h) hopcode
    · exact Nat.lt_of_le_of_lt (length_readUnmarked h) hopcode

/-! ### Code as a whole -/

/-- Code as it is read: instructions with their offsets, up to the end or to the first place
that does not decode. -/
inductive Decoded where
  | done
  | fault (error : DecodeError)
  | step (offset : Nat) (i : Instruction) (rest : Decoded)
deriving DecidableEq, Repr

namespace Decoded

/-- Reads code whose first byte has the given offset. -/
def ofBytes (offset : Nat) (bytes : Bytes) : Decoded :=
  if bytes = [] then done
  else
    match h : decode offset bytes with
    | .error e => fault e
    | .ok (i, rest) =>
      have : rest.length < bytes.length := length_decode h
      step offset i (ofBytes (offset + (bytes.length - rest.length)) rest)
termination_by bytes.length

/-- All instructions with their offsets, or the first error. -/
def lines : Decoded → Except DecodeError (List (Nat × Instruction))
  | done => .ok []
  | fault e => .error e
  | step offset i rest => rest.lines.map ((offset, i) :: ·)

end Decoded

/-- Reads a whole code. -/
def decodeAll (code : Bytes) : Decoded :=
  .ofBytes 0 code

end StackLang
