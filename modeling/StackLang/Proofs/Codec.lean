/-
The byte format loses nothing and invents nothing.

An instruction is read back from its bytes whatever follows them (`decode_encode`), and
bytes that read as an instruction are the bytes of that instruction (`eq_encode_of_decode`).
Both facts carry over to whole codes:

* `ofBytes_induction`: an instruction that was read ends where the next one starts;
* `ofBytes_assemble_append`: reading the bytes of a sequence of instructions gives these
  instructions, each at the offset where its bytes start, and goes on with what follows;
* `assemble_of_lines_ofBytes`: what was read, assembled again, is the code;
* `decodeAll_assemble_bijection`: codes that can be read and sequences of instructions
  correspond one to one.

Design notes: `Decoded.prepend` puts a sequence of instructions in front of code that was
read already.  Statements about compiled code are made about it, with an arbitrary rest, so
that they compose.
-/
import Mathlib.Algebra.GroupWithZero.Nat
import Mathlib.Tactic.Common
import StackLang.Code.Encoding

namespace StackLang

/-! ### Bytes of opcodes and operands -/

theorem Opcode.byte_of_ofByte? {byte : UInt8} {op : Opcode} (h : ofByte? byte = some op) :
    op.byte = byte := by
  have hall : ∀ n (hn : n < all.length), (all[n]).byte = UInt8.ofNat n := by decide
  obtain ⟨hlt, hget⟩ := List.getElem?_eq_some_iff.mp h
  rw [← hget, hall _ hlt, UInt8.ofNat_toNat]

theorem readOpcode_byte (offset : Nat) (op : Opcode) (rest : Bytes) :
    readOpcode offset (op.byte :: rest) = .ok (op, rest) := by
  rw [readOpcode, Opcode.ofByte?_byte]

theorem eq_byte_of_readOpcode {offset : Nat} {bytes rest : Bytes} {op : Opcode}
    (h : readOpcode offset bytes = .ok (op, rest)) : bytes = op.byte :: rest := by
  cases bytes with
  | nil => cases h
  | cons byte tail =>
    rw [readOpcode] at h
    split at h
    · rename_i hbyte
      cases h
      rw [Opcode.byte_of_ofByte? hbyte]
    · cases h

theorem readOperand_operandBytes (offset : Nat) (operand : UInt32) (rest : Bytes) :
    readOperand offset (operandBytes operand ++ rest) = .ok (operand, rest) := by
  have hlt := operand.toNat_lt
  have hvalue : operand.toNat / 0x1000000 % 256 * 0x1000000 +
      operand.toNat / 0x10000 % 256 * 0x10000 + operand.toNat / 0x100 % 256 * 0x100 +
      operand.toNat % 256 = operand.toNat := by
    omega
  simp only [operandBytes, List.cons_append, List.nil_append, readOperand, UInt8.toNat_ofNat',
    Nat.reducePow, hvalue, UInt32.ofNat_toNat]

theorem eq_operandBytes_of_readOperand {offset : Nat} {bytes rest : Bytes} {operand : UInt32}
    (h : readOperand offset bytes = .ok (operand, rest)) :
    bytes = operandBytes operand ++ rest := by
  unfold readOperand at h
  split at h
  · rename_i a b c d tail
    cases h
    have ha := a.toNat_lt
    have hb := b.toNat_lt
    have hc := c.toNat_lt
    have hd := d.toNat_lt
    -- the word is below `2 ^ 32`, so its digits in base 256 are the four bytes
    set word := a.toNat * 0x1000000 + b.toNat * 0x10000 + c.toNat * 0x100 + d.toNat with hword
    have hlt : word < UInt32.size := by
      rw [UInt32.size]
      omega
    have hbyte : ∀ (x : UInt8) (n : Nat), n % 256 = x.toNat → UInt8.ofNat n = x := by
      intro x n hn
      rw [← UInt8.toNat_inj, UInt8.toNat_ofNat']
      exact hn
    rw [operandBytes, UInt32.toNat_ofNat_of_lt' hlt, hbyte a _ (by omega), hbyte b _ (by omega),
      hbyte c _ (by omega), hbyte d _ (by omega)]
    rfl
  · cases h

theorem BinaryOp.ofOpcode?_opcode (op : BinaryOp) : ofOpcode? op.opcode = some op := by
  cases op <;> rfl

theorem BinaryOp.opcode_of_ofOpcode? {opcode : Opcode} {op : BinaryOp}
    (h : ofOpcode? opcode = some op) : op.opcode = opcode := by
  cases opcode <;> cases h <;> rfl

theorem UnaryOp.ofOpcode?_opcode (op : UnaryOp) : ofOpcode? op.opcode = some op := by
  cases op <;> rfl

theorem UnaryOp.opcode_of_ofOpcode? {opcode : Opcode} {op : UnaryOp}
    (h : ofOpcode? opcode = some op) : op.opcode = opcode := by
  cases opcode <;> cases h <;> rfl

/-! ### One instruction -/

/-- An instruction is read back from its bytes, and what follows them is left. -/
theorem decode_encode (offset : Nat) (i : Instruction) (rest : Bytes) :
    decode offset (i.encode ++ rest) = .ok (i, rest) := by
  rw [Instruction.encode, List.cons_append, decode, readOpcode_byte]
  -- by the layout: an opcode with an operand, a marker with an operation, or one byte alone
  cases i with
  | pushNumber operand | pushConst operand | store operand | load operand =>
    simp only [Instruction.opcode, Instruction.payload, Opcode.isMarker, readUnmarked,
      Instruction.ofOperand?, readOperand_operandBytes, Bool.false_eq_true, if_false]
  | pushBool value => cases value <;> rfl
  | binary op =>
    simp only [Instruction.opcode, Instruction.payload, Opcode.isMarker, readMarked,
      List.cons_append, List.nil_append, readOpcode_byte, Instruction.ofMarker?,
      BinaryOp.ofOpcode?_opcode, Option.map_some, if_true]
  | unary op =>
    simp only [Instruction.opcode, Instruction.payload, Opcode.isMarker, readMarked,
      List.cons_append, List.nil_append, readOpcode_byte, Instruction.ofMarker?,
      UnaryOp.ofOpcode?_opcode, Option.map_some, if_true]
  | print => rfl

theorem encode_of_ofOperand? {opcode : Opcode} {make : UInt32 → Instruction}
    (h : Instruction.ofOperand? opcode = some make) (operand : UInt32) :
    (make operand).encode = opcode.byte :: operandBytes operand := by
  cases opcode <;> cases h <;> rfl

theorem encode_of_ofMarker? {marker operation : Opcode} {i : Instruction}
    (h : Instruction.ofMarker? marker operation = some i) :
    i.encode = [marker.byte, operation.byte] := by
  unfold Instruction.ofMarker? at h
  -- the two markers of operations, then the two booleans behind theirs
  split at h
  · obtain ⟨op, hop, rfl⟩ := Option.map_eq_some_iff.mp h
    rw [← BinaryOp.opcode_of_ofOpcode? hop]
    rfl
  · obtain ⟨op, hop, rfl⟩ := Option.map_eq_some_iff.mp h
    rw [← UnaryOp.opcode_of_ofOpcode? hop]
    rfl
  · cases h
    rfl
  · cases h
    rfl
  · cases h

theorem eq_encode_of_readMarked {marker : Opcode} {offset : Nat} {bytes rest : Bytes}
    {i : Instruction} (h : readMarked marker offset bytes = .ok (i, rest)) :
    marker.byte :: bytes = i.encode ++ rest := by
  rw [readMarked] at h
  split at h
  · cases h
  · rename_i operation tail hread
    split at h
    · rename_i hmarker
      cases h
      rw [encode_of_ofMarker? hmarker, eq_byte_of_readOpcode hread]
      rfl
    · cases h

theorem eq_encode_of_readUnmarked {opcode : Opcode} {offset : Nat} {bytes rest : Bytes}
    {i : Instruction} (h : readUnmarked opcode offset bytes = .ok (i, rest)) :
    opcode.byte :: bytes = i.encode ++ rest := by
  rw [readUnmarked] at h
  split at h
  · rename_i make hmake
    split at h
    · cases h
    · rename_i operand tail hread
      cases h
      rw [encode_of_ofOperand? hmake, eq_operandBytes_of_readOperand hread]
      rfl
  · split at h
    · rename_i hprint
      cases h
      rw [hprint]
      rfl
    · cases h

/-- Bytes that read as an instruction start with the bytes of that instruction. -/
theorem eq_encode_of_decode {offset : Nat} {bytes rest : Bytes} {i : Instruction}
    (h : decode offset bytes = .ok (i, rest)) : bytes = i.encode ++ rest := by
  rw [decode] at h
  split at h
  · cases h
  · rename_i opcode tail hread
    rw [eq_byte_of_readOpcode hread]
    split at h
    · exact eq_encode_of_readMarked h
    · exact eq_encode_of_readUnmarked h

/-- Reading an instruction takes as many bytes as it is wide. -/
theorem length_sub_length_of_decode {offset : Nat} {bytes rest : Bytes} {i : Instruction}
    (h : decode offset bytes = .ok (i, rest)) : bytes.length - rest.length = i.width := by
  rw [eq_encode_of_decode h, List.length_append, Nat.add_sub_cancel, Instruction.length_encode]

/-! ### Whole codes -/

@[simp]
theorem assemble_nil : assemble [] = [] :=
  rfl

@[simp]
theorem assemble_cons (i : Instruction) (code : List Instruction) :
    assemble (i :: code) = i.encode ++ assemble code :=
  rfl

theorem assemble_append (code₁ code₂ : List Instruction) :
    assemble (code₁ ++ code₂) = assemble code₁ ++ assemble code₂ :=
  List.flatMap_append

theorem length_assemble (code : List Instruction) :
    (assemble code).length = (code.map Instruction.width).sum := by
  induction code with
  | nil => rfl
  | cons i code ih =>
    rw [assemble_cons, List.length_append, Instruction.length_encode, ih, List.map_cons,
      List.sum_cons]

namespace Decoded

/-- Code that was read, with a sequence of instructions in front of it, the first of them at
the given offset. -/
def prepend (offset : Nat) : List Instruction → Decoded → Decoded
  | [], rest => rest
  | i :: code, rest => step offset i (prepend (offset + i.width) code rest)

@[simp]
theorem prepend_nil (offset : Nat) (rest : Decoded) : prepend offset [] rest = rest :=
  rfl

@[simp]
theorem prepend_cons (offset : Nat) (i : Instruction) (code : List Instruction)
    (rest : Decoded) :
    prepend offset (i :: code) rest = step offset i (prepend (offset + i.width) code rest) :=
  rfl

theorem prepend_append (offset : Nat) (first second : List Instruction) (rest : Decoded) :
    prepend offset (first ++ second) rest =
      prepend offset first
        (prepend (offset + (first.map Instruction.width).sum) second rest) := by
  induction first generalizing offset with
  | nil => rfl
  | cons i first ih =>
    rw [List.cons_append, prepend_cons, prepend_cons, ih, List.map_cons, List.sum_cons,
      Nat.add_assoc]

theorem ofBytes_nil (offset : Nat) : ofBytes offset [] = done := by
  rw [ofBytes, if_pos rfl]

theorem ofBytes_of_error {offset : Nat} {bytes : Bytes} {e : DecodeError} (hne : bytes ≠ [])
    (h : decode offset bytes = .error e) : ofBytes offset bytes = fault e := by
  rw [ofBytes, if_neg hne]
  split
  · rename_i e' he'
    rw [h] at he'
    cases he'
    rfl
  · rename_i i rest hok
    rw [h] at hok
    cases hok

theorem ofBytes_of_ok {offset : Nat} {bytes rest : Bytes} {i : Instruction}
    (h : decode offset bytes = .ok (i, rest)) :
    ofBytes offset bytes = step offset i (ofBytes (offset + i.width) rest) := by
  have hne : bytes ≠ [] := by
    rintro rfl
    exact absurd (length_decode h) (Nat.not_lt_zero _)
  rw [ofBytes, if_neg hne]
  split
  · rename_i e he
    rw [h] at he
    cases he
  · rename_i j tail hj
    rw [h] at hj
    cases hj
    rw [length_sub_length_of_decode h]

/-- Induction along the bytes: there are none, no instruction starts there, or one does and
the rest begins where it ends. -/
@[elab_as_elim]
theorem ofBytes_induction {motive : Nat → Bytes → Prop} (done : ∀ offset, motive offset [])
    (fault : ∀ offset bytes, bytes ≠ [] → ∀ e, decode offset bytes = .error e →
      motive offset bytes)
    (step : ∀ offset bytes i rest, decode offset bytes = .ok (i, rest) →
      motive (offset + i.width) rest → motive offset bytes)
    (offset : Nat) (bytes : Bytes) : motive offset bytes := by
  induction offset, bytes using ofBytes.induct with
  | case1 offset => exact done offset
  | case2 offset bytes hne e he => exact fault offset bytes hne e he
  | case3 offset bytes _ i rest hread _ ih =>
    rw [length_sub_length_of_decode hread] at ih
    exact step offset bytes i rest hread ih

/-- Reading the bytes of a sequence of instructions gives these instructions, and goes on
with what follows. -/
theorem ofBytes_assemble_append (offset : Nat) (code : List Instruction) (rest : Bytes) :
    ofBytes offset (assemble code ++ rest) =
      prepend offset code (ofBytes (offset + (assemble code).length) rest) := by
  induction code generalizing offset with
  | nil => rfl
  | cons i code ih =>
    rw [assemble_cons, List.append_assoc, ofBytes_of_ok (decode_encode offset i _), ih,
      prepend_cons, List.length_append, Instruction.length_encode, Nat.add_assoc]

/-- The instructions with the offsets where their bytes start. -/
def located (offset : Nat) : List Instruction → List (Nat × Instruction)
  | [] => []
  | i :: code => (offset, i) :: located (offset + i.width) code

theorem map_snd_located (offset : Nat) (code : List Instruction) :
    (located offset code).map Prod.snd = code := by
  induction code generalizing offset with
  | nil => rfl
  | cons i code ih => rw [located, List.map_cons, ih]

/-- An instruction starts where the instructions in front of it end. -/
theorem located_eq_mapIdx (offset : Nat) (code : List Instruction) :
    located offset code =
      code.mapIdx fun k i => (offset + ((code.take k).map Instruction.width).sum, i) := by
  induction code generalizing offset with
  | nil => rfl
  | cons i code ih =>
    rw [located, ih, List.mapIdx_cons]
    refine congrArg₂ _ rfl (List.mapIdx_eq_mapIdx_iff.mpr fun k hk => ?_)
    rw [List.take_succ_cons, List.map_cons, List.sum_cons, Nat.add_assoc]

theorem lines_prepend_done (offset : Nat) (code : List Instruction) :
    (prepend offset code done).lines = .ok (located offset code) := by
  induction code generalizing offset with
  | nil => rfl
  | cons i code ih =>
    rw [prepend_cons, lines, ih]
    rfl

/-- What was read, assembled again, is the code. -/
theorem assemble_of_lines_ofBytes {offset : Nat} {bytes : Bytes}
    {lines : List (Nat × Instruction)} (h : (ofBytes offset bytes).lines = .ok lines) :
    assemble (lines.map Prod.snd) = bytes := by
  -- along the recursion of the reader: a step takes exactly the bytes of one instruction
  induction offset, bytes using ofBytes_induction generalizing lines with
  | done offset =>
    rw [ofBytes_nil] at h
    cases h
    rfl
  | fault offset bytes hne e he =>
    rw [ofBytes_of_error hne he] at h
    cases h
  | step offset bytes i rest hread ih =>
    rw [ofBytes_of_ok hread, Decoded.lines] at h
    cases htail : (ofBytes (offset + i.width) rest).lines with
    | error e =>
      rw [htail] at h
      cases h
    | ok tail =>
      rw [htail] at h
      cases h
      rw [List.map_cons, assemble_cons, ih htail, eq_encode_of_decode hread]

end Decoded

theorem decodeAll_assemble (code : List Instruction) :
    decodeAll (assemble code) = Decoded.prepend 0 code .done := by
  have h := Decoded.ofBytes_assemble_append 0 code []
  rw [List.append_nil, Decoded.ofBytes_nil] at h
  exact h

theorem lines_decodeAll_assemble (code : List Instruction) :
    (decodeAll (assemble code)).lines = .ok (Decoded.located 0 code) := by
  rw [decodeAll_assemble, Decoded.lines_prepend_done]

theorem assemble_injective : Function.Injective assemble := by
  intro code code' h
  have hlines := lines_decodeAll_assemble code
  rw [h, lines_decodeAll_assemble code'] at hlines
  have hlocated := congrArg (List.map Prod.snd) (Except.ok.inj hlines)
  rw [Decoded.map_snd_located, Decoded.map_snd_located] at hlocated
  exact hlocated.symm

/-- **Codes that can be read and sequences of instructions correspond one to one.**  A
sequence of instructions is read back from its bytes, each instruction at the sum of the
widths of those in front of it; what was read, assembled again, is the code byte for byte; so
a code can be read exactly if it is the code of a sequence, and of one sequence only. -/
theorem decodeAll_assemble_bijection :
    (∀ code : List Instruction,
      (decodeAll (assemble code)).lines =
        .ok (code.mapIdx fun k i => (((code.take k).map Instruction.width).sum, i))) ∧
    (∀ (bytes : Bytes) (lines : List (Nat × Instruction)),
      (decodeAll bytes).lines = .ok lines → assemble (lines.map Prod.snd) = bytes) ∧
    ∀ bytes : Bytes,
      (∃ lines, (decodeAll bytes).lines = .ok lines) ↔ ∃! code, assemble code = bytes := by
  refine ⟨?_, ?_, ?_⟩
  · intro code
    rw [lines_decodeAll_assemble, Decoded.located_eq_mapIdx]
    simp only [Nat.zero_add]
  · intro bytes lines h
    exact Decoded.assemble_of_lines_ofBytes h
  · intro bytes
    constructor
    · rintro ⟨lines, h⟩
      have hcode := Decoded.assemble_of_lines_ofBytes h
      refine ⟨lines.map Prod.snd, hcode, ?_⟩
      intro code' h'
      exact assemble_injective (h'.trans hcode.symm)
    · rintro ⟨code, rfl, -⟩
      exact ⟨_, lines_decodeAll_assemble code⟩

/-- A number that is none, with a payload whose bytes look like print instructions, and a
print instruction: the code is read as these two and assembled again from them. -/
theorem assemble_payload_print :
    (decodeAll [0, 0x7f, 0xa0, 25, 25, 25]).lines =
        .ok [(0, .pushNumber ⟨0x7fa01919⟩), (5, .print)] ∧
      assemble [.pushNumber ⟨0x7fa01919⟩, .print] = [0, 0x7f, 0xa0, 25, 25, 25] := by
  have hlines : (decodeAll [0, 0x7f, 0xa0, 25, 25, 25]).lines =
      .ok [(0, .pushNumber ⟨0x7fa01919⟩), (5, .print)] := by
    decide +kernel
  exact ⟨hlines, decodeAll_assemble_bijection.2.1 _ _ hlines⟩

end StackLang
